import CatalogSearch.Setting
import CatalogSearch.Text.Blank
import CatalogSearch.Text.Split
/-!
Paths into a tree of settings: how a name is read as steps through tables and lists, and how a value is
written where they lead.
-/
namespace CatalogSearch.Setting

def items : Setting → List Setting
  | .list xs => xs
  | _ => []

/-- Changes the item at a place; a negative place counts from the end. A list that is too short grows by
nulls, on the side that the place lies on. -/
def modifyItem (items : List Setting) (place : Int) (change : Setting → Setting) : List Setting :=
  let grown : List Setting :=
    if place < 0 then List.replicate (place.natAbs - items.length) .null ++ items
    else items ++ List.replicate (place.natAbs + 1 - items.length) .null
  grown.modify (if place < 0 then grown.length - place.natAbs else place.natAbs) change

inductive Step where
  | key (name : String)
  | place (n : Int)
deriving DecidableEq, Repr

/-- Writes where the steps lead. What does not have the kind that a step asks for makes way for one that
has. A table is written over an old table; at a place of a list it replaces the item. -/
def put (target : Setting) (value : Setting) : List Step → Setting
  | [] => target
  | [.key key] => set target key value
  | [.place n] => .list (modifyItem target.items n fun _ => value)
  | .key key :: steps =>
    let old := (target.get? (lowered key)).getD .null
    .table (Table.insert target.entries (lowered key) (put old value steps))
  | .place n :: steps => .list (modifyItem target.items n fun old => put old value steps)

def isKeyChar (c : Char) : Bool := c.isAlphanum || c == '_' || c == '-' || c == ' '

def place? (s : List Char) : Option Int :=
  let digits := ((s.dropWhile Text.isSpace).reverse.dropWhile Text.isSpace).reverse
  if digits.head? = some '+' then none else Numeral.int64? digits

def step? : List Char → Option (Step × List Char)
  | '.' :: rest =>
    let key := rest.takeWhile isKeyChar
    if key.isEmpty then none else some (.key (String.ofList key), rest.dropWhile isKeyChar)
  | '[' :: rest => do
    let (inside, after) ← Text.cut ']' rest
    let n ← place? inside
    pure (.place n, after)
  | _ => none

theorem length_lt_of_step? {s after : List Char} {x : Step} (h : step? s = some (x, after)) :
    after.length < s.length := by
  unfold step? at h
  split at h
  · next rest =>
    simp only at h
    split at h
    · simp at h
    · have hd := (List.dropWhile_sublist (l := rest) isKeyChar).length_le
      simp at h
      simp [← h.2]
      omega
  · next rest =>
    simp only [Option.bind_eq_bind, Option.bind_eq_some_iff] at h
    obtain ⟨⟨inside, tail⟩, hc, n, _, hp⟩ := h
    have ht := congrArg List.length (Text.cut_eq_some hc)
    simp at hp ht
    simp [← hp.2, ht]
    omega
  · simp at h

def steps? (s : List Char) : Option (List Step) :=
  match _h : step? s with
  | none => if s.isEmpty then some [] else none
  | some (x, after) => (steps? after).map (x :: ·)
termination_by s.length
decreasing_by exact length_lt_of_step? _h

/-- A name leads through the keys between its points and the places in its brackets, such as
`search.url` or `search[0]`. Any other name is a single key. -/
def path (name : String) : List Step := (steps? ('.' :: name.toList)).getD [.key name]

def layer (target : Setting) (entries : List (String × Setting)) : Setting :=
  entries.foldl (fun v (name, value) => put v value (path name)) target

end CatalogSearch.Setting
