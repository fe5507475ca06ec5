import CatalogSearch.Number.Numeral
import CatalogSearch.Text.Blank
/-!
Texts in TOML: in double quotes with escapes or in single quotes without, on one line or, between quotes
three by three, on several. Lines end with a line feed.
-/
namespace CatalogSearch.Toml

def isControl (c : Char) : Bool := (c.toNat < 0x20 && c != '\t') || c.toNat == 0x7F

def scalar? (digits : List Char) : Option Char :=
  (Numeral.ofBase? 16 digits).bind fun n => if n.isValidChar then some (Char.ofNat n) else none

def escaped? : Char → Option Char
  | 'b' => some '\x08'
  | 't' => some '\t'
  | 'n' => some '\n'
  | 'f' => some '\x0c'
  | 'r' => some '\r'
  | '"' => some '"'
  | '\\' => some '\\'
  | _ => none

def escape? : List Char → Option (Char × List Char)
  | 'u' :: rest => if rest.length < 4 then none else (scalar? (rest.take 4)).map fun x => (x, rest.drop 4)
  | 'U' :: rest => if rest.length < 8 then none else (scalar? (rest.take 8)).map fun x => (x, rest.drop 8)
  | c :: rest => (escaped? c).map fun x => (x, rest)
  | [] => none

theorem length_escape? {s after : List Char} {x : Char} (h : escape? s = some (x, after)) :
    after.length < s.length := by
  have hlen {t : List Char} {o : Option Char} (ht : o.map (fun c => (c, t)) = some (x, after)) :
      after.length = t.length := by
    obtain ⟨_, _, hp⟩ := Option.map_eq_some_iff.1 ht
    rw [(Prod.mk.inj hp).2]
  unfold escape? at h
  split at h
  · split at h
    · exact absurd h (Option.some_ne_none _).symm
    · have ha := hlen h
      rw [List.length_drop] at ha
      rw [List.length_cons]
      omega
  · split at h
    · exact absurd h (Option.some_ne_none _).symm
    · have ha := hlen h
      rw [List.length_drop] at ha
      rw [List.length_cons]
      omega
  · have ha := hlen h
    rw [List.length_cons]
    omega
  · exact absurd h (Option.some_ne_none _).symm

def push (c : Char) (read : List Char × List Char) : List Char × List Char := (c :: read.1, read.2)

def basic? (s : List Char) : Option (List Char × List Char) :=
  match s with
  | [] => none
  | '"' :: rest => some ([], rest)
  | '\\' :: rest =>
    match _h : escape? rest with
    | none => none
    | some (x, after) => (basic? after).map (push x)
  | c :: rest => if isControl c then none else (basic? rest).map (push c)
termination_by s.length
decreasing_by
  · have := length_escape? _h
    simp
    omega
  · simp

def literal? : List Char → Option (List Char × List Char)
  | [] => none
  | '\'' :: rest => some ([], rest)
  | c :: rest => if isControl c then none else (literal? rest).map (push c)

/-- What follows three quotes. Up to two quotes more belong to the text that they close. -/
def closed (quote : Char) (rest : List Char) : List Char × List Char :=
  let more := (rest.takeWhile (· == quote)).take 2
  (more, rest.drop more.length)

/-- The rest of a text between double quotes three by three. A backslash at the end of a line joins it to
the next word. -/
def basicLines? (joining : Bool) (s : List Char) : Option (List Char × List Char) :=
  match s with
  | [] => none
  | '"' :: '"' :: '"' :: rest => some (closed '"' rest)
  | '\\' :: rest =>
    if (rest.dropWhile Text.isSpace).head? = some '\n' then basicLines? true rest
    else
      match _h : escape? rest with
      | none => none
      | some (x, after) => (basicLines? false after).map (push x)
  | c :: rest =>
    if joining && (Text.isSpace c || c == '\n') then basicLines? true rest
    else if isControl c && c != '\n' then none
    else (basicLines? false rest).map (push c)
termination_by s.length
decreasing_by
  · simp
  · have := length_escape? _h
    simp
    omega
  · simp
  · simp

def literalLines? : List Char → Option (List Char × List Char)
  | [] => none
  | '\'' :: '\'' :: '\'' :: rest => some (closed '\'' rest)
  | c :: rest => if isControl c && c != '\n' then none else (literalLines? rest).map (push c)

def dropLineEnd : List Char → List Char
  | '\n' :: rest => rest
  | s => s

def line? : List Char → Option (String × List Char)
  | '"' :: rest => (basic? rest).map fun (text, after) => (String.ofList text, after)
  | '\'' :: rest => (literal? rest).map fun (text, after) => (String.ofList text, after)
  | _ => none

def text? (s : List Char) : Option (String × List Char) :=
  match s with
  | '"' :: '"' :: '"' :: rest =>
    (basicLines? false (dropLineEnd rest)).map fun (text, after) => (String.ofList text, after)
  | '\'' :: '\'' :: '\'' :: rest =>
    (literalLines? (dropLineEnd rest)).map fun (text, after) => (String.ofList text, after)
  | s => line? s

end CatalogSearch.Toml
