import CatalogSearch.Json.Reader
/-!
The lexemes of a document. The main statement is `Progress.foldlM_lexemes`: wherever a value may begin, they are taken
as that document and nothing else.
-/
namespace CatalogSearch.Json

mutual

def lexemes : Document → List Lexeme
  | .string s => [.text s]
  | .array items => .openArray :: lexemesOfItems items ++ [.closeArray]
  | .object members => .openObject :: lexemesOfMembers members ++ [.closeObject]
  | .null => [.atom .null]
  | .bool b => [.atom (.bool b)]
  | .number l => [.atom (.number l)]

def lexemesOfItems : List Document → List Lexeme
  | [] => []
  | [d] => lexemes d
  | d :: rest => lexemes d ++ .comma :: lexemesOfItems rest

def lexemesOfMembers : List (Spelling × Document) → List Lexeme
  | [] => []
  | [(name, d)] => .text name :: .colon :: lexemes d
  | (name, d) :: rest => .text name :: .colon :: lexemes d ++ .comma :: lexemesOfMembers rest

end

def separated : List (List Lexeme) → List Lexeme
  | [] => []
  | [ls] => ls
  | ls :: rest => ls ++ .comma :: separated rest

theorem lexemesOfItems_eq (ds : List Document) : lexemesOfItems ds = separated (ds.map lexemes) := by
  induction ds with
  | nil => rfl
  | cons d rest ih =>
    cases rest with
    | nil => rfl
    | cons e rest => exact congrArg (fun ls => lexemes d ++ .comma :: ls) ih

theorem lexemesOfMembers_eq (written : List (Spelling × Document)) :
    lexemesOfMembers written = separated (written.map fun w => .text w.1 :: .colon :: lexemes w.2) := by
  induction written with
  | nil => rfl
  | cons w rest ih =>
    cases rest with
    | nil => rfl
    | cons e rest => exact congrArg (fun ls => .text w.1 :: .colon :: lexemes w.2 ++ .comma :: ls) ih

namespace Progress

theorem step?_item {frames : List Frame} {items : List Document} {canClose : Bool} {l : Lexeme}
    (h : l ≠ .closeArray) :
    step? ⟨frames, .item items canClose⟩ l = begin? (.array items :: frames) l := by
  cases canClose with
  | false => rfl
  | true =>
    cases l with
    | closeArray => exact absurd rfl h
    | _ => rfl

theorem foldlM_append_eq {p q : Progress} {ls ms : List Lexeme} (h : ls.foldlM step? p = some q) :
    (ls ++ ms).foldlM step? p = ms.foldlM step? q := by
  rw [List.foldlM_append, h]
  rfl

theorem foldlM_cons_eq {p q : Progress} {l : Lexeme} {ls : List Lexeme} (h : step? p l = some q) :
    (l :: ls).foldlM step? p = ls.foldlM step? q := by
  rw [List.foldlM_cons, h]
  rfl

mutual

/-- Where a value may begin, the lexemes of a document are taken as that document. A closing bracket is left out of
the condition: right after an opening one it is taken, but it begins no value. -/
theorem foldlM_lexemes (d : Document) {p : Progress} {frames : List Frame}
    (h : ∀ l, l ≠ .closeArray → p.step? l = begin? frames l) :
    (lexemes d).foldlM step? p = some (finish frames d) := by
  cases d with
  | array items =>
    have hopen : p.step? .openArray = some ⟨frames, .item [] true⟩ := h _ (by simp)
    rw [lexemes, List.cons_append, foldlM_cons_eq hopen]
    by_cases hne : items = []
    · rw [hne]
      rfl
    · rw [foldlM_append_eq (foldlM_lexemesOfItems items hne)]
      simp [step?]
  | object members =>
    have hopen : p.step? .openObject = some ⟨frames, .key [] true⟩ := h _ (by simp)
    rw [lexemes, List.cons_append, foldlM_cons_eq hopen]
    by_cases hne : members = []
    · rw [hne]
      rfl
    · rw [foldlM_append_eq (foldlM_lexemesOfMembers members hne)]
      simp [step?]
  | _ =>
    rw [lexemes, foldlM_cons_eq (h _ (by simp))]
    rfl

theorem foldlM_lexemesOfItems (ds : List Document) (hne : ds ≠ []) {frames : List Frame}
    {items : List Document} {canClose : Bool} :
    (lexemesOfItems ds).foldlM step? ⟨frames, .item items canClose⟩ =
      some ⟨frames, .itemEnd (ds.reverse ++ items)⟩ := by
  have hbegin (l : Lexeme) (hl : l ≠ .closeArray) :
      step? ⟨frames, .item items canClose⟩ l = begin? (.array items :: frames) l := step?_item hl
  match ds with
  | [] => exact absurd rfl hne
  | [d] => exact foldlM_lexemes d hbegin
  | d :: e :: rest =>
    have hcomma : step? ⟨frames, .itemEnd (d :: items)⟩ .comma = some ⟨frames, .item (d :: items) false⟩ := rfl
    rw [lexemesOfItems, foldlM_append_eq (foldlM_lexemes d hbegin), finish, foldlM_cons_eq hcomma,
      foldlM_lexemesOfItems (e :: rest) (List.cons_ne_nil e rest)]
    all_goals simp

theorem foldlM_lexemesOfMembers (written : List (Spelling × Document)) (hne : written ≠ []) {frames : List Frame}
    {members : List (Spelling × Document)} {canClose : Bool} :
    (lexemesOfMembers written).foldlM step? ⟨frames, .key members canClose⟩ =
      some ⟨frames, .memberEnd (written.reverse ++ members)⟩ := by
  have hname (name : Spelling) :
      step? ⟨frames, .key members canClose⟩ (.text name) = some ⟨frames, .colon members name⟩ := by
    cases canClose <;> rfl
  have hcolon (name : Spelling) :
      step? ⟨frames, .colon members name⟩ .colon = some ⟨frames, .member members name⟩ := rfl
  have hbegin (name : Spelling) (l : Lexeme) (_ : l ≠ .closeArray) :
      step? ⟨frames, .member members name⟩ l = begin? (.object members name :: frames) l := rfl
  match written with
  | [] => exact absurd rfl hne
  | [(name, d)] =>
    rw [lexemesOfMembers, foldlM_cons_eq (hname name), foldlM_cons_eq (hcolon name),
      foldlM_lexemes d (hbegin name)]
    rfl
  | (name, d) :: e :: rest =>
    have hcomma : step? ⟨frames, .memberEnd ((name, d) :: members)⟩ .comma =
        some ⟨frames, .key ((name, d) :: members) false⟩ := rfl
    rw [lexemesOfMembers, List.cons_append, List.cons_append, foldlM_cons_eq (hname name),
      foldlM_cons_eq (hcolon name), foldlM_append_eq (foldlM_lexemes d (hbegin name)), finish,
      foldlM_cons_eq hcomma, foldlM_lexemesOfMembers (e :: rest) (List.cons_ne_nil e rest)]
    all_goals simp

end

end Progress

theorem Document.read?_of_lexemes {text : String} {d : Document} (h : Lexeme.all? text.toList = some (lexemes d)) :
    Document.read? text = some d := by
  have hfold : (lexemes d).foldlM Progress.step? ⟨[], .document⟩ = some (Progress.finish [] d) :=
    Progress.foldlM_lexemes d fun _ _ => rfl
  simp only [Document.read?, h, hfold, Option.bind_eq_bind, Option.bind_some]
  rfl

end CatalogSearch.Json
