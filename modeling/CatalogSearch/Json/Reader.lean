import CatalogSearch.Json.Document
import CatalogSearch.Number.Numeral
/-!
Reading JSON. A text is cut into lexemes, and a stack of open containers takes them one by one.
Blanks are space, tab, line feed and carriage return; nothing may follow the document.
-/
namespace CatalogSearch.Json

inductive Lexeme where
  | openArray | closeArray | openObject | closeObject | comma | colon
  | text (s : Spelling)
  | atom (d : Document)

namespace Lexeme

def isSpace (c : Char) : Bool := c == ' ' || c == '\t' || c == '\n' || c == '\r'

def escaped? : Char → Option Char
  | '"' => some '"'
  | '\\' => some '\\'
  | '/' => some '/'
  | 'b' => some '\x08'
  | 'f' => some '\x0c'
  | 'n' => some '\n'
  | 'r' => some '\r'
  | 't' => some '\t'
  | _ => none

def readText : List Char → Option (Spelling × List Char)
  | [] => none
  | '"' :: rest => some ([], rest)
  | '\\' :: 'u' :: a :: b :: c :: d :: rest => do
    let a ← Numeral.hexValue? a
    let b ← Numeral.hexValue? b
    let c ← Numeral.hexValue? c
    let d ← Numeral.hexValue? d
    let (units, after) ← readText rest
    pure (.code (((a * 16 + b) * 16 + c) * 16 + d) :: units, after)
  | '\\' :: c :: rest => do
    let c ← escaped? c
    let (units, after) ← readText rest
    pure (.char c :: units, after)
  | c :: rest =>
    if c.toNat < 0x20 || c == '\\' then none
    else (readText rest).map fun (units, after) => (.char c :: units, after)

theorem readText_length {s after : List Char} {units : Spelling} (h : readText s = some (units, after)) :
    after.length < s.length := by
  fun_induction readText s generalizing units with
  | case1 => simp at h
  | case2 rest => simp at h; simp [h.2]
  | case3 a b c d rest ih =>
    simp only [Option.bind_eq_bind, Option.bind_eq_some_iff] at h
    obtain ⟨_, _, _, _, _, _, _, _, ⟨u, t⟩, hr, he⟩ := h
    simp only [Option.pure_def, Option.some.injEq, Prod.mk.injEq] at he
    have := ih (he.2 ▸ hr)
    simp only [List.length_cons]
    omega
  | case4 c rest _ ih =>
    simp only [Option.bind_eq_bind, Option.bind_eq_some_iff] at h
    obtain ⟨_, _, ⟨u, t⟩, hr, he⟩ := h
    simp only [Option.pure_def, Option.some.injEq, Prod.mk.injEq] at he
    have := ih (he.2 ▸ hr)
    simp only [List.length_cons]
    omega
  | case5 => simp at h
  | case6 c rest _ _ _ _ ih =>
    obtain ⟨⟨u, t⟩, hr, he⟩ := Option.map_eq_some_iff.1 h
    simp only [Prod.mk.injEq] at he
    have := ih (he.2 ▸ hr)
    simp only [List.length_cons]
    omega

def digits (s : List Char) : List Char × List Char := (s.takeWhile Char.isDigit, s.dropWhile Char.isDigit)

def digits? (s : List Char) : Option (List Char × List Char) :=
  if (digits s).1 = [] then none else some (digits s)

theorem digits?_length {s ds after : List Char} (h : digits? s = some (ds, after)) :
    after.length < s.length := by
  simp only [digits?] at h
  split at h
  · simp at h
  · next hne =>
    simp only [Option.some.injEq, digits, Prod.mk.injEq] at h hne
    have hlen : (s.takeWhile Char.isDigit ++ s.dropWhile Char.isDigit).length = s.length := by
      rw [List.takeWhile_append_dropWhile]
    have hpos : 0 < (s.takeWhile Char.isDigit).length := List.length_pos_iff.2 hne
    rw [List.length_append, h.2] at hlen
    omega

def readFraction : List Char → Option (List Char × List Char)
  | '.' :: rest => digits? rest
  | s => some ([], s)

theorem readFraction_length {s ds after : List Char} (h : readFraction s = some (ds, after)) :
    after.length ≤ s.length := by
  unfold readFraction at h
  split at h
  · have := digits?_length h
    simp only [List.length_cons]
    omega
  · simp only [Option.some.injEq, Prod.mk.injEq] at h
    simp [h.2]

def readExponent (s : List Char) : Option ((Bool × List Char) × List Char) :=
  match s with
  | [] => some ((false, []), s)
  | e :: rest =>
    if e == 'e' || e == 'E' then
      match rest with
      | '+' :: rest => (digits? rest).map fun (ds, after) => ((false, ds), after)
      | '-' :: rest => (digits? rest).map fun (ds, after) => ((true, ds), after)
      | rest => (digits? rest).map fun (ds, after) => ((false, ds), after)
    else some ((false, []), s)

theorem readExponent_length {s after : List Char} {e : Bool × List Char}
    (h : readExponent s = some (e, after)) : after.length ≤ s.length := by
  unfold readExponent at h
  split at h
  · simp only [Option.some.injEq, Prod.mk.injEq] at h
    simp [← h.2]
  · split at h
    · split at h <;>
      · obtain ⟨⟨ds, t⟩, hd, he⟩ := Option.map_eq_some_iff.1 h
        have := digits?_length hd
        simp only [Prod.mk.injEq] at he
        simp only [List.length_cons, ← he.2] at this ⊢
        omega
    · simp only [Option.some.injEq, Prod.mk.injEq] at h
      simp [← h.2]

/-- A number from its first digit on. The digit 0 is first only where it is alone. -/
def readNumber (negative : Bool) (s : List Char) : Option (Literal × List Char) := do
  let (whole, s) ← digits? s
  if whole.head? = some '0' ∧ whole.length ≠ 1 then none
  let (fraction, s) ← readFraction s
  let ((exponentNegative, exponent), s) ← readExponent s
  pure ({ negative, whole, fraction, exponentNegative, exponent }, s)

theorem readNumber_length {negative : Bool} {s after : List Char} {l : Literal}
    (h : readNumber negative s = some (l, after)) : after.length < s.length := by
  simp only [readNumber, Option.bind_eq_bind, Option.bind_eq_some_iff] at h
  obtain ⟨⟨whole, s₁⟩, h₁, h⟩ := h
  have := digits?_length h₁
  split at h
  · simp at h
  · simp only [Option.bind_eq_some_iff] at h
    obtain ⟨⟨fraction, s₂⟩, h₂, ⟨⟨e, ds⟩, s₃⟩, h₃, he⟩ := h
    have : s₂.length ≤ s₁.length := readFraction_length h₂
    have : s₃.length ≤ s₂.length := readExponent_length h₃
    simp only [Option.pure_def, Option.some.injEq, Prod.mk.injEq] at he
    rw [← he.2]
    omega

def next (c : Char) (rest : List Char) : Option (Lexeme × List Char) :=
  match c with
  | '[' => some (.openArray, rest)
  | ']' => some (.closeArray, rest)
  | '\x7b' => some (.openObject, rest)
  | '\x7d' => some (.closeObject, rest)
  | ',' => some (.comma, rest)
  | ':' => some (.colon, rest)
  | '"' => (readText rest).map fun (units, after) => (.text units, after)
  | 'n' =>
    match rest with
    | 'u' :: 'l' :: 'l' :: after => some (.atom .null, after)
    | _ => none
  | 't' =>
    match rest with
    | 'r' :: 'u' :: 'e' :: after => some (.atom (.bool true), after)
    | _ => none
  | 'f' =>
    match rest with
    | 'a' :: 'l' :: 's' :: 'e' :: after => some (.atom (.bool false), after)
    | _ => none
  | '-' => (readNumber true rest).map fun (l, after) => (.atom (.number l), after)
  | c =>
    if c.isDigit then (readNumber false (c :: rest)).map fun (l, after) => (.atom (.number l), after)
    else none

theorem next_length {c : Char} {rest after : List Char} {l : Lexeme}
    (h : next c rest = some (l, after)) : after.length ≤ rest.length := by
  unfold next at h
  split at h
  case h_7 =>
    obtain ⟨⟨u, t⟩, hr, he⟩ := Option.map_eq_some_iff.1 h
    have := readText_length hr
    simp only [Prod.mk.injEq] at he
    rw [← he.2]
    omega
  case h_11 =>
    obtain ⟨⟨u, t⟩, hr, he⟩ := Option.map_eq_some_iff.1 h
    have := readNumber_length hr
    simp only [Prod.mk.injEq] at he
    rw [← he.2]
    omega
  case h_12 =>
    split at h
    · obtain ⟨⟨u, t⟩, hr, he⟩ := Option.map_eq_some_iff.1 h
      have := readNumber_length hr
      simp only [Prod.mk.injEq, List.length_cons] at he this
      rw [← he.2]
      omega
    · simp at h
  case h_8 | h_9 | h_10 =>
    split at h
    · simp only [Option.some.injEq, Prod.mk.injEq] at h
      rw [← h.2]
      simp only [List.length_cons]
      omega
    · simp at h
  all_goals
    simp only [Option.some.injEq, Prod.mk.injEq] at h
    simp [h.2]

def all? : List Char → Option (List Lexeme)
  | [] => some []
  | c :: rest =>
    if isSpace c then all? rest
    else
      match _h : next c rest with
      | none => none
      | some (lexeme, after) => (all? after).map (lexeme :: ·)
termination_by s => s.length
decreasing_by
  · simp
  · have := next_length _h
    simp only [List.length_cons]
    omega

end Lexeme

/-- A container that is open around the place being read; what it holds so far is in reverse. -/
inductive Frame where
  | array (items : List Document)
  | object (members : List (Spelling × Document)) (key : Spelling)

/-- What may come next. `canClose` holds only right after the container was opened. -/
inductive Awaited where
  | document
  | item (items : List Document) (canClose : Bool)
  | itemEnd (items : List Document)
  | key (members : List (Spelling × Document)) (canClose : Bool)
  | colon (members : List (Spelling × Document)) (key : Spelling)
  | member (members : List (Spelling × Document)) (key : Spelling)
  | memberEnd (members : List (Spelling × Document))
  | nothing (d : Document)

structure Progress where
  frames : List Frame
  awaited : Awaited

namespace Progress

def finish (frames : List Frame) (d : Document) : Progress :=
  match frames with
  | [] => ⟨[], .nothing d⟩
  | .array items :: frames => ⟨frames, .itemEnd (d :: items)⟩
  | .object members key :: frames => ⟨frames, .memberEnd ((key, d) :: members)⟩

def begin? (frames : List Frame) : Lexeme → Option Progress
  | .openArray => some ⟨frames, .item [] true⟩
  | .openObject => some ⟨frames, .key [] true⟩
  | .text s => some (finish frames (.string s))
  | .atom d => some (finish frames d)
  | _ => none

def step? (p : Progress) (lexeme : Lexeme) : Option Progress :=
  match p.awaited, lexeme with
  | .document, l => begin? p.frames l
  | .item items true, .closeArray => some (finish p.frames (.array items.reverse))
  | .item items _, l => begin? (.array items :: p.frames) l
  | .itemEnd items, .comma => some ⟨p.frames, .item items false⟩
  | .itemEnd items, .closeArray => some (finish p.frames (.array items.reverse))
  | .key members true, .closeObject => some (finish p.frames (.object members.reverse))
  | .key members _, .text key => some ⟨p.frames, .colon members key⟩
  | .colon members key, .colon => some ⟨p.frames, .member members key⟩
  | .member members key, l => begin? (.object members key :: p.frames) l
  | .memberEnd members, .comma => some ⟨p.frames, .key members false⟩
  | .memberEnd members, .closeObject => some (finish p.frames (.object members.reverse))
  | _, _ => none

def document? (p : Progress) : Option Document :=
  match p.awaited with
  | .nothing d => some d
  | _ => none

end Progress

def Document.read? (text : String) : Option Document := do
  let lexemes ← Lexeme.all? text.toList
  let progress ← lexemes.foldlM Progress.step? ⟨[], .document⟩
  progress.document?

def read? (text : String) : Option Json := do
  let d ← Document.read? text
  d.json? Document.depthLimit

end CatalogSearch.Json
