import CatalogSearch.Json.Printer
import CatalogSearch.Proofs.Documents
import CatalogSearch.Proofs.Lexemes
/-!
What is printed is read back. `Prints` tells of a document that a value is printed as it: every part of the text is
cut into the lexemes of its part of the document. The main statement is `Prints.read?`.
-/
namespace CatalogSearch.Json

namespace Lexeme

theorem all?_cons {c : Char} {rest after : List Char} {l : Lexeme} (hspace : isSpace c = false)
    (h : next c rest = some (l, after)) : all? (c :: rest) = (all? after).map (l :: ·) := by
  rw [all?, hspace]
  simp only [Bool.false_eq_true, if_false]
  split
  case h_1 hnext => rw [h] at hnext; cases hnext
  case h_2 lexeme after' hnext =>
    rw [h] at hnext
    cases hnext
    rfl

theorem all?_comma (rest : List Char) : all? (',' :: rest) = (all? rest).map (.comma :: ·) := all?_cons rfl rfl

theorem all?_colon (rest : List Char) : all? (':' :: rest) = (all? rest).map (.colon :: ·) := all?_cons rfl rfl

theorem hexDigits_control :
    ∀ n < 0x20, hexDigits 4 n = ['0', '0', Nat.digitChar (n / 16), Nat.digitChar (n % 16)] := by
  decide

theorem hexValue?_digitChar : ∀ n < 16, Numeral.hexValue? (Nat.digitChar n) = some n := by
  decide

theorem readText_code {n : Nat} (h : n < 0x20) (rest : List Char) :
    readText ('\\' :: 'u' :: hexDigits 4 n ++ rest) =
      (readText rest).map fun (units, after) => (.code n :: units, after) := by
  have hzero : Numeral.hexValue? '0' = some 0 := rfl
  have hhigh := hexValue?_digitChar (n / 16) (by omega)
  have hlow := hexValue?_digitChar (n % 16) (by omega)
  have hvalue : ((0 * 16 + 0) * 16 + n / 16) * 16 + n % 16 = n := by omega
  rw [hexDigits_control n h]
  simp only [List.cons_append, List.nil_append, readText, hzero, hhigh, hlow, hvalue, Option.bind_eq_bind,
    Option.bind_some]
  cases readText rest <;> rfl

theorem readText_letter {l c : Char} (hl : l ≠ 'u') (h : escaped? l = some c) (rest : List Char) :
    readText ('\\' :: l :: rest) = (readText rest).map fun (units, after) => (.char c :: units, after) := by
  have hcode : ∀ w x y z after, l = 'u' → rest = w :: x :: y :: z :: after → False := fun _ _ _ _ _ hu _ => hl hu
  rw [readText.eq_4 _ _ hcode, h, Option.bind_eq_bind, Option.bind_some]
  cases readText rest <;> rfl

theorem readText_char {c : Char} (hquote : c ≠ '"') (hescape : c ≠ '\\') (h : ¬ c.toNat < 0x20)
    (rest : List Char) :
    readText (c :: rest) = (readText rest).map fun (units, after) => (.char c :: units, after) := by
  rw [readText.eq_def]
  split
  case h_1 heq => cases heq
  case h_2 heq => exact absurd (List.cons.inj heq).1 hquote
  case h_3 heq => exact absurd (List.cons.inj heq).1 hescape
  case h_4 heq => exact absurd (List.cons.inj heq).1 hescape
  case h_5 heq =>
    obtain ⟨hc, hrest⟩ := List.cons.inj heq
    subst hc hrest
    simp [h, hescape]

theorem readText_escape (c : Char) (rest : List Char) :
    readText (escape c ++ rest) = (readText rest).map fun (units, after) => (TextUnit.printed c :: units, after) := by
  fun_cases escape c
  case case8 hquote hescape hb hf hn hr ht hcontrol =>
    have hunit : TextUnit.printed c = .code c.toNat := by
      rw [TextUnit.printed, if_pos]
      simp only [List.mem_cons, List.not_mem_nil, or_false, not_or]
      exact ⟨hcontrol, hb, hf, hn, hr, ht⟩
    rw [hunit]
    exact readText_code hcontrol rest
  case case9 hquote hescape _ _ _ _ _ hcontrol =>
    have hunit : TextUnit.printed c = .char c := if_neg fun hboth => hcontrol hboth.1
    rw [hunit]
    exact readText_char hquote hescape hcontrol rest
  all_goals exact readText_letter (by decide) rfl rest

theorem readText_quoted (cs rest : List Char) :
    readText (cs.flatMap escape ++ '"' :: rest) = some (cs.map TextUnit.printed, rest) := by
  induction cs with
  | nil => rfl
  | cons c cs ih => rw [List.flatMap_cons, List.append_assoc, readText_escape, ih, Option.map_some, List.map_cons]

theorem all?_quote (s : String) (rest : List Char) :
    all? ((quote s).toList ++ rest) = (all? rest).map (.text (.printed s) :: ·) := by
  have htoList : (quote s).toList ++ rest = '"' :: (s.toList.flatMap escape ++ '"' :: rest) := by
    simp [quote]
  rw [htoList]
  apply all?_cons rfl
  rw [next, readText_quoted]
  rfl

/-- A text that cannot go on a number: it is at its end, or starts with a mark. -/
def Closes (rest : List Char) : Prop := ∀ c ∈ rest.head?, c ∈ [',', ']', '\x7d']

theorem digits?_toDigits (n : Nat) {rest : List Char} (h : ∀ c ∈ rest.head?, c.isDigit = false) :
    digits? (Nat.toDigits 10 n ++ rest) = some (Nat.toDigits 10 n, rest) := by
  have hdigits : ∀ c ∈ Nat.toDigits 10 n, c.isDigit = true :=
    fun c => Nat.isDigit_of_mem_toDigits (by decide) (by decide)
  have hrest : rest.takeWhile Char.isDigit = [] ∧ rest.dropWhile Char.isDigit = rest := by
    cases rest with
    | nil => exact ⟨rfl, rfl⟩
    | cons c cs => simp [h c rfl]
  rw [digits?, digits, List.takeWhile_append_of_pos hdigits, List.dropWhile_append_of_pos hdigits, hrest.1, hrest.2,
    List.append_nil, if_neg Nat.toDigits_ne_nil]

theorem head?_toDigits_ne {n : Nat} (h : n ≠ 0) : (Nat.toDigits 10 n).head? ≠ some '0' := by
  induction n using Nat.strongRecOn with
  | ind n ih =>
    by_cases hn : n < 10
    · rw [Nat.toDigits_of_lt_base hn, List.head?_cons, Ne, Option.some.injEq]
      exact fun hzero => h (Nat.digitChar_eq_zero.1 hzero)
    · have hdigits : Nat.toDigits 10 n = Nat.toDigits 10 (n / 10) ++ [Nat.digitChar (n % 10)] :=
        Nat.toDigits_of_base_le (by decide) (by omega)
      rw [hdigits, List.head?_append_of_ne_nil _ Nat.toDigits_ne_nil]
      exact ih (n / 10) (by omega) (by omega)

theorem readNumber_toDigits (n : Nat) {rest : List Char} (h : Closes rest) :
    readNumber false (Nat.toDigits 10 n ++ rest) = some (.natural n, rest) := by
  have hrest : ∀ c ∈ rest.head?, c.isDigit = false ∧ c ≠ '.' ∧ (c == 'e' || c == 'E') = false := by
    have hmarks : ∀ c ∈ [',', ']', '\x7d'], c.isDigit = false ∧ c ≠ '.' ∧ (c == 'e' || c == 'E') = false := by
      simp
    exact fun c hc => hmarks c (h c hc)
  have hzero : ¬ ((Nat.toDigits 10 n).head? = some '0' ∧ (Nat.toDigits 10 n).length ≠ 1) := by
    intro hboth
    by_cases hn : n = 0
    · rw [hn] at hboth
      exact hboth.2 rfl
    · exact head?_toDigits_ne hn hboth.1
  have hfraction : readFraction rest = some ([], rest) := by
    rw [readFraction.eq_def]
    split
    case h_1 => exact absurd rfl (hrest '.' rfl).2.1
    case h_2 => rfl
  have hexponent : readExponent rest = some ((false, []), rest) := by
    cases rest with
    | nil => rfl
    | cons c cs => simp only [readExponent, (hrest c rfl).2.2, Bool.false_eq_true, if_false]
  simp only [readNumber, digits?_toDigits n fun c hc => (hrest c hc).1, hfraction, hexponent, if_neg hzero,
    Option.bind_eq_bind, Option.bind_some]
  rfl

theorem isSpace_of_isDigit {c : Char} (h : c.isDigit = true) : isSpace c = false := by
  have hne (b : Char) (hb : b.isDigit = false) : c ≠ b := by
    intro hc
    rw [hc, hb] at h
    cases h
  simp [isSpace, hne ' ' rfl, hne '\t' rfl, hne '\n' rfl, hne '\r' rfl]

theorem next_digit {c : Char} (h : c.isDigit = true) (rest : List Char) :
    next c rest = (readNumber false (c :: rest)).map fun (l, after) => (.atom (.number l), after) := by
  unfold next
  split
  case h_12 => rw [if_pos h]
  all_goals exact absurd h (by decide)

theorem all?_toDigits (n : Nat) {rest : List Char} (h : Closes rest) :
    all? (Nat.toDigits 10 n ++ rest) = (all? rest).map (.atom (.number (.natural n)) :: ·) := by
  have hread := readNumber_toDigits n h
  cases hdigits : Nat.toDigits 10 n with
  | nil => exact absurd hdigits Nat.toDigits_ne_nil
  | cons c cs =>
    have hdigit : c.isDigit = true :=
      Nat.isDigit_of_mem_toDigits (by decide : 0 < 10) (by decide) (hdigits ▸ List.mem_cons_self)
    rw [hdigits, List.cons_append] at hread
    rw [List.cons_append]
    apply all?_cons (isSpace_of_isDigit hdigit)
    rw [next_digit hdigit, hread]
    rfl

/-- A text that is cut into these lexemes wherever no number goes on behind it. -/
def CutsTo (cs : List Char) (ls : List Lexeme) : Prop :=
  ∀ rest, Closes rest → all? (cs ++ rest) = (all? rest).map (ls ++ ·)

namespace CutsTo
variable {cs ds : List Char} {ls ms : List Lexeme}

theorem comma (h : CutsTo cs ls) (h' : CutsTo ds ms) : CutsTo (cs ++ ',' :: ds) (ls ++ .comma :: ms) := by
  intro rest hrest
  have hcloses : Closes (',' :: (ds ++ rest)) := by simp [Closes]
  rw [List.append_assoc, List.cons_append, h _ hcloses, all?_comma, h' rest hrest, Option.map_map, Option.map_map]
  congr 1
  funext after
  simp

theorem member (h : CutsTo cs ls) (name : String) :
    CutsTo ((quote name).toList ++ ':' :: cs) (.text (.printed name) :: .colon :: ls) := by
  intro rest hrest
  rw [List.append_assoc, List.cons_append, all?_quote, all?_colon, h rest hrest, Option.map_map, Option.map_map]
  rfl

theorem enclosed {first last : Char} {l m : Lexeme} (h : CutsTo cs ls)
    (hfirst : ∀ rest, all? (first :: rest) = (all? rest).map (l :: ·))
    (hlast : ∀ rest, all? (last :: rest) = (all? rest).map (m :: ·)) (hmark : last ∈ [',', ']', '\x7d']) :
    CutsTo (first :: cs ++ [last]) (l :: ls ++ [m]) := by
  intro rest _
  have hcloses : Closes (last :: rest) := by
    intro c hc
    cases hc
    exact hmark
  have htext : first :: cs ++ [last] ++ rest = first :: (cs ++ last :: rest) := by simp
  rw [htext, hfirst, h _ hcloses, hlast, Option.map_map, Option.map_map]
  congr 1
  funext after
  simp

theorem inBrackets (h : CutsTo cs ls) : CutsTo ('[' :: cs ++ [']']) (.openArray :: ls ++ [.closeArray]) :=
  h.enclosed (fun _ => all?_cons rfl rfl) (fun _ => all?_cons rfl rfl) (by simp)

theorem inBraces (h : CutsTo cs ls) :
    CutsTo ('\x7b' :: cs ++ ['\x7d']) (.openObject :: ls ++ [.closeObject]) :=
  h.enclosed (fun _ => all?_cons rfl rfl) (fun _ => all?_cons rfl rfl) (by simp)

theorem intercalate {parts : List String} {lss : List (List Lexeme)}
    (h : List.Forall₂ (fun part ls => CutsTo part.toList ls) parts lss) :
    CutsTo (String.intercalate "," parts).toList (separated lss) := by
  induction h with
  | nil =>
    intro rest _
    simp [separated]
  | @cons part ls parts lss hpart htail ih =>
    cases htail with
    | nil => rwa [String.intercalate_singleton]
    | cons =>
      rw [String.intercalate_cons_cons, String.toList_append, String.toList_append, List.append_assoc]
      exact hpart.comma ih

end CutsTo
end Lexeme

/-- A document that a value is printed as. -/
structure Prints (room : Nat) (d : Document) (v : Json) : Prop extends d.Writes room v where
  printed : Lexeme.CutsTo (compact v).toList (lexemes d)

namespace Prints
variable {room : Nat} {d : Document} {v : Json}

theorem read? (h : Prints room d v) : Document.read? (compact v) = some d := by
  have hlexemes : Lexeme.all? (compact v).toList = some (lexemes d) := by
    have hprinted := h.printed [] (by simp [Lexeme.Closes])
    simpa [Lexeme.all?] using hprinted
  exact Document.read?_of_lexemes hlexemes

end Prints

theorem prints_null {room : Nat} : Prints room .null .null where
  value := rfl
  once := rfl
  printed rest _ := by
    apply Lexeme.all?_cons rfl
    rfl

theorem prints_bool {room : Nat} (b : Bool) : Prints room (.bool b) (.bool b) where
  value := rfl
  once := rfl
  printed rest _ := by
    cases b <;>
    · apply Lexeme.all?_cons rfl
      rfl

theorem prints_string {room : Nat} (s : String) : Prints room (.string (.printed s)) (.string s) where
  value := by rw [Document.json?, Spelling.text?_printed, Option.map_some]
  once := rfl
  printed rest _ := Lexeme.all?_quote s rest

theorem prints_word {room : Nat} (n : UInt64) : Prints room (.number (.natural n.toNat)) (.ofWord n) where
  value := by
    rw [Document.json?, Literal.number?_natural n.toNat_lt_size, Option.map_some]
    rfl
  once := rfl
  printed rest h := by
    have hcompact : compact (.ofWord n) = toString n.toNat := rfl
    rw [hcompact, Nat.toString_eq_ofList_toDigits, String.toList_ofList]
    exact Lexeme.all?_toDigits n.toNat h

theorem compactItems_eq_map (items : List Json) : compactItems items = items.map compact := by
  induction items with
  | nil => rfl
  | cons v rest ih => rw [compactItems, ih, List.map_cons]

theorem compactMembers_eq_map (members : List (String × Json)) :
    compactMembers members = members.map fun member => quote member.1 ++ ":" ++ compact member.2 := by
  induction members with
  | nil => rfl
  | cons member rest ih => rw [compactMembers, ih, List.map_cons]

section Containers
variable {room : Nat}

theorem prints_array {ds : List Document} {items : List Json} (h : List.Forall₂ (Prints room) ds items) :
    Prints (room + 1) (.array ds) (.array items) where
  toWrites := Document.writes_array (h.imp fun _ _ hprints => hprints.toWrites)
  printed := by
    have hitems : Lexeme.CutsTo (String.intercalate "," (compactItems items)).toList (lexemesOfItems ds) := by
      rw [compactItems_eq_map, lexemesOfItems_eq]
      apply Lexeme.CutsTo.intercalate
      rw [List.forall₂_map_left_iff, List.forall₂_map_right_iff]
      exact h.flip.imp fun _ _ hprints => hprints.printed
    have hprinted := hitems.inBrackets
    simpa [compact, between, lexemes] using hprinted

theorem prints_object {written : List (Spelling × Document)} {members : List (String × Json)}
    (h : List.Forall₂ (fun w member => w.1 = .printed member.1 ∧ Prints room w.2 member.2) written members)
    (hkeys : (Table.keys members).Nodup) : Prints (room + 1) (.object written) (.object members) where
  toWrites := by
    apply Document.writes_object (h.imp fun w member hboth => ?_) hkeys
    rw [hboth.1, Spelling.text?_printed]
    exact ⟨rfl, hboth.2.toWrites⟩
  printed := by
    have hmembers : Lexeme.CutsTo (String.intercalate "," (compactMembers members)).toList
        (lexemesOfMembers written) := by
      rw [compactMembers_eq_map, lexemesOfMembers_eq]
      apply Lexeme.CutsTo.intercalate
      rw [List.forall₂_map_left_iff, List.forall₂_map_right_iff]
      refine h.flip.imp fun member w hboth => ?_
      have hmember := hboth.2.printed.member member.1
      rw [hboth.1]
      simpa using hmember
    have hprinted := hmembers.inBraces
    simpa [compact, between, lexemes] using hprinted

theorem exists_prints_object {members : List (String × Json)} (hkeys : (Table.keys members).Nodup)
    (h : ∀ member ∈ members, ∃ d, Prints room d member.2) : ∃ d, Prints (room + 1) d (.object members) := by
  have hwritten : ∃ written : List (Spelling × Document), List.Forall₂
      (fun w member => w.1 = .printed member.1 ∧ Prints room w.2 member.2) written members := by
    clear hkeys
    induction members with
    | nil => exact ⟨[], .nil⟩
    | cons member rest ih =>
      rw [List.forall_mem_cons] at h
      obtain ⟨⟨d, hd⟩, hrest⟩ := h
      obtain ⟨written, hwritten⟩ := ih hrest
      exact ⟨(.printed member.1, d) :: written, .cons ⟨rfl, hd⟩ hwritten⟩
  obtain ⟨written, hwritten⟩ := hwritten
  exact ⟨.object written, prints_object hwritten hkeys⟩

end Containers

end CatalogSearch.Json
