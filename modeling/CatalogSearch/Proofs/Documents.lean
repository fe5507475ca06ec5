import CatalogSearch.Json.Document
import Mathlib.Data.List.Forall2
import Mathlib.Data.List.Nodup
/-!
Documents and the values that they write. A document writes a value if it spells it and no object in it names a
member twice. The main statements are `Writes.of_object` and `writes_object`, by which an object is written member
by member.
-/
namespace CatalogSearch

namespace Table
variable {κ α β : Type} [DecidableEq κ]

theorem insert_of_not_mem {t : Table κ α} {key : κ} (h : key ∉ keys t) (value : α) :
    insert t key value = t ++ [(key, value)] := by
  induction t with
  | nil => rfl
  | cons entry rest ih =>
    obtain ⟨k, a⟩ := entry
    rw [keys, List.map_cons, List.mem_cons, not_or] at h
    rw [insert, if_neg (Ne.symm h.1), ih h.2, List.cons_append]

theorem foldl_insert_of_nodup {t entries : Table κ α} (h : (keys (t ++ entries)).Nodup) :
    entries.foldl (fun t entry => insert t entry.1 entry.2) t = t ++ entries := by
  induction entries generalizing t with
  | nil => rw [List.foldl_nil, List.append_nil]
  | cons entry rest ih =>
    have hsplit : t ++ entry :: rest = (t ++ [entry]) ++ rest := by simp
    have hnew : entry.1 ∉ keys t := by
      rw [keys, List.map_append, List.map_cons, List.nodup_append'] at h
      exact fun hmem => h.2.2 hmem List.mem_cons_self
    rw [List.foldl_cons, insert_of_not_mem hnew, hsplit]
    rw [hsplit] at h
    exact ih h

theorem ofList_eq_self {entries : Table κ α} (h : (keys entries).Nodup) : ofList entries = entries :=
  foldl_insert_of_nodup (t := []) h

end Table

namespace Json

def TextUnit.printed (c : Char) : TextUnit :=
  if c.toNat < 0x20 ∧ c ∉ ['\x08', '\x0c', '\n', '\r', '\t'] then .code c.toNat else .char c

namespace Spelling

def printed (s : String) : Spelling := s.toList.map TextUnit.printed

theorem chars?_code {n : Nat} (h : n < 0xD800) (rest : Spelling) :
    chars? (.code n :: rest) = (chars? rest).map (Char.ofNat n :: ·) := by
  have hhigh : isHighSurrogate n = false := by
    have : ¬ 0xD800 ≤ n := by omega
    simp [isHighSurrogate, this]
  have hlow : isLowSurrogate n = false := by
    have : ¬ 0xDC00 ≤ n := by omega
    simp [isLowSurrogate, this]
  cases rest with
  | nil => simp [chars?, hhigh, hlow]
  | cons unit rest => cases unit <;> simp [chars?, hhigh, hlow]

theorem chars?_printed (cs : List Char) : chars? (cs.map TextUnit.printed) = some cs := by
  induction cs with
  | nil => rfl
  | cons c rest ih =>
    rw [List.map_cons, TextUnit.printed]
    by_cases hcontrol : c.toNat < 0x20 ∧ c ∉ ['\x08', '\x0c', '\n', '\r', '\t']
    · rw [if_pos hcontrol, chars?_code (by omega), ih, Option.map_some, Char.ofNat_toNat]
    · rw [if_neg hcontrol, chars?, ih, Option.map_some]

@[simp] theorem text?_printed (s : String) : (printed s).text? = some s := by
  rw [text?, printed, chars?_printed, Option.map_some, String.ofList_toList]

end Spelling

namespace Literal

def natural (n : Nat) : Literal := ⟨false, Nat.toDigits 10 n, [], false, []⟩

theorem le_ofDigitChars (digits : List Char) (n : Nat) : n ≤ Nat.ofDigitChars 10 digits n := by
  have hshifted : n ≤ 10 ^ digits.length * n := Nat.le_mul_of_pos_left n (Nat.pow_pos (by decide))
  rw [Nat.ofDigitChars_eq_ofDigitChars_zero]
  omega

/-- Digits of a number below `2 ^ 64` are all taken in: no prefix of theirs is greater. -/
theorem absorb_eq {digits : List Char} {n : Nat} (h : Nat.ofDigitChars 10 digits n < UInt64.size) :
    absorb n digits = (Nat.ofDigitChars 10 digits n, []) := by
  induction digits generalizing n with
  | nil => rfl
  | cons c rest ih =>
    rw [Nat.ofDigitChars_cons] at h ⊢
    have hnext : 10 * n + Numeral.digitValue c < UInt64.size := Nat.lt_of_le_of_lt (le_ofDigitChars rest _) h
    simp only [absorb, if_pos hnext]
    exact ih h

theorem number?_natural {n : Nat} (h : n < UInt64.size) : (natural n).number? = some (.int n) := by
  have hvalue : Nat.ofDigitChars 10 (Nat.toDigits 10 n) 0 = n := Nat.ofDigitChars_ten_toDigits
  have habsorb : absorb 0 (Nat.toDigits 10 n) = (n, []) := by rw [absorb_eq (by rwa [hvalue]), hvalue]
  simp [number?, natural, habsorb]

end Literal

namespace Document

mutual

/-- Whether an object in a document has two members of one name, however the name is spelt. -/
def repeatsName : Document → Bool
  | .array items => repeatsNameAmong items
  | .object members => !decide (members.map fun member => member.1.text?).Nodup || repeatsNameIn members
  | _ => false

def repeatsNameAmong : List Document → Bool
  | [] => false
  | d :: rest => repeatsName d || repeatsNameAmong rest

def repeatsNameIn : List (Spelling × Document) → Bool
  | [] => false
  | (_, d) :: rest => repeatsName d || repeatsNameIn rest

end

theorem repeatsNameAmong_eq_any (items : List Document) : repeatsNameAmong items = items.any repeatsName := by
  induction items with
  | nil => rfl
  | cons d rest ih => rw [repeatsNameAmong, ih, List.any_cons]

theorem repeatsNameIn_eq_any (members : List (Spelling × Document)) :
    repeatsNameIn members = members.any fun member => repeatsName member.2 := by
  induction members with
  | nil => rfl
  | cons member rest ih => rw [repeatsNameIn, ih, List.any_cons]

theorem repeatsName_array_eq_false_iff {items : List Document} :
    repeatsName (.array items) = false ↔ ∀ d ∈ items, d.repeatsName = false := by
  simp [repeatsName, repeatsNameAmong_eq_any]

theorem repeatsName_object_eq_false_iff {members : List (Spelling × Document)} :
    repeatsName (.object members) = false ↔
      (members.map fun member => member.1.text?).Nodup ∧ ∀ member ∈ members, member.2.repeatsName = false := by
  simp [repeatsName, repeatsNameIn_eq_any]

theorem items?_eq_some_iff {room : Nat} {ds : List Document} {vs : List Json} :
    items? room ds = some vs ↔ List.Forall₂ (fun d v => d.json? room = some v) ds vs := by
  induction ds generalizing vs with
  | nil => cases vs <;> simp [items?]
  | cons d rest ih =>
    cases vs with
    | nil => simp [items?, Option.bind_eq_some_iff]
    | cons v vs => simp [items?, Option.bind_eq_some_iff, ih]

theorem members?_eq_some_iff {room : Nat} {written : List (Spelling × Document)}
    {members : List (String × Json)} :
    members? room written = some members ↔ List.Forall₂
      (fun w member => w.1.text? = some member.1 ∧ w.2.json? room = some member.2) written members := by
  induction written generalizing members with
  | nil => cases members <;> simp [members?]
  | cons w rest ih =>
    obtain ⟨name, d⟩ := w
    cases members with
    | nil => simp [members?, Option.bind_eq_some_iff]
    | cons member members =>
      obtain ⟨key, v⟩ := member
      simp [members?, Option.bind_eq_some_iff, ih, and_assoc]

/-- A document that spells a value with each name in an object given once. -/
structure Writes (room : Nat) (d : Document) (v : Json) : Prop where
  value : d.json? room = some v
  once : d.repeatsName = false

def WritesMembers (room : Nat) : List (Spelling × Document) → List (String × Json) → Prop :=
  List.Forall₂ fun w member => w.1.text? = some member.1 ∧ w.2.Writes room member.2

theorem names_nodup_iff {written : List (Spelling × Document)} {members : List (String × Json)}
    (h : List.Forall₂ (fun w member => w.1.text? = some member.1) written members) :
    (written.map fun w => w.1.text?).Nodup ↔ (Table.keys members).Nodup := by
  have hnames : written.map (fun w => w.1.text?) = (Table.keys members).map some := by
    rwa [Table.keys, List.map_map, ← List.forall₂_eq_eq_eq, List.forall₂_map_left_iff,
      List.forall₂_map_right_iff]
  rw [hnames, List.nodup_map_iff (fun _ _ => Option.some.inj)]

namespace Writes
variable {room : Nat} {d : Document}

theorem of_object {members : List (String × Json)} (h : d.Writes room (.object members)) :
    ∃ written, d = .object written ∧ room ≠ 0 ∧ WritesMembers (room - 1) written members ∧
      (Table.keys members).Nodup := by
  have hvalue := h.value
  have honce := h.once
  cases d with
  | object written =>
    rw [json?] at hvalue
    by_cases hroom : room = 0
    · simp [hroom] at hvalue
    · rw [if_neg hroom, Option.map_eq_some_iff] at hvalue
      obtain ⟨read, hread, hobject⟩ := hvalue
      obtain ⟨hnames, hinner⟩ := repeatsName_object_eq_false_iff.1 honce
      rw [members?_eq_some_iff] at hread
      have hnodup := (names_nodup_iff (hread.imp fun _ _ hboth => hboth.1)).1 hnames
      have hboth := (List.forall₂_and_left _ _).2 ⟨hinner, hread⟩
      rw [Table.ofList_eq_self hnodup] at hobject
      cases hobject
      refine ⟨written, rfl, hroom, ?_, hnodup⟩
      exact hboth.imp fun _ _ h => ⟨h.2.1, h.2.2, h.1⟩
  | _ => simp [json?] at hvalue

theorem of_array {items : List Json} (h : d.Writes room (.array items)) :
    ∃ ds, d = .array ds ∧ room ≠ 0 ∧ List.Forall₂ (Writes (room - 1)) ds items := by
  have hvalue := h.value
  have honce := h.once
  cases d with
  | array ds =>
    rw [json?] at hvalue
    by_cases hroom : room = 0
    · simp [hroom] at hvalue
    · rw [if_neg hroom, Option.map_eq_some_iff] at hvalue
      obtain ⟨read, hread, harray⟩ := hvalue
      cases harray
      rw [items?_eq_some_iff] at hread
      have hboth := (List.forall₂_and_left _ _).2 ⟨repeatsName_array_eq_false_iff.1 honce, hread⟩
      exact ⟨ds, rfl, hroom, hboth.imp fun _ _ h => ⟨h.2, h.1⟩⟩
  | _ => simp [json?] at hvalue

end Writes

theorem writes_array {room : Nat} {ds : List Document} {items : List Json}
    (h : List.Forall₂ (Writes room) ds items) : Writes (room + 1) (.array ds) (.array items) := by
  constructor
  case value =>
    have hread : items? room ds = some items := items?_eq_some_iff.2 (h.imp fun _ _ hwrites => hwrites.value)
    rw [json?, if_neg (Nat.succ_ne_zero room), Nat.add_sub_cancel, hread, Option.map_some]
  case once =>
    have hboth := (List.forall₂_and_left (p := fun d => d.repeatsName = false) _ _).1
      (h.imp fun _ _ hwrites => ⟨hwrites.once, hwrites⟩)
    exact repeatsName_array_eq_false_iff.2 hboth.1

theorem writes_object {room : Nat} {written : List (Spelling × Document)} {members : List (String × Json)}
    (h : WritesMembers room written members) (hkeys : (Table.keys members).Nodup) :
    Writes (room + 1) (.object written) (.object members) := by
  constructor
  case value =>
    have hread : members? room written = some members :=
      members?_eq_some_iff.2 (h.imp fun _ _ hboth => ⟨hboth.1, hboth.2.value⟩)
    rw [json?, if_neg (Nat.succ_ne_zero room), Nat.add_sub_cancel, hread, Option.map_some,
      Table.ofList_eq_self hkeys]
  case once =>
    have hboth := (List.forall₂_and_left (p := fun w => w.2.repeatsName = false) _ _).1
      (h.imp fun _ _ hboth => ⟨hboth.2.once, hboth.1⟩)
    exact repeatsName_object_eq_false_iff.2 ⟨(names_nodup_iff hboth.2).2 hkeys, hboth.1⟩

theorem json?_array_ne {room : Nat} {v : Json} {items : List Document}
    (h : ∀ items, v ≠ .array items) : json? room (.array items) ≠ some v := by
  rw [json?]
  by_cases hroom : room = 0
  · simp [hroom]
  · rw [if_neg hroom, Ne, Option.map_eq_some_iff]
    intro hsome
    obtain ⟨vs, -, hv⟩ := hsome
    exact h vs hv.symm

theorem json?_object_ne {room : Nat} {v : Json} {written : List (Spelling × Document)}
    (h : ∀ members, v ≠ .object members) : json? room (.object written) ≠ some v := by
  rw [json?]
  by_cases hroom : room = 0
  · simp [hroom]
  · rw [if_neg hroom, Ne, Option.map_eq_some_iff]
    intro hsome
    obtain ⟨members, -, hv⟩ := hsome
    exact h _ hv.symm

end Document
end Json
end CatalogSearch
