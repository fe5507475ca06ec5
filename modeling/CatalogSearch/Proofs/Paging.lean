import CatalogSearch.Proofs.Parameters
import CatalogSearch.Proofs.Trimming
import Mathlib.Data.List.Induction
import Mathlib.Data.Nat.Digits.Defs
/-!
The page that request parameters choose. `Page.Denotes` are the texts that stand for a positive number of
63 bits. The main statement is `ofItems_reads`: each parameter is what its last item denotes, an item that
denotes nothing is an error, and the size is looked at first.
-/
namespace CatalogSearch

namespace Numeral

theorem value_append (digits : List Char) (c : Char) :
    value (digits ++ [c]) = 10 * value digits + digitValue c := by
  rw [value, Nat.ofDigitChars_append]
  rfl

theorem value_eq_ofDigits (digits : List Char) :
    value digits = Nat.ofDigits 10 (digits.map digitValue).reverse := by
  induction digits using List.reverseRecOn with
  | nil => rfl
  | append_singleton digits c ih =>
    rw [value_append, ih, List.map_append, List.reverse_append, List.map_singleton, List.reverse_singleton,
      List.singleton_append, Nat.ofDigits_cons, Nat.add_comm]

theorem natural?_eq_some_iff {s : List Char} {n : Nat} :
    natural? s = some n ↔ s ≠ [] ∧ (∀ c ∈ s, c.isDigit = true) ∧ value s = n := by
  rw [natural?]
  by_cases h : s ≠ [] ∧ s.all Char.isDigit
  · rw [if_pos h, Option.some_inj]
    have hdigits := List.all_eq_true.1 h.2
    exact ⟨fun hn => ⟨h.1, hdigits, hn⟩, fun hn => hn.2.2⟩
  · rw [if_neg h]
    constructor
    · intro hn
      cases hn
    · intro hn
      exact absurd ⟨hn.1, List.all_eq_true.2 hn.2.1⟩ h

theorem natural?_cons_eq_none {c : Char} (hc : c.isDigit = false) (s : List Char) :
    natural? (c :: s) = none := by
  rw [Option.eq_none_iff_forall_ne_some]
  intro n hn
  have hdigit := (natural?_eq_some_iff.1 hn).2.1 c List.mem_cons_self
  rw [hc] at hdigit
  cases hdigit

theorem integer?_of_natural? {digits : List Char} {n : Nat} (h : natural? digits = some n) :
    integer? digits = some (n : Int) := by
  unfold integer?
  split
  · rw [natural?_cons_eq_none (by decide)] at h
    cases h
  · rw [natural?_cons_eq_none (by decide)] at h
    cases h
  · rw [h]
    rfl

theorem integer?_eq_some_iff {s : List Char} {n : Nat} (hn : 1 ≤ n) :
    integer? s = some (n : Int) ↔
      ∃ sign digits, s = sign ++ digits ∧ (sign = [] ∨ sign = ['+']) ∧ natural? digits = some n := by
  constructor
  · intro h
    unfold integer? at h
    split at h
    · next digits =>
      obtain ⟨m, hm, heq⟩ := Option.map_eq_some_iff.1 h
      exact ⟨['+'], digits, rfl, .inr rfl, by rw [hm, Int.ofNat.inj heq]⟩
    · obtain ⟨k, hk, heq⟩ := Option.map_eq_some_iff.1 h
      obtain ⟨m, -, hm⟩ := Option.bind_eq_some_iff.1 hk
      cases hm
      omega
    · obtain ⟨m, hm, heq⟩ := Option.map_eq_some_iff.1 h
      exact ⟨[], s, rfl, .inl rfl, by rw [hm, Int.ofNat.inj heq]⟩
  · intro h
    obtain ⟨sign, digits, hs, hsign, hdigits⟩ := h
    subst hs
    cases hsign with
    | inl hnone =>
      subst hnone
      exact integer?_of_natural? hdigits
    | inr hplus =>
      subst hplus
      rw [List.singleton_append, integer?, hdigits]
      rfl

theorem int64?_eq_some_iff {s : List Char} {n : Nat} :
    int64? s = some (n : Int) ↔ integer? s = some (n : Int) ∧ n ≤ 2 ^ 63 - 1 := by
  have hleast : leastInt64 = -2 ^ 63 := by decide
  have hgreatest : greatestInt64 = 2 ^ 63 - 1 := by decide
  rw [int64?, Option.filter_eq_some_iff, decide_eq_true_eq, hleast, hgreatest]
  refine and_congr_right fun _ => ?_
  omega

end Numeral

namespace Page

/-- The texts that stand for a positive number of 63 bits: decimal digits, after a plus or without a sign, with
blanks around them. -/
structure Denotes (raw : String) (n : UInt64) : Prop where
  one_le : 1 ≤ n.toNat
  le_greatest : n.toNat ≤ 2 ^ 63 - 1
  written : ∃ before sign digits after : List Char,
    raw.toList = before ++ sign ++ digits ++ after ∧
      before.all Text.isBlank = true ∧ after.all Text.isBlank = true ∧ (sign = [] ∨ sign = ['+']) ∧
      digits ≠ [] ∧ (∀ c ∈ digits, c.isDigit = true) ∧
      Nat.ofDigits 10 (digits.map Numeral.digitValue).reverse = n.toNat

theorem isBlank_of_isDigit {c : Char} (h : c.isDigit = true) : Text.isBlank c = false := by
  simp only [Char.isDigit, Bool.and_eq_true, decide_eq_true_eq, UInt32.le_iff_toNat_le] at h
  have hlow : 48 ≤ c.toNat := h.1
  have hhigh : c.toNat ≤ 57 := h.2
  simp only [Text.isBlank, Bool.or_eq_false_iff, Bool.and_eq_false_iff, decide_eq_false_iff_not,
    beq_eq_false_iff_ne]
  omega

theorem positive?_eq_some_iff_int64? {raw : String} {n : UInt64} :
    positive? raw = some n ↔ 1 ≤ n.toNat ∧ Numeral.int64? (Text.trim raw.toList) = some (n.toNat : Int) := by
  rw [positive?]
  constructor
  · intro h
    split at h
    · next k hk =>
      have hbounds := (Numeral.int64?_bounds hk).2
      have hgreatest : Numeral.greatestInt64 = 2 ^ 63 - 1 := by decide
      by_cases hpositive : 1 ≤ k
      · rw [if_pos hpositive, Option.some_inj] at h
        have hn : n.toNat = k.toNat := by
          rw [← h, UInt64.toNat_ofNat_of_lt']
          simp only [UInt64.size]
          omega
        have hk' : (n.toNat : Int) = k := by omega
        exact ⟨by omega, by rw [hk']; exact hk⟩
      · rw [if_neg hpositive] at h
        cases h
    · cases h
  · intro h
    obtain ⟨hpositive, hread⟩ := h
    have hpositive' : (1 : Int) ≤ n.toNat := by omega
    simp only [hread, if_pos hpositive', Int.toNat_natCast, UInt64.ofNat_toNat]

theorem positive?_eq_some_iff_trim {raw : String} {n : UInt64} :
    positive? raw = some n ↔ (1 ≤ n.toNat ∧ n.toNat ≤ 2 ^ 63 - 1) ∧
      ∃ sign digits, Text.trim raw.toList = sign ++ digits ∧ (sign = [] ∨ sign = ['+']) ∧
        Numeral.natural? digits = some n.toNat := by
  rw [positive?_eq_some_iff_int64?, Numeral.int64?_eq_some_iff]
  constructor
  · intro h
    obtain ⟨hpositive, hread, hgreatest⟩ := h
    exact ⟨⟨hpositive, hgreatest⟩, (Numeral.integer?_eq_some_iff hpositive).1 hread⟩
  · intro h
    obtain ⟨⟨hpositive, hgreatest⟩, hwritten⟩ := h
    exact ⟨hpositive, (Numeral.integer?_eq_some_iff hpositive).2 hwritten, hgreatest⟩

theorem positive?_eq_some_iff {raw : String} {n : UInt64} : positive? raw = some n ↔ Denotes raw n := by
  rw [positive?_eq_some_iff_trim]
  constructor
  · intro h
    obtain ⟨⟨hpositive, hgreatest⟩, sign, digits, htrim, hsign, hnatural⟩ := h
    obtain ⟨hsome, hdigits, hvalue⟩ := Numeral.natural?_eq_some_iff.1 hnatural
    obtain ⟨before, after, hbefore, hafter, hraw⟩ := Text.exists_pad_trim raw.toList
    rw [htrim, ← List.append_assoc] at hraw
    rw [Numeral.value_eq_ofDigits] at hvalue
    exact ⟨hpositive, hgreatest,
      before, sign, digits, after, hraw, hbefore, hafter, hsign, hsome, hdigits, hvalue⟩
  · intro h
    obtain ⟨before, sign, digits, after, hraw, hbefore, hafter, hsign, hsome, hdigits, hvalue⟩ := h.written
    have hblank : ∀ c ∈ sign ++ digits, Text.isBlank c = false := by
      intro c hc
      obtain hc | hc := List.mem_append.1 hc
      · obtain hnone | hplus := hsign
        · rw [hnone] at hc
          cases hc
        · rw [hplus, List.mem_singleton] at hc
          rw [hc]
          decide
      · exact isBlank_of_isDigit (hdigits c hc)
    have htrim : Text.trim raw.toList = sign ++ digits := by
      rw [hraw, List.append_assoc before]
      exact Text.trim_pad hbefore (Text.trimmed_of_forall hblank) hafter
    rw [← Numeral.value_eq_ofDigits] at hvalue
    exact ⟨⟨h.one_le, h.le_greatest⟩, sign, digits, htrim, hsign,
      Numeral.natural?_eq_some_iff.2 ⟨hsome, hdigits, hvalue⟩⟩

def LastIs (keys : List String) (items : List (String × String)) (raw : String) : Prop :=
  ∃ before key after, items = before ++ (key, raw) :: after ∧ key ∈ keys ∧ ∀ item ∈ after, item.1 ∉ keys

/-- What a parameter comes to: what its last item denotes, or the default where there is none. -/
def Chooses (keys : List String) (default : UInt64) (items : List (String × String)) (n : UInt64) : Prop :=
  (∃ raw, LastIs keys items raw ∧ Denotes raw n) ∨ (∀ item ∈ items, item.1 ∉ keys) ∧ n = default

def Unreadable (keys : List String) (items : List (String × String)) (raw : String) : Prop :=
  LastIs keys items raw ∧ ∀ n, ¬ Denotes raw n

section Items
variable {keys : List String} {items : List (String × String)}

theorem last?_eq_find? :
    ListRequest.last? ⟨items⟩ keys = (items.reverse.find? fun item => keys.contains item.1).map Prod.snd := by
  have hlast : Page.lastValue keys.contains items = ListRequest.last? ⟨items⟩ keys :=
    ListRequest.lastValue_eq (fun _ => rfl) ⟨items⟩
  exact hlast.symm

theorem last?_eq_some_iff {raw : String} :
    ListRequest.last? ⟨items⟩ keys = some raw ↔ LastIs keys items raw := by
  rw [last?_eq_find?, Option.map_eq_some_iff]
  constructor
  · intro h
    obtain ⟨⟨key, value⟩, hfind, hraw⟩ := h
    cases hraw
    obtain ⟨hkey, later, earlier, hitems, hlater⟩ := List.find?_eq_some_iff_append.1 hfind
    have hsplit := congrArg List.reverse hitems
    rw [List.reverse_reverse, List.reverse_append, List.reverse_cons, List.append_assoc] at hsplit
    refine ⟨earlier.reverse, key, later.reverse, hsplit, List.contains_iff_mem.1 hkey, ?_⟩
    intro item hitem hmem
    have hnot := hlater item (List.mem_reverse.1 hitem)
    simp [hmem] at hnot
  · intro h
    obtain ⟨before, key, after, hitems, hkey, hafter⟩ := h
    refine ⟨(key, raw), List.find?_eq_some_iff_append.2 ⟨List.contains_iff_mem.2 hkey, ?_⟩, rfl⟩
    refine ⟨after.reverse, before.reverse, by simp [hitems], ?_⟩
    intro item hitem
    simpa using hafter item (List.mem_reverse.1 hitem)

theorem last?_eq_none_iff :
    ListRequest.last? ⟨items⟩ keys = none ↔ ∀ item ∈ items, item.1 ∉ keys := by
  rw [last?_eq_find?, Option.map_eq_none_iff, List.find?_eq_none]
  simp

theorem pageEntry_eq_ok_iff_chooses {name : String} {default n : UInt64} :
    ListRequest.pageEntry name default (ListRequest.last? ⟨items⟩ keys) = .ok n ↔
      Chooses keys default items n := by
  rw [ListRequest.pageEntry_eq_ok_iff]
  constructor
  · intro h
    cases hlast : ListRequest.last? ⟨items⟩ keys with
    | none =>
      rw [hlast] at h
      exact .inr ⟨last?_eq_none_iff.1 hlast, (Option.some.inj h).symm⟩
    | some raw =>
      rw [hlast] at h
      exact .inl ⟨raw, last?_eq_some_iff.1 hlast, positive?_eq_some_iff.1 h⟩
  · intro h
    cases h with
    | inl hgiven =>
      obtain ⟨raw, hlast, hdenotes⟩ := hgiven
      rw [last?_eq_some_iff.2 hlast]
      exact positive?_eq_some_iff.2 hdenotes
    | inr habsent =>
      rw [last?_eq_none_iff.2 habsent.1, habsent.2]
      rfl

theorem readPositive_eq_error_iff {name raw : String} {e : FilterError} :
    readPositive name raw = .error e ↔ (∀ n, ¬ Denotes raw n) ∧ e = .page name raw := by
  have hnone : (∀ n, ¬ Denotes raw n) ↔ positive? raw = none := by
    rw [Option.eq_none_iff_forall_ne_some]
    exact forall_congr' fun n => not_congr positive?_eq_some_iff.symm
  rw [hnone, readPositive]
  cases positive? raw with
  | none =>
    constructor
    · intro h
      cases h
      exact ⟨rfl, rfl⟩
    · intro h
      rw [h.2]
      rfl
  | some n =>
    constructor
    · intro h
      cases h
    · intro h
      cases h.1

theorem pageEntry_eq_error_iff {name : String} {default : UInt64} {e : FilterError} :
    ListRequest.pageEntry name default (ListRequest.last? ⟨items⟩ keys) = .error e ↔
      ∃ raw, Unreadable keys items raw ∧ e = .page name raw := by
  constructor
  · intro h
    cases hlast : ListRequest.last? ⟨items⟩ keys with
    | none =>
      rw [hlast] at h
      cases h
    | some raw =>
      rw [hlast] at h
      obtain ⟨hunread, he⟩ := readPositive_eq_error_iff.1 h
      exact ⟨raw, ⟨last?_eq_some_iff.1 hlast, hunread⟩, he⟩
  · intro h
    obtain ⟨raw, ⟨hlast, hunread⟩, he⟩ := h
    rw [last?_eq_some_iff.2 hlast]
    exact readPositive_eq_error_iff.2 ⟨hunread, he⟩

end Items

section Whole
variable {items : List (String × String)} {default : UInt64}

theorem ofItems_eq_entries :
    ofItems items default = (do
      let size ← ListRequest.pageEntry "size" (max default 1) (ListRequest.last? ⟨items⟩ ListRequest.sizeKeys)
      let number ← ListRequest.pageEntry "number" 1 (ListRequest.last? ⟨items⟩ ListRequest.numberKeys)
      pure ⟨number, size⟩) := by
  rw [ListRequest.ofItems_eq, ListRequest.ofParameters_eq]
  rfl

theorem ofItems_eq_ok_iff {page : Page} :
    ofItems items default = .ok page ↔
      Chooses ListRequest.sizeKeys (max default 1) items page.size ∧
        Chooses ListRequest.numberKeys 1 items page.number := by
  rw [ofItems_eq_entries]
  simp only [Except.bind_eq_ok_iff, pageEntry_eq_ok_iff_chooses]
  constructor
  · intro h
    obtain ⟨size, hsize, number, hnumber, hpage⟩ := h
    cases hpage
    exact ⟨hsize, hnumber⟩
  · intro h
    exact ⟨page.size, h.1, page.number, h.2, rfl⟩

theorem ofItems_eq_error_iff {e : FilterError} :
    ofItems items default = .error e ↔
      (∃ raw, Unreadable ListRequest.sizeKeys items raw ∧ e = .page "size" raw) ∨
        (∃ size, Chooses ListRequest.sizeKeys (max default 1) items size) ∧
          ∃ raw, Unreadable ListRequest.numberKeys items raw ∧ e = .page "number" raw := by
  rw [ofItems_eq_entries]
  simp only [Except.bind_eq_error_iff, pageEntry_eq_error_iff, pageEntry_eq_ok_iff_chooses]
  apply or_congr_right
  constructor
  · intro h
    obtain ⟨size, hsize, hnumber | ⟨number, -, hpage⟩⟩ := h
    · exact ⟨⟨size, hsize⟩, hnumber⟩
    · cases hpage
  · intro h
    obtain ⟨⟨size, hsize⟩, hnumber⟩ := h
    exact ⟨size, hsize, .inl hnumber⟩

end Whole

/-- Each parameter is what its last item denotes, whatever stood before that. An item that denotes nothing is an
error, and of two such items it is the one of the size. -/
theorem ofItems_reads (items : List (String × String)) (default : UInt64) :
    (∀ page, ofItems items default = .ok page ↔
      Chooses ListRequest.sizeKeys (max default 1) items page.size ∧
        Chooses ListRequest.numberKeys 1 items page.number) ∧
    ∀ e, ofItems items default = .error e ↔
      (∃ raw, Unreadable ListRequest.sizeKeys items raw ∧ e = .page "size" raw) ∨
        (∃ size, Chooses ListRequest.sizeKeys (max default 1) items size) ∧
          ∃ raw, Unreadable ListRequest.numberKeys items raw ∧ e = .page "number" raw :=
  ⟨fun _ => ofItems_eq_ok_iff, fun _ => ofItems_eq_error_iff⟩

/-- Only the last size counts, and a number may have a plus, leading zeros and blanks of any kind around it. -/
example : ofItems [("size", "ten"), ("page[number]", "\u2003+007\t"), ("page[size]", "50")] 20 = .ok ⟨7, 50⟩ := by
  cbv

example : positive? "9223372036854775808" = none := by decide +kernel

end Page
end CatalogSearch
