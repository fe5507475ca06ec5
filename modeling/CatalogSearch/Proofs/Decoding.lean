import CatalogSearch.Json.Record
import CatalogSearch.Proofs.Documents
/-!
Decoding told by values. What a decoder makes of a document that writes a value is a question about the value
(`Decoder.Reads`). The main statements are `Record.open?_object`, by which a record holds under its names what the
object holds there, and those on its required and optional fields.
-/
namespace CatalogSearch

namespace Table
variable {κ α β : Type} [DecidableEq κ]

theorem find?_filter {p : κ → Bool} {key : κ} (h : p key = true) (t : Table κ α) :
    find? (t.filter fun entry => p entry.1) key = find? t key := by
  induction t with
  | nil => rfl
  | cons entry rest ih =>
    obtain ⟨k, a⟩ := entry
    by_cases hk : k = key
    · subst hk
      rw [List.filter_cons, if_pos h, find?, find?, if_pos rfl, if_pos rfl]
    · rw [List.filter_cons, find?, if_neg hk, ← ih]
      by_cases hp : p k = true
      · rw [if_pos hp, find?, if_neg hk]
      · rw [if_neg hp]

theorem find?_of_forall₂ {R : α → β → Prop} {s : Table κ α} {t : Table κ β}
    (h : List.Forall₂ (fun x y => x.1 = y.1 ∧ R x.2 y.2) s t) (key : κ) :
    Option.Rel R (find? s key) (find? t key) := by
  induction h with
  | nil => exact .none
  | @cons x y xs ys hxy _ ih =>
    obtain ⟨hkey, hvalue⟩ := hxy
    rw [find?, find?, hkey]
    by_cases hk : y.1 = key
    · rw [if_pos hk, if_pos hk]
      exact .some hvalue
    · rw [if_neg hk, if_neg hk]
      exact ih

end Table

namespace Json

/-- Objects that hold alike values under each of the names, in whatever order and among whatever other members. -/
def AgreeOn (names : List String) (alike : String → Json → Json → Prop) : Json → Json → Prop
  | .object members, .object others =>
    ∀ name ∈ names, Option.Rel (alike name) (Table.find? members name) (Table.find? others name)
  | v, w => v = w

theorem AgreeOn.refl {names : List String} {alike : String → Json → Json → Prop}
    (h : ∀ name ∈ names, ∀ v, alike name v v) (v : Json) : AgreeOn names alike v v := by
  cases v with
  | object members =>
    intro name hname
    cases Table.find? members name with
    | none => exact .none
    | some v => exact .some (h name hname v)
  | _ => rfl

theorem AgreeOn.eq_or {names : List String} {alike : String → Json → Json → Prop} {v w : Json}
    (h : AgreeOn names alike v w) :
    v = w ∨ ∃ members others, v = .object members ∧ w = .object others ∧
      ∀ name ∈ names, Option.Rel (alike name) (Table.find? members name) (Table.find? others name) := by
  rw [AgreeOn.eq_def] at h
  split at h
  case h_1 members others => exact .inr ⟨members, others, rfl, rfl, h⟩
  case h_2 => exact .inl h

theorem AgreeOn.of_object {names : List String} {alike : String → Json → Json → Prop}
    {members : List (String × Json)} {w : Json} (h : AgreeOn names alike (.object members) w) :
    ∃ others, w = .object others ∧
      ∀ name ∈ names, Option.Rel (alike name) (Table.find? members name) (Table.find? others name) := by
  cases w with
  | object others => exact ⟨others, rfl, h⟩
  | _ => cases h

theorem rel_eq_iff {o o' : Option Json} : Option.Rel Eq o o' ↔ o = o' := by
  constructor
  · intro h
    cases h with
    | none => rfl
    | some hsame => rw [hsame]
  · intro h
    rw [h]
    cases o' with
    | none => exact .none
    | some v => exact .some rfl

namespace Decoder
variable {α : Type} {room : Nat} {d : Document}

theorem text_eq_some_iff {s : String} : text room d = some s ↔ d.json? room = some (.string s) := by
  cases d with
  | string spelling => simp [text, Document.json?]
  | array items => simp [text, Document.json?_array_ne]
  | object members => simp [text, Document.json?_object_ne]
  | _ => simp [text, Document.json?]

theorem flag_eq_some_iff {b : Bool} : flag room d = some b ↔ d.json? room = some (.bool b) := by
  cases d with
  | array items => simp [flag, Document.json?_array_ne]
  | object members => simp [flag, Document.json?_object_ne]
  | _ => simp [flag, Document.json?]

theorem eq_null_iff : d = .null ↔ d.json? room = some .null := by
  cases d with
  | array items => simp [Document.json?_array_ne]
  | object members => simp [Document.json?_object_ne]
  | _ => simp [Document.json?]

/-- The numbers that are read as words are the integers of 64 bits without a sign. -/
theorem word_number_eq_some_iff {l : Literal} {n : UInt64} :
    word room (.number l) = some n ↔ l.number? = some (.int n.toNat) := by
  rw [word]
  cases l.number? with
  | none => simp
  | some number =>
    cases number with
    | float x => simp
    | int k =>
      have hlt := n.toNat_lt_size
      by_cases hk : 0 ≤ k ∧ k < UInt64.size
      · simp only [hk, and_self, if_true, Option.some.injEq, Number.int.injEq]
        rw [← UInt64.toNat_inj, UInt64.toNat_ofNat_of_lt' (by omega)]
        omega
      · simp only [hk, if_false, reduceCtorEq, Option.some.injEq, Number.int.injEq, false_iff]
        omega

theorem word_eq_some_iff {n : UInt64} : word room d = some n ↔ d.json? room = some (.ofWord n) := by
  cases d with
  | number l =>
    rw [word_number_eq_some_iff, Document.json?, Option.map_eq_some_iff]
    simp [ofWord, ofNat]
  | array items => simp [word, ofWord, ofNat, Document.json?_array_ne]
  | object members => simp [word, ofWord, ofNat, Document.json?_object_ne]
  | _ => simp [word, Document.json?, ofWord, ofNat]

/-- Whether a decoder makes of every document that writes a value what the value means. -/
def Reads (decode : Decoder α) (meaning : Json → α → Prop) (v : Json) : Prop :=
  ∀ room d, d.Writes room v → ∀ a, decode room d = some a ↔ meaning v a

theorem reads_value (v : Json) : Reads value Eq v := by
  intro room d hwrites a
  rw [value, hwrites.value, Option.some.injEq]

theorem reads_text (v : Json) : Reads text (fun v s => v = .string s) v := by
  intro room d hwrites s
  rw [text_eq_some_iff, hwrites.value, Option.some.injEq]

theorem reads_word (v : Json) : Reads word (fun v n => v = .ofWord n) v := by
  intro room d hwrites n
  rw [word_eq_some_iff, hwrites.value, Option.some.injEq]

variable {decode : Decoder α} {meaning : Json → α → Prop} {v : Json}

theorem mapM_eq_some_iff {f : Document → Option α} {ds : List Document} {as : List α} :
    ds.mapM f = some as ↔ List.Forall₂ (fun d a => f d = some a) ds as := by
  induction ds generalizing as with
  | nil => cases as <;> simp
  | cons d rest ih => cases as <;> simp [Option.bind_eq_some_iff, ih]

theorem forall₂_decode_iff {ds : List Document} {items : List Json}
    (hitems : List.Forall₂ (Document.Writes room) ds items)
    (h : ∀ item ∈ items, Reads decode meaning item) (as : List α) :
    List.Forall₂ (fun d a => decode room d = some a) ds as ↔ List.Forall₂ meaning items as := by
  induction hitems generalizing as with
  | nil => rw [List.forall₂_nil_left_iff, List.forall₂_nil_left_iff]
  | @cons d item ds items hwrites _ ih =>
    rw [List.forall_mem_cons] at h
    rw [List.forall₂_cons_left_iff, List.forall₂_cons_left_iff]
    simp only [h.1 room d hwrites, ih h.2]

theorem reads_list (h : ∀ items, v = .array items → ∀ item ∈ items, Reads decode meaning item) :
    Reads (list decode) (fun v as => ∃ items, v = .array items ∧ List.Forall₂ meaning items as) v := by
  intro room d hwrites as
  by_cases harray : ∃ items, v = .array items
  · obtain ⟨items, hv⟩ := harray
    subst hv
    obtain ⟨ds, hd, hroom, hitems⟩ := hwrites.of_array
    rw [hd, list, if_neg hroom, mapM_eq_some_iff, forall₂_decode_iff hitems (h items rfl)]
    simp
  · have hlist : list decode room d = none := by
      cases d with
      | array ds => exact absurd hwrites.value (Document.json?_array_ne fun items hv => harray ⟨items, hv⟩)
      | _ => rfl
    rw [hlist]
    exact iff_of_false nofun fun hsome => harray (hsome.imp fun _ hitems => hitems.1)

def Takes (decode : Decoder α) (v : Json) (a : α) : Prop :=
  ∀ room d, d.Writes room v → decode room d = some a

theorem takes_text (s : String) : Takes text (.string s) s := by
  intro room d hwrites
  exact text_eq_some_iff.2 hwrites.value

theorem takes_flag (b : Bool) : Takes flag (.bool b) b := by
  intro room d hwrites
  exact flag_eq_some_iff.2 hwrites.value

theorem takes_word (n : UInt64) : Takes word (.ofWord n) n := by
  intro room d hwrites
  exact word_eq_some_iff.2 hwrites.value

theorem takes_null (decode : Decoder α) : Takes (nullable decode) .null none := by
  intro room d hwrites
  rw [eq_null_iff.2 hwrites.value]
  rfl

theorem Takes.nullable {a : α} (h : Takes decode v a) (hnull : v ≠ .null) :
    Takes (nullable decode) v (some a) := by
  intro room d hwrites
  have hd : d ≠ .null := fun hd => hnull (Option.some.inj (hwrites.value.symm.trans (eq_null_iff.1 hd)))
  have hdecode : Decoder.nullable decode room d = (decode room d).map some := by
    cases d with
    | null => exact absurd rfl hd
    | _ => rfl
  rw [hdecode, h room d hwrites, Option.map_some]

end Decoder

namespace Record
variable {α : Type} {names : List String} {members : List (String × Json)} {room : Nat} {d : Document}

/-- A record that holds under each of the names what the members hold. -/
def Holds (r : Record) (names : List String) (members : List (String × Json)) : Prop :=
  ∀ name ∈ names, Option.Rel (Document.Writes r.room) (Table.find? r.given name) (Table.find? members name)

theorem known?_of_writes {written : List (Spelling × Document)} (names : List String)
    (h : Document.WritesMembers room written members) (hnodup : (Table.keys members).Nodup) :
    ∃ given, known? names written = some given ∧
      List.Forall₂ (fun x y => x.1 = y.1 ∧ Document.Writes room x.2 y.2) given
        (members.filter fun member => names.contains member.1) := by
  induction h with
  | nil => exact ⟨[], rfl, .nil⟩
  | @cons w member written members hmember _ ih =>
    obtain ⟨spelling, d⟩ := w
    obtain ⟨name, v⟩ := member
    obtain ⟨hname, hwrites⟩ := hmember
    rw [Table.keys, List.map_cons, List.nodup_cons] at hnodup
    obtain ⟨hnew, hrest⟩ := hnodup
    obtain ⟨given, hgiven, hsame⟩ := ih hrest
    have hkeys : given.map Prod.fst = (members.filter fun member => names.contains member.1).map Prod.fst := by
      rw [← List.forall₂_eq_eq_eq, List.forall₂_map_left_iff, List.forall₂_map_right_iff]
      exact hsame.imp fun _ _ hboth => hboth.1
    have hnot : name ∉ given.map Prod.fst := by
      rw [hkeys]
      intro hmem
      obtain ⟨other, hother, hfst⟩ := List.mem_map.1 hmem
      exact hnew (List.mem_map.2 ⟨other, (List.mem_filter.1 hother).1, hfst⟩)
    simp only [known?, hname, hgiven, Option.bind_eq_bind, Option.bind_some, List.filter_cons]
    by_cases hknown : name ∈ names
    · refine ⟨(name, d) :: given, ?_, ?_⟩
      · simp [hknown, hnot]
      · rw [if_pos (List.contains_iff_mem.2 hknown)]
        exact .cons ⟨rfl, hwrites⟩ hsame
    · refine ⟨given, ?_, ?_⟩
      · simp [hknown]
      · rw [if_neg (mt List.contains_iff_mem.1 hknown)]
        exact hsame

theorem open?_object (names : List String) (h : d.Writes room (.object members)) :
    ∃ r, open? names room d = some r ∧ r.Holds names members := by
  obtain ⟨written, hd, hroom, hmembers, hnodup⟩ := h.of_object
  obtain ⟨given, hgiven, hsame⟩ := known?_of_writes names hmembers hnodup
  refine ⟨⟨room - 1, given⟩, ?_, ?_⟩
  · rw [hd, open?, if_neg hroom, hgiven]
    rfl
  · intro name hname
    have hfind := Table.find?_of_forall₂ hsame name
    rwa [Table.find?_filter (List.contains_iff_mem.2 hname)] at hfind

theorem open?_eq_none {v : Json} (names : List String) (h : d.Writes room v)
    (harray : ∀ items, v ≠ .array items) (hobject : ∀ members, v ≠ .object members) :
    open? names room d = none := by
  cases d with
  | array items => exact absurd h.value (Document.json?_array_ne harray)
  | object written => exact absurd h.value (Document.json?_object_ne hobject)
  | _ => rfl

section Fields
variable {r : Record} {name : String} {decode : Decoder α} {meaning : Json → α → Prop} {a : α}

theorem Holds.required_eq_some_iff (h : r.Holds names members) (hname : name ∈ names)
    (hreads : ∀ v, Table.find? members name = some v → decode.Reads meaning v) :
    r.required name decode = some a ↔ ∃ v, Table.find? members name = some v ∧ meaning v a := by
  have hfield := h name hname
  rw [required]
  generalize Table.find? r.given name = given at hfield
  generalize Table.find? members name = held at hfield hreads
  cases hfield with
  | none => simp
  | some hwrites => simp [hreads _ rfl _ _ hwrites]

theorem Holds.optional_eq_some_iff (h : r.Holds names members) (hname : name ∈ names)
    (hreads : ∀ v, Table.find? members name = some v → decode.Reads meaning v) {silent : α} :
    r.optional name decode silent = some a ↔
      (Table.find? members name = none ∧ a = silent) ∨
        ∃ v, Table.find? members name = some v ∧ meaning v a := by
  have hfield := h name hname
  rw [optional]
  generalize Table.find? r.given name = given at hfield
  generalize Table.find? members name = held at hfield hreads
  cases hfield with
  | none => simp [eq_comm]
  | some hwrites => simp [hreads _ rfl _ _ hwrites]

end Fields

/-- A decoder that opens a record reads objects as what it says of a record that holds their members; nothing else
means anything to it. -/
theorem reads_of_object {v : Json} {body : Record → Option α} {meaning : Json → α → Prop}
    (harray : ∀ items, v ≠ .array items) (hobject : ∀ a, meaning v a → ∃ members, v = .object members)
    (hbody : ∀ members r, v = .object members → r.Holds names members → ∀ a, body r = some a ↔ meaning v a) :
    Decoder.Reads (fun room d => (open? names room d).bind body) meaning v := by
  intro room d hwrites a
  by_cases hmembers : ∃ members, v = .object members
  · obtain ⟨members, hv⟩ := hmembers
    rw [hv] at hwrites
    obtain ⟨r, hr, hholds⟩ := open?_object names hwrites
    simp only [hr, Option.bind_some]
    exact hbody members r hv hholds a
  · have hnone := open?_eq_none names hwrites harray fun members hv => hmembers ⟨members, hv⟩
    simp only [hnone, Option.bind_none]
    exact iff_of_false nofun fun hmeaning => hmembers (hobject a hmeaning)

end Record
end Json
end CatalogSearch
