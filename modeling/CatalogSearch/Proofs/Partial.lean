import CatalogSearch.Proofs.Decoding
import CatalogSearch.Proofs.Printing
/-!
Objects of which members are left out, and objects with further members. The main statements are
`Record.Holds.optional_of_without`, by which a field that is left out has its default and no other is changed, and
`Record.open?_known`, by which members of unknown names are not seen.
-/
namespace CatalogSearch

theorem Table.find?_map {κ α β : Type} [DecidableEq κ] (f : κ → α → β) (t : Table κ α) (key : κ) :
    find? (t.map fun x => (x.1, f x.1 x.2)) key = (find? t key).map (f key) := by
  induction t with
  | nil => rfl
  | cons entry rest ih =>
    obtain ⟨k, a⟩ := entry
    rw [List.map_cons, find?, find?]
    by_cases hk : k = key
    · rw [if_pos hk, if_pos hk, hk, Option.map_some]
    · rw [if_neg hk, if_neg hk, ih]

namespace Json

mutual

/-- A value without the members that are left out, each told by the names that lead to it. -/
def without (out : List String → Bool) : Json → Json
  | .object members => .object (withoutMembers out members)
  | v => v

def withoutMembers (out : List String → Bool) : List (String × Json) → List (String × Json)
  | [] => []
  | (name, v) :: rest =>
    if out [name] then withoutMembers out rest
    else (name, without (fun path => out (name :: path)) v) :: withoutMembers out rest

end

theorem without_of_leaf {v : Json} (h : ∀ members, v ≠ .object members) (out : List String → Bool) :
    v.without out = v := by
  cases v with
  | object members => exact absurd rfl (h members)
  | _ => rfl

mutual

theorem without_none : ∀ v : Json, v.without (fun _ => false) = v
  | .object members => by rw [without, withoutMembers_none members]
  | .null | .bool _ | .number _ | .string _ | .array _ => rfl

theorem withoutMembers_none : ∀ members, withoutMembers (fun _ => false) members = members
  | [] => rfl
  | (name, v) :: rest => by rw [withoutMembers, if_neg nofun, without_none v, withoutMembers_none rest]

end

theorem find?_withoutMembers (out : List String → Bool) (members : List (String × Json)) (name : String) :
    Table.find? (withoutMembers out members) name =
      if out [name] then none
      else (Table.find? members name).map (without fun path => out (name :: path)) := by
  induction members with
  | nil => simp [withoutMembers, Table.find?]
  | cons member rest ih =>
    obtain ⟨key, v⟩ := member
    rw [withoutMembers, Table.find?]
    by_cases hkey : key = name
    · subst hkey
      by_cases hout : out [key] = true
      · rw [if_pos hout, ih, if_pos hout, if_pos hout]
      · rw [if_neg hout, Table.find?, if_pos rfl, if_pos rfl, if_neg hout, Option.map_some]
    · rw [if_neg hkey, ← ih]
      by_cases hout : out [key] = true
      · rw [if_pos hout]
      · rw [if_neg hout, Table.find?, if_neg hkey]

theorem keys_withoutMembers_sublist (out : List String → Bool) (members : List (String × Json)) :
    (Table.keys (withoutMembers out members)).Sublist (Table.keys members) := by
  induction members with
  | nil => exact List.Sublist.refl []
  | cons member rest ih =>
    obtain ⟨name, v⟩ := member
    rw [withoutMembers]
    by_cases hout : out [name] = true
    · rw [if_pos hout]
      exact ih.cons name
    · rw [if_neg hout]
      exact ih.cons_cons name

theorem mem_withoutMembers {out : List String → Bool} {members : List (String × Json)} {member : String × Json}
    (h : member ∈ withoutMembers out members) :
    ∃ v, (member.1, v) ∈ members ∧ member.2 = v.without fun path => out (member.1 :: path) := by
  induction members with
  | nil => cases h
  | cons first rest ih =>
    obtain ⟨name, v⟩ := first
    have hrest (hmem : member ∈ withoutMembers out rest) :
        ∃ w, (member.1, w) ∈ (name, v) :: rest ∧ member.2 = w.without fun path => out (member.1 :: path) := by
      obtain ⟨w, hw, hvalue⟩ := ih hmem
      exact ⟨w, List.mem_cons_of_mem _ hw, hvalue⟩
    rw [withoutMembers] at h
    by_cases hout : out [name] = true
    · rw [if_pos hout] at h
      exact hrest h
    · rw [if_neg hout, List.mem_cons] at h
      cases h with
      | inl hfirst =>
        subst hfirst
        exact ⟨v, List.mem_cons_self, rfl⟩
      | inr hmem => exact hrest hmem

/-- A value of which any members may be left out for it to be printed as some document. -/
def PrintedWithout (room : Nat) (v : Json) : Prop := ∀ out, ∃ d, Prints room d (v.without out)

section PrintedWithout
variable {room : Nat}

theorem printedWithout_of_leaf {v : Json} (hleaf : ∀ members, v ≠ .object members) {d : Document}
    (h : Prints room d v) : PrintedWithout room v := by
  intro out
  rw [without_of_leaf hleaf]
  exact ⟨d, h⟩

theorem printedWithout_object {members : List (String × Json)} (hkeys : (Table.keys members).Nodup)
    (h : ∀ member ∈ members, PrintedWithout room member.2) : PrintedWithout (room + 1) (.object members) := by
  intro out
  apply exists_prints_object (hkeys.sublist (keys_withoutMembers_sublist out members))
  intro member hmem
  obtain ⟨v, hv, hvalue⟩ := mem_withoutMembers hmem
  rw [hvalue]
  exact h _ hv _

theorem printedWithout_bool (b : Bool) : PrintedWithout room (.bool b) :=
  printedWithout_of_leaf nofun (prints_bool b)

theorem printedWithout_string (s : String) : PrintedWithout room (.string s) :=
  printedWithout_of_leaf nofun (prints_string s)

theorem printedWithout_word (n : UInt64) : PrintedWithout room (.ofWord n) :=
  printedWithout_of_leaf nofun (prints_word n)

end PrintedWithout

namespace Document

def knownMember? (names : List String) (inner : String → Document → Document) (member : Spelling × Document) :
    Option (Spelling × Document) :=
  match member.1.text? with
  | none => some member
  | some name => if names.contains name then some (member.1, inner name member.2) else none

/-- An object without its members of other names, and the members that it keeps changed one by one. -/
def known (names : List String) (inner : String → Document → Document) : Document → Document
  | .object members => .object (members.filterMap (knownMember? names inner))
  | d => d

end Document

namespace Record
variable {α : Type} {room : Nat}

theorem known?_filterMap (names : List String) (inner : String → Document → Document)
    (members : List (Spelling × Document)) :
    known? names (members.filterMap (Document.knownMember? names inner)) =
      (known? names members).map fun given => given.map fun x => (x.1, inner x.1 x.2) := by
  induction members with
  | nil => rfl
  | cons member rest ih =>
    obtain ⟨spelling, d⟩ := member
    rw [List.filterMap_cons, Document.knownMember?]
    cases hname : spelling.text? with
    | none => simp [known?, hname]
    | some name =>
      by_cases hknown : names.contains name = true
      · have hkeys (given : Table String Document) :
            (given.map fun x => (x.1, inner x.1 x.2)).map Prod.fst = given.map Prod.fst := by
          rw [List.map_map]
          rfl
        simp only [if_pos hknown, known?, hname, ih]
        cases known? names rest with
        | none => rfl
        | some given =>
          simp only [Option.map_some, Option.bind_eq_bind, Option.bind_some, hkeys]
          by_cases hrepeat : (given.map Prod.fst).contains name = true
          · rw [if_pos hknown, if_pos hrepeat, if_pos hknown, if_pos hrepeat, Option.map_none]
          · rw [if_pos hknown, if_neg hrepeat, if_pos hknown, if_neg hrepeat]
            rfl
      · simp [known?, hname, ih, -List.contains_eq_mem, hknown]

theorem open?_known (names : List String) (d : Document) :
    open? names room (d.known names fun _ d => d) = open? names room d := by
  cases d with
  | object members =>
    rw [Document.known, open?, known?_filterMap]
    simp [open?]
  | _ => rfl

theorem open?_known_object (names : List String) (inner : String → Document → Document)
    (members : List (Spelling × Document)) :
    open? names room ((Document.object members).known names inner) =
      (open? names room (.object members)).map fun r => ⟨r.room, r.given.map fun x => (x.1, inner x.1 x.2)⟩ := by
  rw [Document.known, open?, open?, known?_filterMap]
  by_cases hroom : room = 0
  · rw [if_pos hroom, if_pos hroom, Option.map_none]
  · rw [if_neg hroom, if_neg hroom, Option.map_map, Option.map_map]
    rfl

theorem optional_map {r : Record} {name : String} {decode : Decoder α} (inner : String → Document → Document)
    (h : ∀ room d, decode room (inner name d) = decode room d) (silent : α) :
    optional ⟨r.room, r.given.map fun x => (x.1, inner x.1 x.2)⟩ name decode silent =
      r.optional name decode silent := by
  simp only [optional, Table.find?_map]
  cases Table.find? r.given name with
  | none => rfl
  | some d => exact h r.room d

section Without
variable {r : Record} {names : List String} {base members : List (String × Json)}
  {out : List String → Bool}

theorem Holds.optional_of_without (h : r.Holds names members) {alike : String → Json → Json → Prop}
    (hagree : ∀ name ∈ names,
      Option.Rel (alike name) (Table.find? (withoutMembers out base) name) (Table.find? members name))
    {name : String} {decode : Decoder α} {v : Json} {a : α} (hname : name ∈ names)
    (hfind : Table.find? base name = some v) (silent : α)
    (htakes : ∀ w, alike name (v.without fun path => out (name :: path)) w → decode.Takes w a) :
    r.optional name decode silent = some (if out [name] then silent else a) := by
  have hheld := hagree name hname
  have hfield := h name hname
  rw [find?_withoutMembers, hfind, Option.map_some] at hheld
  rw [optional]
  generalize Table.find? r.given name = given at hfield
  generalize Table.find? members name = held at hfield hheld
  by_cases hout : out [name] = true
  · rw [if_pos hout] at hheld ⊢
    cases hheld
    cases hfield
    rfl
  · rw [if_neg hout] at hheld ⊢
    cases hheld with
    | some halike =>
      cases hfield with
      | some hwrites => exact htakes _ halike _ _ hwrites

theorem Holds.optional_of_leaf (h : r.Holds names members)
    (hagree : ∀ name ∈ names,
      Option.Rel Eq (Table.find? (withoutMembers out base) name) (Table.find? members name))
    {name : String} {decode : Decoder α} {v : Json} {a : α} (hname : name ∈ names)
    (hfind : Table.find? base name = some v) (silent : α) (htakes : decode.Takes v a)
    (hleaf : ∀ fields, v ≠ .object fields) :
    r.optional name decode silent = some (if out [name] then silent else a) := by
  have htakes_alike (w : Json) (hw : (v.without fun path => out (name :: path)) = w) : decode.Takes w a := by
    rwa [← hw, without_of_leaf hleaf]
  exact h.optional_of_without hagree hname hfind silent htakes_alike

end Without
end Record
end Json
end CatalogSearch
