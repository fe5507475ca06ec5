import CatalogSearch.Proofs.Unfiltered
/-!
What strict parsing heeds of an element. An element may state something with each of the members `or`, `and` and
`op`. The main statement is `strict_heeds_first`: wherever strict parsing comes to an element, the filter of the
element says what the first of these says. So nothing is ignored of an element that has but one of them.
-/
namespace CatalogSearch

universe u
variable {Object : Type u}

namespace Element

def stated (fields : List (String × Json)) : List String :=
  ["or", "and", "op"].filter fun name => (Table.find? fields name).isSome

/-- What a member of an element says by itself of an object: that some or that all of its list hold, or what the
operation says. -/
def saying (e : Engine Object) (fields : List (String × Json)) : String → Option (Object → Bool)
  | "or" => ((Table.find? fields "or").bind Json.items?).bind fun members => someOf (members.filterMap (reading e))
  | "and" => ((Table.find? fields "and").bind Json.items?).bind fun members => allOf (members.filterMap (reading e))
  | "op" => (Table.find? fields "op").bind (named e fields)
  | _ => none

section Stated
variable {fields : List (String × Json)} {name : String}

theorem mem_stated_of_saying {e : Engine Object} {condition : Object → Bool}
    (h : saying e fields name = some condition) : name ∈ stated fields := by
  rw [saying.eq_def] at h
  split at h
  · obtain ⟨members, hitems, -⟩ := Option.bind_eq_some_iff.1 h
    obtain ⟨list, hlist, -⟩ := Option.bind_eq_some_iff.1 hitems
    simp [stated, hlist]
  · obtain ⟨members, hitems, -⟩ := Option.bind_eq_some_iff.1 h
    obtain ⟨list, hlist, -⟩ := Option.bind_eq_some_iff.1 hitems
    simp [stated, hlist]
  · obtain ⟨op, hop, -⟩ := Option.bind_eq_some_iff.1 h
    simp [stated, hop]
  · cases h

theorem bind_items?_eq_none {value : Json} (h : ∀ elements, value = .array elements → False) : value.items? = none := by
  cases value with
  | array elements => exact absurd rfl (h elements)
  | _ => rfl

theorem reading_eq_saying (e : Engine Object) (h : (stated fields).head? = some name) :
    reading e (.object fields) = saying e fields name := by
  rw [reading]
  split
  · next elements hor =>
    obtain rfl : "or" = name := by simpa [stated, hor] using h
    simp [saying, hor, Json.items?]
  · next value hlist hor =>
    obtain rfl : "or" = name := by simpa [stated, hor] using h
    simp [saying, hor, bind_items?_eq_none hlist]
  · next elements hor hand =>
    obtain rfl : "and" = name := by simpa [stated, hor, hand] using h
    simp [saying, hand, Json.items?]
  · next value hlist hor hand =>
    obtain rfl : "and" = name := by simpa [stated, hor, hand] using h
    simp [saying, hand, bind_items?_eq_none hlist]
  · next op hor hand hop =>
    obtain rfl : "op" = name := by simpa [stated, hor, hand, hop] using h
    simp [saying, hop]
  · next hor hand hop => simp [stated, hor, hand, hop] at h

theorem isSome_lenientFilter_of_op (h : (stated fields).head? = some "op") (hfaults : faults (.object fields) = []) :
    (lenientFilter (.object fields)).isSome = true := by
  have hor : Table.find? fields "or" = none := by
    cases hor : Table.find? fields "or" with
    | none => rfl
    | some value => simp [stated, hor] at h
  have hand : Table.find? fields "and" = none := by
    cases hand : Table.find? fields "and" with
    | none => rfl
    | some value => simp [stated, hor, hand] at h
  cases hshape : Shape.of (.object fields) with
  | group join members => exact absurd hshape (Shape.ofMembers_ne_group hor hand join members)
  | leaf field condition =>
    rw [lenientFilter_leaf hshape]
    rfl
  | malformed reason =>
    rw [faults_malformed hshape] at hfaults
    cases hfaults

end Stated

theorem faults_eq_nil_of_reaches {v x : Json} (h : Reaches v x) (hv : faults v = []) : faults x = [] := by
  induction h with
  | refl => exact hv
  | tail _ hmember ih =>
    obtain ⟨join, members, hshape, hmem⟩ := hasMember_iff.1 hmember
    rw [faults_group hshape, List.flatMap_eq_nil_iff] at ih
    exact ih _ hmem

end Element

namespace Criteria
open Element (stated saying)

theorem faults_eq_nil_of_strict {v : Json} {f : Option Filter} (h : filter? .strict v = .ok f) : faults v = [] := by
  rw [filter?_strict] at h
  cases hfaults : faults v with
  | nil => rfl
  | cons fault rest =>
    rw [hfaults] at h
    cases h

/-- Wherever strict parsing comes to an element, the filter of the element says what is stated first in it, and an
operation is never without a filter. So it says all that the element states if that is stated by one member only. -/
theorem strict_heeds_first {v : Json} {f : Option Filter} (h : filter? .strict v = .ok f) {element : Json}
    (helement : element ∈ elements v) {fields : List (String × Json)}
    (hreaches : Element.Reaches element (.object fields)) :
    ∃ node, (Criterion.ofJson (.object fields)).filter? .strict = .ok node ∧
      (∀ name, (stated fields).head? = some name → (name = "op" → node.isSome = true) ∧
        ∀ {Object : Type u} (e : Engine Object), node.map (Filter.holds e) = saying e fields name) ∧
      ((stated fields).length ≤ 1 → ∀ {Object : Type u} (e : Engine Object) (o : Object),
        (node.all fun g => g.holds e o) = true →
          ∀ name condition, saying e fields name = some condition → condition o = true) := by
  have hfaults : Element.faults (.object fields) = [] :=
    Element.faults_eq_nil_of_reaches hreaches (List.flatMap_eq_nil_iff.1 (faults_eq_nil_of_strict h) element helement)
  have hfirst {name : String} (hname : (stated fields).head? = some name) {Object : Type u} (e : Engine Object) :
      (Element.lenientFilter (.object fields)).map (Filter.holds e) = saying e fields name :=
    (Element.map_holds_lenientFilter e _).trans (Element.reading_eq_saying e hname)
  refine ⟨Element.lenientFilter (.object fields), ?_, fun name hname => ⟨?_, hfirst hname⟩, ?_⟩
  · rw [Element.filter?_strict, hfaults]
    rfl
  · rintro rfl
    exact Element.isSome_lenientFilter_of_op hname hfaults
  · intro hone Object e o hholds name condition hsaying
    have hname : (stated fields).head? = some name := by
      -- What says something is stated, so here it is the only one.
      have hmem := Element.mem_stated_of_saying hsaying
      obtain ⟨first, hstated⟩ := List.length_eq_one_iff.1 (Nat.le_antisymm hone (List.length_pos_of_mem hmem))
      rw [hstated, List.mem_singleton] at hmem
      rw [hstated, hmem]
      rfl
    obtain ⟨node, hnode, rfl⟩ := Option.map_eq_some_iff.1 ((hfirst hname e).trans hsaying)
    rwa [hnode] at hholds

theorem filter?_strict_of_faults {v : Json} (h : ∀ x ∈ elements v, Element.faults x = []) :
    filter? .strict v = .ok (lenientFilter v) := by
  rw [filter?_strict, faults, List.flatMap_eq_nil_iff.2 h]
  rfl

def labelled : Json := Element.asking "eq" "label" (.string "a")

def identified : Json := Element.asking "ne" "id" .null

theorem shape_labelled : Shape.of labelled = .leaf "label" (.equals (.string "a")) :=
  (Element.asks_asking _ _ _).of_eq_leaf (by decide +kernel) rfl

theorem shape_identified : Shape.of identified = .leaf "id" (.differs .null) :=
  (Element.asks_asking _ _ _).of_eq_leaf (by decide +kernel) rfl

def eitherFields : List (String × Json) := [("note", .string "?"), ("or", .array [labelled, identified])]

theorem strict_heeds_first_either :
    ∃ f node, filter? .strict (.array [.object eitherFields]) = .ok f ∧
      (Criterion.ofJson (.object eitherFields)).filter? .strict = .ok node ∧
      ∀ (o : Document) (condition : Document → Bool), (node.all fun g => g.holds Engine.literal o) = true →
        Element.saying Engine.literal eitherFields "or" = some condition → condition o = true := by
  have hshape : Shape.of (.object eitherFields) = .group .any [labelled, identified] := rfl
  have hfaults : ∀ x ∈ elements (.array [.object eitherFields]), Element.faults x = [] := by
    intro x hx
    rw [List.mem_singleton.1 hx, Element.faults_group hshape, List.flatMap_cons, List.flatMap_singleton,
      Element.faults_leaf shape_labelled, Element.faults_leaf shape_identified]
    rfl
  have haccepted := filter?_strict_of_faults hfaults
  obtain ⟨node, hnode, -, hheeds⟩ := strict_heeds_first haccepted List.mem_cons_self .refl
  exact ⟨_, node, haccepted, hnode, fun o condition hholds hsaying =>
    hheeds (by decide) Engine.literal o hholds "or" condition hsaying⟩

def bothFields : List (String × Json) := [("or", .array [labelled]), ("and", .array [identified])]

/-- Beside `or` a list under `and` is ignored by strict parsing, too: what is found need not be in the list. -/
theorem strict_ignores_and_beside_or :
    ∃ f, filter? .strict (.object bothFields) = .ok (some f) ∧
      f.holds Engine.literal (.mk [("label", .string "a")] []) = true ∧
      ∃ condition, Element.saying Engine.literal bothFields "and" = some condition ∧
        condition (.mk [("label", .string "a")] []) = false := by
  have hshape : Shape.of (.object bothFields) = .group .any [labelled] := rfl
  have hfaults : ∀ x ∈ elements (.object bothFields), Element.faults x = [] := by
    intro x hx
    rw [List.mem_singleton.1 hx, Element.faults_group hshape, List.flatMap_singleton,
      Element.faults_leaf shape_labelled]
  have hgroup : Element.lenientFilter (.object bothFields) =
      some (.inScopes "label" ((Condition.equals (.string "a")).onField "label")) := by
    rw [Element.lenientFilter_group hshape, List.filterMap_cons, Element.lenientFilter_leaf shape_labelled]
    rfl
  have hfilter : lenientFilter (.object bothFields) =
      some (.inScopes "label" ((Condition.equals (.string "a")).onField "label")) := by
    rw [lenientFilter_eq]
    change Filter.all? ([Json.object bothFields].filterMap Element.lenientFilter) = _
    rw [List.filterMap_cons, hgroup]
    rfl
  have hidentified : Element.reading Engine.literal identified =
      some (Filter.holds Engine.literal (.inScopes "id" ((Condition.differs .null).onField "id"))) :=
    (Element.map_holds_lenientFilter Engine.literal identified).symm.trans
      (congrArg _ (Element.lenientFilter_leaf shape_identified))
  refine ⟨_, (filter?_strict_of_faults hfaults).trans (congrArg _ hfilter), by decide +kernel, ?_⟩
  have hsaying : saying Engine.literal bothFields "and" =
      Element.allOf ([identified].filterMap (Element.reading Engine.literal)) := rfl
  rw [hsaying, List.filterMap_cons, hidentified]
  exact ⟨_, rfl, by decide +kernel⟩

end Criteria
end CatalogSearch
