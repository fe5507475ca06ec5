import CatalogSearch.Proofs.Leniency
import CatalogSearch.Proofs.Shapes
import Mathlib.Data.List.Basic
/-!
Strict and lenient parsing. The faults of a filter are its elements without a meaning, in the order in which
they are met, and pruning takes just these out. The main statement is `strict_agrees_with_lenient`: strict
parsing stops at the first fault; where there is none it does what lenient parsing does, and that is what it
does to everything that was pruned.
-/
namespace CatalogSearch

theorem Table.insert_of_find? {κ α : Type} [DecidableEq κ] {t : Table κ α} {key : κ} {value : α}
    (h : find? t key = some value) : insert t key value = t := by
  induction t with
  | nil => cases h
  | cons entry rest ih =>
    obtain ⟨k, a⟩ := entry
    rw [find?] at h
    rw [insert]
    by_cases hk : k = key
    · rw [if_pos hk] at h ⊢
      cases h
      rfl
    · rw [if_neg hk] at h ⊢
      rw [ih h]

structure Fault where
  reason : Malformation
  element : Json

namespace Fault

def error (fault : Fault) : FilterError := .malformed fault.reason fault.element

def stop {α : Type} (result : α) : List Fault → Except FilterError α
  | [] => .ok result
  | fault :: _ => .error fault.error

theorem stop_bind {α β : Type} {a : α} {b : β} {f : α → Except FilterError β} {faults more : List Fault}
    (h : f a = stop b more) : (stop a faults >>= f) = stop b (faults ++ more) := by
  cases faults with
  | nil => exact h
  | cons fault rest => rfl

theorem stop_pure {α β : Type} (a : α) (f : α → β) (faults : List Fault) :
    (stop a faults >>= fun a => pure (f a)) = stop (f a) faults := by
  cases faults <;> rfl

end Fault

namespace Element

/-- The faults of an element: itself, or those of the members of its group. -/
def faults (v : Json) : List Fault :=
  match _h : Shape.of v with
  | .group _ members => members.attach.flatMap fun ⟨member, _⟩ => faults member
  | .leaf _ _ => []
  | .malformed reason => [⟨reason, v⟩]
termination_by sizeOf v
decreasing_by
  have := Shape.sizeOf_of _h
  have := List.sizeOf_lt_of_mem ‹member ∈ members›
  omega

def regroup (v : Json) (join : Join) (members : List Json) : Json :=
  match v with
  | .object fields => .object (Table.insert fields join.member (.array members))
  | v => v

def prune? (v : Json) : Option Json :=
  match _h : Shape.of v with
  | .group join members => some (regroup v join (members.attach.filterMap fun ⟨member, _⟩ => prune? member))
  | .leaf _ _ => some v
  | .malformed _ => none
termination_by sizeOf v
decreasing_by
  have := Shape.sizeOf_of _h
  have := List.sizeOf_lt_of_mem ‹member ∈ members›
  omega

section Equations
variable {v : Json}

theorem faults_group {join : Join} {members : List Json} (h : Shape.of v = .group join members) :
    faults v = members.flatMap faults := by
  rw [faults]
  split <;> simp_all [List.flatMap]

theorem faults_leaf {field : String} {condition : Condition} (h : Shape.of v = .leaf field condition) :
    faults v = [] := by
  rw [faults]
  split <;> simp_all

theorem faults_malformed {reason : Malformation} (h : Shape.of v = .malformed reason) :
    faults v = [⟨reason, v⟩] := by
  rw [faults]
  split <;> simp_all

theorem prune?_group {join : Join} {members : List Json} (h : Shape.of v = .group join members) :
    prune? v = some (regroup v join (members.filterMap prune?)) := by
  rw [prune?]
  split <;> simp_all

theorem prune?_leaf {field : String} {condition : Condition} (h : Shape.of v = .leaf field condition) :
    prune? v = some v := by
  rw [prune?]
  split <;> simp_all

theorem prune?_malformed {reason : Malformation} (h : Shape.of v = .malformed reason) : prune? v = none := by
  rw [prune?]
  split <;> simp_all

end Equations

theorem of_regroup {v : Json} {join : Join} {members : List Json} (h : Shape.of v = .group join members)
    (others : List Json) : Shape.of (regroup v join others) = .group join others := by
  obtain ⟨fields, rfl, hmember, hor⟩ := Shape.of_eq_group_iff.1 h
  refine Shape.of_eq_group_iff.2 ⟨_, rfl, ?_, fun hjoin => ?_⟩
  · rw [Table.find?_insert, if_pos rfl]
  · subst hjoin
    rw [Table.find?_insert, if_neg (by decide)]
    exact hor rfl

theorem regroup_eq_self_iff {v : Json} {join : Join} {members : List Json}
    (h : Shape.of v = .group join members) (others : List Json) :
    regroup v join others = v ↔ others = members := by
  constructor
  · intro hsame
    have hothers := of_regroup h others
    rw [hsame, h] at hothers
    cases hothers
    rfl
  · rintro rfl
    obtain ⟨fields, rfl, hmember, -⟩ := Shape.of_eq_group_iff.1 h
    rw [regroup, Table.insert_of_find? hmember]

/-- Pruning leaves an element as it is exactly where it has no fault. -/
theorem prune?_eq_self_iff (v : Json) : prune? v = some v ↔ faults v = [] := by
  induction v using Shape.induction with
  | group v join members h ih =>
    have hkept := List.filterMap_eq_map_iff_forall_eq_some (f := prune?) (g := id) (l := members)
    rw [List.map_id] at hkept
    rw [prune?_group h, Option.some.injEq, regroup_eq_self_iff h, hkept, faults_group h, List.flatMap_eq_nil_iff]
    exact forall₂_congr ih
  | leaf v field condition h => simp [prune?_leaf h, faults_leaf h]
  | malformed v reason h => simp [prune?_malformed h, faults_malformed h]

theorem faults_prune? {v kept : Json} (h : prune? v = some kept) : faults kept = [] := by
  induction v using Shape.induction generalizing kept with
  | group v join members hv ih =>
    rw [prune?_group hv] at h
    cases h
    rw [faults_group (of_regroup hv _), List.flatMap_eq_nil_iff]
    intro member hmember
    obtain ⟨original, horiginal, hkept⟩ := List.mem_filterMap.1 hmember
    exact ih original horiginal hkept
  | leaf v field condition hv =>
    rw [prune?_leaf hv] at h
    cases h
    exact faults_leaf hv
  | malformed v reason hv =>
    rw [prune?_malformed hv] at h
    cases h

def lenientFilter (v : Json) : Option Filter := (Criterion.ofJson v).lenientFilter

theorem lenientFilter_group {v : Json} {join : Join} {members : List Json}
    (h : Shape.of v = .group join members) : lenientFilter v = join.of (members.filterMap lenientFilter) := by
  rw [lenientFilter, Criterion.ofJson_group h, Criterion.lenientFilter_group, List.filterMap_map]
  rfl

theorem lenientFilter_leaf {v : Json} {field : String} {condition : Condition}
    (h : Shape.of v = .leaf field condition) :
    lenientFilter v = some (.inScopes field (condition.onField field)) := by
  rw [lenientFilter, Criterion.ofJson_leaf h, Criterion.lenientFilter_leaf]

theorem lenientFilter_malformed {v : Json} {reason : Malformation} (h : Shape.of v = .malformed reason) :
    lenientFilter v = none := by
  rw [lenientFilter, Criterion.ofJson_malformed h, Criterion.lenientFilter_malformed]

theorem bind_prune?_lenientFilter (v : Json) : (prune? v).bind lenientFilter = lenientFilter v := by
  induction v using Shape.induction with
  | group v join members h ih =>
    rw [prune?_group h, Option.bind_some, lenientFilter_group (of_regroup h _), lenientFilter_group h,
      List.filterMap_filterMap]
    exact congrArg join.of (List.filterMap_congr ih)
  | leaf v field condition h => rw [prune?_leaf h, Option.bind_some]
  | malformed v reason h => rw [prune?_malformed h, Option.bind_none, lenientFilter_malformed h]

theorem filters_strict_of_mem {members : List Json}
    (h : ∀ member ∈ members, (Criterion.ofJson member).filter? .strict =
      Fault.stop (lenientFilter member) (faults member)) :
    Criterion.filters .strict (members.map Criterion.ofJson) =
      Fault.stop (members.filterMap lenientFilter) (members.flatMap faults) := by
  induction members with
  | nil => rfl
  | cons first rest ih =>
    have hfirst := h first List.mem_cons_self
    have hrest := ih fun member hm => h member (List.mem_cons_of_mem first hm)
    have hboth : (first :: rest).filterMap lenientFilter =
        (lenientFilter first).toList ++ rest.filterMap lenientFilter := by
      cases hf : lenientFilter first <;> simp [hf]
    rw [List.map_cons, Criterion.filters, hfirst, hrest, List.flatMap_cons, hboth]
    exact Fault.stop_bind (Fault.stop_pure _ _ _)

theorem filter?_strict (v : Json) :
    (Criterion.ofJson v).filter? .strict = Fault.stop (lenientFilter v) (faults v) := by
  induction v using Shape.induction with
  | group v join members h ih =>
    rw [Criterion.ofJson_group h, Criterion.filter?, filters_strict_of_mem ih, lenientFilter_group h,
      faults_group h]
    exact Fault.stop_pure _ _ _
  | leaf v field condition h =>
    rw [lenientFilter, Criterion.ofJson_leaf h, faults_leaf h]
    rfl
  | malformed v reason h =>
    rw [Criterion.ofJson_malformed h, faults_malformed h]
    rfl

end Element

namespace Criteria

def faults (v : Json) : List Fault := (elements v).flatMap Element.faults

def prune (v : Json) : Json := .array ((elements v).filterMap Element.prune?)

theorem filter?_strict (v : Json) : filter? .strict v = Fault.stop (lenientFilter v) (faults v) := by
  rw [filter?, Element.filters_strict_of_mem fun member _ => Element.filter?_strict member, lenientFilter_eq]
  exact Fault.stop_pure _ _ _

theorem prune_eq_iff (v : Json) : prune v = .array (elements v) ↔ faults v = [] := by
  have hkept := List.filterMap_eq_map_iff_forall_eq_some (f := Element.prune?) (g := id) (l := elements v)
  rw [List.map_id] at hkept
  rw [prune, Json.array.injEq, hkept, faults, List.flatMap_eq_nil_iff]
  exact forall₂_congr fun element _ => Element.prune?_eq_self_iff element

theorem faults_prune (v : Json) : faults (prune v) = [] := by
  rw [faults, List.flatMap_eq_nil_iff]
  intro element h
  obtain ⟨original, -, hkept⟩ := List.mem_filterMap.1 h
  exact Element.faults_prune? hkept

theorem lenientFilter_prune (v : Json) : lenientFilter (prune v) = lenientFilter v := by
  rw [lenientFilter_eq, lenientFilter_eq, prune, elements, List.filterMap_filterMap]
  exact congrArg Filter.all? (List.filterMap_congr fun element _ => Element.bind_prune?_lenientFilter element)

/-- Whatever the policy, a filter that is parsed is the one of lenient parsing. -/
theorem eq_lenientFilter_of_filter? {policy : Policy} {v : Json} {f : Option Filter}
    (h : filter? policy v = .ok f) : f = lenientFilter v := by
  cases policy with
  | lenient =>
    rw [filter?_lenient] at h
    cases h
    rfl
  | strict =>
    rw [filter?_strict] at h
    cases hfaults : faults v with
    | nil =>
      rw [hfaults] at h
      cases h
      rfl
    | cons fault rest =>
      rw [hfaults] at h
      cases h

/-- Lenient parsing takes every filter; strict parsing takes those without a fault, and all that were pruned,
and makes the same of them. -/
theorem strict_agrees_with_lenient (v : Json) :
    filter? .lenient v = .ok (lenientFilter v) ∧
      filter? .strict (prune v) = .ok (lenientFilter v) ∧
      ((∃ error, filter? .strict v = .error error) ↔ prune v ≠ .array (elements v)) ∧
      filter? .strict v = (match faults v with
        | [] => .ok (lenientFilter v)
        | fault :: _ => .error (.malformed fault.reason fault.element)) ∧
      ∀ fault : Fault, (FilterError.malformed fault.reason fault.element).message =
        "Invalid filter: " ++ (fault.reason.reason ++ ": " ++ fault.element.compact) := by
  refine ⟨filter?_lenient v, ?_, ?_, ?_, fun _ => rfl⟩
  · rw [filter?_strict, faults_prune, lenientFilter_prune]
    rfl
  · rw [filter?_strict, Ne, prune_eq_iff]
    cases faults v <;> simp [Fault.stop]
  · rw [filter?_strict]
    cases faults v <;> rfl

end Criteria
end CatalogSearch
