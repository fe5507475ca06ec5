import CatalogSearch.Criterion
/-!
Lenient parsing never fails, so it gives an optional filter for every value: of each element what is left when
elements without a meaning are passed over.
-/
namespace CatalogSearch

namespace Criterion

@[elab_as_elim, induction_eliminator]
theorem induction {P : Criterion → Prop}
    (group : ∀ join members, (∀ member ∈ members, P member) → P (.group join members))
    (leaf : ∀ field condition, P (.leaf field condition))
    (malformed : ∀ reason element, P (.malformed reason element)) : ∀ c, P c := by
  intro c
  refine Criterion.rec (motive_1 := P) (motive_2 := fun members => ∀ member ∈ members, P member)
    group leaf malformed ?_ ?_ c
  · intro member h
    cases h
  · intro first rest hfirst hrest member h
    rcases List.mem_cons.1 h with rfl | h
    · exact hfirst
    · exact hrest member h

/-- The filter that lenient parsing makes of an element, if it makes one. -/
def lenientFilter (c : Criterion) : Option Filter := (c.filter? .lenient).toOption.join

theorem filters_lenient_of_mem {members : List Criterion}
    (h : ∀ member ∈ members, member.filter? .lenient = .ok member.lenientFilter) :
    filters .lenient members = .ok (members.filterMap lenientFilter) := by
  induction members with
  | nil => rfl
  | cons first rest ih =>
    have hfirst := h first List.mem_cons_self
    have hrest := ih fun member hm => h member (List.mem_cons_of_mem first hm)
    rw [filters, hfirst, hrest]
    cases hf : first.lenientFilter <;> simp [hf] <;> rfl

theorem filter?_lenient (c : Criterion) : c.filter? .lenient = .ok c.lenientFilter := by
  induction c with
  | group join members ih =>
    rw [lenientFilter, filter?, filters_lenient_of_mem ih]
    rfl
  | leaf field condition => rfl
  | malformed reason element => rfl

theorem filters_lenient (members : List Criterion) :
    filters .lenient members = .ok (members.filterMap lenientFilter) :=
  filters_lenient_of_mem fun member _ => filter?_lenient member

theorem lenientFilter_group (join : Join) (members : List Criterion) :
    (group join members).lenientFilter = join.of (members.filterMap lenientFilter) := by
  rw [lenientFilter, filter?, filters_lenient]
  rfl

theorem lenientFilter_leaf (field : String) (condition : Condition) :
    (leaf field condition).lenientFilter = some (.inScopes field (condition.onField field)) := rfl

theorem lenientFilter_malformed (reason : Malformation) (element : Json) :
    (malformed reason element).lenientFilter = none := rfl

end Criterion

namespace Criteria

def lenientFilter (v : Json) : Option Filter := (filter? .lenient v).toOption.join

theorem filter?_lenient (v : Json) : filter? .lenient v = .ok (lenientFilter v) := by
  rw [lenientFilter, filter?, Criterion.filters_lenient]
  rfl

theorem lenientFilter_eq (v : Json) :
    lenientFilter v = Filter.all? ((elements v).filterMap fun x => (Criterion.ofJson x).lenientFilter) := by
  rw [lenientFilter, filter?, Criterion.filters_lenient, List.filterMap_map]
  rfl

end Criteria
end CatalogSearch
