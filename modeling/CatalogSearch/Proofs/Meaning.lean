import CatalogSearch.Filter.Render
import CatalogSearch.Proofs.Engine
/-!
What filters ask of an object, said without their queries. The main statement is `finds_render_eq_holds`: the
engine makes of a rendered filter what the filter says. A disjunction of nothing is the exception: the filter
says that nothing has one of no alternatives, and its query matches everything.
-/
namespace CatalogSearch.Filter

universe u
variable {Object : Type u}

@[elab_as_elim, induction_eliminator]
theorem induction {P : Filter → Prop} (term : ∀ field value, P (.term field value))
    (contains : ∀ field value, P (.contains field value))
    (matching : ∀ mode text fields, P (.matching mode text fields))
    (wildcard : ∀ pattern fields, P (.wildcard pattern fields))
    (not : ∀ inner, P inner → P (.not inner))
    (present : ∀ field, P (.present field)) (nothing : P .nothing)
    (all : ∀ children, (∀ child ∈ children, P child) → P (.all children))
    (any : ∀ children, (∀ child ∈ children, P child) → P (.any children))
    (nested : ∀ path inner, P inner → P (.nested path inner)) : ∀ f, P f := by
  intro f
  refine Filter.rec (motive_1 := P) (motive_2 := fun children => ∀ child ∈ children, P child)
    term contains matching wildcard not present nothing all any nested ?_ ?_ f
  · intro child h
    cases h
  · intro first rest hfirst hrest child h
    rcases List.mem_cons.1 h with rfl | h
    · exact hfirst
    · exact hrest child h

mutual

def nodes : Filter → List Filter
  | .not inner => .not inner :: nodes inner
  | .all children => .all children :: nodesEach children
  | .any children => .any children :: nodesEach children
  | .nested path inner => .nested path inner :: nodes inner
  | leaf => [leaf]

def nodesEach : List Filter → List Filter
  | [] => []
  | child :: rest => nodes child ++ nodesEach rest

end

theorem nodesEach_eq_flatMap (children : List Filter) : nodesEach children = children.flatMap nodes := by
  induction children with
  | nil => rfl
  | cons child rest ih => rw [nodesEach, ih, List.flatMap_cons]

mutual

def holds (e : Engine Object) : Filter → Object → Bool
  | .term field value, o => e.passes (.term field value) o
  | .contains field value, o => e.passes (.term field value) o
  | .matching mode text fields, o => e.passes (.matching mode text fields) o
  | .wildcard pattern fields, o => fields.any fun field => e.passes (.wildcard field pattern) o
  | .not inner, o => !holds e inner o
  | .present field, o => e.passes (.present field) o
  | .nothing, _ => false
  | .all children, o => holdsEach e children o
  | .any children, o => holdsSome e children o
  | .nested path inner, o => (e.inside path o).any fun part => holds e inner part

def holdsEach (e : Engine Object) : List Filter → Object → Bool
  | [], _ => true
  | child :: rest, o => holds e child o && holdsEach e rest o

def holdsSome (e : Engine Object) : List Filter → Object → Bool
  | [], _ => false
  | child :: rest, o => holds e child o || holdsSome e rest o

end

@[simp]
theorem holds_all (e : Engine Object) (children : List Filter) (o : Object) :
    (all children).holds e o = children.all fun child => child.holds e o := by
  rw [holds]
  induction children with
  | nil => rfl
  | cons child rest ih => rw [holdsEach, ih, List.all_cons]

@[simp]
theorem holds_any (e : Engine Object) (children : List Filter) (o : Object) :
    (any children).holds e o = children.any fun child => child.holds e o := by
  rw [holds]
  induction children with
  | nil => rfl
  | cons child rest ih => rw [holdsSome, ih, List.any_cons]

mutual

/-- Whether every disjunction offers something: a child, or a field where a pattern may occur. -/
def offers : Filter → Bool
  | .wildcard _ fields => !fields.isEmpty
  | .not inner => offers inner
  | .all children => offersEach children
  | .any children => !children.isEmpty && offersEach children
  | .nested _ inner => offers inner
  | _ => true

def offersEach : List Filter → Bool
  | [] => true
  | child :: rest => offers child && offersEach rest

end

theorem offersEach_eq_true_iff {children : List Filter} :
    offersEach children = true ↔ ∀ child ∈ children, child.offers = true := by
  induction children with
  | nil => simp [offersEach]
  | cons child rest ih => rw [offersEach, Bool.and_eq_true, ih, List.forall_mem_cons]

theorem all_congr_of_mem {children : List Filter} {p q : Filter → Bool}
    (h : ∀ child ∈ children, p child = q child) : children.all p = children.all q := by
  have := congrArg (fun answers => answers.all id) (List.map_congr_left h)
  simpa only [List.all_map, Function.id_comp] using this

theorem any_congr_of_mem {children : List Filter} {p q : Filter → Bool}
    (h : ∀ child ∈ children, p child = q child) : children.any p = children.any q := by
  have := congrArg (fun answers => answers.any id) (List.map_congr_left h)
  simpa only [List.any_map, Function.id_comp] using this

section Rendered
variable (e : Engine Object) (o : Object)

theorem finds_all (children : List Filter) :
    e.finds (all children).render o = children.all fun child => e.finds child.render o := by
  rw [render, Engine.finds_must, renderEach_eq_map, List.all_map]
  rfl

theorem finds_any (children : List Filter) :
    e.finds (any children).render o =
      (children.isEmpty || children.any fun child => e.finds child.render o) := by
  rw [render, Engine.finds_should, renderEach_eq_map, List.isEmpty_map, List.any_map]
  rfl

theorem finds_wildcard (pattern : String) (fields : List String) :
    e.finds (wildcard pattern fields).render o =
      (fields.isEmpty || fields.any fun field => e.passes (.wildcard field pattern) o) := by
  rw [render, Engine.finds_should, List.isEmpty_map, List.any_map]
  simp only [Function.comp_def, Engine.finds_wildcard]

theorem finds_not (inner : Filter) : e.finds (not inner).render o = !e.finds inner.render o := by
  rw [render, Engine.finds_mustNot, List.any_cons, List.any_nil, Bool.or_false]

end Rendered

/-- The query of a filter matches what the filter asks for. -/
theorem finds_render_eq_holds (e : Engine Object) {f : Filter} (h : f.offers = true) (o : Object) :
    e.finds f.render o = f.holds e o := by
  induction f generalizing o with
  | term field value => rw [render, Engine.finds_term, holds]
  | contains field value => rw [render, Engine.finds_term, holds]
  | present field => rw [render, Engine.finds_present, holds]
  | nothing => rw [render, Engine.finds_matchNone, holds]
  | matching mode text fields => rw [render, Engine.finds_multiMatch, holds]
  | wildcard pattern fields =>
    have hne : fields.isEmpty = false := by simpa [offers] using h
    rw [finds_wildcard, hne, Bool.false_or, holds]
  | not inner ih => rw [finds_not, ih h, holds]
  | all children ih =>
    have hall := offersEach_eq_true_iff.1 h
    rw [finds_all, holds_all]
    exact all_congr_of_mem fun child hc => ih child hc (hall child hc) o
  | any children ih =>
    -- Only here does it matter that the disjunction offers something: without clauses it would match everything.
    simp only [offers, Bool.and_eq_true, Bool.not_eq_true'] at h
    have hall := offersEach_eq_true_iff.1 h.2
    rw [finds_any, h.1, Bool.false_or, holds_any]
    exact any_congr_of_mem fun child hc => ih child hc (hall child hc) o
  | nested path inner ih =>
    rw [render, Engine.finds_nested, holds]
    exact List.any_congr rfl (ih h)

def reachable : Filter :=
  .all [.not (.nested "contacts" (.term "contacts.hidden" (.bool true))),
    .nested "contacts" (.any [.present "contacts.name", .nothing, .wildcard "*@*" ["contacts.mail"]])]

theorem finds_render_reachable :
    reachable.offers = true ∧
      Engine.literal.finds reachable.render (.mk [] [("contacts", .mk [("contacts.name", .null)] [])]) =
        reachable.holds Engine.literal (.mk [] [("contacts", .mk [("contacts.name", .null)] [])]) ∧
      reachable.holds Engine.literal (.mk [] [("contacts", .mk [("contacts.name", .null)] [])]) = true :=
  ⟨by decide, finds_render_eq_holds Engine.literal (by decide) _, by decide⟩

/-- What offers nothing is no alternative to the filter, and no restriction to the engine. -/
example (e : Engine Object) (o : Object) : (any []).holds e o = false ∧ e.finds (any []).render o = true :=
  ⟨rfl, rfl⟩

end CatalogSearch.Filter
