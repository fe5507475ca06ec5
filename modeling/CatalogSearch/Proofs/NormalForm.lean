import CatalogSearch.Criterion
import CatalogSearch.Proofs.Collapse
import Mathlib.Data.List.Forall2
import Mathlib.Logic.Relation
/-!
The normal form of filters. A group of one child may stand for the child, and the child for the group, wherever
they are in a filter. The main statement is `simplify_normalizes`: of all filters that differ only in that,
`simplify` gives the one without a group of one child.
-/
namespace CatalogSearch

def Join.group : Join → List Filter → Filter
  | .all => .all
  | .any => .any

namespace Filter

universe u

def isLeaf : Filter → Bool
  | .not _ => false
  | .all _ => false
  | .any _ => false
  | .nested _ _ => false
  | _ => true

@[elab_as_elim]
theorem group_induction {P : Filter → Prop} (leaf : ∀ f, f.isLeaf = true → P f)
    (not : ∀ inner, P inner → P (.not inner))
    (group : ∀ join children, (∀ child ∈ children, P child) → P (Join.group join children))
    (nested : ∀ path inner, P inner → P (.nested path inner)) : ∀ f, P f := by
  intro f
  induction f with
  | term | contains | matching | wildcard | present | nothing => exact leaf _ rfl
  | not inner ih => exact not inner ih
  | all children ih => exact group .all children ih
  | any children ih => exact group .any children ih
  | nested path inner ih => exact nested path inner ih

theorem simplify_leaf {f : Filter} (h : f.isLeaf = true) : f.simplify = f := by
  cases f <;> first | rfl | cases h

theorem simplify_group (join : Join) (children : List Filter) :
    (join.group children).simplify = collapse join.group (children.map simplify) := by
  cases join <;> rw [Join.group, simplify, simplifyEach_eq_map]

theorem nodes_leaf {f : Filter} (h : f.isLeaf = true) : f.nodes = [f] := by
  cases f <;> first | rfl | cases h

theorem nodes_group (join : Join) (children : List Filter) :
    (join.group children).nodes = join.group children :: children.flatMap nodes := by
  cases join <;> rw [Join.group, nodes, nodesEach_eq_flatMap]

theorem group_inj {join kind : Join} {xs ys : List Filter} :
    join.group xs = kind.group ys ↔ join = kind ∧ xs = ys := by
  cases join <;> cases kind <;> simp [Join.group]

theorem isLeaf_group (join : Join) (children : List Filter) : (join.group children).isLeaf = false := by
  cases join <;> rfl

/-- What `p` says holds of a filter and of each filter inside it, at any depth. -/
def Everywhere (p : Filter → Prop) (f : Filter) : Prop := ∀ node ∈ f.nodes, p node

section Everywhere
variable {p : Filter → Prop}

theorem everywhere_leaf {f : Filter} (h : f.isLeaf = true) : f.Everywhere p ↔ p f := by
  rw [Everywhere, nodes_leaf h, List.forall_mem_singleton]

theorem everywhere_not {inner : Filter} : (not inner).Everywhere p ↔ p (not inner) ∧ inner.Everywhere p := by
  rw [Everywhere, nodes, List.forall_mem_cons, Everywhere]

theorem everywhere_nested {path : String} {inner : Filter} :
    (nested path inner).Everywhere p ↔ p (nested path inner) ∧ inner.Everywhere p := by
  rw [Everywhere, nodes, List.forall_mem_cons, Everywhere]

theorem everywhere_group {join : Join} {children : List Filter} :
    (join.group children).Everywhere p ↔ p (join.group children) ∧ ∀ child ∈ children, child.Everywhere p := by
  rw [Everywhere, nodes_group, List.forall_mem_cons, List.forall_mem_flatMap]
  rfl

end Everywhere

def EveryGroup (p : Nat → Prop) : Filter → Prop :=
  Everywhere fun node => ∀ join children, node = Join.group join children → p children.length

section EveryGroup
variable {p q : Nat → Prop}

theorem EveryGroup.mono {f : Filter} (h : f.EveryGroup p) (hpq : ∀ n, p n → q n) : f.EveryGroup q :=
  fun node hnode join children hgroup => hpq _ (h node hnode join children hgroup)

theorem everyGroup_leaf {f : Filter} (h : f.isLeaf = true) : f.EveryGroup p := by
  refine (everywhere_leaf h).2 fun join children hgroup => ?_
  rw [hgroup, isLeaf_group] at h
  cases h

theorem everyGroup_not {inner : Filter} : (not inner).EveryGroup p ↔ inner.EveryGroup p :=
  everywhere_not.trans (and_iff_right fun join _ hgroup => by cases join <;> cases hgroup)

theorem everyGroup_nested {path : String} {inner : Filter} :
    (nested path inner).EveryGroup p ↔ inner.EveryGroup p :=
  everywhere_nested.trans (and_iff_right fun join _ hgroup => by cases join <;> cases hgroup)

theorem everyGroup_group {join : Join} {children : List Filter} :
    (join.group children).EveryGroup p ↔ p children.length ∧ ∀ child ∈ children, child.EveryGroup p := by
  refine everywhere_group.trans (and_congr_left fun _ => ⟨fun h => h join children rfl, ?_⟩)
  intro h kind xs hgroup
  rw [← (group_inj.1 hgroup).2]
  exact h

end EveryGroup

theorem collapse_eq_group {join : Join} {children : List Filter} (h : children.length ≠ 1) :
    collapse join.group children = join.group children := by
  match children with
  | [] => rfl
  | [child] => exact absurd rfl h
  | first :: second :: rest => rfl

theorem everyGroup_collapse {join : Join} {children : List Filter}
    (h : ∀ child ∈ children, child.EveryGroup (· ≠ 1)) : (collapse join.group children).EveryGroup (· ≠ 1) := by
  by_cases hlength : children.length = 1
  · obtain ⟨child, rfl⟩ := List.length_eq_one_iff.1 hlength
    exact h child List.mem_cons_self
  · rw [collapse_eq_group hlength]
    exact everyGroup_group.2 ⟨hlength, h⟩

theorem everyGroup_simplify (f : Filter) : f.simplify.EveryGroup (· ≠ 1) := by
  induction f using group_induction with
  | leaf f h => rw [simplify_leaf h]; exact everyGroup_leaf h
  | not inner ih => rw [simplify]; exact everyGroup_not.2 ih
  | nested path inner ih => rw [simplify]; exact everyGroup_nested.2 ih
  | group join children ih =>
    rw [simplify_group]
    apply everyGroup_collapse
    intro child hchild
    obtain ⟨original, horiginal, rfl⟩ := List.mem_map.1 hchild
    exact ih original horiginal

theorem simplify_eq_self {f : Filter} (h : f.EveryGroup (· ≠ 1)) : f.simplify = f := by
  induction f using group_induction with
  | leaf f hleaf => exact simplify_leaf hleaf
  | not inner ih => rw [simplify, ih (everyGroup_not.1 h)]
  | nested path inner ih => rw [simplify, ih (everyGroup_nested.1 h)]
  | group join children ih =>
    obtain ⟨hlength, hchildren⟩ := everyGroup_group.1 h
    have hmap : children.map simplify = children :=
      (List.map_congr_left fun child hchild => ih child hchild (hchildren child hchild)).trans (List.map_id' _)
    rw [simplify_group, hmap, collapse_eq_group hlength]

theorem simplify_eq_self_iff {f : Filter} : f.simplify = f ↔ f.EveryGroup (· ≠ 1) := by
  constructor
  · intro h
    rw [← h]
    exact everyGroup_simplify f
  · exact simplify_eq_self

theorem simplify_simplify (f : Filter) : f.simplify.simplify = f.simplify :=
  simplify_eq_self (everyGroup_simplify f)

/-- One group of one child, at any place in a filter, gives way to the child. -/
inductive Collapses : Filter → Filter → Prop where
  | group (join : Join) (child : Filter) : Collapses (join.group [child]) child
  | inNot {f g : Filter} (h : Collapses f g) : Collapses (.not f) (.not g)
  | inNested {f g : Filter} (path : String) (h : Collapses f g) : Collapses (.nested path f) (.nested path g)
  | inGroup {f g : Filter} (join : Join) (before after : List Filter) (h : Collapses f g) :
    Collapses (join.group (before ++ f :: after)) (join.group (before ++ g :: after))

abbrev Reduces : Filter → Filter → Prop := Relation.ReflTransGen Collapses

theorem reduces_group (join : Join) {xs ys : List Filter} (h : List.Forall₂ Reduces xs ys)
    (before : List Filter) : Reduces (join.group (before ++ xs)) (join.group (before ++ ys)) := by
  induction h generalizing before with
  | nil => exact .refl
  | @cons x y xs ys hfirst hrest ih =>
    have hone : Reduces (join.group (before ++ x :: xs)) (join.group (before ++ y :: xs)) :=
      hfirst.lift (fun f => join.group (before ++ f :: xs)) fun _ _ => .inGroup join before xs
    have hothers := ih (before ++ [y])
    rw [List.append_assoc, List.append_assoc] at hothers
    exact hone.trans hothers

theorem reduces_collapse (join : Join) (children : List Filter) :
    Reduces (join.group children) (collapse join.group children) := by
  match children with
  | [] => exact .refl
  | [child] => exact .single (.group join child)
  | first :: second :: rest => exact .refl

theorem reduces_simplify (f : Filter) : Reduces f f.simplify := by
  induction f using group_induction with
  | leaf f h => rw [simplify_leaf h]
  | not inner ih => exact ih.lift Filter.not fun _ _ => .inNot
  | nested path inner ih => exact ih.lift (Filter.nested path) fun _ _ => .inNested path
  | group join children ih =>
    have hchildren : List.Forall₂ Reduces children (children.map simplify) :=
      List.forall₂_map_right_iff.2 (List.forall₂_same.2 ih)
    rw [simplify_group]
    exact (reduces_group join hchildren []).trans (reduces_collapse join _)

theorem simplify_eq_of_collapses {f g : Filter} (h : Collapses f g) : f.simplify = g.simplify := by
  induction h with
  | group join child => rw [simplify_group]; rfl
  | inNot _ ih => rw [simplify, simplify, ih]
  | inNested path _ ih => rw [simplify, simplify, ih]
  | inGroup join before after _ ih =>
    rw [simplify_group, simplify_group, List.map_append, List.map_append, List.map_cons, List.map_cons, ih]

theorem eqvGen_of_reduces {f g : Filter} (h : Reduces f g) : Relation.EqvGen Collapses f g :=
  Relation.EqvGen.reflTransGen_le_eqvGen Collapses f g h

/-- Two filters have one normal form just where they differ in groups of one child and in nothing else. -/
theorem simplify_eq_simplify_iff {f g : Filter} :
    f.simplify = g.simplify ↔ Relation.EqvGen Collapses f g := by
  constructor
  · intro h
    have hf := eqvGen_of_reduces (reduces_simplify f)
    have hg := eqvGen_of_reduces (reduces_simplify g)
    rw [h] at hf
    exact hf.trans _ _ _ (hg.symm _ _)
  · intro h
    induction h with
    | rel f g h => exact simplify_eq_of_collapses h
    | refl f => rfl
    | symm f g _ ih => exact ih.symm
    | trans f g k _ _ ihf ihg => exact ihf.trans ihg

theorem forall₂_imp_of_mem {α β : Type} {R S : α → β → Prop} {xs : List α} {ys : List β}
    (h : List.Forall₂ R xs ys) (himp : ∀ x ∈ xs, ∀ y ∈ ys, R x y → S x y) : List.Forall₂ S xs ys := by
  induction h with
  | nil => exact .nil
  | cons hfirst _ ih =>
    have hrest := ih fun x hx y hy => himp x (List.mem_cons_of_mem _ hx) y (List.mem_cons_of_mem _ hy)
    exact .cons (himp _ List.mem_cons_self _ List.mem_cons_self hfirst) hrest

/-- Equality of filters as it is decided, which compares the values in terms as values. -/
abbrev Same (f g : Filter) : Prop := f.same g = true

theorem sameEach_iff {xs ys : List Filter} : sameEach xs ys = true ↔ List.Forall₂ Same xs ys := by
  induction xs generalizing ys with
  | nil => cases ys <;> simp [sameEach]
  | cons x xs ih => cases ys <;> simp [sameEach, ih]

theorem same_group_iff (join : Join) {xs : List Filter} {g : Filter} :
    Same (join.group xs) g ↔ ∃ ys, g = join.group ys ∧ List.Forall₂ Same xs ys := by
  cases join <;> cases g <;> simp [Join.group, Same, same, sameEach_iff]

theorem group_same_iff (join : Join) {f : Filter} {ys : List Filter} :
    Same f (join.group ys) ↔ ∃ xs, f = join.group xs ∧ List.Forall₂ Same xs ys := by
  cases join <;> cases f <;> simp [Join.group, Same, same, sameEach_iff]

theorem same_not_iff {f inner : Filter} : Same f (.not inner) ↔ ∃ x, f = .not x ∧ Same x inner := by
  cases f <;> simp [Same, same]

theorem same_nested_iff {f inner : Filter} {path : String} :
    Same f (.nested path inner) ↔ ∃ x, f = .nested path x ∧ Same x inner := by
  cases f <;> simp [Same, same]

theorem same_collapse {join : Join} {xs ys : List Filter} (h : List.Forall₂ Same xs ys) :
    Same (collapse join.group xs) (collapse join.group ys) := by
  cases h with
  | nil => exact (same_group_iff join).2 ⟨[], rfl, .nil⟩
  | cons hfirst hrest =>
    cases hrest with
    | nil => exact hfirst
    | cons hsecond hrest => exact (same_group_iff join).2 ⟨_, rfl, .cons hfirst (.cons hsecond hrest)⟩

theorem same_simplify {f g : Filter} (h : Same f g) : Same f.simplify g.simplify := by
  induction g using group_induction generalizing f with
  | leaf g hleaf =>
    have hf : f.isLeaf = true := by cases g <;> cases f <;> first | rfl | cases h | cases hleaf
    rwa [simplify_leaf hf, simplify_leaf hleaf]
  | not inner ih =>
    obtain ⟨x, rfl, hx⟩ := same_not_iff.1 h
    exact ih hx
  | nested path inner ih =>
    obtain ⟨x, rfl, hx⟩ := same_nested_iff.1 h
    rw [simplify, simplify]
    exact same_nested_iff.2 ⟨_, rfl, ih hx⟩
  | group join children ih =>
    obtain ⟨xs, rfl, hxs⟩ := (group_same_iff join).1 h
    rw [simplify_group, simplify_group]
    have heach := forall₂_imp_of_mem hxs fun x _ y hy hsame => ih y hy hsame
    exact same_collapse (List.forall₂_map_left_iff.2 (List.forall₂_map_right_iff.2 heach))

theorem exists_reduces_each {children : List Filter}
    (h : ∀ child ∈ children, ∀ f, Same f child.simplify → ∃ k, Reduces k f ∧ Same k child) {xs : List Filter}
    (hsame : List.Forall₂ Same xs (children.map simplify)) :
    ∃ ks, List.Forall₂ Reduces ks xs ∧ List.Forall₂ Same ks children := by
  induction children generalizing xs with
  | nil =>
    cases hsame
    exact ⟨[], .nil, .nil⟩
  | cons child rest ih =>
    cases hsame with
    | cons hfirst hrest =>
      obtain ⟨k, hk, hchild⟩ := h child List.mem_cons_self _ hfirst
      obtain ⟨ks, hks, hchildren⟩ := ih (fun c hc => h c (List.mem_cons_of_mem _ hc)) hrest
      exact ⟨k :: ks, .cons hk hks, .cons hchild hchildren⟩

/-- What equals a normal form is the normal form of something that equals the filter. -/
theorem exists_reduces_of_same {f g : Filter} (h : Same f g.simplify) : ∃ k, Reduces k f ∧ Same k g := by
  induction g using group_induction generalizing f with
  | leaf g hleaf =>
    rw [simplify_leaf hleaf] at h
    exact ⟨f, .refl, h⟩
  | not inner ih =>
    obtain ⟨x, rfl, hx⟩ := same_not_iff.1 h
    obtain ⟨k, hk, hsame⟩ := ih hx
    exact ⟨.not k, hk.lift Filter.not fun _ _ => .inNot, same_not_iff.2 ⟨k, rfl, hsame⟩⟩
  | nested path inner ih =>
    rw [simplify] at h
    obtain ⟨x, rfl, hx⟩ := same_nested_iff.1 h
    obtain ⟨k, hk, hsame⟩ := ih hx
    exact ⟨.nested path k, hk.lift (Filter.nested path) fun _ _ => .inNested path,
      same_nested_iff.2 ⟨k, rfl, hsame⟩⟩
  | group join children ih =>
    rw [simplify_group] at h
    by_cases hlength : children.length = 1
    · obtain ⟨child, rfl⟩ := List.length_eq_one_iff.1 hlength
      obtain ⟨k, hk, hsame⟩ := ih child List.mem_cons_self h
      exact ⟨join.group [k], .head (.group join k) hk, (group_same_iff join).2 ⟨[k], rfl, .cons hsame .nil⟩⟩
    · rw [collapse_eq_group (by rwa [List.length_map])] at h
      obtain ⟨xs, rfl, hxs⟩ := (group_same_iff join).1 h
      obtain ⟨ks, hks, hsame⟩ := exists_reduces_each (fun child hchild f => ih child hchild) hxs
      exact ⟨join.group ks, reduces_group join hks [], (group_same_iff join).2 ⟨ks, rfl, hsame⟩⟩

theorem same_simplify_iff {f g : Filter} :
    f.simplify.same g.simplify = true ↔ ∃ k, Relation.EqvGen Collapses f k ∧ k.same g = true := by
  constructor
  · intro h
    obtain ⟨k, hk, hsame⟩ := exists_reduces_of_same h
    have hf := eqvGen_of_reduces (reduces_simplify f)
    exact ⟨k, hf.trans _ _ _ ((eqvGen_of_reduces hk).symm _ _), hsame⟩
  · rintro ⟨k, hk, hsame⟩
    rw [simplify_eq_simplify_iff.2 hk]
    exact same_simplify hsame

/-- `simplify` finds the normal form of a filter, and a filter asks for what its normal form asks for. -/
theorem simplify_normalizes (f g : Filter) :
    f.simplify.EveryGroup (· ≠ 1) ∧
      (f.simplify = f ↔ f.EveryGroup (· ≠ 1)) ∧
      (f.simplify = g.simplify ↔ Relation.EqvGen Collapses f g) ∧
      (f.simplify.same g.simplify = true ↔ ∃ k, Relation.EqvGen Collapses f k ∧ k.same g = true) ∧
      f.simplify.simplify = f.simplify ∧
      ∀ {Object : Type u} (e : Engine Object) (o : Object),
        f.simplify.holds e o = f.holds e o ∧ e.finds f.simplify.render o = e.finds f.render o := by
  refine ⟨everyGroup_simplify f, simplify_eq_self_iff, simplify_eq_simplify_iff, same_simplify_iff,
    simplify_simplify f, fun e o => ?_⟩
  exact ⟨holds_simplify e o f, finds_simplify e o f⟩

/-- Three groups collapse into each other, and the group without a child stays. -/
example : (all [any [all [any []]], not (any [present "name"])]).simplify =
    all [any [], not (present "name")] := rfl

end Filter
end CatalogSearch
