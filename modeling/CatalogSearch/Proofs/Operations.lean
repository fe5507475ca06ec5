import CatalogSearch.Proofs.Reading
/-!
Elements that apply an operation to a field, and what `eq` and `ne` with one value have to do with each other. The
main statement is `differs_in_some_reached`: both look at the objects that the scopes of the field reach, `eq` for
one with the value and `ne` for one without it. So `ne` is the negation of `eq` for a document itself, and in
scopes only where all objects that are reached agree and there is one.
-/
namespace CatalogSearch

universe u
variable {Object : Type u}

theorem any_eq_of_agree {α : Type u} {p : α → Bool} {first : α} {rest : List α}
    (h : ∀ x ∈ first :: rest, p x = p first) : (first :: rest).any p = p first := by
  rw [Bool.eq_iff_iff, List.any_eq_true]
  constructor
  · rintro ⟨x, hx, htrue⟩
    rw [← h x hx, htrue]
  · exact fun htrue => ⟨first, List.mem_cons_self, htrue⟩

/-- To find one that fails is the opposite of finding one that passes where there is one and all do alike. -/
theorem any_not_eq_not_any_iff {α : Type u} (p : α → Bool) (xs : List α) :
    (xs.any fun x => !p x) = !xs.any p ↔ xs ≠ [] ∧ ∀ x ∈ xs, ∀ y ∈ xs, p x = p y := by
  constructor
  · intro h
    have hne : xs ≠ [] := by
      rintro rfl
      cases h
    refine ⟨hne, fun x hx y hy => Bool.eq_iff_iff.2 ?_⟩
    have hpass {z other : α} (hz : z ∈ xs) (hother : other ∈ xs) (htrue : p z = true) : p other = true := by
      have hall : (xs.any fun x => !p x) = false := by
        rw [h, List.any_eq_true.2 ⟨z, hz, htrue⟩]
        rfl
      simpa using List.any_eq_false.1 hall other hother
    exact ⟨hpass hx hy, hpass hy hx⟩
  · rintro ⟨hne, hagree⟩
    obtain ⟨first, rest, rfl⟩ := List.exists_cons_of_ne_nil hne
    have hfirst (x : α) (hx : x ∈ first :: rest) : p x = p first := hagree x hx first List.mem_cons_self
    rw [any_eq_of_agree hfirst, any_eq_of_agree fun x hx => congrArg not (hfirst x hx)]

namespace Engine

/-- The objects that are reached through an object inside at each of the paths in turn; without a path it is the
object itself. -/
def reached (e : Engine Object) : List String → Object → List Object
  | [], o => [o]
  | path :: rest, o => (e.inside path o).flatMap (e.reached rest)

theorem within_eq_any (e : Engine Object) (paths : List String) (condition : Object → Bool) (o : Object) :
    e.within paths condition o = (e.reached paths o).any condition := by
  induction paths generalizing o with
  | nil => rw [within, reached, List.any_cons, List.any_nil, Bool.or_false]
  | cons path rest ih =>
    rw [within, reached, List.any_flatMap]
    exact List.any_congr rfl ih

end Engine

namespace Field

theorem beforeDots_eq_nil {name : List Char} (h : '.' ∉ name) : beforeDots name = [] := by
  induction name with
  | nil => rfl
  | cons c rest ih =>
    rw [List.mem_cons, not_or] at h
    rw [beforeDots, if_neg (Ne.symm h.1), ih h.2, List.map_nil]

theorem enclosing_eq_nil {field : String} (h : '.' ∉ field.toList) : enclosing field = [] := by
  rw [enclosing, beforeDots_eq_nil h, List.map_nil]

end Field

namespace Criteria

/-- An element that asks something of a field is parsed under every policy. -/
theorem filter?_of_leaf {v : Json} {field : String} {condition : Condition}
    (h : Shape.of v = .leaf field condition) (policy : Policy) :
    filter? policy v = .ok (some (.inScopes field (condition.onField field))) := by
  have hsingle : elements v = [v] := by
    cases v with
    | array items => cases h
    | _ => rfl
  rw [filter?, hsingle, List.map_singleton, Criterion.ofJson_leaf h]
  rfl

/-- An element with `eq` asks for an object with the value among those that the scopes of its field reach, and one
with `ne` for an object without it. They are opposites where all of these objects agree and there is one, and the
document itself is the only one for a field without a dot. -/
theorem differs_in_some_reached {field : String} {value x y : Json} (hpath : Field.isPath field = true)
    (hx : Element.Asks "eq" field value x) (hy : Element.Asks "ne" field value y) (policy : Policy) :
    ∃ f g, filter? policy x = .ok (some f) ∧ filter? policy y = .ok (some g) ∧
      ∀ {Object : Type u} (e : Engine Object) (o : Object),
        (f.holds e o = true ↔
          ∃ part ∈ e.reached (Field.enclosing field) o, Element.equals e field value part = true) ∧
        (g.holds e o = true ↔
          ∃ part ∈ e.reached (Field.enclosing field) o, Element.equals e field value part = false) ∧
        (g.holds e o = !f.holds e o ↔
          e.reached (Field.enclosing field) o ≠ [] ∧
            ∀ part ∈ e.reached (Field.enclosing field) o, ∀ other ∈ e.reached (Field.enclosing field) o,
              Element.equals e field value part = Element.equals e field value other) ∧
        ('.' ∉ field.toList → g.holds e o = !f.holds e o ∧
          (value = .null → f.holds e o = !e.passes (.present field) o)) := by
  refine ⟨_, _, filter?_of_leaf (hx.of_eq_leaf hpath rfl) policy,
    filter?_of_leaf (hy.of_eq_leaf hpath rfl) policy, fun e o => ?_⟩
  have hequals : (Filter.inScopes field ((Condition.equals value).onField field)).holds e o =
      (e.reached (Field.enclosing field) o).any (Element.equals e field value) := by
    rw [Filter.holds_inScopes, ← Element.equals_eq_holds, Engine.within_eq_any]
  have hdiffers : (Filter.inScopes field ((Condition.differs value).onField field)).holds e o =
      (e.reached (Field.enclosing field) o).any fun part => !Element.equals e field value part := by
    rw [Filter.holds_inScopes, ← Element.differs_eq_holds, Engine.within_eq_any]
  have hopposite :=
    any_not_eq_not_any_iff (Element.equals e field value) (e.reached (Field.enclosing field) o)
  rw [hequals, hdiffers]
  refine ⟨List.any_eq_true, ?_, hopposite, fun hplain => ?_⟩
  · simp only [List.any_eq_true, Bool.not_eq_true']
  · have hself : e.reached (Field.enclosing field) o = [o] := by
      rw [Field.enclosing_eq_nil hplain, Engine.reached]
    rw [hself] at hopposite ⊢
    refine ⟨hopposite.2 (by simp), ?_⟩
    rintro rfl
    rw [List.any_cons, List.any_nil, Bool.or_false, Element.equals]

def contacts (mails : List (Option String)) : Document :=
  .mk [] (mails.map fun mail => ("contacts", .mk (mail.toList.map fun m => ("contacts.mail", .string m)) []))

def mailless : Json := .object [("val", .null), ("op", .string "eq"), ("name", .string "contacts.mail")]

theorem differs_in_some_reached_contacts :
    ∃ f g, filter? .strict mailless = .ok (some f) ∧
      filter? .strict (Element.asking "ne" "contacts.mail" .null) = .ok (some g) ∧
      f.holds Engine.literal (contacts [some "a", none]) = true ∧
      g.holds Engine.literal (contacts [some "a", none]) = true := by
  have hpath : Field.isPath "contacts.mail" = true := by decide +kernel
  have hmailless : Element.Asks "eq" "contacts.mail" .null mailless := .intro rfl rfl rfl rfl rfl
  obtain ⟨f, g, hf, hg, hholds⟩ := differs_in_some_reached hpath hmailless
    (Element.asks_asking "ne" "contacts.mail" .null) .strict
  obtain ⟨heq, hne, -⟩ := hholds Engine.literal (contacts [some "a", none])
  exact ⟨f, g, hf, hg, heq.2 (by decide +kernel), hne.2 (by decide +kernel)⟩

/-- With two contacts that differ a document has both, with no contact it has neither, not even null. -/
theorem differs_not_opposite :
    ∃ f g h, filter? .lenient (Element.asking "eq" "contacts.mail" (.string "a")) = .ok (some f) ∧
      filter? .lenient (Element.asking "ne" "contacts.mail" (.string "a")) = .ok (some g) ∧
      filter? .lenient (Element.asking "eq" "contacts.mail" .null) = .ok (some h) ∧
      (f.holds Engine.literal (contacts [some "a", some "b"]) = true ∧
        g.holds Engine.literal (contacts [some "a", some "b"]) = true) ∧
      (f.holds Engine.literal (contacts []) = false ∧ g.holds Engine.literal (contacts []) = false) ∧
      h.holds Engine.literal (contacts []) = false := by
  have hpath : Field.isPath "contacts.mail" = true := by decide +kernel
  refine ⟨_, _, _, filter?_of_leaf ((Element.asks_asking _ _ _).of_eq_leaf hpath rfl) .lenient,
    filter?_of_leaf ((Element.asks_asking _ _ _).of_eq_leaf hpath rfl) .lenient,
    filter?_of_leaf ((Element.asks_asking _ _ _).of_eq_leaf hpath rfl) .lenient, ?_⟩
  decide +kernel

end Criteria
end CatalogSearch
