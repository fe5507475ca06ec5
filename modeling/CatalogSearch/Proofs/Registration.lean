import CatalogSearch.Proofs.Listing
import CatalogSearch.Proofs.Refusal
/-!
The set-up of a catalogue, in which entities and rules are registered one after the other and a later one of a
kind takes the place of an earlier one. The main statement is `searches_by_last_registered`: a resource is
searched by the entity that was last registered for the kind of its name and seen through the rule last
registered for the same kind, whatever was registered for other kinds.
-/
namespace CatalogSearch

namespace Table
variable {κ α : Type} [DecidableEq κ]

def lastWritten? (writes : List (κ × α)) (key : κ) : Option α :=
  (writes.filter fun write => write.1 = key).getLast?.map Prod.snd

theorem lastWritten?_cons (key k : κ) (value : α) (writes : List (κ × α)) :
    lastWritten? ((k, value) :: writes) key =
      (lastWritten? writes key).or (if k = key then some value else none) := by
  rw [lastWritten?, lastWritten?]
  by_cases h : k = key
  · rw [List.filter_cons_of_pos (by simpa using h), List.getLast?_cons, if_pos h]
    cases (writes.filter fun write => write.1 = key).getLast? <;> rfl
  · rw [List.filter_cons_of_neg (by simpa using h), if_neg h, Option.or_none]

theorem find?_foldl_insert (t : Table κ α) (writes : List (κ × α)) (key : κ) :
    find? (writes.foldl (fun t write => insert t write.1 write.2) t) key =
      (lastWritten? writes key).or (find? t key) := by
  induction writes generalizing t with
  | nil => rfl
  | cons write rest ih =>
    obtain ⟨k, value⟩ := write
    rw [List.foldl_cons, ih, find?_insert, lastWritten?_cons, Option.or_assoc]
    by_cases h : k = key
    · rw [if_pos h, if_pos h, Option.some_or]
    · rw [if_neg h, if_neg h, Option.none_or]

end Table

namespace EntityRegistry

def Keyed (r : EntityRegistry) : Prop := ∀ entry ∈ r.entities, entry.1 = entry.2.kind.resource

theorem keyed_register {r : EntityRegistry} (h : r.Keyed) (e : Entity) : (r.register e).Keyed := by
  intro entry hentry
  rcases Table.mem_insert hentry with rfl | hold
  · rfl
  · exact h entry hold

theorem keyed_foldl_register {r : EntityRegistry} (h : r.Keyed) (entities : List Entity) :
    (entities.foldl register r).Keyed := by
  induction entities generalizing r with
  | nil => exact h
  | cons e rest ih => exact ih (keyed_register h e)

theorem resource_of_get? {r : EntityRegistry} (h : r.Keyed) {resource : String} {e : Entity}
    (he : r.get? resource = some e) : e.kind.resource = resource :=
  (h (resource, e) (Table.mem_of_find? he)).symm

theorem entities_foldl_register (r : EntityRegistry) (entities : List Entity) :
    (entities.foldl register r).entities =
      (entities.map fun e => (e.kind.resource, e)).foldl (fun t write => Table.insert t write.1 write.2)
        r.entities := by
  induction entities generalizing r with
  | nil => rfl
  | cons e rest ih => exact ih (r.register e)

end EntityRegistry

/-- What was registered to set up a catalogue, in order, on top of the known entities or of none. -/
structure Registrations where
  onKnown : Bool
  entities : List Entity
  rules : List (EntityKind × VisibilityRule)

namespace Registrations
variable (s : Registrations)

def registry : EntityRegistry :=
  s.entities.foldl EntityRegistry.register (if s.onKnown then .standard else .empty)

def visibility : VisibilityRegistry :=
  s.rules.foldl (fun r rule => r.register rule.1 rule.2) .empty

def history : List Entity :=
  (if s.onKnown then
    [EntityRegistry.device, EntityRegistry.platform, EntityRegistry.configuration, EntityRegistry.contact,
      EntityRegistry.site]
  else []) ++ s.entities

def entity? (kind : EntityKind) : Option Entity := (s.history.filter fun e => e.kind = kind).getLast?

def rule? (kind : EntityKind) : Option VisibilityRule := Table.lastWritten? s.rules kind

def visible (kind : EntityKind) (user : User) : Option Filter :=
  if user.isSuperuser then none else (s.rule? kind).bind fun rule => rule user

theorem registry_eq : s.registry = s.history.foldl EntityRegistry.register .empty := by
  rw [registry, history, List.foldl_append]
  cases s.onKnown <;> rfl

theorem keyed_registry : s.registry.Keyed := by
  rw [registry_eq]
  refine EntityRegistry.keyed_foldl_register ?_ s.history
  intro entry hentry
  cases hentry

theorem get?_registry (resource : String) :
    s.registry.get? resource = (s.history.filter fun e => e.kind.resource = resource).getLast? := by
  rw [EntityRegistry.get?, registry_eq, EntityRegistry.entities_foldl_register, Table.find?_foldl_insert,
    Table.lastWritten?, List.filter_map, List.getLast?_map, Option.map_map]
  change Option.or (Option.map id _) none = _
  rw [Option.map_id, Option.or_none]
  rfl

theorem get?_registry_resource (kind : EntityKind) : s.registry.get? kind.resource = s.entity? kind := by
  have hkind (e : Entity) : (e.kind.resource = kind.resource) = (e.kind = kind) :=
    propext ⟨EntityKind.resource_injective, congrArg EntityKind.resource⟩
  rw [get?_registry, entity?]
  simp only [hkind]

theorem find?_visibility (kind : EntityKind) : Table.find? s.visibility.rules kind = s.rule? kind := by
  have hrules (r : VisibilityRegistry) (rules : List (EntityKind × VisibilityRule)) :
      (rules.foldl (fun r rule => r.register rule.1 rule.2) r).rules =
        rules.foldl (fun t write => Table.insert t write.1 write.2) r.rules := by
    induction rules generalizing r with
    | nil => rfl
    | cons rule rest ih => exact ih (r.register rule.1 rule.2)
  rw [visibility, hrules, Table.find?_foldl_insert]
  exact Option.or_none

theorem filterFor_visibility (kind : EntityKind) (user : User) :
    s.visibility.filterFor kind user = s.visible kind user := by
  rw [VisibilityRegistry.filterFor, find?_visibility, visible]

/-- A resource is searched if it is the name of a kind and the last entity of that kind has an index. -/
theorem resolve?_registry_iff {resource : String} {e : Entity} {index : String} :
    s.registry.resolve? resource = some (e, index) ↔
      ∃ kind, kind.resource = resource ∧ s.entity? kind = some e ∧ e.kind = kind ∧ e.index = some index := by
  rw [EntityRegistry.resolve?_eq_some_iff]
  constructor
  · rintro ⟨he, hindex⟩
    have hresource : e.kind.resource = resource := EntityRegistry.resource_of_get? s.keyed_registry he
    refine ⟨e.kind, hresource, ?_, rfl, hindex⟩
    rw [← get?_registry_resource, hresource, he]
  · rintro ⟨kind, rfl, he, -, hindex⟩
    exact ⟨(s.get?_registry_resource kind).trans he, hindex⟩

/-- The same entity and the same rule were last registered for the kind of a resource name. -/
structure SameFor (resource : String) (s t : Registrations) : Prop where
  entity?_eq : ∀ kind : EntityKind, kind.resource = resource → s.entity? kind = t.entity? kind
  rule?_eq : ∀ kind : EntityKind, kind.resource = resource → s.rule? kind = t.rule? kind

theorem filter_kind_eq {α : Type} (kindOf : α → EntityKind) {kind : EntityKind} {resource : String}
    (h : kind.resource = resource) (items : List α) :
    (items.filter fun item => kindOf item = kind) =
      (items.filter fun item => (kindOf item).resource = resource).filter fun item => kindOf item = kind := by
  rw [List.filter_filter]
  refine List.filter_congr fun item _ => ?_
  by_cases hitem : kindOf item = kind
  · simp [hitem, h]
  · simp [hitem]

theorem sameFor_of_filter_eq {s t : Registrations} {resource : String}
    (hentities : (s.history.filter fun e => e.kind.resource = resource) =
      t.history.filter fun e => e.kind.resource = resource)
    (hrules : (s.rules.filter fun rule => rule.1.resource = resource) =
      t.rules.filter fun rule => rule.1.resource = resource) : SameFor resource s t where
  entity?_eq kind hkind := by
    rw [entity?, entity?, filter_kind_eq Entity.kind hkind s.history,
      filter_kind_eq Entity.kind hkind t.history, hentities]
  rule?_eq kind hkind := by
    rw [rule?, rule?, Table.lastWritten?, Table.lastWritten?, filter_kind_eq Prod.fst hkind s.rules,
      filter_kind_eq Prod.fst hkind t.rules, hrules]

theorem SameFor.resolve?_eq {s t : Registrations} {resource : String} (h : SameFor resource s t) :
    s.registry.resolve? resource = t.registry.resolve? resource := by
  have hiff (found : Entity × String) :
      s.registry.resolve? resource = some found ↔ t.registry.resolve? resource = some found := by
    obtain ⟨e, index⟩ := found
    rw [s.resolve?_registry_iff, t.resolve?_registry_iff]
    refine exists_congr fun kind => and_congr_right fun hkind => ?_
    rw [h.entity?_eq kind hkind]
  exact Option.ext hiff

end Registrations

def Selection.compiled (fields : List String) (text filter : Option String) : Option Filter :=
  (Filter.combine [text.bind (textPart fields), filter.bind filterPart]).map Filter.simplify

/-- A plan with the index, the text fields and the sort aliases of an entity, and with what may be seen. -/
structure SearchPlan.MadeWith (plan : SearchPlan) (entity : Entity) (request : ListRequest)
    (visible : Option Filter) : Prop where
  index : entity.index = some plan.index
  query : plan.request.query = Filter.queryOf ((Filter.combine
    [Selection.compiled entity.textFields (request.get? "q") (request.get? "filter"), visible]).map
      Filter.simplify)
  sort : ∃ sort, request.sort = .ok sort ∧
    plan.request.sort = sort.map fun f => { f with field := entity.sortField f.field }.render

namespace Catalog
variable (c : Catalog)

def setUp (s : Registrations) : Catalog := { c with entities := s.registry, visibility := s.visibility }

variable (s : Registrations) (resource : String) (request : ListRequest) (user : User)

theorem filterFor_setUp (kind : EntityKind) :
    (c.setUp s).visibility.filterFor kind user = s.visible kind user :=
  s.filterFor_visibility kind user

theorem plan_setUp {s : Registrations} {resource : String} {request : ListRequest} {user : User}
    {plan : SearchPlan} (h : (c.setUp s).plan resource request user = .ok (some plan)) :
    ∃ kind entity backend, kind.resource = resource ∧ s.entity? kind = some entity ∧
      c.search = some backend ∧ plan.MadeWith entity request (s.visible kind user) ∧
      (c.setUp s).list resource request user = plan.searched entity backend c.loader := by
  obtain ⟨entity, index, backend, selection, hroute, hplan⟩ := plan_eq_some_iff.1 h
  obtain ⟨hbackend, hresolve, hselection, -⟩ := route_eq_search_iff.1 hroute
  obtain ⟨kind, hresource, hentity, hkind, hindex⟩ := s.resolve?_registry_iff.1 hresolve
  have hlist := (c.setUp s).list_of_search resource request user hroute
  rw [hplan] at hlist
  obtain ⟨filter, page, sort, hfilter, -, hsort, rfl⟩ := planFor_eq_ok_iff.1 hplan
  rw [(c.setUp s).restricted_of_selection hselection, filterFor_setUp, hkind] at hfilter
  cases hfilter
  exact ⟨kind, entity, backend, hresource, hentity, hbackend, ⟨hindex, rfl, sort, hsort, rfl⟩, hlist⟩

theorem setUp_eq_of_sameFor {s t : Registrations} {resource : String}
    (h : Registrations.SameFor resource s t) :
    (c.setUp s).plan resource request user = (c.setUp t).plan resource request user ∧
      (c.setUp s).list resource request user = (c.setUp t).list resource request user := by
  have hresolve : (c.setUp s).entities.resolve? resource = (c.setUp t).entities.resolve? resource :=
    h.resolve?_eq
  have hroute : (c.setUp s).route resource request = (c.setUp t).route resource request := by
    rw [route, route, hresolve]
    rfl
  cases htaken : (c.setUp t).route resource request with
  | error e =>
    rw [htaken] at hroute
    simp only [Catalog.plan, Catalog.list, hroute, htaken]
    exact ⟨rfl, rfl⟩
  | ok taken =>
    rw [htaken] at hroute
    cases taken with
    | relational =>
      simp only [Catalog.plan, Catalog.list, hroute, htaken]
      exact ⟨rfl, rfl⟩
    | search entity index backend selection =>
      obtain ⟨-, hfound, -, -⟩ := route_eq_search_iff.1 htaken
      obtain ⟨kind, hkind, -, rfl, -⟩ := t.resolve?_registry_iff.1 hfound
      have hvisible : s.visible entity.kind user = t.visible entity.kind user := by
        rw [Registrations.visible, Registrations.visible, h.rule?_eq entity.kind hkind]
      have hplan : (c.setUp s).planFor entity index selection request user =
          (c.setUp t).planFor entity index selection request user := by
        rw [planFor, planFor, restricted, restricted, filterFor_setUp, filterFor_setUp, hvisible]
        rfl
      rw [plan_of_search hroute, plan_of_search htaken, list_of_search _ _ _ _ hroute,
        list_of_search _ _ _ _ htaken, hplan]
      exact ⟨rfl, rfl⟩

theorem setUp_relational
    (h : ∀ kind : EntityKind, kind.resource = resource → ∀ e, s.entity? kind = some e → e.index = none) :
    (c.setUp s).plan resource request user = .ok none ∧
      (c.setUp s).list resource request user =
        ⟨c.relational resource request user, [.relational resource request user]⟩ := by
  have hresolve : s.registry.resolve? resource = none := by
    rw [Option.eq_none_iff_forall_ne_some]
    rintro ⟨e, index⟩ hfound
    obtain ⟨kind, hkind, he, -, hindex⟩ := s.resolve?_registry_iff.1 hfound
    rw [h kind hkind e he] at hindex
    cases hindex
  have hsearches : (c.setUp s).searches resource = false := by
    have hnone : (c.setUp s).entities.resolve? resource = none := hresolve
    rw [searches, hnone, Option.isSome_none, Bool.and_false]
  have hplan := (c.setUp s).plan_of_not_searches hsearches request user
  have hlist := (c.setUp s).carriesOut_plan resource request user
  rw [hplan] at hlist
  exact ⟨hplan, hlist⟩

/-- However a catalogue was set up, a resource is searched by the entity last registered for the kind of its
name, through the rule last registered for that kind; registrations for other kinds do not matter, and without
an entity that has an index the resource is relational. -/
theorem searches_by_last_registered :
    (∀ entry ∈ s.registry.entities, entry.1 = entry.2.kind.resource) ∧
    (∀ entity index, s.registry.resolve? resource = some (entity, index) ↔
      ∃ kind, kind.resource = resource ∧ s.entity? kind = some entity ∧ entity.kind = kind ∧
        entity.index = some index) ∧
    (∀ plan, (c.setUp s).plan resource request user = .ok (some plan) →
      ∃ kind entity backend, kind.resource = resource ∧ s.entity? kind = some entity ∧
        c.search = some backend ∧ plan.MadeWith entity request (s.visible kind user) ∧
        (c.setUp s).list resource request user = plan.searched entity backend c.loader) ∧
    (∀ t, Registrations.SameFor resource s t →
      (c.setUp s).plan resource request user = (c.setUp t).plan resource request user ∧
        (c.setUp s).list resource request user = (c.setUp t).list resource request user) ∧
    (∀ t : Registrations,
      (s.history.filter fun e => e.kind.resource = resource) =
        (t.history.filter fun e => e.kind.resource = resource) →
      (s.rules.filter fun rule => rule.1.resource = resource) =
        (t.rules.filter fun rule => rule.1.resource = resource) →
      Registrations.SameFor resource s t) ∧
    ((∀ kind : EntityKind, kind.resource = resource → ∀ e, s.entity? kind = some e → e.index = none) →
      (c.setUp s).plan resource request user = .ok none ∧
        (c.setUp s).list resource request user =
          ⟨c.relational resource request user, [.relational resource request user]⟩) := by
  refine ⟨s.keyed_registry, ?resolved, ?planned, ?same, ?others, ?relational⟩
  case resolved => exact fun entity index => s.resolve?_registry_iff
  case planned => exact fun plan h => c.plan_setUp h
  case same => exact fun t h => c.setUp_eq_of_sameFor request user h
  case others => exact fun t => Registrations.sameFor_of_filter_eq
  case relational => exact c.setUp_relational s resource request user

def citySites : Entity := ((Entity.ofKind .site).withTextFields ["label", "city"]).withIndex (some "sites_v2")

def movedSites : Registrations where
  onKnown := true
  entities := [((Entity.ofKind .site).withTextFields ["label"]).withIndex (some "sites_v1"),
    (Entity.ofKind .device).withIndex none, citySites]
  rules := [(.site, fun _ => some .nothing), (.site, fun _ => some (.term "is_public" (.bool true))),
    (.device, fun _ => none)]

theorem searches_by_last_registered_movedSites :
    (∃ plan, (publicDevices.setUp movedSites).plan "sites" oldProbes .anonymous = .ok (some plan) ∧
      plan.index = "sites_v2" ∧
      movedSites.visible .site .anonymous = some (.term "is_public" (.bool true)) ∧
      ∃ entity, entity.textFields = ["label", "city"] ∧
        plan.MadeWith entity oldProbes (movedSites.visible .site .anonymous)) ∧
      ∀ request user, (publicDevices.setUp movedSites).plan "devices" request user = .ok none := by
  have hsite : movedSites.entity? .site = some citySites := rfl
  have hdevice : movedSites.entity? .device = some ((Entity.ofKind .device).withIndex none) := rfl
  refine ⟨?_, fun request user => ?_⟩
  · have hlaws := searches_by_last_registered publicDevices movedSites "sites" oldProbes .anonymous
    have hresolve := (hlaws.2.1 _ "sites_v2").2 ⟨.site, rfl, hsite, rfl, rfl⟩
    have hpage : (publicDevices.setUp movedSites).allowedPage oldProbes = .ok ⟨1, 20⟩ := rfl
    obtain ⟨plan, hplan⟩ := exists_plan rfl hresolve selection_oldProbes rfl hpage rfl .anonymous
    obtain ⟨kind, entity, backend, hkind, hentity, -, hmade, -⟩ := hlaws.2.2.1 plan hplan
    have hkind : kind = .site := EntityKind.resource_injective hkind
    subst hkind
    rw [hsite] at hentity
    cases hentity
    have hindex : plan.index = "sites_v2" := (Option.some.inj hmade.index).symm
    exact ⟨plan, hplan, hindex, rfl, citySites, rfl, hmade⟩
  · refine ((searches_by_last_registered publicDevices movedSites "devices" request user).2.2.2.2.2 ?_).1
    intro kind hkind e he
    have hkind : kind = .device := EntityKind.resource_injective hkind
    subst hkind
    rw [hdevice] at he
    cases he
    rfl

end Catalog
end CatalogSearch
