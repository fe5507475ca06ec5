import CatalogSearch.Table
/-!
The kinds of catalogued entities, how each is laid out in the search index, and the registry in which a
resource name is looked up.
-/
namespace CatalogSearch

inductive EntityKind where
  | device
  | platform
  | configuration
  | contact
  | site
deriving DecidableEq, Repr

def EntityKind.resource : EntityKind → String
  | .device => "devices"
  | .platform => "platforms"
  | .configuration => "configurations"
  | .contact => "contacts"
  | .site => "sites"

theorem EntityKind.resource_injective {a b : EntityKind} (h : a.resource = b.resource) : a = b := by
  cases a <;> cases b <;> simp_all [EntityKind.resource]

/-- The layout of one kind. Without an index it is not searched. A sort key is looked up in the aliases,
because an analysed text field is sorted by its keyword field. -/
structure Entity where
  kind : EntityKind
  index : Option String
  textFields : List String
  sortAliases : Table String String
deriving DecidableEq, Repr

namespace Entity

def ofKind (kind : EntityKind) : Entity := ⟨kind, some kind.resource, [], []⟩

def withTextFields (e : Entity) (fields : List String) : Entity := { e with textFields := fields }

def withKeywordSort (e : Entity) (fields : List String) : Entity :=
  let aliases := fields.foldl (fun t field => Table.insert t field (field ++ ".keyword")) e.sortAliases
  { e with sortAliases := aliases }

def withIndex (e : Entity) (index : Option String) : Entity := { e with index }

def sortField (e : Entity) (key : String) : String := (Table.find? e.sortAliases key).getD key

end Entity

structure EntityRegistry where
  entities : Table String Entity
deriving DecidableEq, Repr

namespace EntityRegistry

def empty : EntityRegistry := ⟨[]⟩

/-- Adds the entity, in the place of an earlier one of its kind. -/
def register (r : EntityRegistry) (e : Entity) : EntityRegistry :=
  ⟨Table.insert r.entities e.kind.resource e⟩

def get? (r : EntityRegistry) (resource : String) : Option Entity := Table.find? r.entities resource

def resolve? (r : EntityRegistry) (resource : String) : Option (Entity × String) := do
  let e ← r.get? resource
  let index ← e.index
  pure (e, index)

def device : Entity :=
  (Entity.ofKind .device).withTextFields
      ["short_name", "long_name", "description", "serial_number", "inventory_number",
        "manufacturer_name", "model", "device_type_name", "status_name", "keywords"]
    |>.withKeywordSort ["short_name", "long_name", "manufacturer_name", "model"]

def platform : Entity :=
  (Entity.ofKind .platform).withTextFields
      ["short_name", "long_name", "description", "serial_number", "inventory_number",
        "manufacturer_name", "model", "platform_type_name", "status_name", "keywords"]
    |>.withKeywordSort ["short_name", "long_name", "manufacturer_name", "model"]

def configuration : Entity :=
  (Entity.ofKind .configuration).withTextFields ["label", "description", "project", "status", "keywords"]
    |>.withKeywordSort ["label", "project"]

def contact : Entity :=
  (Entity.ofKind .contact).withTextFields ["given_name", "family_name", "email", "website", "organization"]
    |>.withKeywordSort ["given_name", "family_name", "email"]

def site : Entity :=
  (Entity.ofKind .site).withTextFields ["label", "description", "street", "city", "country"]
    |>.withKeywordSort ["label"]

def standard : EntityRegistry := [device, platform, configuration, contact, site].foldl register empty

end EntityRegistry
end CatalogSearch
