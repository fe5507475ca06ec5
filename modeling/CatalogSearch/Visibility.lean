import CatalogSearch.Entity
import CatalogSearch.Filter
/-!
Who asks, and what the asker may see. A visibility rule gives a filter for a user, or none where the user
may see everything.
-/
namespace CatalogSearch

structure User where
  id : Option String
  groups : List String
  isSuperuser : Bool
deriving DecidableEq, Repr

namespace User

def anonymous : User := ⟨none, [], false⟩

def authenticated (id : String) : User := { anonymous with id := some id }

def isAuthenticated (u : User) : Bool := u.id.isSome

end User

abbrev VisibilityRule := User → Option Filter

structure VisibilityRegistry where
  rules : Table EntityKind VisibilityRule

namespace VisibilityRegistry

def empty : VisibilityRegistry := ⟨[]⟩

def register (r : VisibilityRegistry) (kind : EntityKind) (rule : VisibilityRule) : VisibilityRegistry :=
  ⟨Table.insert r.rules kind rule⟩

/-- What restricts a user's view of a kind. Superusers are never restricted. -/
def filterFor (r : VisibilityRegistry) (kind : EntityKind) (user : User) : Option Filter :=
  if user.isSuperuser then none else (Table.find? r.rules kind).bind fun rule => rule user

theorem filterFor_superuser (r : VisibilityRegistry) (kind : EntityKind) {user : User}
    (h : user.isSuperuser = true) : r.filterFor kind user = none := by
  simp [filterFor, h]

end VisibilityRegistry
end CatalogSearch
