import CatalogSearch.ListRequest
import CatalogSearch.Search.Client
import CatalogSearch.Visibility
/-!
The collaborators of the catalogue, and how they are asked: a step that asks one of them records the call by
itself, so an answer that is made of such steps comes with all of its calls in order.
-/
namespace CatalogSearch

/-- Runs a search request on an index, named without its stem. -/
abbrev SearchBackend := String → SearchRequest → Except ServiceError SearchHits

abbrev RelationalStore := String → ListRequest → User → Except ServiceError Listing

abbrev EagerLoader := Entity → SearchHits → Except ServiceError (List Json)

inductive Call where
  | search (index : String) (request : SearchRequest)
  | load (entity : Entity) (hits : SearchHits)
  | relational (resource : String) (request : ListRequest) (user : User)
deriving Repr

/-- What some steps come to, and the calls made for it in order. -/
structure Answer (α : Type) where
  result : Except ServiceError α
  calls : List Call

namespace Answer
variable {α β : Type}

-- An error is the last step; the calls made up to it are kept.
def andThen (first : Answer α) (next : α → Answer β) : Answer β :=
  match first.result with
  | .error e => ⟨.error e, first.calls⟩
  | .ok a => ⟨(next a).result, first.calls ++ (next a).calls⟩

instance : Monad Answer where
  pure a := ⟨.ok a, []⟩
  bind := andThen

instance : MonadLift (Except ServiceError) Answer where
  monadLift result := ⟨result, []⟩

theorem ok_bind (a : α) (calls : List Call) (next : α → Answer β) :
    (⟨.ok a, calls⟩ >>= next : Answer β) = ⟨(next a).result, calls ++ (next a).calls⟩ := rfl

@[simp] theorem lift_ok_bind (a : α) (next : α → Answer β) :
    (((.ok a : Except ServiceError α) : Answer α) >>= next) = next a := rfl

@[simp] theorem lift_error_bind (e : ServiceError) (next : α → Answer β) :
    (((.error e : Except ServiceError α) : Answer α) >>= next) = ⟨.error e, []⟩ := rfl

end Answer

def SearchBackend.ask (backend : SearchBackend) (index : String) (request : SearchRequest) : Answer SearchHits :=
  ⟨backend index request, [.search index request]⟩

def RelationalStore.ask (store : RelationalStore) (resource : String) (request : ListRequest) (user : User) :
    Answer Listing :=
  ⟨store resource request user, [.relational resource request user]⟩

def EagerLoader.ask (loader : EagerLoader) (entity : Entity) (hits : SearchHits) : Answer (List Json) :=
  ⟨loader entity hits, [.load entity hits]⟩

end CatalogSearch
