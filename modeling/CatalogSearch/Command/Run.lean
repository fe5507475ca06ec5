import CatalogSearch.Catalog
import CatalogSearch.Command
import CatalogSearch.LogFile
import CatalogSearch.Settings.Load
/-!
What a command comes to in given surroundings: the text that it prints or the failure that it ends with,
the log file that it opens and the requests that it sends.
-/
namespace CatalogSearch

structure Surroundings where
  directory : Directory
  environment : Environment
  server : Server
  time : Stamp

inductive CommandFailure where
  | unknownResource (resource : String)
  | filterNotJson
  | filter (error : FilterError)
  | parameter (written : String)
  | settings
  | logging (blocked : LogFile.Blocked)
  | service (error : ServiceError)
deriving Repr

def CommandFailure.message : CommandFailure → String
  | .unknownResource resource => "unknown resource '" ++ resource ++ "'"
  | .filterNotJson => "filter is not valid JSON"
  | .filter error => error.message
  | .parameter written => "parameter '" ++ written ++ "' is not KEY=VALUE"
  | .settings => "load configuration"
  | .logging blocked => blocked.message
  | .service error => error.message

structure Outcome where
  printed : Except CommandFailure String
  logFile : Option String
  sent : List Post

namespace Command

def failed (failure : CommandFailure) : Outcome := ⟨.error failure, none, []⟩

/-- The query of a text and a filter on a resource; no settings play a part in it. -/
def compileQuery (resource : String) (text filter : Option String) (strict : Bool) :
    Except CommandFailure Json := do
  let entity ← match EntityRegistry.standard.get? resource with
    | some entity => pure entity
    | none => throw (.unknownResource resource)
  let selection := Selection.empty.withPolicy (if strict then .strict else .lenient)
  let selection := (text.map selection.setText).getD selection
  let selection ← match filter with
    | none => pure selection
    | some filter =>
      match Json.read? filter with
      | some value => pure (selection.setCriteria value)
      | none => throw .filterNotJson
  match selection.compile entity.textFields with
  | .ok filter => pure (Filter.queryOf filter)
  | .error e => throw (.filter e)

def parameter? (written : String) : Except CommandFailure (String × String) :=
  match Text.cut '=' written.toList with
  | some (key, value) => pure (String.ofList key, String.ofList value)
  | none => throw (.parameter written)

def noRelationalStore : RelationalStore := fun resource _ _ =>
  let reason := "would be listed from the relational store, which is not available here"
  throw (.relational ("'" ++ resource ++ "' " ++ reason))

def line (value : Json) : String := value.pretty ++ "\n"

def showPlan : Option SearchPlan → String
  | none => "relational\n"
  | some plan => line (.object [("index", .string plan.index), ("body", plan.request.body)])

def posts (settings : SearchSettings) (calls : List Call) : List Post :=
  match SearchClient.ofSettings settings with
  | .error _ => []
  | .ok client => calls.filterMap fun
    | .search index request => client.post? index request
    | _ => none

def searchWith (server : Server) (settings : SearchSettings) (resource : String) (request : ListRequest)
    (user : User) (dryRun : Bool) : Except ServiceError String × List Post :=
  match Catalog.ofSettings settings .standard .empty noRelationalStore server with
  | .error e => (.error e, [])
  | .ok catalog =>
    if dryRun then ((catalog.plan resource request user).map showPlan, [])
    else
      let answer := catalog.list resource request user
      (answer.result.map fun listing => line listing.toJson, posts settings answer.calls)

def runSearch (w : Surroundings) (resource : String) (options : SearchOptions) : Outcome :=
  match options.parameters.mapM parameter? with
  | .error failure => failed failure
  | .ok items =>
    match Settings.load w.directory w.environment with
    | .error _ => failed .settings
    | .ok settings =>
      match LogFile.open? settings.logging w.directory w.time with
      | .error blocked => failed (.logging blocked)
      | .ok logFile =>
        let known := (options.user.map User.authenticated).getD .anonymous
        let user := { known with isSuperuser := options.superuser }
        let (printed, sent) :=
          searchWith w.server settings.search resource (.ofItems items) user options.dryRun
        { printed := printed.mapError .service, logFile, sent }

def run (w : Surroundings) : Command → Outcome
  | .compile resource text filter strict =>
    ⟨(compileQuery resource text filter strict).map line, none, []⟩
  | .search resource options => runSearch w resource options

end Command
end CatalogSearch
