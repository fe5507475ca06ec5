import CatalogSearch.Command.Arguments
/-!
The commands of the program and how they are written.
-/
namespace CatalogSearch

structure SearchOptions where
  parameters : List String
  user : Option String
  superuser : Bool
  dryRun : Bool
deriving DecidableEq, Repr

inductive Command where
  | compile (resource : String) (text filter : Option String) (strict : Bool)
  | search (resource : String) (options : SearchOptions)
deriving DecidableEq, Repr

namespace Command

def compileRules : List OptionRule := [
  ⟨"q", none, .single⟩,
  ⟨"filter", none, .single⟩,
  ⟨"strict", none, .flag⟩]

def searchRules : List OptionRule := [
  ⟨"param", some 'p', .many⟩,
  ⟨"user", none, .single⟩,
  ⟨"superuser", none, .flag⟩,
  ⟨"dry-run", none, .flag⟩]

def withResource (rules : List OptionRule) (arguments : List String) (make : String → Arguments → Command) :
    Except Misuse Command := do
  let a ← Arguments.read rules arguments
  match a.words with
  | [resource] => pure (make resource a)
  | _ => throw .unusable

def read : List String → Except Misuse Command
  | "compile" :: rest =>
    withResource compileRules rest fun resource a =>
      .compile resource (a.value? "q") (a.value? "filter") (a.has "strict")
  | "search" :: rest =>
    withResource searchRules rest fun resource a =>
      .search resource {
        parameters := a.values "param"
        user := a.value? "user"
        superuser := a.has "superuser"
        dryRun := a.has "dry-run" }
  | "help" :: _ => throw .help
  | "--help" :: _ => throw .help
  | "-h" :: _ => throw .help
  | _ => throw .unusable

def usage : String :=
  "Compile and run instrument metadata search requests\n\n"
    ++ "  compile RESOURCE [--q TEXT] [--filter JSON] [--strict]\n"
    ++ "  search RESOURCE [-p KEY=VALUE]... [--user ID] [--superuser] [--dry-run]\n"

end Command
end CatalogSearch
