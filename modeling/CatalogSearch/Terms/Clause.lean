import CatalogSearch.Filter
/-!
Clauses of a query text. All clauses must hold, which is what `AND` says too; `OR` joins the clause before
it with the phrase after it; a leading dash negates a phrase; a star makes a token a pattern.
-/
namespace CatalogSearch.Clause

inductive Role where
  | conjunction
  | disjunction
  | bareDash
  | negated (text : String)
  | pattern (text : String)
  | plain (text : String)
deriving DecidableEq, Repr

/-- The dash is looked at before the star. -/
def Role.of (token : String) : Role :=
  if token = "AND" then .conjunction
  else if token = "OR" then .disjunction
  else
    match token.toList with
    | '-' :: [] => .bareDash
    | '-' :: rest => .negated (String.ofList rest)
    | cs => if cs.contains '*' then .pattern token else .plain token

/-- The clauses of the remaining tokens after those found so far, the last of which comes first. An `OR`
without a clause before it or a token after it is passed over. -/
def collect (fields : List String) (found : List Filter) : List String → List Filter
  | [] => found.reverse
  | token :: rest =>
    match Role.of token with
    | .conjunction => collect fields found rest
    | .disjunction =>
      match found, rest with
      | clause :: earlier, operand :: rest =>
        collect fields (.any [clause, .phrase operand fields] :: earlier) rest
      | found, rest => collect fields found rest
    | .bareDash => collect fields found rest
    | .negated text => collect fields (.not (.phrase text fields) :: found) rest
    | .pattern text => collect fields (.wildcard text fields :: found) rest
    | .plain text => collect fields (.phrase text fields :: found) rest

def ofTokens (fields : List String) (tokens : List String) : List Filter := collect fields [] tokens

def interpret (fields : List String) (tokens : List String) : Option Filter :=
  (Filter.all? (ofTokens fields tokens)).map Filter.simplify

end CatalogSearch.Clause
