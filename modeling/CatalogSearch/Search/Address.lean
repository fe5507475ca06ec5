import CatalogSearch.Number.Numeral
import CatalogSearch.Text.Split
/-!
Addresses of HTTP resources, as far as a request needs them: the host, the port and the target. The target
is normalised: dot segments are resolved, and what may not stand in it is written by percent codes.
-/
namespace CatalogSearch

structure Address where
  host : String
  port : Nat
  target : String
deriving DecidableEq, Repr

namespace Address

/-- Blanks and controls around an address do not belong to it, nor do tabs and line ends inside. -/
def strip (s : List Char) : List Char :=
  let outer (c : Char) : Bool := c.toNat ≤ 0x20
  let inside := ((s.dropWhile outer).reverse.dropWhile outer).reverse
  inside.filter fun c => !(c == '\t' || c == '\n' || c == '\r')

def isSlash (c : Char) : Bool := c == '/' || c == '\\'

def endsAuthority (c : Char) : Bool := isSlash c || c == '?' || c == '#'

def hexDigit (n : Nat) : Char := (Nat.digitChar n).toUpper

def percent (b : UInt8) : List Char := ['%', hexDigit (b.toNat / 16), hexDigit (b.toNat % 16)]

def encode (reserved : List Char) (s : List Char) : List Char :=
  s.flatMap fun c =>
    if c.toNat < 0x20 ∨ 0x7E < c.toNat ∨ reserved.contains c then
      (String.singleton c).toUTF8.toList.flatMap percent
    else [c]

def encodePath (s : List Char) : List Char :=
  encode [' ', '"', '#', '<', '>', '?', '\x60', '\x7b', '\x7d'] s

def encodeQuery (s : List Char) : List Char := encode [' ', '"', '#', '<', '>', '\''] s

def isHere (segment : List Char) : Bool :=
  ["."  , "%2e"].contains (String.ofList (segment.map Char.toLower))

def isAbove (segment : List Char) : Bool :=
  ["..", ".%2e", "%2e.", "%2e%2e"].contains (String.ofList (segment.map Char.toLower))

/-- Resolves the dot segments after those already passed, the last of which comes first. A path that ends
in one ends in a slash. -/
def resolve (passed : List (List Char)) : List (List Char) → List (List Char)
  | [] => passed.reverse
  | [segment] =>
    if isAbove segment then ([] :: passed.drop 1).reverse
    else if isHere segment then ([] :: passed).reverse
    else (segment :: passed).reverse
  | segment :: rest =>
    if isAbove segment then resolve (passed.drop 1) rest
    else if isHere segment then resolve passed rest
    else resolve (segment :: passed) rest

def targetOf (s : List Char) : List Char :=
  let s := s.takeWhile (· != '#')
  let path := s.takeWhile (· != '?')
  let query := s.dropWhile (· != '?')
  let slashed := (path.map fun c => if isSlash c then '/' else c).drop 1
  let segments := resolve [] ((slashed.splitOn '/').map encodePath)
  '/' :: ['/'].intercalate segments ++ encodeQuery query

def port? : List Char → Option Nat
  | [] => some 80
  | ds => (Numeral.natural? ds).filter (· ≤ 65535)

def parse? (text : String) : Option Address := do
  let (scheme, rest) ← Text.cut ':' (strip text.toList)
  if scheme.map Char.toLower ≠ "http".toList then none
  let rest := rest.dropWhile isSlash
  let authority := rest.takeWhile (!endsAuthority ·)
  let named := (authority.splitOn '@').getLast?.getD []
  let host := named.takeWhile (· != ':')
  let port ← port? ((named.dropWhile (· != ':')).drop 1)
  if host.isEmpty then none
  pure {
    host := String.ofList (host.map Char.toLower)
    port
    target := String.ofList (targetOf (rest.dropWhile (!endsAuthority ·))) }

end Address
end CatalogSearch
