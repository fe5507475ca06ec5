import CatalogSearch.Table
/-!
The files of a working directory by their paths. Paths that lead to the same place have one normal form: no
empty step, no dot, and steps upwards only at the beginning. A file is read only by a path whose steps all
start from folders.
-/
namespace CatalogSearch

/-- The texts of files, and the folders around them, by paths in normal form. -/
structure Directory where
  files : Table String String
  folders : List String

namespace Directory

def isAbsolute (path : String) : Bool := path.toList.head? == some '/'

def root (path : String) : String := if isAbsolute path then "/" else ""

def steps (path : String) : List String := (path.toList.splitOn '/').map String.ofList

/-- Takes one more step; `way` holds the steps taken, the last of which comes first. -/
def step (way : List String) (next : String) : List String :=
  if next = "" ∨ next = "." then way
  else if next = ".." then
    match way with
    | [] => [".."]
    | last :: before => if last = ".." then ".." :: way else before
  else next :: way

def way (path : String) : List String := (steps path).foldl step []

def shown (way : List String) : String := String.intercalate "/" way.reverse

def normal (path : String) : String := root path ++ shown (way path)

def parent (path : String) : String := root path ++ shown ((way path).drop 1)

def join (directory path : String) : String :=
  normal (if isAbsolute path || directory.isEmpty then path else directory ++ "/" ++ path)

def isInside (path : String) : Bool := !isAbsolute path && (way path).getLast? != some ".."

def waysFrom (way : List String) : List String → List (List String)
  | [] => []
  | next :: rest => step way next :: waysFrom (step way next) rest

def places (path : String) : List String := (waysFrom [] (steps path)).map fun way => root path ++ shown way

def origins (path : String) : List String := root path :: (places path).dropLast

/-- What follows the last point in the last step of a path, unless the step begins with that point. -/
def extension? (path : String) : Option String :=
  let parts := ((steps path).getLastD "").toList.splitOn '.'
  if parts.length = 1 ∨ (parts.length = 2 ∧ parts.head? = some []) then none
  else parts.getLast?.map String.ofList

/-- A path with an extension added to the name at its end. Empty steps and dots after the name are lost. -/
def extend? (path extension : String) : Option String :=
  match (steps path).reverse.dropWhile fun s => s = "" ∨ s = "." with
  | [] => none
  | name :: before => if name = ".." then none else some (shown ((name ++ "." ++ extension) :: before))

def ofFiles (files : List (String × String)) : Directory where
  files := Table.ofList (files.map fun (path, text) => (normal path, text))
  folders := files.flatMap fun (path, _) => origins path

def file? (d : Directory) (path : String) : Option String := Table.find? d.files (normal path)

def isFile (d : Directory) (path : String) : Bool := (d.file? path).isSome

def read? (d : Directory) (path : String) : Option String :=
  if (origins path).all d.folders.contains then d.file? path else none

/-- Whether a path leads through a file or cannot be written, so that no directory can have it. -/
def isBlocked (d : Directory) (path : String) : Bool :=
  path.toList.contains '\x00' || (places path).any d.isFile

end Directory
end CatalogSearch
