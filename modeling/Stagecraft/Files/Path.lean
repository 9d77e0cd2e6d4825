import Stagecraft.Text.Basic

/-!
# Paths

Paths are texts with parts between slashes. Joining puts one slash in between;
nothing else is normalised.
-/

namespace Stagecraft.Path

/-- A path continued by another one, which replaces it when it is absolute. -/
def join (base part : String) : String :=
  if part.toList.head? == some '/' then
    part
  else if base.isEmpty || base.toList.getLast? == some '/' then
    base ++ part
  else
    base ++ "/" ++ part

def isAbsolute (path : String) : Bool := path.toList.head? == some '/'

/-- Whether a path insists on naming a folder. -/
def endsInSlash (path : String) : Bool :=
  match path.toList.reverse with
  | '/' :: _ => true
  | '.' :: '/' :: _ => true
  | _ => false

/-- Whether a part of a path says nothing: it is empty or a single dot. -/
def isSilent (part : List Char) : Bool := part.isEmpty || part == ['.']

def parts (path : String) : List (List Char) := Text.splitAt '/' path.toList

/-- The names that a path passes through; silent parts are left out. -/
def names (path : String) : List String :=
  ((parts path).filter fun part => !isSilent part).map String.ofList

/-- The last name of a path, unless it leads back up. -/
def fileName? (path : String) : Option String :=
  match (names path).getLast? with
  | some ".." => none
  | other => other

/-- A path up to its last name, without the silent parts on either side of that
name. -/
def parent (path : String) : String :=
  let named := (parts path).reverse.dropWhile isSilent
  let above := (named.drop 1).dropWhile isSilent
  if above.isEmpty && isAbsolute path then
    "/"
  else
    String.intercalate "/" (above.reverse.map String.ofList)

/-- The folder at an absolute path and all folders above it, nearest first. -/
def ancestors (path : String) : List String :=
  let names := names path
  (List.range (names.length + 1)).reverse.map fun depth =>
    "/" ++ String.intercalate "/" (names.take depth)

/-- The name that stands in for a missing file name. -/
def defaultFileName : String := "session"

/-- The path of the file that is written in place of the one at a path, next to
it, before it takes its place. -/
def staging (path : String) : String :=
  match fileName? path with
  | some name => join (parent path) (name ++ ".partial")
  | none => join path (defaultFileName ++ ".partial")

end Stagecraft.Path
