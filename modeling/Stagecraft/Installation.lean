import Stagecraft.Files.Basic

/-!
# Installation

Where a project has its content and its saves. The project is found through the
variable `ISLE_ROOT`, which must name a folder that looks like a project.
-/

namespace Stagecraft

structure Installation where
  root : String
  content : String
  cache : String
deriving DecidableEq, Repr

/-- Why a program cannot start: a variable that is no text, a named folder or
none above the program's own that looks like a project, or no folder for
saves. -/
inductive StartupError where
  | badVariable (name : String)
  | invalidRoot (path : String)
  | rootNotFound (folder : String)
  | cacheNotMade (path : String)
deriving DecidableEq, Repr

def rootVariable : String := "ISLE_ROOT"

def StartupError.message : StartupError → String
  | .badVariable name => "failed to read environment variable " ++ name
  | .invalidRoot path =>
      rootVariable ++
        " is set but does not point to a valid project root: " ++ path ++
        "\nA valid root must contain Cargo.toml and either crates/ or assets/."
  | .rootNotFound folder =>
      "Could not detect project root by walking upward from executable " ++
        "directory: " ++ folder ++
        "\nExpected a directory containing Cargo.toml and either crates/ or " ++
        "assets/.\nSet " ++ rootVariable ++ " explicitly, for example:\n" ++
        "export " ++ rootVariable ++ "=\"/path/to/isle\""
  | .cacheNotMade path => "failed to create cache directory at " ++ path

namespace Installation

def ofRoot (root : String) : Installation where
  root := root
  content := Path.join (Path.join root "assets") "base"
  cache := Path.join root "cache"

def manifest : String := "Cargo.toml"

/-- The folders of which a project has at least one. -/
def folders : List String := ["crates", "assets"]

def isProject (files : Files) (root : String) : Bool :=
  files.isFile (Path.join root manifest) &&
    folders.any fun folder => files.isFolder (Path.join root folder)

/-- The part of an absolute path below the working folder, which is at the
absolute path `home`. -/
def relativeTo (home path : String) : Option String :=
  let rec strip : List Char → List Char → Option (List Char)
    | [], [] => some []
    | [], '/' :: rest => some (rest.dropWhile (· == '/'))
    | [], _ :: _ => none
    | _ :: _, [] => none
    | letter :: expected, char :: rest =>
        if letter == char then strip expected rest else none
  (strip home.toList path.toList).map String.ofList

/-- An absolute path as seen from the working folder, which is at the absolute
path `home`. -/
def fromHome (home path : String) : Option String :=
  match relativeTo home path with
  | some part => some part
  | none => if Path.isAbsolute path then some path else none

/-- The plain form of a path, if there is anything at it. -/
def plainPath (files : Files) (path : String) : Option String :=
  match files.locate path with
  | .ok place =>
      if files.isThere path then
        some (String.intercalate "/" place)
      else
        none
  | .error _ => none

/-- Finds the project at an absolute path and makes its folder for saves. The
working folder is at the absolute path `home`; the paths that result are
relative to it. -/
def atPath (home : String) (files : Files) (path : String) :
    Except StartupError (Installation × Files) :=
  match (fromHome home path).bind (plainPath files) with
  | none => .error (.invalidRoot path)
  | some root =>
      if isProject files root then
        let installation := ofRoot root
        let (ready, made) := files.makeFolder installation.cache
        if made then
          .ok (installation, ready)
        else
          .error (.cacheNotMade installation.cache)
      else
        .error
          (.invalidRoot (if root.isEmpty then home else Path.join home root))

/-- Finds the project that the bytes of the root variable name. -/
def find (home : String) (files : Files) (value : ByteArray) :
    Except StartupError (Installation × Files) :=
  match String.fromUTF8? value with
  | some path => atPath home files path
  | none => .error (.badVariable rootVariable)

end Installation

end Stagecraft
