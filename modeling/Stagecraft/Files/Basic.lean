import Stagecraft.Files.Path
import Stagecraft.Text.Utf8

/-!
# Files

The folder that the program works in, as a value: which files and folders it
holds and what reading and writing does to it.
-/

namespace Stagecraft

inductive FileEntry where
  | file (content : ByteArray)
  | folder

instance : DecidableEq FileEntry
  | .file left, .file right =>
      if same : left.data = right.data then
        .isTrue (congrArg FileEntry.file (ByteArray.ext same))
      else
        .isFalse fun equal => same (by injection equal with content; rw [content])
  | .folder, .folder => .isTrue rfl
  | .file _, .folder => .isFalse nofun
  | .folder, .file _ => .isFalse nofun

inductive ReadFault where
  | notFound
  | notFolder
  | isFolder
  | notText
  | nameTooLong
  | nameInvalid
deriving DecidableEq, Repr

def ReadFault.name : ReadFault → String
  | .notFound => "NotFound"
  | .notFolder => "NotADirectory"
  | .isFolder => "IsADirectory"
  | .notText => "InvalidData"
  | .nameTooLong => "InvalidFilename"
  | .nameInvalid => "InvalidInput"

/-- A place: the names that lead to it from the working folder. A place outside
is led to by dots that lead up or by the root of the whole file system. -/
abbrev Place := List String

namespace Place

def above : String := ".."

def systemRoot : String := "/"

/-- Whether a name leads out of the working folder. -/
def leadsOut (name : String) : Bool := name == above || name == systemRoot

def isInside (place : Place) : Bool := !place.head?.any leadsOut

/-- The folder above a place; nothing is above the root. -/
def up (place : Place) : Place :=
  match place.getLast? with
  | none => [above]
  | some name =>
      if name == above then
        place ++ [above]
      else if name == systemRoot then
        place
      else
        place.dropLast

def startOf (path : String) : Place :=
  if Path.isAbsolute path then [systemRoot] else []

end Place

/-- Entries by place. The working folder and the folders above it are always
there; nothing else outside is, unless it is put there. -/
structure Files where
  entries : List (Place × FileEntry)

namespace Files

def empty : Files := ⟨[]⟩

instance : Inhabited Files := ⟨empty⟩

def at? (files : Files) (place : Place) : Option FileEntry :=
  if place.all Place.leadsOut then some .folder else files.entries.lookup place

def set (files : Files) (place : Place) (entry : FileEntry) : Files :=
  let rec put : List (Place × FileEntry) → List (Place × FileEntry)
    | [] => [(place, entry)]
    | (other, old) :: rest =>
        if other == place then
          (place, entry) :: rest
        else
          (other, old) :: put rest
  ⟨put files.entries⟩

def erase (files : Files) (place : Place) : Files :=
  ⟨files.entries.filter fun entry => entry.1 != place⟩

/-! ## Finding places -/

/-- The longest name, in bytes. -/
def nameLimit : Nat := 255

/-- The longest path, in bytes. What the path of the working folder itself takes
is already subtracted. -/
def pathLimit : Nat := 4064

def pathFault? (path : String) : Option ReadFault :=
  if path.toList.contains (Char.ofNat 0) then
    some .nameInvalid
  else if pathLimit < path.utf8ByteSize then
    some .nameTooLong
  else
    none

/-- Follows names from a folder. Every name but the last must be a folder; two
dots lead back up. -/
def follow (files : Files) : Place → List String → Except ReadFault Place
  | here, [] => .ok here
  | here, name :: rest =>
      if name == Place.above then
        follow files here.up rest
      else if nameLimit < name.utf8ByteSize then
        .error .nameTooLong
      else
        let next := here ++ [name]
        if rest.isEmpty then
          .ok next
        else
          match files.at? next with
          | some .folder => follow files next rest
          | some (.file _) => .error .notFolder
          | none => .error .notFound

def locate (files : Files) (path : String) : Except ReadFault Place :=
  match pathFault? path with
  | some fault => .error fault
  | none => files.follow (Place.startOf path) (Path.names path)

/-! ## Reading -/

def read (files : Files) (path : String) : Except ReadFault ByteArray := do
  match files.at? (← files.locate path) with
  | none => .error .notFound
  | some .folder => .error .isFolder
  | some (.file content) =>
      if Path.endsInSlash path then .error .notFolder else .ok content

def readText (files : Files) (path : String) : Except ReadFault String := do
  let content ← files.read path
  match String.fromUTF8? content with
  | some text => .ok text
  | none => .error .notText

def isFile (files : Files) (path : String) : Bool :=
  match files.read path with
  | .ok _ => true
  | .error _ => false

def isFolder (files : Files) (path : String) : Bool :=
  match files.locate path with
  | .ok place => files.at? place == some .folder
  | .error _ => false

/-- Whether there is anything at a path. -/
def isThere (files : Files) (path : String) : Bool :=
  files.isFile path || files.isFolder path

/-- The texts of all files below a folder, by the path that leads from there to
them. Bytes that are not UTF-8 show as replacement characters. -/
def textsBelow (files : Files) (folder : Place) : List (String × String) :=
  files.entries.filterMap fun (place, entry) =>
    match entry with
    | .file content =>
        if folder.isPrefixOf place && place != folder && place.isInside then
          some (String.intercalate "/" (place.drop folder.length),
            Text.ofBytesLossy content)
        else
          none
    | .folder => none

/-! ## Writing -/

/-- Makes a folder and all folders on the way to it, as far as no file is in the
way; says whether the folder is there in the end. -/
def makeFolders (files : Files) : Place → List String → Files × Bool
  | _, [] => (files, true)
  | here, name :: rest =>
      if name == Place.above then
        makeFolders files here.up rest
      else if nameLimit < name.utf8ByteSize then
        (files, false)
      else
        let next := here ++ [name]
        match files.at? next with
        | some .folder => makeFolders files next rest
        | some (.file _) => (files, false)
        | none => makeFolders (files.set next .folder) next rest

/-- Makes the folder at a path and all folders on the way to it; says whether
the folder is there in the end. -/
def makeFolder (files : Files) (path : String) : Files × Bool :=
  if (pathFault? path).isSome then
    (files, false)
  else
    files.makeFolders (Place.startOf path) (Path.names path)

/-- Puts an entry at a path, together with the folders on the way to it. -/
def plant (files : Files) (path : String) : FileEntry → Files
  | .folder => (files.makeFolder path).1
  | .file content =>
      let ready := (files.makeFolder (Path.parent path)).1
      match ready.locate path with
      | .ok place => ready.set place (.file content)
      | .error _ => ready

end Files

end Stagecraft
