import Stagecraft.SceneMap.Basic
import Stagecraft.Text.Basic
import Stagecraft.Xml.Element

/-!
# Reading a scene map

A scene map is an XML document with one element for each scene, island and
override. The scene numbers must be all numbers from zero on.
-/

namespace Stagecraft

inductive SceneMapDefect where
  | notWellFormed
  | wrongRoot
  | unknownElement (name : String)
  | missingAttribute (name element : String)
  | unknownKind (kind : String)
  | badValue (name value : String)
  | badColor (name value : String)
  | repeatedScene (index : SceneIndex)
  | missingScene (index : Nat)
deriving DecidableEq, Repr

namespace SceneMapDefect

def code : SceneMapDefect → String
  | .notWellFormed => "XmlMalformed"
  | .wrongRoot => "InvalidRoot"
  | .unknownElement _ => "UnknownElement"
  | .missingAttribute _ _ => "MissingAttribute"
  | .unknownKind _ => "InvalidValue"
  | .badValue _ _ => "InvalidValue"
  | .badColor _ _ => "InvalidValue"
  | .repeatedScene _ => "DuplicateScene"
  | .missingScene _ => "MissingScene"

def message : SceneMapDefect → String
  | .notWellFormed => "malformed XML"
  | .wrongRoot => "root element must be <SceneMap>"
  | .unknownElement name =>
      "unsupported element <" ++ name ++
        ">; expected <Scene>, <Island> or <IslandOverride>"
  | .missingAttribute name element =>
      "missing attribute '" ++ name ++ "' on <" ++ element ++ ">"
  | .unknownKind kind =>
      "invalid scene kind '" ++ kind ++ "'; allowed values: island, iso"
  | .badValue name value =>
      "attribute '" ++ name ++ "' has invalid value '" ++ value ++ "'"
  | .badColor name value =>
      "attribute '" ++ name ++
        "' must be three comma-separated bytes, got '" ++ value ++ "'"
  | .repeatedScene index =>
      "scene index " ++ toString index.toNat ++
        " is declared more than once"
  | .missingScene index =>
      "scene index " ++ toString index ++
        " is missing; indices must be contiguous"

end SceneMapDefect

/-- A defect of the scene map at a path, and where its element starts. -/
structure SceneMapError where
  defect : SceneMapDefect
  path : String
  position : Option Xml.Position
deriving DecidableEq, Repr

def SceneMapError.text (error : SceneMapError) : String :=
  let place :=
    match error.position with
    | some position =>
        ", line=" ++ toString position.line ++ ", column=" ++
          toString position.column
    | none => ""
  error.defect.code ++ ": " ++ error.defect.message ++ " (file=" ++
    error.path ++ place ++ ")"

namespace SceneMap

/-! ## Attributes -/

/-- The value of an attribute without surrounding white space; it must not be
empty. -/
def textOf (element : Xml.Element) (name : String) :
    Except SceneMapDefect String :=
  let value := Text.trim ((element.attribute? name).getD "")
  if value.isEmpty then
    .error (.missingAttribute name element.name)
  else
    .ok value

def valueOf {α : Type} (read : List Char → Option α) (element : Xml.Element)
    (name : String) : Except SceneMapDefect α := do
  let value ← textOf element name
  match read value.toList with
  | some result => .ok result
  | none => .error (.badValue name value)

def readWord16 (chars : List Char) : Option UInt16 :=
  (Text.readNatural 65535 chars).map UInt16.ofNat

def readWord32 (chars : List Char) : Option UInt32 :=
  (Text.readNatural 4294967295 chars).map UInt32.ofNat

def readWord64 (chars : List Char) : Option UInt64 :=
  (Text.readNatural 18446744073709551615 chars).map UInt64.ofNat

def readChannel (chars : List Char) : Option UInt8 :=
  (Text.readNatural 255 (Text.trimChars chars)).map UInt8.ofNat

/-- A colour: three channels with commas in between. -/
def readColor (chars : List Char) : Option Color :=
  match (Text.splitAt ',' chars).mapM readChannel with
  | some [red, green, blue] => some (red, green, blue)
  | _ => none

def colorOf (element : Xml.Element) (name : String) :
    Except SceneMapDefect Color := do
  let value ← textOf element name
  match readColor value.toList with
  | some color => .ok color
  | none => .error (.badColor name value)

/-! ## Elements -/

def sceneOf (element : Xml.Element) :
    Except SceneMapDefect (SceneIndex × SceneKind) := do
  let index ← valueOf readWord32 element "index"
  let kind ← textOf element "kind"
  if kind == "island" then
    let island ← textOf element "island"
    let place ← valueOf readWord64 element "section"
    let variant ← valueOf readWord32 element "variant"
    return (index, .island ⟨island, place, variant⟩)
  else if kind == "iso" then
    return (index, .isometric (← valueOf readWord32 element "isoIndex"))
  else
    .error (.unknownKind kind)

def islandOf (element : Xml.Element) :
    Except SceneMapDefect (String × Environment) := do
  let name ← textOf element "name"
  let sky ← colorOf element "skyColor"
  let fog ← valueOf Text.readSingle element "fogDensity"
  return (name, ⟨sky, fog⟩)

def overrideOf (element : Xml.Element) :
    Except SceneMapDefect IslandOverride := do
  let trigger ← valueOf readWord16 element "gameVar"
  let source ← textOf element "from"
  let target ← textOf element "to"
  return ⟨trigger, source, target⟩

/-- What has been read of a map: scenes by ascending number, islands with the
latest one first, and rules in order. -/
structure Draft where
  scenes : List (SceneIndex × SceneKind)
  islands : List (String × Environment)
  overrides : List IslandOverride

def putScene (index : SceneIndex) (kind : SceneKind) :
    List (SceneIndex × SceneKind) → Option (List (SceneIndex × SceneKind))
  | [] => some [(index, kind)]
  | (other, otherKind) :: rest =>
      if index < other then
        some ((index, kind) :: (other, otherKind) :: rest)
      else if index == other then
        none
      else
        (putScene index kind rest).map ((other, otherKind) :: ·)

def Draft.add (draft : Draft) (element : Xml.Element) :
    Except SceneMapDefect Draft := do
  if element.name == "Scene" then
    let (index, kind) ← sceneOf element
    match putScene index kind draft.scenes with
    | some scenes => return { draft with scenes := scenes }
    | none => .error (.repeatedScene index)
  else if element.name == "Island" then
    return { draft with islands := (← islandOf element) :: draft.islands }
  else if element.name == "IslandOverride" then
    return { draft with
      overrides := draft.overrides ++ [← overrideOf element] }
  else
    .error (.unknownElement element.name)

/-- The first number, from a position on, that ascending scenes leave out. -/
def firstGap : Nat → List (SceneIndex × SceneKind) → Option Nat
  | _, [] => none
  | position, (index, _) :: rest =>
      if index.toNat = position then
        firstGap (position + 1) rest
      else
        some position

theorem length_le_of_firstGap
    {position : Nat} {scenes : List (SceneIndex × SceneKind)}
    (inside : position ≤ UInt32.size)
    (gapless : firstGap position scenes = none) :
    position + scenes.length ≤ UInt32.size := by
  induction scenes generalizing position with
  | nil =>
      simpa using inside
  | cons scene rest inductionHypothesis =>
      obtain ⟨index, kind⟩ := scene
      unfold firstGap at gapless
      split at gapless
      · next same =>
          have smaller : index.toNat < UInt32.size := index.toNat_lt
          have bound :=
            inductionHypothesis (by omega) gapless
          simp only [List.length_cons]
          omega
      · simp at gapless

/-- The finished map, or the first scene that is missing. -/
def Draft.finish (draft : Draft) : Except SceneMapDefect SceneMap :=
  match gapless : firstGap 0 draft.scenes with
  | some position => .error (.missingScene position)
  | none =>
      .ok
        { scenes := draft.scenes.map Prod.snd
          islands := draft.islands
          overrides := draft.overrides
          scenes_length_le := by
            have bound := length_le_of_firstGap (Nat.zero_le _) gapless
            simpa using bound }

/-! ## Documents -/

/-- The scene map that a text at a path describes. -/
def ofText (path text : String) : Except SceneMapError SceneMap := do
  let chars := text.toList
  let fail (position : Option Xml.Position) (defect : SceneMapDefect) :
      SceneMapError := ⟨defect, path, position⟩
  let at? (element : Xml.Element) : Option Xml.Position :=
    some (element.position chars)
  match Xml.document? chars with
  | none => .error (fail none .notWellFormed)
  | some root =>
      if root.name == "SceneMap" then
        let draft ← root.children.foldlM
          (fun (draft : Draft) child =>
            (draft.add child).mapError (fail (at? child)))
          ⟨[], [], []⟩
        draft.finish.mapError (fail none)
      else
        .error (fail (at? root) .wrongRoot)

end SceneMap

end Stagecraft
