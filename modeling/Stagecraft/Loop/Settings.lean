import Stagecraft.Journal

/-!
# Settings

How a run is set up, and how the environment changes that.
-/

namespace Stagecraft

/-- The settings of a run. Times are in nanoseconds. -/
structure Settings where
  language : String
  startScene : Option SceneIndex
  ticksPerSecond : Nat
  longestFrame : Nat
  ticksPerFrame : Nat
  maxTicks : Option UInt64
  metricsInterval : Nat
  stepBudget : Nat
  editorMarkers : Bool
  saveFile : String
deriving DecidableEq, Repr

namespace Settings

def default : Settings where
  language := "en"
  startScene := none
  ticksPerSecond := 20
  longestFrame := 250000000
  ticksPerFrame := 5
  maxTicks := none
  metricsInterval := 1000000000
  stepBudget := 1024
  editorMarkers := false
  saveFile := "session.json"

/-! ## Variables -/

def languageVariable : String := "ISLE_LANGUAGE"

def sceneVariable : String := "ISLE_START_SCENE"

def ticksVariable : String := "ISLE_MAX_TICKS"

def markersVariable : String := "ISLE_EDITOR_MARKERS"

def variableNames : List String :=
  [languageVariable, sceneVariable, ticksVariable, markersVariable]

def readFlag (text : String) : Option Bool :=
  let word := Text.lowerAscii (Text.trim text)
  if ["1", "true", "yes", "on"].contains word then
    some true
  else if ["0", "false", "no", "off"].contains word then
    some false
  else
    none

/-- A setting as read from a variable: the value to use, and a warning if the
variable made no sense. -/
structure Reading (α : Type) where
  value : α
  warning : Option Warning

/-- Reads a variable; one that is missing or makes no sense leaves the default. The
fault of a text is told where there is one to tell. -/
def readVariable {α : Type} (name : String) (default : α)
    (read : String → Option α) (fault : String → Option Text.NaturalFault) :
    Option String → Reading α
  | none => ⟨default, none⟩
  | some text =>
      match read text with
      | some value => ⟨value, none⟩
      | none => ⟨default, some (.invalidSetting name text (fault text))⟩

def readLanguage (text : String) : Option String :=
  let name := Text.trim text
  if name.isEmpty then none else some name

def sceneLimit : Nat := UInt32.size - 1

def ticksLimit : Nat := UInt64.size - 1

def readScene (text : String) : Option (Option SceneIndex) :=
  (Text.readNatural sceneLimit (Text.trimChars text.toList)).map
    fun value => some (UInt32.ofNat value)

def readTicks (text : String) : Option (Option UInt64) :=
  (Text.readNatural ticksLimit (Text.trimChars text.toList)).map
    fun value => if value = 0 then none else some (UInt64.ofNat value)

/-- What is wrong with a text that should be a number of at most `limit`. -/
def faultOf (limit : Nat) (text : String) : Option Text.NaturalFault :=
  some (Text.naturalFault limit (Text.trimChars text.toList))

/-! ## Environment -/

/-- The settings in an environment, and warnings of the variables that made no
sense. A blank language is as good as none. -/
def ofEnvironment (lookup : String → Option String) : Settings × List Warning :=
  let language :=
    ((lookup languageVariable).bind readLanguage).getD default.language
  let scene :=
    readVariable sceneVariable default.startScene readScene
      (faultOf sceneLimit) (lookup sceneVariable)
  let ticks :=
    readVariable ticksVariable default.maxTicks readTicks
      (faultOf ticksLimit) (lookup ticksVariable)
  let markers :=
    readVariable markersVariable default.editorMarkers readFlag
      (fun _ => none) (lookup markersVariable)
  ({ default with
     language := language
     startScene := scene.value
     maxTicks := ticks.value
     editorMarkers := markers.value },
    [scene.warning, ticks.warning, markers.warning].filterMap id)

end Settings

end Stagecraft
