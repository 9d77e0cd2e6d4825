import Stagecraft.Content.Failure
import Stagecraft.Content.Fetch

/-!
# Content library

The folder that holds the scene map, the scenes of every language and the
sceneries.
-/

namespace Stagecraft

/-- A folder of content: the files it is among and the path that leads to it. -/
structure Library where
  files : Files
  root : String

namespace Library

/-! ## Paths -/

def threeDigits (value : Nat) : String :=
  let digits := Nat.toDigits 10 value
  String.ofList (List.replicate (3 - digits.length) '0' ++ digits)

def mapPath (root : String) : String := Path.join root "scene_map.xml"

def scenePath (root language : String) (index : SceneIndex) : String :=
  Path.join (Path.join (Path.join root "scenes") language)
    ("scene_" ++ threeDigits index.toNat ++ ".json")

def sceneryFile : SceneryKey → String
  | .island name => "island_" ++ Text.lowerAscii name ++ ".json"
  | .isometric index => "iso_" ++ threeDigits index.toNat ++ ".json"

def sceneryPath (root : String) (key : SceneryKey) : String :=
  Path.join (Path.join root "sceneries") (sceneryFile key)

/-- The sceneries that the scenes of a map can stand on. -/
def sceneryKeys (map : SceneMap) : List SceneryKey :=
  let named (kind : SceneKind) : SceneryKey :=
    match kind with
    | .island slot => .island slot.island
    | .isometric index => .isometric index
  map.scenes.map named ++
    map.overrides.map fun rule => .island rule.target

def loadablePaths (root language : String) (map : SceneMap) : List String :=
  map.entries.map (fun (index, _) => scenePath root language index) ++
    (sceneryKeys map).map (sceneryPath root)

/-! ## Reading -/

/-- The value that the text of a file describes; what follows it is not
read. -/
def decode {α : Type} (reader : Reader α) (path text : String) :
    Except LoadError α :=
  (reader (Fragment.ofText text)).mapError (.refused path)

def textOf (library : Library) (path : String) : Except LoadError String :=
  (library.files.readText path).mapError (.unreadable path)

def load {α : Type} (library : Library) (reader : Reader α) (path : String) :
    Except LoadError α := do
  decode reader path (← library.textOf path)

def sceneMap (library : Library) : Except LoadError SceneMap := do
  let path := mapPath library.root
  let text ← library.textOf path
  (SceneMap.ofText path text).mapError .badSceneMap

def assetOf (environment : Environment) (data : ActorData) : ActorAsset :=
  ⟨data, data.model.map fun model => ⟨model, environment⟩⟩

def answer (library : Library) :
    (fetch : Fetch) → Except LoadError fetch.Answer
  | .scene language index =>
      library.load SceneData.reader (scenePath library.root language index)
  | .actor environment _ data => .ok (assetOf environment data)
  | .scenery key _ =>
      library.load Scenery.reader (sceneryPath library.root key)

end Library

end Stagecraft
