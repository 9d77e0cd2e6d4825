import Stagecraft.Content.Scene
import Stagecraft.Variables

/-!
# Scene map

Which scenes there are, where each one takes place, and how islands look. The
number of a scene is its place in the map.
-/

namespace Stagecraft

structure IslandSlot where
  island : String
  place : UInt64
  variant : UInt32
deriving DecidableEq, Repr

/-- Where a scene takes place: on a section of an island, or on a scenery of its
own. -/
inductive SceneKind where
  | island (slot : IslandSlot)
  | isometric (index : UInt32)
deriving DecidableEq, Repr

namespace SceneKind

def isIsland : SceneKind → Bool
  | .island _ => true
  | .isometric _ => false

def sharesIsland : SceneKind → SceneKind → Bool
  | .island left, .island right =>
      left.island == right.island && left.variant == right.variant
  | _, _ => false

end SceneKind

/-- A rule that puts one island in place of another while a game variable is not
zero. -/
structure IslandOverride where
  trigger : UInt16
  source : String
  target : String
deriving DecidableEq, Repr

/-- Whether a rule applies to an island. -/
def IslandOverride.applies (rule : IslandOverride) (island : String)
    (game : GameBank) : Bool :=
  rule.source == island && (game.get? rule.trigger).getD 0 != 0

/-- All scenes in the order of their numbers, the environments of islands with
the latest one first, and the rules that replace islands. -/
structure SceneMap where
  scenes : List SceneKind
  islands : List (String × Environment)
  overrides : List IslandOverride
  scenes_length_le : scenes.length ≤ UInt32.size

namespace SceneMap

def empty : SceneMap := ⟨[], [], [], by simp⟩

instance : Inhabited SceneMap := ⟨empty⟩

def size (map : SceneMap) : Nat := map.scenes.length

/-- Where the scene of a number takes place. -/
def kind? (map : SceneMap) (index : SceneIndex) : Option SceneKind :=
  map.scenes[index.toNat]?

def entries (map : SceneMap) : List (SceneIndex × SceneKind) :=
  map.scenes.zipIdx.map fun (kind, position) => (UInt32.ofNat position, kind)

/-- The other scenes on the same island in the same variant, ascending. -/
def sideScenes (map : SceneMap) (index : SceneIndex) : List SceneIndex :=
  match map.kind? index with
  | none => []
  | some kind =>
      map.entries.filterMap fun (other, otherKind) =>
        if other != index && kind.sharesIsland otherKind then
          some other
        else
          none

/-- The island that takes the place of an island: the first rule that applies
decides. Game variables are looked at without accessing them. -/
def resolveIsland (map : SceneMap) (island : String) (game : GameBank) :
    String :=
  match map.overrides.find? fun rule => rule.applies island game with
  | some rule => rule.target
  | none => island

/-- The environment of an island, plain for an unknown island and for no
island. -/
def environment (map : SceneMap) (island : Option String) : Environment :=
  (island.bind fun name => map.islands.lookup name).getD Environment.plain

/-- The number after a number, the first one after the last. -/
def next (map : SceneMap) (index : SceneIndex) : SceneIndex :=
  (index + 1) % max (UInt32.ofNat map.size) 1

/-- The number before a number, the last one before the first. -/
def previous (map : SceneMap) (index : SceneIndex) : SceneIndex :=
  if 0 < index then
    index - 1
  else
    UInt32.ofNat (map.size - 1)

end SceneMap

end Stagecraft
