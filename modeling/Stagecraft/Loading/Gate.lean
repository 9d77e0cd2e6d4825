import Stagecraft.Loading.Task

/-!
# Gates

A gate in front of a content source holds up whole classes of fetches once each
and refuses single ones. With it a load can be watched in the middle, or made to
fail at a chosen place.
-/

namespace Stagecraft

def SceneryKey.text : SceneryKey → String
  | .island name => "island:" ++ name
  | .isometric index => "iso:" ++ toString index.toNat

namespace Fetch

def stage : Fetch → String
  | .scene _ _ => "scene"
  | .actor _ _ _ => "actor"
  | .scenery _ _ => "scenery"

def key : Fetch → String
  | .scene _ index => "scene:" ++ toString index.toNat
  | .actor _ _ data => "actor:" ++ data.name
  | .scenery key _ => key.text

end Fetch

/-- What a gate does: the classes of fetches that it holds up, and the names of
those that it refuses. -/
structure Gate where
  held : List String
  refused : List String
deriving DecidableEq, Repr

namespace Gate

def refusal (key : String) : LoadError := .unavailable key "injected"

/-- A value behind the gate, under a name. -/
def pass {α : Type} (gate : Gate) (key : String) (value : Except LoadError α) :
    Except LoadError α :=
  if gate.refused.contains key then .error (refusal key) else value

/-- A source behind the gate. -/
def source (gate : Gate)
    (answer : (fetch : Fetch) → Except LoadError fetch.Answer) : Source where
  answer := fun fetch => gate.pass fetch.key (answer fetch)
  pauses := fun _ fetch => if gate.held.contains fetch.stage then 1 else 0

end Gate

end Stagecraft
