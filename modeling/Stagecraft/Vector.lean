/-!
# Vectors

Positions and offsets in a scene.
-/

namespace Stagecraft

/-- A point or displacement in space. -/
structure Vec3 where
  x : Float32
  y : Float32
  z : Float32
deriving DecidableEq

namespace Vec3

def zero : Vec3 := ⟨0, 0, 0⟩

instance : Inhabited Vec3 := ⟨zero⟩

/-- Component-wise sum, each component rounded once. -/
def add (left right : Vec3) : Vec3 :=
  ⟨left.x + right.x, left.y + right.y, left.z + right.z⟩

instance : Add Vec3 := ⟨add⟩

/-- Whether a position lies between two corners, faces included. A component
that is not a number lies nowhere. -/
def within (low high position : Vec3) : Bool :=
  decide (low.x ≤ position.x) && decide (position.x ≤ high.x) &&
    (decide (low.y ≤ position.y) && decide (position.y ≤ high.y)) &&
    (decide (low.z ≤ position.z) && decide (position.z ≤ high.z))

end Vec3

end Stagecraft
