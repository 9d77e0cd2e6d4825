import Stagecraft.NodeTree

/-!
# Zones and points

Zones are boxes that notice when the tracked position comes and goes; points are
named positions.
-/

namespace Stagecraft

/-- What a zone has noticed: whether the tracked position is inside, whether an
entry waits to be read, and whether the last visit is over. -/
structure ZoneState where
  entered : Bool
  pending : Bool
  ended : Bool
deriving DecidableEq, Repr

def ZoneState.quiet : ZoneState := ⟨false, false, false⟩

/-- A zone of a scene. -/
structure Zone where
  name : String
  kind : ZoneKind
  low : Vec3
  high : Vec3
  node : Option NodeId
  state : ZoneState
deriving DecidableEq

namespace Zone

def ofData (data : ZoneData) (node : Option NodeId) : Zone :=
  ⟨data.name, data.kind, data.low, data.high, node, ZoneState.quiet⟩

/-- Whether a position lies in the zone, faces included. -/
def contains (zone : Zone) (position : Vec3) : Bool :=
  Vec3.within zone.low zone.high position

def enter (zone : Zone) : Zone :=
  if zone.state.entered then
    zone
  else
    { zone with state := ⟨true, true, false⟩ }

/-- Notices that the position is gone, if it was inside. -/
def leave (zone : Zone) : Zone :=
  if zone.state.entered then
    { zone with state := ⟨false, zone.state.pending, true⟩ }
  else
    zone

/-- The zone once a waiting entry has been read. -/
def taken (zone : Zone) : Zone :=
  { zone with state := { zone.state with pending := false } }

def reset (zone : Zone) : Zone := { zone with state := ZoneState.quiet }

/-- Whether a position enters the zone now. -/
def isEntry (zone : Zone) (position : Vec3) : Bool :=
  zone.contains position && !zone.state.entered

def track (zone : Zone) (position : Vec3) : Zone :=
  if zone.contains position then zone.enter else zone.leave

end Zone

def trackZones (zones : List Zone) (position : Vec3) : List Zone :=
  zones.map fun zone => zone.track position

/-- The zones that a tracked position enters now, ascending. -/
def entriesAt (zones : List Zone) (position : Vec3) : List Nat :=
  zones.zipIdx.filterMap fun (zone, index) =>
    if zone.isEntry position then some index else none

structure Point where
  name : String
  position : Vec3
  node : Option NodeId
deriving DecidableEq

namespace Point

def ofData (data : PointData) (node : Option NodeId) : Point :=
  ⟨data.name, data.position, node⟩

def find? (name : String) (points : List Point) : Option Point :=
  points.find? fun point => point.name == name

end Point

end Stagecraft
