import Stagecraft.Script.Form

/-!
# Scene content

What the files of a scene and of a scenery hold, and how they are read.
-/

namespace Stagecraft

abbrev Color := UInt8 × UInt8 × UInt8

structure Environment where
  sky : Color
  fog : Float32
deriving DecidableEq

/-- A black sky without fog. -/
def Environment.plain : Environment := ⟨(0, 0, 0), 0⟩

/-- The music of a scene and what it changes in its environment. -/
structure Ambience where
  track : UInt16
  sky : Option Color
  fog : Option Float32
deriving DecidableEq

def Environment.under (base : Environment) (ambience : Ambience) :
    Environment :=
  ⟨ambience.sky.getD base.sky, ambience.fog.getD base.fog⟩

/-- An actor as content describes it. An actor without a model is never
shown. -/
structure ActorData where
  name : String
  model : Option String
  position : Vec3
  behaviour : UInt8
  animation : UInt16
  life : List Command
  move : List Command
deriving DecidableEq

inductive ZoneKind where
  | changeScene (target : SceneIndex)
  | camera
  | sceneric
  | text
  | ladder
deriving DecidableEq, Repr

/-- A box in a scene. -/
structure ZoneData where
  name : String
  kind : ZoneKind
  low : Vec3
  high : Vec3
deriving DecidableEq

structure PointData where
  name : String
  position : Vec3
deriving DecidableEq

/-- The content of a scene. -/
structure SceneData where
  ambience : Ambience
  actors : List ActorData
  zones : List ZoneData
  points : List PointData
deriving DecidableEq

/-- A place for a scene on its scenery, in half units. -/
structure Section where
  x : Float32
  z : Float32
deriving DecidableEq

def Section.offset (place : Section) : Vec3 := ⟨place.x * 2, 0, place.z * 2⟩

/-- Free properties of a scenery, without repeated keys. -/
abbrev Props := List (String × Json)

/-- Static level geometry, shared by the scenes of a family. -/
structure Scenery where
  name : String
  sections : List Section
  props : Props

/-! ## Zone kinds -/

namespace ZoneKind

def names : List String :=
  ["CHANGE_SCENE", "CAMERA", "SCENERIC", "TEXT", "LADDER"]

def ofFields? (name : String) (body : Json) : Option ZoneKind :=
  match name with
  | "CHANGE_SCENE" =>
      match body.fields? ["target"] with
      | some [target] => target.word32?.map .changeScene
      | _ => none
  | "CAMERA" => (body.fields? []).map fun _ => .camera
  | "SCENERIC" => (body.fields? []).map fun _ => .sceneric
  | "TEXT" => (body.fields? []).map fun _ => .text
  | "LADDER" => (body.fields? []).map fun _ => .ladder
  | _ => none

def ofForm? (json : Json) : Option ZoneKind := do
  let (tag, body) ← json.untag? "type"
  ofFields? (← tag.text?) body

/-- Reads a zone kind inside the given number of open containers. -/
def reader (enclosing : Nat) : Reader ZoneKind :=
  Reader.decoded (Reader.tagged "type" names enclosing) ofForm?

end ZoneKind

/-! ## Readers

The numbers of open containers are those of a scene file: an actor's command
stands inside the scene, its actors, the actor and the script. -/

def Vec3.reader : Reader Vec3 :=
  Record.reader <|
    Record.map (fun (x, y, z) => ⟨x, y, z⟩) <|
      Record.both (.required "x" Reader.single) <|
        Record.both (.required "y" Reader.single)
          (.required "z" Reader.single)

def Ambience.reader : Reader Ambience :=
  Record.reader <|
    Record.map (fun (track, sky, fog) => ⟨track, sky, fog⟩) <|
      Record.both (.required "music_track" Reader.word16) <|
        Record.both
          (.optional "sky_color" none
            (Reader.nullable (Reader.triple Reader.word8)))
          (.optional "fog_density" none (Reader.nullable Reader.single))

def ActorData.reader : Reader ActorData :=
  Record.reader <|
    Record.map
      (fun (name, model, position, behaviour, animation, life, move) =>
        ⟨name, model, position, behaviour, animation, life, move⟩) <|
      Record.both (.required "name" Reader.text) <|
        Record.both (.optional "model" none (Reader.nullable Reader.text)) <|
          Record.both (.optional "position" Vec3.zero Vec3.reader) <|
            Record.both (.optional "behaviour" 0 Reader.word8) <|
              Record.both (.optional "anim" 0 Reader.word16) <|
                Record.both
                  (.optional "life" [] (Reader.list (Command.reader 4)))
                  (.optional "move" [] (Reader.list (Command.reader 4)))

def ZoneData.reader : Reader ZoneData :=
  Record.reader <|
    Record.map (fun (name, kind, low, high) => ⟨name, kind, low, high⟩) <|
      Record.both (.required "name" Reader.text) <|
        Record.both (.required "kind" (ZoneKind.reader 3)) <|
          Record.both (.required "min" Vec3.reader)
            (.required "max" Vec3.reader)

def PointData.reader : Reader PointData :=
  Record.reader <|
    Record.map (fun (name, position) => ⟨name, position⟩) <|
      Record.both (.required "name" Reader.text)
        (.required "position" Vec3.reader)

def SceneData.reader : Reader SceneData :=
  Record.reader <|
    Record.map
      (fun (ambience, actors, zones, points) =>
        ⟨ambience, actors, zones, points⟩) <|
      Record.both (.required "ambience" Ambience.reader) <|
        Record.both (.optional "actors" [] (Reader.list ActorData.reader)) <|
          Record.both (.optional "zones" [] (Reader.list ZoneData.reader))
            (.optional "points" [] (Reader.list PointData.reader))

def Section.reader : Reader Section :=
  Record.reader <|
    Record.map (fun (x, z) => ⟨x, z⟩) <|
      Record.both (.required "x" Reader.single)
        (.required "z" Reader.single)

/-- Reads free properties inside one open container: an object of any values,
the last one of a repeated key winning. -/
def Props.reader : Reader Props
  | .object members fault => do
      let parts ← Reader.readable (Fragment.wholeMembers 2 fault members)
      return Json.lastWinsMembers parts []
  | other => .error (Reader.mismatch other)

def Scenery.reader : Reader Scenery :=
  Record.reader <|
    Record.map (fun (name, sections, props) => ⟨name, sections, props⟩) <|
      Record.both (.required "name" Reader.text) <|
        Record.both (.optional "sections" [] (Reader.list Section.reader))
          (.optional "props" [] Props.reader)

end Stagecraft
