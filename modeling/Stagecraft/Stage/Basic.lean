import Stagecraft.Host
import Stagecraft.Loading.Settle
import Stagecraft.Script.Machine
import Stagecraft.Stage.Attach

/-!
# Stage

The stage shows one scene at a time. It keeps the family of that scene loaded,
moves from scene to scene, and runs the scripts of the active scene tick by tick.
While a load is under way the stage stands still.
-/

namespace Stagecraft

/-- What does not change about a stage besides its map. -/
structure StageSettings where
  language : String
  editorMarkers : Bool
  stepBudget : Nat
deriving DecidableEq, Repr

/-- A load under way: where it leads, which scene gave up its activity for it,
and what is left to do. -/
structure Flight where
  target : SceneIndex
  previous : Option SceneId
  task : Task LoadedFamily

/-- A stage. -/
structure Stage where
  map : SceneMap
  settings : StageSettings
  arena : Arena
  host : Host
  active : Option SceneId
  flight : Option Flight
  journal : Journal

/-- What a transition led to. -/
inductive Outcome where
  | ignored
  | swapped (scene : SceneIndex)
  | loaded (scene : SceneIndex)
deriving DecidableEq, Repr

/-- What became of a transition: it waits for content, it is over, or the program
panicked because somebody held on to the state. -/
inductive Transition where
  | pending
  | over (result : Except LoadError Outcome)
  | panicked

namespace Stage

def bare (map : SceneMap) (settings : StageSettings) (host : Host) : Stage :=
  ⟨map, settings, Arena.empty, host, none, none, #[]⟩

/-! ## Looking -/

def isLoading (stage : Stage) : Bool := stage.flight.isSome

def activeScene? (stage : Stage) : Option Scene :=
  stage.active.bind stage.arena.scene?

def activeIndex? (stage : Stage) : Option SceneIndex :=
  stage.activeScene?.map Scene.index

def gameReferences (stage : Stage) : List UInt16 :=
  (stage.activeScene?.map Scene.gameReferences).getD []

def member? (stage : Stage) (index : SceneIndex) : Option (SceneId × Scene) := do
  let active ← stage.active
  let id ← stage.arena.findInFamily active index
  let scene ← stage.arena.scene? id
  return (id, scene)

/-! ## Small changes -/

def note (stage : Stage) (entry : Note) : Stage :=
  { stage with journal := stage.journal.push entry }

def warn (stage : Stage) (warning : Warning) : Stage :=
  stage.note (.warning warning)

def call (stage : Stage) (call : HostCall) : Stage :=
  { stage with
    host := stage.host.perform call
    journal := stage.journal.push (.call call) }

def changeNodes (stage : Stage) (change : NodeTree → NodeTree) : Stage :=
  { stage with host := { stage.host with nodes := change stage.host.nodes } }

def changeScene (stage : Stage) (id : SceneId)
    (change : Scene → NodeTree → Scene × NodeTree) : Stage :=
  match stage.arena.scene? id with
  | none => stage
  | some scene =>
      let (changed, nodes) := change scene stage.host.nodes
      { stage with
        arena := stage.arena.modifyScene id fun _ => changed
        host := { stage.host with nodes := nodes } }

/-- Switches the activity of a scene, if one is given. -/
def setActivity (stage : Stage) (id : Option SceneId) (active : Bool) : Stage :=
  match id with
  | none => stage
  | some id =>
      { stage with
        arena := stage.arena.modifyScene id (Scene.withActive active) }

/-- Starts the music of a scene, unless music plays already. -/
def resumeMusic (stage : Stage) (track : UInt16) : Stage :=
  (stage.host.musicCalls track).foldl call stage

/-! ## Transitions -/

/-- The side scene of the active scene that has a number, after the id of the
active scene. -/
def sideTarget? (stage : Stage) (target : SceneIndex) :
    Option (SceneId × SceneId) := do
  let outgoing ← stage.active
  let scene ← stage.arena.scene? outgoing
  let incoming ← scene.side? target
  return (outgoing, incoming)

def resumeActiveMusic (stage : Stage) : Stage :=
  match stage.activeScene? with
  | some scene => stage.resumeMusic scene.ambience.track
  | none => stage

def leave (id : SceneId) (stage : Stage) : Stage :=
  (stage.changeScene id fun scene =>
    scene.changeProtagonist Actor.kill).setActivity (some id) false

/-- Makes a side scene of a family its main scene. -/
def promote (outgoing incoming : SceneId) (stage : Stage) : Stage :=
  { stage with arena := stage.arena.promote outgoing incoming }

def enter (id : SceneId) (stage : Stage) : Stage :=
  { (stage.changeScene id fun scene =>
      scene.changeProtagonist Actor.revive).setActivity (some id) true with
    active := some id }

/-- Lets the active scene and one of its side scenes change places. -/
def swap (stage : Stage) (outgoing incoming : SceneId) : Stage :=
  (((stage.leave outgoing).promote outgoing incoming).enter
    incoming).resumeActiveMusic

/-- Shows the nodes of a scene, with the properties of its scenery. -/
def present (scene : Scene) (stage : Stage) : Stage :=
  let rooted := stage.changeNodes (·.setActiveRoot (some scene.root))
  match stage.arena.scenery? scene.scenery with
  | some scenery => rooted.changeNodes (·.applyProps scenery.props)
  | none => rooted

/-- Makes a freshly attached scene the active one and shows it. -/
def activate (stage : Stage) (id : SceneId) : Stage :=
  match stage.arena.scene? id with
  | none => stage
  | some scene =>
      let active :=
        { stage.setActivity (some id) true with active := some id }
      ((active.present scene).resumeMusic scene.ambience.track).call
        (.camera scene.index (scene.protagonist?.map Actor.position))

def removeFamily (stage : Stage) (id : SceneId) : Stage :=
  let (arena, nodes) := stage.arena.removeFamily id stage.host.nodes
  { stage with arena := arena, host := { stage.host with nodes := nodes } }

def clear (stage : Stage) (previous : Option SceneId) : Stage :=
  match previous with
  | some id => stage.removeFamily id
  | none => stage

def attach (stage : Stage) (loaded : LoadedFamily) : Stage :=
  let (arena, nodes) :=
    Attach.family stage.settings.editorMarkers loaded stage.arena
      stage.host.nodes
  { stage with arena := arena, host := { stage.host with nodes := nodes } }

def replace (stage : Stage) (previous : Option SceneId)
    (loaded : LoadedFamily) : Stage :=
  let cleared := stage.clear previous
  (cleared.attach loaded).activate cleared.arena.nextScene

/-- Ends a load that has found its family. -/
def land (flight : Flight) (loaded : LoadedFamily) (stage : Stage) : Stage :=
  { stage with flight := none }.replace flight.previous loaded

/-- Lets go of a load that found no family. The previous scene is active again,
unless somebody holds on to the state of the stage at that moment. -/
def release (held : Bool) (flight : Flight) (stage : Stage) : Stage :=
  let landed := { stage with flight := none }
  if held then
    match flight.previous with
    | some previous => landed.warn (.previousSceneNotRestored previous)
    | none => landed
  else
    landed.setActivity flight.previous true

/-- Ends a load that has failed. -/
def miss (held : Bool) (flight : Flight) (error : LoadError) (stage : Stage) :
    Stage :=
  (stage.warn (.sceneLoadFailed flight.target error)).release held flight

/-- Ends a load with what it came to, while nobody holds on to the state. -/
def conclude (stage : Stage) (flight : Flight) :
    Except LoadError LoadedFamily → Except LoadError Outcome × Stage
  | .ok loaded => (.ok (.loaded flight.target), stage.land flight loaded)
  | .error error => (.error error, stage.miss false flight error)

/-- Where setting out for a scene leads: the transition is done, or it is away on a
load. -/
inductive Departure where
  | done (result : Except LoadError Outcome) (stage : Stage)
  | away (flight : Flight) (stage : Stage)

/-- The course of a load: it is done, it is still away, or the program panicked at
its end. -/
inductive Course where
  | done (result : Except LoadError Outcome) (stage : Stage)
  | away (flight : Flight) (stage : Stage)
  | panicked (stage : Stage)

def Course.ended (landing : Except LoadError Outcome × Stage) : Course :=
  .done landing.1 landing.2

/-- What a caller learns of a course. -/
def Course.transition : Course → Transition × Stage
  | .done result stage => (.over result, stage)
  | .away _ stage => (.pending, stage)
  | .panicked stage => (.panicked, stage)

/-- Lets a load run until it has to wait or is over. While somebody holds on to the
state, a family that was found cannot be put on the stage: the program panics there,
and the load is let go of on the way out. -/
def fly (held : Bool) (source : Source) (flight : Flight) (stage : Stage) :
    Course :=
  let (progress, journal) := flight.task.poll source stage.journal
  let polled := { stage with journal := journal }
  match progress with
  | .pending rest =>
      let remaining := { flight with task := rest }
      .away remaining { polled with flight := some remaining }
  | .finished loaded =>
      if held then
        .panicked (polled.release held flight)
      else
        .done (.ok (.loaded flight.target)) (polled.land flight loaded)
  | .failed error => .done (.error error) (polled.miss held flight error)

def poll (held : Bool) (source : Source) (stage : Stage) :
    Option Transition × Stage :=
  match stage.flight with
  | none => (none, stage)
  | some flight =>
      let (transition, after) := (stage.fly held source flight).transition
      (some transition, after)

def loadOf (stage : Stage) (game : GameBank) (target : SceneIndex) :
    Task LoadedFamily :=
  LoadContext.family ⟨stage.map, stage.settings.language, game⟩ target

/-- What a transition to a scene comes to if that needs no change of the state. It is
ignored while a load is under way, and for the active scene unless it is forced. -/
def verdict? (stage : Stage) (target : SceneIndex) (force : Bool) :
    Option (Except LoadError Outcome) :=
  if stage.isLoading || (!force && stage.activeIndex? == some target) then
    some (.ok .ignored)
  else if (stage.map.kind? target).isNone then
    some (.error (.unknownScene target))
  else
    none

def depart (stage : Stage) (game : GameBank) (target : SceneIndex)
    (force : Bool) : Departure :=
  match stage.verdict? target force with
  | some result => .done result stage
  | none =>
      match stage.sideTarget? target with
      | some (outgoing, incoming) =>
          .done (.ok (.swapped target)) (stage.swap outgoing incoming)
      | none =>
          .away ⟨target, stage.active, stage.loadOf game target⟩
            (stage.setActivity stage.active false)

/-- Begins a transition and lets it run until it has to wait or is over. -/
def begin (source : Source) (game : GameBank) (target : SceneIndex)
    (force : Bool) (stage : Stage) : Transition × Stage :=
  match stage.depart game target force with
  | .done result after => (.over result, after)
  | .away flight after => (after.fly false source flight).transition

def goto (source : Source) (game : GameBank) (target : SceneIndex)
    (force : Bool) (stage : Stage) : Except LoadError Outcome × Stage :=
  match stage.depart game target force with
  | .done result after => (result, after)
  | .away flight after =>
      let (result, journal) := flight.task.settle source after.journal
      { after with journal := journal }.conclude flight result

/-- The number of the scene that a step from the active scene leads to. -/
def neighbour? (stage : Stage) (step : SceneMap → SceneIndex → SceneIndex) :
    Option SceneIndex :=
  stage.activeIndex?.map (step stage.map)

def walk (step : SceneMap → SceneIndex → SceneIndex) (source : Source)
    (game : GameBank) (stage : Stage) : Except LoadError Outcome × Stage :=
  match stage.neighbour? step with
  | some target => stage.goto source game target false
  | none => (.ok .ignored, stage)

def beginWalk (step : SceneMap → SceneIndex → SceneIndex) (source : Source)
    (game : GameBank) (stage : Stage) : Transition × Stage :=
  match stage.neighbour? step with
  | some target => stage.begin source game target false
  | none => (.over (.ok .ignored), stage)

def next : Source → GameBank → Stage → Except LoadError Outcome × Stage :=
  walk SceneMap.next

def previous : Source → GameBank → Stage → Except LoadError Outcome × Stage :=
  walk SceneMap.previous

/-- Drops the load under way; says whether there was one. -/
def abandon (held : Bool) (stage : Stage) : Bool × Stage :=
  match stage.flight with
  | none => (false, stage)
  | some flight => (true, stage.release held flight)

/-! ## Ticks -/

structure Report where
  scene : Option SceneIndex
  trace : List TraceStep
  events : List Event
deriving DecidableEq, Repr

def Report.nothing : Report := ⟨none, [], []⟩

def Report.executed (report : Report) : Nat := report.trace.length

/-- The scene changes that zones ask for when the tracked position enters
them. -/
def zoneEvents (zones : List Zone) (entries : List Nat) : List Event :=
  entries.filterMap fun index =>
    match zones[index]?.map Zone.kind with
    | some (.changeScene target) => some (.changeScene target protagonist)
    | _ => none

/-- The zones of a scene compared with its protagonist, who must be awake, and
the scene changes that follow. -/
def trackProtagonist (scene : Scene) : List Zone × List Event :=
  match scene.protagonist?.filter Actor.alive with
  | some actor =>
      (trackZones scene.zones actor.position,
        zoneEvents scene.zones (entriesAt scene.zones actor.position))
  | none => (scene.zones, [])

/-- The play of a scene as a tick finds it, its zones compared already. -/
def playOf (scene : Scene) (game : GameBank) (nodes : NodeTree) : Play :=
  { scene := scene.index
    cube := scene.cube
    game := game
    actors := scene.actors
    zones := (trackProtagonist scene).1
    points := scene.points
    nodes := nodes
    journal := #[] }

def playedScene (play : Play) (scene : Scene) : Scene :=
  { scene with
    cube := play.cube
    actors := play.actors
    zones := play.zones }

/-- What a tick of a scene notes: the scene changes that zones ask for, then what
the scripts did. -/
def tickNotes (play : Play) (scene : Scene) : Journal :=
  ((trackProtagonist scene).2.map Note.event).toArray ++ play.journal

/-- One tick of a scene: its zones are compared with the protagonist, then its
scripts run. -/
def tickScene (game : GameBank) (id : SceneId) (scene : Scene)
    (stage : Stage) : Report × GameBank × Stage :=
  let after :=
    (playOf scene game stage.host.nodes).tick stage.settings.stepBudget
  let notes := tickNotes after scene
  let host := after.journal.calls.foldl Host.perform stage.host
  (⟨some scene.index, notes.trace, notes.events⟩, after.game,
    { stage with
      arena := stage.arena.modifyScene id fun _ => playedScene after scene
      host := { host with nodes := after.nodes }
      journal := stage.journal ++ notes })

/-- One tick of the active scene, if there is one and no load is under way. -/
def tick (game : GameBank) (stage : Stage) : Report × GameBank × Stage :=
  if stage.isLoading then
    (Report.nothing, game, stage)
  else
    match stage.active, stage.activeScene? with
    | some id, some scene => stage.tickScene game id scene
    | _, _ => (Report.nothing, game, stage)

/-! ## Starting over and leaving -/

def resetScene (scene : Scene) (nodes : NodeTree) : Scene × NodeTree :=
  let (actors, after) := resetActors scene.actors nodes
  ({ scene with
     actors := actors
     zones := scene.zones.map Zone.reset
     cube := CubeBank.blank scene.cubeSize },
    after)

def reset (stage : Stage) : Bool × Stage :=
  if stage.isLoading then
    (false, stage)
  else
    match stage.active with
    | none => (false, stage)
    | some id =>
        let restored := stage.changeScene id resetScene
        match restored.activeScene? with
        | some scene =>
            (true,
              restored.call
                (.camera scene.index (scene.protagonist?.map Actor.position)))
        | none => (false, restored)

def unload (stage : Stage) : Bool × Stage :=
  if stage.isLoading then
    (false, stage)
  else
    match stage.active with
    | none => (false, stage)
    | some id =>
        let cleared := { stage with active := none }.removeFamily id
        (true, cleared.changeNodes (·.setActiveRoot none))

end Stage

end Stagecraft
