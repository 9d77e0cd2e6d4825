import Stagecraft.Proofs.Script.Triggers
import Stagecraft.Proofs.Stage.Origins

/-!
# The life of zones

The zones of a scene are noticed from two sides: at the beginning of a tick the
stage compares them with the protagonist, if it is awake, and during the tick
scripts read their triggers. A life is the series of both since the scene was
attached or put back, and it determines what every zone shows, what every read of a
trigger sees, and which scene changes a tick asks for.
-/

namespace Stagecraft

/-! ## Lives -/

def Scene.tracks (scene : Scene) : List ZoneUse :=
  match scene.protagonist?.filter Actor.alive with
  | some actor => [.track actor.position]
  | none => []

/-- Whether the zones of a scene have a life: they begin quiet, as attached or put
back, every tick does to them what its beginning and its trace tell, and nothing
else that happens to the scene touches them. -/
inductive Scene.Lives : List ZoneUse → Scene → Prop where
  | fresh {scene : Scene}
      (quiet : scene.zones.map Zone.reset = scene.zones) :
      Lives [] scene
  | played {uses : List ZoneUse} {scene : Scene} (lives : Lives uses scene)
      (game : GameBank) (nodes : NodeTree) (budget : Nat)
      {after : Play}
      (ticked : after = (Stage.playOf scene game nodes).tick budget) :
      Lives
        (uses ++
          (scene.tracks ++ usesOfTrace scene.actors after.journal.trace))
        (Stage.playedScene after scene)
  | spared {uses : List ZoneUse} {scene other : Scene}
      (lives : Lives uses scene) (same : other.zones = scene.zones) :
      Lives uses other

/-- The scene change that a zone asks for when it is entered. -/
def Zone.request? (zone : Zone) : Option Event :=
  match zone.kind with
  | .changeScene target => some (.changeScene target protagonist)
  | _ => none

theorem zoneEvents_eq (zones : List Zone) (entries : List Nat) :
    Stage.zoneEvents zones entries =
      entries.filterMap fun index => zones[index]?.bind Zone.request? := by
  unfold Stage.zoneEvents
  congr 1
  funext index
  cases zones[index]? with
  | none => rfl
  | some zone =>
      simp only [Option.map_some, Option.bind_some, Zone.request?]
      cases zone.kind <;> rfl

namespace Scene

variable {scene : Scene} {uses : List ZoneUse}

/-! ## The beginning of a tick -/

theorem trackProtagonist_zones (scene : Scene) :
    (Stage.trackProtagonist scene).1 = zonesAfter scene.zones scene.tracks := by
  unfold Stage.trackProtagonist tracks
  cases scene.protagonist?.filter Actor.alive with
  | none => rfl
  | some actor => rfl

/-- Without a protagonist who is awake no zone is compared, and none asks for a
scene change. -/
theorem trackProtagonist_of_asleep
    (asleep : ∀ actor, scene.protagonist? = some actor →
      actor.alive = false) :
    Stage.trackProtagonist scene = (scene.zones, []) := by
  have nobody : scene.protagonist?.filter Actor.alive = none := by
    rw [Option.filter_eq_none_iff]
    intro actor leads
    simp [asleep actor leads]
  simp only [Stage.trackProtagonist, nobody]

theorem trackProtagonist_of_awake
    {actor : Actor} (leads : scene.protagonist? = some actor)
    (awake : actor.alive = true) :
    Stage.trackProtagonist scene =
      (trackZones scene.zones actor.position,
        Stage.zoneEvents scene.zones
          (entriesAt scene.zones actor.position)) := by
  have found : scene.protagonist?.filter Actor.alive = some actor := by
    rw [leads, Option.filter_some, if_pos awake]
  simp only [Stage.trackProtagonist, found]

/-! ## What a life determines -/

/-- The zones of a scene as a tick has left them. -/
theorem zones_playOf_tick (scene : Scene) (game : GameBank)
    (nodes : NodeTree) (budgets : List Nat) {moment : Moment}
    (leads : (Moment.resting (budgets.map Deed.tick)
      (Stage.playOf scene game nodes)).Leads moment) :
    moment.play.zones =
      zonesAfter scene.zones
        (scene.tracks ++
          usesOfTrace scene.actors moment.play.journal.trace) := by
  obtain ⟨steps, trace, zones⟩ := (Moment.traces_of_leads leads).zones
  have begun : (Stage.playOf scene game nodes).journal.trace = [] := rfl
  rw [begun, List.nil_append] at trace
  rw [trace, zones, zonesAfter_append]
  exact congrArg (zonesAfter · _) scene.trackProtagonist_zones

theorem Lives.zones (lives : Lives uses scene) :
    scene.zones = zonesAfter (scene.zones.map Zone.reset) uses := by
  induction lives with
  | fresh quiet => exact quiet.symm
  | @played uses scene lives game nodes budget after ticked
      inductionHypothesis =>
      have left :
          after.zones =
            zonesAfter scene.zones
              (scene.tracks ++
                usesOfTrace scene.actors after.journal.trace) := by
        rw [ticked]
        exact scene.zones_playOf_tick game nodes [budget]
          (Moment.leads_tick budget [] _)
      have same : after.zones.map Zone.reset = scene.zones.map Zone.reset := by
        have restored := scene.restored_played game nodes budget
        rw [← ticked] at restored
        exact congrArg Scene.zones restored
      have played : (Stage.playedScene after scene).zones = after.zones := rfl
      rw [played, same, zonesAfter_append, ← inductionHypothesis]
      exact left
  | spared lives same inductionHypothesis =>
      rw [same]
      exact inductionHypothesis

/-- What a zone shows after a life. -/
theorem waits_of_zonesAfter (zones : List Zone) (uses : List ZoneUse)
    (index : Nat) :
    ((zonesAfter (zones.map Zone.reset) uses)[index]?.any fun zone =>
        zone.state.pending) = true ↔
      ∃ zone, zones[index]? = some zone ∧ zone.Waits index uses := by
  cases found : zones[index]? with
  | none => simp [getElem?_zonesAfter, found]
  | some zone =>
      obtain ⟨now, there, shows_⟩ := shows_zonesAfter found uses
      simp [there, shows_.pending]

/-- Every read of a trigger in a tick sees whether the last entry to the zone has
been read before, in this tick or in an earlier one. -/
theorem Lives.read (lives : Lives uses scene) (game : GameBank)
    (nodes : NodeTree) {budget : Nat} {work : Work} {agenda : Agenda}
    {now : Play}
    (leads : (Moment.resting [.tick budget]
      (Stage.playOf scene game nodes)).Leads (.working work agenda now))
    {operands : List Operand} {place : Nat} {zone : UInt64}
    (mentioned : operands[place]? = some (.zoneTriggered zone)) :
    let site : TraceStep :=
      ⟨work.runner, work.kind, work.script.state.position⟩
    let started := now.note (.executed site)
    let before :=
      uses ++ (scene.tracks ++
        (usesOfTrace scene.actors now.journal.trace ++
          usesOf (operands.take place)))
    ∃ value,
      (started.readAll work.runner operands).1[place]? =
          some value ∧
        (value = 0 ∨ value = 1) ∧
        (value = 1 ↔
          ∃ there, scene.zones[zone.toNat]? = some there ∧
            there.Waits zone.toNat before) := by
  intro site started before
  have zonesNow := scene.zones_playOf_tick game nodes [budget] leads
  have read := (Play.readAll_split work.runner mentioned started).1
  have zones :
      (started.readAll work.runner (operands.take place)).2.zones =
        zonesAfter (scene.zones.map Zone.reset) before := by
    rw [Play.zones_readAll, zonesAfter_append, ← lives.zones,
      ← List.append_assoc, zonesAfter_append]
    exact congrArg (zonesAfter · _) zonesNow
  rw [Play.value_zoneTriggered, zones] at read
  have waits := waits_of_zonesAfter scene.zones before zone.toNat
  refine ⟨_, read, ?_, ?_⟩
  · unfold Play.truthWord
    split
    · exact .inr rfl
    · exact .inl rfl
  · rw [← waits]
    unfold Play.truthWord
    split
    · next pending => simp [pending]
    · next idle => simp [idle]

/-- The scene changes that the zones of a scene ask for at a position. -/
theorem Lives.requests (lives : Lives uses scene) (position : Vec3) :
    Stage.zoneEvents scene.zones (entriesAt scene.zones position) =
      ((List.range scene.zones.length).filter fun index =>
          scene.zones[index]?.any fun zone =>
            zone.enters uses position).filterMap fun index =>
        scene.zones[index]?.bind Zone.request? := by
  have entries := entriesAt_zonesAfter scene.zones uses position
  rw [← lives.zones] at entries
  rw [zoneEvents_eq, entries]

/-! ## Scenes of a theatre -/

theorem zones_changeProtagonist (scene : Scene) (nodes : NodeTree)
    (change : Actor → NodeTree → Actor × NodeTree) :
    (scene.changeProtagonist change nodes).1.zones = scene.zones := by
  unfold changeProtagonist
  split <;> rfl

/-- Whatever happens to a scene, its zones have a life. -/
theorem lasting_lives : Lasting fun scene => ∃ uses, scene.Lives uses where
  attached _ markers _ _ _ _ :=
    ⟨[], .fresh (Attach.reset_zones markers _ _ 0 _)⟩
  active _ := fun ⟨uses, lives⟩ => ⟨uses, lives.spared rfl⟩
  link _ := fun ⟨uses, lives⟩ => ⟨uses, lives.spared rfl⟩
  slept nodes := fun ⟨uses, lives⟩ =>
    ⟨uses, lives.spared (zones_changeProtagonist _ nodes _)⟩
  woken nodes := fun ⟨uses, lives⟩ =>
    ⟨uses, lives.spared (zones_changeProtagonist _ nodes _)⟩
  played game nodes budget := fun ⟨_, lives⟩ =>
    ⟨_, lives.played game nodes budget rfl⟩
  restored _ := fun _ => ⟨[], .fresh List.map_map⟩

end Scene

/-! ## Ticks of a stage -/

theorem Stage.tick_eq_tickScene
    {stage : Stage} {id : SceneId} {scene : Scene}
    (idle : stage.flight = none) (active : stage.active = some id)
    (found : stage.arena.scene? id = some scene) (game : GameBank) :
    stage.tick game = stage.tickScene game id scene := by
  simp [tick, isLoading, idle, active, activeScene?, found]

/-- What a tick reports: the scene changes that zones ask for, then what the scripts
did. -/
theorem Stage.report_tickScene (stage : Stage) (game : GameBank) (id : SceneId)
    (scene : Scene) :
    let after :=
      (playOf scene game stage.host.nodes).tick stage.settings.stepBudget
    (stage.tickScene game id scene).1 =
      ⟨some scene.index, after.journal.trace,
        (trackProtagonist scene).2 ++ after.journal.events⟩ := by
  simp [tickScene, tickNotes, Journal.trace, Journal.events,
    List.filterMap_map, Note.executed?, Note.event?, Function.comp_def]

/-- A tick adds to the life of the active scene, and asks for the scene changes of
the zones that its protagonist enters. -/
theorem Stage.tick_lives
    {stage : Stage} {id : SceneId} {scene : Scene}
    (idle : stage.flight = none) (active : stage.active = some id)
    (found : stage.arena.scene? id = some scene) {uses : List ZoneUse}
    (lives : scene.Lives uses) (game : GameBank) :
    let start := playOf scene game stage.host.nodes
    let scripts := start.tick stage.settings.stepBudget
    let report := (stage.tick game).1
    (∃ played, (stage.tick game).2.2.arena.scene? id = some played ∧
        played.Lives
          (uses ++
            (scene.tracks ++ usesOfTrace scene.actors report.trace))) ∧
      ((∀ actor, scene.protagonist? = some actor → actor.alive = false) →
        scene.tracks = [] ∧ start.zones = scene.zones ∧
          report.events = scripts.journal.events) ∧
      ∀ actor, scene.protagonist? = some actor → actor.alive = true →
        scene.tracks = [.track actor.position] ∧
          start.zones = trackZones scene.zones actor.position ∧
          report.events =
            (((List.range scene.zones.length).filter fun index =>
                scene.zones[index]?.any fun zone =>
                  zone.enters uses actor.position).filterMap fun index =>
              scene.zones[index]?.bind Zone.request?) ++
            scripts.journal.events := by
  intro start scripts report
  have reported : report = _ :=
    (congrArg Prod.fst (tick_eq_tickScene idle active found game)).trans
      (stage.report_tickScene game id scene)
  have trace : report.trace = scripts.journal.trace :=
    congrArg Report.trace reported
  have events :
      report.events =
        (trackProtagonist scene).2 ++ scripts.journal.events :=
    congrArg Report.events reported
  refine ⟨⟨playedScene scripts scene, ?_, ?_⟩, ?_, ?_⟩
  · rw [tick_eq_tickScene idle active found, tickScene]
    exact (Arena.scene?_modifyScene ..).trans
      (by rw [if_pos rfl, found, Option.map_some])
  · rw [trace]
    exact lives.played game stage.host.nodes _ rfl
  · intro asleep
    have untracked := Scene.trackProtagonist_of_asleep asleep
    refine ⟨?_, congrArg Prod.fst untracked, ?_⟩
    · have nobody : scene.protagonist?.filter Actor.alive = none := by
        rw [Option.filter_eq_none_iff]
        intro actor leads
        simp [asleep actor leads]
      rw [Scene.tracks, nobody]
    · rw [events, untracked, List.nil_append]
  · intro actor leads awake
    have tracked := Scene.trackProtagonist_of_awake leads awake
    refine ⟨?_, congrArg Prod.fst tracked, ?_⟩
    · rw [Scene.tracks, leads, Option.filter_some, if_pos awake]
    · rw [events, tracked, lives.requests]

namespace Theatre

/-- Zones that were quiet at first are entered, left and waiting exactly as the
positions compared with them and the reads of their triggers say, and a comparison
reports those that the position enters, in ascending order. Every scene of a theatre
has such a life. Whatever reads a trigger in the course of a tick sees whether the
last entry to the zone has been read already. A tick whose protagonist sleeps or is
missing compares no zone; any other asks for one scene change for each zone entered
that leads to a scene, before the scripts ask for theirs. -/
theorem zones_follow_visits (map : SceneMap) (settings : StageSettings)
    (host : Host) (game : GameBank) (acts : List Act) :
    let theatre := (opening map settings host game).run acts
    (∀ (zones : List Zone) (uses : List ZoneUse),
      let now := zonesAfter (zones.map Zone.reset) uses
      now.length = zones.length ∧
        (∀ (index : Nat) (zone : Zone), zones[index]? = some zone →
          ∃ there : Zone, now[index]? = some there ∧
            there.reset = zone.reset ∧
            there.state.entered = zone.inside uses ∧
            there.state.ended = (zone.visited uses && !zone.inside uses) ∧
            (there.state.pending = true ↔
              ∃ since, zone.SinceEntry uses since ∧
                .take index ∉ since)) ∧
        ∀ position, entriesAt now position =
          (List.range zones.length).filter fun index =>
            zones[index]?.any fun zone => zone.enters uses position) ∧
      (∀ id scene, theatre.stage.arena.scene? id = some scene →
        ∃ uses, scene.Lives uses) ∧
      (∀ uses scene, scene.Lives uses →
        scene.zones = zonesAfter (scene.zones.map Zone.reset) uses ∧
          ∀ game nodes budget work agenda now command condition,
            (Moment.resting [.tick budget]
              (Stage.playOf scene game nodes)).Leads
                (.working work agenda now) →
            work.script.current? = some command →
            command.condition? = some condition →
            let started := now.note (.executed
              ⟨work.runner, work.kind, work.script.state.position⟩)
            let reading := started.readAll work.runner condition.operands
            started.evaluate work.runner condition =
                ((condition.filled reading.1).truth, reading.2) ∧
              ∀ place zone,
                condition.operands[place]? = some (.zoneTriggered zone) →
                let before :=
                  uses ++ (scene.tracks ++
                    (usesOfTrace scene.actors now.journal.trace ++
                      usesOf (condition.operands.take place)))
                ∃ value, reading.1[place]? = some value ∧
                  (value = 0 ∨ value = 1) ∧
                  (value = 1 ↔
                    ∃ there, scene.zones[zone.toNat]? = some there ∧
                      ∃ since, there.SinceEntry before since ∧
                        .take zone.toNat ∉ since)) ∧
      ∀ id scene, theatre.stage.flight = none →
        theatre.stage.active = some id →
        theatre.stage.arena.scene? id = some scene →
        ∀ uses, scene.Lives uses →
          let stage := theatre.stage
          let start :=
            Stage.playOf scene theatre.game stage.host.nodes
          let scripts := start.tick stage.settings.stepBudget
          let report := (stage.tick theatre.game).1
          (∃ played,
            (stage.tick theatre.game).2.2.arena.scene? id = some played ∧
              played.Lives
                (uses ++
                  (scene.tracks ++
                    usesOfTrace scene.actors report.trace))) ∧
            ((∀ actor, scene.protagonist? = some actor →
                actor.alive = false) →
              scene.tracks = [] ∧ start.zones = scene.zones ∧
                report.events = scripts.journal.events) ∧
            ∀ actor, scene.protagonist? = some actor → actor.alive = true →
              scene.tracks = [.track actor.position] ∧
                start.zones = trackZones scene.zones actor.position ∧
                report.events =
                  (((List.range scene.zones.length).filter fun index =>
                      scene.zones[index]?.any fun zone =>
                        zone.enters uses actor.position).filterMap
                    fun index => scene.zones[index]?.bind Zone.request?) ++
                  scripts.journal.events := by
  intro theatre
  refine ⟨?_, ?_, ?_, ?_⟩
  · intro zones uses now
    refine ⟨?_, ?_, entriesAt_zonesAfter zones uses⟩
    · exact (length_zonesAfter _ uses).trans (List.length_map Zone.reset)
    · intro index zone found
      obtain ⟨there, present, shows_⟩ := shows_zonesAfter found uses
      exact ⟨there, present, shows_.box, shows_.entered, shows_.ended,
        shows_.pending⟩
  · exact every_reachable Scene.lasting_lives map settings host game acts
  · intro uses scene lives
    refine ⟨lives.zones, ?_⟩
    intro game nodes budget work agenda now command condition leads _ _
    refine ⟨Play.evaluate_eq_readAll work.runner condition _, ?_⟩
    intro place zone mentioned
    exact lives.read game nodes leads mentioned
  · intro id scene idle active found uses lives
    exact Stage.tick_lives idle active found lives theatre.game

end Theatre

end Stagecraft
