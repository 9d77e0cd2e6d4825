import Stagecraft.Proofs.Script.Wakefulness
import Stagecraft.Proofs.Stage.Handovers
import Stagecraft.Proofs.Stage.Mirror
import Stagecraft.Proofs.Stage.Swaps

/-!
# Frozen scenes

The protagonists of all scenes but the active one are asleep. A scene that was left
for another member of its family stays as it is, but for its link, until it is
entered again; then its protagonist wakes and starts both its scripts anew.
-/

namespace Stagecraft

/-- An actor who wakes starts both scripts anew. -/
theorem Actor.starts_revived (actor : Actor) (kind : ScriptKind) :
    (actor.revived.script kind).AtStart ∧
      (actor.revived.script kind).state.status = .running := by
  cases kind with
  | life => exact ⟨actor.life.atStart_reset, rfl⟩
  | move => exact ⟨actor.move.atStart_reset, rfl⟩

namespace Scene

/-- Whether the protagonist of a scene, if there is one, is asleep. -/
def Dozes (scene : Scene) : Prop :=
  ∀ actor, scene.protagonist? = some actor → actor.alive = false

variable {scene : Scene}

theorem Dozes.of_actors (dozes : scene.Dozes) {other : Scene}
    (same : other.actors = scene.actors) :
    other.Dozes := by
  intro actor leads
  rw [protagonist?, same] at leads
  exact dozes actor leads

/-- The protagonist of a scene of which the first actor was changed. -/
theorem eq_of_protagonist?_modifyHead
    {actors : List Actor} {change : Actor → Actor} {actor : Actor}
    (leads : (actors.modifyHead change)[protagonist]? = some actor) :
    ∃ first, actors[protagonist]? = some first ∧ change first = actor := by
  have isFirst : protagonist = 0 := rfl
  rw [List.getElem?_modifyHead, if_pos isFirst, Option.map_eq_some_iff] at leads
  exact leads

theorem dozes_left (scene : Scene) : scene.left.Dozes := by
  intro actor leads
  obtain ⟨_, _, rfl⟩ := eq_of_protagonist?_modifyHead leads
  rfl

theorem dozes_changeProtagonist (scene : Scene) (nodes : NodeTree) :
    (scene.changeProtagonist Actor.kill nodes).1.Dozes := by
  rw [scene.actors_changeProtagonist nodes Actor.kill_actor]
  exact scene.dozes_left.of_actors rfl

/-- A sleeping protagonist that is woken starts its scripts anew. -/
theorem entered_of_dozes (dozes : scene.Dozes) :
    scene.entered =
      { scene with
        actors := scene.actors.modifyHead Actor.revived
        active := true } := by
  unfold entered
  cases listed : scene.actors with
  | nil => rfl
  | cons first others =>
      have asleep : first.alive = false :=
        dozes first (by rw [protagonist?, listed]; rfl)
      simp [Actor.woken, asleep]

end Scene

/-! ## Side scenes that are attached -/

namespace Attach

/-- Whether all scenes of an arena but one have sleeping protagonists. -/
def DozesBut (spared : SceneId) (arena : Arena) : Prop :=
  ∀ id scene, arena.scene? id = some scene → id ≠ spared → scene.Dozes

theorem dozesBut_sides (markers : Bool) (main : SceneId) (scenery : SceneryId)
    (root : NodeId) (loaded : List LoadedScene) {spared : SceneId}
    {arena : Arena} (dozes : DozesBut spared arena) (nodes : NodeTree) :
    DozesBut spared
      (sides markers main scenery root loaded arena nodes).2.1 := by
  induction loaded generalizing arena nodes with
  | nil => exact dozes
  | cons side rest inductionHypothesis =>
      refine inductionHypothesis (fun id member isMember apart => ?_) _
      rw [Arena.scene?_addScene] at isMember
      split at isMember
      · obtain rfl := Option.some.inj isMember
        exact Scene.dozes_changeProtagonist _ _
      · exact dozes id member isMember apart

theorem dozesBut_family (markers : Bool) (loaded : LoadedFamily)
    {arena : Arena} (empty : arena.IsEmpty) (nodes : NodeTree) :
    DozesBut arena.nextScene (family markers loaded arena nodes).1 := by
  intro id scene found apart
  unfold family at found
  rw [Arena.scene?_modifyScene, if_neg apart] at found
  refine dozesBut_sides markers arena.nextScene _ _ loaded.sides ?_ _ id scene
    found apart
  intro other member isMember different
  rw [Arena.scene?_addScene, Arena.nextScene_addScenery,
    if_neg different] at isMember
  have missing : (arena.addScenery loaded.scenery).scene? other = none :=
    empty.scene other
  rw [missing] at isMember
  simp at isMember

end Attach

namespace Stage

/-! ## Everybody else is asleep -/

/-- Whether the protagonists of all scenes but the active one are asleep. -/
def Hushed (stage : Stage) : Prop :=
  ∀ id scene, stage.arena.scene? id = some scene →
    stage.active ≠ some id → scene.Dozes

theorem hushed_bare (map : SceneMap) (settings : StageSettings)
    (host : Host) :
    (bare map settings host).Hushed := by
  intro id scene found _
  have missing : Arena.empty.scene? id = none := Arena.isEmpty_empty.scene id
  have known : Arena.empty.scene? id = some scene := found
  rw [missing] at known
  simp at known

section Steps

variable {cast? : Option Cast} {stage after : Stage} {keeps swaps : Bool}

theorem scene?_activate
    {id : SceneId} {main : Scene} (found : stage.arena.scene? id = some main) :
    (stage.activate id).active = some id ∧
      (stage.activate id).arena =
        stage.arena.modifyScene id (Scene.withActive true) := by
  let chosen :=
    { stage.setActivity (some id) true with active := some id }
  have same :
      chosen.SameScenes
        (((chosen.present main).resumeMusic main.ambience.track).call
          (.camera main.index (main.protagonist?.map Actor.position))) :=
    ((sameScenes_present chosen main).trans (sameScenes_resumeMusic _ _)).trans
      (sameScenes_call _ _)
  simp only [activate, found]
  exact ⟨same.active, same.arena⟩

theorem hushed_replace
    (houses : stage.Houses cast?) {target : SceneIndex}
    {loaded : LoadedFamily} (fits : loaded.Fits stage.map target) :
    (stage.replace stage.active loaded).Hushed := by
  have dozes :=
    Attach.dozesBut_family (stage.clear stage.active).settings.editorMarkers
      loaded (isEmpty_clear houses) (stage.clear stage.active).host.nodes
  obtain ⟨main, found, _⟩ := (fills_attach houses fits).mainScene
  obtain ⟨active, arena⟩ := scene?_activate found
  unfold replace
  rw [Attach.castOf_main] at active arena
  intro id scene isScene apart
  have waits : id ≠ (stage.clear stage.active).arena.nextScene :=
    fun same => apart (same ▸ active)
  rw [arena, Arena.scene?_modifyScene, if_neg waits] at isScene
  exact dozes id scene isScene waits

theorem hushed_swap
    (hushed : stage.Hushed) {cast : Cast} (houses : stage.Houses (some cast))
    {index : SceneIndex} {incoming : SceneId}
    (listed : (index, incoming) ∈ cast.roster)
    (apart : incoming ≠ cast.main) :
    (stage.swap cast.main incoming).Hushed := by
  intro id scene found inactive
  rw [(houses_swap houses listed apart).leads] at inactive
  have waits : id ≠ incoming := fun same => inactive (same ▸ rfl)
  rw [scene?_swap houses.fills listed apart, Option.map_eq_some_iff] at found
  obtain ⟨before, was, rfl⟩ := found
  unfold Scene.handedOver
  rw [if_neg waits]
  by_cases leaves : id = cast.main
  · rw [if_pos leaves]
    exact (Scene.dozes_left before).of_actors rfl
  · rw [if_neg leaves]
    have wasInactive : stage.active ≠ some id := by
      rw [houses.leads]
      exact fun same => leaves (Option.some.inj same).symm
    exact (hushed id before was wasInactive).of_actors rfl

theorem Hushed.evolves
    (hushed : stage.Hushed) (houses : stage.Houses cast?)
    (evolves : stage.Evolves cast? keeps swaps after) :
    after.Hushed := by
  cases evolves with
  | stays spares =>
      intro id scene found apart
      rw [spares.active] at apart
      rw [spares.others id apart] at found
      exact hushed id scene found apart
  | handsOver company listed apart swapped =>
      subst company
      rw [swapped]
      exact hushed_swap hushed houses listed apart
  | arrives earlier fits replaced =>
      rw [replaced]
      exact hushed_replace earlier fits
  | empties empty =>
      intro id scene found _
      rw [empty.scene] at found
      simp at found

/-! ## What befalls one scene -/

variable {id : SceneId} {scene : Scene}

/-- A scene that is not active is not touched, but for its link, as long as its
family is kept together and it is not entered. -/
theorem Evolves.frozen
    (evolves : stage.Evolves cast? true swaps after)
    (houses : stage.Houses cast?) (inactive : stage.active ≠ some id)
    (inactiveStill : after.active ≠ some id)
    (found : stage.arena.scene? id = some scene) :
    ∃ link, after.arena.scene? id = some (scene.withLink link) := by
  cases evolves with
  | stays spares =>
      exact ⟨scene.link, (spares.others id inactive).trans found⟩
  | @handsOver cast index incoming company listed apart after swapped =>
      subst company
      rw [houses.leads] at inactive
      rw [swapped, (houses_swap houses listed apart).leads] at inactiveStill
      have waits : id ≠ incoming := fun same => inactiveStill (same ▸ rfl)
      have rests : id ≠ cast.main := fun same => inactive (same ▸ rfl)
      refine ⟨(cast.ledBy incoming).link scene.kind id, ?_⟩
      rw [swapped, scene?_swap houses.fills listed apart, found,
        Option.map_some, Scene.handedOver, if_neg waits, if_neg rests]

/-- The scene that is left by a swap falls asleep. -/
theorem Evolves.leaves
    (evolves : stage.Evolves cast? keeps true after)
    (houses : stage.Houses cast?) (active : stage.active = some id) :
    ∃ scene link, stage.arena.scene? id = some scene ∧
      after.arena.scene? id = some (scene.left.withLink link) := by
  cases evolves with
  | @handsOver cast index incoming company listed apart after swapped =>
      subst company
      rw [houses.leads, Option.some.injEq] at active
      subst active
      obtain ⟨main, found, _⟩ := houses.fills.mainScene
      refine ⟨main, (cast.ledBy incoming).link main.kind cast.main, found, ?_⟩
      rw [swapped, scene?_swap houses.fills listed apart, found,
        Option.map_some, Scene.handedOver, if_neg apart.symm, if_pos rfl]

/-- The scene that is entered by a swap wakes. -/
theorem Evolves.enters
    (evolves : stage.Evolves cast? keeps true after)
    (houses : stage.Houses cast?) (active : after.active = some id)
    (found : stage.arena.scene? id = some scene) :
    ∃ link, after.arena.scene? id = some (scene.entered.withLink link) := by
  cases evolves with
  | @handsOver cast index incoming company listed apart after swapped =>
      subst company
      rw [swapped, (houses_swap houses listed apart).leads,
        Option.some.injEq] at active
      obtain rfl : incoming = id := active
      refine ⟨(cast.ledBy incoming).link scene.kind incoming, ?_⟩
      rw [swapped, scene?_swap houses.fills listed apart, found,
        Option.map_some, Scene.handedOver, if_pos rfl]

end Steps

end Stage

/-! ## Runs -/

namespace Theatre

variable {map : SceneMap} {cast? : Option Cast} {theatre : Theatre}

theorem hushed_run
    (sound : theatre.stage.Sound map cast?) (hushed : theatre.stage.Hushed)
    (acts : List Act) :
    (theatre.run acts).stage.Hushed :=
  holds_run (fun _ theatre => theatre.stage.Hushed) none
    (fun _ sound hushed =>
      hushed.evolves sound.houses (evolves_perform sound _)) sound hushed

/-- Whether a scene is not active at any moment of a run. -/
def Rests (id : SceneId) (theatre : Theatre) (acts : List Act) : Prop :=
  ∀ count, (theatre.run (acts.take count)).stage.active ≠ some id

theorem Rests.tail
    {id : SceneId} {act : Act} {rest : List Act}
    (rests : theatre.Rests id (act :: rest)) :
    (theatre.perform act).2.Rests id rest :=
  fun count => rests (count + 1)

theorem frozen_run
    (sound : theatre.stage.Sound map cast?) {acts : List Act}
    (keeps : theatre.KeepsFamily acts) {id : SceneId}
    (rests : theatre.Rests id acts) {scene : Scene}
    (found : theatre.stage.arena.scene? id = some scene) :
    ∃ link,
      (theatre.run acts).stage.arena.scene? id =
        some (scene.withLink link) := by
  induction acts generalizing theatre cast? scene with
  | nil => exact ⟨scene.link, found⟩
  | cons act rest inductionHypothesis =>
      rw [KeepsFamily, answers, List.forall_mem_cons] at keeps
      have evolves := evolves_perform sound act
      rw [keeps.1] at evolves
      obtain ⟨link, foundNext⟩ :=
        evolves.frozen sound.houses (rests 0) (rests 1) found
      obtain ⟨next?, soundNext, _⟩ := sound_perform sound act
      obtain ⟨last, foundLast⟩ :=
        inductionHypothesis soundNext keeps.2 rests.tail foundNext
      exact ⟨last, foundLast⟩

/-- The scene that a swap leads back to is as it was, but that its protagonist has
been woken. -/
theorem enters_perform
    (sound : theatre.stage.Sound map cast?) (hushed : theatre.stage.Hushed)
    {act : Act} (swaps : (theatre.perform act).1.isSwap = true)
    {id : SceneId} (inactive : theatre.stage.active ≠ some id)
    (active : (theatre.perform act).2.stage.active = some id)
    {scene : Scene} (found : theatre.stage.arena.scene? id = some scene) :
    ∃ link,
      (theatre.perform act).2.stage.arena.scene? id =
        some
          { scene with
            actors := scene.actors.modifyHead Actor.revived
            link := link
            active := true } := by
  have evolves := evolves_perform sound act
  rw [swaps] at evolves
  obtain ⟨link, entered⟩ := evolves.enters sound.houses active found
  rw [Scene.entered_of_dozes (hushed id scene found inactive)] at entered
  exact ⟨link, entered⟩

/-! ## Reachable theatres -/

theorem hushed_reachable (map : SceneMap) (settings : StageSettings)
    (host : Host) (game : GameBank) (acts : List Act) :
    ((opening map settings host game).run acts).stage.Hushed :=
  hushed_run (Stage.sound_bare map settings host)
    (Stage.hushed_bare map settings host) acts

/-- In every state that a theatre can reach, the protagonists of all scenes but the
active one are asleep. If the active scene is left by a swap, it stays just as it was
left, its link apart, while its family is kept together and it is not active. When
another swap makes it active again, its protagonist is awake and shown, with both its
scripts at their start, and nothing else about it has changed. -/
theorem inactive_members_frozen (map : SceneMap) (settings : StageSettings)
    (host : Host) (game : GameBank) (acts : List Act) :
    let theatre := (opening map settings host game).run acts
    (∀ id scene, theatre.stage.arena.scene? id = some scene →
      theatre.stage.active ≠ some id →
        ∀ actor, scene.protagonist? = some actor → actor.alive = false) ∧
      ∀ leaving meanwhile id,
        let left := (theatre.perform leaving).2
        theatre.stage.active = some id →
          (theatre.perform leaving).1.isSwap = true →
          left.KeepsFamily meanwhile → left.Rests id meanwhile →
            ∃ scene, left.stage.arena.scene? id = some scene ∧
              (∃ link,
                (left.run meanwhile).stage.arena.scene? id =
                  some (scene.withLink link)) ∧
              ∀ returning,
                let back := (left.run meanwhile).perform returning
                back.1.isSwap = true → back.2.stage.active = some id →
                  ∃ link entered,
                    back.2.stage.arena.scene? id = some entered ∧
                    entered =
                      { scene with
                        actors := scene.actors.modifyHead Actor.revived
                        link := link
                        active := true } ∧
                    ∀ actor, entered.protagonist? = some actor →
                      actor.alive = true ∧
                      (∀ kind, (actor.script kind).AtStart ∧
                        (actor.script kind).state.status = .running) ∧
                      ∀ node, actor.node = some node →
                        (back.2.stage.host.nodes.node? node).map
                          Node.visible = some true := by
  intro theatre
  obtain ⟨cast?, sound⟩ := sound_reachable map settings host game acts
  refine ⟨hushed_reachable map settings host game acts, ?_⟩
  intro leaving meanwhile id left isActive leaves keeps rests
  have departs := evolves_perform sound leaving
  rw [leaves] at departs
  obtain ⟨_, _, _, found⟩ := departs.leaves sound.houses isActive
  obtain ⟨left?, soundLeft, _⟩ := sound_perform sound leaving
  obtain ⟨lastLink, frozen⟩ := frozen_run soundLeft keeps rests found
  refine ⟨_, found, ⟨lastLink, frozen⟩, ?_⟩
  intro returning back enters isBack
  obtain ⟨last?, soundLast, _⟩ := sound_run soundLeft meanwhile
  have inactive : (left.run meanwhile).stage.active ≠ some id := by
    have rested := rests meanwhile.length
    rwa [List.take_length] at rested
  -- What holds in all reachable states holds before and after the return.
  have reached :
      left.run meanwhile =
        (opening map settings host game).run (acts ++ leaving :: meanwhile) :=
    (run_append (opening map settings host game) acts
      (leaving :: meanwhile)).symm
  have hushed := hushed_reachable map settings host game
    (acts ++ leaving :: meanwhile)
  rw [← reached] at hushed
  have displays := displays_reachable map settings host game
    (acts ++ leaving :: meanwhile ++ [returning])
  rw [run_append, ← reached] at displays
  obtain ⟨link, entered⟩ :=
    enters_perform soundLast hushed enters inactive isBack frozen
  refine ⟨link, _, entered, rfl, ?_⟩
  intro actor leads
  obtain ⟨asleep, _, rfl⟩ := Scene.eq_of_protagonist?_modifyHead leads
  refine ⟨rfl, asleep.starts_revived, fun node isNode => ?_⟩
  obtain ⟨shown, stands, _, visible⟩ :=
    displays id _ entered _ (List.mem_of_getElem? leads) node isNode
  exact (congrArg (Option.map Node.visible) stands).trans
    (congrArg some visible)

def peopledSource : Source where
  answer
    | .scene _ _ =>
        .ok (⟨⟨0, none, none⟩,
          [⟨"", none, Vec3.zero, 0, 0, [.restart], [.restart]⟩], [], []⟩ :
            SceneData)
    | .actor environment _ data =>
        .ok (⟨data, some ⟨"", environment⟩⟩ : ActorAsset)
    | .scenery _ _ => .ok (⟨"", [⟨0, 0⟩], []⟩ : Scenery)
  pauses _ _ := 0

/-- A theatre that shows the first of two scenes with one actor each. -/
def peopled : Theatre :=
  (opening pairMap ⟨"", false, 9⟩ Host.quiet ⟨#[], []⟩).run
    [.begin peopledSource (.goto 0 false), .tick]

def thither : Act := .go peopledSource (.goto 1 false)

def hither : Act := .go peopledSource (.goto 0 false)

/-- The actor of the first scene sleeps while the other one plays, and wakes when it
is done. -/
theorem inactive_members_frozen_pair :
    (peopled.perform thither).2.KeepsFamily [.tick, .reset] ∧
      (peopled.perform thither).2.Rests 0 [.tick, .reset] ∧
      ∃ scene link entered,
        (peopled.perform thither).2.stage.arena.scene? 0 = some scene ∧
        (((peopled.perform thither).2.run [.tick, .reset]).perform
          hither).2.stage.arena.scene? 0 = some entered ∧
        entered =
          { scene with
            actors := scene.actors.modifyHead Actor.revived
            link := link
            active := true } ∧
        ∃ actor, entered.protagonist? = some actor ∧ actor.alive = true := by
  have active : peopled.stage.active = some 0 := by decide
  have leaves : (peopled.perform thither).1.isSwap = true := by decide
  have keeps : (peopled.perform thither).2.KeepsFamily [.tick, .reset] := by
    unfold KeepsFamily
    decide
  have rests : (peopled.perform thither).2.Rests 0 [.tick, .reset]
    | 0 => by decide
    | 1 => by decide
    | count + 2 => by
        rw [List.take_of_length_le (Nat.le_add_left 2 count)]
        decide
  have swaps :
      (((peopled.perform thither).2.run [.tick, .reset]).perform
        hither).1.isSwap = true := by
    decide
  have isBack :
      (((peopled.perform thither).2.run [.tick, .reset]).perform
        hither).2.stage.active = some 0 := by
    decide
  have frozen :=
    (inactive_members_frozen pairMap ⟨"", false, 9⟩ Host.quiet ⟨#[], []⟩
      [.begin peopledSource (.goto 0 false), .tick]).2
  rw [← peopled] at frozen
  obtain ⟨scene, found, _, returns⟩ :=
    frozen thither [.tick, .reset] 0 active leaves keeps rests
  obtain ⟨link, entered, isNow, woken, wakes⟩ := returns hither swaps isBack
  have peopledStill :
      (((((peopled.perform thither).2.run [.tick, .reset]).perform
        hither).2.stage.arena.scene? 0).bind Scene.protagonist?).isSome := by
    decide
  rw [isNow] at peopledStill
  obtain ⟨actor, leads⟩ := Option.isSome_iff_exists.mp peopledStill
  exact ⟨keeps, rests, scene, link, entered, found, isNow, woken, actor, leads,
    (wakes actor leads).1⟩

end Theatre

end Stagecraft
