import Stagecraft.Proofs.Stage.Presenting

/-!
# The node tree mirrors the stage

In every state that a theatre can reach, the nodes that were added since the
beginning are those of the family on the stage, each of them once. They hang below
one another as the parts of the family belong together, and show the actors where
they are and while they are awake.
-/

namespace Stagecraft

namespace Stage

/-- Whether the nodes that were added to a tree are those of the family on a
stage, which is the billed one; or nothing is active and none of them is left. -/
inductive Mirrors (base : NodeTree) (bill : Option LoadedFamily)
    (stage : Stage) : Prop where
  | nothing
      (inactive : stage.active = none)
      (bare : stage.Bare base.nextId)
      (unselected : stage.host.nodes.activeRoot = none ∨
        stage.host.nodes.activeRoot = base.activeRoot)
  | family {root : Nat} {loaded : LoadedFamily}
      (active : stage.active.isSome = true)
      (billed : bill = some loaded)
      (presents : stage.Presents base.nextId root loaded)

theorem mirrors_bare (map : SceneMap) (settings : StageSettings)
    (host : Host) (bill : Option LoadedFamily) :
    (bare map settings host).Mirrors host.nodes bill :=
  .nothing rfl
    ⟨fun _ later => host.nodes.nodes.get?_of_nextId_le later, Nat.le_refl _⟩
    (.inr rfl)

section Steps

variable {base : NodeTree} {bill : Option LoadedFamily} {cast? : Option Cast}
  {stage after : Stage}

theorem Mirrors.of_sameShow
    (mirrors : stage.Mirrors base bill) (same : stage.SameShow after)
    (active : after.active = stage.active) :
    after.Mirrors base bill := by
  cases mirrors with
  | nothing inactive bare unselected =>
      refine .nothing (active.trans inactive) ⟨?_, ?_⟩ ?_
      · rw [same.nodes]
        exact bare.bare
      · rw [same.nodes]
        exact bare.old
      · rw [same.nodes]
        exact unselected
  | family isActive billed presents =>
      exact .family (active ▸ isActive) billed (presents.of_sameShow same)

/-- What keeps a presented family, and changes nothing while nothing is active,
keeps the mirror. -/
theorem Mirrors.of_presents
    (mirrors : stage.Mirrors base bill)
    (active : after.active = stage.active)
    (idles : stage.active = none → after = stage)
    (keeps : ∀ root loaded, stage.Presents base.nextId root loaded →
      after.Presents base.nextId root loaded) :
    after.Mirrors base bill := by
  cases mirrors with
  | nothing inactive bare unselected =>
      rw [idles inactive]
      exact .nothing inactive bare unselected
  | family isActive billed presents =>
      exact .family (active ▸ isActive) billed (keeps _ _ presents)

theorem Mirrors.setActivity
    (mirrors : stage.Mirrors base bill) (id : Option SceneId)
    (active : Bool) :
    (stage.setActivity id active).Mirrors base bill :=
  mirrors.of_sameShow (stage.sameShow_setActivity id active)
    (stage.setActivity_active id active)

theorem Mirrors.swap
    (mirrors : stage.Mirrors base bill) {cast : Cast}
    (houses : stage.Houses (some cast)) {index : SceneIndex}
    {incoming : SceneId} (listed : (index, incoming) ∈ cast.roster)
    (apart : incoming ≠ cast.main) :
    (stage.swap cast.main incoming).Mirrors base bill := by
  have active := (houses_swap houses listed apart).leads
  cases mirrors with
  | nothing inactive bare unselected =>
      have leads := houses.leads
      rw [inactive] at leads
      simp at leads
  | family isActive billed presents =>
      exact .family (by rw [active]; rfl) billed
        (presents.swap houses.fills listed apart)

theorem mirrors_departs
    (mirrors : stage.Mirrors base bill) (houses : stage.Houses cast?)
    {game : GameBank} {target : SceneIndex} {force : Bool}
    {departure : Departure}
    (departs : stage.Departs game target force departure) :
    departure.stage.Mirrors base bill := by
  cases departs with
  | ignored busy => exact mirrors
  | unknown idle wanted missing => exact mirrors
  | @swapped idle wanted kind known outgoing incoming side =>
      obtain ⟨cast, rfl, rfl, listed, apart⟩ := houses.member_of_sideTarget side
      have swapped := mirrors.swap houses listed apart
      simp only [Departure.stage]
      generalize stage.swap cast.main incoming = after at *
      exact swapped
  | away idle wanted known apart =>
      have quieted := mirrors.setActivity stage.active false
      simp only [Departure.stage]
      generalize stage.setActivity stage.active false = after at *
      exact quieted

/-! ## Landing and leaving -/

/-- A loaded family takes the place of the one before, nodes and all. -/
theorem Mirrors.replace
    (mirrors : stage.Mirrors base bill) (houses : stage.Houses cast?)
    {target : SceneIndex} {loaded : LoadedFamily}
    (fits : loaded.Fits stage.map target) :
    (stage.replace stage.active loaded).Mirrors base (some loaded) := by
  have cleared : (stage.clear stage.active).Bare base.nextId := by
    cases mirrors with
    | nothing inactive bare unselected =>
        rw [inactive]
        exact bare
    | family isActive billed presents =>
        cases houses with
        | nothing inactive empty =>
            rw [inactive] at isActive
            simp at isActive
        | family leads fills asleep =>
            rw [leads]
            exact bare_removeFamily presents fills
  -- With everything else gone, what is attached is all that there is.
  have empty := isEmpty_clear houses
  have sameMap := (sameSetting_clear stage stage.active).map
  obtain ⟨root, presents⟩ :=
    presents_attach cleared empty (sameMap.symm ▸ fits)
  obtain ⟨cast, replaced⟩ := houses_replace houses fits
  exact .family (by rw [replaced.leads]; rfl) rfl presents

theorem mirrors_lands
    (mirrors : stage.Mirrors base bill) (houses : stage.Houses cast?)
    {flight : Flight} (suits : flight.Suits stage) (journal : Journal)
    {loaded : LoadedFamily} (fits : loaded.Fits stage.map flight.target) :
    ({ stage with journal := journal, flight := none }.replace
      flight.previous loaded).Mirrors base (some loaded) := by
  have landed :
      Mirrors base bill { stage with journal := journal, flight := none } :=
    mirrors.of_sameShow ⟨rfl, rfl, rfl, fun _ => rfl⟩ rfl
  have housesNow :
      Houses { stage with journal := journal, flight := none } cast? :=
    houses.of_same rfl rfl rfl
  rw [suits.previous]
  exact landed.replace housesNow fits

theorem mirrors_release
    (mirrors : stage.Mirrors base bill) (held : Bool) (flight : Flight) :
    (stage.release held flight).Mirrors base bill := by
  have landed : Mirrors base bill { stage with flight := none } :=
    mirrors.of_sameShow ⟨rfl, rfl, rfl, fun _ => rfl⟩ rfl
  unfold release
  split
  · split
    · exact landed.of_sameShow ⟨rfl, rfl, rfl, fun _ => rfl⟩ rfl
    · exact landed
  · exact landed.setActivity _ _

/-- A load bills the family that it comes to. -/
theorem Fares.mirrors {held : Bool} {flight : Flight}
    {arrival : Option LoadedFamily} {course : Course}
    (fares : stage.Fares held flight arrival course)
    (mirrors : stage.Mirrors base bill) (houses : stage.Houses cast?)
    (suits : flight.Suits stage) :
    course.stage.Mirrors base (arrival.or bill) := by
  cases fares with
  | waits still => exact mirrors.of_sameShow ⟨rfl, rfl, rfl, fun _ => rfl⟩ rfl
  | lands returned =>
      exact mirrors_lands mirrors houses suits _ (returned suits.returns)
  | fails | panics =>
      refine mirrors_release ?_ held flight
      exact mirrors.of_sameShow ⟨rfl, rfl, rfl, fun _ => rfl⟩ rfl

theorem mirrors_unload
    (mirrors : stage.Mirrors base bill) (houses : stage.Houses cast?) :
    stage.unload.2.Mirrors base bill := by
  unfold unload
  by_cases loading : stage.isLoading = true
  · rw [if_pos loading]
    exact mirrors
  · rw [if_neg loading]
    cases houses with
    | nothing inactive empty =>
        rw [inactive]
        exact mirrors
    | @family cast leads fills asleep =>
        rw [leads]
        cases mirrors with
        | nothing inactive bare unselected =>
            rw [leads] at inactive
            simp at inactive
        | @family root loaded isActive billed presents =>
            have aside :
                Presents base.nextId root loaded
                  { stage with active := none } :=
              ⟨presents.shows_, presents.embodies, presents.selected,
                presents.props⟩
            have gone :
                (removeFamily { stage with active := none } cast.main).Bare
                  base.nextId :=
              bare_removeFamily aside fills
            exact .nothing rfl ⟨gone.bare, gone.old⟩ (.inl rfl)

theorem mirrors_tick
    (mirrors : stage.Mirrors base bill) (game : GameBank) :
    (stage.tick game).2.2.Mirrors base bill := by
  refine mirrors.of_presents (stage.sameSetting_tick game).2 (fun inactive => ?_)
    fun root loaded presents => presents.tick game
  have ticks := stage.ticks game
  generalize (stage.tick game).2.2 = after at ticks
  cases ticks with
  | idles => rfl
  | plays active found =>
      rw [inactive] at active
      simp at active

theorem mirrors_reset (mirrors : stage.Mirrors base bill) :
    stage.reset.2.Mirrors base bill := by
  refine mirrors.of_presents stage.sameSetting_reset.2 (fun inactive => ?_)
    fun root loaded presents => presents.reset
  have resets := stage.resets
  generalize stage.reset.2 = after at resets
  cases resets with
  | idles => rfl
  | restores active same =>
      rw [inactive] at active
      simp at active

end Steps

/-! ## Settings -/

section Settings

variable (stage : Stage)

theorem settings_depart (game : GameBank) (order : Order) :
    (order.depart game stage).stage.settings = stage.settings := by
  have departs := order.departs game stage
  generalize order.depart game stage = departure at departs
  cases departs with
  | nowhere aimless => rfl
  | towards aim departs =>
      cases departs with
      | ignored busy => rfl
      | unknown idle wanted missing => rfl
      | @swapped idle wanted kind known outgoing incoming side =>
          have same := stage.sameSetting_swap outgoing incoming
          simp only [Departure.stage]
          generalize stage.swap outgoing incoming = after at *
          exact same.settings
      | away idle wanted known apart =>
          have same := stage.sameSetting_setActivity stage.active false
          simp only [Departure.stage]
          generalize stage.setActivity stage.active false = after at *
          exact same.settings

end Settings

theorem Fares.settings {stage : Stage} {held : Bool} {flight : Flight}
    {arrival : Option LoadedFamily} {course : Course}
    (fares : stage.Fares held flight arrival course) :
    course.stage.settings = stage.settings := by
  cases fares with
  | waits still => rfl
  | @lands loaded journal returned =>
      exact (sameSetting_replace _ flight.previous loaded).settings
  | fails | panics => exact (sameSetting_release _ held flight).settings

end Stage

/-! ## Whole runs -/

namespace Theatre

variable {map : SceneMap} {base : NodeTree} {bill : Option LoadedFamily}
  {cast? : Option Cast} {theatre : Theatre}

theorem mirrors_depart
    (mirrors : theatre.stage.Mirrors base bill)
    (sound : theatre.stage.Sound map cast?) (order : Order) :
    (order.depart theatre.game theatre.stage).stage.Mirrors base bill := by
  have departs := order.departs theatre.game theatre.stage
  generalize order.depart theatre.game theatre.stage = departure at departs
  cases departs with
  | nowhere aimless => exact mirrors
  | towards aim departs =>
      exact Stage.mirrors_departs mirrors sound.houses departs

theorem Performs.mirrors {act : Act} {answer : Answer}
    {arrival : Option LoadedFamily} {after : Stage}
    (performs : theatre.Performs act answer arrival after)
    (mirrors : theatre.stage.Mirrors base bill)
    (sound : theatre.stage.Sound map cast?) :
    after.Mirrors base (arrival.or bill) := by
  cases performs with
  | @atOnce _ _ order _ _ left tells =>
      have leftMirrors := mirrors_depart mirrors sound order
      rw [left] at leftMirrors
      exact leftMirrors
  | @leaves _ _ order flight _ _ _ left fares tells =>
      have leftMirrors := mirrors_depart mirrors sound order
      obtain ⟨left?, soundNow, _, suits⟩ :=
        order.sound_depart sound theatre.game
      rw [left] at leftMirrors soundNow suits
      exact fares.mirrors leftMirrors soundNow.houses (suits flight rfl)
  | goesOn under fares =>
      exact fares.mirrors mirrors sound.houses (sound.suits _ under)
  | @releases held flight under =>
      exact Stage.mirrors_release mirrors held flight
  | ticks => exact Stage.mirrors_tick mirrors theatre.game
  | resets => exact Stage.mirrors_reset mirrors
  | unloads => exact Stage.mirrors_unload mirrors sound.houses
  | asks | unpolled | unreleased | changes => exact mirrors

theorem mirrors_perform
    (mirrors : theatre.stage.Mirrors base bill)
    (sound : theatre.stage.Sound map cast?) (act : Act) :
    (theatre.perform act).2.stage.Mirrors base
      ((theatre.arrival? act).or bill) :=
  (theatre.performs act).mirrors mirrors sound

theorem mirrors_run
    (mirrors : theatre.stage.Mirrors base bill)
    (sound : theatre.stage.Sound map cast?) (acts : List Act) :
    (theatre.run acts).stage.Mirrors base (theatre.billed bill acts) :=
  holds_run (fun bill theatre => theatre.stage.Mirrors base bill) bill
    (fun _ sound mirrors => mirrors_perform mirrors sound _) sound mirrors

theorem mirrors_reachable (map : SceneMap) (settings : StageSettings)
    (host : Host) (game : GameBank) (acts : List Act) :
    let start := opening map settings host game
    (start.run acts).stage.Mirrors host.nodes (start.billed none acts) :=
  mirrors_run (Stage.mirrors_bare map settings host none)
    (Stage.sound_bare map settings host) acts

/-- Every actor of a reachable theatre stands and shows where its node does. -/
theorem displays_reachable (map : SceneMap) (settings : StageSettings)
    (host : Host) (game : GameBank) (acts : List Act) :
    let stage := ((opening map settings host game).run acts).stage
    ∀ id scene, stage.arena.scene? id = some scene →
      ∀ actor ∈ scene.actors, stage.host.nodes.Displays actor := by
  intro stage id scene found
  obtain ⟨cast?, sound⟩ := sound_reachable map settings host game acts
  cases mirrors_reachable map settings host game acts with
  | nothing inactive bare unselected =>
      cases sound.houses with
      | nothing _ empty =>
          have missing : stage.arena.scene? id = none := empty.scene id
          rw [missing] at found
          simp at found
      | family leads fills asleep =>
          rw [inactive] at leads
          simp at leads
  | family active billed presents =>
      exact (presents.shows_.scenes id scene found).actors

/-! ## Nothing but the family -/

theorem Performs.settings {act : Act} {answer : Answer}
    {arrival : Option LoadedFamily} {after : Stage}
    (performs : theatre.Performs act answer arrival after) :
    after.settings = theatre.stage.settings := by
  cases performs with
  | @atOnce _ _ order _ _ left tells =>
      have kept := theatre.stage.settings_depart theatre.game order
      rw [left] at kept
      exact kept
  | @leaves _ _ order _ _ _ _ left fares tells =>
      have kept := theatre.stage.settings_depart theatre.game order
      rw [left] at kept
      exact fares.settings.trans kept
  | goesOn under fares => exact fares.settings
  | @releases held flight under =>
      exact (theatre.stage.sameSetting_release held flight).settings
  | ticks => exact (theatre.stage.sameSetting_tick theatre.game).1.settings
  | resets => exact theatre.stage.sameSetting_reset.1.settings
  | unloads => exact theatre.stage.sameSetting_unload.settings
  | asks | unpolled | unreleased | changes => rfl

/-- The settings of a theatre are for good. -/
theorem settings_perform (theatre : Theatre) (act : Act) :
    (theatre.perform act).2.stage.settings = theatre.stage.settings :=
  (theatre.performs act).settings

theorem settings_run (theatre : Theatre) (acts : List Act) :
    (theatre.run acts).stage.settings = theatre.stage.settings := by
  induction acts generalizing theatre with
  | nil => rfl
  | cons act rest inductionHypothesis =>
      exact (inductionHypothesis _).trans (settings_perform theatre act)

/-- A theatre whose node tree was empty has the nodes of the family on its stage and
no others: a root, the scenery below it and the bodies of all scenes, as many as
were made since the root. Every scene of the family hangs below the root, with its
parts below it in turn, and its actors stand and show where their nodes do. While
nothing is active there are no nodes. -/
theorem node_tree_mirrors_family (map : SceneMap) (settings : StageSettings)
    (host : Host) (game : GameBank) (acts : List Act) :
    let start :=
      opening map settings { host with nodes := NodeTree.empty } game
    let stage := (start.run acts).stage
    let tree := stage.host.nodes
    let ids := tree.nodes.entries.map Prod.fst
    ids.Nodup ∧
      (∀ id ∈ ids, (tree.worldPosition id).isSome) ∧
      (stage.active = none → ids = [] ∧ tree.activeRoot = none) ∧
      ∀ active, stage.active = some active →
        ∃ main scenery loaded,
          stage.arena.scene? active = some main ∧
          stage.arena.scenery? main.scenery = some scenery ∧
          start.billed none acts = some loaded ∧
          ids = main.root :: (main.root + 1) :: stage.arena.bodies ∧
          tree.nextId = main.root + ids.length ∧
          (tree.node? main.root).map Node.parent = some none ∧
          tree.Under main.root (main.root + 1) ∧
          tree.activeRoot = some main.root ∧
          tree.props = scenery.props ∧
          ∀ id scene, stage.arena.scene? id = some scene →
            tree.Carries main.root scene ∧
              ∃ part ∈ loaded.main :: loaded.sides,
                scene.Embodies settings.editorMarkers part := by
  intro start stage tree ids
  have mirrors : stage.Mirrors NodeTree.empty (start.billed none acts) :=
    mirrors_reachable map settings { host with nodes := NodeTree.empty } game
      acts
  have sameSettings : stage.settings = settings := settings_run start acts
  obtain ⟨cast?, sound⟩ := sound_reachable map settings _ game acts
  have houses : stage.Houses cast? := sound.houses
  refine ⟨(Slots.ids_ascending _).imp Nat.ne_of_lt, ?_⟩
  cases mirrors with
  | nothing inactive bare unselected =>
      have none_ : ids = [] := bare.ids_eq
      refine ⟨by simp [none_], fun _ => ⟨none_, ?_⟩, fun active isActive => ?_⟩
      · exact unselected.elim id id
      · rw [inactive] at isActive
        simp at isActive
  | @family root loaded isActive billed presents =>
      have shows_ := presents.shows_
      refine ⟨fun id listed => ?_, fun inactive => ?_, fun active leads => ?_⟩
      · exact shows_.rooted.worldPosition_isSome (Nat.zero_le id)
          ((Slots.mem_ids _ id).mp listed)
      · rw [inactive] at isActive
        simp at isActive
      · obtain ⟨cast, rfl, rfl⟩ := houses.cast_of_active leads
        obtain ⟨main, found, included⟩ := houses.fills.mainScene
        obtain ⟨scenery, stands⟩ :=
          Option.isSome_iff_exists.mp ((houses.fills.scenery _).mpr rfl)
        rw [← included.scenery] at stands
        obtain rfl := (shows_.scenes _ main found).family
        obtain ⟨top, isTop, parentless⟩ := shows_.rooted.top
        have listed : ids = main.root :: (main.root + 1) :: _ := shows_.ids_eq
        refine ⟨main, scenery, loaded, found, stands, billed, listed, ?_, ?_,
          shows_.scenery, presents.selected, presents.props _ scenery stands,
          fun id scene stored => ?_⟩
        · rw [listed]
          exact shows_.nextId_eq
        · show (stage.host.nodes.node? main.root).map Node.parent = some none
          rw [isTop, Option.map_some, parentless]
        · exact ⟨shows_.scenes id scene stored,
            sameSettings ▸ presents.embodies id scene stored⟩

end Theatre

end Stagecraft
