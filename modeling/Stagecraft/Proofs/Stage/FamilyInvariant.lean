import Stagecraft.Proofs.Stage.Reachable

/-!
# The family invariant

Whatever was done on a stage, its arena is the family of the active scene, linked
by the kind of that scene, or it is empty.
-/

namespace Stagecraft

/-- Whether an arena is the family of an active scene and nothing else. -/
structure Arena.IsFamilyOf (arena : Arena) (active : SceneId)
    (main : Scene) : Prop where
  found : arena.scene? active = some main
  members : ∀ id, (arena.scene? id).isSome ↔ id ∈ arena.familyOf active
  scenery : ∃ scenery, (∀ id, (arena.scenery? id).isSome ↔ id = scenery) ∧
    ∀ id scene, arena.scene? id = some scene → scene.scenery = scenery
  root : ∀ id scene, arena.scene? id = some scene → scene.root = main.root
  apart : ∀ left right leftScene rightScene,
    arena.scene? left = some leftScene →
      arena.scene? right = some rightScene →
        leftScene.index = rightScene.index → left = right
  isometric : main.kind.isIsland = false →
    main.link = .standalone ∧ ∀ id, (arena.scene? id).isSome → id = active
  island : main.kind.isIsland = true → main.link = .main main.sides
  ascending : main.sides.Pairwise fun left right => left.1 < right.1
  keys : ∀ side ∈ main.sides,
    ∃ scene, arena.scene? side.2 = some scene ∧ scene.index = side.1
  others : ∀ id scene, arena.scene? id = some scene → id ≠ active →
    (main.sides.map Prod.snd).count id = 1 ∧ scene.link = .side active
  asleep : ∀ id scene, arena.scene? id = some scene → id ≠ active →
    scene.active = false

namespace Cast.Fills

variable {cast : Cast} {map : SceneMap} {arena : Arena}

theorem link_of_isometric
    (fills : cast.Fills map arena) {main : Scene}
    (found : arena.scene? cast.main = some main)
    (isometric : main.kind.isIsland = false) :
    main.link = .standalone := by
  rw [(fills.includes _ _ found).link, cast.link_main, Attach.mainLink,
    isometric]
  rfl

theorem link_of_island
    (fills : cast.Fills map arena) {main : Scene}
    (found : arena.scene? cast.main = some main)
    (island : main.kind.isIsland = true) :
    main.link = .main main.sides := by
  rw [fills.sides_main found, (fills.includes _ _ found).link,
    cast.link_main, Attach.mainLink, island]
  rfl

/-- Every other scene is listed once by the main scene. -/
theorem count_sides
    (fills : cast.Fills map arena) {main : Scene}
    (found : arena.scene? cast.main = some main) {id : SceneId}
    {scene : Scene} (other : arena.scene? id = some scene)
    (apart : id ≠ cast.main) :
    (main.sides.map Prod.snd).count id = 1 := by
  rw [fills.sides_main found]
  have once : ((Roster.without cast.main cast.roster).map Prod.snd).Nodup :=
    fills.distinct.sublist (List.filter_sublist.map _)
  have listed := (fills.includes _ _ other).listed
  exact List.count_eq_one_of_mem once
    (List.mem_map_of_mem (Roster.mem_without.mpr ⟨listed, apart⟩))

theorem isFamilyOf
    (fills : cast.Fills map arena)
    (asleep : arena.AsleepBut (some cast.main)) :
    ∃ main, arena.IsFamilyOf cast.main main := by
  obtain ⟨main, found, included⟩ := fills.mainScene
  refine ⟨main, ?_⟩
  exact
    { found := found
      members := fun id => (fills.mem_familyOf_main id).symm
      scenery :=
        ⟨cast.scenery, fills.scenery,
          fun id scene other => (fills.includes id scene other).scenery⟩
      root := fun id scene other =>
        (fills.includes id scene other).root.trans included.root.symm
      apart := fun _ _ _ _ leftFound rightFound =>
        fills.eq_of_index leftFound rightFound
      isometric := fun isometric =>
        ⟨fills.link_of_isometric found isometric, fun id present => by
          obtain ⟨scene, other⟩ := Option.isSome_iff_exists.mp present
          exact fills.id_eq_main_of_isometric found isometric
            (fills.includes id scene other).listed⟩
      island := fills.link_of_island found
      ascending := by
        rw [fills.sides_main found]
        exact Roster.ascending_without fills.ascending _
      keys := fun side listed => by
        rw [fills.sides_main found, Roster.mem_without] at listed
        exact fills.sceneOf listed.1
      others := fun id scene other apart =>
        ⟨fills.count_sides found other apart,
          (fills.includes id scene other).link.trans
            (cast.link_of_ne apart scene.kind)⟩
      asleep := fun id scene other apart =>
        asleep id scene other fun same => apart (Option.some.inj same) }

end Cast.Fills

namespace Theatre

/-- In every state that a theatre can reach, the arena holds nothing at all if no
scene is active, and otherwise the family of the active scene and nothing else,
with all links as the kind of that scene asks. -/
theorem family_invariant (map : SceneMap) (settings : StageSettings)
    (host : Host) (game : GameBank) (acts : List Act) :
    let stage := ((opening map settings host game).run acts).stage
    (stage.active = none →
        (∀ id, stage.arena.scene? id = none) ∧
          ∀ id, stage.arena.scenery? id = none) ∧
      ∀ active, stage.active = some active →
        ∃ main, stage.arena.IsFamilyOf active main := by
  intro stage
  obtain ⟨cast?, sound⟩ := sound_reachable map settings host game acts
  have houses : stage.Houses cast? := sound.houses
  refine ⟨fun inactive => ?_, fun active isActive => ?_⟩
  · cases houses with
    | nothing _ empty =>
        exact ⟨empty.scene, empty.scenery⟩
    | family leads fills asleep =>
        rw [inactive] at leads
        simp at leads
  · cases houses with
    | nothing inactive empty =>
        rw [inactive] at isActive
        simp at isActive
    | @family cast leads fills asleep =>
        have same : cast.main = active :=
          Option.some.inj (leads.symm.trans isActive)
        exact same ▸ fills.isFamilyOf asleep

end Theatre

end Stagecraft
