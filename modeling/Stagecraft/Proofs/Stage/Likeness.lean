import Stagecraft.Stage.Attach

/-!
# Arenas that are alike

Nothing that happens on a stage depends on which scenes are marked as active. Two
arenas are alike if they differ at most in these marks, and every operation leads
from arenas that are alike to arenas that are alike.
-/

namespace Stagecraft

def Scene.Alike (left right : Scene) : Prop :=
  left.withActive false = right.withActive false

namespace Scene.Alike

variable {left right : Scene}

theorem refl (scene : Scene) : scene.Alike scene :=
  Eq.refl _

theorem withActive_left
    (alike : left.Alike right) (active : Bool) :
    (left.withActive active).Alike right :=
  alike

theorem withActive_right
    (alike : left.Alike right) (active : Bool) :
    left.Alike (right.withActive active) :=
  alike

/-- Whatever is read of a scene regardless of its activity is the same. -/
theorem same
    (alike : left.Alike right) {α : Type} (read : Scene → α) :
    read (left.withActive false) = read (right.withActive false) :=
  congrArg read alike

theorem index (alike : left.Alike right) : left.index = right.index :=
  alike.same Scene.index

theorem link (alike : left.Alike right) : left.link = right.link :=
  alike.same Scene.link

theorem scenery (alike : left.Alike right) :
    left.scenery = right.scenery :=
  alike.same Scene.scenery

theorem root (alike : left.Alike right) : left.root = right.root :=
  alike.same Scene.root

theorem ambience (alike : left.Alike right) :
    left.ambience = right.ambience :=
  alike.same Scene.ambience

theorem protagonist? (alike : left.Alike right) :
    left.protagonist? = right.protagonist? :=
  alike.same Scene.protagonist?

theorem sides (alike : left.Alike right) : left.sides = right.sides :=
  alike.same Scene.sides

theorem parent? (alike : left.Alike right) :
    left.parent? = right.parent? :=
  alike.same Scene.parent?

theorem eq_withActive (alike : left.Alike right) :
    left = right.withActive left.active :=
  alike.same (Scene.withActive left.active)

theorem withLink (alike : left.Alike right) (link : Link) :
    (left.withLink link).Alike (right.withLink link) :=
  alike.same (Scene.withLink link)

end Scene.Alike

structure Arena.Alike (left right : Arena) : Prop where
  sceneries : left.sceneries = right.sceneries
  nextScene : left.nextScene = right.nextScene
  scenes : ∀ id, Option.Rel Scene.Alike (left.scene? id) (right.scene? id)

namespace Arena.Alike

variable {left right : Arena}

theorem refl (arena : Arena) : arena.Alike arena where
  sceneries := rfl
  nextScene := rfl
  scenes id := by
    cases arena.scene? id with
    | none => exact .none
    | some scene => exact .some (Scene.Alike.refl scene)

theorem symm (alike : left.Alike right) : right.Alike left where
  sceneries := alike.sceneries.symm
  nextScene := alike.nextScene.symm
  scenes id := by
    have related := alike.scenes id
    generalize left.scene? id = before at related ⊢
    generalize right.scene? id = after at related ⊢
    cases related with
    | none => exact .none
    | some same => exact .some (Eq.symm same)

/-- Whatever is read of the scenes regardless of their activity is the same. -/
theorem map_eq
    (alike : left.Alike right) {α : Type} {read : Scene → α}
    (blind : ∀ {before after : Scene}, before.Alike after →
      read before = read after) (id : SceneId) :
    (left.scene? id).map read = (right.scene? id).map read := by
  have related := alike.scenes id
  generalize left.scene? id = before at related ⊢
  generalize right.scene? id = after at related ⊢
  cases related with
  | none => rfl
  | some same => exact congrArg some (blind same)

theorem scenery? (alike : left.Alike right) (id : SceneryId) :
    left.scenery? id = right.scenery? id := by
  rw [Arena.scenery?, alike.sceneries, Arena.scenery?]

/-! ## Changes -/

/-- Changing a scene on both sides, each in its own way. -/
theorem modifyScene
    (alike : left.Alike right) (id : SceneId)
    {leftChange rightChange : Scene → Scene}
    (same : ∀ {before after : Scene}, left.scene? id = some before →
      right.scene? id = some after → before.Alike after →
        (leftChange before).Alike (rightChange after)) :
    (left.modifyScene id leftChange).Alike
      (right.modifyScene id rightChange) where
  sceneries := alike.sceneries
  nextScene := by
    have leftNext := left.scenes.nextId_modify id leftChange
    have rightNext := right.scenes.nextId_modify id rightChange
    exact leftNext.trans (alike.nextScene.trans rightNext.symm)
  scenes other := by
    rw [Arena.scene?_modifyScene, Arena.scene?_modifyScene]
    have related := alike.scenes other
    by_cases own : other = id
    · subst own
      rw [if_pos rfl, if_pos rfl]
      generalize leftFound : left.scene? other = before at related ⊢
      generalize rightFound : right.scene? other = after at related ⊢
      cases related with
      | none => exact .none
      | some sameScene => exact .some (same leftFound rightFound sameScene)
    · rw [if_neg own, if_neg own]
      exact related

/-- Marks of active scenes make no difference. -/
theorem setActivity_left
    (alike : left.Alike right) (id : SceneId) (active : Bool) :
    (left.modifyScene id (Scene.withActive active)).Alike right := by
  have unchanged : right.modifyScene id (fun scene => scene) = right := by
    rw [Arena.modifyScene, Slots.modify_id]
  have changed :
      (left.modifyScene id (Scene.withActive active)).Alike
        (right.modifyScene id fun scene => scene) :=
    alike.modifyScene id fun _ _ same => same.withActive_left active
  rw [unchanged] at changed
  exact changed

theorem addScene
    (alike : left.Alike right) (scene : Scene) :
    (left.addScene scene).Alike (right.addScene scene) where
  sceneries := alike.sceneries
  nextScene := by
    rw [Arena.nextScene_addScene, Arena.nextScene_addScene, alike.nextScene]
  scenes id := by
    rw [Arena.scene?_addScene, Arena.scene?_addScene, alike.nextScene]
    by_cases own : id = right.nextScene
    · rw [if_pos own, if_pos own]
      exact .some (Scene.Alike.refl scene)
    · rw [if_neg own, if_neg own]
      exact alike.scenes id

theorem addScenery
    (alike : left.Alike right) (scenery : Scenery) :
    (left.addScenery scenery).Alike (right.addScenery scenery) where
  sceneries := congrArg (Slots.insert · scenery) alike.sceneries
  nextScene := alike.nextScene
  scenes := alike.scenes

/-! ## Families -/

theorem mainOf (alike : left.Alike right) (id : SceneId) :
    left.mainOf id = right.mainOf id := by
  have related := alike.scenes id
  unfold Arena.mainOf
  generalize left.scene? id = before at related ⊢
  generalize right.scene? id = after at related ⊢
  cases related with
  | none => rfl
  | some same => simp only [Option.bind_some, same.parent?]

theorem familyOf (alike : left.Alike right) (id : SceneId) :
    left.familyOf id = right.familyOf id := by
  have related := alike.scenes (right.mainOf id)
  simp only [Arena.familyOf, alike.mainOf id]
  generalize left.scene? (right.mainOf id) = before at related ⊢
  generalize right.scene? (right.mainOf id) = after at related ⊢
  cases related with
  | none => rfl
  | some same => simp only [same.sides]

theorem relink
    (alike : left.Alike right) (link : Link)
    (sides : List (SceneIndex × SceneId)) :
    (sides.foldl
        (fun arena side => arena.modifyScene side.2 (Scene.withLink link))
        left).Alike
      (sides.foldl
        (fun arena side => arena.modifyScene side.2 (Scene.withLink link))
        right) := by
  induction sides generalizing left right with
  | nil =>
      exact alike
  | cons first rest inductionHypothesis =>
      exact inductionHypothesis
        (alike.modifyScene first.2 fun _ _ same => same.withLink link)

theorem promote
    (alike : left.Alike right) (outgoing incoming : SceneId) :
    (left.promote outgoing incoming).Alike
      (right.promote outgoing incoming) := by
  have related := alike.scenes outgoing
  unfold Arena.promote
  generalize left.scene? outgoing = before at related ⊢
  generalize right.scene? outgoing = after at related ⊢
  cases related with
  | none => exact alike
  | some same =>
      dsimp only
      rw [same.sides, same.index]
      split
      · exact (alike.relink _ _).modifyScene incoming
          fun _ _ sameScene => sameScene.withLink _
      · exact alike

theorem isUsed (alike : left.Alike right) (scenery : SceneryId) :
    left.isUsed scenery = right.isUsed scenery := by
  have carries {arena other : Arena} (alike : arena.Alike other)
      (used : arena.isUsed scenery = true) : other.isUsed scenery = true := by
    obtain ⟨⟨id, scene⟩, listed, stands⟩ := List.any_eq_true.mp used
    have found : arena.scene? id = some scene :=
      (arena.scenes.mem_entries id scene).mp listed
    have related := alike.scenes id
    rw [found] at related
    generalize otherFound : other.scene? id = after at related
    cases related with
    | some same =>
        refine List.any_eq_true.mpr
          ⟨_, (other.scenes.mem_entries id _).mpr otherFound, ?_⟩
        rw [← same.scenery]
        exact stands
  rw [Bool.eq_iff_iff]
  exact ⟨carries alike, carries alike.symm⟩

theorem erase
    (alike : left.Alike right) (ids : List SceneId) :
    Arena.Alike { left with scenes := ids.foldl Slots.erase left.scenes }
      { right with scenes := ids.foldl Slots.erase right.scenes } := by
  induction ids generalizing left right with
  | nil =>
      exact alike
  | cons first rest inductionHypothesis =>
      have erased :
          Arena.Alike { left with scenes := left.scenes.erase first }
            { right with scenes := right.scenes.erase first } := by
        refine ⟨alike.sceneries, ?_, fun id => ?_⟩
        · exact (left.scenes.nextId_erase first).trans
            (alike.nextScene.trans (right.scenes.nextId_erase first).symm)
        · rw [Arena.scene?, Slots.get?_erase, Arena.scene?, Slots.get?_erase]
          by_cases own : id = first
          · rw [if_pos own, if_pos own]
            exact .none
          · rw [if_neg own, if_neg own]
            exact alike.scenes id
      exact inductionHypothesis erased

theorem keepUsed (alike : left.Alike right) :
    Arena.Alike
      { left with
        sceneries :=
          left.sceneries.filter fun scenery _ => left.isUsed scenery }
      { right with
        sceneries :=
          right.sceneries.filter fun scenery _ => right.isUsed scenery } := by
  have sameUse :
      (fun scenery (_ : Scenery) => left.isUsed scenery) =
        fun scenery _ => right.isUsed scenery :=
    funext fun scenery => funext fun _ => alike.isUsed scenery
  refine ⟨?_, alike.nextScene, alike.scenes⟩
  simp only [sameUse, alike.sceneries]

/-- Alike arenas lose the same family, with the same nodes. -/
theorem removeFamily
    (alike : left.Alike right) (id : SceneId) (nodes : NodeTree) :
    (left.removeFamily id nodes).1.Alike (right.removeFamily id nodes).1 ∧
      (left.removeFamily id nodes).2 = (right.removeFamily id nodes).2 := by
  have roots :
      (fun id => (left.scene? id).map Scene.root) =
        fun id => (right.scene? id).map Scene.root :=
    funext (alike.map_eq Scene.Alike.root)
  have erased := alike.erase (right.familyOf id)
  have cleared := erased.keepUsed
  simp only [Arena.removeFamily, alike.familyOf id, roots]
  split
  · exact ⟨cleared, rfl⟩
  · exact ⟨cleared, rfl⟩

theorem sides
    (alike : left.Alike right) (markers : Bool) (main : SceneId)
    (scenery : SceneryId) (root : NodeId) (loaded : List LoadedScene)
    (nodes : NodeTree) :
    let leftSides := Attach.sides markers main scenery root loaded left nodes
    let rightSides :=
      Attach.sides markers main scenery root loaded right nodes
    leftSides.1 = rightSides.1 ∧ leftSides.2.1.Alike rightSides.2.1 ∧
      leftSides.2.2 = rightSides.2.2 := by
  induction loaded generalizing left right nodes with
  | nil =>
      exact ⟨rfl, alike, rfl⟩
  | cons side rest inductionHypothesis =>
      let placed :=
        Attach.scene markers scenery root (.side main) side nodes
      let sleeping := placed.1.changeProtagonist Actor.kill placed.2
      obtain ⟨sameSides, sameArena, sameNodes⟩ :=
        inductionHypothesis (alike.addScene sleeping.1) sleeping.2
      simp only [Attach.sides, alike.nextScene]
      exact ⟨congrArg _ sameSides, sameArena, sameNodes⟩

/-- Alike arenas get the same family, with the same nodes. -/
theorem family
    (alike : left.Alike right) (markers : Bool) (loaded : LoadedFamily)
    (nodes : NodeTree) :
    (Attach.family markers loaded left nodes).1.Alike
        (Attach.family markers loaded right nodes).1 ∧
      (Attach.family markers loaded left nodes).2 =
        (Attach.family markers loaded right nodes).2 := by
  have nextScenery : left.nextScenery = right.nextScenery :=
    congrArg Slots.nextId alike.sceneries
  have attached (main : Scene) (placed : NodeTree) :=
    ((alike.addScenery loaded.scenery).addScene main).sides markers
      right.nextScene right.nextScenery nodes.nextId loaded.sides placed
  simp only [Attach.family, alike.nextScene, nextScenery]
  obtain ⟨sameSides, sameArena, sameNodes⟩ := attached _ _
  refine ⟨?_, sameNodes⟩
  rw [sameSides]
  exact sameArena.modifyScene right.nextScene
    fun _ _ same => same.withLink _

end Arena.Alike

end Stagecraft
