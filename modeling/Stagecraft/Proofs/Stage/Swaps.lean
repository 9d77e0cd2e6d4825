import Stagecraft.Proofs.Stage.Reachable

/-!
# Swaps

The list of side scenes is only rearranged after a promotion, yet it always has
the numbers that the map gives. So the map alone tells which transitions are
swaps, and the links of a family follow from which member leads it, not from the
swaps that led there.
-/

namespace Stagecraft

/-! ## Links by the leader -/

namespace Cast.Fills

variable {cast : Cast} {map : SceneMap} {arena : Arena}

/-- A number is that of a side scene if another member has it. -/
theorem mem_sideScenes
    (fills : cast.Fills map arena) {main : Scene}
    (found : arena.scene? cast.main = some main) (index : SceneIndex) :
    index ∈ map.sideScenes main.index ↔
      ∃ id, (index, id) ∈ cast.roster ∧ id ≠ cast.main := by
  rw [← fills.sides_numbers found, List.mem_map, fills.sides_main found]
  constructor
  · rintro ⟨⟨number, id⟩, listed, rfl⟩
    exact ⟨id, Roster.mem_without.mp listed⟩
  · rintro ⟨id, listed⟩
    exact ⟨(index, id), Roster.mem_without.mpr listed, rfl⟩

/-- Two arenas with the same company under the same leader have the same links. -/
theorem link_eq
    (fills : cast.Fills map arena) {other : Arena}
    (otherFills : cast.Fills map other) (id : SceneId) :
    (arena.scene? id).map Scene.link = (other.scene? id).map Scene.link := by
  have sameIds : (arena.scene? id).isSome ↔ (other.scene? id).isSome :=
    (fills.scene?_isSome_iff id).trans (otherFills.scene?_isSome_iff id).symm
  cases found : arena.scene? id with
  | none =>
      have missing : other.scene? id = none := by
        rw [← Option.not_isSome_iff_eq_none, ← sameIds, found]
        exact Bool.false_ne_true
      rw [missing]
  | some scene =>
      have present : (other.scene? id).isSome :=
        sameIds.mp (Option.isSome_of_mem found)
      obtain ⟨twin, twinFound⟩ := Option.isSome_iff_exists.mp present
      have included := fills.includes _ _ found
      have twinIncluded := otherFills.includes _ _ twinFound
      have sameMember :=
        Roster.eq_of_id fills.distinct included.listed twinIncluded.listed rfl
      have sameIndex : scene.index = twin.index := (Prod.mk.inj sameMember).1
      have sameKind : scene.kind = twin.kind := by
        have known := included.kind
        rw [sameIndex, twinIncluded.kind, Option.some.injEq] at known
        exact known.symm
      rw [twinFound, Option.map_some, Option.map_some, included.link,
        twinIncluded.link, sameKind]

/-- A promotion and the way back leave every scene as it was. -/
theorem scene?_promote_back
    (fills : cast.Fills map arena) {index : SceneIndex} {other : SceneId}
    (listed : (index, other) ∈ cast.roster) (apart : other ≠ cast.main)
    (id : SceneId) :
    ((arena.promote cast.main other).promote other cast.main).scene? id =
      arena.scene? id := by
  obtain ⟨mainIndex, mainListed⟩ := fills.mainListed
  have promoted := fills.promote listed apart
  have back := promoted.scene?_promote mainListed apart.symm id
  have there := fills.scene?_promote listed apart id
  have returned :
      ((arena.promote cast.main other).promote other cast.main).scene? id =
        ((arena.promote cast.main other).scene? id).map fun scene =>
          scene.withLink (cast.link scene.kind id) :=
    back
  rw [returned, there]
  cases found : arena.scene? id with
  | none => rfl
  | some scene =>
      have linked := (fills.includes _ _ found).link
      simp only [Option.map_some, Scene.withLink, Option.some.injEq]
      rw [← linked]

end Cast.Fills

/-! ## The way of a swap -/

namespace Stage

/-- Whether a stage differs from an earlier one at most by calls to the host, as
far as the journal goes. -/
def OnlyCalls (before after : Stage) : Prop :=
  ∃ calls : List HostCall,
    after.journal.toList = before.journal.toList ++ calls.map Note.call

theorem onlyCalls_of_journal
    {before after : Stage} (same : after.journal = before.journal) :
    OnlyCalls before after :=
  ⟨[], by simp [same]⟩

theorem onlyCalls_calls (stage : Stage) (calls : List HostCall) :
    OnlyCalls stage (calls.foldl call stage) := by
  refine ⟨calls, ?_⟩
  induction calls generalizing stage with
  | nil =>
      simp
  | cons first rest inductionHypothesis =>
      rw [List.foldl_cons, inductionHypothesis]
      simp [call]

theorem changeScene_journal (stage : Stage) (id : SceneId)
    (change : Scene → NodeTree → Scene × NodeTree) :
    (stage.changeScene id change).journal = stage.journal := by
  unfold changeScene
  split
  · rfl
  · rfl

theorem leave_journal (stage : Stage) (id : SceneId) :
    (stage.leave id).journal = stage.journal :=
  changeScene_journal stage id _

theorem enter_journal (stage : Stage) (id : SceneId) :
    (stage.enter id).journal = stage.journal :=
  changeScene_journal stage id _

theorem promote_journal (stage : Stage) (outgoing incoming : SceneId) :
    (stage.promote outgoing incoming).journal = stage.journal :=
  rfl

theorem onlyCalls_resumeActiveMusic (stage : Stage) :
    OnlyCalls stage stage.resumeActiveMusic := by
  unfold resumeActiveMusic
  split
  · exact onlyCalls_calls stage _
  · exact onlyCalls_of_journal rfl

/-- A swap fetches nothing: it only calls the host. -/
theorem onlyCalls_swap (stage : Stage) (outgoing incoming : SceneId) :
    OnlyCalls stage (stage.swap outgoing incoming) := by
  obtain ⟨calls, noted⟩ :=
    onlyCalls_resumeActiveMusic
      (((stage.leave outgoing).promote outgoing incoming).enter incoming)
  rw [enter_journal, promote_journal, leave_journal] at noted
  refine ⟨calls, ?_⟩
  rw [swap]
  exact noted

variable {map : SceneMap} {cast : Cast} {stage : Stage}

theorem sideTarget?_eq_some_iff
    (active : stage.active = some cast.main)
    (fills : cast.Fills stage.map stage.arena) (target : SceneIndex)
    (incoming : SceneId) :
    stage.sideTarget? target = some (cast.main, incoming) ↔
      (target, incoming) ∈ cast.roster ∧ incoming ≠ cast.main := by
  obtain ⟨main, found, _⟩ := fills.mainScene
  rw [← fills.side?_main found]
  simp only [sideTarget?, active, found, Option.bind_eq_bind,
    Option.bind_some, Option.pure_def, Option.bind_eq_some_iff,
    Option.some.injEq, Prod.mk.injEq, true_and, exists_eq_right]

theorem activeIndex?_eq
    (active : stage.active = some cast.main) {main : Scene}
    (found : stage.arena.scene? cast.main = some main) :
    stage.activeIndex? = some main.index := by
  simp [activeIndex?, activeScene?, active, found]

/-- Setting out for a member of the family is a swap, forced or not. -/
theorem depart_member
    (idle : stage.flight = none) (active : stage.active = some cast.main)
    (fills : cast.Fills stage.map stage.arena) {target : SceneIndex}
    {incoming : SceneId} (listed : (target, incoming) ∈ cast.roster)
    (apart : incoming ≠ cast.main) (game : GameBank) (force : Bool) :
    stage.depart game target force =
      .done (.ok (.swapped target)) (stage.swap cast.main incoming) := by
  have side :=
    (sideTarget?_eq_some_iff active fills target incoming).mpr
      ⟨listed, apart⟩
  have departs := stage.departs game target force
  generalize stage.depart game target force = course at departs ⊢
  cases departs with
  | ignored busy =>
      obtain ⟨main, found, included⟩ := fills.mainScene
      rcases busy with loading | ⟨_, current⟩
      · simp [isLoading, idle] at loading
      · rw [activeIndex?_eq active found, Option.some.injEq] at current
        subst current
        have same :=
          Roster.eq_of_number fills.ascending listed included.listed rfl
        exact absurd (Prod.mk.inj same).2 apart
  | unknown _ wanted missing =>
      obtain ⟨scene, found, rfl⟩ := fills.sceneOf listed
      rw [(fills.includes _ _ found).kind] at missing
      simp at missing
  | swapped _ wanted known sideAgain =>
      rw [side, Option.some.injEq, Prod.mk.injEq] at sideAgain
      obtain ⟨rfl, rfl⟩ := sideAgain
      rfl
  | away _ wanted known alone =>
      rw [side] at alone
      simp at alone

/-- The result of a transition for a member of the family. -/
theorem goto_member
    (idle : stage.flight = none) (active : stage.active = some cast.main)
    (fills : cast.Fills stage.map stage.arena) {target : SceneIndex}
    {incoming : SceneId} (listed : (target, incoming) ∈ cast.roster)
    (apart : incoming ≠ cast.main) (source : Source) (game : GameBank)
    (force : Bool) :
    stage.goto source game target force =
      (.ok (.swapped target), stage.swap cast.main incoming) := by
  unfold goto
  rw [depart_member idle active fills listed apart game force]

/-- Only a member of the family is swapped in. -/
theorem member_of_goto_swapped
    (houses : stage.Houses (some cast)) {target : SceneIndex}
    {source : Source} {game : GameBank} {force : Bool}
    (swapped :
      (stage.goto source game target force).1 = .ok (.swapped target)) :
    ∃ incoming, (target, incoming) ∈ cast.roster ∧ incoming ≠ cast.main := by
  have departs := stage.departs game target force
  unfold goto at swapped
  generalize stage.depart game target force = course at departs swapped
  cases departs with
  | ignored busy =>
      simp at swapped
  | unknown idle wanted missing =>
      simp at swapped
  | @swapped idle wanted kind known outgoing incoming side =>
      obtain ⟨leader, same, _, listed, apart⟩ :=
        houses.member_of_sideTarget side
      rw [Option.some.injEq] at same
      subst same
      exact ⟨incoming, listed, apart⟩
  | away idle wanted known alone =>
      dsimp only [conclude] at swapped
      split at swapped
      · simp at swapped
      · simp at swapped

/-- After a swap the scene that was swapped in is the active one. -/
theorem activeIndex?_swap
    (houses : stage.Houses (some cast)) {target : SceneIndex}
    {incoming : SceneId} (listed : (target, incoming) ∈ cast.roster)
    (apart : incoming ≠ cast.main) :
    (stage.swap cast.main incoming).activeIndex? = some target := by
  have swapped := houses_swap houses listed apart
  generalize stage.swap cast.main incoming = after at swapped
  cases swapped with
  | family active fills asleep =>
      obtain ⟨scene, found, index⟩ := fills.sceneOf listed
      rw [activeIndex?_eq active found, index]

end Stage

/-! ## Swaps of reachable stages -/

namespace Theatre

/-- Whether acts leave the family on the stage together: they may swap, tick and
begin anything, but no load lands and nothing is unloaded. -/
def KeepsFamily (theatre : Theatre) (acts : List Act) : Prop :=
  ∀ answer ∈ theatre.answers acts, answer.keepsFamily = true

/-- Acts that keep a family together and end with the same active scene end with
the same cast. -/
theorem cast_eq_of_active
    {map : SceneMap} {theatre : Theatre} {cast : Cast}
    (sound : theatre.stage.Sound map (some cast)) {first second : List Act}
    (firstKeeps : theatre.KeepsFamily first)
    (secondKeeps : theatre.KeepsFamily second)
    (sameActive : (theatre.run first).stage.active =
      (theatre.run second).stage.active) :
    ∃ leader, (theatre.run first).stage.Sound map (some leader) ∧
      (theatre.run second).stage.Sound map (some leader) := by
  obtain ⟨firstCast?, firstSound, firstTogether⟩ := sound_run sound first
  obtain ⟨secondCast?, secondSound, secondTogether⟩ := sound_run sound second
  have firstSame := firstTogether firstKeeps
  have secondSame := secondTogether secondKeeps
  cases firstCast? with
  | none =>
      simp [SameCompany] at firstSame
  | some firstCast =>
      cases secondCast? with
      | none =>
          simp [SameCompany] at secondSame
      | some secondCast =>
          -- Both runs keep the company, and the active scene is its leader.
          have leaders : some firstCast.main = some secondCast.main := by
            rw [← firstSound.houses.leads, ← secondSound.houses.leads]
            exact sameActive
          have same : firstCast = secondCast :=
            (firstSame.symm.trans secondSame).eq_of_main
              (Option.some.inj leaders)
          exact ⟨firstCast, firstSound, same ▸ secondSound⟩

/-- A transition to a member of the family swaps it in, whatever the source. -/
theorem perform_go_member
    {theatre : Theatre} {cast : Cast} (idle : theatre.stage.flight = none)
    (houses : theatre.stage.Houses (some cast)) {index : SceneIndex}
    {incoming : SceneId} (listed : (index, incoming) ∈ cast.roster)
    (apart : incoming ≠ cast.main) (source : Source) (force : Bool) :
    theatre.perform (.go source (.goto index force)) =
      (.settled (.ok (.swapped index)),
        { theatre with stage := theatre.stage.swap cast.main incoming }) := by
  have went :=
    Stage.goto_member idle houses.leads houses.fills listed apart
      (theatre.sourceNow source) theatre.game force
  simp only [perform, Order.carryOut, went]

/-- In every idle state that a theatre can reach with an active scene, the list of
its side scenes has the numbers that the map gives. A transition is a swap just if
its target is one of them; it fetches nothing then and ends with the target
active. Acts that keep the family together and end with the same active scene end
with the same links, and a promotion is undone by the one back. -/
theorem swaps_agree_with_map (map : SceneMap) (settings : StageSettings)
    (host : Host) (game : GameBank) (acts : List Act) :
    let theatre := (opening map settings host game).run acts
    theatre.stage.isLoading = false →
      ∀ active main, theatre.stage.active = some active →
        theatre.stage.arena.scene? active = some main →
          main.sides.map Prod.fst = map.sideScenes main.index ∧
          (∀ source index force,
            let performed :=
              theatre.perform (.go source (.goto index force))
            (performed.1 = .settled (.ok (.swapped index)) ↔
              index ∈ map.sideScenes main.index) ∧
            (index ∈ map.sideScenes main.index →
              performed.2.stage.activeIndex? = some index ∧
                theatre.stage.OnlyCalls performed.2.stage)) ∧
          (∀ first second,
            theatre.KeepsFamily first → theatre.KeepsFamily second →
              (theatre.run first).stage.active =
                  (theatre.run second).stage.active →
                ∀ id,
                  ((theatre.run first).stage.arena.scene? id).map Scene.link =
                    ((theatre.run second).stage.arena.scene? id).map
                      Scene.link) ∧
          (∀ side ∈ main.sides, ∀ id,
            ((theatre.stage.arena.promote active side.2).promote side.2
              active).scene? id = theatre.stage.arena.scene? id) := by
  intro theatre idle active main isActive found
  obtain ⟨cast?, sound⟩ := sound_reachable map settings host game acts
  have sound : theatre.stage.Sound map cast? := sound
  have noFlight : theatre.stage.flight = none :=
    (Stage.isLoading_eq_false_iff theatre.stage).mp idle
  have houses := sound.houses
  cases houses with
  | nothing inactive empty =>
      rw [inactive] at isActive
      simp at isActive
  | @family cast leads fills asleep =>
      rw [leads, Option.some.injEq] at isActive
      subst isActive
      have sameMap := sound.map
      refine ⟨?sides, fun source index force => ⟨?swapped, ?ends⟩, ?paths,
        ?back⟩
      case sides =>
        rw [fills.sides_numbers found, sameMap]
      case swapped =>
        rw [← sameMap, fills.mem_sideScenes found]
        constructor
        · intro answered
          apply Stage.member_of_goto_swapped sound.houses
          exact Answer.settled.inj answered
        · rintro ⟨incoming, listed, apart⟩
          rw [perform_go_member noFlight sound.houses listed apart]
      case ends =>
        rw [← sameMap, fills.mem_sideScenes found]
        rintro ⟨incoming, listed, apart⟩
        rw [perform_go_member noFlight sound.houses listed apart]
        dsimp only
        exact ⟨Stage.activeIndex?_swap sound.houses listed apart,
          Stage.onlyCalls_swap theatre.stage cast.main incoming⟩
      case paths =>
        intro first second firstKeeps secondKeeps sameActive id
        obtain ⟨leader, firstSound, secondSound⟩ :=
          cast_eq_of_active sound firstKeeps secondKeeps sameActive
        have firstFills := firstSound.houses.fills
        have secondFills := secondSound.houses.fills
        rw [firstSound.map] at firstFills
        rw [secondSound.map] at secondFills
        exact firstFills.link_eq secondFills id
      case back =>
        intro side listed id
        rw [fills.sides_main found, Roster.mem_without] at listed
        exact fills.scene?_promote_back listed.1 listed.2 id

/-- The pair of scenes changes places and back. -/
theorem swaps_agree_with_map_pair :
    pair.stage.isLoading = false ∧ pair.stage.active = some 0 ∧
      (∃ main, pair.stage.arena.scene? 0 = some main ∧
        main.sides.map Prod.fst = pairMap.sideScenes main.index) ∧
      (pair.perform (.go bareSource (.goto 1 true))).1 =
        .settled (.ok (.swapped 1)) ∧
      ∀ id,
        (pair.stage.arena.scene? id).map Scene.link =
          ((pair.run
            [.go bareSource (.goto 1 true),
              .go bareSource (.goto 0 false)]).stage.arena.scene? id).map
                Scene.link := by
  have idle : pair.stage.isLoading = false := by decide
  have active : pair.stage.active = some 0 := by decide
  have found : pair.stage.arena.scene? 0 = some _ := rfl
  obtain ⟨sides, swaps, paths, _⟩ :=
    swaps_agree_with_map pairMap ⟨"", false, 0⟩ Host.quiet ⟨#[], []⟩
      [.begin bareSource (.goto 0 false)] idle 0 _ active found
  have isSide : 1 ∈ pairMap.sideScenes 0 := by decide
  have stays : pair.KeepsFamily [] := fun _ absent => by simp [answers] at absent
  have returns :
      pair.KeepsFamily
        [.go bareSource (.goto 1 true), .go bareSource (.goto 0 false)] := by
    unfold KeepsFamily
    decide
  exact ⟨idle, active, ⟨_, found, sides⟩,
    (swaps bareSource 1 true).1.mpr isSide, paths [] _ stays returns rfl⟩

end Theatre

end Stagecraft
