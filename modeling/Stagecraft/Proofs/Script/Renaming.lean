import Stagecraft.Proofs.Script.Names
import Stagecraft.Proofs.Script.Simulations
import Stagecraft.Proofs.Script.Uses
import Stagecraft.Proofs.Script.Views

/-!
# Ticks do not depend on how actors call themselves

To bring all scripts of a scene into their reflexive form and then to do something is
to do it and then to bring them into that form, for every command, every turn and
every tick. An instruction does not see the programs in the slots, and none of them
changes, so both come to the same.
-/

namespace Stagecraft

/-! ## Scenes without commands -/

def Program.blank (program : Program) : Program where
  commands := List.replicate program.size .yield
  targets_le := by
    intro command member target jumps
    rw [List.eq_of_mem_replicate member] at jumps
    cases jumps

@[simp]
theorem Program.size_blank (program : Program) :
    program.blank.size = program.size :=
  List.length_replicate

def Script.blank (script : Script) : Script :=
  { script with program := script.program.blank }

namespace Script

theorem reset_blank (script : Script) :
    script.blank.reset = script.reset.blank := by
  have size : script.blank.program.size = script.program.size :=
    script.program.size_blank
  rw [reset, size]
  rfl

theorem ext_of_blank {script other : Script}
    (same : script.blank = other.blank)
    (programs : script.program = other.program) : script = other := by
  obtain ⟨program, state⟩ := script
  obtain ⟨otherProgram, otherState⟩ := other
  obtain rfl : program = otherProgram := programs
  obtain rfl : state = otherState := (Script.mk.inj same).2
  rfl

end Script

def Actor.blank (actor : Actor) : Actor :=
  { actor with life := actor.life.blank, move := actor.move.blank }

namespace Actor

theorem ext_of_blank {actor other : Actor} (same : actor.blank = other.blank)
    (programs : ∀ kind,
      (actor.script kind).program = (other.script kind).program) :
    actor = other := by
  have life : actor.life = other.life :=
    Script.ext_of_blank (congrArg Actor.life same) (programs .life)
  have move : actor.move = other.move :=
    Script.ext_of_blank (congrArg Actor.move same) (programs .move)
  have written (actor : Actor) :
      actor = { actor.blank with life := actor.life, move := actor.move } :=
    rfl
  rw [written actor, written other, same, life, move]

variable (actor : Actor) (tree : NodeTree)

theorem kill_blank :
    actor.blank.kill tree = ((actor.kill tree).1.blank, (actor.kill tree).2) := by
  have same : actor.blank.alive = actor.alive := rfl
  unfold kill
  rw [same]
  split <;> rfl

theorem revive_blank :
    actor.blank.revive tree =
      ((actor.revive tree).1.blank, (actor.revive tree).2) := by
  have same : actor.blank.alive = actor.alive := rfl
  have revived : actor.blank.revived = actor.revived.blank := by
    simp only [Actor.revived, blank, Script.reset_blank]
  unfold revive
  rw [same, revived]
  split <;> rfl

end Actor

/-- The view of a scene with the commands of its scripts forgotten. -/
def View.wordless : View where
  actor := Actor.blank
  zone := fun zone => zone
  point := fun point => point
  nodes := fun nodes => nodes
  journal := fun journal => journal
  alive := fun _ => rfl
  behaviour := fun _ => rfl
  animation := fun _ => rfl
  behaves := fun _ _ => rfl
  animates := fun _ _ => rfl
  kill := Actor.kill_blank
  revive := Actor.revive_blank
  moveTo := fun _ _ _ => rfl
  noticed := fun _ => rfl
  taken := fun _ => rfl
  place := fun _ => rfl
  push := fun _ _ _ => rfl

namespace Play

def blank (play : Play) : Play := View.wordless.of play

/-- A scene is given by what it is without commands and by its programs. -/
theorem ext_of_blank {play other : Play} (same : play.blank = other.blank)
    (programs : ∀ position kind,
      play.program? position kind = other.program? position kind) :
    play = other := by
  have actors : play.actors = other.actors := by
    apply List.ext_getElem?
    intro position
    have blank := congrArg (fun play : Play => play.actors[position]?) same
    have written := programs position
    simp only [Play.blank, View.getElem?_actors] at blank
    simp only [program?, script?] at written
    cases known : play.actors[position]? with
    | none =>
        rw [known, Option.map_none] at blank
        exact (Option.map_eq_none_iff.mp blank.symm).symm
    | some actor =>
        rw [known, Option.map_some] at blank
        obtain ⟨actorToo, knownToo, sameToo⟩ :=
          Option.map_eq_some_iff.mp blank.symm
        rw [knownToo]
        simp only [known, knownToo, Option.map_some] at written
        exact congrArg some
          (Actor.ext_of_blank sameToo.symm fun kind =>
            Option.some.inj (written kind))
  have rest (play : Play) :
      play = { play.blank with
        actors := play.actors
        zones := play.zones
        points := play.points } :=
    rfl
  have zones : play.zones = other.zones := by
    simpa [blank, View.of, View.wordless] using congrArg Play.zones same
  have points : play.points = other.points := by
    simpa [blank, View.of, View.wordless] using congrArg Play.points same
  rw [rest play, rest other, same, actors, zones, points]

end Play

/-! ## Reflexive forms -/

/-- Changing the item at a position and then all items, if the changes go together at
that position. -/
theorem mapIdx_modify_comm {α β : Type} {image : Nat → α → β}
    {change : α → α} {changed : β → β} {position : Nat}
    (together : ∀ item,
      image position (change item) = changed (image position item))
    (items : List α) :
    (items.modify position change).mapIdx image =
      (items.mapIdx image).modify position changed := by
  apply List.ext_getElem?
  intro other
  simp only [List.getElem?_modify, List.getElem?_mapIdx]
  cases items[other]? with
  | none => rfl
  | some item =>
      by_cases same : position = other
      · subst same
        simp only [if_true]
        exact congrArg some (together item)
      · simp only [if_neg same]
        rfl

/-- An actor at a position that never goes by its number in its scripts. -/
def Actor.reflexive (position : Nat) (actor : Actor) : Actor :=
  { actor with
    life := actor.life.reflexive position
    move := actor.move.reflexive position }

theorem Actor.script_reflexive (position : Nat) (actor : Actor)
    (kind : ScriptKind) :
    (actor.reflexive position).script kind =
      (actor.script kind).reflexive position := by
  cases kind <;> rfl

theorem Actor.blank_reflexive (position : Nat) (actor : Actor) :
    (actor.reflexive position).blank = actor.blank := by
  have script (script : Script) :
      (script.reflexive position).blank = script.blank := by
    have size : (script.program.reflexive position).size =
        script.program.size := script.program.size_reflexive position
    simp only [Script.blank, Script.reflexive, Program.blank, size]
  simp only [blank, reflexive, script]

theorem Actor.map_blank_reflexive (actors : List Actor) :
    (actors.mapIdx Actor.reflexive).map Actor.blank =
      actors.map Actor.blank := by
  apply List.ext_getElem?
  intro position
  rw [List.getElem?_map, List.getElem?_map, List.getElem?_mapIdx,
    Option.map_map]
  congr 1
  funext actor
  exact actor.blank_reflexive position

namespace Play

/-- A scene in which no actor goes by its number in its own scripts. -/
def reflexive (play : Play) : Play :=
  { play with actors := play.actors.mapIdx Actor.reflexive }

section Parts

variable (play : Play)

theorem blank_reflexive : play.reflexive.blank = play.blank := by
  have actors := Actor.map_blank_reflexive play.actors
  simp only [blank, View.of, View.wordless, reflexive, actors]

theorem script?_reflexive (position : Nat) (kind : ScriptKind) :
    play.reflexive.script? position kind =
      (play.script? position kind).map (Script.reflexive position) := by
  simp only [script?, reflexive, List.getElem?_mapIdx, Option.map_map,
    Function.comp_def, Actor.script_reflexive]

theorem program?_reflexive (position : Nat) (kind : ScriptKind) :
    play.reflexive.program? position kind =
      (play.program? position kind).map (Program.reflexive position) := by
  simp only [program?, script?_reflexive, Option.map_map]
  rfl

theorem isAlive_reflexive : play.reflexive.isAlive = play.isAlive := by
  rw [← View.wordless.isAlive_of play.reflexive,
    ← View.wordless.isAlive_of play]
  exact congrArg isAlive play.blank_reflexive

theorem putScript_reflexive (position : Nat) (kind : ScriptKind)
    (script : Script) :
    play.reflexive.putScript position kind (script.reflexive position) =
      (play.putScript position kind script).reflexive := by
  have slot (actor : Actor) :
      (actor.modifyScript kind fun _ => script).reflexive position =
        (actor.reflexive position).modifyScript kind fun _ =>
          script.reflexive position := by
    cases kind <;> rfl
  have actors :
      (play.actors.modify position fun actor =>
          actor.modifyScript kind fun _ => script).mapIdx Actor.reflexive =
        (play.actors.mapIdx Actor.reflexive).modify position fun actor =>
          actor.modifyScript kind fun _ => script.reflexive position :=
    mapIdx_modify_comm slot play.actors
  exact congrArg (fun actors => { play with actors := actors }) actors.symm

end Parts

/-! ## Turns and ticks -/

/-- An instruction does the same in the reflexive form of a scene. -/
theorem reflexive_instruct (runner : Nat) (kind : ScriptKind)
    (command : Command) (script : Script) (play : Play) :
    play.reflexive.instruct runner kind (command.reflexive runner)
        (script.reflexive runner) =
      ((play.instruct runner kind command script).1,
        (play.instruct runner kind command script).2.1.reflexive runner,
        (play.instruct runner kind command script).2.2.reflexive) := by
  have keeps (play : Play) (position : Nat) (kindToo : ScriptKind) :
      (play.instruct runner kind command script).2.2.program? position kindToo =
        play.program? position kindToo :=
    (retains_instructs (play.instructs runner kind command script)).program?
      position kindToo
  -- Without the commands in the slots the two scenes are the same one.
  have blind :=
    View.wordless.instruct_of play.reflexive runner kind command script
  have blindToo := View.wordless.instruct_of play runner kind command script
  have same : View.wordless.of play.reflexive = View.wordless.of play :=
    play.blank_reflexive
  rw [same, blindToo, Prod.mk.injEq, Prod.mk.injEq] at blind
  obtain ⟨goes, script_, after⟩ := blind
  rw [instruct_reflexive, ← goes, ← script_]
  refine congrArg (fun after => (_, _, after)) (ext_of_blank ?_ ?_)
  · exact after.symm.trans (blank_reflexive _).symm
  · intro position kindToo
    rw [keeps, program?_reflexive, program?_reflexive, keeps]

theorem ready?_reflexive (play : Play) (turn : Nat × ScriptKind) :
    play.reflexive.ready? turn =
      (play.ready? turn).map (Script.reflexive turn.1) := by
  simp only [ready?, script?_reflexive, isAlive_reflexive, Option.filter_map]
  rfl

/-- A scene plays in step with its reflexive form. -/
theorem isSimulation_reflexive :
    IsSimulation (fun play other => other = play.reflexive)
      (fun runner script other => other = script.reflexive runner) where
  count := by
    rintro play _ rfl
    exact List.length_mapIdx
  ready := by
    rintro play _ rfl turn
    rw [ready?_reflexive]
    cases play.ready? turn with
    | none => exact .none
    | some script => exact .some rfl
  vacant _ := rfl
  put := by
    rintro play _ runner script _ rfl rfl kind
    exact play.putScript_reflexive runner kind script
  tires := by
    rintro play _ runner script _ rfl rfl kind budget
    rfl
  halts := by
    rintro runner script _ rfl past
    rw [Script.current?_reflexive, past]
    exact ⟨rfl, rfl⟩
  instructs := by
    rintro play _ runner script _ command rfl rfl current kind
    refine ⟨command.reflexive runner, ?_, ?_⟩
    · rw [Script.current?_reflexive, current, Option.map_some]
    · rw [reflexive_instruct]
      exact ⟨rfl, rfl, rfl⟩

/-- A tick of a scene does not depend on how its actors call themselves. -/
theorem reflexive_tick (budget : Nat) (play : Play) :
    play.reflexive.tick budget = (play.tick budget).reflexive :=
  isSimulation_reflexive.tick rfl budget

end Play

end Stagecraft
