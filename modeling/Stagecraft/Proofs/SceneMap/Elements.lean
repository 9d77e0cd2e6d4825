import Mathlib.Data.List.Basic
import Stagecraft.SceneMap.Reader

/-!
# Elements of a scene map

What the elements of a scene map declare, and what is wrong with those that
declare nothing: each kind of element requires its attributes in a fixed order,
and the first one that is missing or does not fit is reported.
-/

namespace Stagecraft

namespace SceneMap

/-! ## Attributes -/

/-- The value of an attribute without the white space around it. An attribute
with nothing but white space is not given. -/
def given? (element : Xml.Element) (name : String) : Option String :=
  ((element.attribute? name).map Text.trim).filter fun value => !value.isEmpty

/-- Whether an attribute is given and spells a value. -/
def Spells {α : Type} (read : List Char → Option α) (element : Xml.Element)
    (name : String) (value : α) : Prop :=
  ∃ spelling, given? element name = some spelling ∧
    read spelling.toList = some value

/-- What the value of an attribute must be. -/
inductive AttributeForm where
  | text
  | kind
  | word16
  | word32
  | word64
  | single
  | color
deriving DecidableEq, Repr

namespace AttributeForm

def allows (form : AttributeForm) (value : String) : Bool :=
  match form with
  | .text => true
  | .kind => value == "island" || value == "iso"
  | .word16 => (readWord16 value.toList).isSome
  | .word32 => (readWord32 value.toList).isSome
  | .word64 => (readWord64 value.toList).isSome
  | .single => (Text.readSingle value.toList).isSome
  | .color => (readColor value.toList).isSome

/-- What is wrong with a value that is not of a form. -/
def defect (form : AttributeForm) (name value : String) : SceneMapDefect :=
  match form with
  | .kind => .unknownKind value
  | .color => .badColor name value
  | _ => .badValue name value

end AttributeForm

/-- An attribute that an element must have. -/
structure Requirement where
  name : String
  form : AttributeForm
deriving DecidableEq, Repr

/-- What is wrong with the attribute of an element, if anything is. -/
def Requirement.flaw? (element : Xml.Element) (requirement : Requirement) :
    Option SceneMapDefect :=
  match given? element requirement.name with
  | none => some (.missingAttribute requirement.name element.name)
  | some value =>
      if requirement.form.allows value then
        none
      else
        some (requirement.form.defect requirement.name value)

/-! ## Elements -/

def kindRequirements (element : Xml.Element) : List Requirement :=
  if given? element "kind" = some "island" then
    [⟨"island", .text⟩, ⟨"section", .word64⟩, ⟨"variant", .word32⟩]
  else if given? element "kind" = some "iso" then
    [⟨"isoIndex", .word32⟩]
  else
    []

/-- The attributes that an element must have, in the order in which they are
looked at; `none` if there is no such element in a scene map. -/
def requirements? (element : Xml.Element) : Option (List Requirement) :=
  if element.name = "Scene" then
    some (⟨"index", .word32⟩ :: ⟨"kind", .kind⟩ :: kindRequirements element)
  else if element.name = "Island" then
    some [⟨"name", .text⟩, ⟨"skyColor", .color⟩, ⟨"fogDensity", .single⟩]
  else if element.name = "IslandOverride" then
    some [⟨"gameVar", .word16⟩, ⟨"from", .text⟩, ⟨"to", .text⟩]
  else
    none

/-- What is wrong with an element on its own: there is no such element, or an
attribute is missing or does not fit, the first one being reported. -/
def flaw? (element : Xml.Element) : Option SceneMapDefect :=
  match requirements? element with
  | none => some (.unknownElement element.name)
  | some requirements => requirements.findSome? (Requirement.flaw? element)

/-- What an element says. -/
inductive Declaration where
  | scene (index : SceneIndex) (kind : SceneKind)
  | island (name : String) (environment : Environment)
  | rule (rule : IslandOverride)
deriving DecidableEq

/-- Whether an element declares something: it has a known name, and all its
attributes are given and spell the parts of what it declares. -/
inductive Declares (element : Xml.Element) : Declaration → Prop
  | islandScene {index : SceneIndex} {island : String} {place : UInt64}
      {variant : UInt32} (named : element.name = "Scene")
      (spellsIndex : Spells readWord32 element "index" index)
      (kind : given? element "kind" = some "island")
      (spellsIsland : given? element "island" = some island)
      (spellsPlace : Spells readWord64 element "section" place)
      (spellsVariant : Spells readWord32 element "variant" variant) :
      Declares element (.scene index (.island ⟨island, place, variant⟩))
  | isometricScene {index : SceneIndex} {isometric : UInt32}
      (named : element.name = "Scene")
      (spellsIndex : Spells readWord32 element "index" index)
      (kind : given? element "kind" = some "iso")
      (spellsIsometric : Spells readWord32 element "isoIndex" isometric) :
      Declares element (.scene index (.isometric isometric))
  | island {name : String} {sky : Color} {fog : Float32}
      (named : element.name = "Island")
      (spellsName : given? element "name" = some name)
      (spellsSky : Spells readColor element "skyColor" sky)
      (spellsFog : Spells Text.readSingle element "fogDensity" fog) :
      Declares element (.island name ⟨sky, fog⟩)
  | rule {trigger : UInt16} {source target : String}
      (named : element.name = "IslandOverride")
      (spellsTrigger : Spells readWord16 element "gameVar" trigger)
      (spellsSource : given? element "from" = some source)
      (spellsTarget : given? element "to" = some target) :
      Declares element (.rule ⟨trigger, source, target⟩)

/-! ## Reading attributes -/

section Attributes

variable {element : Xml.Element} {name : String}

theorem textOf_eq (element : Xml.Element) (name : String) :
    textOf element name =
      match given? element name with
      | some value => .ok value
      | none => .error (.missingAttribute name element.name) := by
  unfold textOf given?
  cases element.attribute? name with
  | none => rfl
  | some raw =>
      simp only [Option.map_some, Option.getD_some, Option.filter_some]
      cases (Text.trim raw).isEmpty <;> rfl

theorem textOf_of_given {value : String}
    (given : given? element name = some value) :
    textOf element name = .ok value := by
  rw [textOf_eq, given]

theorem valueOf_of_spells {α : Type} {read : List Char → Option α} {value : α}
    (spells : Spells read element name value) :
    valueOf read element name = .ok value := by
  obtain ⟨spelling, given, reads⟩ := spells
  simp only [valueOf, textOf_of_given given, bind, Except.bind, reads]

theorem colorOf_of_spells {color : Color}
    (spells : Spells readColor element name color) :
    colorOf element name = .ok color := by
  obtain ⟨spelling, given, reads⟩ := spells
  simp only [colorOf, textOf_of_given given, bind, Except.bind, reads]

/-- Whether a result follows requirements: either they are all met and the value
is as described, or the first one that is not met is reported. -/
def Follows {α : Type} (element : Xml.Element)
    (requirements : List Requirement) (described : α → Prop)
    (result : Except SceneMapDefect α) : Prop :=
  (∃ value, result = .ok value ∧ described value ∧
    requirements.findSome? (Requirement.flaw? element) = none) ∨
  ∃ defect, result = .error defect ∧
    requirements.findSome? (Requirement.flaw? element) = some defect

theorem Follows.pure {α : Type} {described : α → Prop} {value : α}
    (holds : described value) : Follows element [] described (.ok value) :=
  .inl ⟨value, rfl, holds, rfl⟩

theorem Follows.met {α : Type} {requirement : Requirement}
    {others : List Requirement} {described : α → Prop}
    {result : Except SceneMapDefect α}
    (met : requirement.flaw? element = none)
    (follows : Follows element others described result) :
    Follows element (requirement :: others) described result := by
  unfold Follows
  rw [List.findSome?_cons, met]
  exact follows

theorem Follows.flawed {α : Type} {requirement : Requirement}
    {defect : SceneMapDefect} (flawed : requirement.flaw? element = some defect)
    (others : List Requirement) (described : α → Prop) :
    Follows element (requirement :: others) described (.error defect) := by
  refine .inr ⟨defect, rfl, ?_⟩
  rw [List.findSome?_cons, flawed]

theorem Follows.bind {α β : Type} {requirement : Requirement}
    {others : List Requirement} {described : α → Prop} {further : β → Prop}
    {result : Except SceneMapDefect α} {next : α → Except SceneMapDefect β}
    (first : Follows element [requirement] described result)
    (continues : ∀ value, described value →
      Follows element others further (next value)) :
    Follows element (requirement :: others) further (result >>= next) := by
  rcases first with ⟨value, rfl, holds, met⟩ | ⟨defect, rfl, flawed⟩
  · have own : requirement.flaw? element = none := by
      simpa using met
    exact (continues value holds).met own
  · have own : requirement.flaw? element = some defect := by
      cases own : requirement.flaw? element with
      | none => simp [own] at flawed
      | some other => simpa [own] using flawed
    exact .flawed own others further

theorem textOf_follows (element : Xml.Element) (name : String) :
    Follows element [⟨name, .text⟩]
      (fun value => given? element name = some value)
      (textOf element name) := by
  rw [textOf_eq]
  cases given : given? element name with
  | none => exact .inr ⟨_, rfl, by simp [Requirement.flaw?, given]⟩
  | some value =>
      exact .inl ⟨value, rfl, rfl,
        by simp [Requirement.flaw?, given, AttributeForm.allows]⟩

theorem valueOf_follows {α : Type} {read : List Char → Option α}
    {form : AttributeForm}
    (allows : ∀ value, form.allows value = (read value.toList).isSome)
    (defect : ∀ name value, form.defect name value = .badValue name value)
    (element : Xml.Element) (name : String) :
    Follows element [⟨name, form⟩] (Spells read element name)
      (valueOf read element name) := by
  rw [valueOf, textOf_eq]
  cases given : given? element name with
  | none => exact .inr ⟨_, rfl, by simp [Requirement.flaw?, given]⟩
  | some spelling =>
      cases reads : read spelling.toList with
      | none =>
          refine .inr ⟨.badValue name spelling, ?_, ?_⟩
          · simp only [bind, Except.bind, reads]
          · simp [Requirement.flaw?, given, allows, defect, reads]
      | some value =>
          refine .inl ⟨value, ?_, ⟨spelling, given, reads⟩, ?_⟩
          · simp only [bind, Except.bind, reads]
          · simp [Requirement.flaw?, given, allows, reads]

theorem colorOf_follows (element : Xml.Element) (name : String) :
    Follows element [⟨name, .color⟩] (Spells readColor element name)
      (colorOf element name) := by
  rw [colorOf, textOf_eq]
  cases given : given? element name with
  | none => exact .inr ⟨_, rfl, by simp [Requirement.flaw?, given]⟩
  | some spelling =>
      cases reads : readColor spelling.toList with
      | none =>
          refine .inr ⟨.badColor name spelling, ?_, ?_⟩
          · simp only [bind, Except.bind, reads]
          · simp [Requirement.flaw?, given, AttributeForm.allows,
              AttributeForm.defect, reads]
      | some value =>
          refine .inl ⟨value, ?_, ⟨spelling, given, reads⟩, ?_⟩
          · simp only [bind, Except.bind, reads]
          · simp [Requirement.flaw?, given, AttributeForm.allows, reads]

end Attributes

/-! ## Reading elements -/

/-- What an element declares, or what is wrong with it. -/
def declarationOf (element : Xml.Element) :
    Except SceneMapDefect Declaration := do
  if element.name == "Scene" then
    let (index, kind) ← sceneOf element
    return .scene index kind
  else if element.name == "Island" then
    let (name, environment) ← islandOf element
    return .island name environment
  else if element.name == "IslandOverride" then
    return .rule (← overrideOf element)
  else
    .error (.unknownElement element.name)

/-- What declares something is read as that. -/
theorem declarationOf_of_declares {element : Xml.Element}
    {declaration : Declaration} (declares : Declares element declaration) :
    declarationOf element = .ok declaration := by
  cases declares with
  | islandScene named index kind island place variant =>
      simp only [declarationOf, named, sceneOf, valueOf_of_spells index,
        textOf_of_given kind, textOf_of_given island, valueOf_of_spells place,
        valueOf_of_spells variant, bind, Except.bind]
      rfl
  | isometricScene named index kind isometric =>
      simp only [declarationOf, named, sceneOf, valueOf_of_spells index,
        textOf_of_given kind, valueOf_of_spells isometric, bind, Except.bind]
      rfl
  | island named name sky fog =>
      simp only [declarationOf, named, islandOf, textOf_of_given name,
        colorOf_of_spells sky, valueOf_of_spells fog, bind, Except.bind]
      rfl
  | rule named trigger source target =>
      simp only [declarationOf, named, overrideOf, valueOf_of_spells trigger,
        textOf_of_given source, textOf_of_given target, bind, Except.bind]
      rfl

/-- Whether the result of reading an element is right: either the element
declares what was read and has no flaw, or its flaw is reported. -/
def Outcome (element : Xml.Element)
    (result : Except SceneMapDefect Declaration) : Prop :=
  (∃ declaration, result = .ok declaration ∧ Declares element declaration ∧
    flaw? element = none) ∨
  ∃ defect, result = .error defect ∧ flaw? element = some defect

theorem outcome_of_follows {α : Type} {element : Xml.Element}
    {requirements : List Requirement} {result : Except SceneMapDefect α}
    {declaration : α → Declaration}
    (required : requirements? element = some requirements)
    (follows : Follows element requirements
      (fun value => Declares element (declaration value)) result) :
    Outcome element (result.map declaration) := by
  have flaw : flaw? element =
      requirements.findSome? (Requirement.flaw? element) := by
    rw [flaw?, required]
  rw [Outcome, flaw]
  rcases follows with ⟨value, rfl, declares, met⟩ | ⟨defect, rfl, flawed⟩
  · exact .inl ⟨declaration value, rfl, declares, met⟩
  · exact .inr ⟨defect, rfl, flawed⟩

section Kinds

variable {element : Xml.Element}

theorem outcome_rule (named : element.name = "IslandOverride") :
    Outcome element (declarationOf element) := by
  have required : requirements? element =
      some [⟨"gameVar", .word16⟩, ⟨"from", .text⟩, ⟨"to", .text⟩] := by
    simp [requirements?, named]
  have read : declarationOf element =
      (overrideOf element).map Declaration.rule := by
    simp only [declarationOf, named, String.reduceBEq, Bool.false_eq_true,
      if_false, if_true]
    cases overrideOf element <;> rfl
  rw [read]
  refine outcome_of_follows required ?_
  refine Follows.bind (valueOf_follows (fun _ => rfl) (fun _ _ => rfl) element
    "gameVar") fun trigger spellsTrigger => ?_
  refine Follows.bind (textOf_follows element "from")
    fun source spellsSource => ?_
  refine Follows.bind (textOf_follows element "to")
    fun target spellsTarget => ?_
  exact Follows.pure (.rule named spellsTrigger spellsSource spellsTarget)

theorem outcome_island (named : element.name = "Island") :
    Outcome element (declarationOf element) := by
  have required : requirements? element =
      some [⟨"name", .text⟩, ⟨"skyColor", .color⟩, ⟨"fogDensity", .single⟩] := by
    simp [requirements?, named]
  have read : declarationOf element =
      (islandOf element).map fun island => .island island.1 island.2 := by
    simp only [declarationOf, named, String.reduceBEq, Bool.false_eq_true,
      if_false, if_true]
    cases islandOf element <;> rfl
  rw [read]
  refine outcome_of_follows required ?_
  refine Follows.bind (textOf_follows element "name")
    fun name spellsName => ?_
  refine Follows.bind (colorOf_follows element "skyColor")
    fun sky spellsSky => ?_
  refine Follows.bind (valueOf_follows (fun _ => rfl) (fun _ _ => rfl) element
    "fogDensity") fun fog spellsFog => ?_
  exact Follows.pure (.island named spellsName spellsSky spellsFog)

def islandKindOf (element : Xml.Element) : Except SceneMapDefect SceneKind := do
  let island ← textOf element "island"
  let place ← valueOf readWord64 element "section"
  let variant ← valueOf readWord32 element "variant"
  return .island ⟨island, place, variant⟩

def isometricKindOf (element : Xml.Element) :
    Except SceneMapDefect SceneKind := do
  return .isometric (← valueOf readWord32 element "isoIndex")

def kindOf (element : Xml.Element) : Except SceneMapDefect SceneKind := do
  let kind ← textOf element "kind"
  if kind = "island" then
    islandKindOf element
  else if kind = "iso" then
    isometricKindOf element
  else
    .error (.unknownKind kind)

theorem sceneOf_eq (element : Xml.Element) :
    sceneOf element = do
      let index ← valueOf readWord32 element "index"
      let kind ← kindOf element
      return (index, kind) := by
  simp only [sceneOf, kindOf, bind_assoc]
  refine bind_congr fun index => bind_congr fun kind => ?_
  by_cases onIsland : kind = "island"
  · simp only [beq_iff_eq, if_pos onIsland, islandKindOf, bind_assoc, pure_bind]
  · by_cases isometric : kind = "iso"
    · simp only [beq_iff_eq, if_neg onIsland, if_pos isometric,
        isometricKindOf, bind_assoc, pure_bind]
    · simp only [beq_iff_eq, if_neg onIsland, if_neg isometric]
      rfl

/-- Which attributes a scene must have depends on its kind. -/
theorem kindOf_follows (element : Xml.Element) :
    Follows element (⟨"kind", .kind⟩ :: kindRequirements element)
      (fun kind => ∀ index, element.name = "Scene" →
        Spells readWord32 element "index" index →
          Declares element (.scene index kind))
      (kindOf element) := by
  rw [kindOf, textOf_eq, kindRequirements]
  cases kind : given? element "kind" with
  | none =>
      exact .flawed (by simp [Requirement.flaw?, kind]) _ _
  | some spelling =>
      simp only [bind, Except.bind, Option.some.injEq]
      have flaw : Requirement.flaw? element ⟨"kind", .kind⟩ =
          if spelling = "island" ∨ spelling = "iso" then none
          else some (.unknownKind spelling) := by
        simp [Requirement.flaw?, kind, AttributeForm.allows,
          AttributeForm.defect]
      by_cases onIsland : spelling = "island"
      · rw [if_pos onIsland, if_pos onIsland]
        rw [if_pos (.inl onIsland)] at flaw
        rw [onIsland] at kind
        refine Follows.met flaw ?_
        refine Follows.bind (textOf_follows element "island")
          fun island spellsIsland => ?_
        refine Follows.bind (valueOf_follows (fun _ => rfl) (fun _ _ => rfl)
          element "section") fun place spellsPlace => ?_
        refine Follows.bind (valueOf_follows (fun _ => rfl) (fun _ _ => rfl)
          element "variant") fun variant spellsVariant => ?_
        exact Follows.pure fun index named spellsIndex =>
          .islandScene named spellsIndex kind spellsIsland spellsPlace
            spellsVariant
      rw [if_neg onIsland, if_neg onIsland]
      by_cases isometric : spelling = "iso"
      · rw [if_pos isometric, if_pos isometric]
        rw [if_pos (.inr isometric)] at flaw
        rw [isometric] at kind
        refine Follows.met flaw ?_
        refine Follows.bind (valueOf_follows (fun _ => rfl) (fun _ _ => rfl)
          element "isoIndex") fun scenery spellsScenery => ?_
        exact Follows.pure fun index named spellsIndex =>
          .isometricScene named spellsIndex kind spellsScenery
      rw [if_neg isometric, if_neg isometric]
      rw [if_neg (not_or.mpr ⟨onIsland, isometric⟩)] at flaw
      exact .flawed flaw _ _

theorem outcome_scene (named : element.name = "Scene") :
    Outcome element (declarationOf element) := by
  have read : declarationOf element =
      (sceneOf element).map fun scene => .scene scene.1 scene.2 := by
    simp only [declarationOf, named, String.reduceBEq, Bool.false_eq_true,
      if_false, if_true]
    cases sceneOf element <;> rfl
  have required : requirements? element =
      some (⟨"index", .word32⟩ :: ⟨"kind", .kind⟩ ::
        kindRequirements element) :=
    if_pos named
  rw [read, sceneOf_eq]
  refine outcome_of_follows required ?_
  refine Follows.bind (valueOf_follows (fun _ => rfl) (fun _ _ => rfl) element
    "index") fun index spellsIndex => ?_
  rcases kindOf_follows element with
    ⟨kind, found, declares, met⟩ | ⟨defect, found, flawed⟩
  · rw [found]
    exact .inl ⟨(index, kind), rfl, declares index named spellsIndex, met⟩
  · rw [found]
    exact .inr ⟨defect, rfl, flawed⟩

/-- Every element is read as it should be. -/
theorem outcome_declarationOf (element : Xml.Element) :
    Outcome element (declarationOf element) := by
  by_cases scene : element.name = "Scene"
  · exact outcome_scene scene
  by_cases island : element.name = "Island"
  · exact outcome_island island
  by_cases rule : element.name = "IslandOverride"
  · exact outcome_rule rule
  refine .inr ⟨.unknownElement element.name, ?_, ?_⟩
  · simp [declarationOf, scene, island, rule]
  · simp [flaw?, requirements?, scene, island, rule]

theorem flaw?_eq_none_iff :
    flaw? element = none ↔ ∃ declaration, Declares element declaration := by
  rcases outcome_declarationOf element with
    ⟨declaration, read, declares, sound⟩ | ⟨defect, read, flawed⟩
  · exact ⟨fun _ => ⟨declaration, declares⟩, fun _ => sound⟩
  · refine ⟨fun sound => ?_, fun ⟨declaration, declares⟩ => ?_⟩
    · rw [flawed] at sound
      cases sound
    · rw [declarationOf_of_declares declares] at read
      cases read

/-- An element declares one thing at most. -/
theorem Declares.unique {declaration other : Declaration}
    (declares : Declares element declaration)
    (declaresOther : Declares element other) : declaration = other :=
  Except.ok.inj ((declarationOf_of_declares declares).symm.trans
    (declarationOf_of_declares declaresOther))

end Kinds

/-! ## What an element says does not depend on where it stands -/

/-- The name and the attributes of an element, without its place and what is
inside it. -/
def content (element : Xml.Element) : String × List (String × String) :=
  (element.name, element.attributes)

theorem declarationOf_congr {element other : Xml.Element}
    (same : content element = content other) :
    declarationOf element = declarationOf other := by
  cases element
  cases other
  obtain ⟨sameName, sameAttributes⟩ := Prod.mk.inj same
  cases sameName
  cases sameAttributes
  rfl

theorem Declares.congr {element other : Xml.Element} {declaration : Declaration}
    (same : content element = content other)
    (declares : Declares element declaration) : Declares other declaration := by
  have read := declarationOf_of_declares declares
  rw [declarationOf_congr same] at read
  rcases outcome_declarationOf other with
    ⟨found, own, declares, _⟩ | ⟨defect, own, _⟩
  · rw [read] at own
    cases own
    exact declares
  · rw [read] at own
    cases own

end SceneMap

end Stagecraft
