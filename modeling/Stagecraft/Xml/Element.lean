import Stagecraft.Xml.Reference

/-!
# XML elements

The tree of elements of a document, with namespaces but without document types.
A document that is not well formed has no tree.
-/

namespace Stagecraft.Xml

/-- An element: its name without qualifier, the attributes that have no
qualifier, the text of the document after its opening bracket, and its child
elements. -/
inductive Element where
  | mk (name : String) (attributes : List (String × String))
      (onward : List Char) (children : List Element)
deriving Inhabited

namespace Element

def name : Element → String
  | .mk name _ _ _ => name

def attributes : Element → List (String × String)
  | .mk _ attributes _ _ => attributes

/-- The text of the document after the opening bracket. -/
def onward : Element → List Char
  | .mk _ _ onward _ => onward

def children : Element → List Element
  | .mk _ _ _ children => children

def attribute? (element : Element) (name : String) : Option String :=
  element.attributes.lookup name

end Element

/-! ## Names -/

structure QualifiedName where
  qualifier : String
  base : String
deriving DecidableEq, Repr

def startsLikeName (chars : List Char) : Bool :=
  match chars with
  | [] => true
  | first :: _ => isNameStart first

def qualifiedName? (chars : List Char) :
    Option (QualifiedName × List Char) :=
  let written := chars.takeWhile isNameChar
  let rest := chars.dropWhile isNameChar
  let before := written.takeWhile (· != ':')
  match written.dropWhile (· != ':') with
  | [] =>
      if before.isEmpty || !startsLikeName before then
        none
      else
        some (⟨"", String.ofList before⟩, rest)
  | _ :: base =>
      if base.contains ':' || base.isEmpty || !startsLikeName before ||
          !startsLikeName base then
        none
      else
        some (⟨String.ofList before, String.ofList base⟩, rest)

/-! ## Attributes -/

/-- Splits off an attribute: its name, and its value as spelled between the
quotes. -/
def spelledAttribute? (chars : List Char) :
    Option ((QualifiedName × List Char) × List Char) := do
  let (name, afterName) ← qualifiedName? chars
  let afterEqual ← after? ['='] (skipSpace afterName)
  match skipSpace afterEqual with
  | [] => none
  | quote :: rest =>
      if quote == '"' || quote.toNat == 39 then do
        let inside (char : Char) : Bool := char != quote && char != '<'
        let spelled := rest.takeWhile inside
        if spelled.all isAllowed then do
          let remaining ← after? [quote] (rest.dropWhile inside)
          return ((name, spelled), remaining)
        else
          none
      else
        none

structure WrittenAttribute where
  name : QualifiedName
  value : String
deriving DecidableEq, Repr

/-- Splits off an attribute with its references resolved. -/
def writtenAttribute? (chars : List Char) :
    Option (WrittenAttribute × List Char) := do
  let ((name, spelled), remaining) ← spelledAttribute? chars
  let value ← attributeValue? spelled.length spelled
  return (⟨name, String.ofList value⟩, remaining)

inductive TagEnd where
  | opened
  | empty
deriving DecidableEq, Repr

/-- Reads the attributes of a start tag up to its end. Each attribute follows
white space. The measure bounds their number. -/
def attributes? :
    Nat → List Char → Option (List WrittenAttribute × TagEnd × List Char)
  | 0, _ => none
  | measure + 1, chars =>
      match skipSpace chars with
      | '/' :: '>' :: rest => some ([], .empty, rest)
      | '>' :: rest => some ([], .opened, rest)
      | unspaced => do
          if chars.head?.any isSpace then
            let (first, after) ← writtenAttribute? unspaced
            let (others, ending, rest) ← attributes? measure after
            return (first :: others, ending, rest)
          else
            none

/-! ## Namespaces -/

/-- The namespace of the qualifier `xml`. -/
def xmlSpace : String := "http://www.w3.org/XML/1998/namespace"

/-- The namespace of namespace declarations. -/
def declarationSpace : String := "http://www.w3.org/2000/xmlns/"

/-- The namespaces of qualifiers, nearest declaration first. -/
abbrev Scope := List (String × String)

/-- Adds the declaration of a qualifier to those of the same element. -/
def declare? (declared : Scope) (qualifier space : String) : Option Scope :=
  if space == declarationSpace then
    none
  else if qualifier == "xml" then
    if space == xmlSpace then some declared else none
  else if space == xmlSpace || (declared.lookup qualifier).isSome then
    none
  else
    some ((qualifier, space) :: declared)

/-- Sorts the attributes of an element into namespace declarations and proper
attributes. -/
def sortAttributes? :
    List WrittenAttribute → Option (Scope × List WrittenAttribute)
  | [] => some ([], [])
  | written :: rest => do
      let (declared, proper) ← sortAttributes? rest
      if written.name.qualifier == "xmlns" then
        return (← declare? declared written.name.base written.value, proper)
      else if written.name.base == "xmlns" then
        if written.value == xmlSpace ||
            written.value == declarationSpace then
          none
        else
          return (declared, proper)
      else
        return (declared, written :: proper)

/-- The namespace and name of an attribute; an unqualified one has no
namespace. -/
def expandedName? (scope : Scope) (name : QualifiedName) :
    Option (Option String × String) :=
  if name.qualifier.isEmpty then
    some (none, name.base)
  else if name.qualifier == "xml" then
    some (some xmlSpace, name.base)
  else
    (scope.lookup name.qualifier).map fun space => (some space, name.base)

/-- Whether all attributes have known qualifiers and different names. -/
def distinctAttributes (scope : Scope) (attributes : List WrittenAttribute) :
    Bool :=
  match attributes.mapM fun written => expandedName? scope written.name with
  | some names => decide names.Nodup
  | none => false

/-- Whether an element may have a name. -/
def elementNameKnown (scope : Scope) (name : QualifiedName) : Bool :=
  name.qualifier.isEmpty ||
    (name.qualifier != "xmlns" && (scope.lookup name.qualifier).isSome)

/-! ## Content -/

/-- The text after a comment, given the text after its opening. A comment has no
double hyphen inside and does not end in a hyphen. -/
def afterComment? (chars : List Char) : Option (List Char) := do
  let (comment, rest) ← splitAt? ['-', '-', '>'] chars
  if occurs ['-', '-'] comment || comment.getLast? == some '-' then
    none
  else
    some rest

/-- The text after a processing instruction, given the text after its opening.
An XML declaration is no such instruction. -/
def afterInstruction? (chars : List Char) : Option (List Char) :=
  match after? ['x', 'm', 'l', ' '] chars with
  | some _ => none
  | none =>
      match chars with
      | [] => none
      | first :: rest =>
          if isNameStart first then
            (splitAt? ['?', '>'] (rest.dropWhile isNameChar)).map Prod.snd
          else
            none

/-- The text after comments, processing instructions and white space. The
measure bounds their number. -/
def afterMisc? : Nat → List Char → Option (List Char)
  | 0, _ => none
  | measure + 1, chars =>
      match skipSpace chars with
      | '<' :: '!' :: '-' :: '-' :: rest => do
          afterMisc? measure (← afterComment? rest)
      | '<' :: '?' :: rest => do afterMisc? measure (← afterInstruction? rest)
      | other => some other

/-- The text after character data, which must be well formed. -/
def afterText? (chars : List Char) : Option (List Char) :=
  let text := chars.takeWhile (· != '<')
  if text.all isAllowed && !occurs [']', ']', '>'] text &&
      referencesKnown text.length text then
    some (chars.dropWhile (· != '<'))
  else
    none

/-- The text after an end tag for the given name, given the text after its
opening. -/
def afterEndTag? (name : QualifiedName) (chars : List Char) :
    Option (List Char) := do
  let (written, rest) ← qualifiedName? chars
  if written = name then
    after? ['>'] (skipSpace rest)
  else
    none

mutual

/-- Reads an element, given the text after its opening bracket. The measure
bounds the characters that are left. -/
def element? : Nat → Scope → List Char → Option (Element × List Char)
  | 0, _, _ => none
  | measure + 1, outer, chars => do
      let (name, afterName) ← qualifiedName? chars
      let (written, ending, afterTag) ← attributes? (measure + 1) afterName
      let (declared, proper) ← sortAttributes? written
      let scope := declared ++ outer
      let unqualified :=
        (proper.filter fun entry => entry.name.qualifier.isEmpty).map
          fun entry => (entry.name.base, entry.value)
      if elementNameKnown scope name && distinctAttributes scope proper then
        match ending with
        | .empty => return (.mk name.base unqualified chars [], afterTag)
        | .opened => do
            let (children, afterContent) ← content? measure scope afterTag
            let rest ← afterEndTag? name afterContent
            return (.mk name.base unqualified chars children, rest)
      else
        none

/-- Reads the content of an element up to its end tag, whose opening is
dropped. -/
def content? : Nat → Scope → List Char → Option (List Element × List Char)
  | 0, _, _ => none
  | measure + 1, scope, chars =>
      match chars with
      | [] => none
      | '<' :: '/' :: rest => some ([], rest)
      | '<' :: '!' :: '-' :: '-' :: rest => do
          content? measure scope (← afterComment? rest)
      | '<' :: '!' :: rest => do
          let inner ← after? ['[', 'C', 'D', 'A', 'T', 'A', '['] rest
          let (_, after) ← splitAt? [']', ']', '>'] inner
          content? measure scope after
      | '<' :: '?' :: rest => do
          content? measure scope (← afterInstruction? rest)
      | '<' :: rest => do
          let (child, after) ← element? measure scope rest
          let (others, afterAll) ← content? measure scope after
          return (child :: others, afterAll)
      | text => do content? measure scope (← afterText? text)

end

/-! ## Documents -/

/-- The text after an attribute of an XML declaration, whose name starts with the
given word and whose value may be spelled in any way. -/
def afterDeclared? (word : String) (chars : List Char) :
    Option (List Char) := do
  let _ ← after? word.toList chars
  let (_, rest) ← spelledAttribute? chars
  return rest

/-- White space, unless the declaration ends here. -/
def declarationGap? (chars : List Char) : Option (List Char) :=
  match chars with
  | [] => some []
  | first :: _ =>
      if isSpace first then
        some (skipSpace chars)
      else
        (after? ['?', '>'] chars).map fun _ => chars

/-- The text after an XML declaration, given the text after its name. The
version is required; the encoding and the standalone mark may follow in this
order. -/
def afterDeclaration? (chars : List Char) : Option (List Char) := do
  let versioned ← afterDeclared? "version" (skipSpace chars)
  let afterVersion ← declarationGap? versioned
  let afterEncoding ←
    if (after? "encoding".toList afterVersion).isSome then do
      declarationGap? (← afterDeclared? "encoding" afterVersion)
    else
      some afterVersion
  let afterStandalone ←
    if (after? "standalone".toList afterEncoding).isSome then
      afterDeclared? "standalone" afterEncoding
    else
      some afterEncoding
  after? ['?', '>'] (skipSpace afterStandalone)

def afterProlog? (chars : List Char) : Option (List Char) :=
  let unmarked :=
    match chars with
    | first :: rest => if first.toNat == 0xFEFF then rest else chars
    | [] => []
  match after? "<?xml ".toList unmarked with
  | some rest => afterDeclaration? rest
  | none => some unmarked

/-- The root element of a document; `none` if the document is not well
formed. -/
def document? (chars : List Char) : Option Element := do
  let start ← afterMisc? (chars.length + 1) (← afterProlog? chars)
  match start with
  | '<' :: rest =>
      let (root, after) ← element? (chars.length + 1) [] rest
      match ← afterMisc? (chars.length + 1) after with
      | [] => some root
      | _ => none
  | _ => none

/-! ## Positions -/

/-- A line and a column, both counted from one. -/
structure Position where
  line : Nat
  column : Nat
deriving DecidableEq, Repr

def Position.after (chars : List Char) : Position :=
  chars.foldl
    (fun position char =>
      if char == '\n' then
        ⟨position.line + 1, 1⟩
      else
        ⟨position.line, position.column + 1⟩)
    ⟨1, 1⟩

/-- Where an element of a document starts. -/
def Element.position (document : List Char) (element : Element) : Position :=
  Position.after
    (document.take (document.length - (element.onward.length + 1)))

end Stagecraft.Xml
