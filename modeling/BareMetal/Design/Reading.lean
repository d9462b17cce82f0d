import BareMetal.Design.Markup
import BareMetal.Design.Schema

/-!
# Records read from a tree

The library that the programs are run with.  Of an element it takes the attributes that a schema
asks for, and of its children those that are members of a list; elements of other names are passed
over, and where they stand among or behind the members they must be readable.  An element whose name
is that of an attribute behind an `@` may stand for it.
-/

namespace BareMetal.Design

/-- Text without the white space at its start, and at its end if it is the last of a run. -/
def trimmed (first last : Bool) (raw : List Char) : List Char :=
  let raw := if first then raw.dropWhile isSpace else raw
  if last then (raw.reverse.dropWhile isSpace).reverse else raw

/-- White space between other nodes. -/
def Node.isBlank : Node → Bool
  | .text raw => raw.all isSpace
  | _ => false

/-- The text that some nodes make up behind others; `first` is set as long as there is none.  An
element or a second run of text is none of a text. -/
def textFrom? (first : Bool) : List Node → Option (List Char)
  | [] => some []
  | .text raw :: rest =>
    if first && raw.all isSpace then textFrom? first rest
    else
      let last := match rest with
        | .text _ :: _ | .cdata _ :: _ => false
        | _ => true
      return (← unescape? (trimmed first last raw)) ++ (← textFrom? false rest)
  | .cdata content :: rest => return content ++ (← textFrom? false rest)
  | .documentType :: rest =>
    if first then textFrom? first rest
    else if rest.all fun node => node matches .documentType || Node.isBlank node then some []
    else none
  | .element _ _ _ :: _ => none

/-- The name of the elements that stand for the attribute of a name. -/
def attributeTag (key : String) : List Char := '@' :: key.toList

/-- The value of a field, which an attribute of its name holds or the text of an element; the
default if there is neither.  Two of them, or a bad reference in the value, make the whole
unreadable. -/
def fieldValue? (key : String) (default : Option String)
    (attributes : List (List Char × List Char)) (children : List Node) : Option String :=
  let given := attributes.filter fun (name, _) =>
    !isNamespaceDeclaration name && localName name == key.toList
  let nested := children.filterMap fun child => match child with
    | .element name _ content => if localName name = attributeTag key then some content else none
    | _ => none
  match given, nested with
  | [], [] => default
  | [(_, raw)], [] => (unescape? raw).map String.ofList
  | [], [content] => (textFrom? true content).map String.ofList
  | _, _ => none

mutual

/-- The text of a node has no bad references and its tags bind namespaces well, however deep
inside. -/
def Node.isReadable : Node → Bool
  | .element _ attributes children => bindsNamespaces attributes && allReadable children
  | .text raw => (unescape? raw).isSome
  | .cdata _ | .documentType => true

/-- All of some nodes are readable. -/
def allReadable : List Node → Bool
  | [] => true
  | node :: rest => node.isReadable && allReadable rest

end

/-- The node can be passed over.  Text must be free of bad references; of an element only its own
tag is looked at, and the next one if that follows at once. -/
def Node.isPassable : Node → Bool
  | .element _ attributes children =>
    bindsNamespaces attributes &&
      match children.dropWhile Node.isBlank with
      | .element _ inner _ :: _ => bindsNamespaces inner
      | _ => true
  | node => node.isReadable

/-- The node is of no account, or holds one of the fields of the names. -/
def isSettled (keys : List String) : Node → Bool
  | .element name attributes children =>
    if keys.any fun key => localName name = attributeTag key then bindsNamespaces attributes
    else (Node.element name attributes children).isPassable
  | node => node.isPassable

/-- The children that have the local name `tag`, each read by `read?`.  Before the first of them
there may be anything that can be passed over, and the fields `keys`.  After it there may be no text
but white space, elements of other names must be readable all through, and the others of the name
must repeat it with the same prefix. -/
def membersFrom {α : Type} (tag : List Char) (keys : List String)
    (read? : List (List Char × List Char) → List Node → Option α) :
    Option (List Char) → List Node → Option (List α)
  | _, [] => some []
  | first, .element name attributes children :: rest =>
    if localName name = tag then
      if bindsNamespaces attributes && first.all (· = name) then do
        let member ← read? (← attributes? attributes) children
        let others ← membersFrom tag keys read? (some name) rest
        return member :: others
      else none
    else if
        match first with
        | some _ => (Node.element name attributes children).isReadable
        | none => isSettled keys (.element name attributes children) then
      membersFrom tag keys read? first rest
    else none
  | first, .documentType :: rest => membersFrom tag keys read? first rest
  | first, node :: rest =>
    if node.isBlank || (first.isNone && node.isPassable) then membersFrom tag keys read? first rest
    else none

namespace Schema

/-- Without a list to look for, all children have to be settled. -/
def settles {α : Type} (schema : Schema α) (children : List Node) : Bool :=
  !schema.memberNames.isEmpty || children.all (isSettled schema.keys)

/-- The record of a schema whose attributes are `keys`, from the attributes and the children of an
element. -/
def fields? : {α : Type} → Schema α → List String → List (List Char × List Char) → List Node →
    Option α
  | _, done record, _, _, _ => some record
  | _, text before key default, keys, attributes, children => do
    let f ← before.fields? keys attributes children
    return f (← fieldValue? key default attributes children)
  | _, members before name member, keys, attributes, children => do
    let f ← before.fields? keys attributes children
    let read? (attributes : List (List Char × List Char)) (children : List Node) :=
      if member.settles children then member.fields? member.keys attributes children else none
    return f (← membersFrom name.toList keys read? none children)

/-- The record in an element, from its attributes and its children. -/
def ofElement? {α : Type} (schema : Schema α) (attributes : List (List Char × List Char))
    (children : List Node) : Option α :=
  if schema.settles children then schema.fields? schema.keys attributes children else none

/-- The record in a root element of any name. -/
def ofRoot? {α : Type} (schema : Schema α) : Node → Option α
  | .element _ attributes children => do
    let record ← schema.ofElement? (← attributes? attributes) children
    if bindsNamespaces attributes then return record else none
  | _ => none

end Schema

/-- The library that reads a document item by item into a tree. -/
def markup : Library where
  reservedFor? := prefixOfNamespace?
  read? schema document := (Node.parse? document).bind schema.ofRoot?

end BareMetal.Design
