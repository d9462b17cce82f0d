/-!
# Records that are read from documents

A program that takes records from markup declares what it wants of an element and leaves the reading
to a library.  A schema is such a declaration, and a library answers to every schema: with the
record that the root element of a document holds, or not at all.
-/

namespace BareMetal.Design

/-- How a record is put together from what an element holds. -/
inductive Schema : Type → Type 1 where
  /-- Nothing more is wanted. -/
  | done {α : Type} (record : α) : Schema α
  /-- The text that an attribute holds; the default, if there is one, stands for a missing one. -/
  | text {α : Type} (before : Schema (String → α)) (key : String) (default : Option String) :
    Schema α
  /-- A record for each of the elements of a name, in their order. -/
  | members {α β : Type} (before : Schema (List β → α)) (name : String) (member : Schema β) :
    Schema α

namespace Schema

/-- The names of the attributes that are asked for. -/
def keys : {α : Type} → Schema α → List String
  | _, done _ => []
  | _, text before key _ => before.keys ++ [key]
  | _, members before _ _ => before.keys

/-- The names of the elements that are asked for. -/
def memberNames : {α : Type} → Schema α → List String
  | _, done _ => []
  | _, text before _ _ => before.memberNames
  | _, members before name _ => before.memberNames ++ [name]

end Schema

/-- A library for documents. -/
structure Library where
  /-- The prefix that a namespace is reserved for, if it is: `xml` or `xmlns`. -/
  reservedFor? : List Char → Option (List Char)
  /-- The record in the root element of a document, unless there is none to be read. -/
  read? : {α : Type} → Schema α → String → Option α

end BareMetal.Design
