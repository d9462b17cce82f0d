import BareMetal.Design.Reading

/-!
# System designs

The connections of a system and their parameters, as a design file lists them: connections are
children of its root, and parameters are children of a connection.  What is wanted of either is said
in a schema; a library for documents does the reading.
-/

namespace BareMetal.Design

/-- A named setting of a connection. -/
structure Parameter where
  name : String
  value : String
  deriving DecidableEq, Repr

/-- A connection, by the interface at which it ends. -/
structure Connection where
  endpoint : String
  parameters : List Parameter
  deriving DecidableEq, Repr

/-- A system, by its connections in the order of the design file. -/
structure System where
  connections : List Connection
  deriving DecidableEq, Repr

/-! ## Reading a design file -/

/-- A parameter needs a name; its value is empty unless given. -/
def Parameter.schema : Schema Parameter :=
  .text (.text (.done Parameter.mk) "name" none) "value" (some "")

/-- A connection may end nowhere; its parameters are the elements of that name. -/
def Connection.schema : Schema Connection :=
  .members (.text (.done Connection.mk) "end" (some "")) "parameter" Parameter.schema

namespace System

/-- The connections are the elements of that name in the root. -/
def schema : Schema System := .members (.done System.mk) "connection" Connection.schema

/-- The system that a design file describes, as a library reads it. -/
def parse (library : Library) (document : String) : Option System := library.read? schema document

/-- The system that a design file describes. -/
def parse? (document : String) : Option System := parse markup document

end System

/-! ## Base addresses in a system -/

/-- The value of the first parameter of a name. -/
def Connection.parameter? (c : Connection) (name : String) : Option String :=
  (c.parameters.find? (·.name == name)).map (·.value)

/-- The parameter that holds a base address. -/
def baseAddressName : String := "baseAddress"

/-- The base address of the first connection to an interface that has one. -/
def System.baseAddress? (s : System) (endpoint : String) : Option String :=
  (s.connections.filter (·.endpoint == endpoint)).findSome? (·.parameter? baseAddressName)

end BareMetal.Design
