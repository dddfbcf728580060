import ToolParams.Inherited
import ToolParams.Parameter.Value

/-!
# Declarations of parameters

A schema lists the parameters of a tool, first the required and then the optional
ones.  Each has a type, a default and possibly a constraint on its values.
-/

namespace ToolParams

/-- The type of a parameter.  An untyped parameter is one whose type column holds
one of the reserved words; it takes any input and holds no value, or a redirect. -/
inductive ParameterType where
  | boolean
  | integer
  | real
  | string
  | filename
  | untyped (word : String)
deriving DecidableEq, Repr

namespace ParameterType

def isText : ParameterType → Bool
  | .string => true
  | .filename => true
  | _ => false

/-- Whether values of the type are numbers. -/
def isNumeric : ParameterType → Bool
  | .integer => true
  | .real => true
  | _ => false

/-- The letter of a type in the type column. -/
def letter : ParameterType → String
  | .boolean => "b"
  | .integer => "i"
  | .real => "r"
  | .string => "s"
  | .filename => "f"
  | .untyped _ => ""

/-- The name of a type; that of an untyped parameter is its word. -/
def name : ParameterType → String
  | .boolean => "boolean"
  | .integer => "integer"
  | .real => "real"
  | .string => "string"
  | .filename => "filename"
  | .untyped word => word

def ofName (name : String) : ParameterType :=
  ([boolean, integer, real, string, filename].find? fun type => type.name = name).getD
    (.untyped name)

/-- The type that a type column names.  The name of a member that every object has is accepted
too, but it gives the parameter no type. -/
def ofColumn? (column : String) : Option ParameterType :=
  match column with
  | "b" => some .boolean
  | "i" => some .integer
  | "r" => some .real
  | "s" => some .string
  | "f" => some .filename
  | word => if word ∈ Inherited.names then some (.untyped word) else none

/-- The type in words, for tracing. -/
def inWords? : ParameterType → Option String
  | .boolean => some "a boolean"
  | .integer => some "an integer"
  | .real => some "a number"
  | .string => some "a string"
  | .filename => some "a filename"
  | .untyped _ => none

end ParameterType

/-- A limit of a range: none, a number, or a text that a store resolves. -/
inductive Bound where
  | unbounded
  | number (value : Number)
  | text (value : String)
deriving DecidableEq, Repr

/-- A condition on the values of a parameter. -/
inductive Constraint where
  | range (low high : Bound)
  | options (choices : List String)
deriving DecidableEq, Repr

/-- One declared parameter of a tool. -/
structure Declaration where
  name : String
  type : ParameterType
  help : String
  /-- The raw default, which may be a redirect. -/
  default : Scalar
  required : Bool
  mode : String
  constraint : Option Constraint
deriving DecidableEq, Repr

/-- How a tool takes its parameters. -/
inductive ToolKind where
  /-- by a parameter file -/
  | parameterFile
  /-- on the command line -/
  | direct
  /-- not at all: the parameters belong to no program -/
  | parametersOnly
deriving DecidableEq, Repr

/-- The parameters of a tool. -/
structure Schema where
  name : String
  kind : ToolKind
  /-- The program to start, if it is not named as the tool. -/
  executable : Option String
  required : List Declaration
  optional : List Declaration
deriving DecidableEq, Repr

namespace Schema

/-- All declarations, the required ones first. -/
def declarations (schema : Schema) : List Declaration :=
  schema.required ++ schema.optional

def names (schema : Schema) : List String :=
  schema.declarations.map Declaration.name

/-- The declaration of a name: the last one, should a name be declared twice. -/
def find? (schema : Schema) (name : String) : Option Declaration :=
  schema.declarations.findRev? fun declaration => declaration.name = name

end Schema

end ToolParams
