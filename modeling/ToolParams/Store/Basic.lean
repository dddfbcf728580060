import ToolParams.OrderedMap
import ToolParams.Parameter.Declaration
import ToolParams.Store.Fault
import ToolParams.Text.Units

/-!
# Stores

A store holds the current values of a tool's parameters.  Names may be shortened
to any beginning that only one declared name has.
-/

namespace ToolParams

/-- The values of a store by name. -/
abbrev Values := OrderedMap String Stored

/-- The current values of the parameters of a tool. -/
structure Store where
  schema : Schema
  values : Values
deriving DecidableEq, Repr

namespace Store

def defaults (schema : Schema) : Values :=
  .ofList (schema.declarations.map fun declaration =>
    (declaration.name, Stored.ofRaw declaration.default))

def fresh (schema : Schema) : Store :=
  { schema, values := defaults schema }

def tool (store : Store) : String := store.schema.name

/-- All declarations, the required ones first. -/
def declarations (store : Store) : List Declaration := store.schema.declarations

/-- What the store holds under an exact name; a missing entry is an unset value. -/
def entry (store : Store) (name : String) : Stored :=
  (store.values.get? name).getD (.literal .null)

/-- The declared name that an exact name or a unique beginning of one stands for. -/
def resolveName (store : Store) (requested : String) : Except StoreFault String :=
  if requested ∈ store.schema.names then .ok requested
  else match store.schema.names.filter (Text.startsWith · requested) with
    | [] => .error (.unknownName store.tool requested)
    | [only] => .ok only
    | candidates => .error (.ambiguousName store.tool requested candidates)

/-- The declaration that a name stands for. -/
def declaration (store : Store) (requested : String) : Except StoreFault Declaration := do
  let name ← store.resolveName requested
  match store.schema.find? name with
  | some declaration => return declaration
  | none => throw (.unknownName store.tool requested)

def getEntry (store : Store) (requested : String) : Except StoreFault Stored :=
  (store.resolveName requested).map store.entry

/-- The raw value under a name, a redirect in its written form. -/
def get (store : Store) (requested : String) : Except StoreFault Scalar :=
  (store.getEntry requested).map Stored.raw

def defaultOf (store : Store) (requested : String) : Except StoreFault Scalar :=
  (store.resolveName requested).map fun name =>
    match (defaults store.schema).get? name with
    | some stored => stored.raw
    | none => .null

/-- Names and raw values in the order of the declarations. -/
def entries (store : Store) : List (String × Scalar) :=
  store.declarations.map fun declaration =>
    (declaration.name, (store.entry declaration.name).raw)

/-- The store with every parameter at its default. -/
def reset (store : Store) : Store :=
  fresh store.schema

/-- The values as they are now, for a later `restore`. -/
def snapshot (store : Store) : Values := store.values

def restore (store : Store) (saved : Values) : Store :=
  { store with values := saved }

/-- The width of names in a listing. -/
def nameWidth : Nat := 20

/-- The width of values in a listing. -/
def valueWidth : Nat := 15

/-- A value in a listing. -/
def display : Scalar → String
  | .null => ""
  | .bool value => if value then "True" else "False"
  | value => value.shown

/-- The line of a parameter in a listing. -/
def describeLine (store : Store) (declaration : Declaration) : String :=
  let value := display (store.entry declaration.name).raw
  Text.trimEnd (Text.padStart nameWidth declaration.name ++ " = " ++
    Text.padEnd valueWidth value ++ "  " ++ declaration.help)

/-- A section of a listing, absent without parameters. -/
def describeSection (store : Store) (title : String) (declarations : List Declaration) :
    List String :=
  if declarations.isEmpty then []
  else "" :: title :: declarations.map store.describeLine

/-- A listing of the parameters and their values. -/
def describe (store : Store) : String :=
  "\n".intercalate (s!"Parameters for {store.tool}:" ::
    (store.describeSection "Required parameters:" store.schema.required ++
      store.describeSection "Optional parameters:" store.schema.optional))

end Store

end ToolParams
