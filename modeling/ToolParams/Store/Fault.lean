import ToolParams.Number.Shortest

/-!
# Faults of names and values

Why a store does not know a name, or does not take a value.
-/

namespace ToolParams

/-- The classes of faults of values. -/
inductive FaultClass where
  | type
  | range
  | option
  | redirect
  | cycle
  | arguments
deriving DecidableEq, Repr

/-- Why a value is not taken or not found. -/
inductive ValueFault where
  | notOfType (tool name wanted shown : String)
  | below (tool name : String) (limit value : Number)
  | above (tool name : String) (limit value : Number)
  | notAnOption (name shown : String) (options : List String)
  | severalOptions (name shown : String) (candidates : List String)
  | limitNotNumeric (tool name limit : String)
  | dangling (tool holder target : String)
  | cycle (tool start : String) (path : List String)
  | tooManyArguments (tool : String) (declared given : Nat)
deriving DecidableEq, Repr

/-- The name of a class. -/
def FaultClass.name : FaultClass → String
  | .type => "type"
  | .range => "range"
  | .option => "option"
  | .redirect => "redirect"
  | .cycle => "cycle"
  | .arguments => "arguments"

namespace ValueFault

/-- The class of a fault of a value. -/
def faultClass : ValueFault → FaultClass
  | .notOfType .. => .type
  | .below .. => .range
  | .above .. => .range
  | .notAnOption .. => .option
  | .severalOptions .. => .option
  | .limitNotNumeric .. => .redirect
  | .dangling .. => .redirect
  | .cycle .. => .cycle
  | .tooManyArguments .. => .arguments

/-- The text of a fault of a value. -/
def message : ValueFault → String
  | .notOfType tool name wanted shown =>
      s!"The {tool}.{name} value should be {wanted}, not '{shown}'"
  | .below tool name limit value =>
      s!"{tool}.{name} must be >= {limit.text} but set to {value.text}"
  | .above tool name limit value =>
      s!"{tool}.{name} must be <= {limit.text} but set to {value.text}"
  | .notAnOption name shown options =>
      s!"The parameter {name} was set to {shown} when it must be one of:\n  " ++
        " ".intercalate options
  | .severalOptions name shown candidates =>
      s!"The parameter {name} was set to {shown} which matches multiple options:\n  " ++
        " ".intercalate candidates
  | .limitNotNumeric tool name limit =>
      s!"The {tool}.{name} limit {limit} does not resolve to a number"
  | .dangling tool holder target =>
      s!"Unable to resolve redirect {tool}.{holder} -> '{target}'"
  | .cycle tool start path =>
      s!"Redirect cycle detected for {tool}.{start}: " ++ " -> ".intercalate path
  | .tooManyArguments tool declared given =>
      s!"{tool} has {declared} parameters but was sent {given} positional arguments"

end ValueFault

/-- Why a store refuses a request. -/
inductive StoreFault where
  | unknownName (tool requested : String)
  | ambiguousName (tool requested : String) (candidates : List String)
  | value (fault : ValueFault)
deriving DecidableEq, Repr

/-- The text of a refusal. -/
def StoreFault.message : StoreFault → String
  | .unknownName tool requested =>
      s!"There is no parameter for {tool} that matches '{requested}'"
  | .ambiguousName tool requested candidates =>
      s!"Multiple matches for {tool} parameter '{requested}', choose from:\n  " ++
        " ".intercalate candidates
  | .value fault => fault.message

end ToolParams
