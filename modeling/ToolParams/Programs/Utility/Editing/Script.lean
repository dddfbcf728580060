import ToolParams.Programs.Regular

/-!
# Scripts that edit lines

A script is a list of steps, each for some of the lines.  Blocks and jumps lead to the
number of a step.
-/

namespace ToolParams.Editing

/-- Which line a step is for. -/
inductive Address where
  | line (number : Nat)
  /-- the first line, and every so many lines behind it -/
  | every (first step : Nat)
  | last
  /-- lines that match; without an expression, the one that was used last -/
  | matching (search : Option Search)

/-- Where a range of lines ends. -/
inductive RangeEnd where
  | address (address : Address)
  | plus (count : Nat)
  | multiple (factor : Nat)

/-- The lines that a step is for. -/
structure Selector where
  first : Option Address
  second : Option RangeEnd
  negated : Bool

/-- How the case of letters changes in a replacement. -/
inductive CaseChange where
  | upper
  | lower
  | upperOnce
  | lowerOnce
  | none
deriving DecidableEq, Repr

/-- A piece of a replacement. -/
inductive ReplacementPiece where
  | text (content : List Char)
  /-- what the part with a number matched; the whole match for zero -/
  | group (number : Nat)
  | change (kind : CaseChange)
deriving DecidableEq, Repr

/-- A replacement of matches. -/
structure Substitution where
  search : Option Search
  pieces : List ReplacementPiece
  /-- which match is the first to be replaced -/
  which : Nat
  everywhere : Bool
  printing : Bool
  file : Option String

/-- When a jump is made. -/
inductive JumpCondition where
  | always
  | ifReplaced
  | ifNotReplaced
deriving DecidableEq, Repr

/-- What a step does. -/
inductive Deed where
  /-- begins a block, whose end has a number -/
  | block (closing : Nat)
  | nothing
  | number
  | append (text : String)
  | insert (text : String)
  | replaceLines (text : String)
  | jump (condition : JumpCondition) (label : String)
  | delete
  | deleteFirst
  | getHeld (adding : Bool)
  | hold (adding : Bool)
  | exchange
  | next (adding : Bool)
  | print
  | printFirst
  | printPlainly
  | quit (printing : Bool) (status : Nat)
  | readFile (path : String)
  | writeFile (path : String)
  | substitute (change : Substitution)
  | translate (pairs : List (Char × Char))
  | clear
  | fileName

/-- A step of a script. -/
structure Step where
  selector : Selector
  deed : Deed

/-- A script that is ready to run. -/
structure Script where
  steps : Array Step
  /-- the numbers of the steps behind labels -/
  labels : List (String × Nat)

/-- What is wrong with a script, and how much of it was read when that was seen. -/
structure ScriptFault where
  used : Nat
  text : String
deriving DecidableEq, Repr

end ToolParams.Editing
