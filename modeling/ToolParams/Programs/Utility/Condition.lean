import ToolParams.Programs.Utility.Scanning
import ToolParams.Programs.Utility.Basic

/-!
# Conditions

The utility that tests texts, numbers and files.  A condition is read from the left;
an argument is an operator or an operand by what follows it.
-/

namespace ToolParams.Condition

/-- What an argument means in a condition. -/
inductive Meaning where
  | nothing
  | operand
  | negation
  | opening
  | closing
  | conjunction
  | disjunction
  | testOne (text : String)
  | testTwo (text : String)
deriving DecidableEq, Repr

def testsOfOne : List String :=
  ["-r", "-w", "-x", "-e", "-f", "-d", "-c", "-b", "-p", "-u", "-g", "-k", "-s", "-t", "-z", "-n",
    "-h", "-L", "-O", "-G", "-S"]

def testsOfTwo : List String :=
  ["=", "!=", "<", ">", "-eq", "-ne", "-ge", "-gt", "-le", "-lt", "-nt", "-ot", "-ef"]

/-- The operator that an argument may be. -/
def operator? (argument : String) : Option Meaning :=
  if argument = "!" then some .negation
  else if argument = "(" then some .opening
  else if argument = ")" then some .closing
  else if argument = "-a" then some .conjunction
  else if argument = "-o" then some .disjunction
  else if testsOfOne.contains argument then some (.testOne argument)
  else if testsOfTwo.contains argument then some (.testTwo argument)
  else none

def isTestOfTwo (argument : String) : Bool := testsOfTwo.contains argument

/-- What the first of some arguments means. -/
def meaning : List String → Meaning
  | [] => .nothing
  | argument :: rest =>
      match operator? argument with
      | none => .operand
      | some (.testOne text) =>
          let isOperand := match rest with
            | [] => true
            | [_] => false
            | second :: _ => isTestOfTwo second
          if isOperand then .operand else .testOne text
      | some .opening => if rest.isEmpty then .operand else .opening
      | some found => found

/-- Tests a file. -/
def testFile (files : FileTree) (test path : String) : Bool :=
  if test = "-h" || test = "-L" then
    match files.locate path .itself with
    | .ok place =>
        match files.node? place with
        | some (.link _) => true
        | _ => false
    | .error _ => false
  else match files.lookup path with
    | .error _ => false
    | .ok node =>
        let isDevice := match files.locate path .followed with
          | .ok place => Work.discarding.contains place
          | .error _ => false
        let plainTest := ["-e", "-O", "-G"].contains test
        let isAllowed (mode : Nat) : Bool := (test = "-r" && FileTree.isReadable mode) ||
          (test = "-w" && FileTree.isWritable mode) || (test = "-x" && FileTree.isRunnable mode) ||
          (test = "-u" && mode.testBit 11) || (test = "-g" && mode.testBit 10) ||
          (test = "-k" && mode.testBit 9)
        match node with
        | .directory mode => plainTest || ["-d", "-s"].contains test || isAllowed mode
        | .file content mode =>
            if isDevice then plainTest || test = "-c" || isAllowed mode
            else plainTest || test = "-f" || (test = "-s" && content ≠ "") || isAllowed mode
        | .link _ => false

/-- Whether two paths lead to one file. -/
def sameFile (files : FileTree) (left right : String) : Bool :=
  match files.locate left .followed, files.locate right .followed with
  | .ok first, .ok second => first = second && (files.node? first).isSome
  | _, _ => false

/-- Reads a number. -/
def number (argument : String) : Except String Int :=
  match Scanning.whole? argument with
  | some value =>
      if -9223372036854775808 ≤ value && value ≤ 9223372036854775807 then .ok value
      else .error s!"Illegal number: {argument}"
  | none => .error s!"Illegal number: {argument}"

/-- The result of a test of one operand. -/
def evaluateOne (files : FileTree) (test argument : String) : Except String Bool :=
  if test = "-z" then .ok (argument = "")
  else if test = "-n" then .ok (argument ≠ "")
  else if test = "-t" then do
    let _ ← number argument
    return false
  else .ok (testFile files test argument)

/-- The result of a test of two operands. -/
def evaluateTwo (files : FileTree) (left test right : String) : Except String Bool :=
  let numbers (compare : Int → Int → Bool) : Except String Bool := do
    let first ← number left
    return compare first (← number right)
  let before (left right : String) : Bool := decide (left < right)
  match test with
  | "=" => .ok (left = right)
  | "!=" => .ok (left ≠ right)
  | "<" => .ok (before left right)
  | ">" => .ok (before right left)
  | "-eq" => numbers fun left right => left = right
  | "-ne" => numbers fun left right => left ≠ right
  | "-lt" => numbers fun left right => left < right
  | "-le" => numbers fun left right => left ≤ right
  | "-gt" => numbers fun left right => right < left
  | "-ge" => numbers fun left right => right ≤ left
  | "-ef" => .ok (sameFile files left right)
  | _ => .ok false

/-- How a part of a condition is joined. -/
inductive Level where
  | disjunction
  | conjunction
  | negation
  | single
deriving DecidableEq, Repr

/-- The result of the part of a condition that begins at the first of some arguments,
whose meaning is given.  The arguments that are left begin with the last one that
belongs to the part. -/
def evaluate (files : FileTree) :
    Nat → Level → Meaning → List String → Except String (Bool × List String)
  | 0, _, _, arguments => .ok (false, arguments)
  | fuel + 1, .disjunction, found, arguments => do
      let (first, left) ← evaluate files fuel .conjunction found arguments
      if meaning (left.drop 1) ≠ .disjunction then return (first, left)
      let next := left.drop 2
      let (second, left) ← evaluate files fuel .disjunction (meaning next) next
      return (first || second, left)
  | fuel + 1, .conjunction, found, arguments => do
      let (first, left) ← evaluate files fuel .negation found arguments
      if meaning (left.drop 1) ≠ .conjunction then return (first, left)
      let next := left.drop 2
      let (second, left) ← evaluate files fuel .conjunction (meaning next) next
      return (first && second, left)
  | fuel + 1, .negation, found, arguments =>
      if found ≠ .negation then evaluate files fuel .single found arguments
      else do
        let next := arguments.drop 1
        let behind := meaning next
        let (result, left) ← evaluate files fuel .negation behind
          (if behind = .nothing then arguments else next)
        return (!result, left)
  | fuel + 1, .single, found, arguments =>
      match found with
      | .nothing => .ok (false, arguments)
      | .opening => do
          let inside := arguments.drop 1
          let behind := meaning inside
          if behind = .closing then return (false, inside)
          let (result, left) ← evaluate files fuel .disjunction behind inside
          if meaning (left.drop 1) ≠ .closing then throw "closing paren expected"
          return (result, left.drop 1)
      | .testOne test =>
          match arguments.drop 1 with
          | [] => .error s!"{test}: argument expected"
          | argument :: rest => do
              return (← evaluateOne files test argument, argument :: rest)
      | _ =>
          match arguments with
          | [] => .ok (false, [])
          | left :: rest =>
              match meaning rest, rest with
              | .testTwo test, _ :: right :: others => do
                  return (← evaluateTwo files left test right, right :: others)
              | .testTwo test, _ => .error s!"{test}: argument expected"
              | _, _ => .ok (left ≠ "", left :: rest)

/-- The result of a condition that all arguments belong to. -/
def evaluateAll (files : FileTree) (found : Meaning) (arguments : List String) :
    Except String Bool := do
  let (result, left) ← evaluate files (8 * arguments.length + 8) .disjunction found arguments
  match left with
  | last :: _ :: _ => throw s!"{last}: unexpected operator"
  | _ => return result

/-- Whether arguments hold.  Up to four of them are read by their number. -/
def holds (files : FileTree) : Nat → List String → Except String Bool
  | 0, _ => .ok false
  | _, [] => .ok false
  | fuel + 1, arguments =>
      match arguments with
      | [left, test, right] =>
          if isTestOfTwo test then evaluateAll files .operand arguments
          else few fuel left [test, right]
      | [first, second, third, fourth] => few fuel first [second, third, fourth]
      | _ => evaluateAll files (meaning arguments) arguments
where
  few (fuel : Nat) (first : String) (others : List String) : Except String Bool :=
    if first = "(" && others.getLast? = some ")" then
      evaluateAll files (meaning others.dropLast) others.dropLast
    else if first = "!" then (holds files fuel others).map (!·)
    else evaluateAll files (meaning (first :: others)) (first :: others)

/-- Reports zero if arguments hold, one if not, and two if they are no condition. -/
def report (arguments : List String) : Work Unit := do
  match holds (← Work.files) (arguments.length + 1) arguments with
  | .ok true => Work.finish 0
  | .ok false => Work.finish 1
  | .error text => Work.complain 2 text

/-- The condition of all arguments. -/
def test : Utility := report

/-- The condition of the arguments up to a closing bracket, which has to be the last. -/
def bracket : Utility := fun arguments =>
  if (arguments.getLastD "").toList.head? = some ']' then report arguments.dropLast
  else Work.complain 2 "missing ]"

end ToolParams.Condition
