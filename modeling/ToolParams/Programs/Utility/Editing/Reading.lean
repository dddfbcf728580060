import ToolParams.Programs.Utility.Editing.Script
import ToolParams.Programs.Utility.Printing

/-!
# Reading scripts that edit lines

A script is read from the left.  A fault knows how much of the script was read when it was
seen.
-/

namespace ToolParams.Editing

/-- What is left of a script. -/
structure ScriptSource where
  rest : List Char
  used : Nat

abbrev Reader := StateT ScriptSource (Except ScriptFault)

/-- Finds fault with what was just read. -/
def refuse {α : Type} (text : String) : Reader α := do
  throw ⟨(← get).used, text⟩

def next? : Reader (Option Char) := do
  match (← get).rest with
  | [] => return none
  | character :: rest =>
      set (⟨rest, (← get).used + 1⟩ : ScriptSource)
      return some character

/-- The next character, which stays. -/
def peek : Reader (Option Char) := return (← get).rest.head?

/-- Reads the characters at the front that pass a test. -/
def readWhile (test : Char → Bool) : Reader (List Char) := do
  let source ← get
  let taken := source.rest.takeWhile test
  set (⟨source.rest.drop taken.length, source.used + taken.length⟩ : ScriptSource)
  return taken

/-- Reads blanks, but no ends of lines. -/
def skipBlanks : Reader Unit := do
  let _ ← readWhile fun character => character ≠ '\n' && Scanning.isBlank character

def readNumber : Reader Nat := return Number.digitsValue (← readWhile Char.isDigit)

/-- Reads up to a mark.  Behind a backslash the mark stands for itself; in an expression
it does so between brackets as well. -/
def readUntil (mark : Char) (isExpression : Bool) :
    Nat → (bracket : Nat) → List Char → Reader (Option (List Char))
  | 0, _, _ => return none
  | fuel + 1, bracket, taken => do
      match ← next? with
      | none => return none
      | some character =>
          if bracket ≠ 0 then
            if character = '\n' then return none
            let closes := character = ']' && 3 ≤ bracket
            let bracket := if closes then 0
              else if bracket = 1 && character = '^' then 2
              else 3
            readUntil mark isExpression fuel bracket (character :: taken)
          else if character = mark then return some taken.reverse
          else if character = '\\' then
            match ← next? with
            | none => return none
            | some escaped =>
                if escaped = mark && !(mark = '&' && !isExpression) then
                  readUntil mark isExpression fuel 0 (escaped :: taken)
                else if escaped = '\n' && isExpression then
                  readUntil mark isExpression fuel 0 ('\n' :: taken)
                else readUntil mark isExpression fuel 0 (escaped :: '\\' :: taken)
          else if character = '\n' && isExpression then return none
          else
            readUntil mark isExpression fuel
              (if isExpression && character = '[' then 1 else 0) (character :: taken)

/-- The bytes of letters behind a backslash that expressions do not know. -/
def letterBytes : List (Char × Char) :=
  [('a', '\x07'), ('f', '\x0c'), ('n', '\n'), ('r', '\r'), ('t', '\t'), ('v', '\x0b')]

/-- The character of the escape behind a backslash, and what follows. -/
def escape? : List Char → Option (Char × List Char)
  | 'x' :: rest =>
      let digits := (Scanning.spanBase 16 (rest.take 2)).1
      if digits.isEmpty then none
      else some (Printing.byte (Scanning.valueOf 16 digits), rest.drop digits.length)
  | 'o' :: rest =>
      let digits := (Scanning.spanBase 8 (rest.take 3)).1
      if digits.isEmpty then none
      else some (Printing.byte (Scanning.valueOf 8 digits), rest.drop digits.length)
  | 'd' :: rest =>
      let digits := (rest.take 3).takeWhile Char.isDigit
      if digits.isEmpty then none
      else some (Printing.byte (Number.digitsValue digits), rest.drop digits.length)
  | letter :: rest => (letterBytes.lookup letter).map fun byte => (byte, rest)
  | [] => none

/-- An expression with the escapes of bytes replaced. -/
def withBytes : Nat → List Char → List Char
  | 0, characters => characters
  | _, [] => []
  | fuel + 1, '\\' :: rest =>
      match escape? rest, rest with
      | some (byte, left), _ =>
          let special := ['*', '.', '[', ']', '^', '$', '\\', '+', '?'].contains byte
          (if special then ['\\', byte] else [byte]) ++ withBytes fuel left
      | none, character :: left => '\\' :: character :: withBytes fuel left
      | none, [] => ['\\']
  | fuel + 1, character :: rest => character :: withBytes fuel rest

/-- Reads an expression; an empty one stands for the one that was used last. -/
def readSearch (extended foldCase byLines : Bool) (source : List Char) :
    Reader (Option Search) := do
  if source.isEmpty then return none
  let dialect : Regular.Dialect := ⟨extended, foldCase, false, byLines, false⟩
  match Regular.read dialect (withBytes (source.length + 1) source) with
  | .ok search => return some search
  | .error fault => refuse fault.message

/-- Reads an address. -/
def readAddress? (extended : Bool) : Reader (Option Address) := do
  let size := (← get).rest.length + 1
  match ← peek with
  | none => return none
  | some character =>
      if character = '$' then
        let _ ← next?
        return some .last
      else if character.isDigit then
        let first ← readNumber
        skipBlanks
        if (← peek) = some '~' then
          let _ ← next?
          return some (.every first (← readNumber))
        return some (.line first)
      else if character = '/' || character = '\\' then
        let _ ← next?
        let mark ← if character = '/' then pure '/' else do
          match ← next? with
          | some mark => pure mark
          | none => refuse "unexpected `,'"
        match ← readUntil mark true size 0 [] with
        | none => refuse "unterminated address regex"
        | some source =>
            let flags ← readWhile fun flag => flag = 'I' || flag = 'M'
            return some
              (.matching (← readSearch extended (flags.contains 'I') (flags.contains 'M') source))
      else return none

/-- Reads the lines that a step is for. -/
def readSelector (extended : Bool) : Reader Selector := do
  let first ← readAddress? extended
  skipBlanks
  let second ←
    if first.isSome && (← peek) = some ',' then do
      let _ ← next?
      skipBlanks
      match ← peek with
      | some '+' => do
          let _ ← next?
          pure (some (RangeEnd.plus (← readNumber)))
      | some '~' => do
          let _ ← next?
          pure (some (RangeEnd.multiple (← readNumber)))
      | _ => do
          match ← readAddress? extended with
          | some address => pure (some (RangeEnd.address address))
          | none => refuse "unexpected `,'"
    else pure none
  if let some (.line 0) := first then
    match second with
    | some (.address (.matching _)) => pure ()
    | _ =>
        let _ ← next?
        refuse "invalid usage of line address 0"
  skipBlanks
  let mut negated := false
  if (← peek) = some '!' then
    let _ ← next?
    negated := true
    skipBlanks
    if (← peek) = some '!' then
      let _ ← next?
      refuse "multiple `!'s"
  return ⟨first, second, negated⟩

/-- Reads the end of a step. -/
def readEnd : Reader Unit := do
  skipBlanks
  match ← peek with
  | none | some '\x7d' | some '#' => return ()
  | some character =>
      let _ ← next?
      if character ≠ '\n' && character ≠ ';' then refuse "extra characters after command"

/-- The lines of a text that a step writes: up to an end of line without a backslash. -/
def textLines : Nat → List Char → List Char → Reader (List Char)
  | 0, taken, _ => return taken.reverse
  | fuel + 1, taken, stop => do
      match ← next? with
      | none => return taken.reverse
      | some '\n' => return taken.reverse
      | some '\\' =>
          match (← get).rest, ← next? with
          | _, none => return taken.reverse
          | _, some '\n' => textLines fuel ('\n' :: taken) stop
          | _, some character =>
              match letterBytes.lookup character with
              | some byte => textLines fuel (byte :: taken) stop
              | none => textLines fuel (character :: taken) stop
      | some character => textLines fuel (character :: taken) stop

/-- Reads the text that a step writes. -/
def readText : Reader String := do
  let size := (← get).rest.length + 1
  skipBlanks
  match ← peek with
  | none => refuse "expected \\ after `a', `c' or `i'"
  | some '\\' =>
      let _ ← next?
      let blanks ← readWhile fun character => character = ' ' || character = '\t'
      match ← peek with
      | some '\n' => let _ ← next?
      | some _ => set { ← get with rest := blanks ++ (← get).rest }
      | none => pure ()
      if (← get).rest.isEmpty then return ""
      return String.ofList (← textLines size [] []) ++ "\n"
  | some _ => return String.ofList (← textLines size [] []) ++ "\n"

/-- Reads the name of a file, which goes to the end of the line. -/
def readFileName : Reader String := do
  skipBlanks
  let name ← readWhile (· ≠ '\n')
  if name.isEmpty then refuse "missing filename in r/R/w/W commands"
  let _ ← next?
  return String.ofList name

/-- The pieces of a replacement. -/
def replacementPieces : Nat → List Char → List ReplacementPiece
  | 0, _ => []
  | _, [] => []
  | fuel + 1, '&' :: rest => .group 0 :: replacementPieces fuel rest
  | fuel + 1, '\\' :: rest =>
      match rest with
      | [] => [.text ['\\']]
      | character :: left =>
          let changes : List (Char × CaseChange) := [('U', .upper), ('L', .lower),
            ('u', .upperOnce), ('l', .lowerOnce), ('E', .none)]
          if character.isDigit then
            .group (character.toNat - 48) :: replacementPieces fuel left
          else match changes.lookup character, escape? rest with
            | some change, _ => .change change :: replacementPieces fuel left
            | none, some (byte, others) => .text [byte] :: replacementPieces fuel others
            | none, none => .text [character] :: replacementPieces fuel left
  | fuel + 1, character :: rest => .text [character] :: replacementPieces fuel rest

/-- The number of groups that an expression has. -/
def groupCount : Regular → Nat
  | .group number body => max number (groupCount body)
  | .sequence first second => max (groupCount first) (groupCount second)
  | .either first second => max (groupCount first) (groupCount second)
  | .repeated body _ _ => groupCount body
  | _ => 0

/-- The flags behind a replacement. -/
structure ReplacementFlags where
  everywhere : Bool
  printing : Bool
  foldCase : Bool
  byLines : Bool
  which : Option Nat
  file : Option String

/-- Reads the flags behind a replacement. -/
def readFlags : Nat → ReplacementFlags → Reader ReplacementFlags
  | 0, flags => return flags
  | fuel + 1, flags => do
      match ← peek with
      | none | some '\x7d' | some '#' => return flags
      | some '\n' | some ';' =>
          let _ ← next?
          return flags
      | some character =>
          if character.isDigit then
            let which ← readNumber
            if which = 0 then refuse "number option to `s' command may not be zero"
            if flags.which.isSome then refuse "multiple number options to `s' command"
            readFlags fuel { flags with which := some which }
          else
            let _ ← next?
            match character with
            | 'g' =>
                if flags.everywhere then refuse "multiple `g' options to `s' command"
                readFlags fuel { flags with everywhere := true }
            | 'p' =>
                if flags.printing then refuse "multiple `p' options to `s' command"
                readFlags fuel { flags with printing := true }
            | 'i' | 'I' => readFlags fuel { flags with foldCase := true }
            | 'm' | 'M' => readFlags fuel { flags with byLines := true }
            | 'e' => readFlags fuel flags
            | 'w' => return { flags with file := some (← readFileName) }
            | '\r' => readFlags fuel flags
            | _ =>
                if Scanning.isBlank character then readFlags fuel flags
                else refuse "unknown option to `s'"

/-- Reads a replacement of matches. -/
def readSubstitution (extended : Bool) : Reader Substitution := do
  let size := (← get).rest.length + 1
  let unterminated {α : Type} : Reader α := refuse "unterminated `s' command"
  match ← next? with
  | none => unterminated
  | some mark =>
      let some source ← readUntil mark true size 0 [] | unterminated
      let some replacement ← readUntil mark false size 0 [] | unterminated
      let flags ← readFlags size ⟨false, false, false, false, none, none⟩
      let search ← readSearch extended flags.foldCase flags.byLines source
      let pieces := replacementPieces (replacement.length + 1) replacement
      let groups := (search.map fun search => groupCount search.expression).getD 9
      for piece in pieces do
        if let .group number := piece then
          if groups < number then
            refuse s!"invalid reference \\{number} on `s' command's RHS"
      return { search, pieces, which := flags.which.getD 1, everywhere := flags.everywhere
               printing := flags.printing, file := flags.file }

/-- A set of characters for a translation, with its escapes replaced. -/
def plainCharacters : List Char → List Char
  | '\\' :: '\\' :: rest => '\\' :: plainCharacters rest
  | '\\' :: 'n' :: rest => '\n' :: plainCharacters rest
  | '\\' :: 't' :: rest => '\t' :: plainCharacters rest
  | character :: rest => character :: plainCharacters rest
  | [] => []

/-- Reads a translation of characters. -/
def readTranslation : Reader (List (Char × Char)) := do
  let size := (← get).rest.length + 1
  let unterminated {α : Type} : Reader α := refuse "unterminated `y' command"
  match ← next? with
  | none => unterminated
  | some mark =>
      let some sources ← readUntil mark false size 0 [] | unterminated
      let some targets ← readUntil mark false size 0 [] | unterminated
      let sources := plainCharacters sources
      let targets := plainCharacters targets
      if sources.length ≠ targets.length then
        refuse "strings for `y' command are different lengths"
      readEnd
      return sources.zip targets

def readLabel : Reader String := do
  skipBlanks
  let label ← readWhile fun character => character ≠ ';' && !Scanning.isBlank character
  return String.ofList label

/-- Reads what a step does, behind its letter. -/
def readDeed (extended : Bool) (letter : Char) : Reader Deed := do
  let simple (deed : Deed) : Reader Deed := do
    readEnd
    return deed
  let jump (condition : JumpCondition) : Reader Deed := do
    let label ← readLabel
    readEnd
    return .jump condition label
  let quit (printing : Bool) : Reader Deed := do
    skipBlanks
    let status ← readNumber
    readEnd
    return .quit printing status
  match letter with
  | '=' => simple .number
  | 'a' => return .append (← readText)
  | 'i' => return .insert (← readText)
  | 'c' => return .replaceLines (← readText)
  | 'b' => jump .always
  | 't' => jump .ifReplaced
  | 'T' => jump .ifNotReplaced
  | 'd' => simple .delete
  | 'D' => simple .deleteFirst
  | 'g' => simple (.getHeld false)
  | 'G' => simple (.getHeld true)
  | 'h' => simple (.hold false)
  | 'H' => simple (.hold true)
  | 'x' => simple .exchange
  | 'n' => simple (.next false)
  | 'N' => simple (.next true)
  | 'p' => simple .print
  | 'P' => simple .printFirst
  | 'l' =>
      skipBlanks
      let _ ← readNumber
      simple .printPlainly
  | 'q' => quit true
  | 'Q' => quit false
  | 'r' => return .readFile (← readFileName)
  | 'w' => return .writeFile (← readFileName)
  | 's' => return .substitute (← readSubstitution extended)
  | 'y' => return .translate (← readTranslation)
  | 'z' => simple .clear
  | 'F' => simple .fileName
  | _ => refuse s!"unknown command: `{letter}'"

/-- What was read of a script, the latest step first, with the numbers of the blocks that
are open. -/
structure Draft where
  steps : List Step
  labels : List (String × Nat)
  opened : List Nat
  closed : List (Nat × Nat)

/-- Reads steps to the end of a script. -/
def readSteps (extended : Bool) : Nat → Draft → Reader Draft
  | 0, draft => return draft
  | fuel + 1, draft => do
      let _ ← readWhile fun character => character = ';' || Scanning.isBlank character
      if (← peek).isNone then return draft
      let selector ← readSelector extended
      let number := draft.steps.length
      let onward (deed : Deed) : Draft := { draft with steps := ⟨selector, deed⟩ :: draft.steps }
      let single : Bool := match selector.second with
        | some _ => false
        | none => true
      match ← next? with
      | none => refuse "missing command"
      | some '#' =>
          if selector.first.isSome then refuse "comments don't accept any addresses"
          let _ ← readWhile (· ≠ '\n')
          readSteps extended fuel draft
      | some ':' =>
          if selector.first.isSome then refuse ": doesn't want any addresses"
          let label ← readLabel
          if label = "" then refuse "\":\" lacks a label"
          readSteps extended fuel
            { onward .nothing with labels := (label, number) :: draft.labels }
      | some '\x7b' =>
          readSteps extended fuel { onward (.block 0) with opened := number :: draft.opened }
      | some '\x7d' =>
          match draft.opened with
          | [] => refuse "unexpected `\x7d'"
          | opened :: others =>
              if selector.first.isSome then refuse "\x7d doesn't want any addresses"
              readEnd
              readSteps extended fuel { onward .nothing with
                opened := others, closed := (opened, number) :: draft.closed }
      | some '\n' => refuse "missing command"
      | some letter =>
          if !single && (letter = 'q' || letter = 'Q') then
            refuse "command only uses one address"
          let deed ← readDeed extended letter
          readSteps extended fuel (onward deed)

/-- Reads a script. -/
def readScript (extended : Bool) (source : List Char) : Except ScriptFault Script := do
  let (draft, _) ← (readSteps extended (source.length + 1) ⟨[], [], [], []⟩).run ⟨source, 0⟩
  if !draft.opened.isEmpty then throw ⟨0, "unmatched `\x7b'"⟩
  let steps := draft.steps.reverse.zipIdx.map fun (step, number) =>
    match step.deed with
    | .block _ => { step with deed := .block ((draft.closed.lookup number).getD 0) }
    | _ => step
  return ⟨steps.toArray, draft.labels⟩

end ToolParams.Editing
