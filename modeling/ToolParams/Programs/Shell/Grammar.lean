import ToolParams.Programs.Shell.Token

/-!
# Reading commands

A script is read line by line, so that a line can run before the next one is read.  A
command with several parts reads on over as many lines as it needs.  What stands inside
other commands is read by a given reader, which the last definitions tie to a bounded
depth.
-/

namespace ToolParams.Shell

/-- Where a list of commands stands. -/
inductive ListPlace where
  /-- on a line of the script -/
  | line
  /-- inside a command -/
  | nested
  /-- inside a command that needs none -/
  | optional
deriving DecidableEq, Repr

/-- What is read inside other commands. -/
inductive Part where
  | list (place : ListPlace)
  | command
deriving DecidableEq, Repr

/-- Reads what stands inside other commands. -/
abbrev Inner := Part → Reader (Option Command)

namespace Inner

/-- The commands inside a word. -/
def bodies (inner : Inner) : Bodies := fun closed => do
  let body ← inner (.list .optional)
  if closed then
    match ← readToken (fun _ => inner (.list .optional)) .plain with
    | .sign ")" => return body
    | token => unexpected token (some "\")\"")
  else return body

def token (inner : Inner) (mode : TokenMode) : Reader Token :=
  readToken inner.bodies mode

def nested (inner : Inner) : Reader (Option Command) := inner (.list .nested)

def keyword (inner : Inner) (mode : TokenMode) (wanted : String) : Reader Unit := do
  match ← inner.token mode with
  | .keyword name =>
      if name = wanted then return ()
      else unexpected (.keyword name) (some s!"\"{wanted}\"")
  | token => unexpected token (some s!"\"{wanted}\"")

end Inner

/-- The name before an equality sign at the front of a word, and the rest of the word. -/
def assignment? : Word → Option (String × Word)
  | .text content false :: others =>
      let name := content.takeWhile (· ≠ '=')
      if isName name && name.length < content.length then
        some (String.ofList name,
          match content.drop (name.length + 1) with
          | [] => others
          | value => .text value false :: others)
      else none
  | _ => none

/-- Names that no function can have. -/
def reservedNames : List String :=
  [".", ":", "break", "continue", "eval", "exec", "exit", "export", "readonly", "return",
    "set", "shift", "trap", "unset"]

/-- What a simple command is made of, the latest parts first. -/
structure SimpleParts where
  assignments : List (String × Word)
  words : List (Word × Bool)
  redirections : List Redirection

/-- Reads the rest of a simple command. -/
def readSimple (inner : Inner) (line : Nat) : Nat → SimpleParts → Reader Command
  | 0, _ => Reader.fail .tooDeep
  | fuel + 1, parts => do
      let finished : Command :=
        .simple line parts.assignments.reverse (parts.words.reverse.map (·.1))
          parts.redirections.reverse
      match ← inner.token .plain with
      | .word word quoted =>
          match if parts.words.isEmpty then assignment? word else none with
          | some assignment =>
              readSimple inner line fuel
                { parts with assignments := assignment :: parts.assignments }
          | none => readSimple inner line fuel { parts with words := (word, quoted) :: parts.words }
      | .redirect descriptor sign =>
          let redirection ← readRedirection inner.bodies descriptor sign
          readSimple inner line fuel
            { parts with redirections := redirection :: parts.redirections }
      | .sign "(" =>
          match parts.words, parts.assignments, parts.redirections with
          | [(word, _)], [], [] =>
              match ← inner.token .plain with
              | .sign ")" =>
                  let name := (Word.literal? word).getD []
                  if !isName name || reservedNames.contains (String.ofList name) then
                    Reader.fail .functionName
                  return .define (String.ofList name) (← inner .command)
              | token => unexpected token (some "\")\"")
          | _, _, _ =>
              putBack (.sign "(")
              return finished
      | token =>
          putBack token
          return finished

/-- Reads the words of a loop up to the end of their line. -/
def readLoopWords (inner : Inner) : Nat → List Word → Reader (List Word)
  | 0, _ => Reader.fail .tooDeep
  | fuel + 1, soFar => do
      match ← inner.token .plain with
      | .word word _ => readLoopWords inner fuel (word :: soFar)
      | .newline | .sign ";" => return soFar.reverse
      | token => unexpected token none

/-- Reads a loop over words behind its keyword. -/
def readForEach (inner : Inner) (line : Nat) : Reader Command := do
  let name ← match ← inner.token .plain with
    | .word word false =>
        let name := (Word.literal? word).getD []
        if isName name then pure (String.ofList name) else Reader.fail .loopVariable
    | _ => Reader.fail .loopVariable
  let words ← match ← inner.token .onward with
    | .keyword "in" => readLoopWords inner (← Reader.size) []
    | token =>
        match token with
        | .sign ";" => pure ()
        | _ => putBack token
        pure [[.parameter "@" .asIs true]]
  inner.keyword .onward "do"
  let body ← inner.nested
  inner.keyword .plain "done"
  return .forEach line name words body

/-- The word of a token; keywords are words among patterns. -/
def Token.toWord : Token → Word
  | .word pieces _ => pieces
  | .keyword name => [.text name.toList false]
  | _ => []

/-- Reads the patterns of a case behind the first one, up to the closing bracket. -/
def readPatterns (inner : Inner) : Nat → List Word → Reader (List Word)
  | 0, _ => Reader.fail .tooDeep
  | fuel + 1, soFar => do
      match ← inner.token .plain with
      | .sign "|" => readPatterns inner fuel ((← inner.token .plain).toWord :: soFar)
      | .sign ")" => return soFar.reverse
      | token => unexpected token (some "\")\"")

/-- Reads the cases of a selection up to its last keyword. -/
def readCases (inner : Inner) :
    Nat → List (List Word × Option Command) → Reader (List (List Word × Option Command))
  | 0, _ => Reader.fail .tooDeep
  | fuel + 1, soFar => do
      match ← inner.token .onward with
      | .keyword "esac" => return soFar.reverse
      | token =>
          let first ← match token with
            | .sign "(" => inner.token .plain
            | _ => pure token
          let patterns ← readPatterns inner (← Reader.size) [first.toWord]
          let body ← inner (.list .optional)
          let soFar := (patterns, body) :: soFar
          match ← inner.token .onward with
          | .keyword "esac" => return soFar.reverse
          | .sign ";;" => readCases inner fuel soFar
          | token => unexpected token (some "\";;\"")

def readSelection (inner : Inner) (line : Nat) : Reader Command := do
  let subject ← match ← inner.token .plain with
    | .word word _ => pure word
    | token => unexpected token (some "word")
  inner.keyword .onward "in"
  return .selection line subject (← readCases inner (← Reader.size) [])

/-- Reads a choice behind the keyword in front of its condition, up to its end. -/
def readChoice (inner : Inner) : Nat → Reader Command
  | 0 => Reader.fail .tooDeep
  | fuel + 1 => do
      let condition ← inner.nested
      inner.keyword .plain "then"
      let yes ← inner.nested
      match ← inner.token .plain with
      | .keyword "elif" => return .choice condition yes (some (← readChoice inner fuel))
      | .keyword "else" =>
          let no ← inner.nested
          inner.keyword .plain "fi"
          return .choice condition yes no
      | .keyword "fi" => return .choice condition yes none
      | token => unexpected token (some "\"fi\"")

def readLoop (inner : Inner) (holds : Bool) : Reader Command := do
  let condition ← inner.nested
  inner.keyword .plain "do"
  let body ← inner.nested
  inner.keyword .plain "done"
  return .loop holds condition body

/-- Reads the redirections behind a command. -/
def readRedirections (inner : Inner) : Nat → List Redirection → Reader (List Redirection)
  | 0, _ => Reader.fail .tooDeep
  | fuel + 1, soFar => do
      match ← inner.token .first with
      | .redirect descriptor sign =>
          let redirection ← readRedirection inner.bodies descriptor sign
          readRedirections inner fuel (redirection :: soFar)
      | token =>
          putBack token
          return soFar.reverse

/-- Reads a command. -/
def readCommand (inner : Inner) (mode : TokenMode) : Reader (Option Command) := do
  let line := (← get).line
  let finish (body : Option Command) : Reader (Option Command) := do
    let redirections ← readRedirections inner (← Reader.size) []
    if redirections.isEmpty then return body
    else return some (.redirected line body redirections)
  match ← inner.token mode with
  | .keyword "if" => finish (some (← readChoice inner (← Reader.size)))
  | .keyword "while" => finish (some (← readLoop inner true))
  | .keyword "until" => finish (some (← readLoop inner false))
  | .keyword "for" => finish (some (← readForEach inner line))
  | .keyword "case" => finish (some (← readSelection inner line))
  | .keyword "\x7b" =>
      let body ← inner.nested
      inner.keyword .plain "\x7d"
      finish body
  | .sign "(" =>
      let body ← inner.nested
      match ← inner.token .plain with
      | .sign ")" =>
          let redirections ← readRedirections inner (← Reader.size) []
          return some (.subshell line body redirections)
      | token => unexpected token (some "\")\"")
  | .word word quoted =>
      putBack (.word word quoted)
      return some (← readSimple inner (← get).line (← Reader.size) ⟨[], [], []⟩)
  | .redirect descriptor sign =>
      putBack (.redirect descriptor sign)
      return some (← readSimple inner (← get).line (← Reader.size) ⟨[], [], []⟩)
  | token => unexpected token none

/-- Reads the commands of a pipeline behind the first one, the latest first. -/
def readPipes (inner : Inner) : Nat → List (Option Command) → Reader (List (Option Command))
  | 0, _ => Reader.fail .tooDeep
  | fuel + 1, soFar => do
      match ← inner.token .plain with
      | .sign "|" => readPipes inner fuel ((← readCommand inner .onward) :: soFar)
      | token =>
          putBack token
          return soFar.reverse

/-- Reads a pipeline, perhaps one that is negated. -/
def readPipeline (inner : Inner) (mode : TokenMode) : Reader (Option Command) := do
  let (negated, mode) ← match ← inner.token mode with
    | .keyword "!" => pure (true, TokenMode.first)
    | token =>
        putBack token
        pure (false, TokenMode.plain)
  let first ← readCommand inner mode
  let body : Option Command ← match ← readPipes inner (← Reader.size) [first] with
    | [single] => pure single
    | parts => pure (some (.pipeline false parts))
  return if negated then some (.negation body) else body

/-- Reads the pipelines behind those that were read already. -/
def readAndOr (inner : Inner) : Nat → Option Command → Reader (Option Command)
  | 0, _ => Reader.fail .tooDeep
  | fuel + 1, soFar => do
      match ← inner.token .plain with
      | .sign "&&" =>
          readAndOr inner fuel (some (.both soFar (← readPipeline inner .onward)))
      | .sign "||" =>
          readAndOr inner fuel (some (.either soFar (← readPipeline inner .onward)))
      | token =>
          putBack token
          return soFar

/-- A command that nothing waits for. -/
def inBackground (line : Nat) : Option Command → Command
  | some (.pipeline _ parts) => .pipeline true parts
  | some (.redirected line body redirections) => .background line body redirections
  | body => .background line body []

def behind (soFar command : Option Command) : Option Command :=
  match soFar with
  | none => command
  | some first => some (.sequence (some first) command)

/-- Reads a list of commands behind those that were read already. -/
def readList (inner : Inner) (place : ListPlace) :
    Nat → Bool → Option Command → Reader (Option Command)
  | 0, _, _ => Reader.fail .tooDeep
  | fuel + 1, started, soFar => do
      let mode := if place = .line then TokenMode.first else .onward
      match ← inner.token mode with
      | .newline => return soFar
      | .ending =>
          putBack .ending
          return soFar
      | token =>
          putBack token
          let mayEnd := place = .optional || (started && place = .nested)
          if mayEnd && endsList token then return soFar
          else
            let first ← readPipeline inner .plain
            let command ← readAndOr inner (← Reader.size) first
            let separator ← inner.token .plain
            let line := (← get).line
            let command := match separator with
              | .sign "&" => some (inBackground line command)
              | _ => command
            let soFar := behind soFar command
            match separator with
            | .newline | .ending =>
                putBack separator
                readList inner place fuel true soFar
            | .sign "&" | .sign ";" => readList inner place fuel true soFar
            | _ =>
                if place = .line then unexpected separator none
                else
                  putBack separator
                  return soFar

/-- Reads a part with the parts inside it, down to a depth. -/
def readPart : Nat → Inner
  | 0 => fun _ => Reader.fail .tooDeep
  | depth + 1 => fun part => do
      let inner := readPart depth
      match part with
      | .list place => readList inner place (← Reader.size) false none
      | .command => readCommand inner .onward

/-- How deeply commands may stand inside each other. -/
def deepestNesting : Nat := 400

/-- Reads the next line of commands; nothing at the end of the script. -/
def readLine : Reader (Option (Option Command)) := do
  let inner := readPart deepestNesting
  match ← inner.token .first with
  | .ending => return none
  | .newline => return some none
  | token =>
      putBack token
      return some (← inner (.list .line))

end ToolParams.Shell
