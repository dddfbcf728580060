import ToolParams.Programs.Pattern
import ToolParams.Programs.Shell.Arithmetic
import ToolParams.Programs.Shell.State
import ToolParams.Programs.Shell.Word

/-!
# Replacing the pieces of words

A word becomes any number of fields.  What a replacement brings in falls apart at
separators unless it is quoted, and a field with signs of a file name pattern that are not
quoted becomes the names of the files that match.
-/

namespace ToolParams.Shell

/-- A part of the fields that a word becomes. -/
inductive Glyph where
  /-- a character, perhaps a separator where it comes from a replacement -/
  | sign (character : Char) (quoted splits : Bool)
  /-- a quotation mark, which begins a field -/
  | mark
  /-- the border of a field; fields between firm ones may be empty -/
  | border (firm : Bool)
deriving DecidableEq, Repr

/-- How the output of commands is found. -/
abbrev Substitution := Option Command → Act String

/-- Where a tilde stands for a directory. -/
inductive TildePlace where
  | nowhere
  | front
  /-- at the front and behind colons -/
  | parts
deriving DecidableEq, Repr

/-- How a word is replaced. -/
structure Setting where
  /-- whether it falls apart into fields -/
  parted : Bool
  tilde : TildePlace
  /-- whether it stands inside a replacement that falls apart -/
  inside : Bool
deriving DecidableEq, Repr

namespace Setting

/-- A word that becomes fields. -/
def fields : Setting := ⟨true, .front, false⟩

/-- A word that stays one text. -/
def whole : Setting := ⟨false, .front, false⟩

def value : Setting := ⟨false, .parts, false⟩

/-- A text in which no tilde is replaced. -/
def text : Setting := ⟨false, .nowhere, false⟩

end Setting

/-- The separators if nothing else is said. -/
def standardSeparators : String := " \t\n"

/-- The characters that separate fields. -/
def State.separators (state : State) : List Char :=
  ((state.value? "IFS").getD standardSeparators).toList

/-- The options with letters, in the order of their places. -/
def optionLetters : List (String × Char) :=
  [("errexit", 'e'), ("noglob", 'f'), ("ignoreeof", 'I'), ("interactive", 'i'),
    ("monitor", 'm'), ("noexec", 'n'), ("stdin", 's'), ("xtrace", 'x'), ("verbose", 'v'),
    ("vi", 'V'), ("emacs", 'E'), ("noclobber", 'C'), ("allexport", 'a'), ("notify", 'b'),
    ("nounset", 'u'), ("privileged", 'p')]

/-- The value of a parameter that is one text. -/
def State.parameter? (state : State) (name : String) : Option String :=
  match name with
  | "#" => some (toString state.arguments.length)
  | "?" => some (toString state.status)
  | "$" => some (toString state.shell)
  | "!" => state.lastJob.map toString
  | "-" =>
      some (String.ofList ((optionLetters.reverse.filter fun entry => state.has entry.1).map (·.2)))
  | "0" => some state.name
  | _ =>
      match Scanning.natural? name with
      | some position => if position = 0 then some state.name else state.arguments[position - 1]?
      | none => state.value? name

def glyphsOf (quoted : Bool) (value : List Char) : List Glyph :=
  value.map fun character => .sign character quoted (!quoted)

/-- The value of a parameter as glyphs; nothing, if it has none. -/
def parameterGlyphs? (state : State) (setting : Setting) (quoted : Bool) (name : String) :
    Option (List Glyph) :=
  if name = "@" || name = "*" then
    let arguments := state.arguments.map fun argument => glyphsOf quoted argument.toList
    let between : List Glyph :=
      if name = "@" && quoted && setting.parted then [.border true]
      else if !quoted && setting.parted then [.border false]
      else match state.value? "IFS" with
        | none => [.sign ' ' quoted false]
        | some separators => (separators.toList.take 1).map fun sign => .sign sign quoted false
    if state.arguments.isEmpty && name = "@" && quoted then some []
    else some (between.intercalate arguments)
  else (state.parameter? name).map fun value => glyphsOf quoted value.toList

def glyphText (glyphs : List Glyph) : List Char :=
  glyphs.filterMap fun
    | .sign character .. => some character
    | .mark => none
    | .border _ => some ' '

def glyphPattern (glyphs : List Glyph) : Pattern :=
  Pattern.ofSigns ['!'] (glyphs.filterMap fun
    | .sign character quoted _ => some (character, quoted)
    | _ => none)

/-- The directory of a user, or of the one who runs the script. -/
def State.home? (state : State) (user : List Char) : Option String :=
  if user.isEmpty then state.value? "HOME"
  else if String.ofList user = "root" then some "/root"
  else none

/-- A text with the tilde at its front replaced.  The name behind the tilde ends at a slash,
at the end of the word, or at a colon where those matter. -/
def replaceTilde (state : State) (place : TildePlace) (last : Bool) (content : List Char) :
    List Glyph × List Char :=
  match content with
  | '~' :: rest =>
      let user := rest.takeWhile fun character =>
        character ≠ '/' && !(character = ':' && place = .parts)
      let left := rest.drop user.length
      if left.isEmpty && !last then ([], content)
      else match state.home? user with
        | some home => (glyphsOf true home.toList, left)
        | none => ([], content)
  | _ => ([], content)

/-- The glyphs of a text that is not quoted. -/
def plainGlyphs (setting : Setting) (content : List Char) : List Glyph :=
  content.map fun character => .sign character false setting.inside

/-- The glyphs of a text with the tildes behind its colons replaced. -/
def partsGlyphs (state : State) (setting : Setting) (last : Bool) :
    Nat → List Char → List Glyph
  | 0, content => plainGlyphs setting content
  | fuel + 1, content =>
      let (home, rest) := replaceTilde state .parts last content
      let part := rest.takeWhile (· ≠ ':')
      match rest.drop part.length with
      | [] => home ++ plainGlyphs setting part
      | colon :: others =>
          home ++ plainGlyphs setting (part ++ [colon]) ++
            partsGlyphs state setting last fuel others

/-- The glyphs of a text of a word, which may be at its front and at its end. -/
def textGlyphs (state : State) (setting : Setting) (front last : Bool) (content : List Char) :
    List Glyph :=
  match setting.tilde with
  | .nowhere => plainGlyphs setting content
  | .front =>
      if front then
        let (home, rest) := replaceTilde state .front last content
        home ++ plainGlyphs setting rest
      else plainGlyphs setting content
  | .parts =>
      let (home, rest) :=
        if front then replaceTilde state .parts last content else ([], content)
      let part := rest.takeWhile (· ≠ ':')
      match rest.drop part.length with
      | [] => home ++ plainGlyphs setting part
      | colon :: others =>
          home ++ plainGlyphs setting (part ++ [colon]) ++
            partsGlyphs state setting last content.length others

def isMissing (emptyToo : Bool) (value : Option (List Glyph)) : Bool :=
  match value with
  | none => true
  | some glyphs => emptyToo && (glyphText glyphs).isEmpty

/-- A text without the ends of lines at its end and without zero bytes. -/
def trimOutput (text : String) : List Char :=
  ((text.toList.filter (· ≠ '\x00')).reverse.dropWhile (· = '\n')).reverse

/-- The name in front of a complaint about a parameter. -/
def demand (name message : String) : Act (List Glyph) := do
  Act.fail s!"{name}: {message}"

/-- The value of an expression; variables that it sets are set. -/
def calculate (expression : List Char) : Act Int := do
  match Arithmetic.evaluate (← get).value? expression with
  | .ok (value, assigned) =>
      for (name, number) in assigned do
        Act.assign name (toString number)
      return value
  | .error fault => Act.fail (fault.message (String.ofList expression))

mutual

/-- Replaces the pieces of a word; `front` says that nothing stands before them. -/
def expandPieces (substitute : Substitution) (setting : Setting) (front : Bool) :
    List Piece → Act (List Glyph)
  | [] => return []
  | piece :: rest => do
      let first ← expandPiece substitute setting front rest.isEmpty piece
      return first ++ (← expandPieces substitute setting false rest)

/-- Replaces a piece. -/
def expandPiece (substitute : Substitution) (setting : Setting) (front last : Bool) :
    Piece → Act (List Glyph)
  | .mark => return [.mark]
  | .text content true => return content.map fun character => .sign character true false
  | .text content false => return textGlyphs (← get) setting front last content
  | .output body quoted => do
      return glyphsOf quoted (trimOutput (← substitute body))
  | .arithmetic expression quoted => do
      let glyphs ← expandPieces substitute .text false expression
      return glyphsOf quoted (toString (← calculate (glyphText glyphs))).toList
  | .parameter name edit quoted => expandEdit substitute setting name quoted edit

/-- Replaces a parameter as its edit says. -/
def expandEdit (substitute : Substitution) (setting : Setting) (name : String) (quoted : Bool) :
    Edit → Act (List Glyph)
  | .impossible => Act.fail "Bad substitution"
  | .asIs => do
      match parameterGlyphs? (← get) setting quoted name with
      | some glyphs => return glyphs
      | none => if (← get).has "nounset" then demand name "parameter not set" else return []
  | .length => do
      match parameterGlyphs? (← get) setting quoted name with
      | some glyphs => return glyphsOf quoted (toString (glyphText glyphs).length).toList
      | none =>
          if (← get).has "nounset" then demand name "parameter not set"
          else return glyphsOf quoted ['0']
  | .trimmed ending longest pattern => do
      match parameterGlyphs? (← get) ⟨false, .nowhere, false⟩ quoted name with
      | some glyphs =>
          let pattern := glyphPattern (← expandPieces substitute .whole true pattern)
          let value := glyphText glyphs
          return glyphsOf quoted (if ending then pattern.withoutEnding longest value
            else pattern.withoutBeginning longest value)
      | none => if (← get).has "nounset" then demand name "parameter not set" else return []
  | .ifMissing emptyToo replacement => do
      let value := parameterGlyphs? (← get) setting quoted name
      if isMissing emptyToo value then
        expandPieces substitute { setting with tilde := .front, inside := !quoted } true replacement
      else return value.getD []
  | .ifPresent emptyToo replacement => do
      if isMissing emptyToo (parameterGlyphs? (← get) setting quoted name) then return []
      else
        expandPieces substitute { setting with tilde := .front, inside := !quoted } true replacement
  | .setIfMissing emptyToo replacement => do
      let value := parameterGlyphs? (← get) setting quoted name
      if isMissing emptyToo value then
        let glyphs ← expandPieces substitute .whole true replacement
        let text := glyphText glyphs
        if !isName name.toList then demand name "bad variable name"
        else
          Act.assign name (String.ofList text)
          return glyphsOf quoted text
      else return value.getD []
  | .demanded emptyToo message => do
      let value := parameterGlyphs? (← get) setting quoted name
      if isMissing emptyToo value then
        if message.isEmpty then
          demand name (if emptyToo then "parameter not set or null" else "parameter not set")
        else
          let glyphs ← expandPieces substitute .whole true message
          demand name (String.ofList (glyphText glyphs))
      else return value.getD []

end

/-- A field that is being read, its last character first, and how the last one ended. -/
structure Splitting where
  field : Option (List (Char × Bool))
  /-- whether a separator that is no blank may follow without a field between -/
  absorbs : Bool
  /-- the fields so far, the last first -/
  done : List (List (Char × Bool))

namespace Splitting

def isBlank (character : Char) : Bool := Text.has character standardSeparators

/-- The field that is being read is finished. -/
def finish (splitting : Splitting) : Splitting :=
  match splitting.field with
  | none => splitting
  | some field => { splitting with field := none, done := field.reverse :: splitting.done }

/-- Goes on with a glyph. -/
def step (separators : List Char) (splitting : Splitting) : Glyph → Splitting
  | .mark =>
      { splitting with field := some (splitting.field.getD []), absorbs := false }
  | .border true =>
      { splitting with
        field := some [], absorbs := false
        done := (splitting.field.getD []).reverse :: splitting.done }
  | .border false => { splitting.finish with absorbs := splitting.field.isSome || splitting.absorbs }
  | .sign character quoted splits =>
      if splits && separators.contains character then
        if isBlank character then
          { splitting.finish with absorbs := splitting.field.isSome || splitting.absorbs }
        else if splitting.absorbs then { splitting with absorbs := false }
        else
          { splitting with
            field := none, absorbs := false
            done := (splitting.field.getD []).reverse :: splitting.done }
      else
        { splitting with
          field := some ((character, quoted) :: splitting.field.getD []), absorbs := false }

end Splitting

def splitFields (separators : List Char) (glyphs : List Glyph) : List (List (Char × Bool)) :=
  (glyphs.foldl (Splitting.step separators) ⟨none, false, []⟩).finish.done.reverse

def isPattern (signs : List (Char × Bool)) : Bool :=
  signs.any fun sign => !sign.2 && ['*', '?', '['].contains sign.1

def signText (signs : List (Char × Bool)) : String := String.ofList (signs.map (·.1))

/-- The paths that match parts of a path, behind what is known of it. -/
def matchingPaths (files : FileTree) : String → List (List (Char × Bool)) → List String
  | path, [] =>
      match files.locate path .itself with
      | .ok place => if (files.node? place).isSome then [path] else []
      | .error _ => []
  | path, part :: others =>
      let ending := if others.isEmpty then "" else "/"
      if isPattern part then
        let pattern := Pattern.ofSigns ['!'] part
        let hidden := part.head?.any (·.1 = '.')
        let found := (files.names (if path = "" then "." else path)).toOption.getD []
        let known := if hidden then "." :: ".." :: found else found
        let fitting := known.filter fun name =>
          pattern.isFull name.toList && (hidden || !Text.startsWith name ".")
        fitting.flatMap fun name =>
          let next := path ++ name
          if others.isEmpty then [next]
          else match files.lookup next with
            | .ok (.directory _) => matchingPaths files (next ++ ending) others
            | _ => []
      else matchingPaths files (path ++ signText part ++ ending) others

/-- The fields that a field with a pattern becomes; itself, if no file matches. -/
def fieldPaths (state : State) (field : List (Char × Bool)) : List String :=
  let literal := [signText field]
  if isPattern field && !state.has "noglob" then
    match matchingPaths state.files "" (field.splitOnP fun sign => sign.1 = '/') with
    | [] => literal
    | paths => paths.mergeSort fun left right => left ≤ right
  else literal

def expandFields (substitute : Substitution) (word : Word) : Act (List String) := do
  let glyphs ← expandPieces substitute .fields true word
  let state ← get
  return (splitFields state.separators glyphs).flatMap (fieldPaths state)

def expandWhole (substitute : Substitution) (setting : Setting) (word : Word) : Act String := do
  return String.ofList (glyphText (← expandPieces substitute setting true word))

end ToolParams.Shell
