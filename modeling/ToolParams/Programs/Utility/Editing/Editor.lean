import ToolParams.Programs.Utility.Editing.Script
import ToolParams.Programs.Utility.Quoting
import ToolParams.Files.Tree

/-!
# Editing lines by a script

Each line goes through the steps of a script and is written at the end.  What was written
is kept with the latest first.
-/

namespace ToolParams.Editing

/-- A line of the input. -/
structure InputLine where
  text : List Char
  /-- whether it has an end -/
  ended : Bool
  file : String
deriving DecidableEq, Repr

/-- Where a range of lines is. -/
inductive RangeState where
  | toLine (last : Nat)
  | toAddress
deriving DecidableEq, Repr

/-- The state of editing. -/
structure Editor where
  /-- the text that is worked on -/
  pattern : List Char
  /-- the line that was read last -/
  line : InputLine
  held : List Char
  number : Nat
  left : List InputLine
  /-- what is written behind the line -/
  queue : List String
  replaced : Bool
  /-- the ranges that are open, by the numbers of their steps -/
  ranges : List (Nat × RangeState)
  search : Option Search
  /-- what was written, the latest first -/
  output : List String
  /-- whether the end of the last line is still to be written -/
  owing : Bool
  /-- what was written to files, the latest first -/
  written : List (String × String)
  files : FileTree
  silent : Bool
  /-- the end of a line -/
  mark : Char
  /-- why editing cannot go on -/
  trouble : Option String

namespace Editor

/-- Writes a text that is complete. -/
def emit (editor : Editor) (text : String) : Editor :=
  if text = "" then editor
  else { editor with
    output := text :: (if editor.owing then [String.singleton editor.mark] else []) ++ editor.output
    owing := false }

/-- Writes a line, whose end is that of the line that was read. -/
def emitLine (editor : Editor) (text : List Char) : Editor :=
  let output := (if editor.owing then [String.singleton editor.mark] else []) ++ editor.output
  if editor.line.ended then
    { editor with output := String.ofList (text ++ [editor.mark]) :: output, owing := false }
  else { editor with output := String.ofList text :: output, owing := true }

def atLast (editor : Editor) : Bool := editor.left.isEmpty

/-- Writes what waits behind the line. -/
def flush (editor : Editor) : Editor :=
  editor.queue.foldl emit { editor with queue := [] }

/-- The search that is meant, and the editor that remembers it. -/
def remember (editor : Editor) (search : Option Search) : Option Search × Editor :=
  match search with
  | some found => (some found, { editor with search := some found })
  | none => (editor.search, editor)

/-- Whether an address is that of the line. -/
def isAt (editor : Editor) (address : Address) : Bool × Editor :=
  match address with
  | .line number => (editor.number = number, editor)
  | .every first step =>
      (if step = 0 then editor.number = first
        else first ≤ editor.number && (editor.number - first) % step = 0, editor)
  | .last => (editor.atLast, editor)
  | .matching search =>
      let (found, editor) := editor.remember search
      ((found.bind fun search => search.find editor.pattern).isSome, editor)

/-- Whether a step is for the line. -/
def isSelected (editor : Editor) (step : Nat) (selector : Selector) : Bool × Editor :=
  let close (editor : Editor) : Editor :=
    { editor with ranges := editor.ranges.filter (·.1 ≠ step) }
  let keepOpen (editor : Editor) (state : RangeState) : Editor :=
    { editor with ranges := (step, state) :: editor.ranges.filter (·.1 ≠ step) }
  let (chosen, editor) := match selector.first, selector.second with
    | none, _ => (true, editor)
    | some address, none => editor.isAt address
    | some address, some rangeEnd =>
        let state := match editor.ranges.lookup step, address with
          | some state, _ => some state
          | none, .line 0 => if editor.number = 1 then some .toAddress else none
          | none, _ => none
        match state, rangeEnd with
        | some (.toLine last), _ =>
            (editor.number ≤ last, if last ≤ editor.number then close editor else editor)
        | some .toAddress, .address goal =>
            let (found, editor) := editor.isAt goal
            (true, if found then close editor else keepOpen editor .toAddress)
        | some .toAddress, _ => (true, editor)
        | none, _ =>
            let (begins, editor) := editor.isAt address
            if !begins then (false, editor)
            else
              let upTo (last : Nat) : Bool × Editor :=
                (true, if last ≤ editor.number then editor else keepOpen editor (.toLine last))
              match rangeEnd with
              | .address (.line last) => upTo last
              | .plus count => upTo (editor.number + count)
              | .multiple factor =>
                  upTo (if factor = 0 then editor.number
                    else (editor.number + factor - 1) / factor * factor)
              | .address .last => (true, if editor.atLast then editor else keepOpen editor .toAddress)
              | .address _ => (true, keepOpen editor .toAddress)
  (chosen != selector.negated, editor)

end Editor

/-- A replacement with the case of its letters changed. -/
structure CaseState where
  lasting : CaseChange
  once : CaseChange
deriving DecidableEq, Repr

/-- Characters in the case that is asked for. -/
def applyCase (state : CaseState) (characters : List Char) : List Char × CaseState :=
  let lasting (character : Char) : Char := match state.lasting with
    | .upper => character.toUpper
    | .lower => character.toLower
    | _ => character
  match characters with
  | [] => ([], state)
  | first :: rest =>
      let first := match state.once with
        | .upperOnce => first.toUpper
        | .lowerOnce => first.toLower
        | _ => lasting first
      (first :: rest.map lasting, { state with once := .none })

/-- What takes the place of a match. -/
def replacementFor (found : Found) (pieces : List ReplacementPiece) : List Char :=
  (pieces.foldl (fun (soFar, state) piece =>
    match piece with
    | .change change =>
        match change with
        | .upperOnce | .lowerOnce => (soFar, { state with once := change })
        | _ => (soFar, ({ lasting := change, once := .none } : CaseState))
    | .text content =>
        let (shown, state) := applyCase state content
        (soFar ++ shown, state)
    | .group number =>
        let text := if number = 0 then found.matched else (found.groups.lookup number).getD []
        let (shown, state) := applyCase state text
        (soFar ++ shown, state)) (([] : List Char), (⟨.none, .none⟩ : CaseState))).1

/-- Replaces matches from the wanted one on, and tells whether one was replaced.  An
empty match right behind another one does not count. -/
def replaceFrom (search : Search) (change : Substitution) :
    Nat → (count : Nat) → (justMatched : Bool) → Option Char → List Char → List Char × Bool
  | 0, _, _, _, characters => (characters, false)
  | fuel + 1, count, justMatched, previous, characters =>
      match search.findFrom previous characters with
      | none => (characters, false)
      | some found =>
          let isEmpty := found.matched.isEmpty
          let passes := isEmpty && found.before.isEmpty && justMatched
          let counted := if passes then count else count + 1
          let replacing := !passes && change.which ≤ counted
          let shown := if replacing then replacementFor found change.pieces else found.matched
          if replacing && !change.everywhere then (found.before ++ shown ++ found.after, true)
          else
            let previous := (found.before ++ found.matched).getLast?.or previous
            if isEmpty then
              match found.after with
              | [] => (found.before ++ shown, replacing)
              | character :: rest =>
                  let (others, replaced) :=
                    replaceFrom search change fuel counted false (some character) rest
                  (found.before ++ shown ++ character :: others, replacing || replaced)
            else
              let (others, replaced) :=
                replaceFrom search change fuel counted true previous found.after
              (found.before ++ shown ++ others, replacing || replaced)

/-- A text as it is shown plainly: escapes for what cannot be printed, and lines of no
more than 69 bytes. -/
def plainText (characters : List Char) : String :=
  let shown := characters.map fun character =>
    if character = '\\' then ['\\', '\\']
    else if Quoting.isPrintable character then [character]
    else Quoting.escape character
  let (lines, last) := shown.foldl (fun (lines, line) part =>
    if 69 < line.length + part.length then (lines ++ line ++ ['\\', '\n'], part)
    else (lines, line ++ part)) (([] : List Char), ([] : List Char))
  String.ofList (lines ++ last ++ ['$', '\n'])

/-- What follows a step. -/
inductive Turn where
  | goTo (step : Nat)
  /-- the line is done; it is written unless it was deleted -/
  | done (writing : Bool)
  /-- the script begins anew on what is left of the line -/
  | again
  | quit (writing : Bool) (status : Nat)
deriving DecidableEq, Repr

/-- Does a step. -/
def perform (script : Script) (step : Nat) (deed : Deed) (editor : Editor) : Turn × Editor :=
  let onward (editor : Editor) : Turn × Editor := (.goTo (step + 1), editor)
  let mark := editor.mark
  let first := editor.pattern.takeWhile (· ≠ mark)
  match deed with
  | .block _ | .nothing => onward editor
  | .number => onward (editor.emit s!"{editor.number}\n")
  | .append text => onward { editor with queue := editor.queue ++ [text] }
  | .insert text => onward (editor.emit text)
  | .replaceLines text =>
      let isOpen := editor.ranges.any (·.1 = step)
      (.done false, if isOpen then editor else editor.emit text)
  | .jump condition label =>
      let goal := if label = "" then script.steps.size
        else (script.labels.lookup label).getD script.steps.size
      let jumps := match condition with
        | .always => true
        | .ifReplaced => editor.replaced
        | .ifNotReplaced => !editor.replaced
      let editor := if condition = .always then editor else { editor with replaced := false }
      (.goTo (if jumps then goal else step + 1), editor)
  | .delete => (.done false, editor)
  | .deleteFirst =>
      if editor.pattern.contains mark then
        (.again, { editor with pattern := editor.pattern.drop (first.length + 1) })
      else (.done false, editor)
  | .getHeld adding =>
      onward { editor with
        pattern := if adding then editor.pattern ++ mark :: editor.held else editor.held }
  | .hold adding =>
      onward { editor with
        held := if adding then editor.held ++ mark :: editor.pattern else editor.pattern }
  | .exchange => onward { editor with pattern := editor.held, held := editor.pattern }
  | .next adding =>
      match editor.left with
      | [] => (.quit true 0, editor)
      | line :: left =>
          let shown := if adding || editor.silent then editor
            else editor.emitLine editor.pattern
          let flushed := shown.flush
          onward { flushed with
            left, line, number := editor.number + 1
            pattern := if adding then editor.pattern ++ mark :: line.text else line.text }
  | .print => onward (editor.emitLine editor.pattern)
  | .printFirst => onward (editor.emit (String.ofList (first ++ [mark])))
  | .printPlainly => onward (editor.emit (plainText editor.pattern))
  | .quit printing status => (.quit printing status, editor)
  | .readFile path =>
      let text := (editor.files.read path).toOption.getD ""
      onward { editor with queue := editor.queue ++ [text] }
  | .writeFile path =>
      let text := String.ofList (editor.pattern ++ [mark])
      if path = "/dev/stdout" then onward (editor.emit text)
      else onward { editor with written := (path, text) :: editor.written }
  | .substitute change =>
      let (found, editor) := editor.remember change.search
      match found with
      | none => (.quit false 1, { editor with trouble := some "no previous regular expression" })
      | some search =>
          let (pattern, replaced) := replaceFrom search change (2 * editor.pattern.length + 2) 0
            false none editor.pattern
          if !replaced then onward editor
          else
            let editor := { editor with pattern, replaced := true }
            let editor := if change.printing then editor.emitLine pattern else editor
            let text := String.ofList (pattern ++ [mark])
            match change.file with
            | none => onward editor
            | some path =>
                if path = "/dev/stdout" then onward (editor.emit text)
                else onward { editor with written := (path, text) :: editor.written }
  | .translate pairs =>
      onward { editor with pattern := editor.pattern.map fun character =>
        (pairs.lookup character).getD character }
  | .clear => onward { editor with pattern := [] }
  | .fileName => onward (editor.emit (editor.line.file ++ "\n"))

/-- Takes a line through the steps. -/
def runSteps (script : Script) : Nat → Nat → Editor → Turn × Editor
  | 0, _, editor => (.quit false 1, editor)
  | fuel + 1, number, editor =>
      match script.steps[number]? with
      | none => (.done true, editor)
      | some step =>
          let (selected, editor) := editor.isSelected number step.selector
          if !selected then
            match step.deed with
            | .block closing => runSteps script fuel closing editor
            | _ => runSteps script fuel (number + 1) editor
          else match perform script number step.deed editor with
            | (.goTo next, editor) => runSteps script fuel next editor
            | result => result

/-- The number of steps after which a script is given up. -/
def mostSteps : Nat := 1000000

/-- Takes all lines through a script; tells the status. -/
def runLines (script : Script) : Nat → (again : Bool) → Editor → Option Nat × Editor
  | 0, _, editor => (some 1, editor)
  | fuel + 1, again, editor =>
      let started : Option Editor :=
        if again then some editor
        else match editor.left with
          | [] => none
          | line :: left =>
              some { editor with
                line, left, pattern := line.text, number := editor.number + 1, replaced := false }
      match started with
      | none => (none, editor)
      | some editor =>
          let finish (writing : Bool) (editor : Editor) : Editor :=
            (if writing && !editor.silent then editor.emitLine editor.pattern else editor).flush
          match runSteps script mostSteps 0 editor with
          | (.quit writing status, editor) => (some status, finish writing editor)
          | (.again, editor) => runLines script fuel true editor.flush
          | (.done writing, editor) => runLines script fuel false (finish writing editor)
          | (.goTo _, editor) => runLines script fuel false (finish true editor)

end ToolParams.Editing
