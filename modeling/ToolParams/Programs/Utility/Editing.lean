import ToolParams.Programs.Utility.Basic
import ToolParams.Programs.Utility.Editing.Editor
import ToolParams.Programs.Utility.Editing.Reading

/-!
# The utility that edits lines

A script stands among the arguments or in files; the lines of all files go through it, or
each file is edited in its place.
-/

namespace ToolParams.Editing

/-- The lines of a text, each with an end but perhaps the last. -/
def inputLines (mark : Char) (file text : String) : List InputLine :=
  (Lines.wholeUpTo mark text).map fun line =>
    let characters := line.toList
    if characters.getLast? = some mark then ⟨characters.dropLast, true, file⟩
    else ⟨characters, false, file⟩

/-- The lines of several texts; only the very last one may be without an end. -/
def joinInputs (mark : Char) : List (String × String) → List InputLine
  | [] => []
  | [(file, text)] => inputLines mark file text
  | (file, text) :: rest =>
      (inputLines mark file text).map (fun line => { line with ended := true }) ++
        joinInputs mark rest

/-- The place of a fault in a script that has several pieces. -/
def faultPlace (pieces : List (Option String × String)) (used : Nat) : String :=
  let rec go : Nat → Nat → List (Option String × String) → String
    | expression, _, [] => s!"-e expression #{expression}, char 0"
    | expression, used, (file, text) :: rest =>
        if text.length < used && !rest.isEmpty then
          go (if file.isNone then expression + 1 else expression) (used - text.length - 1) rest
        else match file with
          | none => s!"-e expression #{expression}, char {used}"
          | some name =>
              let line := ((text.toList.take (used - 1)).count '\n') + 1
              s!"file {name} line {line}"
  if used = 0 then "-e expression #1, char 0" else go 1 used pieces

/-- The options of the utility. -/
def form : OptionForm where
  plain := "nErsuz"
  valued := "efl"
  attached := "i"
  long := [("quiet", 'n'), ("silent", 'n'), ("expression", 'e'), ("file", 'f'),
    ("in-place", 'i'), ("regexp-extended", 'E'), ("separate", 's'), ("null-data", 'z'),
    ("unbuffered", 'u'), ("line-length", 'l'), ("posix", 'p')]

/-- Writes what steps have written to files. -/
def writeAside (editor : Editor) : Work Unit := do
  for path in (editor.written.map (·.1)).eraseDups do
    let text := String.join ((editor.written.filter (·.1 = path)).reverse.map (·.2))
    Work.attempt s!"couldn't open file {path}" (Work.write (← Work.files) (← get).mask path text)

/-- Edits files, or the input, line by line. -/
def sed : Utility := fun arguments => do
  match Options.read form arguments with
  | .error fault =>
      Work.complain 1 fault.message
      Work.remark "Usage: sed [OPTION]... \x7bscript-only-if-no-other-script\x7d [input-file]...\n"
  | .ok options =>
      let mut pieces : List (Option String × String) := []
      for (letter, value) in options.given do
        if letter = 'e' then pieces := pieces ++ [(none, value)]
        else if letter = 'f' then
          match ← Work.content value with
          | .ok text =>
              let text := if Text.endsWith text "\n" then Text.dropEnd 1 text else text
              pieces := pieces ++ [(some value, text)]
          | .error why =>
              Work.complain 4 s!"couldn't open file {value}: {why}"
              return ()
      let scriptFirst := pieces.isEmpty
      if scriptFirst && options.operands.isEmpty then
        Work.remark "Usage: sed [OPTION]... \x7bscript-only-if-no-other-script\x7d [input-file]...\n"
        Work.finish 1
        return ()
      let parts := if scriptFirst then [(none, options.operands.headD "")] else pieces
      let names := if scriptFirst then options.operands.drop 1 else options.operands
      let source := ("\n".intercalate (parts.map (·.2))).toList
      let silent := options.has 'n' || source.take 2 = ['#', 'n'] &&
        (source.drop 2).head?.all (· = '\n')
      match readScript (options.has 'E' || options.has 'r') source with
      | .error fault =>
          Work.complain 1 s!"{faultPlace parts fault.used}: {fault.text}"
      | .ok script =>
          for step in script.steps do
            if let .jump _ label := step.deed then
              if label ≠ "" && (script.labels.lookup label).isNone then
                Work.complain 4 s!"can't find label for jump to `{label}'"
                return ()
          let mark := if options.has 'z' then '\x00' else '\n'
          let start (held : List Char) (lines : List InputLine) (files : FileTree) : Editor :=
            { pattern := [], line := ⟨[], true, "-"⟩, held, number := 0, left := lines, queue := []
              replaced := false, ranges := [], search := none, output := [], owing := false
              written := [], files, silent, mark, trouble := none }
          let run (lines : List InputLine) : Work (Option Nat × Editor) := do
            let result := runLines script mostSteps false (start [] lines (← Work.files))
            return result
          let names := if names.isEmpty then ["-"] else names
          if options.has 'i' then
            for name in names do
              match ← Work.content name with
              | .error why =>
                  if why = FileCause.isDirectory.sentence then
                    Work.complain 4 s!"couldn't edit {name}: not a regular file"
                  else Work.complain 2 s!"can't read {name}: {why}"
              | .ok text =>
                  let (status, editor) ← run (inputLines mark name text)
                  let rest := if status.isSome then editor.left else []
                  let kept := rest.map fun line =>
                    String.ofList (line.text ++ if line.ended then [mark] else [])
                  let edited := String.join (editor.output.reverse ++ kept)
                  let suffix := (options.value? 'i').getD ""
                  if suffix ≠ "" then
                    Work.attempt s!"cannot rename {name}"
                      (Work.write (← Work.files) (← get).mask (name ++ suffix) text)
                  Work.attempt s!"couldn't open file {name}"
                    (Work.write (← Work.files) (← get).mask name edited)
                  writeAside editor
                  Work.worsen (status.getD 0)
          else
            let mut texts : List (String × String) := []
            for name in names do
              match ← Work.content name with
              | .ok text => texts := texts ++ [(name, text)]
              | .error why =>
                  if why = FileCause.isDirectory.sentence then
                    let shown := if name = "-" then "stdin" else name
                    Work.complain 4 s!"read error on {shown}: {why}"
                  else Work.complain 2 s!"can't read {name}: {why}"
            let groups := if options.has 's' then texts.map ([·]) else [texts]
            let mut stopped := false
            for group in groups do
              if !stopped then
                let (status, editor) ← run (joinInputs mark group)
                Work.say (String.join editor.output.reverse)
                writeAside editor
                if let some trouble := editor.trouble then
                  Work.complain 1 s!"-e expression #1, char 0: {trouble}"
                if let some status := status then
                  Work.worsen status
                  stopped := true

end ToolParams.Editing
