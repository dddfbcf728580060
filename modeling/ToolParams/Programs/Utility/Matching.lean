import ToolParams.Programs.Pattern
import ToolParams.Programs.Regular
import ToolParams.Programs.Utility.Quoting
import ToolParams.Programs.Utility.Scanning
import ToolParams.Programs.Utility.Basic

/-!
# Finding lines

The utility that writes the lines that match one of some expressions, or tells in
another way which lines and files they are.
-/

namespace ToolParams.Matching

/-- How expressions are to be read. -/
inductive Reading where
  | basic
  | extended
  /-- with more classes and kinds of groups -/
  | rich
  | literal
deriving DecidableEq, Repr

/-- The names by which complaints call the signs of repetition. -/
def repetitionName? (sign : Char) : Option String :=
  if ['*', '+', '?'].contains sign then some (String.singleton sign)
  else if sign = '\x7b' then some "\x7b...\x7d"
  else none

/-- The signs of repetition that repeat nothing in an expression whose signs stand without
backslashes; `atStart` says whether a part begins. -/
def idleSigns : (inside atStart : Bool) → List Char → List String
  | _, _, [] => []
  | true, _, character :: rest => idleSigns (character ≠ ']') false rest
  | false, _, '\\' :: _ :: rest => idleSigns false false rest
  | false, atStart, character :: rest =>
      match if atStart then repetitionName? character else none with
      | some name => name :: idleSigns false false rest
      | none => idleSigns (character = '[') (['(', '|', '^'].contains character) rest

/-- Whether an expression has a named class without brackets around it. -/
def hasBareClass (source : List Char) : Bool :=
  let inside := (source.dropWhile (· ≠ '[')).drop 1
  let name := inside.takeWhile (· ≠ ']')
  name.length < inside.length && 2 < name.length && name.head? = some ':' &&
    name.getLast? = some ':' && !name.contains '['

/-- An expression that has to match a word or a line, if that is asked for. -/
def bounded (ofWords ofLines : Bool) (expression : Regular) : Regular :=
  if ofLines then .sequence .start (.sequence expression .stop)
  else if ofWords then
    .sequence (.edge fun before _ => !before)
      (.sequence expression (.edge fun _ behind => !behind))
  else expression

/-- The search for any of some expressions. -/
def readAll (reading : Reading) (foldCase ofWords ofLines : Bool) (sources : List String) :
    Except RegularFault Search := do
  let found ← sources.mapM fun source =>
    match reading with
    | .literal => .ok (Regular.literal foldCase source.toList)
    | .basic => Regular.read ⟨false, foldCase, true, false, false⟩ source.toList
    | .extended => Regular.read ⟨true, foldCase, true, false, false⟩ source.toList
    | .rich =>
        let folds := Text.startsWith source "(?i)"
        Regular.read ⟨true, foldCase || folds, true, false, true⟩
          (if folds then source.toList.drop 4 else source.toList)
  let joined : Option Regular := found.foldr (fun search others =>
    match others with
    | none => some search.expression
    | some rest => some (.either search.expression rest)) none
  match joined with
  | some expression => return ⟨bounded ofWords ofLines expression, foldCase⟩
  | none => return ⟨.single (.ranges true []), foldCase⟩

/-- A line with its number and the offset of its first byte. -/
structure NumberedLine where
  number : Nat
  offset : Nat
  text : List Char
deriving Repr

/-- Lines with their numbers and offsets. -/
def numbered : Nat → Nat → List (List Char) → List NumberedLine
  | _, _, [] => []
  | number, offset, line :: rest =>
      ⟨number, offset, line⟩ :: numbered (number + 1) (offset + line.length + 1) rest

/-- The files at a path: itself, or those below it if it is a directory. -/
def filesAt (files : FileTree) (path : String) : List String :=
  match files.locate path .followed with
  | .ok place =>
      match files.node? place with
      | some (.directory _) =>
          (files.below place).filterMap fun (relative, node) =>
            match node with
            | .file .. => some (String.ofList
                (path.toList ++ (if Text.endsWith path "/" then [] else ['/'])) ++
                  "/".intercalate relative)
            | _ => none
      | _ => [path]
  | .error _ => [path]

/-- The lines that are written for a text: those that match and those around them, and
whether a line matches. -/
def withContext (before behind : Nat) (lines : List (NumberedLine × Bool)) :
    List (NumberedLine × Bool) :=
  let numbers := (lines.filter (·.2)).map (·.1.number)
  lines.filter fun (line, _) =>
    numbers.any fun number => number ≤ line.number + before && line.number ≤ number + behind

/-- Tells of wrong arguments and how the utility is used. -/
def refuse (text : String) : Work Unit := do
  if text ≠ "" then Work.remark s!"{(← get).name}: {text}\n"
  Work.remark "Usage: grep [OPTION]... PATTERNS [FILE]...\n"
  Work.remark "Try 'grep --help' for more information.\n"
  Work.finish 2

/-- The options of the utility. -/
def form : OptionForm where
  plain := "EFGPivwxyclLoqsbHhnarRzUZTuI0123456789"
  valued := "efmABCdDX!?"
  attached := "="
  long := [("extended-regexp", 'E'), ("fixed-strings", 'F'), ("basic-regexp", 'G'),
    ("regexp", 'e'), ("file", 'f'), ("ignore-case", 'i'), ("no-ignore-case", '~'),
    ("invert-match", 'v'), ("word-regexp", 'w'), ("line-regexp", 'x'), ("count", 'c'),
    ("files-with-matches", 'l'), ("files-without-match", 'L'), ("max-count", 'm'),
    ("only-matching", 'o'), ("quiet", 'q'), ("silent", 'q'), ("no-messages", 's'),
    ("byte-offset", 'b'), ("with-filename", 'H'), ("no-filename", 'h'), ("line-number", 'n'),
    ("after-context", 'A'), ("before-context", 'B'), ("context", 'C'), ("text", 'a'),
    ("recursive", 'r'), ("dereference-recursive", 'R'), ("include", '?'), ("exclude", '!'),
    ("null-data", 'z'), ("null", 'Z'), ("color", '='), ("colour", '='), ("perl-regexp", 'P'),
    ("directories", 'd')]

/-- Searches a text and writes what the options ask for; tells whether a line was
chosen. -/
def searchText (options : Options) (search : Search) (titled : Bool) (label text : String) :
    Work Bool := do
  let number (letter : Char) : Option Nat := (options.value? letter).bind Scanning.natural?
  let around := number 'C'
  let before := ((number 'B').or around).getD 0
  let behind := ((number 'A').or around).getD 0
  let ending := if options.has 'z' then '\x00' else '\n'
  let separated := ['A', 'B', 'C'].any options.has
  let lines := numbered 1 0 (Lines.upTo ending text)
  let marked := lines.map fun line => (line, (search.find line.text).isSome != options.has 'v')
  let chosen := marked.filter (·.2)
  let chosen := match number 'm' with
    | some most => chosen.take most
    | none => chosen
  let lastChosen := ((chosen.getLast?).map fun entry => entry.1.number).getD 0
  let marked := if chosen.length < (marked.filter (·.2)).length then
      marked.filter fun entry => entry.1.number ≤ lastChosen
    else marked
  let some? := !chosen.isEmpty
  if options.has 'q' then return some?
  if options.has 'l' || options.has 'L' then
    if some? != (options.last? ['l', 'L'] = some 'L') then Work.say (label ++ "\n")
    return some?
  if options.has 'c' then
    Work.say ((if titled then label ++ ":" else "") ++ s!"{chosen.length}\n")
    return some?
  if some? && Text.has '\x00' text && !options.has 'a' && !options.has 'z' then
    Work.say s!"{(← get).name}: {label}: binary file matches\n"
    return some?
  let intro (line : NumberedLine) (offset : Nat) (mark : String) : String :=
    (if titled then label ++ mark else "") ++
      (if options.has 'n' then s!"{line.number}{mark}" else "") ++
      (if options.has 'b' then s!"{line.offset + offset}{mark}" else "")
  if options.has 'o' then
    for (line, _) in chosen do
      if !options.has 'v' then
        for (found, after) in search.findAll (line.text.length + 1) none line.text do
          let offset := line.text.length - (found.length + after.length)
          Work.say (intro line offset ":" ++ String.ofList (found ++ [ending]))
    return some?
  let mut last := 0
  for (line, isChosen) in withContext before behind marked do
    if separated && last ≠ 0 && line.number ≠ last + 1 then Work.say "--\n"
    last := line.number
    Work.say (intro line 0 (if isChosen then ":" else "-") ++
      String.ofList (line.text ++ [ending]))
  return some?

/-- Writes the lines that have a match. -/
def grep (standard : Reading) : Utility := fun arguments => do
  let arguments := arguments.flatMap fun argument =>
    match argument.toList with
    | '-' :: digits => if Number.isDigits digits then ["-C", String.ofList digits] else [argument]
    | _ => [argument]
  match Options.read form arguments with
  | .error fault => refuse fault.message
  | .ok options =>
      let explicit := options.has 'e' || options.has 'f'
      let mut listed := options.values 'e'
      for path in options.values 'f' do
        match ← Work.content path with
        | .ok text => listed := listed ++ (Lines.of text).map String.ofList
        | .error why => Work.complain 2 s!"{path}: {why}"
      if (← get).status ≠ 0 then return ()
      if !explicit && options.operands.isEmpty then
        refuse ""
      else
        let given := if explicit then listed else [options.operands.headD ""]
        let sources := if options.has 'f' && given.isEmpty then []
          else given.flatMap (Text.split '\n')
        let names := if explicit then options.operands else options.operands.drop 1
        let reading : Reading := match options.last? ['E', 'F', 'G', 'P'] with
          | some 'E' => .extended
          | some 'P' => .rich
          | some 'F' => .literal
          | some _ => .basic
          | none => standard
        let bad (letter : Char) : Bool :=
          (options.value? letter).any fun text => (Scanning.natural? text).isNone
        if let some letter := ['A', 'B', 'C'].find? bad then
          let text := (options.value? letter).getD ""
          Work.complain 2 s!"{text}: invalid context length argument"
          return ()
        if bad 'm' then
          Work.complain 2 "invalid max count"
          return ()
        if reading ≠ .literal && sources.any fun source => hasBareClass source.toList then
          Work.complain 2 "character class syntax is [[:space:]], not [:space:]"
          return ()
        let search := readAll reading (options.has 'i' || options.has 'y') (options.has 'w')
          (options.has 'x') sources
        match search with
        | .error fault => Work.complain 2 fault.message
        | .ok search =>
            if reading = .extended then
              for sign in sources.flatMap (fun source => idleSigns false true source.toList) do
                Work.remark s!"{(← get).name}: warning: {sign} at start of expression\n"
            let handling := options.value? 'd'
            let recursive := options.has 'r' || options.has 'R' || handling = some "recurse"
            let files ← Work.files
            let fits (path : String) : Bool :=
              let looksLike (text : String) : Bool :=
                (Pattern.read text).isFull (Path.baseName path).toList
              ((options.values '?').isEmpty || (options.values '?').any looksLike) &&
                !(options.values '!').any looksLike
            let expanded := if recursive then
                (if names.isEmpty then
                    (filesAt files ".").map fun path => Text.drop 2 path
                  else names.flatMap (filesAt files)).filter fits
              else if names.isEmpty then ["-"] else names
            let titled := (options.last? ['H', 'h'] = some 'H') ||
              (options.last? ['H', 'h'] ≠ some 'h' && (recursive || 1 < expanded.length))
            let mut found := false
            for name in expanded do
              let label := if name = "-" then "(standard input)" else name
              let brief := ['c', 'q', 'l', 'L'].any options.has
              if !brief && (← Work.readsResults name).isSome then
                Work.complain 2 s!"{label}: input file is also the output"
              else match ← Work.content name with
              | .ok text =>
                  if ← searchText options search titled label text then found := true
              | .error why =>
                  let isDirectory := why = FileCause.isDirectory.sentence
                  if !(isDirectory && handling = some "skip") then
                    if options.has 's' then Work.worsen 2
                    else Work.complain 2 s!"{label}: {why}"
                    if isDirectory then
                      if ← searchText options search titled label "" then found := true
            let status := (← get).status
            if found && (options.has 'q' || status = 0) then Work.finish 0
            else if status = 0 then Work.finish 1

end ToolParams.Matching
