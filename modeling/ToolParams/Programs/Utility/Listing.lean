import ToolParams.Programs.Utility.Keeping
import ToolParams.Text.Units

/-!
# Listing files

Utilities that tell which files there are and what is known of them.
-/

namespace ToolParams.Listing

open Quoting (always)

def modeOf : Node → Nat
  | .file _ mode => mode
  | .directory mode => mode
  | .link _ => 0o777

def sizeOf : Node → Nat
  | .file content _ => content.length
  | .directory _ => 4096
  | .link target => target.length

def kindLetter : Node → Char
  | .file .. => '-'
  | .directory _ => 'd'
  | .link _ => 'l'

/-- A name, and the node that it stands for. -/
structure Entry where
  name : String
  node : Node
deriving Repr

/-- A mark behind a name that shows its kind. -/
def markOf (options : Options) (entry : Entry) : String :=
  let all := options.has 'F'
  match entry.node with
  | .directory _ => if all || options.has 'p' then "/" else ""
  | .link _ => if all then "@" else ""
  | .file _ mode => if all && mode &&& 0o111 ≠ 0 then "*" else ""

def shownName (options : Options) (entry : Entry) : String :=
  let name := if options.has 'Q' then "\"" ++ entry.name ++ "\"" else entry.name
  name ++ markOf options entry

/-- The disk blocks of a node. -/
def blocksOf (node : Node) : Nat :=
  match node with
  | .file content _ => (content.length + 4095) / 4096 * 4
  | .directory _ => 4
  | .link _ => 0

/-- The lines of entries with all that is known of them. -/
def longLines (options : Options) (entries : List Entry) : List String :=
  let width := (entries.map fun entry => (toString (sizeOf entry.node)).length).foldl max 0
  entries.map fun entry =>
    let size := Text.padStart width (toString (sizeOf entry.node))
    let links := match entry.node with
      | .directory _ => 2
      | _ => 1
    let arrow := match entry.node with
      | .link target => s!" -> {target}"
      | _ => ""
    let kind := kindLetter entry.node
    let mode := Mode.letters (modeOf entry.node)
    let owner := if options.has 'g' then "root" else if options.has 'o' then "root" else "root root"
    s!"{kind}{mode} {links} {owner} {size} Jan  1 00:00 {shownName options entry}{arrow}"

/-- Entries in the order that is asked for. -/
def sorted (options : Options) (entries : List Entry) : List Entry :=
  let entries := if options.has 'U' || options.has 'f' then entries
    else if options.has 'S' then
      entries.mergeSort fun left right =>
        sizeOf right.node < sizeOf left.node ||
          (sizeOf left.node = sizeOf right.node && left.name ≤ right.name)
    else entries.mergeSort fun left right => left.name ≤ right.name
  if options.has 'r' then entries.reverse else entries

/-- Writes entries. -/
def sayEntries (options : Options) (entries : List Entry) : Work Unit := do
  let long := options.has 'l' || options.has 'g' || options.has 'n' || options.has 'o'
  let names := entries.map fun entry =>
    (if options.has 's' then s!"{blocksOf entry.node} " else "") ++ shownName options entry
  if long then Work.say (String.join ((longLines options entries).map (· ++ "\n")))
  else match options.last? ['1', 'm', 'x', 'C'] with
    | some 'm' => if !names.isEmpty then Work.say (", ".intercalate names ++ "\n")
    | some 'x' | some 'C' => if !names.isEmpty then Work.say ("  ".intercalate names ++ "\n")
    | _ => Work.say (String.join (names.map (· ++ "\n")))

/-- The entries of a directory. -/
def entriesIn (options : Options) (files : FileTree) (place : Place) : List Entry :=
  let below := (files.children place).filterMap fun child =>
    (files.node? child).map fun node => (⟨child.getLastD "", node⟩ : Entry)
  let dots : List Entry := [⟨".", .directory 0o755⟩, ⟨"..", .directory 0o755⟩]
  if options.has 'a' || options.has 'f' then sorted options (dots ++ below)
  else if options.has 'A' then sorted options below
  else sorted options (below.filter fun entry => !Text.startsWith entry.name ".")

/-- Writes directories, and with an option those below them; each has a title if there are
several. -/
def sayDirectories (options : Options) : Nat → Bool → Bool → List String → Work Unit
  | 0, _, _, _ => return ()
  | _, _, _, [] => return ()
  | fuel + 1, titled, first, path :: rest => do
      let files ← Work.files
      let found : Except FileCause Place := do
        let place ← files.locate path .followed
        if files.isListable place then return place else throw .denied
      match found with
      | .error cause =>
          Work.complain 2 s!"cannot open directory {always path}: {cause.sentence}"
          sayDirectories options fuel titled first rest
      | .ok place =>
          let entries := entriesIn options files place
          let gap := if first then "" else "\n"
          if titled then Work.say s!"{gap}{path}:\n"
          if options.has 'l' || options.has 's' then
            let total := (entries.map fun entry => blocksOf entry.node).foldl (· + ·) 0
            Work.say s!"total {total}\n"
          sayEntries options entries
          let deeper := if !options.has 'R' then [] else entries.filterMap fun entry =>
            match entry.node with
            | .directory _ =>
                if ["." , ".."].contains entry.name then none
                else some (Keeping.inside path entry.name)
            | _ => none
          sayDirectories options fuel titled false (deeper ++ rest)

/-- The options of a listing. -/
def form : OptionForm where
  plain := "aAbBcCdDfFgGhHiklLmnNopqQrRsStuUvxXZ1"
  valued := "ITw"
  long := [("all", 'a'), ("almost-all", 'A'), ("directory", 'd'), ("classify", 'F'),
    ("human-readable", 'h'), ("recursive", 'R'), ("reverse", 'r'), ("size", 's'),
    ("quote-name", 'Q'), ("inode", 'i'), ("dereference", 'L'), ("sort", 'w'), ("color", 'Y'),
    ("format", 'w'), ("time", 'w')]
  attached := "Y"

/-- Lists files and the content of directories. -/
def ls : Utility := fun arguments =>
  Work.withOptions form 2 arguments fun options => do
    let files ← Work.files
    let names := if options.operands.isEmpty then ["."] else options.operands
    let long := options.has 'l' || options.has 'F' || options.has 'd'
    let lookUp (name : String) : Except FileCause Entry := do
      let (_, own) ← Keeping.find files name
      match own with
      | .link target =>
          match files.lookup name with
          | .ok (.directory mode) =>
              return ⟨name, if long && !options.has 'L' then .link target else .directory mode⟩
          | .ok node => return ⟨name, if options.has 'L' then node else .link target⟩
          | .error _ => return ⟨name, .link target⟩
      | node => return ⟨name, node⟩
    let mut found : List Entry := []
    for name in names do
      match lookUp name with
      | .ok entry => found := found ++ [entry]
      | .error cause => Work.complain 2 s!"cannot access {always name}: {cause.sentence}"
    let isDirectory (entry : Entry) : Bool := kindLetter entry.node = 'd' && !options.has 'd'
    let plain := sorted options (found.filter fun entry => !isDirectory entry)
    let directories := (sorted options (found.filter isDirectory)).map (·.name)
    sayEntries options plain
    let titled := options.has 'R' || 1 < names.length
    sayDirectories options (files.nodes.size + directories.length + 2) titled plain.isEmpty
      directories

def wholePath (place : Place) : String := "/" ++ "/".intercalate place

/-- Writes what links hold, or where paths lead. -/
def readlink : Utility := fun arguments =>
  Work.withOptions (.of "femnqszv" "" [("canonicalize", 'f'), ("canonicalize-existing", 'e'),
    ("canonicalize-missing", 'm'), ("no-newline", 'n'), ("zero", 'z')]) 1 arguments
    fun options => do
    if options.operands.isEmpty then Keeping.lacking "operand"
    for path in options.operands do
      let files ← Work.files
      let found : Option String :=
        if options.has 'f' || options.has 'e' || options.has 'm' then
          match files.locate path .followed with
          | .ok place =>
              if options.has 'e' && (files.node? place).isNone then none
              else some (wholePath place)
          | .error _ => none
        else match Keeping.find files path with
          | .ok (_, .link target) => some target
          | _ => none
      match found with
      | some text => Work.say (text ++ if options.has 'n' then "" else "\n")
      | none => Work.worsen 1

end ToolParams.Listing
