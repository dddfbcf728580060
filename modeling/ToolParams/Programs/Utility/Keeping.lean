import ToolParams.Files.Tree
import ToolParams.Programs.Utility.Basic
import ToolParams.Programs.Utility.Mode
import ToolParams.Programs.Utility.Quoting

/-!
# Utilities that keep files

Utilities that make, move, copy and remove files.  What they cannot do they complain about,
and go on with the next file.
-/

namespace ToolParams.Keeping

open Quoting (always)

/-- The place of a path and what stands there, a last link not followed. -/
def find (files : FileTree) (path : String) : Except FileCause (Place × Node) := do
  let place ← files.locate path .itself
  match files.node? place with
  | some (.directory mode) => return (place, .directory mode)
  | some node =>
      if Text.endsWith path "/" then
        match node with
        | .link _ => return (place, node)
        | _ => throw .notDirectory
      else return (place, node)
  | none => throw .notFound

def isDirectory (files : FileTree) (path : String) : Bool :=
  match files.lookup path with
  | .ok (.directory _) => true
  | _ => false

/-- Complains that arguments are missing. -/
def lacking (what : String) : Work Unit := Work.refuse 1 s!"missing {what}"

def lastName (path : String) : String :=
  Path.baseName path

def inside (directory name : String) : String :=
  if Text.endsWith directory "/" then directory ++ name else directory ++ "/" ++ name

def isDots (path : String) : Bool := ["." , ".."].contains (lastName (Path.withoutEnd path))

/-- Tells of something that was done, if that is wanted. -/
def tell (options : Options) (text : String) : Work Unit := do
  if options.has 'v' then Work.say s!"{text}\n"

/-- Removes what stands at a place, with everything below it. -/
def removeAll (options : Options) : Nat → String → Place → Work Unit
  | 0, _, _ => return ()
  | fuel + 1, path, place => do
      let files ← Work.files
      let isDirectory := (files.directoryMode? place).isSome
      let kind := if isDirectory then "directory " else ""
      let denied := s!"cannot remove {always path}: {FileCause.denied.sentence}"
      let children := files.children place
      if isDirectory && (!files.isSearchable place.dropLast ||
          (!files.isListable place && !children.isEmpty)) then
        Work.complain 1 denied
      else
        for child in children do
          removeAll options fuel (inside path (child.getLastD "")) child
        let files ← Work.files
        if (files.children place).isEmpty then
          if files.isFree place then
            Work.keep (files.prune place)
            tell options s!"removed {kind}{always path}"
          else Work.complain 1 denied

/-- Removes one file. -/
def removeOne (options : Options) (path : String) : Work Unit := do
  let recursive := options.has 'r' || options.has 'R'
  let complaint := s!"cannot remove {always path}"
  let files ← Work.files
  match find files path with
  | .error cause =>
      if options.has 'f' && (cause = .notFound || cause = .notDirectory) then return ()
      else Work.complain 1 s!"{complaint}: {cause.sentence}"
  | .ok (place, .directory _) =>
      if recursive then
        if isDots path then
          Work.complain 1
            s!"refusing to remove '.' or '..' directory: skipping {always path}"
        else if place = [] then
          Work.complain 1 "it is dangerous to operate recursively on '/'"
          Work.complain 1 "use --no-preserve-root to override this failsafe"
        else removeAll options (files.nodes.size + 1) (Path.withoutEnd path) place
      else if options.has 'd' then
        if (files.children place).isEmpty then removeAll options 1 path place
        else Work.complain 1 s!"{complaint}: Directory not empty"
      else Work.complain 1 s!"{complaint}: {FileCause.isDirectory.sentence}"
  | .ok (place, _) => removeAll options 1 path place

/-- Removes files, and with an option directories as well. -/
def rm : Utility := fun arguments =>
  let form : OptionForm := .of "dfiIrRvx" "" [("force", 'f'), ("interactive", 'i'), ("recursive", 'r'),
    ("dir", 'd'), ("verbose", 'v'), ("one-file-system", 'x'), ("preserve-root", 'x'),
    ("no-preserve-root", 'x')]
  Work.withOptions form 1 arguments fun options => do
    if options.operands.isEmpty && !options.has 'f' then lacking "operand"
    for path in options.operands do
      removeOne options path

/-- The paths of the directories above a path, the nearest first, and the path itself. -/
def parents (path : String) : List String :=
  let names := Path.steps (Path.withoutEnd path)
  (List.range names.length).map (fun count => "/".intercalate (names.take (names.length - count)))
    |>.filter (· ≠ "")

/-- Removes an empty directory; says whether that was possible. -/
def removeEmpty (options : Options) (path : String) : Work Bool := do
  tell options s!"{(← get).name}: removing directory, {always path}"
  let files ← Work.files
  let complaint := s!"failed to remove {always path}"
  match find files path with
  | .error cause =>
      Work.complain 1 s!"{complaint}: {cause.sentence}"
      return false
  | .ok (place, .directory _) =>
      if !files.isFree place then
        Work.complain 1 s!"{complaint}: {FileCause.denied.sentence}"
        return false
      else if (files.children place).isEmpty then
        Work.keep (files.prune place)
        return true
      else
        if !options.has 'i' then Work.complain 1 s!"{complaint}: Directory not empty"
        return false
  | .ok _ =>
      Work.complain 1 s!"{complaint}: {FileCause.notDirectory.sentence}"
      return false

/-- Removes empty directories, one after the other, up to the first that stays. -/
def removeChain (options : Options) : List String → Work Unit
  | [] => return ()
  | path :: rest => do
      if ← removeEmpty options path then removeChain options rest

/-- Removes empty directories, and with an option those above them. -/
def rmdir : Utility := fun arguments =>
  let form : OptionForm := .of "pvi" "" [("parents", 'p'), ("verbose", 'v'),
    ("ignore-fail-on-non-empty", 'i')]
  Work.withOptions form 1 arguments fun options => do
    if options.operands.isEmpty then lacking "operand"
    for path in options.operands do
      removeChain options (if options.has 'p' then parents path else [path])

def makeOne (mode : Nat) (path : String) (files : FileTree) : Except FileCause FileTree := do
  files.add (← files.locate path .itself) (.directory mode)

/-- Makes the directories along a path that are missing; the last gets a mode of its own. -/
def makeAlong (options : Options) (mode last : Nat) (whole : String) : List String → Work Unit
  | [] => return ()
  | path :: rest => do
      let files ← Work.files
      if isDirectory files path then makeAlong options mode last whole rest
      else match makeOne (if rest.isEmpty then last else mode) path files with
        | .ok files =>
            Work.keep files
            tell options s!"{(← get).name}: created directory {always path}"
            makeAlong options mode last whole rest
        | .error cause =>
            let reason : FileCause := if cause = .exists && !rest.isEmpty then .notDirectory else cause
            let shown := match cause, files.locate path .itself with
              | .exists, _ | .denied, .ok _ => path
              | .denied, .error _ => (Path.ascent path).getD 1 path
              | _, _ => whole
            Work.complain 1 s!"cannot create directory {always shown}: {reason.sentence}"

/-- Makes directories, and with an option those on the way to them. -/
def mkdir : Utility := fun arguments =>
  let form : OptionForm := .of "pv" "m" [("parents", 'p'), ("verbose", 'v'), ("mode", 'm')]
  Work.withOptions form 1 arguments fun options => do
    let mask := (← get).mask
    let standard := Mode.without 0o777 mask
    let asked := options.value? 'm'
    match asked.elim (some standard) fun text => Mode.applied mask true text 0o777 with
    | none => Work.complain 1 s!"invalid mode {always (asked.getD default)}"
    | some mode =>
        if options.operands.isEmpty then lacking "operand"
        for path in options.operands do
          if options.has 'p' && path ≠ "" then
            makeAlong options standard mode path (parents path).reverse
          else match makeOne mode path (← Work.files) with
            | .ok files =>
                Work.keep files
                tell options s!"{(← get).name}: created directory {always path}"
            | .error cause =>
                Work.complain 1 s!"cannot create directory {always path}: {cause.sentence}"

/-- Makes empty files where there are none. -/
def touch : Utility := fun arguments =>
  let form : OptionForm := .of "acmfh" "drt" [("no-create", 'c'), ("date", 'd'), ("reference", 'r'),
    ("no-dereference", 'h'), ("time", 'x')]
  Work.withOptions form 1 arguments fun options => do
    if options.operands.isEmpty then lacking "file operand"
    for path in options.operands do
      let files ← Work.files
      let setting := s!"setting times of {always path}"
      match files.lookup path with
      | .ok (.file ..) =>
          if Text.endsWith path "/" then
            Work.complain 1 s!"{setting}: {FileCause.notDirectory.sentence}"
      | .ok _ => pure ()
      | .error .notFound =>
          if options.has 'c' || path = "-" then pure ()
          else if Text.endsWith path "/" then
            Work.complain 1 s!"{setting}: {FileCause.notFound.sentence}"
          else
            Work.attempt s!"cannot touch {always path}"
              (Work.write files (← get).mask path "")
      | .error cause =>
          if Text.endsWith path "/" then Work.complain 1 s!"{setting}: {cause.sentence}"
          else Work.complain 1 s!"cannot touch {always path}: {cause.sentence}"

/-- The paths of what is below a directory, and its own. -/
def pathsBelow (files : FileTree) (path : String) : List String :=
  match files.locate path .followed with
  | .error _ => [path]
  | .ok place =>
      path :: (files.below place).map fun entry => inside path ("/".intercalate entry.1)

/-- Whether an argument is a mode that begins with a dash. -/
def isDashMode (argument : String) : Bool :=
  match argument.toList with
  | '-' :: letter :: letters =>
      ((letter :: letters).takeWhile fun character =>
        !Mode.isOperation character && character ≠ ',').all
        ['r', 'w', 'x', 'X', 's', 't', 'u', 'g', 'o', 'a'].contains
  | _ => false

/-- Gives one file another mode. -/
def changeMode (options : Options) (asked path : String) : Work Unit := do
  let working ← get
  let silent := options.has 'f'
  match working.files.mode path with
  | .error fault =>
      if !silent then Work.complain 1 s!"cannot access {always path}: {fault.cause.sentence}"
      else Work.worsen 1
  | .ok mode =>
      match Mode.applied working.mask (isDirectory working.files path) asked mode with
      | none => return ()
      | some changed =>
          Work.attempt s!"changing permissions of {always path}"
            ((working.files.setMode path changed).mapError FileFault.cause)
          let shown (mode : Nat) : String := s!"{Mode.octal 4 mode} ({Mode.letters mode})"
          if changed ≠ mode && (options.has 'v' || options.has 'c') then
            Work.say s!"mode of {always path} changed from {shown mode} to {shown changed}\n"
          else if options.has 'v' then
            Work.say s!"mode of {always path} retained as {shown mode}\n"

/-- Gives files another mode. -/
def chmod : Utility := fun arguments =>
  let form : OptionForm := .of "Rvcf" "" [("recursive", 'R'), ("verbose", 'v'), ("changes", 'c'),
    ("silent", 'f'), ("quiet", 'f')]
  let dashed := arguments.filter isDashMode
  let others := arguments.filter fun argument => !isDashMode argument
  Work.withOptions form 1 others fun options => do
    let operands := dashed ++ options.operands
    match operands with
    | [] => lacking "operand"
    | [asked] => Work.refuse 1 s!"missing operand after {always asked}"
    | asked :: names =>
        if (Mode.applied (← get).mask false asked 0o644).isNone then
          Work.refuse 1 s!"invalid mode: {always asked}"
        else
          for name in names do
            let files ← Work.files
            for path in (if options.has 'R' then pathsBelow files name else [name]) do
              changeMode options asked path

/-- The sources and the target of a utility that brings files somewhere. -/
structure Journey where
  sources : List String
  target : String
  /-- whether the files go into the target -/
  within : Bool

/-- Reads the operands of a utility that brings files somewhere, and goes on with them. -/
def travel (options : Options) (body : Journey → Work Unit) : Work Unit := do
  let files ← Work.files
  let missing (operand : String) : Work Unit :=
    Work.refuse 1 s!"missing destination file operand after {always operand}"
  let wrong (target : String) : Work Unit :=
    let cause : FileCause := match files.lookup target with
      | .error cause => cause
      | .ok _ => .notDirectory
    Work.complain 1 s!"target {always target}: {cause.sentence}"
  match options.value? 't', options.operands with
  | some target, operands =>
      if operands.isEmpty then lacking "file operand"
      else if isDirectory files target then body ⟨operands, target, true⟩
      else wrong target
  | none, [] => lacking "file operand"
  | none, [operand] => missing operand
  | none, [source, target] =>
      body ⟨[source], target, isDirectory files target && !options.has 'T'⟩
  | none, operands =>
      let target := operands.getLastD ""
      if options.has 'T' then
        Work.refuse 1 s!"extra operand {always (operands.getD 2 default)}"
      else if isDirectory files target then body ⟨operands.dropLast, target, true⟩
      else wrong target

/-- Where one file of a journey goes. -/
def Journey.goal (journey : Journey) (source : String) : String :=
  if journey.within then inside journey.target (lastName source) else journey.target

/-- The files with everything at and below one place brought to another. -/
def relocate (files : FileTree) (source target : Place) : FileTree :=
  let moved := files.nodes.toList.filter fun entry => source.isPrefixOf entry.1
  let cleared := (files.prune target).prune source
  { cleared with
    nodes := cleared.nodes.insertAll (moved.map fun entry =>
      (target ++ entry.1.drop source.length, entry.2)) }

/-- Moves one file. -/
def moveOne (options : Options) (source goal : String) : Work Unit := do
  let files ← Work.files
  let failed (cause : FileCause) : Work Unit :=
    Work.complain 1 s!"cannot move {always source} to {always goal}: {cause.sentence}"
  match find files source with
  | .error cause => Work.complain 1 s!"cannot stat {always source}: {cause.sentence}"
  | .ok (place, node) =>
      let ofDirectory := match node with
        | .directory _ => true
        | _ => false
      match files.locate (Path.withoutEnd goal) .itself with
      | .error cause => failed cause
      | .ok target =>
          let mayMove := files.isFree place && files.isFree target && match node with
            | .directory mode => place.dropLast = target.dropLast || FileTree.isWritable mode
            | _ => true
          let done : Work Unit := do
            if mayMove then
              Work.keep (relocate files place target)
              tell options s!"renamed {always source} -> {always goal}"
            else failed .denied
          if target = place then
            Work.complain 1 s!"{always source} and {always goal} are the same file"
          else if place.isPrefixOf target then
            Work.complain 1
              s!"cannot move {always source} to a subdirectory of itself, {always goal}"
          else match files.node? target with
            | none =>
                if Text.endsWith goal "/" && !ofDirectory then failed .notDirectory else done
            | some (.directory _) =>
                if options.has 'n' then return ()
                else if !ofDirectory then
                  Work.complain 1 s!"cannot overwrite directory {always goal} with non-directory"
                else if !mayMove || (files.children target).isEmpty then done
                else
                  Work.complain 1 s!"cannot move {always source} to {always goal}: Directory not empty"
            | some _ =>
                if options.has 'n' then return ()
                else if ofDirectory then
                  Work.complain 1
                    s!"cannot overwrite non-directory {always goal} with directory {always source}"
                else done

/-- Moves files. -/
def mv : Utility := fun arguments =>
  let form : OptionForm := .of "finuvTbZ" "tS" [("force", 'f'), ("interactive", 'i'),
    ("no-clobber", 'n'), ("update", 'u'), ("verbose", 'v'), ("no-target-directory", 'T'),
    ("target-directory", 't'), ("backup", 'b'), ("suffix", 'S')]
  Work.withOptions form 1 arguments fun options =>
    travel options fun journey => do
      for source in journey.sources do
        moveOne options source (journey.goal source)

/-- Copies one file to a path. -/
def copyFile (options : Options) (content : String) (mode : Nat) (source goal : String) :
    Work Unit := do
  let working ← get
  let files := working.files
  let known := files.locate goal .writable
  let isNew := match known with
    | .ok place => (files.node? place).isNone
    | .error _ => true
  let files := if options.has 'f' then
      match known with
      | .ok place => match files.node? place with
        | some (.file _ old) =>
            if FileTree.isWritable old || !files.isFree place then files else files.prune place
        | _ => files
      | .error _ => files
    else files
  match Work.write files working.mask goal content with
  | .error cause =>
      let cause : FileCause := if cause = .isDirectory && Text.endsWith goal "/" then .notDirectory else cause
      Work.complain 1 s!"cannot create regular file {always goal}: {cause.sentence}"
  | .ok files =>
      let kept := options.has 'p' || options.has 'a'
      let files := if kept then (files.setMode goal mode).toOption.getD files
        else if isNew then
          (files.setMode goal (Mode.without mode working.mask)).toOption.getD files
        else files
      Work.keep files
      tell options s!"{always source} -> {always goal}"

/-- Copies what a path leads to. -/
def copyOne (options : Options) : Nat → Bool → String → String → Work Unit
  | 0, _, _, _ => return ()
  | fuel + 1, top, source, goal => do
      let files ← Work.files
      let recursive := options.has 'r' || options.has 'R' || options.has 'a'
      let keepsLinks := (options.has 'a' || options.has 'd' || options.has 'P' ||
        (recursive && !(options.has 'L' || (options.has 'H' && top))))
      let found : Except FileCause Node :=
        if keepsLinks then (find files source).map (·.2)
        else match files.lookup source with
          | .ok (.file content mode) =>
              if Text.endsWith source "/" then .error .notDirectory else .ok (.file content mode)
          | other => other
      match found with
      | .error cause => Work.complain 1 s!"cannot stat {always source}: {cause.sentence}"
      | .ok (.link target) =>
          let copied : Except FileCause FileTree := do
            let place ← files.locate goal .itself
            if files.isFree place then return files.place place (.link target)
            else throw .denied
          match copied with
          | .ok files =>
              Work.keep files
              tell options s!"{always source} -> {always goal}"
          | .error cause =>
              Work.complain 1 s!"cannot create symbolic link {always goal}: {cause.sentence}"
      | .ok (.directory mode) =>
          if !recursive then
            Work.complain 1 s!"-r not specified; omitting directory {always source}"
          else
            let place := (files.locate source .followed).toOption.getD []
            match files.locate (Path.withoutEnd goal) .followed with
            | .error cause =>
                Work.complain 1 s!"cannot create directory {always goal}: {cause.sentence}"
            | .ok target =>
                let copyChildren : Work Unit := do
                  if files.isListable place then
                    for child in files.children place do
                      let name := child.getLastD ""
                      copyOne options fuel false (inside source name) (inside goal name)
                  else
                    Work.complain 1 s!"cannot access {always source}: {FileCause.denied.sentence}"
                if place.isPrefixOf target then
                  Work.complain 1
                    s!"cannot copy a directory, {always source}, into itself, {always goal}"
                else match files.node? target with
                  | some (.directory _) => copyChildren
                  | some _ =>
                      Work.complain 1
                        s!"cannot overwrite non-directory {always goal} with directory {always source}"
                  | none =>
                      let mask := (← get).mask
                      let kept := options.has 'p' || options.has 'a'
                      let mode := if kept then mode else Mode.without mode mask
                      if files.isFree target then
                        Work.keep (files.place target (.directory mode))
                        tell options s!"{always source} -> {always goal}"
                        copyChildren
                      else
                        Work.complain 1
                          s!"cannot create directory {always goal}: {FileCause.denied.sentence}"
      | .ok (.file content mode) =>
          let same : Bool := match files.locate source .followed, files.locate goal .followed with
            | .ok left, .ok right => left = right
            | _, _ => false
          if same then
            Work.complain 1 s!"{always source} and {always goal} are the same file"
          else if isDirectory files goal then
            Work.complain 1 s!"cannot overwrite directory {always goal} with non-directory {always source}"
          else if options.has 'n' && (files.lookup goal).toOption.isSome then return ()
          else if !FileTree.isReadable mode then
            Work.complain 1
              s!"cannot open {always source} for reading: {FileCause.denied.sentence}"
          else copyFile options content mode source goal

/-- Copies files, and with an option directories as well. -/
def cp : Utility := fun arguments =>
  let form : OptionForm := .of "abdfiHlLnprRsTuvxP" "tS" [("archive", 'a'), ("force", 'f'),
    ("interactive", 'i'), ("dereference", 'L'), ("no-clobber", 'n'), ("no-dereference", 'P'),
    ("recursive", 'r'), ("target-directory", 't'), ("no-target-directory", 'T'),
    ("update", 'u'), ("verbose", 'v'), ("one-file-system", 'x'), ("preserve", 'p')]
  Work.withOptions form 1 arguments fun options =>
    travel options fun journey => do
      for source in journey.sources do
        copyOne options ((← Work.files).nodes.size + 2) true source (journey.goal source)

/-- Makes one link. -/
def linkOne (options : Options) (target path : String) : Work Unit := do
  let files ← Work.files
  let symbolic := options.has 's'
  let kind := if symbolic then "symbolic" else "hard"
  let refuse (cause : FileCause) : Work Unit :=
    let goal := if symbolic || cause = .exists then "" else s!" => {always target}"
    Work.complain 1 s!"failed to create {kind} link {always path}{goal}: {cause.sentence}"
  match files.locate path .itself with
  | .error cause => refuse cause
  | .ok place =>
      let taken := (files.node? place).isSome
      let node : Option Node ← if symbolic then pure (some (.link target))
        else match find files target with
          | .error cause =>
              Work.complain 1 s!"failed to access {always target}: {cause.sentence}"
              pure none
          | .ok (_, .directory _) =>
              Work.complain 1 s!"{Quoting.ifNeeded target}: hard link not allowed for directory"
              pure none
          | .ok (_, node) => pure (some node)
      match node with
      | none => return ()
      | some node =>
          if taken && !options.has 'f' then refuse .exists
          else if !files.isFree place then refuse .denied
          else
            Work.keep (files.place place node)
            let arrow := if symbolic then "->" else "=>"
            tell options s!"{always path} {arrow} {always target}"

/-- Makes links. -/
def ln : Utility := fun arguments =>
  let form : OptionForm := .of "bdfFiLnPrsTv" "tS" [("force", 'f'), ("symbolic", 's'),
    ("no-dereference", 'n'), ("verbose", 'v'), ("target-directory", 't'),
    ("no-target-directory", 'T'), ("relative", 'r'), ("logical", 'L'), ("physical", 'P')]
  Work.withOptions form 1 arguments fun options => do
    let files ← Work.files
    match options.operands with
    | [target] =>
        if (options.value? 't').isNone then
          linkOne options target (inside "." (lastName target))
        else travel options fun journey => linkOne options target (journey.goal target)
    | [target, path] =>
        let isLink := match find files path with
          | .ok (_, .link _) => options.has 'n'
          | _ => false
        if isDirectory files path && !options.has 'T' && !isLink then
          linkOne options target (inside path (lastName target))
        else linkOne options target path
    | _ =>
        travel options fun journey => do
          for target in journey.sources do
            linkOne options target (journey.goal target)

/-- Writes the input, and writes it to files as well. -/
def tee : Utility := fun arguments =>
  Work.withOptions (.of "aip" "" [("append", 'a'), ("ignore-interrupts", 'i')]) 1 arguments
    fun options => do
    let input ← Work.takeInput
    for path in options.operands do
      let files ← Work.files
      let before := if options.has 'a' then (files.read path).toOption.getD "" else ""
      match Work.write files (← get).mask path (before ++ input) with
      | .ok files => Work.keep files
      | .error cause => Work.complain 1 s!"{Quoting.ifNeeded path}: {cause.sentence}"
    Work.say input

end ToolParams.Keeping
