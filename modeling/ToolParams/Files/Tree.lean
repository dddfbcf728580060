import ToolParams.Files.Fault
import ToolParams.Files.Path
import ToolParams.OrderedMap
import ToolParams.Text.Units

/-!
# File trees

The files that a program can see: nodes at places, and the place where relative
paths begin.  Every operation names the path it was given in its failures.  The
view is `node?`; an operation changes it at the places it is about and nowhere
else.
-/

namespace ToolParams

/-- The names from the root to a node. -/
abbrev Place := List String

/-- What stands at a place. -/
inductive Node where
  | file (content : String) (mode : Nat)
  | directory (mode : Nat)
  | link (target : String)
deriving DecidableEq, Repr

/-- Nodes at places, and the working directory. -/
structure FileTree where
  nodes : OrderedMap Place Node
  here : Place
deriving DecidableEq, Repr

namespace FileTree

def fileMode : Nat := 0o644

def directoryMode : Nat := 0o755

/-- The mode of a new directory that only its owner may enter. -/
def privateMode : Nat := 0o700

def longestName : Nat := 255

def longestPath : Nat := 4095

/-- The number of links that a path may lead through. -/
def mostLinks : Nat := 40

/-- The tree in which only the root exists, which is the working directory. -/
def empty : FileTree := { nodes := .empty, here := [] }

instance : Inhabited FileTree := ⟨empty⟩

/-- What stands at a place; the root is always a directory. -/
def node? (tree : FileTree) (place : Place) : Option Node :=
  if place = [] then some (.directory directoryMode) else tree.nodes.get? place

def place (tree : FileTree) (target : Place) (node : Node) : FileTree :=
  { tree with nodes := tree.nodes.insert target node }

/-- The tree without a place and everything below it. -/
def prune (tree : FileTree) (target : Place) : FileTree :=
  { tree with nodes := tree.nodes.filterKeys fun other => !target.isPrefixOf other }

/-- Whether the owner of a file may read it. -/
def isReadable (mode : Nat) : Bool := mode / 0o400 % 2 = 1

/-- Whether the owner of a file may write it. -/
def isWritable (mode : Nat) : Bool := mode / 0o200 % 2 = 1

/-- Whether the owner of a file may run it, or look names up if it is a directory. -/
def isRunnable (mode : Nat) : Bool := mode / 0o100 % 2 = 1

/-- The mode of a directory at a place, if there is one. -/
def directoryMode? (tree : FileTree) (place : Place) : Option Nat :=
  match tree.node? place with
  | some (.directory mode) => some mode
  | _ => none

/-- Whether there is a directory at a place in which names may be looked up. -/
def isSearchable (tree : FileTree) (place : Place) : Bool :=
  (tree.directoryMode? place).any isRunnable

/-- Whether there is a directory at a place whose names may be told. -/
def isListable (tree : FileTree) (place : Place) : Bool :=
  (tree.directoryMode? place).any isReadable

/-- Whether names may be put next to a place, and the place itself may be cleared. -/
def isFree (tree : FileTree) (place : Place) : Bool :=
  (tree.directoryMode? place.dropLast).any fun mode => isWritable mode && isRunnable mode

/-- What is wanted at the end of a path. -/
inductive Ending where
  /-- what has the last name, be it a link -/
  | itself
  /-- what the last name leads to -/
  | followed
  /-- a file to write, which leaves no place for a slash behind its name -/
  | writable
deriving DecidableEq, Repr

/-- How a walk along names ends. -/
inductive Halt where
  /-- at a place -/
  | arrived (place : Place)
  /-- at a link inside a directory, with the names that are left -/
  | link (directory : Place) (target : String) (rest : List String)
deriving DecidableEq, Repr

/-- Walks along names up to the first link.  A link at the very end stops the walk
only if it is to be followed.  Every name is looked up in a directory that allows it. -/
def advance (tree : FileTree) (ending : Ending) : Place → List String → Except FileCause Halt
  | position, [] => .ok (.arrived position)
  | position, step :: rest =>
      match tree.node? position with
      | none => .error .notFound
      | some (.directory mode) =>
          if step = "" then advance tree ending position rest
          else if !isRunnable mode then .error .denied
          else if step = "." then advance tree ending position rest
          else if step = ".." then advance tree ending position.dropLast rest
          else if ending = .writable && !rest.isEmpty && rest.all (· = "") then
            .error .isDirectory
          else if longestName < step.utf8ByteSize then .error .nameTooLong
          else match tree.node? (position ++ [step]) with
            | some (.link target) =>
                if rest.isEmpty && ending = .itself then .ok (.arrived (position ++ [step]))
                else .ok (.link position target rest)
            | _ => advance tree ending (position ++ [step]) rest
      | some _ => .error .notDirectory

/-- Where a path begins, seen from a directory. -/
def origin (directory : Place) (path : String) : Place :=
  if Path.isAbsolute path then [] else directory

/-- Walks along names and through links, of which there may be no more than a number. -/
def locateFrom (tree : FileTree) (ending : Ending) :
    Nat → Place → List String → Except FileCause Place
  | 0, _, _ => .error .tooManyLinks
  | links + 1, position, steps =>
      match tree.advance ending position steps with
      | .error cause => .error cause
      | .ok (.arrived place) => .ok place
      | .ok (.link directory target rest) =>
          tree.locateFrom ending links (origin directory target) (Path.steps target ++ rest)

/-- The place of a path.  The place itself need not exist, the directory it is in
does. -/
def locate (tree : FileTree) (path : String) (ending : Ending) : Except FileCause Place :=
  if path = "" then .error .notFound
  else if longestPath < path.utf8ByteSize then .error .nameTooLong
  else tree.locateFrom ending (mostLinks + 1) (origin tree.here path) (Path.steps path)

/-- The node of a path, links followed. -/
def lookup (tree : FileTree) (path : String) : Except FileCause Node := do
  match tree.node? (← tree.locate path .followed) with
  | some node => return node
  | none => throw .notFound

def withoutNull (argument path : String) : Except FileFault Unit :=
  if Text.has '\x00' path then .error (.holdsNull argument true path) else .ok ()

/-- The content of a file. -/
def read (tree : FileTree) (path : String) : Except FileFault String := do
  withoutNull "path" path
  match tree.lookup path with
  | .error cause => .error (.onPath cause "open" path)
  | .ok (.file content mode) =>
      if isReadable mode then .ok content else .error (.onPath .denied "open" path)
  | .ok (.directory mode) =>
      if isReadable mode then .error (.onOpenFile .isDirectory "read")
      else .error (.onPath .denied "open" path)
  | .ok (.link _) => .error (.onPath .tooManyLinks "open" path)

/-- Writes a file, which keeps its mode if it exists already. -/
def write (tree : FileTree) (path content : String) : Except FileFault FileTree := do
  withoutNull "path" path
  match tree.locate path .writable with
  | .error cause => .error (.onPath cause "open" path)
  | .ok target =>
      match tree.node? target with
      | none =>
          if tree.isFree target then .ok (tree.place target (.file content fileMode))
          else .error (.onPath .denied "open" path)
      | some (.file _ mode) =>
          if isWritable mode then .ok (tree.place target (.file content mode))
          else .error (.onPath .denied "open" path)
      | some _ => .error (.onPath .isDirectory "open" path)

/-- Whether a path leads to a node.  A missing directory on the way is no failure,
a file on the way is. -/
def exists? (tree : FileTree) (path : String) : Except FileFault Bool := do
  withoutNull "path" path
  match tree.lookup path with
  | .ok _ => .ok true
  | .error .notFound => .ok false
  | .error cause => .error (.onPath cause "access" path)

/-- The mode of a node. -/
def mode (tree : FileTree) (path : String) : Except FileFault Nat :=
  match tree.lookup path with
  | .ok (.file _ mode) => .ok mode
  | .ok (.directory mode) => .ok mode
  | .ok (.link _) => .ok 0o777
  | .error cause => .error (.onPath cause "stat" path)

/-- Gives a node another mode. -/
def setMode (tree : FileTree) (path : String) (mode : Nat) : Except FileFault FileTree :=
  match tree.locate path .followed with
  | .error cause => .error (.onPath cause "chmod" path)
  | .ok target =>
      match tree.node? target with
      | some (.file content _) => .ok (tree.place target (.file content mode))
      | some (.directory _) => .ok (tree.place target (.directory mode))
      | some (.link _) => .ok tree
      | none => .error (.onPath .notFound "chmod" path)

/-- What keeps a place from being written. -/
def writeObstacle? (tree : FileTree) (place : Place) : Option FileCause :=
  match tree.node? place with
  | some (.file _ mode) => if isWritable mode then none else some .denied
  | some _ => some .isDirectory
  | none => if tree.isFree place then none else some .denied

/-- Copies what a path leads to with its mode.  Copying a file onto itself does
nothing, and a copy that breaks off leaves no target. -/
def copyNode (tree : FileTree) (source target : String) : Except FileFault Unit × FileTree :=
  let fail (cause : FileCause) : Except FileFault Unit × FileTree :=
    (.error (.onPaths cause "copyfile" source target), tree)
  match tree.locate source .followed with
  | .error cause => fail cause
  | .ok origin =>
      match tree.node? origin with
      | none => fail .notFound
      | some node =>
          if !(match node with
            | .file _ mode | .directory mode => isReadable mode
            | .link _ => true) then fail .denied
          else match tree.locate target .writable with
            | .error cause => fail cause
            | .ok goal =>
                match tree.writeObstacle? goal, node with
                | some cause, _ => fail cause
                | none, .file content mode =>
                    if goal = origin then (.ok (), tree)
                    else (.ok (), tree.place goal (.file content mode))
                | none, _ => ((fail .isDirectory).1, tree.prune goal)

/-- Copies a file. -/
def copy (tree : FileTree) (source target : String) : Except FileFault Unit × FileTree :=
  match withoutNull "src" source, withoutNull "dest" target with
  | .error fault, _ => (.error fault, tree)
  | _, .error fault => (.error fault, tree)
  | _, _ => tree.copyNode source target

/-- Puts a node at a place that has none. -/
def add (tree : FileTree) (place : Place) (node : Node) : Except FileCause FileTree :=
  if (tree.node? place).isSome then .error .exists
  else if tree.isFree place then .ok (tree.place place node)
  else .error .denied

/-- Makes a directory in one that exists. -/
def makeDirectory (tree : FileTree) (path : String) : Except FileCause FileTree := do
  tree.add (← tree.locate (Path.withoutEnd path) .itself) (.directory directoryMode)

/-- What follows from the cause for which a directory was not made: nothing, if it is
there already.  Inside it, other directories are to be made. -/
def excuse (tree : FileTree) (isOuter : Bool) (path : String) : FileCause → Except FileCause Unit
  | .exists =>
      match tree.lookup path with
      | .ok (.directory _) => .ok ()
      | .ok _ => .error (if isOuter then .notDirectory else .exists)
      | .error cause => .error (if isOuter then .notDirectory else cause)
  | cause => .error cause

/-- Makes the first of some directories, each of which is in the next one, and before it
those that are missing. -/
def makeAlong (tree : FileTree) (isOuter : Bool) :
    List String → Except FileFault Unit × FileTree
  | [] => (.ok (), tree)
  | path :: above =>
      let settle (tree : FileTree) (cause : FileCause) : Except FileFault Unit × FileTree :=
        ((tree.excuse isOuter path cause).mapError fun cause => .onPath cause "mkdir" path, tree)
      match tree.makeDirectory path with
      | .ok tree => (.ok (), tree)
      | .error .notFound =>
          if above.isEmpty then settle tree .notFound
          else match tree.makeAlong true above with
            | (.error fault, tree) => (.error fault, tree)
            | (.ok (), tree) =>
                match tree.makeDirectory path with
                | .ok tree => (.ok (), tree)
                | .error cause => settle tree cause
      | .error cause => settle tree cause

/-- Makes a directory and those on the way to it; what was made before a failure stays. -/
def makeDirectories (tree : FileTree) (path : String) : Except FileFault Unit × FileTree :=
  match withoutNull "path" path with
  | .error fault => (.error fault, tree)
  | .ok () => tree.makeAlong false (Path.ascent path)

/-- Writes a file, perhaps with a mode, and makes the directories on the way to it. -/
def put (tree : FileTree) (path content : String) (mode : Option Nat) :
    Except FileFault Unit × FileTree :=
  let (made, tree) := match (Path.ascent (Path.withoutEnd path))[1]? with
    | some directory => tree.makeDirectories directory
    | none => (.ok (), tree)
  let written := do
    made
    let written ← tree.write path content
    match mode with
    | some mode => written.setMode path mode
    | none => return written
  match written with
  | .ok tree => (.ok (), tree)
  | .error fault => (.error fault, tree)

/-- Makes a directory with a fresh ending to its name. -/
def makeFresh (tree : FileTree) (beginning ending : String) : Except FileFault FileTree := do
  withoutNull "prefix" beginning
  let path := beginning ++ ending
  let made := do tree.add (← tree.locate path .itself) (.directory privateMode)
  made.mapError fun cause => .onPath cause "mkdtemp" path

def makeLink (tree : FileTree) (target path : String) : Except FileFault FileTree :=
  let made := do tree.add (← tree.locate path .itself) (.link target)
  made.mapError fun cause => .onPaths cause "symlink" target path

/-- The places directly in a directory. -/
def children (tree : FileTree) (directory : Place) : List Place :=
  tree.nodes.keys.filter fun other =>
    directory.isPrefixOf other && other.length = directory.length + 1

/-- The names in a directory. -/
def names (tree : FileTree) (path : String) : Except FileFault (List String) := do
  withoutNull "path" path
  match tree.locate path .followed with
  | .error cause => .error (.onPath cause "scandir" path)
  | .ok target =>
      match tree.node? target with
      | some (.directory mode) =>
          if isReadable mode then .ok ((tree.children target).map (·.getLastD ""))
          else .error (.onPath .denied "scandir" path)
      | some _ => .error (.onPath .notDirectory "scandir" path)
      | none => .error (.onPath .notFound "scandir" path)

/-- The order of a listing: by names, each directory before what it contains. -/
def placeLE (left right : Place × Node) : Bool :=
  Text.notAfter (fun left right => decide (left ≠ right) && Text.unitsLE left right)
    left.1 right.1

/-- Everything below a directory in the order of a listing, by the names from it. -/
def below (tree : FileTree) (directory : Place) : List (Place × Node) :=
  ((tree.nodes.toList.filter fun entry =>
    directory.isPrefixOf entry.1 && entry.1.length ≠ directory.length).map fun entry =>
      (entry.1.drop directory.length, entry.2)).mergeSort placeLE

/-- The places from one place down to another one. -/
def descent (top place : Place) : List Place :=
  (List.range (place.length + 1 - top.length)).map fun count => place.take (top.length + count)

/-- Whether the names in a directory can be told, seen from a directory above it. -/
def isOpen (tree : FileTree) (top place : Place) : Bool :=
  tree.isListable place && (descent top place).dropLast.all tree.isSearchable

/-- A listing of everything below a path; directories end in a slash. -/
def listing (tree : FileTree) (path : String) : Except FileFault (List String) := do
  let _ ← tree.names path
  let target ← (tree.locate path .followed).mapError fun cause => .onPath cause "scandir" path
  (tree.below target).mapM fun (relative, node) =>
    let shown := Path.join path ("/".intercalate relative)
    match node with
    | .directory _ =>
        if tree.isOpen target (target ++ relative) then .ok (shown ++ "/")
        else .error (.onPath .denied "scandir" shown)
    | _ => .ok shown

end FileTree

end ToolParams
