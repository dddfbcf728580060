import ToolParams.Files.Tree

/-!
# Removal

A node can be removed if names may be cleared from the directory it is in, and a
directory only with everything below it.  A removal that meets an obstacle goes on
with the rest: what stays is what has an obstacle, what is behind one, and the
directories that lead to either.
-/

namespace ToolParams.FileTree

/-- What keeps a node from being removed, or a directory from being looked into: the
operation that is denied. -/
def obstacle? (tree : FileTree) (place : Place) : Option String :=
  let isDirectory := (tree.directoryMode? place).isSome
  if !tree.isFree place then
    some (if isDirectory && tree.isSearchable place.dropLast then "rmdir" else "unlink")
  else if isDirectory && !tree.isListable place && !(tree.children place).isEmpty then
    some "scandir"
  else none

/-- The places at and below a place, each directory before what it contains. -/
def atAndBelow (tree : FileTree) (top : Place) : List Place :=
  (tree.nodes.keys.filter (top.isPrefixOf ·)).mergeSort
    (Text.notAfter fun left right => decide (left < right))

def stuck (tree : FileTree) (top : Place) : List Place :=
  (tree.atAndBelow top).filter fun place =>
    (descent top place).any fun step => (tree.obstacle? step).isSome

/-- Removes all that can be removed at and below a place, which a path leads to; the
fault is that of the first obstacle. -/
def clear (tree : FileTree) (path : String) (top : Place) : Except FileFault Unit × FileTree :=
  let left := tree.stuck top
  let fault? := left.findSome? fun place =>
    (tree.obstacle? place).map fun operation =>
      FileFault.onPath .denied operation ("/".intercalate (path :: place.drop top.length))
  let nodes := tree.nodes.filterKeys fun other =>
    !top.isPrefixOf other || left.any (other.isPrefixOf ·)
  (fault?.elim (.ok ()) .error, { tree with nodes })

/-- Whether a path has a slash behind the name of a link, which then cannot be removed. -/
def isSlashedLink (tree : FileTree) (path : String) : Bool :=
  Text.endsWith path "/" &&
    match (tree.locate (Path.withoutEnd path) .itself).map tree.node? with
    | .ok (some (.link _)) => true
    | _ => false

/-- Removes what stands at a path, which may be nothing; a directory only with
everything below it.  Of a directory that is named by two dots only the contents go. -/
def remove (tree : FileTree) (path : String) (recursive : Bool) :
    Except FileFault Unit × FileTree :=
  match withoutNull "path" path, tree.locate path .itself with
  | .error fault, _ => (.error fault, tree)
  | .ok (), .error .notFound => (.ok (), tree)
  | .ok (), .error cause => (.error (.onPath cause "lstat" path), tree)
  | .ok (), .ok target =>
      match tree.directoryMode? target with
      | none => tree.clear path target
      | some mode =>
          if !recursive then (.error (.removesDirectory path), tree)
          else if tree.isSlashedLink path then (.ok (), tree)
          else if Path.baseName path = "." then
            (.error (.onPath .senseless "rmdir" path), tree)
          else
            let (result, cleared) := tree.clear path target
            if Path.baseName path = ".." then (result, cleared.place target (.directory mode))
            else (result, cleared)

end ToolParams.FileTree
