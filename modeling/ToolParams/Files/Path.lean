import ToolParams.Text.Pieces

/-!
# Paths

A path is a text of names with slashes between them.  Joining paths also
normalises them: empty names and dots vanish, and two dots take back the name
before them.
-/

namespace ToolParams.Path

/-- The names of a path with the slashes removed; empty names are kept. -/
def steps (path : String) : List String :=
  Text.split '/' path

def isAbsolute (path : String) : Bool :=
  Text.startsWith path "/"

/-- Adds a name to the names collected so far, the last one first. -/
def addStep (absolute : Bool) (collected : List String) (step : String) : List String :=
  if step = "" ∨ step = "." then collected
  else if step = ".." then
    match collected with
    | [] => if absolute then [] else [".."]
    | last :: others => if last = ".." then ".." :: collected else others
  else step :: collected

/-- The normal form of a path; a slash at its end is kept. -/
def normalize (path : String) : String :=
  let absolute := isAbsolute path
  let names := ((steps path).foldl (addStep absolute) []).reverse
  let ending := if Text.endsWith path "/" then "/" else ""
  if path = "" then "."
  else if names.isEmpty then (if absolute then "/" else "." ++ ending)
  else (if absolute then "/" else "") ++ "/".intercalate names ++ ending

/-- The path that leads from one path along another. -/
def join (first second : String) : String :=
  let parts := [first, second].filter (· ≠ "")
  if parts.isEmpty then "." else normalize ("/".intercalate parts)

/-- A path without slashes at its end; of a path of slashes one is left. -/
def withoutEnd (path : String) : String :=
  let body := (path.toList.reverse.dropWhile (· = '/')).reverse
  if body.isEmpty && path ≠ "" then "/" else String.ofList body

/-- A path and the paths of the directories on the way to it, the nearest first. -/
def ascent (path : String) : List String :=
  let names := steps path
  let above := (List.range (names.length - 1)).map fun count =>
    withoutEnd ("/".intercalate (names.take (names.length - 1 - count)))
  path :: above.filter (· ≠ "")

def baseName (path : String) : String :=
  ((steps path).filter (· ≠ "")).getLastD ""

end ToolParams.Path
