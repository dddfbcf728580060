import ToolParams.Files.Tree
import ToolParams.Programs.Utility.Basic

/-!
# Starting files

A program is a file that may be run.  It is a program of the system, or a script whose
first line names the program that reads it.  A file that is neither is read by the shell.
-/

namespace ToolParams.Programs

/-- The program that reads scripts which name none. -/
def shellPath : String := "/bin/sh"

/-- Where programs are looked for if nothing else is said. -/
def standardPath : String := "/bin:/usr/bin"

/-- The first character in the file of a program of the system, before its name. -/
def programMark : Char := '\x7f'

def programContent (name : String) : String := String.ofList (programMark :: name.toList)

/-- What starting a file means. -/
inductive Executable where
  | program (name : String)
  | script (reader : String) (argument : Option String)
  /-- the system does not know how to start it -/
  | unknown
deriving DecidableEq, Repr

/-- How much of a file the system looks at. -/
def firstBytes : Nat := 256

/-- Whether a character may stand around the words of the first line. -/
def isGap (character : Char) : Bool := character = ' ' || character = '\t'

/-- The reader that the first line of a script names, with one argument at most.  The line
has to have an end, or the name of the reader has to. -/
def readFirstLine (content : List Char) : Executable :=
  match content with
  | '#' :: '!' :: rest =>
      let seen := (rest.take (firstBytes - 2)).takeWhile (· ≠ '\x00')
      let line := seen.takeWhile (· ≠ '\n')
      let whole := line.length < seen.length || seen.length < firstBytes - 2
      let body := line.dropWhile isGap
      let name := body.takeWhile (!isGap ·)
      let ended := whole || name.length < body.length
      let behind := ((body.drop name.length).reverse.dropWhile isGap).reverse.dropWhile isGap
      if name.isEmpty || !ended then .unknown
      else .script (String.ofList name)
        (if behind.isEmpty then none else some (String.ofList behind))
  | _ => .unknown

/-- What starting the file at a path means. -/
def inspect (files : FileTree) (path : String) : Except FileCause Executable :=
  match files.lookup path with
  | .error cause => .error cause
  | .ok (.file content mode) =>
      if !FileTree.isRunnable mode then .error .denied
      else match content.toList with
        | character :: name =>
            if character = programMark then .ok (.program (String.ofList name))
            else .ok (readFirstLine (character :: name))
        | [] => .ok .unknown
  | .ok _ => .error .denied

/-- The number of scripts that may read each other. -/
def mostReaders : Nat := 6

/-- The program that is started in the end for a file, and its words: the name it is called
by and its arguments; nothing, if the system cannot start the file. -/
def resolveDirectly (files : FileTree) :
    Nat → String → List String → Except FileCause (Option (String × List String))
  | 0, _, _ => .error .tooManyLinks
  | fuel + 1, path, words =>
      match inspect files path with
      | .error cause => .error cause
      | .ok (.program name) => .ok (some (name, words))
      | .ok .unknown => .ok none
      | .ok (.script reader argument) =>
          resolveDirectly files fuel reader (reader :: (argument.toList ++ path :: words.drop 1))

/-- The program that is started in the end for a file, and its words; the shell reads what
the system cannot start. -/
def resolve (files : FileTree) (path : String) (words : List String) :
    Except FileCause (String × List String) := do
  match ← resolveDirectly files mostReaders path words with
  | some found => return found
  | none =>
      match ← resolveDirectly files mostReaders shellPath (shellPath :: path :: words.drop 1) with
      | some found => return found
      | none => throw .notFound

/-- Tries the directories of a search path.  One whose program may not be run is
remembered for the case that no other has the program. -/
def search (files : FileTree) (words : List String) (command : String) :
    FileCause → List String → Except FileCause (String × List String)
  | remembered, [] => .error remembered
  | remembered, directory :: others =>
      let path := if directory = "" then command else directory ++ "/" ++ command
      match resolve files path words with
      | .ok found => .ok found
      | .error .denied => search files words command .denied others
      | .error .notFound | .error .notDirectory => search files words command remembered others
      | .error cause => .error cause

/-- The program that words start.  A command with a slash is a path, any other is looked
for. -/
def find (files : FileTree) (searchPath : Option String) (words : List String) :
    Except FileCause (String × List String) :=
  let command := words.headD ""
  if command = "" then .error .notFound
  else if Text.has '/' command then resolve files command words
  else if FileTree.longestName < command.utf8ByteSize then .error .nameTooLong
  else search files words command .notFound (Text.split ':' (searchPath.getD standardPath))

/-- The files with some programs of the system. -/
def installNamed (names : List String) (files : FileTree) : FileTree :=
  let directory (files : FileTree) (place : Place) : FileTree :=
    files.place place (.directory FileTree.directoryMode)
  let files := [["usr"], ["usr", "bin"], ["dev"], ["tmp"]].foldl directory files
  let files := (files.place ["bin"] (.link "usr/bin")).place ["dev", "null"] (.file "" 0o666)
  names.foldl (fun files name =>
    files.place ["usr", "bin", name] (.file (programContent name) 0o755)) files

end ToolParams.Programs
