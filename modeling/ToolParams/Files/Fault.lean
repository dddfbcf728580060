import ToolParams.Text.Pieces
import ToolParams.Text.Quoted

/-!
# Faults of files and processes

The causes for which a file operation or the start of a process fails, with the
texts that the operating system gives to them.
-/

namespace ToolParams

/-- The cause of a failure. -/
inductive FileCause where
  | notFound
  | notDirectory
  | isDirectory
  | exists
  | denied
  | nameTooLong
  | tooManyLinks
  /-- a word for a program is too long -/
  | wordTooLong
  /-- what is asked for makes no sense -/
  | senseless
deriving DecidableEq, Repr

namespace FileCause

/-- The short name of a cause. -/
def code : FileCause → String
  | .notFound => "ENOENT"
  | .notDirectory => "ENOTDIR"
  | .isDirectory => "EISDIR"
  | .exists => "EEXIST"
  | .denied => "EACCES"
  | .nameTooLong => "ENAMETOOLONG"
  | .tooManyLinks => "ELOOP"
  | .wordTooLong => "E2BIG"
  | .senseless => "EINVAL"

/-- A cause in words. -/
def text : FileCause → String
  | .notFound => "no such file or directory"
  | .notDirectory => "not a directory"
  | .isDirectory => "illegal operation on a directory"
  | .exists => "file already exists"
  | .denied => "permission denied"
  | .nameTooLong => "name too long"
  | .tooManyLinks => "too many symbolic links encountered"
  | .wordTooLong => "argument list too long"
  | .senseless => "invalid argument"

end FileCause

/-- A failed operation. -/
inductive FileFault where
  /-- an operation on one path -/
  | onPath (cause : FileCause) (operation path : String)
  /-- an operation on two paths -/
  | onPaths (cause : FileCause) (operation source target : String)
  /-- an operation on an open file, which has no path -/
  | onOpenFile (cause : FileCause) (operation : String)
  /-- the removal of a directory as a file -/
  | removesDirectory (path : String)
  /-- the start of a process -/
  | onStart (cause : FileCause) (command : Option String)
  /-- the start of a process without a command -/
  | noCommand
  /-- an argument that is a path, or another text, and holds a null character -/
  | holdsNull (argument : String) (isPath : Bool) (text : String)
deriving DecidableEq, Repr

namespace FileFault

/-- The short name of a failure. -/
def code : FileFault → String
  | .onPath cause .. => cause.code
  | .onPaths cause .. => cause.code
  | .onOpenFile cause _ => cause.code
  | .removesDirectory _ => "ERR_FS_EISDIR"
  | .onStart cause _ => cause.code
  | .noCommand => "ERR_INVALID_ARG_VALUE"
  | .holdsNull .. => "ERR_INVALID_ARG_VALUE"

/-- The text of a failure. -/
def message : FileFault → String
  | .onPath cause operation path => s!"{cause.code}: {cause.text}, {operation} '{path}'"
  | .onPaths cause operation source target =>
      s!"{cause.code}: {cause.text}, {operation} '{source}' -> '{target}'"
  | .onOpenFile cause operation => s!"{cause.code}: {cause.text}, {operation}"
  | .removesDirectory path =>
      s!"Path is a directory: rm returned EISDIR (is a directory) {path}"
  | .onStart cause (some command) => s!"spawn {command} {cause.code}"
  | .onStart cause none => s!"spawn {cause.code}"
  | .noCommand => "The argument 'file' cannot be empty. Received ''"
  | .holdsNull argument isPath text =>
      let noun := if Text.has '.' argument then "property" else "argument"
      let wanted := if isPath then "a string, Uint8Array, or URL" else "a string"
      let shown := Text.quotedBriefly text
      s!"The {noun} '{argument}' must be {wanted} without null bytes. Received {shown}"

end FileFault

end ToolParams
