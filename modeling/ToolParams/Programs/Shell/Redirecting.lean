import ToolParams.Programs.Shell.Expansion

/-!
# Redirecting streams

A redirection opens a file, or makes one stream lead where another one leads.  What the
words of redirections mean is found out before any of them is followed.
-/

namespace ToolParams.Shell

open Programs (Machine Opening Channel)

/-- A redirection whose words are replaced. -/
inductive Route where
  | file (descriptor : Nat) (opener : Opener) (path : String)
  | document (descriptor : Nat) (content : Word)
  | copy (descriptor : Nat) (source : Option Nat)

namespace Route

/-- Replaces the words of a redirection. -/
def ofRedirection (substitute : Substitution) : Redirection → Act Route
  | .file descriptor opener path => do
      return .file descriptor opener (← expandWhole substitute .whole path)
  | .document descriptor content => return .document descriptor content
  | .copy descriptor source => return .copy descriptor source
  | .copyNamed descriptor source => do
      match (← expandFields substitute source).map String.toList with
      | [['-']] => return .copy descriptor none
      | [[digit]] =>
          if digit.isDigit then return .copy descriptor (some (digit.toNat - 48))
          else Act.fail "Bad fd number"
      | _ => Act.fail "Bad fd number"

end Route

/-- Whether a file is to be written. -/
def Opener.writes : Opener → Bool
  | .reading => false
  | _ => true

def Opener.reason (opener : Opener) : FileCause → String
  | .notFound | .notDirectory => if opener.writes then "Directory nonexistent" else "No such file"
  | cause => cause.sentence

/-- The stream that a path names. -/
def streamOf? (path : String) : Option Nat :=
  match path with
  | "/dev/stdin" => some 0
  | "/dev/stdout" => some 1
  | "/dev/stderr" => some 2
  | _ =>
      ["/dev/fd/", "/proc/self/fd/"].findSome? fun beginning =>
        if Text.startsWith path beginning then
          Scanning.natural? (Text.drop beginning.length path)
        else none

/-- The place that swallows what is written. -/
def discarding : Place := ["dev", "null"]

namespace State

/-- The state with a new opening, and its number. -/
def add (state : State) (opening : Opening) : State × Nat :=
  let (machine, number) := state.machine.add opening
  ({ state with machine }, number)

/-- Opens the file at a place. -/
def openPlace (state : State) (opener : Opener) (place : Place) :
    Except FileCause (State × Nat) :=
  let files := state.files
  let opening : Opening := ⟨.file place, 0, opener = .appending⟩
  if place = discarding then .ok (state.add ⟨.nothing, 0, false⟩)
  else match files.node? place with
    | some (.file _ mode) =>
        if opener ≠ .reading && !FileTree.isWritable mode then .error .denied
        else if (opener = .reading || opener = .both) && !FileTree.isReadable mode then
          .error .denied
        else if opener = .writing && state.has "noclobber" then .error .exists
        else if opener = .writing || opener = .overwriting then
          .ok ((state.withFiles (files.place place (.file "" mode))).add opening)
        else .ok (state.add opening)
    | some _ =>
        if opener ≠ .reading then .error .isDirectory
        else if files.isListable place then .ok (state.add ⟨.directory, 0, false⟩)
        else .error .denied
    | none =>
        if opener = .reading then .error .notFound
        else
          let mode := 0o666 - (0o666 &&& state.mask)
          (files.add place (.file "" mode)).map fun files => (state.withFiles files).add opening

/-- Opens the file of a path, or tells why not. -/
def openPath (state : State) (opener : Opener) (path : String) :
    Except String (State × Nat) :=
  match streamOf? path with
  | some descriptor =>
      match state.opening? descriptor with
      | none => .error (opener.reason .notFound)
      | some number =>
          match state.machine.channel number with
          | .outside => .error "No such device or address"
          | .file place => (state.openPlace opener place).mapError opener.reason
          | _ => .ok (state, number)
  | none =>
      if path = "/dev/tty" then .error "No such device or address"
      else
        let found := state.files.locate path (if opener.writes then .writable else .followed)
        (found >>= state.openPlace opener).mapError opener.reason

end State

/-- Follows a redirection; the text is a complaint. -/
def follow (substitute : Substitution) : Route → Act (Option String)
  | .file descriptor opener path => do
      match (← get).openPath opener path with
      | .ok (state, number) =>
          set (state.connect descriptor number)
          return none
      | .error reason =>
          let action := if opener.writes then "create" else "open"
          return some s!"cannot {action} {path}: {reason}"
  | .document descriptor content => do
      let text := String.ofList (glyphText (← expandPieces substitute .text false content))
      let state ← get
      let (state, number) := state.add ⟨.pipe [(state.time, text.toList)] [], 0, false⟩
      set (state.connect descriptor number)
      return none
  | .copy descriptor none => do
      modify fun state => state.disconnect descriptor
      return none
  | .copy descriptor (some source) => do
      match (← get).opening? source with
      | some number =>
          modify fun state => state.connect descriptor number
          return none
      | none => return some s!"{source}: Bad file descriptor"

/-- Follows redirections in order; complains about the first that fails. -/
def followAll (substitute : Substitution) : List Route → Act Bool
  | [] => return true
  | route :: rest => do
      match ← follow substitute route with
      | none => followAll substitute rest
      | some text =>
          Act.complain text
          Act.report 2
          return false

/-- Replaces the words of redirections and follows them. -/
def redirect (substitute : Substitution) (redirections : List Redirection) : Act Bool := do
  followAll substitute (← redirections.mapM (Route.ofRedirection substitute))

/-- Does something with redirected streams; nothing, if they cannot be redirected. -/
def redirected (substitute : Substitution) (redirections : List Redirection) (body : Act Unit) :
    Act Unit := do
  if redirections.isEmpty then body
  else
    let before := (← get).descriptors
    Act.restoring (fun state => { state with descriptors := before }) do
      if ← redirect substitute redirections then body

end ToolParams.Shell
