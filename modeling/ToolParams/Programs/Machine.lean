import ToolParams.Programs.Octets
import ToolParams.Programs.Utility.Basic

/-!
# What processes share

Processes share the files, the openings through which they read and write, and the clock
by which their output is put in order.  A process runs to its end before the one that
waits for it goes on, so each has a time of its own, and what was written is sorted by
time in the end.
-/

namespace ToolParams.Programs

/-- Where bytes come from and go to. -/
inductive Channel where
  /-- to whoever started the first program -/
  | outside
  /-- to nowhere; it is always at its end -/
  | nothing
  /-- to another process: what is ready to be read, and what was written since, the latest
  first, each with its time -/
  | pipe (ready : List (Nat × List Char)) (written : List (Nat × String))
  | file (place : Place)
  /-- a directory, which cannot be read -/
  | directory
deriving DecidableEq, Repr

/-- A channel, the position of the next byte, and whether writing goes to the end. -/
structure Opening where
  channel : Channel
  position : Nat
  appending : Bool
deriving DecidableEq, Repr

/-- A text that reached the outside. -/
structure Utterance where
  time : Nat
  process : Nat
  text : String
deriving DecidableEq, Repr

/-- A process that came to its end while nobody waited for it. -/
structure Ending where
  process : Nat
  time : Nat
  status : Nat
  signal : Option Nat
deriving DecidableEq, Repr

/-- What processes share. -/
structure Machine where
  files : FileTree
  openings : Array Opening
  /-- what reached the outside, the latest first -/
  uttered : List Utterance
  nextProcess : Nat
  /-- signals that were sent to processes, the latest first -/
  signals : List (Nat × Nat)
  endings : List Ending
deriving Repr

namespace Machine

/-- The machine with a further opening, and its number. -/
def add (machine : Machine) (opening : Opening) : Machine × Nat :=
  ({ machine with openings := machine.openings.push opening }, machine.openings.size)

def change (machine : Machine) (number : Nat) (step : Opening → Opening) : Machine :=
  { machine with openings := machine.openings.modify number step }

def channel (machine : Machine) (number : Nat) : Channel :=
  (machine.openings[number]?.map (·.channel)).getD .nothing

/-- The texts of a pipe in their order. -/
def inOrder (ready : List (Nat × List Char)) (written : List (Nat × String)) :
    List (Nat × List Char) :=
  if written.isEmpty then ready
  else ready ++ written.reverse.map fun (time, text) => (time, text.toList)

/-- All that can be read from an opening. -/
def readable (machine : Machine) (number : Nat) : String :=
  match machine.openings[number]? with
  | none => ""
  | some opening =>
      match opening.channel with
      | .pipe ready written =>
          String.join (ready.map (String.ofList ·.2) ++ written.reverse.map (·.2))
      | .file place =>
          match machine.files.node? place with
          | some (.file content _) =>
              if opening.position = 0 then content else Text.drop opening.position content
          | _ => ""
      | _ => ""

def untilLineEnd : List (Nat × List Char) → List Char
  | [] => []
  | (_, text) :: rest => if text.contains '\n' then text else text ++ untilLineEnd rest

/-- The machine with the texts of a pipe ready to be read, and what can be read from an
opening, if that has further lines perhaps only the first of them. -/
def offer (machine : Machine) (number : Nat) : Machine × List Char :=
  match machine.channel number with
  | .pipe ready written =>
      let texts := inOrder ready written
      (machine.change number fun opening => { opening with channel := .pipe texts [] },
        untilLineEnd texts)
  | _ => (machine, (machine.readable number).toList)

/-- Takes a number of bytes out of texts; also gives the time of the last of them. -/
def dropTimed : Nat → Nat → List (Nat × List Char) → Nat × List (Nat × List Char)
  | time, _, [] => (time, [])
  | time, count, (written, text) :: rest =>
      if count = 0 then (time, (written, text) :: rest)
      else
        let taken := text.take count
        let left := text.drop count
        if left.isEmpty then dropTimed (max time written) (count - taken.length) rest
        else (max time written, (written, left) :: rest)

/-- Passes over a number of bytes of an opening, and gives the time at which they could
be read. -/
def consume (machine : Machine) (number count : Nat) : Machine × Nat :=
  match machine.channel number with
  | .pipe ready written =>
      let (time, left) := dropTimed 0 count (inOrder ready written)
      (machine.change number fun opening => { opening with channel := .pipe left [] }, time)
  | _ =>
      (machine.change number fun opening =>
        { opening with position := opening.position + count }, 0)

/-- The content of a file with a text written at a position. -/
def overwrite (content text : String) (position : Nat) : String :=
  if content.length = position then content ++ text
  else
    let characters := content.toList
    let gap := List.replicate (position - characters.length) '\x00'
    String.ofList (characters.take position ++ gap ++ text.toList ++
      characters.drop (position + text.length))

/-- Writes a text through an opening. -/
def write (machine : Machine) (number time process : Nat) (text : String) : Machine :=
  match machine.openings[number]? with
  | none => machine
  | some opening =>
      match opening.channel with
      | .outside => { machine with uttered := ⟨time, process, text⟩ :: machine.uttered }
      | .nothing | .directory => machine
      | .pipe ready written =>
          machine.change number fun opening =>
            { opening with channel := .pipe ready ((time, text) :: written) }
      | .file place =>
          match machine.files.node? place with
          | some (.file content mode) =>
              let position := if opening.appending then content.length else opening.position
              let files := machine.files.place place (.file (overwrite content text position) mode)
              { machine.change number fun opening =>
                  { opening with position := position + text.length } with files }
          | _ => machine

/-- What was uttered, in the order of time. -/
def inTime (machine : Machine) : List Utterance :=
  machine.uttered.reverse.mergeSort fun left right => left.time ≤ right.time

def silence (machine : Machine) (process time : Nat) : Machine :=
  { machine with
    uttered := machine.uttered.filter fun utterance =>
      utterance.process ≠ process || utterance.time < time }

end Machine

end ToolParams.Programs
