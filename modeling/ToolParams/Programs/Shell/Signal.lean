import ToolParams.Text.Pieces

/-!
# Signals

The numbers and names of the signals, and what becomes of a process that gets one.
-/

namespace ToolParams.Signal

/-- The names of the signals without their common beginning, by number from one. -/
def names : List String :=
  ["HUP", "INT", "QUIT", "ILL", "TRAP", "ABRT", "BUS", "FPE", "KILL", "USR1", "SEGV", "USR2",
    "PIPE", "ALRM", "TERM", "STKFLT", "CHLD", "CONT", "STOP", "TSTP", "TTIN", "TTOU", "URG",
    "XCPU", "XFSZ", "VTALRM", "PROF", "WINCH", "IO", "PWR", "SYS"]

/-- What a shell tells of a program that a signal ended. -/
def stories : List (Nat × String) :=
  [(1, "Hangup"), (3, "Quit"), (4, "Illegal instruction"), (5, "Trace/breakpoint trap"),
    (6, "Aborted"), (7, "Bus error"), (8, "Floating point exception"), (9, "Killed"),
    (10, "User defined signal 1"), (11, "Segmentation fault"), (12, "User defined signal 2"),
    (14, "Alarm clock"), (15, "Terminated"), (16, "Stack fault"), (24, "CPU time limit exceeded"),
    (25, "File size limit exceeded"), (26, "Virtual timer expired"),
    (27, "Profiling timer expired"), (29, "I/O possible"), (30, "Power failure"),
    (31, "Bad system call")]

/-- The signal that ends a process at once. -/
def kill : Nat := 9

/-- The signal that a process gets which writes where nobody reads. -/
def brokenPipe : Nat := 13

/-- The signal that asks a process to end. -/
def terminate : Nat := 15

/-- The signals that do nothing to a process which does not care for them, and those that
stop it. -/
def harmless : List Nat := [17, 18, 19, 20, 21, 22, 23, 28]

/-- The name of a signal without the common beginning. -/
def shortName? (number : Nat) : Option String :=
  if number = 0 then none else names[number - 1]?

/-- The name of a signal. -/
def name (number : Nat) : String :=
  match shortName? number with
  | some short => "SIG" ++ short
  | none => s!"SIG{number}"

end ToolParams.Signal
