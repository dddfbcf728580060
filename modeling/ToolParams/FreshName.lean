import ToolParams.World

/-!
# Fresh names

Files and directories of a run get names that no other run uses.  A name is made
from a number that was not given out before; different numbers make different
names.
-/

namespace ToolParams.FreshName

/-- The digits of a number in a base, with zeros in front up to a width. -/
def paddedDigits (base width number : Nat) : List Char :=
  let digits := Nat.toDigits base number
  List.replicate (width - digits.length) '0' ++ digits

/-- A name of 36 characters in five groups, the number in the last. -/
def long (number : Nat) : String :=
  "00000000-0000-4000-8000-" ++ String.ofList (paddedDigits 16 12 number)

/-- A name of six characters. -/
def short (number : Nat) : String :=
  String.ofList (paddedDigits 10 6 number)

end ToolParams.FreshName
