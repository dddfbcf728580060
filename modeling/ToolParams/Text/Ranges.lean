/-!
# Ranges of characters

A set of characters, given as a list of ranges of their codes.
-/

namespace ToolParams.Text

/-- The first and the last code of each range. -/
abbrev Ranges := List (Nat × Nat)

def Ranges.has (ranges : Ranges) (character : Char) : Bool :=
  ranges.any fun (first, last) => first ≤ character.toNat && character.toNat ≤ last

end ToolParams.Text
