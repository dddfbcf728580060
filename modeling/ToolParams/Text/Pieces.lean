/-!
# Pieces of a text

Cutting a text at a character, and asking how it begins and ends.  Everything
is defined on the list of characters.
-/

namespace ToolParams.Text

/-- The pieces between the occurrences of a character; never an empty list. -/
def split (separator : Char) (text : String) : List String :=
  (text.toList.splitOn separator).map String.ofList

/-- Whether a text begins with another one. -/
def startsWith (text beginning : String) : Bool :=
  beginning.toList.isPrefixOf text.toList

def endsWith (text ending : String) : Bool :=
  ending.toList.isSuffixOf text.toList

def has (character : Char) (text : String) : Bool :=
  text.toList.contains character

def drop (count : Nat) (text : String) : String :=
  String.ofList (text.toList.drop count)

/-- The text without its last `count` characters. -/
def dropEnd (count : Nat) (text : String) : String :=
  String.ofList (text.toList.take (text.toList.length - count))

/-- The text before and after the first occurrence of a character. -/
def cut? (separator : Char) (text : String) : Option (String × String) :=
  match text.toList.dropWhile (· != separator) with
  | [] => none
  | _ :: rest => some (String.ofList (text.toList.takeWhile (· != separator)), String.ofList rest)

/-- ASCII capitals made small; other characters stay. -/
def toLower (text : String) : String :=
  String.ofList (text.toList.map Char.toLower)

end ToolParams.Text
