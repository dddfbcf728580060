/-!
# Blank characters and trimming

A parameter file is read with blanks removed at both ends of its lines.  The
blank characters are the Unicode space separators, the ASCII controls from tab
to carriage return, the two line separators and the byte order mark.
-/

namespace ToolParams.Text

/-- Blank characters: those that trimming removes. -/
def isBlank (character : Char) : Bool :=
  let code := character.toNat
  (0x09 ≤ code && code ≤ 0x0D) || code == 0x20 || code == 0xA0 || code == 0x1680 ||
    (0x2000 ≤ code && code ≤ 0x200A) || code == 0x2028 || code == 0x2029 ||
    code == 0x202F || code == 0x205F || code == 0x3000 || code == 0xFEFF

def trimEndChars (characters : List Char) : List Char :=
  (characters.reverse.dropWhile isBlank).reverse

def trimChars (characters : List Char) : List Char :=
  trimEndChars (characters.dropWhile isBlank)

def trimEnd (text : String) : String :=
  String.ofList (trimEndChars text.toList)

/-- The text without the blanks at either end. -/
def trim (text : String) : String :=
  String.ofList (trimChars text.toList)

@[simp]
theorem toList_trim (text : String) : (trim text).toList = trimChars text.toList := by
  simp [trim]

end ToolParams.Text
