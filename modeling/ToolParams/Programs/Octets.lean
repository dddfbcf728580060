import ToolParams.Files.Tree
import ToolParams.Programs.Bytes

/-!
# Texts that spell bytes

Programs know bytes and no characters.  A text spells bytes if each of its characters
has the number of one byte, so that the length of the text and all its parts are those
of the bytes.  A text of ASCII spells itself.
-/

namespace ToolParams.Octets

/-- Whether a text has only ASCII in it. -/
def isPlain (text : String) : Bool :=
  text.toList.all fun character => character.toNat < 0x80

def spell (text : String) : String :=
  if isPlain text then text
  else String.ofList ((Bytes.ofText text).map fun byte => Char.ofNat byte.toNat)

def bytes (spelled : String) : Bytes :=
  spelled.toList.map fun character => UInt8.ofNat character.toNat

def read (spelled : String) : String :=
  if isPlain spelled then spelled else Bytes.toText (bytes spelled)

end ToolParams.Octets

namespace ToolParams

def Node.mapTexts (change : String → String) : Node → Node
  | .file content mode => .file (change content) mode
  | .directory mode => .directory mode
  | .link target => .link (change target)

/-- A file tree with all names and contents changed. -/
def FileTree.mapTexts (change : String → String) (tree : FileTree) : FileTree where
  nodes := ⟨tree.nodes.toList.map fun (place, node) =>
    (place.map change, node.mapTexts change)⟩
  here := tree.here.map change

end ToolParams
