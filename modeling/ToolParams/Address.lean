import ToolParams.Address.Name
import ToolParams.Address.Numbers
import ToolParams.Programs.Bytes
import ToolParams.Text.Pieces

/-!
# Addresses

An address consists of a kind, a host with a user and a port, a path and a query.  Of a
well formed one only the password of its user and its query are told here; but the other
parts decide whether it is well formed.
-/

namespace ToolParams

/-- What an address tells. -/
structure Address where
  /-- the password, with escapes for what cannot stand in it -/
  password : String
  query : List Char
deriving DecidableEq, Repr

namespace Address

/-- How the host of an address is read. -/
inductive Kind where
  /-- a host that may have any name, and that may be left out -/
  | free
  /-- a host with a name or a number -/
  | hosted
  /-- a host with a name or a number, which may be left out, but no user or port -/
  | file
deriving DecidableEq, Repr

def Kind.ofName (name : String) : Kind :=
  if name = "file" then .file
  else if ["http", "https", "ws", "wss", "ftp"].contains name then .hosted
  else .free

/-- The characters before the first of some marks, and the rest with the mark. -/
def cutAt (marks characters : List Char) : List Char × List Char :=
  (characters.takeWhile (!marks.contains ·), characters.dropWhile (!marks.contains ·))

/-- Whether a character is removed at the ends of an address. -/
def isEdge (character : Char) : Bool := character.toNat ≤ 0x20

/-- The characters of an address that count. -/
def counted (text : String) : List Char :=
  let trimmed := ((text.toList.dropWhile isEdge).reverse.dropWhile isEdge).reverse
  trimmed.filter fun character => character ∉ ['\t', '\n', '\r']

/-- The value of a hexadecimal digit. -/
def hexDigit? (digit : Char) : Option Nat := Number.digit? 16 digit

/-- The bytes of a part of an address, with escapes of two digits. -/
def decodePart : List Char → Bytes
  | '%' :: high :: low :: rest =>
      match hexDigit? high, hexDigit? low with
      | some upper, some lower => UInt8.ofNat (16 * upper + lower) :: decodePart rest
      | _, _ => 37 :: decodePart (high :: low :: rest)
  | character :: rest => Bytes.ofText (String.ofList [character]) ++ decodePart rest
  | [] => []
termination_by characters => characters.length

def escapedSigns : List Char :=
  ['"', '#', '<', '>', '?', '\x60', '\x7b', '\x7d', '/', ':', ';', '=', '@', '[', '\\', ']',
    '^', '|']

/-- A character of a password, as an escape for each of its bytes if it cannot stand in
it. -/
def escape (character : Char) : List Char :=
  let code := character.toNat
  if code ≤ 0x20 || 0x7E < code || escapedSigns.contains character then
    (Bytes.ofText (String.ofList [character])).flatMap fun byte =>
      ['%', Char.toUpper (Nat.digitChar (byte.toNat / 16)),
        Char.toUpper (Nat.digitChar (byte.toNat % 16))]
  else [character]

def hostSigns : List Char :=
  ['\x00', '\t', '\n', '\r', ' ', '#', '/', ':', '<', '>', '?', '@', '[', '\\', ']', '^', '|']

/-- Whether characters are a host. -/
def isHost (kind : Kind) (host : List Char) : Bool :=
  if host.head? = some '[' then
    host.getLast? = some ']' && areGroups (host.drop 1).dropLast
  else if kind = .free then !host.any hostSigns.contains
  else
    let bytes := decodePart host
    let decoded := Bytes.toText bytes
    Bytes.ofText decoded = bytes &&
      match name? decoded.toList with
      | some name => !endsInNumber name || isNumber name
      | none => false

def lastPort : Nat := 65535

/-- Whether characters behind a host are a port, which may be empty. -/
def isPort (port : List Char) : Bool :=
  match port with
  | [] => true
  | ':' :: digits =>
      digits.all Char.isDigit && ((digitsValue? 10 digits).map fun value => decide (value ≤ lastPort)).getD false
  | _ => false

/-- A host and what follows it: a colon in brackets does not end it. -/
def cutHost : Bool → List Char → List Char × List Char
  | _, [] => ([], [])
  | inside, character :: rest =>
      if character = ':' && !inside then ([], character :: rest)
      else
        let inside := if character = '[' then true else if character = ']' then false else inside
        let (host, port) := cutHost inside rest
        (character :: host, port)

/-- Whether characters are a host and a port.  Only a free address without a user and a
port can leave the host out. -/
def areHostAndPort (kind : Kind) (hasUser : Bool) (characters : List Char) : Bool :=
  let (host, port) := cutHost false characters
  if host.isEmpty then kind = .free && !hasUser && port.isEmpty
  else isHost kind host && isPort port

/-- The query in the part of an address behind its host. -/
def queryIn (rest : List Char) : List Char :=
  (cutAt ['?'] (cutAt ['#'] rest).1).2.drop 1

/-- Reads an address from its host on. -/
def readHosted? (kind : Kind) (characters : List Char) : Option Address :=
  let ends := ['/', '?', '#'] ++ if kind = .hosted then ['\\'] else []
  let (authority, rest) := cutAt ends characters
  let host := (authority.reverse.takeWhile (· ≠ '@')).reverse
  let user := authority.take (authority.length - host.length)
  if areHostAndPort kind (!user.isEmpty) host then
    let password := (cutAt [':'] user.dropLast).2.drop 1
    some { password := String.ofList (password.flatMap escape), query := queryIn rest }
  else none

/-- Whether characters name a drive: a letter and a colon or a bar. -/
def isDrive : List Char → Bool
  | [letter, mark] => letter.isAlpha && (mark = ':' || mark = '|')
  | _ => false

/-- Whether a character ends a part of the path of a file. -/
def isSlash (character : Char) : Bool := character = '/' || character = '\\'

/-- Reads the address of a file behind its kind. -/
def readFile? (characters : List Char) : Option Address :=
  let found : Address := { password := "", query := queryIn characters }
  match characters with
  | first :: second :: rest =>
      let host := (cutAt ['/', '\\', '?', '#'] rest).1
      if isSlash first && isSlash second && !host.isEmpty && !isDrive host &&
        !isHost .file host then none
      else some found
  | _ => some found

def isKindName (name : List Char) : Bool :=
  (name.head?.map Char.isAlpha).getD false &&
    name.all fun character => character.isAlphanum || ['+', '-', '.'].contains character

/-- The address that a text spells. -/
def read? (text : String) : Option Address :=
  let (name, behind) := cutAt [':'] (counted text)
  if behind.isEmpty || !isKindName name then none
  else
    let kind := Kind.ofName (Text.toLower (String.ofList name))
    match kind, behind.drop 1 with
    | .file, rest => readFile? rest
    | .hosted, rest => readHosted? .hosted (rest.dropWhile isSlash)
    | .free, '/' :: '/' :: rest => readHosted? .free rest
    | .free, rest => some { password := "", query := queryIn rest }

/-- The first value that the query of an address gives to a name. -/
def queried? (address : Address) (name : String) : Option String :=
  let plain (part : List Char) : String :=
    Bytes.toText (decodePart (part.map fun sign => if sign = '+' then ' ' else sign))
  (address.query.splitOn '&').findSome? fun part =>
    let (key, value) := cutAt ['='] part
    if !part.isEmpty && plain key = name then some (plain (value.drop 1)) else none

end Address

end ToolParams
