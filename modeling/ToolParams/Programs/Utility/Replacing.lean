import ToolParams.Programs.CharClass
import ToolParams.Programs.Utility.Printing

/-!
# Replacing characters

The utility that puts the characters of one set in the place of those of another, takes
characters out, or makes one of several equal ones.
-/

namespace ToolParams.Replacing

/-- A part of a written set. -/
inductive Part where
  | range (first last : Char)
  | named (name : String)
  /-- a character again and again; without a count, as often as is needed -/
  | repeated (character : Char) (count : Option Nat)
deriving DecidableEq, Repr

/-- What is wrong with a set. -/
inductive SetFault where
  | reversed (text : String)
  | unknownClass (name : String)
deriving DecidableEq, Repr

def SetFault.message : SetFault → String
  | .reversed text =>
      s!"range-endpoints of {Quoting.plain text} are in reverse collating sequence order"
  | .unknownClass name => s!"invalid character class {Quoting.plain name}"

/-- The characters of a written set; a flag says that a backslash stood before. -/
def withEscapes : Nat → List Char → List (Char × Bool)
  | 0, _ => []
  | _, [] => []
  | fuel + 1, '\\' :: rest =>
      match rest with
      | [] => [('\\', true)]
      | character :: left =>
          match if character = 'e' then none else Printing.escape? .system .form rest with
          | some (value, left) =>
              if character = 'x' || character = '\x22' then
                (character, true) :: withEscapes fuel (rest.drop 1)
              else (value, true) :: withEscapes fuel left
          | none => (character, true) :: withEscapes fuel left
  | fuel + 1, character :: rest => (character, false) :: withEscapes fuel rest

/-- The parts of a set. -/
def readParts : Nat → List (Char × Bool) → Except SetFault (List Part)
  | 0, _ => .ok []
  | _, [] => .ok []
  | fuel + 1, (character, escaped) :: rest =>
      let single : Except SetFault (List Part) := do
        return .range character character :: (← readParts fuel rest)
      let plain (sign : Char) : Bool := !escaped && character = sign
      match rest with
      | (':', false) :: behind =>
          if !plain '[' then ranged fuel character rest
          else
            let name := (behind.map (·.1)).takeWhile Char.isAlphanum
            match behind.drop name.length with
            | (':', false) :: (']', false) :: left =>
                let text := String.ofList name
                if (CharClass.named.lookup text).isNone then .error (.unknownClass text)
                else do return .named text :: (← readParts fuel left)
            | _ => single
      | ('=', false) :: (member, _) :: ('=', false) :: (']', false) :: left =>
          if !plain '[' then ranged fuel character rest
          else do return .range member member :: (← readParts fuel left)
      | (member, _) :: ('*', false) :: behind =>
          let (digits, left) := Number.spanDigits (behind.map (·.1))
          if plain '[' && left.head? = some ']' then do
            let count := Number.digitsValue digits
            let others ← readParts fuel (behind.drop (digits.length + 1))
            return .repeated member (if count = 0 then none else some count) :: others
          else ranged fuel character rest
      | _ => ranged fuel character rest
where
  ranged (fuel : Nat) (character : Char) (rest : List (Char × Bool)) :
      Except SetFault (List Part) :=
    match rest with
    | ('-', false) :: (last, _) :: left =>
        if last < character then .error (.reversed (String.ofList [character, '-', last]))
        else do return .range character last :: (← readParts fuel left)
    | _ => do return .range character character :: (← readParts fuel rest)

def readSet (text : String) : Except SetFault (List Part) :=
  let characters := withEscapes (text.length + 1) text.toList
  readParts (characters.length + 1) characters

/-- The characters between two, both included. -/
def between (bound : Char × Char) : List Char :=
  (List.range (bound.2.toNat + 1 - bound.1.toNat)).map fun offset =>
    Char.ofNat (bound.1.toNat + offset)

/-- The characters of a part, which fills up what is missing if it has no count. -/
def Part.members (missing : Nat) : Part → List Char
  | .range first last => between (first, last)
  | .named name => ((CharClass.named.lookup name).getD []).flatMap between
  | .repeated character count => List.replicate (count.getD missing) character

/-- The characters of a set that is to have a size if it can. -/
def members (size : Nat) (parts : List Part) : List Char :=
  let known := (parts.flatMap (Part.members 0)).length
  parts.flatMap (Part.members (size - known))

/-- The characters with only the first of several equal ones that are in a set. -/
def squeeze (inSet : Char → Bool) : Option Char → List Char → List Char
  | _, [] => []
  | previous, character :: rest =>
      if previous = some character && inSet character then squeeze inSet previous rest
      else character :: squeeze inSet (some character) rest

/-- All bytes that are not in a set. -/
def complement (characters : List Char) : List Char :=
  ((List.range 256).map Char.ofNat).filter fun character => !characters.contains character

/-- Whether a set has one of the classes of letters by case. -/
def hasCase (parts : List Part) : Bool :=
  parts.any fun part => part = .named "upper" || part = .named "lower"

/-- Whether a part is a class of characters, but not one of letters by case. -/
def Part.isOther : Part → Bool
  | .named name => name ≠ "upper" && name ≠ "lower"
  | _ => false

/-- Replaces, removes and squeezes characters. -/
def tr : Utility := fun arguments =>
  let form : OptionForm := .of "cCdst" "" [("complement", 'c'), ("delete", 'd'),
    ("squeeze-repeats", 's'), ("truncate-set1", 't')]
  match Options.readLeading form arguments with
  | .error fault => Work.refuse 1 fault.message
  | .ok options => do
      let deleting := options.has 'd'
      let squeezing := options.has 's'
      let most := if deleting && !squeezing then 1 else 2
      let least := if deleting == squeezing then 2 else 1
      match options.operands with
      | [] => Work.refuse 1 "missing operand"
      | [only] =>
          if least = 2 then
            let which := if deleting then
                "Two strings must be given when both deleting and squeezing repeats."
              else "Two strings must be given when translating."
            Work.refuse 1 s!"missing operand after {Quoting.plain only}\n{which}"
          else work options only none
      | first :: second :: others =>
          if most = 1 then
            let extra := s!"extra operand {Quoting.plain second}"
            Work.refuse 1 (if others.isEmpty then
                extra ++ "\nOnly one string may be given when deleting without squeezing repeats."
              else extra)
          else match others with
            | [] => work options first (some second)
            | extra :: _ => Work.refuse 1 s!"extra operand {Quoting.plain extra}"
where
  work (options : Options) (first : String) (second : Option String) : Work Unit := do
    for text in first :: second.toList do
      if (text.toList.reverse.takeWhile (· = '\\')).length % 2 = 1 then
        Work.remark (s!"{(← get).name}: warning: an unescaped backslash at end of string " ++
          "is not portable\n")
    match readSet first, (second.map readSet).getD (.ok []) with
    | .error fault, _ => Work.complain 1 fault.message
    | _, .error fault => Work.complain 1 fault.message
    | .ok sources, .ok targets =>
        let deleting := options.has 'd'
        let squeezing := options.has 's'
        let turned := options.has 'c' || options.has 'C'
        let sourceSet := members 0 sources
        let sourceSet := if turned then complement sourceSet else sourceSet
        let targetSet := members sourceSet.length targets
        if !deleting && second.isSome && targets.any Part.isOther then
          Work.complain 1 ("when translating, the only character classes that may appear in\n" ++
            "string2 are 'upper' and 'lower'")
        else if !deleting && second.isSome && hasCase targets && !hasCase sources then
          Work.complain 1 "misaligned [:upper:] and/or [:lower:] construct"
        else if !deleting && second.isSome && targetSet.isEmpty && !options.has 't' then
          Work.complain 1 "when not truncating set1, string2 must be non-empty"
        else
          let characters := (← Work.takeInput).toList
          let result :=
            if deleting then
              let kept := characters.filter (!sourceSet.contains ·)
              if squeezing then squeeze targetSet.contains none kept else kept
            else match second with
              | none => squeeze sourceSet.contains none characters
              | some _ =>
                  let pairs := if options.has 't' then sourceSet.zip targetSet
                    else sourceSet.zip (targetSet ++ List.replicate
                      (sourceSet.length - targetSet.length) (targetSet.getLastD ' '))
                  let changes := pairs.reverse
                  let replaced := characters.map fun character =>
                    (changes.lookup character).getD character
                  if squeezing then squeeze targetSet.contains none replaced else replaced
          Work.say (String.ofList result)

end ToolParams.Replacing
