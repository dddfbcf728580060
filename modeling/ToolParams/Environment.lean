import ToolParams.Inherited
import ToolParams.OrderedMap

/-!
# Environments

An environment gives texts to variables.  A text may refer to variables as
`$NAME` or `${NAME}`; a reference to a variable that is not set stays as it is,
unless every object has a member of that name.
-/

namespace ToolParams

/-- The values of variables by name. -/
abbrev Environment := OrderedMap String String

namespace Environment

/-- The characters of variable names. -/
def isNameChar (character : Char) : Bool :=
  character.isAlphanum || character = '_'

/-- The name at the front and what follows it. -/
def spanName (characters : List Char) : List Char × List Char :=
  (characters.takeWhile isNameChar, characters.dropWhile isNameChar)

/-- The name behind a dollar sign, the characters that the reference takes, and
what follows them. -/
def reference? (behind : List Char) : Option (List Char × List Char × List Char) :=
  match behind with
  | '\x7b' :: inner =>
      match spanName inner with
      | ([], _) => none
      | (name, '\x7d' :: rest) => some (name, '\x7b' :: (name ++ ['\x7d']), rest)
      | _ => none
  | _ =>
      match spanName behind with
      | ([], _) => none
      | (name, rest) => some (name, name, rest)

theorem length_spanName (characters : List Char) :
    (spanName characters).1.length + (spanName characters).2.length = characters.length := by
  rw [← List.length_append]
  simp [spanName, List.takeWhile_append_dropWhile]

theorem reference?_rest_le {behind name taken rest : List Char}
    (found : reference? behind = some (name, taken, rest)) : rest.length ≤ behind.length := by
  unfold reference? at found
  split at found
  · rename_i inner
    have total := length_spanName inner
    split at found
    · simp at found
    · rename_i spanned
      simp only [Option.some.injEq, Prod.mk.injEq] at found
      rw [spanned] at total
      obtain ⟨_, _, rfl⟩ := found
      simp only [List.length_cons] at total ⊢
      omega
    · simp at found
  · have total := length_spanName behind
    split at found
    · simp at found
    · rename_i spanned
      simp only [Option.some.injEq, Prod.mk.injEq] at found
      rw [spanned] at total
      obtain ⟨_, _, rfl⟩ := found
      simp only at total
      omega

/-- The characters with references replaced by what is found for them; a replacement is
not read again. -/
def expandChars (lookup : String → Option String) : List Char → List Char
  | [] => []
  | '$' :: behind =>
      match _ : reference? behind with
      | some (name, taken, rest) =>
          match lookup (String.ofList name) with
          | some value => value.toList ++ expandChars lookup rest
          | none => '$' :: (taken ++ expandChars lookup rest)
      | none => '$' :: expandChars lookup behind
  | character :: rest => character :: expandChars lookup rest
termination_by characters => characters.length
decreasing_by
  all_goals simp only [List.length_cons]
  · rename_i found
    have bound := reference?_rest_le found
    omega
  · rename_i found
    have bound := reference?_rest_le found
    omega
  · omega
  · omega

/-- A text with references replaced by what is found for them. -/
def expandBy (lookup : String → Option String) (text : String) : String :=
  String.ofList (expandChars lookup text.toList)

/-- What is found under a name: the value of the variable, or else the member that every
object has. -/
def value? (environment : Environment) (name : String) : Option String :=
  (environment.get? name).or (Inherited.text? name)

/-- A text with references replaced by what an environment has for them. -/
def expand (environment : Environment) (text : String) : String :=
  expandBy environment.value? text

end Environment

end ToolParams
