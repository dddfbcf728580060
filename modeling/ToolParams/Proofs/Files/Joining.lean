import Mathlib.Data.List.Basic
import ToolParams.Files.Path
import ToolParams.Proofs.Text.Trimming

/-!
# Joining paths

A path is the list of its steps.  Joining a path and a name cleans the steps of the path
and puts the name behind them; steps that are clean already stay as they are, and without
two dots among them only empty steps and dots are dropped.
-/

namespace ToolParams.Path

variable {path first second name : String} {front names collected : List String}

/-- A step that names something inside a directory. -/
structure IsName (name : String) : Prop where
  filled : name ≠ ""
  notDot : name ≠ "."
  notDots : name ≠ ".."
  noSlash : '/' ∉ name.toList

theorem intercalate_steps (path : String) : "/".intercalate (steps path) = path :=
  Text.intercalate_split '/' path

theorem steps_intercalate (some : names ≠ []) (apart : ∀ name ∈ names, '/' ∉ name.toList) :
    steps ("/".intercalate names) = names :=
  Text.split_intercalate some apart

theorem steps_ne_nil (path : String) : steps path ≠ [] := by
  intro none
  exact List.splitOn_ne_nil _ _ (List.map_eq_nil_iff.mp none)

theorem noSlash_of_mem_steps (member : name ∈ steps path) : '/' ∉ name.toList :=
  Text.not_mem_of_mem_split member

theorem steps_of_noSlash (noSlash : '/' ∉ name.toList) : steps name = [name] := by
  have alone : "/".intercalate [name] = name := by simp
  rw [← alone]
  refine (steps_intercalate (List.cons_ne_nil _ _) ?_).trans (by rw [alone])
  intro other member
  exact List.mem_singleton.mp member ▸ noSlash

theorem steps_append (first second : String) :
    steps (first ++ "/" ++ second) = steps first ++ steps second := by
  have whole : first ++ "/" ++ second = "/".intercalate (steps first ++ steps second) := by
    rw [String.intercalate_append_of_ne_nil (steps_ne_nil first) (steps_ne_nil second),
      intercalate_steps, intercalate_steps]
  rw [whole]
  refine steps_intercalate (by simp [steps_ne_nil]) ?_
  intro name member
  rcases List.mem_append.mp member with inFirst | inSecond
  · exact noSlash_of_mem_steps inFirst
  · exact noSlash_of_mem_steps inSecond

/-- A text without slashes that follows a path is part of its last name. -/
theorem steps_append_of_noSlash {last ending : String} (split : steps path = front ++ [last])
    (noSlash : '/' ∉ ending.toList) : steps (path ++ ending) = front ++ [last ++ ending] := by
  have whole : path ++ ending = "/".intercalate (front ++ [last ++ ending]) := by
    rw [← intercalate_steps path, split]
    rcases front.eq_nil_or_concat with rfl | ⟨_, _, rfl⟩
    · simp
    · rw [String.intercalate_append_of_ne_nil (by simp) (by simp),
        String.intercalate_append_of_ne_nil (by simp) (by simp)]
      simp [String.append_assoc]
  rw [whole]
  refine steps_intercalate (by simp) ?_
  intro name member
  have apart (name : String) (member : name ∈ front ++ [last]) : '/' ∉ name.toList :=
    noSlash_of_mem_steps (split ▸ member)
  rcases List.mem_append.mp member with inFront | isLast
  · exact apart name (List.mem_append_left _ inFront)
  · rw [List.mem_singleton.mp isLast, String.toList_append, List.mem_append]
    exact not_or.mpr ⟨apart last (by simp), noSlash⟩

theorem isAbsolute_iff : isAbsolute path = true ↔ ∃ next rest, steps path = "" :: next :: rest := by
  unfold isAbsolute Text.startsWith steps Text.split
  cases path.toList with
  | nil => simp
  | cons head characters =>
      rw [List.splitOn_cons_eq_if_modifyHead]
      cases pieces : characters.splitOn '/' with
      | nil => exact absurd pieces (List.splitOn_ne_nil _ _)
      | cons first others =>
          by_cases slash : head = '/'
          · simp [slash]
          · simp [slash, Ne.symm slash]

theorem last_eq_empty_of_endsWith (ends : Text.endsWith path "/" = true) :
    (steps path).getLast? = some "" := by
  obtain ⟨front, whole⟩ := List.isSuffixOf_iff_suffix.mp ends
  have split : path = String.ofList front ++ "/" ++ "" := by
    apply String.toList_injective
    simpa using whole.symm
  rw [split, steps_append]
  simp [steps_of_noSlash]

def cleaned (absolute : Bool) (names : List String) : List String :=
  (names.foldl (addStep absolute) []).reverse

theorem addStep_name (isName : IsName name) (absolute : Bool) (collected : List String) :
    addStep absolute collected name = name :: collected := by
  simp [addStep, isName.filled, isName.notDot, isName.notDots]

theorem cleaned_concat (isName : IsName name) (absolute : Bool) (front : List String) :
    cleaned absolute (front ++ [name]) = cleaned absolute front ++ [name] := by
  simp [cleaned, addStep_name isName]

/-- Names collected so far, the last one first: two dots are only among the first of them,
and nowhere in an absolute path. -/
inductive Settled (absolute : Bool) : List String → Prop where
  | none : Settled absolute []
  | dots {collected : List String} : absolute = false → Settled absolute collected →
      (∀ other ∈ collected, other = "..") → Settled absolute (".." :: collected)
  | name {collected : List String} {name : String} : IsName name →
      Settled absolute collected → Settled absolute (name :: collected)

namespace Settled

variable {absolute : Bool}

theorem addStep (settled : Settled absolute collected) (noSlash : '/' ∉ name.toList) :
    Settled absolute (addStep absolute collected name) := by
  unfold Path.addStep
  by_cases idle : name = "" ∨ name = "."
  · rw [if_pos idle]
    exact settled
  rw [if_neg idle]
  by_cases dots : name = ".."
  · rw [if_pos dots]
    cases settled with
    | none =>
        cases absolute with
        | false => exact .dots rfl .none (by simp)
        | true => exact .none
    | dots relative earlier alike =>
        refine .dots relative (.dots relative earlier alike) ?_
        intro other member
        rcases List.mem_cons.mp member with rfl | before
        · rfl
        · exact alike other before
    | name isName earlier =>
        dsimp only
        rw [if_neg isName.notDots]
        exact earlier
  · rw [if_neg dots]
    rw [not_or] at idle
    exact .name ⟨idle.1, idle.2, dots, noSlash⟩ settled

theorem foldl (settled : Settled absolute collected)
    (apart : ∀ name ∈ names, '/' ∉ name.toList) :
    Settled absolute (names.foldl (Path.addStep absolute) collected) := by
  induction names generalizing collected with
  | nil => exact settled
  | cons name names induction =>
      refine induction (settled.addStep (apart name List.mem_cons_self)) ?_
      exact fun other member => apart other (List.mem_cons_of_mem _ member)

theorem foldl_reverse (settled : Settled absolute collected) :
    collected.reverse.foldl (Path.addStep absolute) [] = collected := by
  induction settled with
  | none => rfl
  | @dots collected relative _ alike induction =>
      rw [List.reverse_cons, List.foldl_append, induction]
      cases collected with
      | nil => simp [Path.addStep, relative]
      | cons last others => simp [Path.addStep, alike last List.mem_cons_self]
  | name isName _ induction =>
      rw [List.reverse_cons, List.foldl_append, induction]
      exact addStep_name isName _ _

theorem filled (settled : Settled absolute collected) : "" ∉ collected := by
  induction settled with
  | none => exact List.not_mem_nil
  | dots _ _ _ induction => simpa using induction
  | name isName _ induction => simpa [Ne.symm isName.filled] using induction

theorem noSlash (settled : Settled absolute collected) (member : name ∈ collected) :
    '/' ∉ name.toList := by
  induction settled with
  | none => cases member
  | dots _ _ _ induction =>
      rcases List.mem_cons.mp member with rfl | before
      · decide
      · exact induction before
  | name isName _ induction =>
      rcases List.mem_cons.mp member with rfl | before
      · exact isName.noSlash
      · exact induction before

end Settled

theorem settled_steps (absolute : Bool) (path : String) :
    Settled absolute ((steps path).foldl (addStep absolute) []) :=
  Settled.none.foldl fun _ member => noSlash_of_mem_steps member

/-- Steps behind a beginning that tells whether they lead from the root. -/
def rooted (absolute : Bool) (names : List String) : List String :=
  if absolute then "" :: names else names

theorem ne_empty_of_steps (split : steps path = front ++ [name]) (isName : IsName name) :
    path ≠ "" := by
  rintro rfl
  have last := congrArg List.getLast? split
  have empty : steps "" = [""] := steps_of_noSlash (by simp)
  simp only [empty, List.getLast?_singleton, List.getLast?_concat, Option.some.injEq] at last
  exact isName.filled last.symm

/-- Normalizing a path that ends in a name cleans the steps before it. -/
theorem steps_normalize (split : steps path = front ++ [name]) (isName : IsName name) :
    steps (normalize path) =
      rooted (isAbsolute path) (cleaned (isAbsolute path) front) ++ [name] := by
  have filled : path ≠ "" := ne_empty_of_steps split isName
  have unended : Text.endsWith path "/" = false := by
    by_contra ends
    have last := last_eq_empty_of_endsWith (by simpa using ends)
    rw [split, List.getLast?_concat, Option.some.injEq] at last
    exact isName.filled last
  have names : ((steps path).foldl (addStep (isAbsolute path)) []).reverse =
      cleaned (isAbsolute path) front ++ [name] := by
    rw [split]
    exact cleaned_concat isName _ _
  have apart : ∀ other ∈ cleaned (isAbsolute path) front ++ [name], '/' ∉ other.toList := by
    intro other member
    rw [← names, List.mem_reverse] at member
    exact (settled_steps _ path).noSlash member
  unfold normalize
  simp only [names, filled, unended, if_false, Bool.false_eq_true, List.isEmpty_iff,
    List.append_eq_nil_iff, List.cons_ne_nil, and_false, String.append_empty]
  unfold rooted
  split_ifs with absolute
  · have whole : "/" ++ "/".intercalate (cleaned (isAbsolute path) front ++ [name]) =
        "" ++ "/" ++ "/".intercalate (cleaned (isAbsolute path) front ++ [name]) := by simp
    rw [whole, steps_append, steps_intercalate (by simp) apart, steps_of_noSlash (by simp)]
    simp
  · rw [String.empty_append, steps_intercalate (by simp) apart]

/-- The steps of a path as joining a name to it leaves them. -/
def lead (first : String) : List String :=
  rooted (isAbsolute first) (cleaned (isAbsolute first) (steps first))

theorem isAbsolute_name (isName : IsName name) : isAbsolute name = false := by
  by_contra absolute
  obtain ⟨next, rest, split⟩ := isAbsolute_iff.mp (by simpa using absolute)
  rw [steps_of_noSlash isName.noSlash] at split
  cases split

theorem isAbsolute_append (filled : first ≠ "") (second : String) :
    isAbsolute (first ++ "/" ++ second) = isAbsolute first := by
  have spelled : first.toList ≠ [] := by simpa using filled
  unfold isAbsolute Text.startsWith
  rw [String.toList_append, String.toList_append]
  cases spelling : first.toList with
  | nil => exact absurd spelling spelled
  | cons head characters => simp [List.isPrefixOf]

theorem join_eq_normalize (filled : second ≠ "") :
    join first second = normalize (if first = "" then second else first ++ "/" ++ second) := by
  unfold join
  by_cases empty : first = ""
  · simp [empty, filled]
  · simp [empty, filled]

theorem last_join (split : steps second = front ++ [name]) (isName : IsName name)
    (first : String) : ∃ before, steps (join first second) = before ++ [name] := by
  rw [join_eq_normalize (ne_empty_of_steps split isName)]
  by_cases empty : first = ""
  · rw [if_pos empty]
    exact ⟨_, steps_normalize split isName⟩
  · rw [if_neg empty]
    have joined : steps (first ++ "/" ++ second) = (steps first ++ front) ++ [name] := by
      rw [steps_append, split, List.append_assoc]
    exact ⟨_, steps_normalize joined isName⟩

theorem baseName_of_steps (split : steps path = front ++ [name]) (filled : name ≠ "") :
    baseName path = name := by
  unfold baseName
  rw [split, List.filter_append, List.filter_cons_of_pos (by simpa using filled),
    List.filter_nil, List.getLastD_concat]

theorem steps_join (isName : IsName name) (first : String) :
    steps (join first name) = lead first ++ [name] := by
  have alone : steps name = [] ++ [name] := steps_of_noSlash isName.noSlash
  rw [join_eq_normalize isName.filled]
  by_cases empty : first = ""
  · subst empty
    rw [if_pos rfl, steps_normalize alone isName, isAbsolute_name isName]
    rfl
  · have joined : steps (first ++ "/" ++ name) = steps first ++ [name] := by
      rw [steps_append, alone, List.nil_append]
    rw [if_neg empty, steps_normalize joined isName, isAbsolute_append empty]
    rfl

theorem isAbsolute_join (isName : IsName name) (first : String) :
    isAbsolute (join first name) = isAbsolute first := by
  apply Bool.eq_iff_iff.mpr
  rw [isAbsolute_iff, steps_join isName, lead, rooted]
  cases absolute : isAbsolute first with
  | true =>
      cases cleaned true (steps first) with
      | nil => simp
      | cons next rest => simp
  | false =>
      have settled := settled_steps false first
      cases names : cleaned false (steps first) with
      | nil => simp
      | cons next rest =>
          have member : next ∈ (steps first).foldl (addStep false) [] := by
            rw [← List.mem_reverse]
            exact (congrArg (next ∈ ·) names).mpr List.mem_cons_self
          have filled : next ≠ "" := fun same => settled.filled (same ▸ member)
          simp [filled]

theorem cleaned_lead (first : String) :
    cleaned (isAbsolute first) (lead first) = cleaned (isAbsolute first) (steps first) := by
  have again : cleaned (isAbsolute first) (cleaned (isAbsolute first) (steps first)) =
      cleaned (isAbsolute first) (steps first) := by
    unfold cleaned
    rw [(settled_steps _ first).foldl_reverse]
  unfold lead rooted
  split_ifs with absolute
  · rw [absolute] at again ⊢
    exact again
  · exact again

/-- A path that was joined, with a text behind its last name, keeps its steps when more is
joined to it. -/
theorem lead_join {ending : String} (isName : IsName name) (noSlash : '/' ∉ ending.toList)
    (isWhole : IsName (name ++ ending)) (first : String) :
    lead (join first name ++ ending) = lead first ++ [name ++ ending] := by
  have split := steps_append_of_noSlash (steps_join isName first) noSlash
  have absolute : isAbsolute (join first name ++ ending) = isAbsolute first := by
    rw [← isAbsolute_join isWhole first]
    apply Bool.eq_iff_iff.mpr
    rw [isAbsolute_iff, isAbsolute_iff, split, steps_join isWhole]
  rw [lead, absolute, split, cleaned_concat isWhole, cleaned_lead, lead, rooted, rooted]
  split_ifs <;> rfl

/-- The steps that lead from a directory to another one: no empty ones and no dots. -/
def moves (names : List String) : List String :=
  names.filter fun name => decide (name ≠ "" ∧ name ≠ ".")

theorem foldl_addStep_of_straight {absolute : Bool} (straight : ".." ∉ names)
    (collected : List String) :
    names.foldl (addStep absolute) collected = (moves names).reverse ++ collected := by
  induction names generalizing collected with
  | nil => rfl
  | cons name names induction =>
      rw [List.mem_cons, not_or] at straight
      rw [List.foldl_cons, induction straight.2]
      by_cases idle : name = "" ∨ name = "."
      · have step : addStep absolute collected name = collected := if_pos idle
        have dropped : ¬(name ≠ "" ∧ name ≠ ".") := by
          rwa [not_and_or, not_not, not_not]
        rw [step, moves, moves, List.filter_cons_of_neg (by simpa using dropped)]
      · have step : addStep absolute collected name = name :: collected :=
          (if_neg idle).trans (if_neg (Ne.symm straight.1))
        have kept := not_or.mp idle
        rw [step, moves, moves, List.filter_cons_of_pos (by simpa using kept)]
        simp

/-- Without two dots, joining drops only empty steps and dots. -/
theorem moves_lead (straight : ".." ∉ steps first) : moves (lead first) = moves (steps first) := by
  have kept : cleaned (isAbsolute first) (steps first) = moves (steps first) := by
    rw [cleaned, foldl_addStep_of_straight straight, List.append_nil, List.reverse_reverse]
  rw [lead, kept, rooted]
  split_ifs
  · simp [moves]
  · simp [moves]

end ToolParams.Path
