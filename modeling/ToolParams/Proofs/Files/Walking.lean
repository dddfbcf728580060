import ToolParams.Proofs.Files.Emptying
import ToolParams.Proofs.Files.Joining

/-!
# Walks in two parts

A walk along names goes on where its first part ends.  So the place of a name that is
joined to a path is next to the place of the path, in the directory that stands there.
-/

namespace ToolParams.FileTree

variable {tree other : FileTree} {ending : Ending} {position place : Place} {halt : Halt}
  {front names rest : List String} {name : String} {links : Nat}

/-- There is a directory at a place, and names may be looked up in it. -/
def Opens (tree : FileTree) (place : Place) : Prop :=
  ∃ mode, tree.node? place = some (.directory mode) ∧ isRunnable mode = true

/-- The second part of a walk, which tells how the end of the whole walk is wanted. -/
structure Continues (ending : Ending) (rest : List String) : Prop where
  further : rest ≠ []
  named : ending = .writable → ∃ name ∈ rest, name ≠ ""

theorem Continues.single (filled : name ≠ "") : Continues ending [name] :=
  ⟨List.cons_ne_nil _ _, fun _ => ⟨name, List.mem_cons_self, filled⟩⟩

theorem Enters.append (continues : Continues ending rest)
    (enters : Enters tree .followed position name names) :
    Enters tree ending position name (names ++ rest) :=
  { enters with
    noSlash := by
      rintro ⟨writable, _, blank⟩
      obtain ⟨further, member, filled⟩ := continues.named writable
      have empty := List.all_eq_true.mp blank further (List.mem_append_right _ member)
      exact filled (of_decide_eq_true empty) }

theorem Enters.followed (enters : Enters tree ending position name rest) (names : List String) :
    Enters tree .followed position name names :=
  { enters with noSlash := by simp }

/-- A walk goes on where its first part arrived. -/
theorem advance_append (continues : Continues ending rest)
    (walk : Advances tree .followed position names (.arrived place)) :
    tree.advance ending position (names ++ rest) = tree.advance ending place rest := by
  generalize arrived : Halt.arrived place = first at walk
  induction walk with
  | arrive =>
      cases arrived
      rfl
  | stay directory idle _ induction =>
      rw [List.cons_append, advance, directory]
      rcases idle with rfl | ⟨isOpen, rfl⟩
      · simpa using induction arrived
      · simpa [isOpen] using induction arrived
  | ascend directory isOpen _ induction =>
      rw [List.cons_append, advance, directory]
      simpa [isOpen] using induction arrived
  | name _ _ itself => cases itself
  | meet _ _ _ => cases arrived
  | enter enters unlinked _ induction =>
      rw [List.cons_append, advance_enters (enters.append continues)]
      split
      · rename_i target linked
        exact absurd linked (unlinked target)
      · exact induction arrived

/-- A walk that meets a link in its first part has the second one left as well. -/
theorem Advances.append_link {directory : Place} {target : String} {left : List String}
    (continues : Continues ending rest)
    (walk : Advances tree .followed position names (.link directory target left)) :
    Advances tree ending position (names ++ rest) (.link directory target (left ++ rest)) := by
  generalize met : Halt.link directory target left = first at walk
  induction walk with
  | arrive => cases met
  | stay directory idle _ induction => exact .stay directory idle (induction met)
  | ascend directory isOpen _ induction => exact .ascend directory isOpen (induction met)
  | name _ _ itself => cases itself
  | meet enters linked _ =>
      cases met
      exact .meet (enters.append continues) linked
        fun ended => absurd (List.append_eq_nil_iff.mp ended).2 continues.further
  | enter enters unlinked _ induction =>
      exact .enter (enters.append continues) unlinked (induction met)

/-- A walk in two parts arrives after the first one, or meets a link in it. -/
theorem Advances.split (further : rest ≠ [])
    (walk : Advances tree ending position (names ++ rest) halt) :
    (∃ place, Advances tree .followed position names (.arrived place) ∧
      Advances tree ending place rest halt) ∨
    ∃ directory target left,
      Advances tree .followed position names (.link directory target left) ∧
        halt = .link directory target (left ++ rest) := by
  induction names generalizing position with
  | nil => exact .inl ⟨position, .arrive, walk⟩
  | cons name names induction =>
      rw [List.cons_append] at walk
      generalize whole : name :: (names ++ rest) = steps at walk
      cases walk with
      | arrive => cases whole
      | stay directory idle walk =>
          cases whole
          rcases induction walk with ⟨place, first, second⟩ | ⟨_, _, _, first, isLink⟩
          · exact .inl ⟨place, .stay directory idle first, second⟩
          · exact .inr ⟨_, _, _, .stay directory idle first, isLink⟩
      | ascend directory isOpen walk =>
          cases whole
          rcases induction walk with ⟨place, first, second⟩ | ⟨_, _, _, first, isLink⟩
          · exact .inl ⟨place, .ascend directory isOpen first, second⟩
          · exact .inr ⟨_, _, _, .ascend directory isOpen first, isLink⟩
      | name _ _ _ =>
          have ended := (List.cons.inj whole).2
          exact absurd (List.append_eq_nil_iff.mp ended).2 further
      | meet enters linked _ =>
          cases whole
          exact .inr ⟨_, _, _, .meet (enters.followed names) linked (by simp), rfl⟩
      | enter enters unlinked walk =>
          cases whole
          rcases induction walk with ⟨place, first, second⟩ | ⟨_, _, _, first, isLink⟩
          · exact .inl ⟨place, .enter (enters.followed names) unlinked first, second⟩
          · exact .inr ⟨_, _, _, .enter (enters.followed names) unlinked first, isLink⟩

/-- What is found along a walk in two parts is found from where the first one leads. -/
theorem exists_locateFrom_append (continues : Continues ending rest)
    (located : tree.locateFrom .followed links position names = .ok place) :
    ∃ left, tree.locateFrom ending links position (names ++ rest) =
      tree.locateFrom ending (left + 1) place rest := by
  induction links generalizing position names with
  | zero => cases located
  | succ links induction =>
      unfold locateFrom at located
      cases walked : tree.advance .followed position names with
      | error cause =>
          rw [walked] at located
          cases located
      | ok halt =>
          rw [walked] at located
          have walk := advance_eq_ok_iff.mp walked
          cases halt with
          | arrived place =>
              cases located
              refine ⟨links, ?_⟩
              rw [locateFrom, advance_append continues walk, ← locateFrom]
          | link directory target left =>
              obtain ⟨fewer, same⟩ := induction located
              refine ⟨fewer, ?_⟩
              rw [locateFrom, advance_eq_ok_iff.mpr (walk.append_link continues)]
              simp only
              rw [← List.append_assoc, same]

theorem locateFrom_append (continues : Continues ending rest)
    (located : tree.locateFrom .followed links position names = .ok place) {reached : Place}
    (further : Advances tree ending place rest (.arrived reached)) :
    tree.locateFrom ending links position (names ++ rest) = .ok reached := by
  obtain ⟨left, same⟩ := exists_locateFrom_append continues located
  rw [same, locateFrom, advance_eq_ok_iff.mpr further]

/-- A walk in two parts that has a place has one after its first part. -/
theorem exists_of_locateFrom_append (further : rest ≠ [])
    (located : tree.locateFrom ending links position (names ++ rest) = .ok place) :
    ∃ middle left, tree.locateFrom .followed links position names = .ok middle ∧
      tree.locateFrom ending left middle rest = .ok place := by
  induction links generalizing position names with
  | zero => cases located
  | succ links induction =>
      unfold locateFrom at located
      cases walked : tree.advance ending position (names ++ rest) with
      | error cause =>
          rw [walked] at located
          cases located
      | ok halt =>
          rw [walked] at located
          rcases (advance_eq_ok_iff.mp walked).split further with
            ⟨middle, first, second⟩ | ⟨directory, target, left, first, rfl⟩
          · refine ⟨middle, links + 1, ?_, ?_⟩
            · rw [locateFrom, advance_eq_ok_iff.mpr first]
            · rw [locateFrom, advance_eq_ok_iff.mpr second]
              exact located
          · simp only at located
            rw [← List.append_assoc] at located
            rw [locateFrom, advance_eq_ok_iff.mpr first]
            exact induction located

/-- The place of a name seen from a directory, unless a link is to be followed there. -/
theorem advances_name (isName : Path.IsName name) (opens : tree.Opens position)
    (isShort : name.utf8ByteSize ≤ longestName)
    (unlinked : ending = .itself ∨
      ∀ target, tree.node? (position ++ [name]) ≠ some (.link target)) :
    Advances tree ending position [name] (.arrived (position ++ [name])) := by
  have enters : Enters tree ending position name [] :=
    { directory := opens
      isName := ⟨isName.filled, isName.notDot, isName.notDots⟩
      noSlash := by simp
      isShort }
  by_cases linked : ∃ target, tree.node? (position ++ [name]) = some (.link target)
  · obtain ⟨target, linked⟩ := linked
    exact .name enters linked (unlinked.resolve_right fun none => none target linked)
  · rw [not_exists] at linked
    exact .enter enters linked .arrive

/-- What a walk along a single name tells. -/
theorem of_locateFrom_name (isName : Path.IsName name)
    (located : tree.locateFrom ending links position [name] = .ok place) :
    tree.Opens position ∧ name.utf8ByteSize ≤ longestName ∧
      (place = position ++ [name] ∨ ending ≠ .itself ∧
        ∃ target, tree.node? (position ++ [name]) = some (.link target)) := by
  cases links with
  | zero => cases located
  | succ links =>
      unfold locateFrom at located
      cases walked : tree.advance ending position [name] with
      | error cause =>
          rw [walked] at located
          cases located
      | ok halt =>
          rw [walked] at located
          cases advance_eq_ok_iff.mp walked with
          | stay _ idle _ =>
              rcases idle with empty | ⟨_, dot⟩
              · exact absurd empty isName.filled
              · exact absurd dot isName.notDot
          | ascend _ _ _ => exact absurd rfl isName.notDots
          | name enters _ _ =>
              cases located
              exact ⟨enters.directory, enters.isShort, .inl rfl⟩
          | meet enters linked follows =>
              exact ⟨enters.directory, enters.isShort, .inr ⟨follows rfl, _, linked⟩⟩
          | enter enters _ walk =>
              cases walk
              cases located
              exact ⟨enters.directory, enters.isShort, .inl rfl⟩

theorem of_locateFrom_dot (dot : name = ".")
    (located : tree.locateFrom ending links position [name] = .ok place) : place = position := by
  cases links with
  | zero => cases located
  | succ links =>
      unfold locateFrom at located
      cases walked : tree.advance ending position [name] with
      | error cause =>
          rw [walked] at located
          cases located
      | ok halt =>
          rw [walked] at located
          cases advance_eq_ok_iff.mp walked with
          | stay _ _ walk =>
              cases walk
              cases located
              rfl
          | ascend _ _ _ => exact absurd dot (by decide)
          | name enters _ _ => exact absurd dot enters.isName.2.1
          | meet enters _ _ => exact absurd dot enters.isName.2.1
          | enter enters _ _ => exact absurd dot enters.isName.2.1

theorem Advances.opens (filled : name ≠ "")
    (walk : Advances tree ending position (name :: rest) halt) : tree.Opens position := by
  cases walk with
  | stay directory idle _ => exact ⟨_, directory, (idle.resolve_left filled).1⟩
  | ascend directory isOpen _ => exact ⟨_, directory, isOpen⟩
  | name enters _ _ => exact enters.directory
  | meet enters _ _ => exact enters.directory
  | enter enters _ _ => exact enters.directory

/-- The end of a walk with only the moves of what is left. -/
def Halt.moves : Halt → Halt
  | .arrived place => .arrived place
  | .link directory target rest => .link directory target (Path.moves rest)

theorem moves_cons_of_idle {step : String} (idle : step = "" ∨ step = ".") (rest : List String) :
    Path.moves (step :: rest) = Path.moves rest := by
  have dropped : ¬(step ≠ "" ∧ step ≠ ".") := by
    rwa [not_and_or, not_not, not_not]
  rw [Path.moves, Path.moves, List.filter_cons_of_neg (by simpa using dropped)]

theorem moves_cons_of_move {step : String} (isMove : step ≠ "" ∧ step ≠ ".")
    (rest : List String) : Path.moves (step :: rest) = step :: Path.moves rest := by
  rw [Path.moves, Path.moves, List.filter_cons_of_pos (by simpa using isMove)]

/-- Empty steps and dots lead nowhere. -/
theorem Advances.moves (walk : Advances tree .followed position names halt) :
    Advances tree .followed position (Path.moves names) halt.moves := by
  induction walk with
  | arrive => exact .arrive
  | @stay position step rest halt mode _ idle _ induction =>
      rw [moves_cons_of_idle (idle.imp_right And.right)]
      exact induction
  | ascend directory isOpen _ induction =>
      rw [moves_cons_of_move (by decide)]
      exact .ascend directory isOpen induction
  | name _ _ itself => cases itself
  | meet enters linked _ =>
      rw [moves_cons_of_move ⟨enters.isName.1, enters.isName.2.1⟩]
      exact .meet (enters.followed _) linked (by simp)
  | enter enters unlinked _ induction =>
      rw [moves_cons_of_move ⟨enters.isName.1, enters.isName.2.1⟩]
      exact .enter (enters.followed _) unlinked induction

/-- Empty steps and dots keep no walk from where it leads, if that is a directory. -/
theorem Advances.of_moves (walk : Advances tree .followed position (Path.moves names) halt)
    (opens : ∀ place, halt = .arrived place → tree.Opens place) :
    ∃ same, Advances tree .followed position names same ∧ same.moves = halt := by
  induction names generalizing position with
  | nil =>
      cases walk
      exact ⟨_, .arrive, rfl⟩
  | cons step names induction =>
      by_cases idle : step = "" ∨ step = "."
      · rw [moves_cons_of_idle idle] at walk
        have directory : tree.Opens position := by
          cases steps : Path.moves names with
          | nil =>
              rw [steps] at walk
              cases walk
              exact opens position rfl
          | cons first rest =>
              have member : first ∈ Path.moves names := steps ▸ List.mem_cons_self
              have filled := of_decide_eq_true (List.mem_filter.mp member).2
              rw [steps] at walk
              exact walk.opens filled.1
        obtain ⟨mode, stands, isOpen⟩ := directory
        obtain ⟨same, walked, alike⟩ := induction walk
        exact ⟨same, .stay stands (idle.imp_right fun dot => ⟨isOpen, dot⟩) walked, alike⟩
      · rw [moves_cons_of_move (not_or.mp idle)] at walk
        generalize whole : step :: Path.moves names = steps at walk
        cases walk with
        | arrive => cases whole
        | stay _ isIdle _ =>
            cases whole
            exact absurd (isIdle.imp_right And.right) idle
        | ascend directory isOpen walk =>
            cases whole
            obtain ⟨same, walked, alike⟩ := induction walk
            exact ⟨same, .ascend directory isOpen walked, alike⟩
        | name _ _ itself => cases itself
        | meet enters linked _ =>
            cases whole
            exact ⟨_, .meet (enters.followed names) linked (by simp), rfl⟩
        | enter enters unlinked walk =>
            cases whole
            obtain ⟨same, walked, alike⟩ := induction walk
            exact ⟨same, .enter (enters.followed names) unlinked walked, alike⟩

/-- Steps with the same moves lead to the same directory. -/
theorem locateFrom_of_moves {first second : List String}
    (same : Path.moves first = Path.moves second) (opens : tree.Opens place)
    (located : tree.locateFrom .followed links position first = .ok place) :
    tree.locateFrom .followed links position second = .ok place := by
  induction links generalizing position first second with
  | zero => cases located
  | succ links induction =>
      unfold locateFrom at located ⊢
      cases walked : tree.advance .followed position first with
      | error cause =>
          rw [walked] at located
          cases located
      | ok halt =>
          rw [walked] at located
          have walk := (advance_eq_ok_iff.mp walked).moves
          rw [same] at walk
          have ends : ∀ reached, halt.moves = .arrived reached → tree.Opens reached := by
            intro reached arrived
            cases halt with
            | arrived last =>
                cases arrived
                cases located
                exact opens
            | link _ _ _ => cases arrived
          obtain ⟨other, walkedToo, alike⟩ := walk.of_moves ends
          rw [advance_eq_ok_iff.mpr walkedToo]
          cases halt with
          | arrived last =>
              cases other with
              | arrived reached =>
                  cases alike
                  exact located
              | link _ _ _ => cases alike
          | link directory target rest =>
              cases other with
              | arrived _ => cases alike
              | link otherDirectory otherTarget otherRest =>
                  simp only [Halt.moves, Halt.link.injEq] at alike
                  obtain ⟨rfl, rfl, left⟩ := alike
                  refine induction ?_ located
                  simp only [Path.moves, List.filter_append] at left ⊢
                  rw [left]

theorem Advances.followed (walk : Advances tree .itself position names halt)
    (unlinked : ∀ place target, halt = .arrived place → tree.node? place ≠ some (.link target)) :
    Advances tree .followed position names halt := by
  induction walk with
  | arrive => exact .arrive
  | stay directory idle _ induction => exact .stay directory idle (induction unlinked)
  | ascend directory isOpen _ induction => exact .ascend directory isOpen (induction unlinked)
  | name _ linked _ => exact absurd linked (unlinked _ _ rfl)
  | meet enters linked _ => exact .meet (enters.followed _) linked (by simp)
  | enter enters free _ induction => exact .enter (enters.followed _) free (induction unlinked)

theorem locateFrom_followed_of_itself
    (located : tree.locateFrom .itself links position names = .ok place)
    (unlinked : ∀ target, tree.node? place ≠ some (.link target)) :
    tree.locateFrom .followed links position names = .ok place := by
  induction links generalizing position names with
  | zero => cases located
  | succ links induction =>
      unfold locateFrom at located ⊢
      cases walked : tree.advance .itself position names with
      | error cause =>
          rw [walked] at located
          cases located
      | ok halt =>
          rw [walked] at located
          have walk := (advance_eq_ok_iff.mp walked).followed
          cases halt with
          | arrived reached =>
              cases located
              rw [advance_eq_ok_iff.mpr
                (walk fun _ _ same => Halt.arrived.inj same ▸ unlinked _)]
          | link directory target rest =>
              rw [advance_eq_ok_iff.mpr (walk fun _ _ same => by cases same)]
              exact induction located

section Joined

variable {path : String}

theorem lookup_eq_ok_iff {node : Node} : tree.lookup path = .ok node ↔
    ∃ place, tree.locate path .followed = .ok place ∧ tree.node? place = some node := by
  rw [lookup, Outcome.bind_eq_ok_iff]
  refine exists_congr fun place => and_congr_right fun _ => ?_
  cases tree.node? place with
  | none => simp
  | some other => simp

theorem locate_followed_of_itself (located : tree.locate path .itself = .ok place)
    (unlinked : ∀ target, tree.node? place ≠ some (.link target)) :
    tree.locate path .followed = .ok place := by
  unfold locate at located ⊢
  split_ifs at located ⊢
  exact locateFrom_followed_of_itself located unlinked

theorem locate_eq_ok_iff :
    tree.locate path ending = .ok place ↔
      path ≠ "" ∧ path.utf8ByteSize ≤ longestPath ∧
        tree.locateFrom ending (mostLinks + 1) (origin tree.here path) (Path.steps path) =
          .ok place := by
  unfold locate
  split_ifs with empty long
  · simp [empty]
  · simp [Nat.not_le.mpr long]
  · simp [empty, Nat.not_lt.mp long]

theorem of_exists?_true (present : tree.exists? path = .ok true) :
    withoutNull "path" path = .ok () ∧ ∃ node, tree.lookup path = .ok node := by
  obtain ⟨_, noNull, found⟩ := Outcome.bind_eq_ok_iff.mp present
  refine ⟨noNull, ?_⟩
  cases looked : tree.lookup path with
  | ok node => exact ⟨node, rfl⟩
  | error cause =>
      rw [looked] at found
      cases cause <;> cases found

theorem of_exists?_false (absent : tree.exists? path = .ok false) :
    withoutNull "path" path = .ok () ∧ tree.lookup path = .error .notFound := by
  obtain ⟨_, noNull, found⟩ := Outcome.bind_eq_ok_iff.mp absent
  refine ⟨noNull, ?_⟩
  cases looked : tree.lookup path with
  | ok node =>
      rw [looked] at found
      cases found
  | error cause =>
      rw [looked] at found
      cases cause <;> first | rfl | cases found

/-- A path of which joining a name keeps the moves: one without two dots, or one that is
normal already. -/
def IsStraight (path : String) : Prop :=
  Path.moves (Path.lead path) = Path.moves (Path.steps path)

theorem isStraight_of_not_mem (straight : ".." ∉ Path.steps path) : IsStraight path :=
  Path.moves_lead straight

theorem origin_join (isName : Path.IsName name) (directory : Place) (path : String) :
    origin directory (Path.join path name) = origin directory path := by
  unfold origin
  rw [Path.isAbsolute_join isName]

theorem join_ne_empty (isName : Path.IsName name) (path : String) : Path.join path name ≠ "" :=
  Path.ne_empty_of_steps (Path.steps_join isName path) isName

theorem locate_join (isName : Path.IsName name) (straight : IsStraight path)
    (located : tree.locate path .followed = .ok position) (opens : tree.Opens position)
    (isShort : name.utf8ByteSize ≤ longestName)
    (fits : (Path.join path name).utf8ByteSize ≤ longestPath)
    (unlinked : ending = .itself ∨
      ∀ target, tree.node? (position ++ [name]) ≠ some (.link target)) :
    tree.locate (Path.join path name) ending = .ok (position ++ [name]) := by
  obtain ⟨_, _, walked⟩ := locate_eq_ok_iff.mp located
  refine locate_eq_ok_iff.mpr ⟨join_ne_empty isName path, fits, ?_⟩
  rw [origin_join isName, Path.steps_join isName]
  exact locateFrom_append (.single isName.filled)
    (locateFrom_of_moves straight.symm opens walked) (advances_name isName opens isShort unlinked)

/-- A name that is joined to the path of a directory has its place there, unless the name or
the path is too long. -/
theorem locate_join_cases (isName : Path.IsName name) (straight : IsStraight path)
    (located : tree.locate path .followed = .ok position) (opens : tree.Opens position)
    (unlinked : ∀ target, tree.node? (position ++ [name]) ≠ some (.link target))
    (ending : Ending) :
    tree.locate (Path.join path name) ending = .ok (position ++ [name]) ∨
      tree.locate (Path.join path name) ending = .error .nameTooLong := by
  by_cases fits : (Path.join path name).utf8ByteSize ≤ longestPath
  · by_cases isShort : name.utf8ByteSize ≤ longestName
    · exact .inl (locate_join isName straight located opens isShort fits (.inr unlinked))
    · right
      obtain ⟨_, _, walked⟩ := locate_eq_ok_iff.mp located
      have first := locateFrom_of_moves straight.symm opens walked
      obtain ⟨left, same⟩ := exists_locateFrom_append (.single isName.filled) first
      obtain ⟨mode, directory, runnable⟩ := opens
      rw [locate, if_neg (join_ne_empty isName path), if_neg (Nat.not_lt.mpr fits),
        origin_join isName, Path.steps_join isName, same, locateFrom, advance, directory]
      simp [isName.filled, isName.notDot, isName.notDots, runnable, Nat.not_le.mp isShort]
  · right
    rw [locate, if_neg (join_ne_empty isName path), if_pos (Nat.not_le.mp fits)]

theorem exists_of_locate_join (isName : Path.IsName name) (straight : IsStraight path)
    (filled : path ≠ "") (fits : path.utf8ByteSize ≤ longestPath)
    (located : tree.locate (Path.join path name) ending = .ok place) :
    ∃ position, tree.locate path .followed = .ok position ∧ tree.Opens position ∧
      name.utf8ByteSize ≤ longestName ∧
      (place = position ++ [name] ∨
        ∃ target, tree.node? (position ++ [name]) = some (.link target)) := by
  obtain ⟨_, _, walked⟩ := locate_eq_ok_iff.mp located
  rw [origin_join isName, Path.steps_join isName] at walked
  obtain ⟨position, left, first, second⟩ :=
    exists_of_locateFrom_append (List.cons_ne_nil _ _) walked
  obtain ⟨opens, isShort, reached⟩ := of_locateFrom_name isName second
  refine ⟨position, ?_, opens, isShort, reached.imp_right And.right⟩
  exact locate_eq_ok_iff.mpr ⟨filled, fits, locateFrom_of_moves straight opens first⟩

end Joined

end ToolParams.FileTree
