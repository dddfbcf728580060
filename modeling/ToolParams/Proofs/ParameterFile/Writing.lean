import ToolParams.ParameterFile.Exchange
import ToolParams.Proofs.Action
import ToolParams.Proofs.Files.Writing
import ToolParams.Proofs.OrderedMap

/-!
# Writing a store changes the files it names

A store is written line by line.  A value over the limit puts a stack file next to
the parameter file, and the overflow holds the path of every stack file as soon as it
exists.  So wherever writing breaks off, the files that changed are the parameter
file and those of the overflow; and when it does not, the parameter file has the
whole text of the store.
-/

namespace ToolParams.ParameterFile

open FileTree (Written)

def HasText (store : Store) (declaration : Declaration) : Prop :=
  ∃ text, valueText? declaration (store.entry declaration.name) = some text

/-- The text of a parameter in its line: a reference, where the text of its value is too
long. -/
def lineText? (limit : Number) (store : Store) (path : String) (declaration : Declaration) :
    Option String :=
  (valueText? declaration (store.entry declaration.name)).map fun text =>
    if exceeds limit text then stackReference (stackPath path declaration.name) else text

/-- The lines of some parameters, if all their values have texts. -/
def linesOf? (limit : Number) (store : Store) (path : String) :
    List Declaration → Option (List String)
  | [] => some []
  | declaration :: rest => do
      let text ← lineText? limit store path declaration
      let others ← linesOf? limit store path rest
      return line declaration text :: others

/-- The content of the file that a store goes to, if all its values have texts. -/
def fileText? (limit : Number) (store : Store) (path : String) : Option String :=
  (linesOf? limit store path store.declarations).map fun lines =>
    "\n".intercalate (lines ++ [modeLine, ""])

/-- The stack files of some parameters. -/
def stacksOf (limit : Number) (store : Store) (path : String)
    (declarations : List Declaration) : List String :=
  (declarations.filter fun declaration =>
    (valueText? declaration (store.entry declaration.name)).any (exceeds limit)).map
      fun declaration => stackPath path declaration.name

/-- The files that a store goes to. -/
def outputs (limit : Number) (store : Store) (path : String) : List String :=
  path :: stacksOf limit store path store.declarations

/-- Each stack file of an overflow belongs to the parameter under which it is kept. -/
def Stacked (path : String) (overflow : Overflow) : Prop :=
  ∀ entry ∈ overflow.toList, entry.2 = stackPath path entry.1

/-- Each stack file of an overflow has a path that files can have. -/
def Nameable (overflow : Overflow) : Prop :=
  ∀ stack ∈ overflow.values, FileTree.withoutNull "path" stack = .ok ()

/-- Writing some stack files: each is in the overflow, and no other file changed. -/
structure Wrote (path : String) (stackFiles : List String)
    (before after : World × Overflow) : Prop where
  edited : before.1.Edited after.1
  stacked : Stacked path after.2
  nameable : Nameable after.2
  kept : ∀ stack ∈ before.2.values, stack ∈ after.2.values
  added : ∀ stack ∈ after.2.values, stack ∈ before.2.values ∨ stack ∈ stackFiles
  written : Written after.2.values before.1.files after.1.files

section Overflow

variable {path name : String} {overflow : Overflow}

theorem Stacked.insert (stacked : Stacked path overflow) :
    Stacked path (overflow.insert name (stackPath path name)) := by
  intro entry member
  rcases OrderedMap.mem_of_mem_place member with rfl | earlier
  · rfl
  · exact stacked entry earlier

theorem mem_values_insert_self {stack : String} :
    stack ∈ (overflow.insert name stack).values :=
  List.mem_map.mpr ⟨_, OrderedMap.self_mem_place name stack overflow.toList, rfl⟩

theorem mem_values_insert {stack : String} (stacked : Stacked path overflow)
    (member : stack ∈ overflow.values) :
    stack ∈ (overflow.insert name (stackPath path name)).values := by
  obtain ⟨entry, held, rfl⟩ := List.mem_map.mp member
  by_cases same : entry.1 = name
  · rw [stacked entry held, same]
    exact mem_values_insert_self
  · exact List.mem_map.mpr ⟨entry, OrderedMap.mem_place held same, rfl⟩

theorem mem_values_of_insert {stack other : String}
    (member : other ∈ (overflow.insert name stack).values) :
    other = stack ∨ other ∈ overflow.values := by
  obtain ⟨entry, inserted, rfl⟩ := List.mem_map.mp member
  rcases OrderedMap.mem_of_mem_place inserted with rfl | earlier
  · exact .inl rfl
  · exact .inr (List.mem_map.mpr ⟨entry, earlier, rfl⟩)

end Overflow

namespace Wrote

variable {path : String} {stackFiles more : List String}

theorem refl {world : World} {overflow : Overflow} (stacked : Stacked path overflow)
    (nameable : Nameable overflow) : Wrote path stackFiles (world, overflow) (world, overflow) :=
  { edited := ⟨rfl, rfl⟩
    stacked, nameable
    kept := fun _ member => member
    added := fun _ member => .inl member
    written := .refl }

theorem mono {before after : World × Overflow} (wrote : Wrote path stackFiles before after)
    (covered : ∀ stack ∈ stackFiles, stack ∈ more) : Wrote path more before after :=
  { wrote with added := fun stack member => (wrote.added stack member).imp_right (covered stack) }

theorem trans {first second third : World × Overflow} (early : Wrote path stackFiles first second)
    (late : Wrote path stackFiles second third) : Wrote path stackFiles first third :=
  { edited := early.edited.trans late.edited
    stacked := late.stacked
    nameable := late.nameable
    kept := fun stack member => late.kept stack (early.kept stack member)
    added := fun stack member => (late.added stack member).elim (early.added stack) .inr
    written := (early.written.mono late.kept).trans late.written }

end Wrote

section Performance

variable {limit : Number} {store : Store} {path : String} {overflow : Overflow} {world : World}

theorem hasText_of_linesOf? {declarations : List Declaration} {lines : List String}
    (listed : linesOf? limit store path declarations = some lines) :
    ∀ declaration ∈ declarations, HasText store declaration := by
  induction declarations generalizing lines with
  | nil => simp
  | cons declaration rest induction =>
      unfold linesOf? at listed
      obtain ⟨text, here, listed⟩ := Option.bind_eq_some_iff.mp listed
      obtain ⟨others, later, _⟩ := Option.bind_eq_some_iff.mp listed
      obtain ⟨held, isHeld, _⟩ := Option.map_eq_some_iff.mp here
      intro other member
      rcases List.mem_cons.mp member with rfl | further
      · exact ⟨held, isHeld⟩
      · exact induction later other further

theorem hasText_of_fileText? {content : String}
    (named : fileText? limit store path = some content) :
    ∀ declaration ∈ store.declarations, HasText store declaration := by
  obtain ⟨lines, listed, _⟩ := Option.map_eq_some_iff.mp named
  exact hasText_of_linesOf? listed

theorem perform_writeFile {σ : Type} (path content : String) (world : World) (state : σ) :
    (writeFile path content).perform world state =
      match world.files.write path content with
      | .ok files => (.ok (), world.withFiles files, state)
      | .error fault => (.error (.unwritable path fault), world, state) := by
  refine (Action.perform_alter world state _ _).trans ?_
  cases world.files.write path content <;> rfl

/-- Placing a value gives the text of its line, or fails and leaves things as they were. -/
theorem perform_placeValue (limit : Number) (store : Store) (declaration : Declaration)
    (world : World) (stacked : Stacked path overflow) (nameable : Nameable overflow) :
    ∃ result after final,
      (placeValue limit store path declaration).perform world overflow = (result, after, final) ∧
        Wrote path (stacksOf limit store path [declaration]) (world, overflow) (after, final) ∧
        ∀ text, result = .ok text →
          lineText? limit store path declaration = some text ∧
            ∀ stack ∈ stacksOf limit store path [declaration], stack ∈ final.values := by
  unfold placeValue
  cases held : valueText? declaration (store.entry declaration.name) with
  | none => exact ⟨_, world, overflow, rfl, .refl stacked nameable, by simp⟩
  | some text =>
      by_cases long : exceeds limit text = true
      case neg =>
          refine ⟨.ok text, world, overflow, by simp [long], .refl stacked nameable, ?_⟩
          rintro _ ⟨⟩
          simp [lineText?, stacksOf, held, long]
      case pos =>
          simp only [long, if_true, Action.perform_bind, perform_writeFile]
          cases written : world.files.write (stackPath path declaration.name)
              (stackContent text) with
          | error fault =>
              exact ⟨_, world, overflow, rfl, .refl stacked nameable, by simp⟩
          | ok files =>
              refine ⟨_, _, _, rfl, ?_, ?_⟩
              · refine
                  { edited := ⟨rfl, rfl⟩
                    stacked := stacked.insert
                    nameable := ?_
                    kept := fun stack member => mem_values_insert stacked member
                    added := ?_
                    written := .write .refl mem_values_insert_self written }
                · intro stack member
                  rcases mem_values_of_insert member with rfl | earlier
                  · obtain ⟨_, _, writes⟩ := FileTree.writes_of_write written
                    exact writes.noNull
                  · exact nameable stack earlier
                · intro stack member
                  rcases mem_values_of_insert member with rfl | earlier
                  · exact .inr (by simp [stacksOf, held, long])
                  · exact .inl earlier
              · rintro _ ⟨⟩
                refine ⟨by simp [lineText?, held, long], ?_⟩
                simpa [stacksOf, held, long] using mem_values_insert_self

theorem stacksOf_cons (declaration : Declaration) (rest : List Declaration) :
    stacksOf limit store path (declaration :: rest) =
      stacksOf limit store path [declaration] ++ stacksOf limit store path rest := by
  rw [← List.singleton_append, stacksOf, List.filter_append, List.map_append]
  rfl

/-- Placing lines gives the lines, or fails somewhere; the stack files that exist then
are in the overflow. -/
theorem perform_placeLines (limit : Number) (store : Store) (declarations : List Declaration)
    (world : World) (stacked : Stacked path overflow) (nameable : Nameable overflow) :
    ∃ result after final,
      (placeLines limit store path declarations).perform world overflow =
          (result, after, final) ∧
        Wrote path (stacksOf limit store path declarations) (world, overflow) (after, final) ∧
        ∀ lines, result = .ok lines →
          linesOf? limit store path declarations = some lines ∧
            ∀ stack ∈ stacksOf limit store path declarations, stack ∈ final.values := by
  induction declarations generalizing world overflow with
  | nil =>
      refine ⟨.ok [], world, overflow, rfl, .refl stacked nameable, ?_⟩
      rintro _ ⟨⟩
      simp [linesOf?, stacksOf]
  | cons declaration rest induction =>
      obtain ⟨placed, middle, grown, performed, wrote, texts⟩ :=
        perform_placeValue limit store declaration world stacked nameable
      rw [stacksOf_cons]
      unfold placeLines
      simp only [Action.perform_bind, performed]
      cases placed with
      | error failure =>
          exact ⟨_, middle, grown, rfl, wrote.mono fun _ => List.mem_append_left _, by simp⟩
      | ok text =>
          obtain ⟨named, inOverflow⟩ := texts text rfl
          obtain ⟨others, after, final, performedRest, wroteRest, textsRest⟩ :=
            induction middle wrote.stacked wrote.nameable
          simp only [performedRest]
          have wroteAll := (wrote.mono fun _ => List.mem_append_left _).trans
            (wroteRest.mono fun _ => List.mem_append_right
              (stacksOf limit store path [declaration]))
          cases others with
          | error failure => exact ⟨_, after, final, rfl, wroteAll, by simp⟩
          | ok lines =>
              obtain ⟨namedRest, inOverflowRest⟩ := textsRest lines rfl
              refine ⟨_, after, final, rfl, wroteAll, ?_⟩
              rintro _ ⟨⟩
              refine ⟨by simp [linesOf?, named, namedRest], ?_⟩
              intro stack member
              rcases List.mem_append.mp member with first | later
              · exact wroteRest.kept stack (inOverflow stack first)
              · exact inOverflowRest stack later

/-- What a store was written with: the stack files that exist are in the overflow,
and no other file changed but the parameter file. -/
structure Saved (limit : Number) (store : Store) (path : String) (world : World)
    (result : Except Failure Unit) (after : World) (overflow : Overflow) : Prop where
  edited : world.Edited after
  stacked : Stacked path overflow
  nameable : Nameable overflow
  among : ∀ stack ∈ overflow.values, stack ∈ stacksOf limit store path store.declarations
  written : Written (path :: overflow.values) world.files after.files
  complete : result = .ok () →
    (∀ stack ∈ stacksOf limit store path store.declarations, stack ∈ overflow.values) ∧
      ∃ content earlier, fileText? limit store path = some content ∧
        Written overflow.values world.files earlier ∧
        earlier.write path content = .ok after.files

theorem Saved.of_files {limit : Number} {store : Store} {path : String}
    {world start after : World} {result : Except Failure Unit} {overflow : Overflow}
    (saving : Saved limit store path start result after overflow) (before : world.Edited start)
    (files : start.files = world.files) : Saved limit store path world result after overflow := by
  obtain ⟨edited, stacked, nameable, among, written, complete⟩ := saving
  rw [files] at written complete
  exact ⟨before.trans edited, stacked, nameable, among, written, complete⟩

/-- Wherever writing a store breaks off, what it changed is known. -/
theorem perform_write (limit : Number) (store : Store) (path : String) (world : World) :
    ∃ result after overflow,
      (write limit store path).perform world .empty = (result, after, overflow) ∧
        Saved limit store path world result after overflow := by
  have none : ∀ stack : String, stack ∉ (OrderedMap.empty : Overflow).values := by
    intro stack
    exact List.not_mem_nil
  obtain ⟨placed, middle, overflow, performed, wrote, texts⟩ :=
    perform_placeLines limit store store.declarations world
      (show Stacked path .empty by intro entry member; cases member)
      (show Nameable .empty by intro stack member; exact absurd member (none stack))
  have among : ∀ stack ∈ overflow.values,
      stack ∈ stacksOf limit store path store.declarations :=
    fun stack member => (wrote.added stack member).resolve_left (none stack)
  have early : Written (path :: overflow.values) world.files middle.files :=
    wrote.written.mono fun _ => List.mem_cons_of_mem _
  unfold write
  simp only [Action.perform_bind, performed]
  cases placed with
  | error failure =>
      exact ⟨_, middle, overflow, rfl,
        ⟨wrote.edited, wrote.stacked, wrote.nameable, among, early, by simp⟩⟩
  | ok lines =>
      obtain ⟨named, inOverflow⟩ := texts lines rfl
      simp only [perform_writeFile]
      cases written : middle.files.write path ("\n".intercalate (lines ++ [modeLine, ""])) with
      | error fault =>
          exact ⟨_, middle, overflow, rfl,
            ⟨wrote.edited, wrote.stacked, wrote.nameable, among, early, by simp⟩⟩
      | ok files =>
          refine ⟨_, _, overflow, rfl, ?_⟩
          refine
            { edited := wrote.edited.trans ⟨rfl, rfl⟩
              stacked := wrote.stacked
              nameable := wrote.nameable
              among := among
              written := .write early List.mem_cons_self written
              complete := fun _ => ⟨inOverflow, _, middle.files, ?_, wrote.written, written⟩ }
          rw [fileText?, named]
          rfl

/-- Lines without stack files are placed without any change. -/
theorem perform_placeLines_of_short {declarations : List Declaration} {lines : List String}
    (named : linesOf? limit store path declarations = some lines)
    (short : stacksOf limit store path declarations = []) :
    (placeLines limit store path declarations).perform world overflow =
      (.ok lines, world, overflow) := by
  induction declarations generalizing lines with
  | nil =>
      cases named
      rfl
  | cons declaration rest induction =>
      rw [stacksOf_cons] at short
      obtain ⟨shortHere, shortRest⟩ := List.append_eq_nil_iff.mp short
      cases held : valueText? declaration (store.entry declaration.name) with
      | none => simp [linesOf?, lineText?, held] at named
      | some text =>
          have fits : ¬exceeds limit text = true := by
            simpa [stacksOf, held] using shortHere
          cases others : linesOf? limit store path rest with
          | none => simp [linesOf?, others] at named
          | some linesRest =>
              have joined : line declaration text :: linesRest = lines := by
                simpa [linesOf?, lineText?, held, fits, others] using named
              have here : (placeValue limit store path declaration).perform world overflow =
                  (.ok text, world, overflow) := by
                simp [placeValue, held, fits]
              unfold placeLines
              simp only [Action.perform_bind, here, induction others shortRest,
                Action.perform_pure, joined]

theorem perform_write_of_short {lines : List String} (world : World)
    (named : linesOf? limit store path store.declarations = some lines)
    (short : stacksOf limit store path store.declarations = []) :
    ∃ entry, (write limit store path).perform world .empty =
      match world.files.write path ("\n".intercalate (lines ++ [modeLine, ""])) with
      | .ok files =>
          (.ok (), World.withFiles { world with journal := world.journal ++ [entry] } files, .empty)
      | .error fault => (.error (.unwritable path fault), world, .empty) := by
  refine ⟨⟨.debug, "parfile.write", [("tool", .text store.tool), ("path", .text path),
    ("overflow", .ofNat (OrderedMap.empty : Overflow).size)]⟩, ?_⟩
  unfold write
  simp only [Action.perform_bind, perform_placeLines_of_short named short, perform_writeFile]
  cases world.files.write path ("\n".intercalate (lines ++ [modeLine, ""])) <;> rfl

end Performance

end ToolParams.ParameterFile
