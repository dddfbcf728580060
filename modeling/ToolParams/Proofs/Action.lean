import ToolParams.Proofs.Outcome
import ToolParams.World

/-!
# Performing actions

What an action gives and leaves is computed from the parts that it is made of.
Most actions of the program change the world only by adding entries to the
journal; `Within` says of an action that every step it makes stays inside a
relation, and is closed under everything that actions are built with.
-/

namespace ToolParams

namespace World

variable (world : World) (files : FileTree)

@[simp]
theorem withFiles_files : (world.withFiles files).files = files := rfl

end World

/-- A later world that differs only by new entries of the journal. -/
def World.Noted (before after : World) : Prop :=
  ∃ entries, after = { before with journal := before.journal ++ entries }

namespace World.Noted

variable {before middle after : World}

theorem refl (world : World) : world.Noted world := ⟨[], by simp⟩

theorem trans (first : before.Noted middle) (second : middle.Noted after) :
    before.Noted after := by
  obtain ⟨firstEntries, rfl⟩ := first
  obtain ⟨secondEntries, rfl⟩ := second
  exact ⟨firstEntries ++ secondEntries, by simp⟩

theorem note (world : World) (entry : Entry) :
    world.Noted { world with journal := world.journal ++ [entry] } :=
  ⟨[entry], rfl⟩

theorem files (noted : before.Noted after) : after.files = before.files := by
  obtain ⟨entries, rfl⟩ := noted
  rfl

theorem launches (noted : before.Noted after) : after.launches = before.launches := by
  obtain ⟨entries, rfl⟩ := noted
  rfl

theorem environment (noted : before.Noted after) :
    after.environment = before.environment := by
  obtain ⟨entries, rfl⟩ := noted
  rfl

theorem namesGiven (noted : before.Noted after) :
    after.namesGiven = before.namesGiven := by
  obtain ⟨entries, rfl⟩ := noted
  rfl

end World.Noted

/-- Worlds with the same files, and with the same changes that led to them. -/
structure World.SameFiles (before after : World) : Prop where
  files : after.files = before.files
  trees : after.trees = before.trees

/-- What every change to the files between two worlds left is allowed. -/
def World.Passes (allowed : FileTree → Prop) (before after : World) : Prop :=
  ∃ trees, after.trees = before.trees ++ trees ∧ ∀ tree ∈ trees, allowed tree

namespace World.Passes

variable {allowed permitted : FileTree → Prop} {before middle after : World}

theorem of_same (same : after.trees = before.trees) : Passes allowed before after :=
  ⟨[], by rw [same, List.append_nil], fun _ member => absurd member List.not_mem_nil⟩

theorem withFiles (world : World) {files : FileTree} (allows : allowed files) :
    Passes allowed world (world.withFiles files) :=
  ⟨[files], rfl, by simpa using allows⟩

theorem trans (first : Passes allowed before middle) (second : Passes allowed middle after) :
    Passes allowed before after := by
  obtain ⟨trees, isFirst, allows⟩ := first
  obtain ⟨later, isSecond, allowsLater⟩ := second
  refine ⟨trees ++ later, by rw [isSecond, isFirst, List.append_assoc], ?_⟩
  exact List.forall_mem_append.mpr ⟨allows, allowsLater⟩

theorem mono (passes : Passes allowed before after)
    (weaker : ∀ tree, allowed tree → permitted tree) : Passes permitted before after := by
  obtain ⟨trees, passed, allows⟩ := passes
  exact ⟨trees, passed, fun tree member => weaker tree (allows tree member)⟩

end World.Passes

/-- A later world in which the tools started and the variables are the same. -/
structure World.Edited (before after : World) : Prop where
  environment : after.environment = before.environment
  launches : after.launches = before.launches

theorem World.Edited.trans {before middle after : World} (first : before.Edited middle)
    (second : middle.Edited after) : before.Edited after :=
  ⟨second.environment.trans first.environment, second.launches.trans first.launches⟩

namespace Action

variable {σ τ α β : Type}

section Equations

variable (world : World) (state : σ)

theorem perform_eq {action : Action σ α} {world : World} {state : σ}
    {result : Except Failure α} (gives : (action.perform world state).1 = result) :
    action.perform world state = (result, (action.perform world state).2) := by
  rw [← gives]

@[simp]
theorem perform_pure (value : α) :
    (pure value : Action σ α).perform world state = (.ok value, world, state) := rfl

@[simp]
theorem perform_throw (failure : Failure) :
    (throw failure : Action σ α).perform world state = (.error failure, world, state) := rfl

/-- The second action is performed where the first one succeeded, in the world and
state that it left. -/
@[simp]
theorem perform_bind (action : Action σ α) (next : α → Action σ β) :
    (action >>= next).perform world state =
      match action.perform world state with
      | (.ok value, after, final) => (next value).perform after final
      | (.error failure, after, final) => (.error failure, after, final) := by
  simp only [perform, bind, ExceptT.bind, ExceptT.mk, StateT.bind, ExceptT.run, StateT.run]
  rcases action (world, state) with ⟨failure | value, after, final⟩ <;> rfl

@[simp]
theorem perform_map (function : α → β) (action : Action σ α) :
    (function <$> action).perform world state =
      ((action.perform world state).1.map function, (action.perform world state).2) := by
  rw [← bind_pure_comp, perform_bind]
  rcases action.perform world state with ⟨failure | value, after, final⟩ <;> rfl

@[simp]
theorem perform_state :
    (Action.state : Action σ σ).perform world state = (.ok state, world, state) := rfl

@[simp]
theorem perform_world :
    (Action.world : Action σ World).perform world state = (.ok world, world, state) := rfl

@[simp]
theorem perform_putState (next : σ) :
    (putState next).perform world state = (.ok (), world, next) := rfl

@[simp]
theorem perform_change (step : World → World) :
    (change step : Action σ Unit).perform world state = (.ok (), step world, state) := rfl

@[simp]
theorem perform_note (level : Level) (event : String) (data : List (String × Json)) :
    (note level event data : Action σ Unit).perform world state =
      (.ok (), { world with journal := world.journal ++ [⟨level, event, data⟩] }, state) := rfl

@[simp]
theorem perform_lift {ε : Type} (wrap : ε → Failure) (result : Except ε α) :
    (lift wrap result : Action σ α).perform world state =
      (result.mapError wrap, world, state) := by
  cases result <;> rfl

@[simp]
theorem perform_outcome (action : Action σ α) :
    (outcome action).perform world state =
      (.ok (action.perform world state).1, (action.perform world state).2) := rfl

@[simp]
theorem perform_yield (result : Except Failure α) :
    (yield result : Action σ α).perform world state = (result, world, state) := by
  cases result <;> rfl

@[simp]
theorem perform_outcomeOn (initial : τ) (action : Action τ α) :
    (outcomeOn initial action : Action σ (Except Failure α × τ)).perform world state =
      (.ok ((action.perform world initial).1, (action.perform world initial).2.2),
        (action.perform world initial).2.1, state) := rfl

@[simp]
theorem perform_onFirst (action : Action σ α) (first : σ) (second : τ) :
    (onFirst action : Action (σ × τ) α).perform world (first, second) =
      ((action.perform world first).1, (action.perform world first).2.1,
        (action.perform world first).2.2, second) := by
  change (yield (action.perform world first).1 : Action (σ × τ) α).perform _ _ = _
  exact perform_yield _ _ _

@[simp]
theorem perform_freshNumber :
    (freshNumber : Action σ Nat).perform world state =
      (.ok world.namesGiven, { world with namesGiven := world.namesGiven + 1 }, state) := rfl

@[simp]
theorem perform_look (wrap : FileFault → Failure)
    (query : FileTree → Except FileFault α) :
    (look wrap query : Action σ α).perform world state =
      ((query world.files).mapError wrap, world, state) := by
  simp [look]

@[simp]
theorem perform_alter (wrap : FileFault → Failure)
    (step : FileTree → Except FileFault FileTree) :
    (alter wrap step : Action σ Unit).perform world state =
      match step world.files with
      | .ok files => (.ok (), world.withFiles files, state)
      | .error fault => (.error (wrap fault), world, state) := by
  simp only [alter, perform_bind, perform_world, perform_lift]
  cases step world.files <;> rfl

@[simp]
theorem perform_advance (wrap : FileFault → Failure)
    (step : FileTree → Except FileFault Unit × FileTree) :
    (advance wrap step : Action σ Unit).perform world state =
      ((step world.files).1.mapError wrap,
        world.withFiles (step world.files).2, state) := by
  simp [advance]

end Equations

/-- Every performance of the action leads from a world and state to related ones,
also when it fails. -/
def Within (relation : World × σ → World × σ → Prop) (action : Action σ α) : Prop :=
  ∀ world state, relation (world, state) (action.perform world state).2

namespace Within

variable {relation : World × σ → World × σ → Prop}

theorem pure (reflexive : ∀ point, relation point point) (value : α) :
    Within relation (Pure.pure value : Action σ α) := by
  intro world state
  exact reflexive _

theorem throw (reflexive : ∀ point, relation point point) (failure : Failure) :
    Within relation (MonadExcept.throw failure : Action σ α) := by
  intro world state
  exact reflexive _

theorem bind
    (transitive : ∀ {first second third},
      relation first second → relation second third → relation first third)
    {action : Action σ α} {next : α → Action σ β}
    (first : Within relation action) (later : ∀ value, Within relation (next value)) :
    Within relation (action >>= next) := by
  intro world state
  rw [perform_bind]
  have step := first world state
  rcases performed : action.perform world state with ⟨failure | value, after, final⟩
  · rw [performed] at step
    exact step
  · rw [performed] at step
    exact transitive step (later _ after final)

theorem world (reflexive : ∀ point, relation point point) :
    Within relation (Action.world : Action σ World) := by
  intro world state
  exact reflexive _

theorem look (reflexive : ∀ point, relation point point) (wrap : FileFault → Failure)
    (query : FileTree → Except FileFault α) :
    Within relation (Action.look wrap query : Action σ α) := by
  intro world state
  rw [perform_look]
  exact reflexive _

theorem outcome {action : Action σ α} (inner : Within relation action) :
    Within relation (Action.outcome action) := by
  intro world state
  rw [perform_outcome]
  exact inner world state

end Within

def FailsWith (kind : Failure → Prop) (action : Action σ α) : Prop :=
  ∀ world state failure next, action.perform world state = (.error failure, next) → kind failure

namespace FailsWith

variable {kind : Failure → Prop}

theorem pure (value : α) : FailsWith kind (Pure.pure value : Action σ α) := by
  intro _ _ _ _ performed
  cases performed

theorem throw {failure : Failure} (isKind : kind failure) :
    FailsWith kind (MonadExcept.throw failure : Action σ α) := by
  intro _ _ _ _ performed
  cases performed
  exact isKind

theorem bind {action : Action σ α} {next : α → Action σ β} (first : FailsWith kind action)
    (later : ∀ value, FailsWith kind (next value)) : FailsWith kind (action >>= next) := by
  intro world state failure point performed
  rw [perform_bind] at performed
  rcases inner : action.perform world state with ⟨other | value, after, final⟩
  · rw [inner] at performed
    cases performed
    exact first _ _ _ _ inner
  · rw [inner] at performed
    exact later value _ _ _ _ performed

theorem world : FailsWith kind (Action.world : Action σ World) := by
  intro _ _ _ _ performed
  cases performed

theorem note (level : Level) (event : String) (data : List (String × Json)) :
    FailsWith kind (Action.note level event data : Action σ Unit) := by
  intro _ _ _ _ performed
  cases performed

theorem look {wrap : FileFault → Failure} (wraps : ∀ fault, kind (wrap fault))
    (query : FileTree → Except FileFault α) :
    FailsWith kind (Action.look wrap query : Action σ α) := by
  intro world state failure next performed
  rw [perform_look] at performed
  cases queried : query world.files with
  | ok value =>
      rw [queried] at performed
      cases performed
  | error fault =>
      rw [queried] at performed
      cases performed
      exact wraps fault

theorem advance {wrap : FileFault → Failure} (wraps : ∀ fault, kind (wrap fault))
    (step : FileTree → Except FileFault Unit × FileTree) :
    FailsWith kind (Action.advance wrap step : Action σ Unit) := by
  intro world state failure next performed
  rw [perform_advance] at performed
  cases stepped : (step world.files).1 with
  | ok value =>
      rw [stepped] at performed
      cases performed
  | error fault =>
      rw [stepped] at performed
      cases performed
      exact wraps fault

theorem alter {wrap : FileFault → Failure} (wraps : ∀ fault, kind (wrap fault))
    (step : FileTree → Except FileFault FileTree) :
    FailsWith kind (Action.alter wrap step : Action σ Unit) := by
  intro world state failure next performed
  rw [perform_alter] at performed
  cases stepped : step world.files with
  | ok files =>
      rw [stepped] at performed
      cases performed
  | error fault =>
      rw [stepped] at performed
      cases performed
      exact wraps fault

end FailsWith

/-- The action gives a result, and changes nothing but the journal. -/
def Watches (action : Action σ α) : Prop :=
  ∀ world state, ∃ value noted, world.Noted noted ∧
    action.perform world state = (.ok value, noted, state)

namespace Watches

theorem pure (value : α) : Watches (Pure.pure value : Action σ α) :=
  fun world _ => ⟨value, world, .refl world, rfl⟩

theorem world : Watches (Action.world : Action σ World) :=
  fun world _ => ⟨world, world, .refl world, rfl⟩

theorem note (level : Level) (event : String) (data : List (String × Json)) :
    Watches (Action.note level event data : Action σ Unit) :=
  fun world _ => ⟨(), _, .note world _, rfl⟩

theorem bind {action : Action σ α} {next : α → Action σ β} (first : Watches action)
    (later : ∀ value, Watches (next value)) : Watches (action >>= next) := by
  intro world state
  obtain ⟨value, middle, quiet, performed⟩ := first world state
  obtain ⟨result, after, further, performedNext⟩ := later value middle state
  refine ⟨result, after, quiet.trans further, ?_⟩
  rw [perform_bind, performed]
  exact performedNext

end Watches

/-- Two actions give the same answer wherever the variables are the same, and change nothing
but the journal. -/
def Concur (first second : Action σ α) : Prop :=
  ∀ world other state, other.environment = world.environment →
    ∃ answer noted otherNoted, world.Noted noted ∧ other.Noted otherNoted ∧
      first.perform world state = (answer, noted, state) ∧
      second.perform other state = (answer, otherNoted, state)

namespace Concur

theorem pure (value : α) : Concur (Pure.pure value : Action σ α) (Pure.pure value) :=
  fun world other _ _ => ⟨.ok value, world, other, .refl world, .refl other, rfl, rfl⟩

theorem throw (failure : Failure) :
    Concur (MonadExcept.throw failure : Action σ α) (MonadExcept.throw failure) :=
  fun world other _ _ => ⟨.error failure, world, other, .refl world, .refl other, rfl, rfl⟩

theorem note (level : Level) (event : String) (data otherData : List (String × Json)) :
    Concur (Action.note level event data : Action σ Unit)
      (Action.note level event otherData) :=
  fun world other _ _ => ⟨.ok (), _, _, .note world _, .note other _, rfl, rfl⟩

theorem bind {action other : Action σ α} {next otherNext : α → Action σ β}
    (first : Concur action other) (later : ∀ value, Concur (next value) (otherNext value)) :
    Concur (action >>= next) (other >>= otherNext) := by
  intro world place state same
  obtain ⟨answer, middle, placeMiddle, quiet, placeQuiet, performed, placePerformed⟩ :=
    first world place state same
  cases answer with
  | error failure =>
      refine ⟨.error failure, middle, placeMiddle, quiet, placeQuiet, ?_, ?_⟩
      · rw [perform_bind, performed]
      · rw [perform_bind, placePerformed]
  | ok value =>
      have stillSame : placeMiddle.environment = middle.environment := by
        rw [placeQuiet.environment, same, quiet.environment]
      obtain ⟨answer, after, placeAfter, further, placeFurther, performedNext, placeNext⟩ :=
        later value middle placeMiddle state stillSame
      refine ⟨answer, after, placeAfter, quiet.trans further, placeQuiet.trans placeFurther,
        ?_, ?_⟩
      · rw [perform_bind, performed]
        exact performedNext
      · rw [perform_bind, placePerformed]
        exact placeNext

theorem bind_world {next : World → Action σ α}
    (later : ∀ world other : World, other.environment = world.environment →
      Concur (next world) (next other)) :
    Concur (Action.world >>= next) (Action.world >>= next) := by
  intro world other state same
  rw [perform_bind, perform_bind]
  exact later world other same world other state same

end Concur

end Action

end ToolParams
