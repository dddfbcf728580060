import ToolParams.Proofs.ParameterFile.Values
import ToolParams.Proofs.Store.Lookup

/-!
# What a complete file determines

A file that names every parameter is assigned to a store parameter by parameter.  What an
assignment leaves in the store is determined by the file, so two stores of one schema that
took the same file are equal.  Whether an assignment is accepted also depends on the values
that redirects lead to at that moment.  Parameters that come earlier have theirs from the
file already; so two stores take the file alike when they agree on the parameters that are
looked up ahead of their turn.
-/

namespace ToolParams.ParameterFile

open Store (lookedUp)

variable {files : FileTree} {overflow : Overflow} {contents : Contents}
  {declaration declared : Declaration} {text : String}

/-- The names that are looked up when a parameter is assigned from a file. -/
def lookups (files : FileTree) (overflow : Overflow) (contents : Contents) (schema : Schema)
    (name : String) : List String :=
  match schema.find? name, contents.get? name with
  | some declaration, some text =>
      match inputFrom files overflow declaration text with
      | .ok input => lookedUp declaration input
      | .error _ => []
  | _, _ => []

/-- The parameters that are looked up ahead of their turn when a file is read into a store:
a parameter that an earlier one refers to, and where the redirects that it holds until
then lead on. -/
inductive Awaited (files : FileTree) (overflow : Overflow) (contents : Contents)
    (store : Store) : String → Prop where
  | ahead {before after : List Declaration} {declaration : Declaration} {target : String} :
      store.declarations = before ++ declaration :: after →
      target ∈ lookups files overflow contents store.schema declaration.name →
      target ∈ store.schema.names →
      target ∉ before.map Declaration.name →
      target ≠ declaration.name →
      Awaited files overflow contents store target
  | onward {name target : String} :
      Awaited files overflow contents store name →
      store.entry name = .redirect target →
      target ∈ store.schema.names →
      Awaited files overflow contents store target

theorem ofInput?_plainInput (declaration : Declaration) (text : String) :
    Redirect.ofInput? (plainInput declaration text) =
      if Redirect.isWritten text then some (Redirect.target text) else none := by
  unfold plainInput
  split
  · rename_i unset
    rw [Bool.and_eq_true, decide_eq_true_eq] at unset
    rw [unset.2]
    rfl
  · rfl

/-- Declarations of one name take inputs from a file that are the same redirect, or none. -/
theorem ofInput?_inputFrom (sameName : declared.name = declaration.name) {input : Input}
    (taken : inputFrom files overflow declaration text = .ok input) :
    ∃ other, inputFrom files overflow declared text = .ok other ∧
      Redirect.ofInput? other = Redirect.ofInput? input := by
  unfold inputFrom at taken ⊢
  simp only [sameName] at taken ⊢
  have plain : Redirect.ofInput? (plainInput declared text) =
      Redirect.ofInput? (plainInput declaration text) := by
    rw [ofInput?_plainInput, ofInput?_plainInput]
  cases kept : overflow.get? declaration.name with
  | none =>
      rw [kept] at taken
      cases taken
      exact ⟨_, rfl, plain⟩
  | some stack =>
      rw [kept] at taken
      simp only at taken ⊢
      split at taken
      · rename_i refers
        rw [if_pos refers]
        exact ⟨input, taken, rfl⟩
      · rename_i other
        rw [if_neg other]
        cases taken
        exact ⟨_, rfl, plain⟩

theorem mem_lookups {schema : Schema} (found : schema.find? declaration.name = some declared)
    (named : contents.get? declaration.name = some text) {input : Input}
    (taken : inputFrom files overflow declaration text = .ok input) {target : String}
    (member : target ∈ lookedUp declared input) :
    target ∈ lookups files overflow contents schema declaration.name := by
  obtain ⟨other, takenToo, same⟩ :=
    ofInput?_inputFrom (Store.mem_names_of_find? found).2 taken
  unfold lookups
  simp only [found, named, takenToo]
  unfold lookedUp at member ⊢
  rwa [same]

def Complete (contents : Contents) (schema : Schema) : Prop :=
  ∀ name ∈ schema.names, ∃ text, contents.get? name = some text

section Unique

variable {left right leftFinal rightFinal : Store} {declarations : List Declaration}

/-- Stores that took the texts of some parameters agree on them. -/
theorem entry_assignFrom_unique (sameSchema : right.schema = left.schema)
    (declared : ∀ declaration ∈ declarations, declaration ∈ left.declarations)
    (complete : Complete contents left.schema)
    (leftEnds : assignFrom files overflow contents declarations left = .ok leftFinal)
    (rightEnds : assignFrom files overflow contents declarations right = .ok rightFinal)
    {name : String}
    (agree : name ∈ declarations.map Declaration.name ∨ right.entry name = left.entry name) :
    rightFinal.entry name = leftFinal.entry name := by
  induction declarations generalizing left right with
  | nil =>
      cases leftEnds
      cases rightEnds
      exact agree.resolve_left List.not_mem_nil
  | cons declaration declarations induction =>
      have isNamed : declaration.name ∈ left.schema.names :=
        List.mem_map_of_mem (declared declaration List.mem_cons_self)
      obtain ⟨text, hasText⟩ := complete _ isNamed
      obtain ⟨found, isFound⟩ := Schema.exists_find? isNamed
      unfold assignFrom at leftEnds rightEnds
      simp only [hasText] at leftEnds rightEnds
      cases taken : inputFrom files overflow declaration text with
      | error failure =>
          rw [taken] at leftEnds
          cases leftEnds
      | ok input =>
          rw [taken, Outcome.ok_bind, Store.set_of_find? isFound] at leftEnds
          rw [taken, Outcome.ok_bind, Store.set_of_find? (sameSchema ▸ isFound)] at rightEnds
          cases accepted : left.check found input with
          | error fault =>
              rw [accepted] at leftEnds
              cases leftEnds
          | ok stored =>
              cases acceptedToo : right.check found input with
              | error fault =>
                  rw [acceptedToo] at rightEnds
                  cases rightEnds
              | ok otherStored =>
                  cases Store.check_unique sameSchema accepted acceptedToo
                  rw [accepted] at leftEnds
                  rw [acceptedToo] at rightEnds
                  refine @induction (left.put declaration.name stored)
                    (right.put declaration.name stored) sameSchema
                    (fun other member => declared other (List.mem_cons_of_mem _ member))
                    complete leftEnds rightEnds ?_
                  by_cases own : declaration.name = name
                  · exact .inr (by rw [Store.entry_put, Store.entry_put, if_pos own, if_pos own])
                  · rw [Store.entry_put, Store.entry_put, if_neg own, if_neg own]
                    refine agree.imp_left fun member => ?_
                    exact (List.mem_cons.mp member).resolve_left (Ne.symm own)

end Unique

/-- Two stores midway through a file: the parameters assigned so far hold the same entries,
and those that are awaited hold what they held at the start. -/
structure Midway (files : FileTree) (overflow : Overflow) (contents : Contents)
    (start : Store) (done : List Declaration) (left right : Store) : Prop where
  leftSchema : left.schema = start.schema
  rightSchema : right.schema = start.schema
  assigned : ∀ name ∈ done.map Declaration.name, right.entry name = left.entry name
  linked : ∀ name ∈ done.map Declaration.name, ∀ target, left.entry name = .redirect target →
    target ∈ lookups files overflow contents start.schema name
  waiting : ∀ name, Awaited files overflow contents start name →
    name ∉ done.map Declaration.name →
      left.entry name = start.entry name ∧ right.entry name = start.entry name

namespace Midway

variable {start left right : Store} {done rest : List Declaration}

/-- The names on which two stores midway through a file agree for certain. -/
def Known (files : FileTree) (overflow : Overflow) (contents : Contents) (start : Store)
    (done : List Declaration) (name : String) : Prop :=
  name ∈ done.map Declaration.name ∨ Awaited files overflow contents start name

theorem agree (midway : Midway files overflow contents start done left right) {name : String}
    (known : Known files overflow contents start done name) :
    right.entry name = left.entry name := by
  by_cases isDone : name ∈ done.map Declaration.name
  · exact midway.assigned name isDone
  · obtain ⟨leftKept, rightKept⟩ := midway.waiting name (known.resolve_left isDone) isDone
    exact rightKept.trans leftKept.symm

theorem known_of_lookup {before after : List Declaration} {target : String}
    (order : start.declarations = before ++ declaration :: after)
    (looked : target ∈ lookups files overflow contents start.schema declaration.name)
    (isDeclared : target ∈ start.schema.names) (other : target ≠ declaration.name) :
    Known files overflow contents start before target := by
  by_cases isDone : target ∈ before.map Declaration.name
  · exact .inl isDone
  · exact .inr (.ahead order looked isDeclared isDone other)

theorem closed (midway : Midway files overflow contents start done left right)
    (order : start.declarations = done ++ rest) {name target : String}
    (known : Known files overflow contents start done name)
    (redirect : left.entry name = .redirect target) (isDeclared : target ∈ left.schema.names) :
    Known files overflow contents start done target := by
  rw [midway.leftSchema] at isDeclared
  by_cases isDone : name ∈ done.map Declaration.name
  · obtain ⟨earlier, isEarlier, rfl⟩ := List.mem_map.mp isDone
    by_cases own : target = earlier.name
    · exact .inl (own ▸ isDone)
    · obtain ⟨before, after, rfl⟩ := List.append_of_mem isEarlier
      rw [List.append_assoc, List.cons_append] at order
      have earlierKnown := known_of_lookup order
        (midway.linked earlier.name isDone target redirect) isDeclared own
      refine earlierKnown.imp_left fun member => ?_
      rw [List.map_append]
      exact List.mem_append_left _ member
  · have awaited := known.resolve_left isDone
    rw [(midway.waiting name awaited isDone).1] at redirect
    exact .inr (.onward awaited redirect isDeclared)

/-- Two stores midway through a file accept the next text alike. -/
theorem check_eq (midway : Midway files overflow contents start done left right)
    (order : start.declarations = done ++ declaration :: rest)
    (found : start.schema.find? declaration.name = some declared)
    (named : contents.get? declaration.name = some text) {input : Input}
    (taken : inputFrom files overflow declaration text = .ok input) :
    right.check declared input = left.check declared input := by
  have sameSchema : right.schema = left.schema :=
    midway.rightSchema.trans midway.leftSchema.symm
  have ownName := (Store.mem_names_of_find? found).2
  apply Store.check_congr sameSchema
  intro target member
  apply Store.followTarget_congr sameSchema (fun _ => midway.agree) fun _ _ => midway.closed order
  intro isDeclared
  by_cases own : target = declared.name
  · exact .inl (own ▸ List.mem_cons_self)
  · rw [midway.leftSchema] at isDeclared
    exact .inr (known_of_lookup order (mem_lookups found named taken member) isDeclared
      (ownName ▸ own))

/-- An accepted text leads two stores on midway through a file. -/
theorem next (midway : Midway files overflow contents start done left right)
    (found : start.schema.find? declaration.name = some declared)
    (named : contents.get? declaration.name = some text) {input : Input}
    (taken : inputFrom files overflow declaration text = .ok input) {stored : Stored}
    (accepted : left.check declared input = .ok stored) :
    Midway files overflow contents start (done ++ [declaration])
      (left.put declaration.name stored) (right.put declaration.name stored) := by
  have isDone {name : String} (other : ¬declaration.name = name)
      (member : name ∈ (done ++ [declaration]).map Declaration.name) :
      name ∈ done.map Declaration.name := by
    rw [List.map_append, List.mem_append] at member
    exact member.resolve_right fun last => other (List.mem_singleton.mp last).symm
  refine
    { leftSchema := midway.leftSchema
      rightSchema := midway.rightSchema
      assigned := ?_
      linked := ?_
      waiting := ?_ }
  · intro name member
    rw [Store.entry_put, Store.entry_put]
    split
    · rfl
    · rename_i other
      exact midway.assigned name (isDone other member)
  · intro name member target redirect
    rw [Store.entry_put] at redirect
    split at redirect
    · rename_i own
      subst own
      rcases Store.check_eq_ok accepted with ⟨value, rfl⟩ | ⟨target', value, written, rfl, _⟩
      · cases redirect
      · cases redirect
        exact mem_lookups found named taken (List.mem_append_right _ (by simp [written]))
    · rename_i other
      exact midway.linked name (isDone other member) target redirect
  · intro name awaited outside
    rw [List.map_append, List.mem_append, not_or] at outside
    have other : ¬declaration.name = name := fun own => outside.2 (own ▸ List.mem_cons_self)
    rw [Store.entry_put, Store.entry_put, if_neg other, if_neg other]
    exact midway.waiting name awaited outside.1

end Midway

/-- Two stores midway through a complete file take the rest of it alike. -/
theorem assignFrom_alike {start left right : Store} {done rest : List Declaration}
    (complete : Complete contents start.schema)
    (midway : Midway files overflow contents start done left right)
    (order : start.declarations = done ++ rest) :
    (assignFrom files overflow contents rest right).map (fun _ => ()) =
      (assignFrom files overflow contents rest left).map (fun _ => ()) := by
  induction rest generalizing done left right with
  | nil => rfl
  | cons declaration rest induction =>
      have isNamed : declaration.name ∈ start.schema.names := by
        refine List.mem_map_of_mem (f := Declaration.name) (?_ : declaration ∈ start.declarations)
        rw [order]
        exact List.mem_append_right _ List.mem_cons_self
      obtain ⟨text, hasText⟩ := complete _ isNamed
      obtain ⟨declared, found⟩ := Schema.exists_find? isNamed
      unfold assignFrom
      simp only [hasText]
      cases taken : inputFrom files overflow declaration text with
      | error failure => rfl
      | ok input =>
          have same := midway.check_eq order found hasText taken
          have leftSet := @Store.set_of_find? left _ _ (midway.leftSchema ▸ found) input
          have rightSet := @Store.set_of_find? right _ _ (midway.rightSchema ▸ found) input
          rw [Outcome.ok_bind, Outcome.ok_bind, leftSet, rightSet, same]
          cases accepted : left.check declared input with
          | error fault => rfl
          | ok stored =>
              exact induction (midway.next found hasText taken accepted)
                (by rw [order, List.append_assoc, List.singleton_append])

/-- A file that names every parameter leaves any two stores of the schema that accept it
with the same entries.  Stores that agree on the parameters that are looked up ahead of
their turn both accept it, or both refuse it for the same reason. -/
theorem read_of_complete {world other : World} (sameFiles : other.files = world.files)
    {path text : String} (held : world.files.read path = .ok text)
    (named : ParameterFile.contents text = .ok contents) (overflow : Overflow)
    {left right : Store} (sameSchema : right.schema = left.schema)
    (complete : Complete contents left.schema) :
    (((read path overflow).perform world left).1 = .ok () →
      ((read path overflow).perform other right).1 = .ok () →
        ((read path overflow).perform other right).2.2.entries =
          ((read path overflow).perform world left).2.2.entries) ∧
      ((∀ name, Awaited world.files overflow contents left name →
          right.entry name = left.entry name) →
        ((read path overflow).perform other right).1 =
          ((read path overflow).perform world left).1) := by
  have loaded : loadFrom world.files path = .ok contents := by
    rw [loadFrom, held, Outcome.mapError_ok, Outcome.ok_bind, named, Outcome.mapError_ok]
  have sameDeclarations : right.declarations = left.declarations :=
    congrArg Schema.declarations sameSchema
  have leftReads : readFrom world.files path overflow left =
      assignFrom world.files overflow contents left.declarations left := by
    rw [readFrom, loaded, Outcome.ok_bind]
  have rightReads : readFrom other.files path overflow right =
      assignFrom world.files overflow contents left.declarations right := by
    rw [readFrom, sameFiles, loaded, Outcome.ok_bind, sameDeclarations]
  obtain ⟨noted, _, performed⟩ := perform_read path overflow world left
  obtain ⟨otherNoted, _, otherPerformed⟩ := perform_read path overflow other right
  rw [leftReads] at performed
  rw [rightReads] at otherPerformed
  rw [performed, otherPerformed]
  constructor
  · intro leftAccepts rightAccepts
    cases leftEnds : assignFrom world.files overflow contents left.declarations left with
    | error failure =>
        rw [leftEnds] at leftAccepts
        cases leftAccepts
    | ok leftFinal =>
        cases rightEnds : assignFrom world.files overflow contents left.declarations right with
        | error failure =>
            rw [rightEnds] at rightAccepts
            cases rightAccepts
        | ok rightFinal =>
            have leftSchema := (assigned_assignFrom leftEnds).schema_eq
            have rightSchema := (assigned_assignFrom rightEnds).schema_eq
            have kept : rightFinal.declarations = leftFinal.declarations :=
              congrArg Schema.declarations
                (rightSchema.trans (sameSchema.trans leftSchema.symm))
            simp only [Store.entries, kept]
            apply List.map_congr_left
            intro declaration member
            have isDeclared : declaration ∈ left.declarations := by
              rwa [Store.declarations, leftSchema] at member
            rw [entry_assignFrom_unique sameSchema (fun _ member => member) complete leftEnds
              rightEnds (.inl (List.mem_map_of_mem isDeclared))]
  · intro agree
    have midway : Midway world.files overflow contents left [] left right :=
      { leftSchema := rfl
        rightSchema := sameSchema
        assigned := by simp
        linked := by simp
        waiting := fun name awaited _ => ⟨rfl, agree name awaited⟩ }
    have alike := assignFrom_alike complete midway (List.nil_append left.declarations).symm
    cases leftEnds : assignFrom world.files overflow contents left.declarations left <;>
      cases rightEnds : assignFrom world.files overflow contents left.declarations right <;>
        simp_all [Except.map]

/-- A schema in which the lower limit of a parameter is declared behind it. -/
def tank : Schema :=
  { name := "tank", kind := .parameterFile, executable := none, required := []
    optional := [
      { name := "level", type := .integer, help := "", default := .number (.ofNat 5),
        required := false, mode := "h", constraint := some (.range (.text ")low") .unbounded) },
      { name := "low", type := .integer, help := "", default := .number (.ofNat 0),
        required := false, mode := "h", constraint := none }] }

def filledTank : Store :=
  (Store.fresh tank).put "level" (.literal (.number (.ofNat 9)))

def raisedTank : Store :=
  (Store.fresh tank).put "low" (.literal (.number (.ofNat 10)))

/-- What a file says of a tank. -/
def tankText : String := "level,i,h,7,)low,,\nlow,i,h,3,,,\n"

def tankWorld : World :=
  { World.empty with
    files := FileTree.empty.place ["tank.par"] (.file tankText FileTree.fileMode) }

/-- The values of a tank in its file. -/
def tankContents : Contents := ⟨[("level", "7"), ("low", "3")]⟩

theorem complete_tank : Complete tankContents tank := by
  intro name isDeclared
  have isOne : name = "level" ∨ name = "low" := by
    simpa [Schema.names, Schema.declarations, tank] using isDeclared
  rcases isOne with rfl | rfl
  · exact ⟨"7", rfl⟩
  · exact ⟨"3", rfl⟩

/-- Only the lower limit of a tank is looked up ahead of its turn. -/
theorem eq_low_of_awaited {name : String}
    (awaited : Awaited tankWorld.files .empty tankContents (Store.fresh tank) name) :
    name = "low" := by
  induction awaited with
  | @ahead before after declaration target order looked _ _ _ =>
      have isDeclared : declaration ∈ tank.declarations := by
        have whole : tank.declarations = before ++ declaration :: after := order
        rw [whole]
        exact List.mem_append_right _ List.mem_cons_self
      have isOne : ∀ declaration ∈ tank.declarations, ∀ target ∈
          lookups tankWorld.files .empty tankContents tank declaration.name, target = "low" := by
        decide +kernel
      exact isOne declaration isDeclared target looked
  | onward _ redirect _ induction =>
      subst induction
      have literal : (Store.fresh tank).entry "low" = .literal (.number (.ofNat 0)) := by
        decide +kernel
      rw [literal] at redirect
      cases redirect

/-- Tanks with one lower limit take a file alike, whatever their levels are. -/
theorem read_of_complete_tank :
    ((read "tank.par" .empty).perform tankWorld filledTank).1 =
        ((read "tank.par" .empty).perform tankWorld (Store.fresh tank)).1 ∧
      ((read "tank.par" .empty).perform tankWorld filledTank).2.2.entries =
        ((read "tank.par" .empty).perform tankWorld (Store.fresh tank)).2.2.entries := by
  have held : tankWorld.files.read "tank.par" = .ok tankText := by decide +kernel
  have named : ParameterFile.contents tankText = .ok tankContents := by decide +kernel
  obtain ⟨same, alike⟩ := @read_of_complete _ tankWorld tankWorld rfl _ _ held named .empty
    (Store.fresh tank) filledTank rfl complete_tank
  have agree : ∀ name, Awaited tankWorld.files .empty tankContents (Store.fresh tank) name →
      filledTank.entry name = (Store.fresh tank).entry name := by
    intro name awaited
    rw [eq_low_of_awaited awaited]
    decide +kernel
  exact ⟨alike agree, same (by decide +kernel) (by decide +kernel)⟩

/-- A lower limit above the level in a file keeps a tank from taking the file, though the
file sets the limit lower. -/
theorem accepts_or_refuses_tank :
    tankWorld.files.read "tank.par" = .ok tankText ∧
      ParameterFile.contents tankText = .ok tankContents ∧ Complete tankContents tank ∧
      ((read "tank.par" .empty).perform tankWorld (Store.fresh tank)).1 = .ok () ∧
      ((read "tank.par" .empty).perform tankWorld raisedTank).1 =
        .error (.store (.value (.below "tank" "level" (.ofNat 10) (.ofNat 7)))) :=
  ⟨by decide +kernel, by decide +kernel, complete_tank, by decide +kernel, by decide +kernel⟩

end ToolParams.ParameterFile
