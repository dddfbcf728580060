import ToolParams.Proofs.Outcome
import ToolParams.Proofs.Store.Chain
import ToolParams.Store.Assign

/-!
# What an assignment does to redirects

An assignment changes the entry of one declared name.  The check that comes before
it follows a new redirect without passing that name, so the parameter has a value
afterwards, and no other parameter loses its value.
-/

namespace ToolParams.Store

variable {store next : Store} {requested name : String} {input : Input} {raw : Scalar}

@[simp]
theorem schema_put (store : Store) (name : String) (stored : Stored) :
    (store.put name stored).schema = store.schema := rfl

@[simp]
theorem entry_put (store : Store) (name other : String) (stored : Stored) :
    (store.put name stored).entry other = if name = other then stored else store.entry other := by
  by_cases same : name = other <;> simp [entry, put, same]

theorem mem_names_of_find? {schema : Schema} {declaration : Declaration}
    (found : schema.find? name = some declaration) :
    declaration ∈ schema.declarations ∧ declaration.name = name := by
  unfold Schema.find? at found
  rw [List.findRev?_eq_find?_reverse] at found
  have member := List.mem_of_find?_eq_some found
  have matching := List.find?_some found
  exact ⟨List.mem_reverse.mp member, by simpa using matching⟩

theorem resolveName_mem (resolved : store.resolveName requested = .ok name) :
    name ∈ store.schema.names := by
  unfold resolveName at resolved
  split at resolved
  · cases resolved
    assumption
  · split at resolved
    · cases resolved
    · rename_i only filtered
      cases resolved
      have member : name ∈ store.schema.names.filter (Text.startsWith · requested) := by
        rw [filtered]
        exact List.mem_singleton_self name
      exact (List.mem_filter.mp member).1
    · cases resolved

theorem resolveName_of_mem (declared : name ∈ store.schema.names) :
    store.resolveName name = .ok name := by
  rw [resolveName, if_pos declared]

theorem declaration_eq_ok_iff {declaration : Declaration} :
    store.declaration requested = .ok declaration ↔
      ∃ name, store.resolveName requested = .ok name ∧
        store.schema.find? name = some declaration := by
  unfold Store.declaration
  rw [Outcome.bind_eq_ok_iff]
  refine exists_congr fun name => and_congr_right fun _ => ?_
  cases search : store.schema.find? name with
  | none => exact iff_of_false nofun nofun
  | some other => exact Outcome.pure_eq_ok_iff.trans (Option.some.injEq ..).to_iff.symm

theorem validate_of_declaration {declaration : Declaration}
    (declared : store.declaration requested = .ok declaration) (input : Input) :
    store.validate requested input = (store.check declaration input).mapError .value := by
  rw [validate, declared, Outcome.ok_bind]

section Declared

variable {declaration : Declaration} (found : store.schema.find? name = some declaration)
include found

theorem named_of_find? : name ∈ store.schema.names := by
  obtain ⟨declared, isNamed⟩ := mem_names_of_find? found
  exact isNamed ▸ List.mem_map_of_mem declared

theorem validate_of_find? (input : Input) :
    store.validate name input = (store.check declaration input).mapError .value :=
  validate_of_declaration
    (declaration_eq_ok_iff.mpr ⟨name, resolveName_of_mem (named_of_find? found), found⟩) input

theorem set_of_find? (input : Input) :
    store.set name input =
      ((store.check declaration input).mapError .value).map fun stored =>
        (store.put name stored, stored.raw) := by
  unfold set
  rw [resolveName_of_mem (named_of_find? found), Outcome.ok_bind, validate_of_find? found]
  cases store.check declaration input <;> rfl

end Declared

theorem set_of_resolved {declaration : Declaration}
    (resolved : store.resolveName requested = .ok name)
    (found : store.schema.find? name = some declaration) (input : Input) :
    store.set requested input =
      ((store.check declaration input).mapError .value).map fun stored =>
        (store.put name stored, stored.raw) := by
  rw [← set_of_find? found]
  unfold set
  rw [resolved, resolveName_of_mem (resolveName_mem resolved)]

/-- A successful assignment puts the checked input under the resolved name. -/
theorem set_eq_ok (assigned : store.set requested input = .ok (next, raw)) :
    ∃ name declaration stored,
      store.resolveName requested = .ok name ∧
        store.schema.find? name = some declaration ∧
        store.check declaration input = .ok stored ∧
        next = store.put name stored ∧ raw = stored.raw := by
  obtain ⟨name, resolved, assigned⟩ := Outcome.bind_eq_ok_iff.mp assigned
  obtain ⟨stored, validated, stores⟩ := Outcome.bind_eq_ok_iff.mp assigned
  obtain ⟨declaration, declared, checked⟩ := Outcome.bind_eq_ok_iff.mp validated
  obtain ⟨exact, resolvedAgain, found⟩ := declaration_eq_ok_iff.mp declared
  rw [resolveName_of_mem (resolveName_mem resolved)] at resolvedAgain
  cases resolvedAgain
  cases stores
  exact ⟨name, declaration, stored, resolved, found,
    Outcome.mapError_eq_ok_iff.mp checked, rfl, rfl⟩

/-- A checked input is a literal, or the redirect that was written, whose target has
a value that is reached without passing the parameter itself. -/
theorem check_eq_ok {declaration : Declaration} {stored : Stored}
    (checked : store.check declaration input = .ok stored) :
    (∃ value, stored = .literal value) ∨
      ∃ target value, Redirect.ofInput? input = some target ∧ stored = .redirect target ∧
        store.followTarget declaration.name target [declaration.name] = .ok value := by
  unfold check at checked
  simp only at checked
  cases written : Redirect.ofInput? input with
  | none =>
      rw [written] at checked
      obtain ⟨concrete, _, checked⟩ := Outcome.bind_eq_ok_iff.mp checked
      obtain ⟨value, _, stores⟩ := Outcome.bind_eq_ok_iff.mp checked
      cases stores
      exact .inl ⟨value, rfl⟩
  | some target =>
      rw [written] at checked
      obtain ⟨value, followed, checked⟩ := Outcome.bind_eq_ok_iff.mp checked
      obtain ⟨concrete, _, checked⟩ := Outcome.bind_eq_ok_iff.mp checked
      obtain ⟨final, _, stores⟩ := Outcome.bind_eq_ok_iff.mp checked
      cases stores
      exact .inr ⟨target, value, rfl, rfl, followed⟩

def HasValue (store : Store) (name : String) : Prop :=
  ∃ value, store.follow name = .ok value

/-- Whether every declared parameter has a value. -/
def Resolved (store : Store) : Prop :=
  ∀ name ∈ store.schema.names, store.HasValue name

theorem hasValue_iff_chain :
    store.HasValue name ↔ ∃ passed value, Chain store name passed value := by
  constructor
  · rintro ⟨value, followed⟩
    obtain ⟨passed, chain⟩ := follow_eq_ok_iff.mp followed
    exact ⟨passed, value, chain⟩
  · rintro ⟨passed, value, chain⟩
    exact ⟨value, follow_eq_ok_iff.mpr ⟨passed, chain⟩⟩

/-- What is put under a name by a checked input has a value in the new store. -/
theorem hasValue_put_self {declaration : Declaration} {stored : Stored}
    (isNamed : declaration.name = name)
    (checked : store.check declaration input = .ok stored) :
    (store.put name stored).HasValue name := by
  rw [hasValue_iff_chain]
  rcases check_eq_ok checked with ⟨value, rfl⟩ | ⟨target, value, _, rfl, followed⟩
  · exact ⟨[name], value, .ends (by simp)⟩
  · obtain ⟨declared, passed, chain, avoids⟩ := followTarget_eq_ok_iff.mp followed
    have kept : Chain (store.put name (.redirect target)) target passed value := by
      refine chain.congr (schema_put ..) ?_
      intro other member
      have different : name ≠ other := by
        intro same
        exact avoids other member (by simp [isNamed, same])
      rw [entry_put, if_neg different]
    exact ⟨name :: passed, value, .passes (by simp) declared kept⟩

/-- When the new entry of a name has a value, every chain of the old store has one
in the new store: up to the changed name it runs as before. -/
theorem hasValue_put_of_chain {stored : Stored} {other : String} {passed : List String}
    {value : Scalar} (own : (store.put name stored).HasValue name)
    (chain : Chain store other passed value) : (store.put name stored).HasValue other := by
  induction chain with
  | @ends other value literal =>
      by_cases same : name = other
      · exact same ▸ own
      · exact hasValue_iff_chain.mpr ⟨_, _, .ends (by simpa [same] using literal)⟩
  | @passes other target rest value redirect declared _ induction =>
      by_cases same : name = other
      · exact same ▸ own
      · obtain ⟨passed, final, tail⟩ := hasValue_iff_chain.mp induction
        exact hasValue_iff_chain.mpr
          ⟨_, _, .passes (by simpa [same] using redirect) declared tail⟩

theorem hasValue_of_set (assigned : store.set requested input = .ok (next, raw)) :
    (∃ name, store.resolveName requested = .ok name ∧ next.HasValue name) ∧
      ∀ other, store.HasValue other → next.HasValue other := by
  obtain ⟨name, declaration, stored, resolved, found, checked, rfl, _⟩ := set_eq_ok assigned
  have own := hasValue_put_self (mem_names_of_find? found).2 checked
  refine ⟨⟨name, resolved, own⟩, ?_⟩
  intro other valued
  obtain ⟨passed, value, chain⟩ := hasValue_iff_chain.mp valued
  exact hasValue_put_of_chain own chain

theorem schema_of_set (assigned : store.set requested input = .ok (next, raw)) :
    next.schema = store.schema := by
  obtain ⟨_, _, _, _, _, _, rfl, _⟩ := set_eq_ok assigned
  rfl

/-- What any number of successful assignments makes of a store. -/
inductive Assigned (store : Store) : Store → Prop where
  | refl : Assigned store store
  | set {middle next : Store} {requested : String} {input : Input} {raw : Scalar} :
      Assigned store middle →
      middle.set requested input = .ok (next, raw) →
      Assigned store next

namespace Assigned

variable {middle final : Store}

theorem trans (first : store.Assigned middle) (second : middle.Assigned final) :
    store.Assigned final := by
  induction second with
  | refl => exact first
  | set _ assigned induction => exact .set induction assigned

theorem schema_eq (assigned : store.Assigned final) : final.schema = store.schema := by
  induction assigned with
  | refl => rfl
  | set _ step induction => exact (schema_of_set step).trans induction

theorem hasValue (assigned : store.Assigned final) (valued : store.HasValue name) :
    final.HasValue name := by
  induction assigned with
  | refl => exact valued
  | set _ step induction => exact (hasValue_of_set step).2 name induction

theorem resolved (assigned : store.Assigned final) (valued : store.Resolved) :
    final.Resolved := by
  intro name declared
  exact assigned.hasValue (valued name (assigned.schema_eq ▸ declared))

end Assigned

end ToolParams.Store
