/-!
# Outcomes that succeed

Computations that may fail are taken apart at their steps: a sequence succeeds
exactly when its steps do.  Two computations are alike when both fail, or both succeed
with related values; sequences are alike when their steps are.
-/

namespace ToolParams.Outcome

variable {ε δ α β : Type}

@[simp]
theorem ok_bind (value : α) (next : α → Except ε β) :
    (Except.ok value >>= next) = next value := rfl

@[simp]
theorem error_bind (fault : ε) (next : α → Except ε β) :
    (Except.error fault >>= next) = .error fault := rfl

@[simp]
theorem throw_eq_error (fault : ε) : (throw fault : Except ε α) = .error fault := rfl

@[simp]
theorem mapError_ok (value : α) (wrap : ε → δ) :
    (Except.ok value : Except ε α).mapError wrap = .ok value := rfl

@[simp]
theorem mapError_error (fault : ε) (wrap : ε → δ) :
    (Except.error fault : Except ε α).mapError wrap = .error (wrap fault) := rfl

theorem bind_eq_ok_iff {first : Except ε α} {next : α → Except ε β} {value : β} :
    (first >>= next) = .ok value ↔
      ∃ middle, first = .ok middle ∧ next middle = .ok value := by
  cases first <;> simp [bind, Except.bind]

theorem map_eq_ok_iff {outcome : Except ε α} {function : α → β} {value : β} :
    outcome.map function = .ok value ↔
      ∃ before, outcome = .ok before ∧ function before = value := by
  cases outcome <;> simp [Except.map]

theorem mapError_eq_ok_iff {outcome : Except ε α} {wrap : ε → δ} {value : α} :
    outcome.mapError wrap = .ok value ↔ outcome = .ok value := by
  cases outcome <;> simp

@[simp]
theorem pure_eq_ok_iff {value other : α} :
    (pure value : Except ε α) = .ok other ↔ value = other := by
  simp [pure, Except.pure]

/-- Both computations fail, or both succeed with related values. -/
inductive Alike {α β : Type} (related : α → β → Prop) : Except ε α → Except δ β → Prop where
  | ok {left : α} {right : β} : related left right → Alike related (.ok left) (.ok right)
  | error (left : ε) (right : δ) : Alike related (.error left) (.error right)

namespace Alike

variable {γ : Type} {related : α → β → Prop} {left : Except ε α} {right : Except δ β}

theorem of_forall
    (forward : ∀ value, left = .ok value → ∃ other, right = .ok other ∧ related value other)
    (backward : ∀ other, right = .ok other → ∃ value, left = .ok value) :
    Alike related left right := by
  cases left with
  | ok value =>
      obtain ⟨other, rfl, isRelated⟩ := forward value rfl
      exact .ok isRelated
  | error fault =>
      cases right with
      | ok other =>
          obtain ⟨value, impossible⟩ := backward other rfl
          cases impossible
      | error other => exact .error fault other

theorem refl {related : α → α → Prop} (reflexive : ∀ value, related value value)
    (outcome : Except ε α) : Alike related outcome outcome := by
  cases outcome with
  | ok value => exact .ok (reflexive value)
  | error fault => exact .error fault fault

theorem bind {κ : Type} {next : α → Except ε γ} {nextOther : β → Except δ κ}
    {relatedNext : γ → κ → Prop} (first : Alike related left right)
    (later : ∀ value other, related value other →
      Alike relatedNext (next value) (nextOther other)) :
    Alike relatedNext (left >>= next) (right >>= nextOther) := by
  cases first with
  | ok isRelated => exact later _ _ isRelated
  | error fault other => exact .error fault other

theorem ok_of_ok (alike : Alike related left right) {value : α} (succeeds : left = .ok value) :
    ∃ other, right = .ok other ∧ related value other := by
  cases alike with
  | ok isRelated =>
      cases succeeds
      exact ⟨_, rfl, isRelated⟩
  | error => cases succeeds

theorem error_of_error (alike : Alike related left right) {fault : ε}
    (fails : left = .error fault) : ∃ other, right = .error other := by
  cases alike with
  | ok => cases fails
  | error fault other => exact ⟨other, rfl⟩

end Alike

end ToolParams.Outcome
