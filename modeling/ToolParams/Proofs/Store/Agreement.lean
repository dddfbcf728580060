import ToolParams.Proofs.Store.Stable

/-!
# Stores that differ in the signs of zeros

A file does not keep the sign of zero, so what is read from it is the same as what was
written up to that sign.  No check tells such values apart: values that are the same are
accepted alike, in stores that are the same.
-/

namespace ToolParams

open Outcome (Alike)

namespace Number

theorem settled_cases (number : Number) :
    number.settled = number ∨ number.settled = zero false ∧ ∃ negative, number = zero negative := by
  cases number with
  | nan => exact .inl rfl
  | infinity negative => exact .inl rfl
  | finite negative magnitude =>
      by_cases isZero : magnitude.code = 0
      · obtain ⟨code, code_lt⟩ := magnitude
        cases isZero
        exact .inr ⟨rfl, negative, rfl⟩
      · exact .inl (settled_of_nonzero isZero)

theorem settled_settled (number : Number) : number.settled.settled = number.settled := by
  rcases settled_cases number with same | ⟨settles, negative, rfl⟩
  · rw [same, same]
  · rw [settles]
    rfl

@[simp]
theorem rank_settled (number : Number) : number.settled.rank = number.rank := by
  rcases settled_cases number with same | ⟨settles, negative, rfl⟩
  · rw [same]
  · rw [settles]
    cases negative <;> rfl

@[simp]
theorem text_settled (number : Number) : number.settled.text = number.text := by
  rcases settled_cases number with same | ⟨settles, negative, rfl⟩
  · rw [same]
  · rw [settles, zero, zero, text_of_zero rfl, text_of_zero rfl]

@[simp]
theorem isFinite_settled (number : Number) : number.settled.isFinite = number.isFinite := by
  rcases settled_cases number with same | ⟨settles, negative, rfl⟩
  · rw [same]
  · rw [settles]
    rfl

@[simp]
theorem isInteger_settled (number : Number) : number.settled.isInteger = number.isInteger := by
  rcases settled_cases number with same | ⟨settles, negative, rfl⟩
  · rw [same]
  · rw [settles]
    rfl

section Settled

variable {left right : Number} (same : left.settled = right.settled)

include same

theorem rank_eq_of_settled : left.rank = right.rank := by
  rw [← rank_settled, same, rank_settled]

theorem text_eq_of_settled : left.text = right.text := by
  rw [← text_settled, same, text_settled]

theorem isFinite_eq_of_settled : left.isFinite = right.isFinite := by
  rw [← isFinite_settled, same, isFinite_settled]

theorem isInteger_eq_of_settled : left.isInteger = right.isInteger := by
  rw [← isInteger_settled, same, isInteger_settled]

end Settled

section Rank

variable {left right other otherLeft otherRight : Number} (rank : left.rank = right.rank)

include rank

theorem eqv_left : left.eqv other = right.eqv other := by
  unfold eqv
  rw [rank]

theorem eqv_right : other.eqv left = other.eqv right := by
  unfold eqv
  rw [rank]

theorem lt_of_ranks (rankOther : otherLeft.rank = otherRight.rank) :
    left.lt otherLeft = right.lt otherRight := by
  unfold lt
  rw [rank, rankOther]

end Rank

end Number

/-- A scalar without the sign of zero. -/
def Scalar.settled : Scalar → Scalar
  | .number value => .number value.settled
  | value => value

/-- Two scalars differ at most in the sign of zero. -/
def Scalar.Same (left right : Scalar) : Prop :=
  left.settled = right.settled

/-- Two entries of stores differ at most in the sign of zero. -/
inductive Stored.Same : Stored → Stored → Prop where
  | literal {left right : Scalar} : left.Same right → Same (.literal left) (.literal right)
  | redirect (target : String) : Same (.redirect target) (.redirect target)

/-- Two stores of one schema differ at most in the signs of zeros. -/
structure Store.Same (left right : Store) : Prop where
  schema : right.schema = left.schema
  entry : ∀ name, (left.entry name).Same (right.entry name)

namespace Scalar.Same

variable {left right : Scalar} {leftNumber rightNumber : Number}

theorem number (same : leftNumber.settled = rightNumber.settled) :
    Same (.number leftNumber) (.number rightNumber) :=
  congrArg Scalar.number same

theorem refl (value : Scalar) : value.Same value := rfl

theorem symm (same : left.Same right) : right.Same left := Eq.symm same

theorem settled (value : Scalar) : value.Same value.settled := by
  cases value with
  | number number => exact Same.number number.settled_settled.symm
  | _ => rfl

theorem cases (same : left.Same right) :
    left = right ∨ ∃ leftNumber rightNumber, left = .number leftNumber ∧
      right = .number rightNumber ∧ leftNumber.settled = rightNumber.settled := by
  cases left <;> cases right <;> simp_all [Scalar.Same, Scalar.settled]

end Scalar.Same

section Checks

variable {tool : String} {declaration : Declaration} {left right : Scalar}

/-- Values that are the same are brought alike to the type of a parameter. -/
theorem coerce_alike (same : left.Same right) :
    Alike Scalar.Same (coerce tool declaration (.scalar left))
      (coerce tool declaration (.scalar right)) := by
  rcases same.cases with rfl | ⟨leftNumber, rightNumber, rfl, rfl, settles⟩
  · exact .refl Scalar.Same.refl _
  · have rank := Number.rank_eq_of_settled settles
    have shown : leftNumber.text = rightNumber.text := Number.text_eq_of_settled settles
    unfold coerce
    cases declaration.type with
    | boolean =>
        have truth : Coerce.toBoolean? (.scalar (.number leftNumber)) =
            Coerce.toBoolean? (.scalar (.number rightNumber)) := by
          simp only [Coerce.toBoolean?, Number.eqv_left rank]
        simp only [truth]
        cases Coerce.toBoolean? (.scalar (.number rightNumber)) with
        | none => exact .error _ _
        | some value => exact .ok (.refl _)
    | integer =>
        simp only [Coerce.toNumber?, if_true, Number.isInteger_eq_of_settled settles]
        cases rightNumber.isInteger with
        | false => exact .error _ _
        | true => exact .ok (.number settles)
    | real =>
        simp only [Coerce.toNumber?, Bool.false_eq_true, if_false,
          Number.isFinite_eq_of_settled settles]
        cases rightNumber.isFinite with
        | false => exact .error _ _
        | true => exact .ok (.number settles)
    | string =>
        simp only [Coerce.toText, Input.shown, Scalar.shown, shown]
        exact .ok (.refl _)
    | filename =>
        simp only [Coerce.toText, Input.shown, Scalar.shown, shown]
        exact .ok (.refl _)
    | untyped word => exact .ok (.refl _)

namespace Constraint

variable {resolver other : Resolver}

/-- Two limits are of the same rank, or do not limit. -/
inductive SameLimit : Option Number → Option Number → Prop where
  | none : SameLimit none none
  | some {left right : Number} : left.rank = right.rank → SameLimit (some left) (some right)

theorem SameLimit.refl : (limit : Option Number) → SameLimit limit limit
  | .none => .none
  | .some _ => .some rfl

theorem SameLimit.any {left right : Option Number} (same : SameLimit left right)
    {test otherTest : Number → Bool}
    (agree : ∀ bound otherBound : Number, bound.rank = otherBound.rank →
      test bound = otherTest otherBound) : left.any test = right.any otherTest := by
  cases same with
  | none => rfl
  | some rank => exact agree _ _ rank

/-- A limit is the same number wherever its redirect leads to the same value. -/
theorem limit_alike {bound : Bound}
    (targets : ∀ target, bound.target? = some target →
      Alike Scalar.Same (resolver target) (other target)) :
    Alike SameLimit (limit tool declaration resolver bound)
      (limit tool declaration other bound) := by
  cases bound with
  | unbounded => exact .ok .none
  | number value => exact .ok (.refl _)
  | text written =>
      unfold limit
      by_cases isRedirect : Redirect.isWritten written = true
      · simp only [isRedirect, if_true]
        refine (targets _ (by simp [Bound.target?, isRedirect])).bind ?_
        intro value otherValue same
        rcases same.cases with rfl | ⟨leftNumber, rightNumber, rfl, rfl, settles⟩
        · exact .refl .refl _
        · exact .ok (.some (Number.rank_eq_of_settled settles))
      · simp only [isRedirect, Bool.false_eq_true, if_false]
        exact .refl .refl _

theorem checkRange_alike {low high : Bound} {value otherValue : Number}
    (lowAlike : Alike SameLimit (limit tool declaration resolver low)
      (limit tool declaration other low))
    (highAlike : Alike SameLimit (limit tool declaration resolver high)
      (limit tool declaration other high))
    (rank : value.rank = otherValue.rank) :
    checkRange tool declaration resolver low high value = .ok () ↔
      checkRange tool declaration other low high otherValue = .ok () := by
  rw [checkRange_eq_ok_iff, checkRange_eq_ok_iff]
  generalize limit tool declaration resolver low = lowLimit at *
  generalize limit tool declaration other low = otherLow at *
  generalize limit tool declaration resolver high = highLimit at *
  generalize limit tool declaration other high = otherHigh at *
  cases lowAlike with
  | error => simp
  | ok sameLow =>
      cases highAlike with
      | error => simp
      | ok sameHigh =>
          have least := sameLow.any fun _ _ sameRank => Number.lt_of_ranks rank sameRank
          have most := sameHigh.any fun _ _ sameRank => Number.lt_of_ranks sameRank rank
          simp [least, most]

/-- Values that are the same stand for the same option. -/
theorem matchOption_alike {options : List String} {left right : Scalar} (same : left.Same right) :
    Alike Scalar.Same (matchOption declaration options left)
      (matchOption declaration options right) := by
  rcases same.cases with rfl | ⟨leftNumber, rightNumber, rfl, rfl, settles⟩
  · exact .refl Scalar.Same.refl _
  · have shown : leftNumber.text = rightNumber.text := Number.text_eq_of_settled settles
    have spelled : spells (.number leftNumber) = spells (.number rightNumber) := by
      funext option
      change (decide (option = leftNumber.text) || (Number.read option).eqv leftNumber) = _
      rw [shown, Number.eqv_right (Number.rank_eq_of_settled settles)]
      rfl
    simp only [matchOption, Scalar.shown, shown, spelled]
    split
    · exact .refl Scalar.Same.refl _
    · split
      · exact .ok (.number settles)
      · exact .error _ _

/-- Values that are the same meet a constraint alike, wherever the redirects of its
limits lead to the same values. -/
theorem check_alike {left right : Scalar} (same : left.Same right)
    (targets : ∀ target ∈ declaration.limitTargets,
      Alike Scalar.Same (resolver target) (other target)) :
    Alike Scalar.Same (check tool declaration resolver left)
      (check tool declaration other right) := by
  unfold check
  cases constrained : declaration.constraint with
  | none => exact .ok same
  | some constraint =>
      cases constraint with
      | options choices => exact matchOption_alike same
      | range low high =>
          have limited : ∀ bound ∈ [low, high], Alike SameLimit
              (limit tool declaration resolver bound) (limit tool declaration other bound) := by
            intro bound member
            apply limit_alike
            intro target isTarget
            apply targets
            rw [Declaration.limitTargets, constrained]
            exact List.mem_filterMap.mpr ⟨bound, member, isTarget⟩
          have ranged (leftNumber rightNumber : Number)
              (settles : leftNumber.settled = rightNumber.settled) :
              Alike Scalar.Same
                (checkRange tool declaration resolver low high leftNumber >>= fun _ =>
                  pure (.number leftNumber))
                (checkRange tool declaration other low high rightNumber >>= fun _ =>
                  pure (.number rightNumber)) := by
            have accepts := checkRange_alike (limited low List.mem_cons_self)
              (limited high (List.mem_cons_of_mem _ List.mem_cons_self))
              (Number.rank_eq_of_settled settles)
            have checked : Alike (fun _ _ => True)
                (checkRange tool declaration resolver low high leftNumber)
                (checkRange tool declaration other low high rightNumber) :=
              .of_forall (fun _ accepted => ⟨(), accepts.mp accepted, trivial⟩)
                fun _ accepted => ⟨(), accepts.mpr accepted⟩
            exact checked.bind fun _ _ _ => .ok (.number settles)
          rcases same.cases with rfl | ⟨leftNumber, rightNumber, rfl, rfl, settles⟩
          · cases left with
            | number value => exact ranged value value rfl
            | _ => exact .ok (.refl _)
          · exact ranged leftNumber rightNumber settles

end Constraint

end Checks

namespace Stored.Same

theorem refl : (stored : Stored) → stored.Same stored
  | .literal value => .literal (.refl value)
  | .redirect target => .redirect target

theorem symm {left right : Stored} (same : left.Same right) : right.Same left := by
  cases same with
  | literal values => exact .literal values.symm
  | redirect target => exact .redirect target

theorem raw {left right : Stored} (same : left.Same right) :
    left.raw.settled = right.raw.settled := by
  cases same with
  | literal values => exact values
  | redirect target => rfl

end Stored.Same

namespace Store

variable {left right : Store} {declaration : Declaration}

namespace Same

theorem refl (store : Store) : store.Same store :=
  ⟨rfl, fun _ => .refl _⟩

theorem symm (same : left.Same right) : right.Same left :=
  ⟨same.schema.symm, fun name => (same.entry name).symm⟩

/-- Stores stay the same under an entry that is put into one of them and is the same as
the entry of the other. -/
theorem put {name : String} {stored : Stored} (same : left.Same right)
    (held : (left.entry name).Same stored) : left.Same (right.put name stored) := by
  refine ⟨same.schema, ?_⟩
  intro other
  rw [entry_put]
  split
  · rename_i isName
    exact isName ▸ held
  · exact same.entry other

theorem chain {name : String} {passed : List String} {value : Scalar}
    (same : left.Same right) (walk : Chain left name passed value) :
    ∃ otherValue, Chain right name passed otherValue ∧ value.Same otherValue := by
  induction walk with
  | @ends name value literal =>
      have held := same.entry name
      rw [literal] at held
      cases entered : right.entry name with
      | literal otherValue =>
          rw [entered] at held
          cases held with
          | literal values => exact ⟨otherValue, .ends entered, values⟩
      | redirect target =>
          rw [entered] at held
          cases held
  | @passes name target rest value redirect declared _ induction =>
      obtain ⟨otherValue, tail, values⟩ := induction
      have held := same.entry name
      rw [redirect] at held
      cases entered : right.entry name with
      | literal literal =>
          rw [entered] at held
          cases held
      | redirect otherTarget =>
          rw [entered] at held
          cases held
          exact ⟨otherValue, .passes entered (same.schema ▸ declared) tail, values⟩

end Same

/-- Redirects lead alike through stores that are the same. -/
theorem followTarget_alike (same : left.Same right) (holder target : String)
    (chain : List String) :
    Alike Scalar.Same (left.followTarget holder target chain)
      (right.followTarget holder target chain) := by
  apply Alike.of_forall
  · intro value followed
    obtain ⟨declared, passed, walk, avoids⟩ := followTarget_eq_ok_iff.mp followed
    obtain ⟨otherValue, otherWalk, values⟩ := same.chain walk
    exact ⟨otherValue,
      followTarget_eq_ok_iff.mpr ⟨same.schema ▸ declared, passed, otherWalk, avoids⟩, values⟩
  · intro value followed
    obtain ⟨declared, passed, walk, avoids⟩ := followTarget_eq_ok_iff.mp followed
    obtain ⟨otherValue, otherWalk, _⟩ := same.symm.chain walk
    exact ⟨otherValue,
      followTarget_eq_ok_iff.mpr ⟨same.schema ▸ declared, passed, otherWalk, avoids⟩⟩

/-- Inputs that come to the same value of the type are accepted alike, wherever the
redirects of the limits lead to the same values. -/
theorem check_literal_alike {input other : Input} (plain : Redirect.ofInput? input = none)
    (otherPlain : Redirect.ofInput? other = none)
    (coerced : Alike Scalar.Same (coerce left.tool declaration input)
      (coerce right.tool declaration other))
    (sameSchema : right.schema = left.schema)
    (targets : ∀ target ∈ declaration.limitTargets,
      Alike Scalar.Same (left.followTarget declaration.name target [declaration.name])
        (right.followTarget declaration.name target [declaration.name])) :
    Alike Stored.Same (left.check declaration input) (right.check declaration other) := by
  have sameTool : right.tool = left.tool := congrArg Schema.name sameSchema
  unfold check
  simp only [plain, otherPlain]
  refine coerced.bind ?_
  intro value otherValue values
  rw [sameTool]
  exact (Constraint.check_alike values targets).bind fun _ _ final => .ok (.literal final)

theorem check_redirect_alike (same : left.Same right) {input : Input} {target : String}
    (written : Redirect.ofInput? input = some target) :
    Alike Stored.Same (left.check declaration input) (right.check declaration input) := by
  have sameTool : right.tool = left.tool := congrArg Schema.name same.schema
  unfold check
  simp only [written]
  refine (followTarget_alike same _ _ _).bind ?_
  intro value otherValue values
  rw [sameTool]
  refine (coerce_alike values).bind ?_
  intro concrete otherConcrete concretes
  refine (Constraint.check_alike concretes fun _ _ => followTarget_alike same _ _ _).bind ?_
  exact fun _ _ _ => .ok (.redirect target)

end Store

end ToolParams
