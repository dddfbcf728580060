import ToolParams.Proofs.Store.Stable

/-!
# What a check looks up

A check looks up the values that the redirects of its input and of the limits lead to, and
nothing else of the store.  Two stores in which these values are the same accept the same
inputs; and what a check lets through is determined by the input, whatever the store holds.
-/

namespace ToolParams

namespace Constraint

variable {tool : String} {declaration : Declaration} {resolver other : Resolver}

theorem limit_congr {bound : Bound}
    (targets : ∀ target, bound.target? = some target → other target = resolver target) :
    limit tool declaration other bound = limit tool declaration resolver bound := by
  cases bound with
  | unbounded => rfl
  | number value => rfl
  | text written =>
      by_cases isRedirect : Redirect.isWritten written = true
      · have same := targets (Redirect.target written) (by simp [Bound.target?, isRedirect])
        simp only [limit, isRedirect, if_true, same]
      · simp only [limit, isRedirect, Bool.false_eq_true, if_false]

/-- A constraint only depends on the values that the redirects of its limits lead to. -/
theorem check_congr
    (targets : ∀ target ∈ declaration.limitTargets, other target = resolver target)
    (value : Scalar) :
    check tool declaration other value = check tool declaration resolver value := by
  unfold check
  cases constrained : declaration.constraint with
  | none => rfl
  | some constraint =>
      cases constraint with
      | options choices => rfl
      | range low high =>
          have limited : ∀ bound ∈ [low, high],
              limit tool declaration other bound = limit tool declaration resolver bound := by
            intro bound member
            apply limit_congr
            intro target isTarget
            apply targets
            rw [Declaration.limitTargets, constrained]
            exact List.mem_filterMap.mpr ⟨bound, member, isTarget⟩
          have least := limited low List.mem_cons_self
          have most := limited high (List.mem_cons_of_mem _ List.mem_cons_self)
          cases value with
          | number number => simp only [checkRange, least, most]
          | _ => rfl

/-- A limit stays what it is where its redirect still leads to the value it led to. -/
theorem limit_of_ok {bound : Bound} {least : Option Number}
    (targets : ∀ target value, bound.target? = some target →
      resolver target = .ok value → other target = .ok value)
    (limited : limit tool declaration resolver bound = .ok least) :
    limit tool declaration other bound = .ok least := by
  cases bound with
  | unbounded => exact limited
  | number value => exact limited
  | text written =>
      by_cases isRedirect : Redirect.isWritten written = true
      · simp only [limit, isRedirect, if_true] at limited ⊢
        obtain ⟨value, led, stores⟩ := Outcome.bind_eq_ok_iff.mp limited
        have leads := targets _ value (by simp [Bound.target?, isRedirect]) led
        exact Outcome.bind_eq_ok_iff.mpr ⟨value, leads, stores⟩
      · simp only [limit, isRedirect, Bool.false_eq_true, if_false] at limited ⊢
        exact limited

/-- A value stays accepted where the redirects of the limits still lead to the values they
led to. -/
theorem check_of_ok {value final : Scalar}
    (targets : ∀ target ∈ declaration.limitTargets, ∀ value,
      resolver target = .ok value → other target = .ok value)
    (accepted : check tool declaration resolver value = .ok final) :
    check tool declaration other value = .ok final := by
  unfold check at accepted ⊢
  cases constrained : declaration.constraint with
  | none =>
      rw [constrained] at accepted
      exact accepted
  | some constraint =>
      rw [constrained] at accepted
      cases constraint with
      | options choices => exact accepted
      | range low high =>
          cases value with
          | number number =>
              have limited : ∀ bound ∈ [low, high], ∀ target value, bound.target? = some target →
                  resolver target = .ok value → other target = .ok value := by
                intro bound member target value isTarget
                apply targets
                rw [Declaration.limitTargets, constrained]
                exact List.mem_filterMap.mpr ⟨bound, member, isTarget⟩
              obtain ⟨_, inRange, isNumber⟩ := Outcome.bind_eq_ok_iff.mp accepted
              refine Outcome.bind_eq_ok_iff.mpr ⟨(), ?_, isNumber⟩
              obtain ⟨least, most, isLeast, isMost, within⟩ := checkRange_eq_ok_iff.mp inRange
              exact checkRange_eq_ok_iff.mpr ⟨least, most,
                limit_of_ok (limited low List.mem_cons_self) isLeast,
                limit_of_ok (limited high (List.mem_cons_of_mem _ List.mem_cons_self)) isMost,
                within⟩
          | _ => exact accepted

/-- Where redirects lead has no part in the value that is let through. -/
theorem check_unique {value first second : Scalar}
    (accepted : check tool declaration resolver value = .ok first)
    (acceptedToo : check tool declaration other value = .ok second) : first = second := by
  unfold check at accepted acceptedToo
  cases constrained : declaration.constraint with
  | none =>
      rw [constrained] at accepted acceptedToo
      exact Except.ok.inj (accepted.symm.trans acceptedToo)
  | some constraint =>
      rw [constrained] at accepted acceptedToo
      cases constraint with
      | options choices => exact Except.ok.inj (accepted.symm.trans acceptedToo)
      | range low high =>
          cases value with
          | number number =>
              obtain ⟨_, _, isNumber⟩ := Outcome.bind_eq_ok_iff.mp accepted
              obtain ⟨_, _, isNumberToo⟩ := Outcome.bind_eq_ok_iff.mp acceptedToo
              exact (Outcome.pure_eq_ok_iff.mp isNumber).symm.trans
                (Outcome.pure_eq_ok_iff.mp isNumberToo)
          | _ => exact Except.ok.inj (accepted.symm.trans acceptedToo)

end Constraint

namespace Store

variable {left right store : Store} {declaration : Declaration} {input : Input}

/-- Redirects lead to the same value through stores that agree on names closed under them. -/
theorem followTarget_congr (sameSchema : right.schema = left.schema) {known : String → Prop}
    (agree : ∀ name, known name → right.entry name = left.entry name)
    (closed : ∀ name target, known name → left.entry name = .redirect target →
      target ∈ left.schema.names → known target)
    (holder target : String) (chain : List String)
    (reached : target ∈ left.schema.names → target ∈ chain ∨ known target) :
    right.followTarget holder target chain = left.followTarget holder target chain := by
  have sameTool : right.tool = left.tool := congrArg Schema.name sameSchema
  induction holder, target, chain using followTarget.induct left with
  | case1 holder target chain seen =>
      rw [followTarget, followTarget, dif_pos seen, dif_pos seen, sameTool]
  | case2 holder target chain fresh declared value literal =>
      have entry := agree target ((reached declared).resolve_left fresh)
      rw [followTarget, followTarget, dif_neg fresh, dif_neg fresh, sameSchema,
        dif_pos declared, dif_pos declared, entry, literal]
  | case3 holder target chain fresh declared next redirect induction =>
      have isKnown := (reached declared).resolve_left fresh
      rw [followTarget, followTarget, dif_neg fresh, dif_neg fresh, sameSchema,
        dif_pos declared, dif_pos declared, agree target isKnown, redirect]
      exact induction fun nextDeclared => .inr (closed target next isKnown redirect nextDeclared)
  | case4 holder target chain fresh undeclared =>
      rw [followTarget, followTarget, dif_neg fresh, dif_neg fresh, sameSchema,
        dif_neg undeclared, dif_neg undeclared, sameTool]

def lookedUp (declaration : Declaration) (input : Input) : List String :=
  declaration.limitTargets ++ (Redirect.ofInput? input).toList

/-- A check only depends on the values that redirects lead to. -/
theorem check_congr (sameSchema : right.schema = left.schema)
    (targets : ∀ target ∈ lookedUp declaration input,
      right.followTarget declaration.name target [declaration.name] =
        left.followTarget declaration.name target [declaration.name]) :
    right.check declaration input = left.check declaration input := by
  have sameTool : right.tool = left.tool := congrArg Schema.name sameSchema
  let leftResolver : Resolver := fun target =>
    left.followTarget declaration.name target [declaration.name]
  let rightResolver : Resolver := fun target =>
    right.followTarget declaration.name target [declaration.name]
  have limited : ∀ value, Constraint.check left.tool declaration rightResolver value =
      Constraint.check left.tool declaration leftResolver value :=
    Constraint.check_congr fun target member => targets target (List.mem_append_left _ member)
  unfold check
  cases written : Redirect.ofInput? input with
  | none => simp only [sameTool, leftResolver, rightResolver, limited]
  | some target =>
      have own := targets target (by simp [lookedUp, written])
      simp only [sameTool, leftResolver, rightResolver, limited, own]

/-- What a check lets through it lets through wherever the redirects that it looks up still
lead to the values they led to. -/
theorem check_of_ok {stored : Stored} (sameSchema : right.schema = left.schema)
    (targets : ∀ target ∈ lookedUp declaration input, ∀ value,
      left.followTarget declaration.name target [declaration.name] = .ok value →
        right.followTarget declaration.name target [declaration.name] = .ok value)
    (checked : left.check declaration input = .ok stored) :
    right.check declaration input = .ok stored := by
  have sameTool : right.tool = left.tool := congrArg Schema.name sameSchema
  have limits : ∀ target ∈ declaration.limitTargets, ∀ value,
      left.followTarget declaration.name target [declaration.name] = .ok value →
        right.followTarget declaration.name target [declaration.name] = .ok value :=
    fun target member => targets target (List.mem_append_left _ member)
  unfold check at checked ⊢
  simp only [sameTool] at checked ⊢
  cases written : Redirect.ofInput? input with
  | none =>
      rw [written] at checked
      obtain ⟨concrete, coerced, checked⟩ := Outcome.bind_eq_ok_iff.mp checked
      obtain ⟨value, constrained, stores⟩ := Outcome.bind_eq_ok_iff.mp checked
      simp only [coerced, Outcome.ok_bind, Constraint.check_of_ok limits constrained]
      exact stores
  | some target =>
      rw [written] at checked
      obtain ⟨value, followed, checked⟩ := Outcome.bind_eq_ok_iff.mp checked
      obtain ⟨concrete, coerced, checked⟩ := Outcome.bind_eq_ok_iff.mp checked
      obtain ⟨final, constrained, stores⟩ := Outcome.bind_eq_ok_iff.mp checked
      have leads := targets target (by simp [lookedUp, written]) value followed
      simp only [leads, coerced, Outcome.ok_bind, Constraint.check_of_ok limits constrained]
      exact stores

/-- What a check lets through is determined by the input. -/
theorem check_unique (sameSchema : right.schema = left.schema) {stored otherStored : Stored}
    (accepted : left.check declaration input = .ok stored)
    (acceptedToo : right.check declaration input = .ok otherStored) : stored = otherStored := by
  have sameTool : right.tool = left.tool := congrArg Schema.name sameSchema
  unfold check at accepted acceptedToo
  simp only [sameTool] at accepted acceptedToo
  cases written : Redirect.ofInput? input with
  | none =>
      rw [written] at accepted acceptedToo
      obtain ⟨concrete, coerced, accepted⟩ := Outcome.bind_eq_ok_iff.mp accepted
      obtain ⟨_, coercedToo, acceptedToo⟩ := Outcome.bind_eq_ok_iff.mp acceptedToo
      cases coerced.symm.trans coercedToo
      obtain ⟨value, constrained, stores⟩ := Outcome.bind_eq_ok_iff.mp accepted
      obtain ⟨otherValue, constrainedToo, storesToo⟩ := Outcome.bind_eq_ok_iff.mp acceptedToo
      cases stores
      cases storesToo
      rw [Constraint.check_unique constrained constrainedToo]
  | some target =>
      rw [written] at accepted acceptedToo
      obtain ⟨_, _, accepted⟩ := Outcome.bind_eq_ok_iff.mp accepted
      obtain ⟨_, _, accepted⟩ := Outcome.bind_eq_ok_iff.mp accepted
      obtain ⟨_, _, stores⟩ := Outcome.bind_eq_ok_iff.mp accepted
      obtain ⟨_, _, acceptedToo⟩ := Outcome.bind_eq_ok_iff.mp acceptedToo
      obtain ⟨_, _, acceptedToo⟩ := Outcome.bind_eq_ok_iff.mp acceptedToo
      obtain ⟨_, _, storesToo⟩ := Outcome.bind_eq_ok_iff.mp acceptedToo
      cases stores
      cases storesToo
      rfl

end Store

theorem Schema.exists_find? {schema : Schema} {name : String} (named : name ∈ schema.names) :
    ∃ declaration, schema.find? name = some declaration := by
  obtain ⟨declaration, declared, rfl⟩ := List.mem_map.mp named
  unfold find?
  rw [List.findRev?_eq_find?_reverse, ← Option.isSome_iff_exists, List.find?_isSome]
  exact ⟨declaration, List.mem_reverse.mpr declared, decide_eq_true rfl⟩

end ToolParams
