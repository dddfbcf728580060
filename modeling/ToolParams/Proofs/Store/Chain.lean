import ToolParams.Store.Resolve

/-!
# Chains of redirects

A chain leads from a name through declared names to a literal.  It is determined
by its first name, and so never passes a name twice.  Following redirects gives a
value exactly when there is a chain, and following one on behalf of a parameter
exactly when there is a chain that avoids the names passed already.
-/

namespace ToolParams.Store

/-- The names that redirects pass from a name to the value of the last of them. -/
inductive Chain (store : Store) : String → List String → Scalar → Prop where
  | ends {name : String} {value : Scalar} :
      store.entry name = .literal value → Chain store name [name] value
  | passes {name target : String} {rest : List String} {value : Scalar} :
      store.entry name = .redirect target →
      target ∈ store.schema.names →
      Chain store target rest value →
      Chain store name (name :: rest) value

namespace Chain

variable {store changed : Store} {name : String} {passed : List String} {value : Scalar}

theorem unique {otherPassed : List String} {otherValue : Scalar}
    (chain : Chain store name passed value)
    (other : Chain store name otherPassed otherValue) :
    passed = otherPassed ∧ value = otherValue := by
  induction chain generalizing otherPassed with
  | ends literal =>
      cases other with
      | ends otherLiteral =>
          rw [literal] at otherLiteral
          cases otherLiteral
          exact ⟨rfl, rfl⟩
      | passes redirect _ _ =>
          rw [literal] at redirect
          cases redirect
  | passes redirect _ _ induction =>
      cases other with
      | ends literal =>
          rw [redirect] at literal
          cases literal
      | passes otherRedirect _ later =>
          rw [redirect] at otherRedirect
          cases otherRedirect
          obtain ⟨samePassed, sameValue⟩ := induction later
          exact ⟨by rw [samePassed], sameValue⟩

theorem from_mem {later : String} (chain : Chain store name passed value)
    (member : later ∈ passed) :
    ∃ rest, Chain store later rest value ∧ rest.length ≤ passed.length := by
  induction chain with
  | ends literal =>
      rw [List.mem_singleton] at member
      subst later
      exact ⟨_, .ends literal, Nat.le_refl _⟩
  | passes redirect declared tail induction =>
      rcases List.mem_cons.mp member with here | further
      · subst later
        exact ⟨_, .passes redirect declared tail, Nat.le_refl _⟩
      · obtain ⟨rest, chainRest, bound⟩ := induction further
        exact ⟨rest, chainRest, by simp only [List.length_cons]; omega⟩

/-- A name does not come back in the chain of its target: the chain from there would
be both longer and no longer than the chain of the target. -/
theorem not_mem_of_redirect {target : String} (redirect : store.entry name = .redirect target)
    (declared : target ∈ store.schema.names) (chain : Chain store target passed value) :
    name ∉ passed := by
  intro member
  obtain ⟨rest, again, bound⟩ := chain.from_mem member
  have same := (Chain.passes redirect declared chain).unique again
  rw [← same.1, List.length_cons] at bound
  omega

theorem congr (chain : Chain store name passed value)
    (sameSchema : changed.schema = store.schema)
    (sameEntries : ∀ other ∈ passed, changed.entry other = store.entry other) :
    Chain changed name passed value := by
  induction chain with
  | ends literal => exact .ends ((sameEntries _ (by simp)).trans literal)
  | passes redirect declared _ induction =>
      refine .passes ((sameEntries _ (by simp)).trans redirect) (sameSchema ▸ declared) ?_
      exact induction fun other member => sameEntries other (List.mem_cons_of_mem _ member)

end Chain

/-- A redirect is followed to a value exactly along a chain from its target that
avoids the names passed already. -/
theorem followTarget_eq_ok_iff {store : Store} {holder target : String}
    {chain : List String} {value : Scalar} :
    store.followTarget holder target chain = .ok value ↔
      target ∈ store.schema.names ∧
        ∃ passed, Chain store target passed value ∧ ∀ name ∈ passed, name ∉ chain := by
  constructor
  · intro followed
    induction holder, target, chain using followTarget.induct store with
    | case1 holder target chain seen =>
        rw [followTarget, dif_pos seen] at followed
        cases followed
    | case2 holder target chain fresh declared found literal =>
        rw [followTarget, dif_neg fresh, dif_pos declared, literal] at followed
        cases followed
        refine ⟨declared, [target], .ends literal, ?_⟩
        intro name member
        rw [List.mem_singleton] at member
        exact member ▸ fresh
    | case3 holder target chain fresh declared next redirect induction =>
        rw [followTarget, dif_neg fresh, dif_pos declared, redirect] at followed
        obtain ⟨nextDeclared, passed, chainNext, avoids⟩ := induction followed
        refine ⟨declared, target :: passed, .passes redirect nextDeclared chainNext, ?_⟩
        intro name member
        rcases List.mem_cons.mp member with here | further
        · exact here ▸ fresh
        · exact fun inChain => avoids name further (List.mem_append_left _ inChain)
    | case4 holder target chain fresh undeclared =>
        rw [followTarget, dif_neg fresh, dif_neg undeclared] at followed
        cases followed
  · rintro ⟨declared, passed, walk, avoids⟩
    induction walk generalizing holder chain with
    | @ends name value literal =>
        rw [followTarget, dif_neg (avoids name (by simp)), dif_pos declared, literal]
    | @passes name target rest value redirect targetDeclared tail induction =>
        rw [followTarget, dif_neg (avoids name (by simp)), dif_pos declared, redirect]
        refine induction targetDeclared ?_
        intro other member inChain
        rcases List.mem_append.mp inChain with before | isName
        · exact avoids other (List.mem_cons_of_mem _ member) before
        · rw [List.mem_singleton] at isName
          exact tail.not_mem_of_redirect redirect targetDeclared (isName ▸ member)

/-- A parameter has a value exactly when a chain leads from it. -/
theorem follow_eq_ok_iff {store : Store} {name : String} {value : Scalar} :
    store.follow name = .ok value ↔ ∃ passed, Chain store name passed value := by
  unfold follow
  constructor
  · intro followed
    cases held : store.entry name with
    | literal literal =>
        rw [held] at followed
        cases followed
        exact ⟨[name], .ends held⟩
    | redirect target =>
        rw [held] at followed
        obtain ⟨declared, passed, chain, _⟩ := followTarget_eq_ok_iff.mp followed
        exact ⟨name :: passed, .passes held declared chain⟩
  · rintro ⟨passed, chain⟩
    cases chain with
    | ends literal => rw [literal]
    | passes redirect declared tail =>
        rw [redirect]
        refine followTarget_eq_ok_iff.mpr ⟨declared, _, tail, ?_⟩
        intro other member inChain
        rw [List.mem_singleton] at inChain
        exact tail.not_mem_of_redirect redirect declared (inChain ▸ member)

end ToolParams.Store
