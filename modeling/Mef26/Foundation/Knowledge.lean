import Mathlib.Tactic.TypeStar

namespace Mef26

/-! # What can be derived

The closure of some known values under derivation rules, and the rule by which a value
is shown to lie outside it. -/

variable {α : Type*}

/-- A rule concludes a value from its premises. -/
abbrev DerivationRules (α : Type*) := List α → α → Prop

inductive Derivable (rules : DerivationRules α) (known : α → Prop) : α → Prop
  | known {value} : known value → Derivable rules known value
  | rule {premises value} : rules premises value →
      (∀ premise ∈ premises, Derivable rules known premise) →
      Derivable rules known value

/-- Nothing hidden is known, and no rule concludes a hidden value from premises that are
all in the open. -/
structure Guards (rules : DerivationRules α) (known hidden : α → Prop) : Prop where
  unknown (value : α) : known value → ¬hidden value
  guarded (premises : List α) (value : α) : rules premises value → hidden value →
    ∃ premise ∈ premises, hidden premise

variable {rules rules' : DerivationRules α} {known hidden : α → Prop} {value : α}

theorem Guards.not_derivable (guards : Guards rules known hidden) (isHidden : hidden value) :
    ¬Derivable rules known value := by
  intro derivable
  induction derivable with
  | known isKnown => exact guards.unknown _ isKnown isHidden
  | rule applied _ induction =>
      rcases guards.guarded _ _ applied isHidden with ⟨premise, member, premiseHidden⟩
      exact induction premise member premiseHidden

theorem Derivable.mono (included : ∀ premises value, rules premises value →
    rules' premises value) (derivable : Derivable rules known value) :
    Derivable rules' known value := by
  induction derivable with
  | known isKnown => exact .known isKnown
  | rule applied _ induction => exact .rule (included _ _ applied) induction

theorem Derivable.rule_one {premise : α} (applied : rules [premise] value)
    (derivable : Derivable rules known premise) : Derivable rules known value := by
  apply Derivable.rule applied
  intro other member
  rw [List.mem_singleton.mp member]
  exact derivable

theorem Derivable.rule_two {first second : α} (applied : rules [first, second] value)
    (derivable : Derivable rules known first) (derivable' : Derivable rules known second) :
    Derivable rules known value := by
  apply Derivable.rule applied
  intro other member
  rcases List.mem_cons.mp member with rfl | later
  · exact derivable
  · rw [List.mem_singleton.mp later]
    exact derivable'

end Mef26
