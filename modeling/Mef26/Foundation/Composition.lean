import Mathlib.Data.List.Induction
import Mathlib.Logic.Function.Iterate
import Mef26.Foundation.Knowledge

namespace Mef26

/-! # What a value takes

A value that the rules conclude from certain premises and from nothing less is derived
exactly where it is known or all these premises are derived. Values that are built one
upon the other are derived from the last one that is known. -/

variable {α β : Type*}

/-- The rules conclude the value from the premises, and from no list that lacks one. -/
structure Takes (rules : DerivationRules α) (premises : List α) (value : α) : Prop where
  applies : rules premises value
  needed (other : List α) : rules other value → ∀ premise ∈ premises, premise ∈ other

variable {rules : DerivationRules α} {known : α → Prop}

theorem Takes.derivable_iff {premises : List α} {value : α}
    (takes : Takes rules premises value) :
    Derivable rules known value ↔
      known value ∨ ∀ premise ∈ premises, Derivable rules known premise := by
  constructor
  · intro derivable
    cases derivable with
    | known isKnown => exact .inl isKnown
    | rule applied derivables =>
        exact .inr fun premise member => derivables premise (takes.needed _ applied _ member)
  · intro either
    rcases either with isKnown | derivables
    · exact .known isKnown
    · exact .rule takes.applies derivables

theorem derivable_iterate_iff {next : α → α} (takes : ∀ above, Takes rules [above] (next above))
    (top : α) (steps : Nat) :
    Derivable rules known (next^[steps] top) ↔
      (∃ index ≤ steps, known (next^[index] top)) ∨ Derivable rules known top := by
  induction steps with
  | zero =>
      constructor
      · exact .inr
      · intro either
        rcases either with ⟨index, bound, isKnown⟩ | derivable
        · rw [Nat.le_zero.mp bound] at isKnown
          exact .known isKnown
        · exact derivable
  | succ steps induction =>
      rw [Function.iterate_succ_apply', (takes _).derivable_iff, List.forall_mem_singleton,
        induction]
      constructor
      · intro either
        rcases either with isKnown | ⟨index, bound, isKnown⟩ | derivable
        · exact .inl ⟨steps + 1, Nat.le_refl _, by rwa [Function.iterate_succ_apply']⟩
        · exact .inl ⟨index, Nat.le_succ_of_le bound, isKnown⟩
        · exact .inr derivable
      · intro either
        rcases either with ⟨index, bound, isKnown⟩ | derivable
        · rcases Nat.le_succ_iff.mp bound with earlier | last
          · exact .inr (.inl ⟨index, earlier, isKnown⟩)
          · rw [last, Function.iterate_succ_apply'] at isKnown
            exact .inl isKnown
        · exact .inr (.inr derivable)

/-- A way into a fold: a value on the way is known, or the first one is derived, and so is
everything that is mixed in after it. -/
def EntersFold (rules : DerivationRules α) (known : α → Prop) (mix : α → β → α)
    (side : β → α) (top : α) (mixed : List β) : Prop :=
  ∃ before after, mixed = before ++ after ∧
    (known (before.foldl mix top) ∨ before = [] ∧ Derivable rules known top) ∧
    ∀ element ∈ after, Derivable rules known (side element)

theorem entersFold_nil {mix : α → β → α} {side : β → α} {top : α} :
    EntersFold rules known mix side top [] ↔ Derivable rules known top := by
  constructor
  · intro enters
    rcases enters with ⟨before, after, split, entered, _⟩
    rcases List.append_eq_nil_iff.mp split.symm with ⟨rfl, rfl⟩
    rcases entered with isKnown | ⟨_, derivable⟩
    · exact .known isKnown
    · exact derivable
  · intro derivable
    exact ⟨[], [], rfl, .inr ⟨rfl, derivable⟩, List.forall_mem_nil _⟩

theorem entersFold_snoc {mix : α → β → α} {side : β → α} {top : α} {mixed : List β}
    {last : β} :
    EntersFold rules known mix side top (mixed ++ [last]) ↔
      known ((mixed ++ [last]).foldl mix top) ∨
        EntersFold rules known mix side top mixed ∧ Derivable rules known (side last) := by
  constructor
  · intro enters
    rcases enters with ⟨before, after, split, entered, sides⟩
    rcases List.eq_nil_or_concat after with rfl | ⟨earlier, final, rfl⟩
    · rw [List.append_nil] at split
      subst split
      rcases entered with isKnown | ⟨empty, _⟩
      · exact .inl isKnown
      · exact absurd empty (by simp)
    · rw [List.concat_eq_append, ← List.append_assoc] at split
      rcases List.append_inj' split rfl with ⟨rfl, same⟩
      cases same
      rw [List.concat_eq_append] at sides
      refine .inr ⟨⟨before, earlier, rfl, entered, ?_⟩, ?_⟩
      · intro element member
        exact sides element (List.mem_append_left _ member)
      · exact sides last (List.mem_append_right _ (List.mem_singleton_self _))
  · intro either
    rcases either with isKnown | ⟨⟨before, after, rfl, entered, sides⟩, derivable⟩
    · exact ⟨mixed ++ [last], [], (List.append_nil _).symm, .inl isKnown,
        List.forall_mem_nil _⟩
    · refine ⟨before, after ++ [last], List.append_assoc .., entered, ?_⟩
      intro element member
      rcases List.mem_append.mp member with earlier | final
      · exact sides element earlier
      · rw [List.mem_singleton.mp final]
        exact derivable

/-- Where each value of a fold takes the one before it and what is mixed in, the last one
is derived exactly if there is a way in. -/
theorem derivable_foldl_iff {mix : α → β → α} {side : β → α}
    (takes : ∀ above element, Takes rules [above, side element] (mix above element))
    (top : α) (mixed : List β) :
    Derivable rules known (mixed.foldl mix top) ↔
      EntersFold rules known mix side top mixed := by
  induction mixed using List.reverseRecOn with
  | nil => exact entersFold_nil.symm
  | append_singleton mixed last induction =>
      rw [entersFold_snoc, ← induction, List.foldl_append, List.foldl_cons, List.foldl_nil,
        (takes _ _).derivable_iff, List.forall_mem_cons, List.forall_mem_singleton]

end Mef26
