import Mathlib.Logic.Function.Iterate

namespace Mef26

/-! # Lineages

Where nothing has two parents, whatever descends from an origin has one line of
ancestors, and its depth below the origin is determined. -/

variable {α : Type*}

def UniqueParents (parent : α → α → Prop) : Prop :=
  ∀ first second child, parent first child → parent second child → first = second

def IsOrigin (parent : α → α → Prop) (origin : α) : Prop :=
  ∀ above, ¬parent above origin

/-- The descendants of a value, with their depth below it. -/
inductive Lineage (parent : α → α → Prop) (ancestor : α) : Nat → α → Prop
  | self : Lineage parent ancestor 0 ancestor
  | child {depth above below} :
      Lineage parent ancestor depth above → parent above below →
      Lineage parent ancestor (depth + 1) below

namespace Lineage

variable {parent : α → α → Prop} {ancestor middle value : α} {depth depth' : Nat}

theorem append (first : Lineage parent ancestor depth middle)
    (second : Lineage parent middle depth' value) :
    Lineage parent ancestor (depth + depth') value := by
  induction second with
  | self => exact first
  | child _ step induction => exact .child induction step

theorem unique (parents : UniqueParents parent) {origin origin' : α}
    (isOrigin : IsOrigin parent origin) (isOrigin' : IsOrigin parent origin')
    (first : Lineage parent origin depth value)
    (second : Lineage parent origin' depth' value) :
    origin = origin' ∧ depth = depth' := by
  induction first generalizing depth' with
  | self =>
      cases second with
      | self => exact ⟨rfl, rfl⟩
      | child _ step => exact absurd step (isOrigin _)
  | child _ step induction =>
      cases second with
      | self => exact absurd step (isOrigin' _)
      | child above step' =>
          rcases parents _ _ _ step step' with rfl
          rcases induction above with ⟨origins, depths⟩
          exact ⟨origins, congrArg (· + 1) depths⟩

theorem iterate (next : α → α) (ancestor : α) (steps : Nat) :
    Lineage (fun above below => next above = below) ancestor steps
      (next^[steps] ancestor) := by
  induction steps with
  | zero => exact .self
  | succ steps induction =>
      exact .child induction (Function.iterate_succ_apply' next steps ancestor).symm

end Lineage

end Mef26
