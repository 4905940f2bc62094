import Mathlib.Data.Finset.Lattice.Fold
import Mathlib.Order.Lattice.Nat
import Mathlib.Data.Finset.Card

namespace Mef26

/-! # Numbers that arrive in any order

A receiver of numbered items, as the set of the numbers it has accepted. -/

namespace Reception

def nextNumber (accepted : Finset Nat) : Nat := accepted.sup (· + 1)

/-- The numbers below it that are still to come, in order. -/
def missing (accepted : Finset Nat) : List Nat :=
  (List.range (nextNumber accepted)).filter (· ∉ accepted)

/-- Whether a number is taken: it has not come before, and the gap that it opens fits a
budget next to what is retained for other reasons and what is missing already. -/
def Admits (budget retained : Nat) (accepted : Finset Nat) (number : Nat) : Prop :=
  number ∉ accepted ∧ (number < nextNumber accepted ∨
    retained + (missing accepted).length + (number - nextNumber accepted) ≤ budget)

instance (budget retained : Nat) (accepted : Finset Nat) (number : Nat) :
    Decidable (Admits budget retained accepted number) :=
  inferInstanceAs (Decidable (_ ∧ _))

def receive (budget retained : Nat) (accepted : Finset Nat) (number : Nat) : Finset Nat :=
  if Admits budget retained accepted number then insert number accepted else accepted

variable {accepted : Finset Nat} {number : Nat}

theorem lt_nextNumber (member : number ∈ accepted) : number < nextNumber accepted :=
  Finset.le_sup (f := (· + 1)) member

theorem nextNumber_insert :
    nextNumber (insert number accepted) = max (number + 1) (nextNumber accepted) :=
  Finset.sup_insert

theorem nextNumber_insert_of_lt (behind : number < nextNumber accepted) :
    nextNumber (insert number accepted) = nextNumber accepted := by
  rw [nextNumber_insert]
  exact Nat.max_eq_right behind

theorem nextNumber_insert_of_le (ahead : nextNumber accepted ≤ number) :
    nextNumber (insert number accepted) = number + 1 := by
  rw [nextNumber_insert]
  exact Nat.max_eq_left (by omega)

@[simp] theorem nextNumber_range (count : Nat) : nextNumber (Finset.range count) = count := by
  induction count with
  | zero => rfl
  | succ count induction =>
      rw [Finset.range_add_one, nextNumber_insert, induction]
      omega

theorem mem_missing :
    number ∈ missing accepted ↔ number < nextNumber accepted ∧ number ∉ accepted := by
  simp [missing]

@[simp] theorem missing_range (count : Nat) : missing (Finset.range count) = [] := by
  rw [missing, List.filter_eq_nil_iff]
  intro number member
  simpa using member

theorem missing_insert_of_lt (behind : number < nextNumber accepted) :
    missing (insert number accepted) = (missing accepted).erase number := by
  have distinct : (missing accepted).Nodup := List.nodup_range.filter _
  rw [distinct.erase_eq_filter, missing, nextNumber_insert_of_lt behind, missing,
    List.filter_filter]
  apply List.filter_congr
  intro other _
  by_cases same : other = number
  · simp [same]
  · simp [Finset.mem_insert, same]

theorem missing_insert_of_le (ahead : nextNumber accepted ≤ number) :
    missing (insert number accepted) =
      missing accepted ++
        (List.range (number - nextNumber accepted)).map (nextNumber accepted + ·) := by
  have split : number + 1 =
      nextNumber accepted + ((number - nextNumber accepted) + 1) := by omega
  rw [missing, nextNumber_insert_of_le ahead, split, List.range_add, List.filter_append]
  congr 1
  · apply List.filter_congr
    intro other member
    have below := List.mem_range.mp member
    have different : other ≠ number := by omega
    simp [Finset.mem_insert, different]
  · rw [List.range_succ, List.map_append, List.filter_append, List.filter_eq_self.mpr,
      List.filter_eq_nil_iff.mpr, List.append_nil]
    · intro other member
      rw [List.mem_singleton.mp member]
      have last : nextNumber accepted + (number - nextNumber accepted) = number := by omega
      simp [last]
    · intro other member
      rcases List.mem_map.mp member with ⟨offset, inside, rfl⟩
      have within := List.mem_range.mp inside
      have different : nextNumber accepted + offset ≠ number := by omega
      have later : nextNumber accepted + offset ∉ accepted := by
        intro early
        have below := lt_nextNumber early
        omega
      simp [Finset.mem_insert, different, later]

end Reception

end Mef26
