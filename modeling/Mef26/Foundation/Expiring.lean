import Mathlib.Data.List.Basic

namespace Mef26

/-! # Entries with a deadline

A store that forgets overdue entries, seen as the list of everything that was ever put
into it. Under a clock that does not run backwards the two agree on what is due. -/

namespace Expiring

variable {Item Time : Type*} [LE Time] [DecidableLE Time]

def due (now : Time) (entries : List (Item × Time)) : List (Item × Time) :=
  entries.filter fun entry => now ≤ entry.2

theorem due_append (now : Time) (first second : List (Item × Time)) :
    due now (first ++ second) = due now first ++ due now second :=
  List.filter_append ..

/-- At every time from `now` on the store holds what was ever put in and is due. -/
def Reflects (now : Time) (entries everything : List (Item × Time)) : Prop :=
  ∀ later, now ≤ later → due later entries = due later everything

variable {now later : Time} {entries everything : List (Item × Time)}

theorem Reflects.push (reflects : Reflects now entries everything) (entry : Item × Time) :
    Reflects now (entries ++ [entry]) (everything ++ [entry]) := by
  intro time after
  rw [due_append, due_append, reflects time after]

variable [Std.IsPreorder Time]

theorem due_due (ordered : now ≤ later) (entries : List (Item × Time)) :
    due later (due now entries) = due later entries := by
  rw [due, due, List.filter_filter]
  apply List.filter_congr
  intro entry _
  by_cases isDue : later ≤ entry.2
  · have before : now ≤ entry.2 := Std.IsPreorder.le_trans _ _ _ ordered isDue
    simp [isDue, before]
  · simp [isDue]

theorem Reflects.mono (reflects : Reflects now entries everything) (ordered : now ≤ later) :
    Reflects later entries everything := by
  intro time after
  exact reflects time (Std.IsPreorder.le_trans _ _ _ ordered after)

theorem Reflects.purge (reflects : Reflects now entries everything) (ordered : now ≤ later) :
    Reflects later (due later entries) everything := by
  intro time after
  rw [due_due after]
  exact reflects.mono ordered time after

end Expiring

end Mef26
