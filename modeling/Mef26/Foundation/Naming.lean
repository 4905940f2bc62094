import Mef26.Foundation.Execution

namespace Mef26

/-! # What names stand for over a run

A system gives free names to values and takes names back. A name that was taken back may
be given again, so what a name stands for depends on when it is looked up. -/

namespace Naming

variable {State Event Name Value : Type*} {step : State → Event → State → Prop}
  (lookup : State → Name → Option Value)

def Exclusive (transitions : List (Transition State Event)) : Prop :=
  ∀ transition ∈ transitions, ∀ name value other,
    lookup transition.current name = some value →
    lookup transition.next name = some other → other = value

def Assigns (transition : Transition State Event) (name : Name) (value : Value) : Prop :=
  lookup transition.current name = none ∧ lookup transition.next name = some value

/-- Every value that a step brings in is new to the run. Values are told apart by their
identity. -/
def Fresh {Identity : Type*} (identity : Value → Identity) (start : State)
    (transitions : List (Transition State Event)) : Prop :=
  ∀ before transition after, transitions = before ++ transition :: after →
    ∀ name value, Assigns lookup transition name value →
      ∀ state ∈ Run.visited start before, ∀ other held,
        lookup state other = some held → identity held ≠ identity value

variable {lookup} {start final : State} {transitions : List (Transition State Event)}
  {name : Name} {value other : Value}

theorem kept_or_assigned (run : Run step start transitions final)
    (exclusive : Exclusive lookup transitions) (found : lookup final name = some value) :
    lookup start name = some value ∨
      ∃ transition ∈ transitions, Assigns lookup transition name value := by
  induction run with
  | nil => exact .inl found
  | @cons current event middle rest final _ _ induction =>
      have inRest : Exclusive lookup rest := fun transition member =>
        exclusive transition (List.mem_cons_of_mem _ member)
      rcases induction inRest found with kept | ⟨transition, member, assigned⟩
      · cases held : lookup current name with
        | none =>
            exact .inr ⟨⟨current, event, middle⟩, List.mem_cons_self .., held, kept⟩
        | some earlier =>
            rw [exclusive _ (List.mem_cons_self ..) name earlier value held kept]
            exact .inl rfl
      · exact .inr ⟨transition, List.mem_cons_of_mem _ member, assigned⟩

theorem eq_of_unassigned (run : Run step start transitions final)
    (exclusive : Exclusive lookup transitions)
    (unassigned : ∀ transition ∈ transitions, ∀ given, ¬Assigns lookup transition name given)
    (before : lookup start name = some value) (after : lookup final name = some other) :
    other = value := by
  rcases kept_or_assigned run exclusive after with kept | ⟨transition, member, assigned⟩
  · exact Option.some.inj (kept.symm.trans before)
  · exact absurd assigned (unassigned transition member other)

namespace Fresh

variable {Identity : Type*} {identity : Value → Identity}

theorem of_prefix {earlier later : List (Transition State Event)}
    (fresh : Fresh lookup identity start (earlier ++ later)) :
    Fresh lookup identity start earlier := by
  intro before transition after split
  apply fresh before transition (after ++ later)
  rw [split, List.append_assoc, List.cons_append]

theorem of_append {middle : State} {earlier later : List (Transition State Event)}
    (fresh : Fresh lookup identity start (earlier ++ later))
    (run : Run step start earlier middle) : Fresh lookup identity middle later := by
  intro before transition after split name value assigned state visited
  have here : earlier ++ later = (earlier ++ before) ++ transition :: after := by
    rw [split, List.append_assoc]
  apply fresh _ transition after here name value assigned state
  rw [Run.visited, List.map_append]
  rcases List.mem_cons.mp visited with rfl | inside
  · exact List.mem_append_left _ run.final_mem_visited
  · exact List.mem_append_right (start :: earlier.map Transition.next) inside

theorem ne_of_assigned (fresh : Fresh lookup identity start transitions)
    {transition : Transition State Event} (member : transition ∈ transitions)
    (assigned : Assigns lookup transition name value) {earlier : Name}
    (held : lookup start earlier = some other) : identity other ≠ identity value := by
  rcases List.append_of_mem member with ⟨before, after, split⟩
  exact fresh before transition after split name value assigned start
    (List.mem_cons_self ..) earlier other held

/-- A name that stood for a value, and now stands for one, stands for the same one exactly
if it was not assigned since. -/
theorem same_iff (fresh : Fresh lookup identity start transitions)
    (exclusive : Exclusive lookup transitions) (run : Run step start transitions final)
    (before : lookup start name = some value) (after : lookup final name = some other) :
    identity other = identity value ↔
      ∀ transition ∈ transitions, ∀ given, ¬Assigns lookup transition name given := by
  constructor
  · intro same transition member given assigned
    rcases List.append_of_mem member with ⟨earlier, later, rfl⟩
    have inRest : Exclusive lookup later := fun transition' member' =>
      exclusive transition' (List.mem_append_right _ (List.mem_cons_of_mem _ member'))
    have assignedLast : ∃ transition' ∈ earlier ++ transition :: later,
        Assigns lookup transition' name other := by
      rcases kept_or_assigned run.around.2.2 inRest after with kept | ⟨transition', member', last⟩
      · exact ⟨transition, member, assigned.1, kept⟩
      · exact ⟨transition', List.mem_append_right _ (List.mem_cons_of_mem _ member'), last⟩
    rcases assignedLast with ⟨transition', member', last⟩
    exact fresh.ne_of_assigned member' last before same.symm
  · intro unassigned
    rw [eq_of_unassigned run exclusive unassigned before after]

end Fresh

end Naming

end Mef26
