import Mef26.Foundation.Execution

namespace Mef26

/-! # Runs seen in part

An observer sees a part of the state and some of the steps. Where the other steps leave
this part alone, what is seen of a run is a run. -/

variable {State Event State' Event' : Type*}

def seenStep (view : State → State') (label : Transition State Event → Option Event')
    (transition : Transition State Event) : Option (Transition State' Event') :=
  (label transition).map fun event =>
    ⟨view transition.current, event, view transition.next⟩

def seenSteps (view : State → State') (label : Transition State Event → Option Event')
    (transitions : List (Transition State Event)) : List (Transition State' Event') :=
  transitions.filterMap (seenStep view label)

section Steps

variable {view : State → State'} {label : Transition State Event → Option Event'}
  {transition : Transition State Event}

theorem seenStep_of_some {event : Event'} (labelled : label transition = some event) :
    seenStep view label transition =
      some ⟨view transition.current, event, view transition.next⟩ := by
  rw [seenStep, labelled]
  rfl

theorem seenStep_of_none (hidden : label transition = none) :
    seenStep view label transition = none := by
  rw [seenStep, hidden]
  rfl

theorem seenSteps_snoc_some (past : List (Transition State Event)) {event : Event'}
    (labelled : label transition = some event) :
    seenSteps view label (past ++ [transition]) = seenSteps view label past ++
      [⟨view transition.current, event, view transition.next⟩] := by
  rw [seenSteps, List.filterMap_append, List.filterMap_cons_some (seenStep_of_some labelled)]
  rfl

theorem seenSteps_snoc_none (past : List (Transition State Event))
    (hidden : label transition = none) :
    seenSteps view label (past ++ [transition]) = seenSteps view label past := by
  rw [seenSteps, List.filterMap_append, List.filterMap_cons_none (seenStep_of_none hidden)]
  exact List.append_nil _

theorem mem_seenSteps {transitions : List (Transition State Event)}
    {seen : Transition State' Event'} :
    seen ∈ seenSteps view label transitions ↔
      ∃ transition ∈ transitions, seenStep view label transition = some seen :=
  List.mem_filterMap

theorem exists_split_of_seenSteps {transitions : List (Transition State Event)}
    {before after : List (Transition State' Event')} {seen : Transition State' Event'}
    (split : seenSteps view label transitions = before ++ seen :: after) :
    ∃ earlier transition later, transitions = earlier ++ transition :: later ∧
      seenStep view label transition = some seen ∧ seenSteps view label earlier = before := by
  rcases List.filterMap_eq_append_iff.mp split with ⟨first, rest, rfl, rfl, tail⟩
  rcases List.filterMap_eq_cons_iff.mp tail with ⟨hidden, transition, later, rfl, unseen, same, _⟩
  refine ⟨first ++ hidden, transition, later, by simp, same, ?_⟩
  rw [seenSteps, List.filterMap_append, List.filterMap_eq_nil_iff.mpr unseen, List.append_nil]

end Steps

theorem Run.seen {step : State → Event → State → Prop}
    {step' : State' → Event' → State' → Prop} {view : State → State'}
    {label : Transition State Event → Option Event'} {start final : State}
    {transitions : List (Transition State Event)} (run : Run step start transitions final)
    (taken : ∀ transition ∈ transitions,
      step transition.current transition.event transition.next →
      ∀ event, label transition = some event →
        step' (view transition.current) event (view transition.next))
    (hidden : ∀ transition ∈ transitions,
      step transition.current transition.event transition.next → label transition = none →
        view transition.next = view transition.current) :
    Run step' (view start) (seenSteps view label transitions) (view final) := by
  apply @Run.history _ _ step start final transitions (fun past state =>
    Run step' (view start) (seenSteps view label past) (view state)) run (.nil _)
  intro before transition after split _ stepped soFar
  have member : transition ∈ transitions := split ▸ List.mem_append_right _ (List.mem_cons_self ..)
  cases labelled : label transition with
  | none =>
      rw [seenSteps_snoc_none before labelled, hidden transition member stepped labelled]
      exact soFar
  | some event =>
      rw [seenSteps_snoc_some before labelled]
      exact soFar.snoc (taken transition member stepped event labelled)

/-! ## Steps that do nothing -/

open Classical in
noncomputable def withoutIdle
    (idle : List (Transition State Event) → Transition State Event → Prop)
    (past : List (Transition State Event)) :
    List (Transition State Event) → List (Transition State Event)
  | [] => []
  | transition :: rest =>
      if idle past transition then
        withoutIdle idle (past ++ [transition]) rest
      else
        transition :: withoutIdle idle (past ++ [transition]) rest

/-- A run does without the steps that leave the state as it is. -/
theorem Run.withoutIdle {step : State → Event → State → Prop}
    {idle : List (Transition State Event) → Transition State Event → Prop}
    {current final : State} {past transitions : List (Transition State Event)}
    (run : Run step current transitions final)
    (still : ∀ before transition after, transitions = before ++ transition :: after →
      idle (past ++ before) transition → transition.next = transition.current) :
    Run step current (withoutIdle idle past transitions) final := by
  induction run generalizing past with
  | nil => exact .nil _
  | @cons current event middle rest final taken run induction =>
      have remaining : Run step middle
          (Mef26.withoutIdle idle (past ++ [⟨current, event, middle⟩]) rest) final := by
        apply induction
        intro before transition after split isIdle
        rw [List.append_assoc] at isIdle
        exact still (⟨current, event, middle⟩ :: before) transition after
          (congrArg _ split) isIdle
      unfold Mef26.withoutIdle
      split
      · rename_i isIdle
        have same : middle = current :=
          still [] ⟨current, event, middle⟩ rest rfl ((List.append_nil past).symm ▸ isIdle)
        exact same ▸ remaining
      · exact .cons taken remaining

end Mef26
