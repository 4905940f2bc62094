import Mef26.Foundation.Execution

namespace Mef26

/-! # Families of independent components

Each step moves one component and leaves the others. A run of the family is then a run of
every component. -/

structure NodeEvent (Node Event : Type*) where
  node : Node
  event : Event

variable {Node State Event : Type*}

structure FamilyStep (steps : Node → State → Event → State → Prop) (current : Node → State)
    (event : NodeEvent Node Event) (next : Node → State) : Prop where
  taken : steps event.node (current event.node) event.event (next event.node)
  others : ∀ node, node ≠ event.node → next node = current node

abbrev FamilyTransition (Node State Event : Type*) :=
  Transition (Node → State) (NodeEvent Node Event)

def FamilyTransition.own (transition : FamilyTransition Node State Event) :
    Transition State Event where
  current := transition.current transition.event.node
  event := transition.event.event
  next := transition.next transition.event.node

section Project

variable [DecidableEq Node] {steps : Node → State → Event → State → Prop}
  {start final : Node → State} {transitions : List (FamilyTransition Node State Event)}

def stepsOf (node : Node) (transitions : List (FamilyTransition Node State Event)) :
    List (Transition State Event) :=
  (transitions.filter fun transition => transition.event.node = node).map
    FamilyTransition.own

theorem stepsOf_cons_self (transition : FamilyTransition Node State Event)
    (rest : List (FamilyTransition Node State Event)) :
    stepsOf transition.event.node (transition :: rest) =
      transition.own :: stepsOf transition.event.node rest := by
  simp [stepsOf]

theorem stepsOf_cons_other {node : Node} {transition : FamilyTransition Node State Event}
    (other : node ≠ transition.event.node)
    (rest : List (FamilyTransition Node State Event)) :
    stepsOf node (transition :: rest) = stepsOf node rest := by
  simp [stepsOf, Ne.symm other]

theorem mem_stepsOf {transition : FamilyTransition Node State Event}
    (member : transition ∈ transitions) :
    transition.own ∈ stepsOf transition.event.node transitions :=
  List.mem_map_of_mem (List.mem_filter.mpr ⟨member, decide_eq_true rfl⟩)

theorem Run.stepsOf (run : Run (FamilyStep steps) start transitions final) (node : Node) :
    Run (steps node) (start node) (stepsOf node transitions) (final node) := by
  induction run with
  | nil => exact .nil _
  | @cons current event middle rest final step _ induction =>
      by_cases here : node = event.node
      · subst here
        rw [stepsOf_cons_self ⟨current, event, middle⟩]
        exact .cons step.taken induction
      · rw [@stepsOf_cons_other _ _ _ _ node ⟨current, event, middle⟩ here,
          ← step.others node here]
        exact induction

theorem exists_split_of_stepsOf {node : Node} {before after : List (Transition State Event)}
    {step : Transition State Event}
    (split : Mef26.stepsOf node transitions = before ++ step :: after) :
    ∃ earlier transition later, transitions = earlier ++ transition :: later ∧
      transition.event.node = node ∧ transition.own = step ∧
      Mef26.stepsOf node earlier = before := by
  rcases List.map_eq_append_iff.mp split with ⟨first, rest, same, rfl, tail⟩
  rcases List.map_eq_cons_iff.mp tail with ⟨transition, others, rfl, rfl, rfl⟩
  rcases List.filter_eq_append_iff.mp same with ⟨earlier, remaining, rfl, rfl, isRest⟩
  rcases List.filter_eq_cons_iff.mp isRest with ⟨skipped, later, rfl, dropped, kept, rfl⟩
  refine ⟨earlier ++ skipped, transition, later, by simp, of_decide_eq_true kept, rfl, ?_⟩
  rw [Mef26.stepsOf, List.filter_append, List.filter_eq_nil_iff.mpr dropped, List.append_nil]

end Project

end Mef26
