import Mathlib.Data.List.Chain

namespace Mef26

/-! # Runs of a step relation

A run records every step with the state before and after it, so that a property
of a run can speak about each of its steps. -/

structure Transition (State Event : Type*) where
  current : State
  event : Event
  next : State

variable {State Event : Type*}

inductive Run (step : State → Event → State → Prop) :
    State → List (Transition State Event) → State → Prop
  | nil (state) : Run step state [] state
  | cons {current event middle transitions final} :
      step current event middle →
      Run step middle transitions final →
      Run step current (⟨current, event, middle⟩ :: transitions) final

namespace Run

variable {step : State → Event → State → Prop} {start middle final : State}
  {transitions : List (Transition State Event)}

theorem append {first second : List (Transition State Event)}
    (before : Run step start first middle) (after : Run step middle second final) :
    Run step start (first ++ second) final := by
  induction before with
  | nil => exact after
  | cons taken _ induction => exact .cons taken (induction after)

theorem snoc {event : Event} (run : Run step start transitions middle)
    (taken : step middle event final) :
    Run step start (transitions ++ [⟨middle, event, final⟩]) final :=
  run.append (.cons taken (.nil final))

theorem image {State' Event' : Type*} {step' : State' → Event' → State' → Prop}
    (view : State → State') (label : State → Event → Event')
    (run : Run step start transitions final)
    (seen : ∀ transition ∈ transitions,
      step transition.current transition.event transition.next →
      step' (view transition.current) (label transition.current transition.event)
        (view transition.next)) :
    Run step' (view start) (transitions.map fun transition =>
      ⟨view transition.current, label transition.current transition.event,
        view transition.next⟩) (view final) := by
  induction run with
  | nil state => exact .nil _
  | @cons current event middle rest final taken run induction =>
      have first := seen ⟨current, event, middle⟩ (List.mem_cons_self ..) taken
      exact .cons first (induction fun transition member =>
        seen transition (List.mem_cons_of_mem _ member))

theorem map {Event' : Type*} {step' : State → Event' → State → Prop}
    (relabel : Event → Event')
    (lifted : ∀ current event next, step current event next →
      step' current (relabel event) next)
    (run : Run step start transitions final) :
    Run step' start (transitions.map fun transition =>
      ⟨transition.current, relabel transition.event, transition.next⟩) final :=
  run.image id (fun _ event => relabel event) fun _ _ => lifted _ _ _

theorem deterministic {transitions' : List (Transition State Event)} {final' : State}
    (functional : ∀ current event next event' next', step current event next →
      step current event' next' → event = event' ∧ next = next')
    (run : Run step start transitions final) (run' : Run step start transitions' final')
    (sameLength : transitions.length = transitions'.length) :
    transitions = transitions' ∧ final = final' := by
  induction run generalizing transitions' with
  | nil =>
      cases run' with
      | nil => exact ⟨rfl, rfl⟩
      | cons => cases sameLength
  | cons taken _ induction =>
      cases run' with
      | nil => cases sameLength
      | cons taken' rest' =>
          rcases functional _ _ _ _ _ taken taken' with ⟨rfl, rfl⟩
          rcases induction rest' (Nat.succ.inj sameLength) with ⟨rfl, rfl⟩
          exact ⟨rfl, rfl⟩

theorem around {before after : List (Transition State Event)}
    {transition : Transition State Event}
    (run : Run step start (before ++ transition :: after) final) :
    Run step start before transition.current ∧
      step transition.current transition.event transition.next ∧
      Run step transition.next after final := by
  induction before generalizing start with
  | nil =>
      cases run with
      | cons taken rest => exact ⟨.nil _, taken, rest⟩
  | cons head before induction =>
      cases run with
      | cons taken rest =>
          rcases induction rest with ⟨prior, stepped, remaining⟩
          exact ⟨.cons taken prior, stepped, remaining⟩

theorem step_of_mem {transition : Transition State Event}
    (run : Run step start transitions final) (member : transition ∈ transitions) :
    step transition.current transition.event transition.next := by
  rcases List.append_of_mem member with ⟨before, after, rfl⟩
  exact run.around.2.1

/-- The invariant rule. The step lemma may use that the step belongs to the run. -/
theorem invariant_of_mem {valid : State → Prop}
    (run : Run step start transitions final) (initially : valid start)
    (preserved : ∀ transition ∈ transitions,
      step transition.current transition.event transition.next →
      valid transition.current → valid transition.next) :
    valid final := by
  induction run with
  | nil => exact initially
  | @cons current event middle rest final taken run induction =>
      apply induction
      · exact preserved ⟨current, event, middle⟩ (List.mem_cons_self ..) taken initially
      · intro transition member
        exact preserved transition (List.mem_cons_of_mem _ member)

theorem invariant {valid : State → Prop} (run : Run step start transitions final)
    (initially : valid start)
    (preserved : ∀ current event next, step current event next →
      valid current → valid next) :
    valid final :=
  run.invariant_of_mem initially fun _ _ => preserved _ _ _

theorem history {valid : List (Transition State Event) → State → Prop}
    (run : Run step start transitions final) (initially : valid [] start)
    (preserved : ∀ before transition after,
      transitions = before ++ transition :: after →
      Run step start before transition.current →
      step transition.current transition.event transition.next →
      valid before transition.current → valid (before ++ [transition]) transition.next) :
    valid transitions final := by
  induction run generalizing valid with
  | nil => exact initially
  | @cons current event middle rest final taken run induction =>
      have first := preserved [] ⟨current, event, middle⟩ rest rfl (.nil _) taken initially
      refine @induction (fun past => valid (⟨current, event, middle⟩ :: past)) first ?_
      intro before transition after same prior
      subst same
      exact preserved (⟨current, event, middle⟩ :: before) transition after rfl
        (.cons taken prior)

def visited (start : State) (transitions : List (Transition State Event)) : List State :=
  start :: transitions.map Transition.next

theorem final_mem_visited (run : Run step start transitions final) :
    final ∈ visited start transitions := by
  induction run with
  | nil => exact List.mem_cons_self ..
  | cons _ _ induction => exact List.mem_cons_of_mem _ induction

theorem exists_run_of_visited (run : Run step start transitions final) {state : State}
    (member : state ∈ visited start transitions) :
    ∃ earlier later, transitions = earlier ++ later ∧ Run step start earlier state := by
  induction run with
  | nil first =>
      cases List.mem_singleton.mp member
      exact ⟨[], [], rfl, .nil _⟩
  | @cons current event middle rest final taken _ induction =>
      rcases List.mem_cons.mp member with rfl | inside
      · exact ⟨[], _, rfl, .nil _⟩
      · rcases induction inside with ⟨earlier, later, rfl, before⟩
        exact ⟨⟨current, event, middle⟩ :: earlier, later, rfl, .cons taken before⟩

theorem current_mem_visited (run : Run step start transitions final)
    {transition : Transition State Event} (member : transition ∈ transitions) :
    transition.current ∈ visited start transitions := by
  induction run with
  | nil => cases member
  | cons _ _ induction =>
      rcases List.mem_cons.mp member with rfl | later
      · exact List.mem_cons_self ..
      · exact List.mem_cons_of_mem _ (induction later)

theorem invariant_visited {valid : State → Prop}
    (run : Run step start transitions final) (initially : valid start)
    (preserved : ∀ current event next, step current event next →
      valid current → valid next) :
    ∀ state ∈ visited start transitions, valid state := by
  induction run with
  | nil => simpa [visited] using initially
  | cons taken _ induction =>
      intro state member
      rcases List.mem_cons.mp member with rfl | later
      · exact initially
      · exact induction (preserved _ _ _ taken initially) state later

/-- Where each step keeps validity exactly under its condition, a run visits valid
states only exactly when all its steps meet their conditions. -/
theorem valid_visited_iff {valid : State → Prop}
    {condition : Transition State Event → Prop}
    (run : Run step start transitions final) (initially : valid start)
    (stepwise : ∀ transition ∈ transitions, valid transition.current →
      (valid transition.next ↔ condition transition)) :
    (∀ state ∈ visited start transitions, valid state) ↔
      ∀ transition ∈ transitions, condition transition := by
  induction run with
  | nil => simpa [visited] using initially
  | @cons current event middle rest final taken run induction =>
      have first := stepwise ⟨current, event, middle⟩ (List.mem_cons_self ..) initially
      have remaining (reached : valid middle) := induction reached fun transition member =>
        stepwise transition (List.mem_cons_of_mem _ member)
      have tail : visited current (⟨current, event, middle⟩ :: rest) =
          current :: visited middle rest := rfl
      rw [tail, List.forall_mem_cons, List.forall_mem_cons]
      constructor
      · intro given
        rcases given with ⟨_, all⟩
        have reached := all middle (List.mem_cons_self ..)
        exact ⟨first.mp reached, (remaining reached).mp all⟩
      · intro given
        rcases given with ⟨holds, all⟩
        exact ⟨initially, (remaining (first.mpr holds)).mpr all⟩

theorem pairwise_of_before {α : Type*} {relation : α → α → Prop} {entries : List α}
    (related : ∀ before entry after, entries = before ++ entry :: after →
      ∀ earlier ∈ before, relation earlier entry) : entries.Pairwise relation := by
  induction entries with
  | nil => exact .nil
  | cons head tail induction =>
      refine List.pairwise_cons.mpr ⟨?_, ?_⟩
      · intro entry member
        rcases List.append_of_mem member with ⟨before, after, rfl⟩
        exact related (head :: before) entry after rfl head (List.mem_cons_self ..)
      · refine induction fun before entry after split earlier member => ?_
        exact related (head :: before) entry after (by rw [split]; rfl) earlier
          (List.mem_cons_of_mem _ member)

theorem pairwise_visited {relation : State → State → Prop}
    (transitive : ∀ first second third, relation first second →
      relation second third → relation first third)
    (run : Run step start transitions final)
    (respected : ∀ transition ∈ transitions, relation transition.current transition.next) :
    (visited start transitions).Pairwise relation := by
  induction run with
  | nil => exact List.pairwise_singleton _ _
  | @cons current event middle rest final taken run induction =>
      have first := respected ⟨current, event, middle⟩ (List.mem_cons_self ..)
      have ordered := induction fun transition member =>
        respected transition (List.mem_cons_of_mem _ member)
      refine List.pairwise_cons.mpr ⟨?_, ordered⟩
      intro state member
      rcases List.mem_cons.mp member with rfl | later
      · exact first
      · exact transitive _ _ _ first ((List.pairwise_cons.mp ordered).1 state later)

/-! ## What has happened since -/

/-- Something happened in a list of steps, and every step after it kept to a condition. -/
def Since {Step : Type*} (happened kept : Step → Prop) (past : List Step) : Prop :=
  ∃ before step after, past = before ++ step :: after ∧ happened step ∧
    ∀ later ∈ after, kept later

theorem since_nil {Step : Type*} {happened kept : Step → Prop} :
    ¬Since happened kept ([] : List Step) := by
  intro since
  rcases since with ⟨before, step, after, split, _⟩
  exact absurd split (by simp)

theorem since_snoc {Step : Type*} {happened kept : Step → Prop} {past : List Step}
    {last : Step} : Since happened kept (past ++ [last]) ↔
      (Since happened kept past ∧ kept last) ∨ happened last := by
  constructor
  · intro since
    rcases since with ⟨before, step, after, split, occurred, keeps⟩
    rcases List.eq_nil_or_concat after with rfl | ⟨earlier, final, rfl⟩
    · rcases List.append_inj' split rfl with ⟨_, same⟩
      rw [(List.cons.inj same).1]
      exact .inr occurred
    · rw [List.concat_eq_append] at split keeps
      rw [← List.cons_append, ← List.append_assoc] at split
      rcases List.append_inj' split rfl with ⟨rfl, same⟩
      rw [(List.cons.inj same).1]
      refine .inl ⟨⟨before, step, earlier, rfl, occurred, ?_⟩, ?_⟩
      · intro later member
        exact keeps later (List.mem_append_left _ member)
      · exact keeps final (List.mem_append_right _ (List.mem_singleton_self _))
  · intro either
    rcases either with ⟨⟨before, step, after, rfl, occurred, keeps⟩, kept'⟩ | occurred
    · refine ⟨before, step, after ++ [last], by simp, occurred, ?_⟩
      intro later member
      rcases List.mem_append.mp member with earlier | final
      · exact keeps later earlier
      · rw [List.mem_singleton.mp final]
        exact kept'
    · exact ⟨past, last, [], rfl, occurred, by simp⟩

end Run

end Mef26
