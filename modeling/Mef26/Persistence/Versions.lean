import Mef26.Persistence.Transactions

namespace Mef26

/-! # Generations as version numbers -/

variable {P : Primitives (FixedBytes 32)}

/-- A change of the state raises the generation, and nothing else does. -/
structure Versioned (current next : RatchetState P) : Prop where
  raised : next ≠ current → current.generation < next.generation
  kept : next = current → next.generation = current.generation

/-- A call that succeeds and changes the state although the generation is at its
end. -/
def SaturatesVersion (state : RatchetState P) (call : RatchetCall) : Prop :=
  state.generation.toNat + 1 = UInt64.size ∧
    ∃ after, RatchetCall.Commits state call after ∧ after ≠ state

theorem versioned_call_iff {state : RatchetState P} {call : RatchetCall} :
    Versioned state (call.after state) ↔
      ¬CommitsThenFails state call ∧ ¬SaturatesVersion state call := by
  constructor
  · intro versioned
    constructor
    · intro fails
      rcases commitsThenFails_iff.mp fails with ⟨after, exhausts, moved⟩
      rcases RatchetCall.result_of_exhausts exhausts with ⟨_, rfl⟩
      have raised := versioned.raised moved
      rw [exhausts.generation] at raised
      exact UInt64.lt_irrefl _ raised
    · intro holds
      rcases holds with ⟨full, after, commits, moved⟩
      rcases RatchetCall.after_of_commits commits with rfl
      have raised := versioned.raised moved
      rw [commits.generation, saturatingAdd64_one_of_full full] at raised
      exact UInt64.lt_irrefl _ raised
  · intro holds
    rcases holds with ⟨clean, unsaturated⟩
    refine ⟨fun moved => ?_, fun same => by rw [same]⟩
    cases call.ends state with
    | commits reply replied commits =>
        have room : state.generation.toNat + 1 < UInt64.size := by
          by_contra full
          have bound := state.generation.toNat_lt
          exact unsaturated
            ⟨by simp only [UInt64.size] at full ⊢; omega, _, commits, moved⟩
        rw [commits.generation]
        exact lt_saturatingAdd64_one room
    | exhausts failed exhausts =>
        exact absurd (commitsThenFails_iff.mpr ⟨_, exhausts, moved⟩) clean
    | refused error failed unchanged => exact absurd unchanged moved

/-- Of two states the later is the same, or it has a higher generation and a floor
set from it turns every snapshot of the earlier one down. -/
def Supersedes (earlier later : RatchetState P) : Prop :=
  earlier = later ∨ earlier.generation < later.generation ∧
    ∀ entropy key context blob, earlier.sealState entropy key context = .ok blob →
      (RatchetState.restoreState key context later.generation blob :
        Result (RatchetState P)) = .err .stateRollbackDetected

theorem supersedes_of_lt {earlier later : RatchetState P}
    (below : earlier.generation < later.generation) : Supersedes earlier later := by
  refine .inr ⟨below, ?_⟩
  intro entropy key context blob sealed
  rcases RatchetState.sealState_eq_ok.mp sealed with ⟨_, _, ciphertext, encrypted, rfl⟩
  have suiteEq := (sealCiphertext_eq_ok.mp encrypted).2.2.1
  exact RatchetState.restoreState_below_floor suiteEq (.inr rfl) below

theorem Supersedes.trans {first second third : RatchetState P}
    (earlier : Supersedes first second) (later : Supersedes second third) :
    Supersedes first third := by
  rcases earlier with rfl | ⟨below, _⟩
  · exact later
  · rcases later with rfl | ⟨above, _⟩
    · exact supersedes_of_lt below
    · exact supersedes_of_lt (UInt64.lt_trans below above)

/-- The generation versions the steps of a run exactly when no call in it commits
and fails, or commits at the last generation. Then all states of the run are ordered
by their generations, and floors reject what is older. -/
theorem run_versioned_iff {start final : RatchetState P}
    {transitions : List (Transition (RatchetState P) RatchetCall)}
    (run : Run CallStep start transitions final) :
    ((∀ transition ∈ transitions, Versioned transition.current transition.next) ↔
      ∀ transition ∈ transitions, ¬CommitsThenFails transition.current transition.event ∧
        ¬SaturatesVersion transition.current transition.event) ∧
    ((∀ transition ∈ transitions,
        ¬CommitsThenFails transition.current transition.event ∧
        ¬SaturatesVersion transition.current transition.event) →
      (Run.visited start transitions).Pairwise Supersedes) := by
  have stepwise : ∀ transition ∈ transitions,
      (Versioned transition.current transition.next ↔
        ¬CommitsThenFails transition.current transition.event ∧
        ¬SaturatesVersion transition.current transition.event) := by
    intro transition member
    have ended : transition.event.after transition.current = transition.next :=
      run.step_of_mem member
    rw [← ended]
    exact versioned_call_iff
  refine ⟨forall₂_congr stepwise, ?_⟩
  intro clean
  refine run.pairwise_visited (fun _ _ _ => Supersedes.trans) ?_
  intro transition member
  have versioned := (stepwise transition member).mpr (clean transition member)
  by_cases same : transition.next = transition.current
  · exact .inl same.symm
  · exact supersedes_of_lt (versioned.raised same)

/-- A run that changes the state with each call. -/
theorem run_versioned_delayed :
    (∀ transition ∈ concreteEndpoint.trace delayedCalls,
      Versioned transition.current transition.next) ∧
    (Run.visited concreteEndpoint (concreteEndpoint.trace delayedCalls)).Pairwise
      Supersedes := by
  rcases run_versioned_iff (concreteEndpoint.run_trace delayedCalls) with ⟨steps, ordered⟩
  have low : ∀ transition ∈ concreteEndpoint.trace delayedCalls,
      transition.current.generation.toNat + 1 ≠ UInt64.size ∧
        transition.current.sendingCount.toNat + 1 ≠ UInt32.size := by
    decide +kernel
  have clean : ∀ transition ∈ concreteEndpoint.trace delayedCalls,
      ¬CommitsThenFails transition.current transition.event ∧
        ¬SaturatesVersion transition.current transition.event := by
    intro transition member
    refine ⟨fun fails => ?_, fun saturates => (low transition member).1 saturates.1⟩
    have counted := (low transition member).2
    simp only [delayedCalls, RatchetState.trace, List.mem_cons, List.not_mem_nil,
      or_false] at member
    rcases member with rfl | rfl | rfl
    · cases fails with
      | decrypt _ _ full => exact absurd full (by decide)
    · cases fails with
      | encrypt _ _ full => exact counted full
    · cases fails with
      | decrypt _ _ full => exact absurd full (by decide)
  exact ⟨steps.mpr clean, ordered clean⟩

/-- Encrypting past the last number of a fresh endpoint changes the state under an
unchanged generation. -/
theorem exists_run_not_versioned :
    RatchetState.fromAuthenticatedHandshake concreteHandshake = .ok concreteEndpoint ∧
    ∃ transitions final, Run CallStep concreteEndpoint transitions final ∧
      ∃ transition ∈ transitions,
        ¬Versioned transition.current transition.next := by
  refine ⟨concreteEndpoint_fresh, ?_⟩
  rcases exists_run_to_exhaustion with ⟨transitions, last, next, run, ended, fails⟩
  refine ⟨_, _, run.snoc ended, _,
    List.mem_append_right _ (List.mem_singleton.mpr rfl), ?_⟩
  have ended' : _ = next := ended
  rw [← ended', versioned_call_iff]
  exact fun clean => clean.1 fails

end Mef26
