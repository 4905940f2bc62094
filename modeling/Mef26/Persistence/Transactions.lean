import Mef26.Persistence.Host

namespace Mef26

/-! # Failing calls

A call that reports an error should leave the endpoint as it was. Every exit does,
except the counter checks that come after a chain was advanced. -/

variable {P : Primitives (FixedBytes 32)}

/-- A failing call leaves every field as it was. -/
def Transactional (transition : Transition (RatchetState P) HostEvent) : Prop :=
  ∀ call error, transition.event = .call call →
    call.result transition.current = .err error → transition.next = transition.current

/-- The calls that report an exhausted counter after they have moved a chain. -/
inductive CommitsThenFails (state : RatchetState P) : RatchetCall → Prop
  | encrypt {entropy : Entropy} {kind : FrameKind} {plaintext : List UInt8}
      (frame : InnerFrame) (sealed : state.sealNext entropy kind plaintext = .ok frame)
      (full : state.sendingCount.toNat + 1 = UInt32.size)
      (moves : chainNext P state.sendingChain ≠ state.sendingChain) :
      CommitsThenFails state (.encrypt entropy kind plaintext)
  | decrypt {entropy : Entropy} {frame : InnerFrame} (plaintext : List UInt8)
      (opens : state.OpensCurrent frame plaintext)
      (full : frame.header.messageNumber.toNat + 1 = UInt32.size)
      (moves : chainAt P state.receivingChain
        (state.gapTo frame.header.messageNumber + 1) ≠ state.receivingChain) :
      CommitsThenFails state (.decrypt entropy frame)

theorem commitsThenFails_iff {state : RatchetState P} {call : RatchetCall} :
    CommitsThenFails state call ↔
      ∃ after, RatchetCall.Exhausts state call after ∧ after ≠ state := by
  constructor
  · intro either
    rcases either with ⟨frame, sealed, full, moves⟩ | ⟨plaintext, opens, full, moves⟩
    · exact ⟨_, .encrypt frame sealed full,
        fun same => moves (congrArg RatchetState.sendingChain same)⟩
    · exact ⟨_, .decrypt plaintext opens full,
        fun same => moves (congrArg RatchetState.receivingChain same)⟩
  · intro holds
    rcases holds with ⟨_, ⟨frame, sealed, full⟩ | ⟨plaintext, opens, full⟩, moves⟩
    · refine .encrypt frame sealed full fun fixed => moves ?_
      rw [RatchetState.afterSendingExhausted, fixed]
    · refine .decrypt plaintext opens full fun fixed => moves ?_
      rw [RatchetState.afterExhausted, fixed]

theorem failing_call_unchanged_iff {state : RatchetState P} {call : RatchetCall} :
    (∀ error, call.result state = .err error → call.after state = state) ↔
      ¬CommitsThenFails state call := by
  rw [commitsThenFails_iff]
  constructor
  · intro unchanged holds
    rcases holds with ⟨after, exhausts, moved⟩
    rcases RatchetCall.result_of_exhausts exhausts with ⟨failed, rfl⟩
    exact moved (unchanged _ failed)
  · intro clean error failed
    cases call.ends state with
    | commits reply replied _ =>
        rw [replied] at failed
        cases failed
    | exhausts _ moved =>
        by_contra changed
        exact clean ⟨_, moved, changed⟩
    | refused _ _ unchanged => exact unchanged

theorem transactional_step_iff {current next : RatchetState P} {event : HostEvent}
    (step : HostStep current event next) :
    Transactional ⟨current, event, next⟩ ↔
      ∀ call, event = .call call → ¬CommitsThenFails current call := by
  cases step with
  | restore => simp [Transactional]
  | call _ call ended =>
      subst ended
      simp only [Transactional, HostEvent.call.injEq, forall_eq']
      rw [← failing_call_unchanged_iff]
      constructor
      · intro transactional error
        exact transactional call error rfl
      · intro unchanged _ error same
        subst same
        exact unchanged error

/-- A run is transactional exactly when no call in it runs into the end of a
counter. -/
theorem run_transactional_iff {start final : RatchetState P}
    {transitions : List (Transition (RatchetState P) HostEvent)}
    (run : Run HostStep start transitions final) :
    (∀ transition ∈ transitions, Transactional transition) ↔
      ∀ transition ∈ transitions, ∀ call, transition.event = .call call →
        ¬CommitsThenFails transition.current call := by
  constructor
  · intro transactional transition member
    exact (transactional_step_iff (run.step_of_mem member)).mp (transactional _ member)
  · intro clean transition member
    exact (transactional_step_iff (run.step_of_mem member)).mpr (clean _ member)

def refusedRotation : Transition (RatchetState Primitives.concrete) HostEvent where
  current := concreteEndpoint
  event := .call (.rotateSendingRatchet failingEntropy)
  next := concreteEndpoint

theorem run_transactional_iff_refused :
    (∀ transition ∈ [refusedRotation], Transactional transition) ↔
      ∀ transition ∈ [refusedRotation], ∀ call, transition.event = .call call →
        ¬CommitsThenFails transition.current call :=
  run_transactional_iff (.cons (.call _ _ _ rfl) (.nil _))

theorem exists_run_to_exhaustion :
    ∃ transitions last next, Run CallStep concreteEndpoint transitions last ∧
      CallStep last (.encrypt (constantEntropy 0) .message []) next ∧
      CommitsThenFails last (.encrypt (constantEntropy 0) .message []) := by
  have empty : ([] : List UInt8).length ≤ InnerFrame.maxPlaintextLen := Nat.zero_le _
  obtain ⟨transitions, last, run, counted⟩ := exists_run_of_encrypts
    Primitives.lawfulAead_concrete Primitives.totalAead_concrete
    (fun _ => rfl : ∀ size, (constantEntropy 0 size).isSome) .message empty
    concreteEndpoint (UInt32.size - 1) (by decide)
  obtain ⟨nonce, drawn⟩ : ∃ nonce, constantEntropy 0 last.suite.nonceLen = some nonce :=
    ⟨_, rfl⟩
  rcases InnerFrame.exists_sealFrame Primitives.lawfulAead_concrete
    Primitives.totalAead_concrete (messageKeyOf Primitives.concrete last.sendingChain)
    (last.nextHeader .message) drawn empty with ⟨frame, sealed⟩
  have full : last.sendingCount.toNat + 1 = UInt32.size := counted ▸ by decide
  exact ⟨transitions, last, _, run, rfl,
    .encrypt frame sealed full (chainNext_concrete_ne _)⟩

/-- Encrypting past the last number of a fresh endpoint fails with its chain moved
on. -/
theorem exists_run_not_transactional :
    RatchetState.fromAuthenticatedHandshake concreteHandshake = .ok concreteEndpoint ∧
    ∃ transitions final, Run HostStep concreteEndpoint transitions final ∧
      ∃ transition ∈ transitions, ¬Transactional transition := by
  refine ⟨concreteEndpoint_fresh, ?_⟩
  rcases exists_run_to_exhaustion with ⟨transitions, last, next, run, ended, fails⟩
  have step : HostStep last _ next := .call _ _ _ ended
  refine ⟨_, _, (run.map .call fun _ _ _ => .call _ _ _).snoc step, _,
    List.mem_append_right _ (List.mem_singleton.mpr rfl), ?_⟩
  rw [transactional_step_iff step]
  intro clean
  exact clean _ rfl fails

end Mef26
