import Mef26.Persistence.Host

namespace Mef26

/-! # Snapshots of reachable states

Sealing does not look at the retained keys, but restoring refuses two of them in one
slot. Which states survive a restart is therefore a question about slots. -/

variable {P : Primitives (FixedBytes 32)}

/-- Every admissible snapshot of the state restores to the very state. -/
def RoundTrips (state : RatchetState P) : Prop :=
  ∀ entropy key context floor, (entropy AeadSuite.xChaCha20Poly1305.nonceLen).isSome →
    RatchetState.ContextFits context → floor ≤ state.generation →
    ∃ blob, state.sealState entropy key context = .ok blob ∧
      RatchetState.restoreState key context floor blob = .ok state

theorem stateBytes_fits {state : RatchetState P} (bounded : state.SkippedBounded) :
    state.stateBytes.length ≤ maxCiphertextLen - aeadTagLen := by
  rw [RatchetState.length_stateBytes]
  simp only [RatchetState.SkippedBounded, maxSkippedKeys, plaintextFixedLenV2, plaintextFixedLenV1,
    maxCiphertextLen, aeadTagLen] at bounded ⊢
  omega

theorem restoreState_of_sealState (aead : P.LawfulAead) {state : RatchetState P}
    {entropy : Entropy} {key : StateSealKey} {context blob : List UInt8} {floor : UInt64}
    (sealed : state.sealState entropy key context = .ok blob)
    (floorLe : floor ≤ state.generation) (distinct : state.DistinctSlots) :
    RatchetState.restoreState key context floor blob = .ok state := by
  rcases RatchetState.sealState_eq_ok.mp sealed
      with ⟨fits, bounded, ciphertext, encrypted, rfl⟩
  have suiteEq := (sealCiphertext_eq_ok.mp encrypted).2.2.1
  exact RatchetState.restoreState_eq_ok.mpr ⟨stateVersion, state.generation, ciphertext,
    state.stateBytes, rfl, suiteEq, .inr rfl, floorLe, fits,
    openCiphertext_of_seal aead encrypted,
    RatchetState.decodeState_eq_ok.mpr ⟨rfl, rfl, bounded, distinct⟩⟩

theorem exists_sealState (aead : P.LawfulAead) (total : P.TotalAead)
    {state : RatchetState P} (bounded : state.SkippedBounded) {entropy : Entropy}
    (key : StateSealKey) {context : List UInt8}
    (available : (entropy AeadSuite.xChaCha20Poly1305.nonceLen).isSome)
    (fits : RatchetState.ContextFits context) :
    ∃ blob, state.sealState entropy key context = .ok blob := by
  rcases Option.isSome_iff_exists.mp available with ⟨nonce, drawn⟩
  have aadBound :
      (RatchetState.aadLabel stateVersion ++ context).length ≤ maxAadLen := by
    rw [List.length_append, RatchetState.length_aadLabel]
    exact fits
  rcases exists_sealCiphertext aead total key drawn aadBound
    (stateBytes_fits bounded) with ⟨ciphertext, encrypted⟩
  exact ⟨_, RatchetState.sealState_eq_ok.mpr ⟨fits, bounded, ciphertext, encrypted, rfl⟩⟩

/-- Within the bound on retained keys, the slots decide. -/
theorem roundTrips_iff_distinctSlots (aead : P.LawfulAead) (total : P.TotalAead)
    {state : RatchetState P} (bounded : state.SkippedBounded) :
    RoundTrips state ↔ state.DistinctSlots := by
  constructor
  · intro trips
    have fits : RatchetState.ContextFits [] := by
      simp only [RatchetState.ContextFits, List.length_nil]
      decide
    rcases trips (constantEntropy 0) (.replicate 32 0) [] 0 rfl fits
      (UInt64.zero_le) with ⟨blob, _, restored⟩
    rcases RatchetState.restoreState_eq_ok.mp restored
        with ⟨_, _, _, _, _, _, _, _, _, _, decoded⟩
    exact (RatchetState.distinct_of_decodeState decoded).1
  · intro distinct entropy key context floor available fits floorLe
    rcases exists_sealState aead total bounded key available fits with ⟨blob, sealed⟩
    exact ⟨blob, sealed, restoreState_of_sealState aead sealed floorLe distinct⟩

theorem skipped_of_handshake {handshake : AuthenticatedHandshake P} {suite : AeadSuite}
    {state : RatchetState P}
    (started : RatchetState.fromAuthenticatedHandshakeWithSuite handshake suite =
      .ok state) : state.skipped = [] := by
  simp only [RatchetState.fromAuthenticatedHandshakeWithSuite, Outcome.bind_eq_ok] at started
  rcases started with ⟨_, _, _, _, built⟩
  cases built
  rfl

/-- The states a run from a handshake visits all survive a restart exactly when no
frame accepted in it repeats a slot. -/
theorem run_roundTrips_iff (aead : P.LawfulAead) (total : P.TotalAead)
    {handshake : AuthenticatedHandshake P} {suite : AeadSuite}
    {start final : RatchetState P}
    (started : RatchetState.fromAuthenticatedHandshakeWithSuite handshake suite =
      .ok start)
    {transitions : List (Transition (RatchetState P) RatchetCall)}
    (run : Run CallStep start transitions final) :
    (∀ state ∈ Run.visited start transitions, RoundTrips state) ↔
      ∀ transition ∈ transitions,
        ¬RatchetCall.RepeatsSlot transition.current transition.event := by
  have empty := skipped_of_handshake started
  have bounded : ∀ state ∈ Run.visited start transitions, state.SkippedBounded := by
    refine run.invariant_visited ?_ ?_
    · rw [RatchetState.SkippedBounded, empty]
      exact Nat.zero_le _
    · intro current call _ same
      subst same
      exact RatchetCall.skippedBounded_after call
  have distinct : start.DistinctSlots := by
    rw [RatchetState.DistinctSlots, empty]
    exact List.nodup_nil
  rw [← run.valid_visited_iff distinct]
  · exact forall₂_congr fun state member =>
      roundTrips_iff_distinctSlots aead total (bounded state member)
  · intro transition member valid
    have ended : transition.event.after transition.current = transition.next :=
      run.step_of_mem member
    rw [← ended]
    exact RatchetCall.distinctSlots_after_iff valid

/-- Also while a key is retained for the delayed frame. -/
theorem run_roundTrips_delayed :
    (∃ state ∈ Run.visited concreteEndpoint (concreteEndpoint.trace delayedCalls),
      state.skipped.length = 1) ∧
    ∀ state ∈ Run.visited concreteEndpoint (concreteEndpoint.trace delayedCalls),
      RoundTrips state := by
  refine ⟨by decide +kernel, (run_roundTrips_iff Primitives.lawfulAead_concrete
    Primitives.totalAead_concrete concreteEndpoint_fresh
    (concreteEndpoint.run_trace delayedCalls)).mpr ?_⟩
  intro transition member repeats
  simp only [delayedCalls, RatchetState.trace, List.mem_cons, List.not_mem_nil,
    or_false] at member
  rcases member with rfl | rfl | rfl
  · cases repeats with
    | current _ _ _ retained =>
        rcases retained with ⟨entry, member, _⟩
        exact List.not_mem_nil member
    | next _ _ opens => exact opens.different rfl
  · cases repeats
  · cases repeats with
    | current _ opens => exact absurd opens.fits.1 (by decide +kernel)
    | next _ _ opens => exact opens.different (by decide +kernel)

/-- The peer of `concreteEndpoint` holds the session keys and numbers its frames as it
likes. It skips number 0 of its first ratchet key, changes to another key, comes
back to the first one and skips its number 0 again. -/
def hostileCalls : List RatchetCall :=
  [.decrypt (constantEntropy 7) (InnerFrame.empty (.replicate 32 4) 0 1 3),
    .decrypt (constantEntropy 8) (InnerFrame.empty (.replicate 32 5) 2 0 3),
    .decrypt (constantEntropy 9) (InnerFrame.empty (.replicate 32 4) 1 1 6)]

/-- The endpoint accepts all of it and is left with two keys in one slot. -/
theorem exists_run_not_roundTrips :
    RatchetState.fromAuthenticatedHandshake concreteHandshake = .ok concreteEndpoint ∧
    ∃ transitions final, Run CallStep concreteEndpoint transitions final ∧
      ¬RoundTrips final := by
  have run := concreteEndpoint.run_trace hostileCalls
  refine ⟨concreteEndpoint_fresh, _, _, run, ?_⟩
  rw [roundTrips_iff_distinctSlots Primitives.lawfulAead_concrete
    Primitives.totalAead_concrete
    (RatchetCall.skippedBounded_of_run run (Nat.zero_le _))]
  unfold RatchetState.DistinctSlots
  decide +kernel

end Mef26
