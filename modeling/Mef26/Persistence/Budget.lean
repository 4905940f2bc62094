import Mef26.Persistence.Host

namespace Mef26

/-! # The skipped-key budget

How many skipped keys one call derives, and that none of the counting on the way can
overflow, in every state a host can bring an endpoint to. -/

structure RangeCall (Key : Type) where
  chainKey : Key
  start : UInt32
  endExclusive : UInt32
  existingSkipped : Nat

section

variable {Key : Type} (P : Primitives Key)

def RangeCall.result (call : RangeCall Key) : Result (Key × SkippedKeys Key) :=
  deriveRange P call.chainKey call.start call.endExclusive call.existingSkipped

/-- The keys that the call derives. A range that is refused is refused before its loop. -/
def RangeCall.derived (call : RangeCall Key) : SkippedKeys Key :=
  match call.result P with
  | .ok (_, keys) => keys
  | _ => []

end

variable {Key : Type} {P : Primitives Key}

namespace RatchetState

def oldRangeCall (state : RatchetState P) (frame : InnerFrame) : RangeCall Key where
  chainKey := state.receivingChain
  start := state.receivingCount
  endExclusive := frame.header.previousChainLen
  existingSkipped := state.skipped.length

/-- The range of the new chain, which `decryptNewRatchet` comes to when all the steps
before it succeed. -/
def newRangeCall (entropy : Entropy) (frame : InnerFrame) (state : RatchetState P) :
    Result (RangeCall Key) := do
  let (_, oldSkipped) ← (state.oldRangeCall frame).result P
  let receiveOutput ← state.dhPair.diffieHellman frame.header.ratchetPublic
  let (rootAfterReceive, nextReceivingChain) ← rootStep P state.rootKey receiveOutput
  let nextPair : DhKeyPair P ← DhKeyPair.generate entropy
  let sendOutput ← nextPair.diffieHellman frame.header.ratchetPublic
  let _ ← rootStep P rootAfterReceive sendOutput
  let extraCapacity ← Outcome.okOr MefError.skippedKeyLimitExceeded
    (checkedAddSize state.skipped.length oldSkipped.length)
  return ⟨nextReceivingChain, 0, frame.header.messageNumber, extraCapacity⟩

def rangeCalls (entropy : Entropy) (frame : InnerFrame) (state : RatchetState P) :
    List (RangeCall Key) :=
  if frame.header.sessionId ≠ state.sessionId ∨ frame.suite ≠ state.suite then
    []
  else if frame.header.ratchetPublic = state.remoteDh then
    if frame.header.messageNumber < state.receivingCount then
      []
    else
      [⟨state.receivingChain, state.receivingCount, frame.header.messageNumber,
        state.skipped.length⟩]
  else
    state.oldRangeCall frame ::
      match newRangeCall entropy frame state with
      | .ok call => [call]
      | _ => []

/-- How many skipped keys one `decrypt` derives. -/
def derivedCount (entropy : Entropy) (frame : InnerFrame) (state : RatchetState P) : Nat :=
  ((rangeCalls entropy frame state).map fun call => (call.derived P).length).sum

structure BudgetKept (state : RatchetState P) : Prop where
  bounded : state.skipped.length ≤ maxSkippedKeys
  total (entropy : Entropy) (frame : InnerFrame) :
    state.skipped.length + derivedCount entropy frame state ≤ maxSkippedKeys
  /-- The total that a range is checked with never overflows. -/
  sums (entropy : Entropy) (frame : InnerFrame) : ∀ call ∈ rangeCalls entropy frame state,
    (checkedAddSize call.existingSkipped
      (call.endExclusive.toNat - call.start.toNat)).isSome
  /-- Nor does the total that the second range starts with. -/
  extra (frame : InnerFrame) (result : Key × SkippedKeys Key) :
    (state.oldRangeCall frame).result P = .ok result →
      (checkedAddSize state.skipped.length result.2.length).isSome
  /-- Where the second range succeeds, the message number has a successor. -/
  successor (entropy : Entropy) (frame : InnerFrame) (call : RangeCall Key)
    (result : Key × SkippedKeys Key) : newRangeCall entropy frame state = .ok call →
      call.result P = .ok result → (checkedAdd32 frame.header.messageNumber 1).isSome
  /-- No range subtracts below zero, and nothing else panics. -/
  total_call (entropy : Entropy) (frame : InnerFrame) :
    (decrypt entropy frame state).1 ≠ .panic
  counter (entropy : Entropy) (frame : InnerFrame) :
    (decryptNewRatchet entropy frame.header.ratchetPublic frame state).1 ≠
      .err .counterExhausted
  /-- A frame that is read leaves behind just the keys derived for it, or takes one away. -/
  retained (entropy : Entropy) (frame : InnerFrame) (plaintext : List UInt8) :
    (decrypt entropy frame state).1 = .ok plaintext →
      (decrypt entropy frame state).2.skipped.length =
          state.skipped.length + derivedCount entropy frame state ∨
        derivedCount entropy frame state = 0 ∧
          (decrypt entropy frame state).2.skipped.length + 1 = state.skipped.length

end RatchetState

/-! ## One range -/

theorem RangeCall.length_derived_le (call : RangeCall Key)
    (bounded : call.existingSkipped ≤ maxSkippedKeys) :
    call.existingSkipped + (call.derived P).length ≤ maxSkippedKeys := by
  unfold RangeCall.derived
  split
  · rename_i last keys derived
    rw [RangeCall.result, deriveRange_eq_ok] at derived
    rcases derived with ⟨fits, same⟩
    cases same
    rw [length_skippedRange]
    exact fits.2
  · exact bounded

theorem RangeCall.length_derived_of_fits (call : RangeCall Key)
    (fits : WithinBudget call.start call.endExclusive call.existingSkipped) :
    (call.derived P).length = call.endExclusive.toNat - call.start.toNat := by
  have derived : call.result P = .ok _ := deriveRange_of_le fits
  rw [RangeCall.derived, derived]
  exact length_skippedRange P _ _ _

theorem RangeCall.sum_fits (call : RangeCall Key)
    (bounded : call.existingSkipped ≤ maxSkippedKeys) :
    (checkedAddSize call.existingSkipped
      (call.endExclusive.toNat - call.start.toNat)).isSome := by
  have words := call.endExclusive.toNat_lt
  simp only [maxSkippedKeys] at bounded
  rw [checkedAddSize, if_pos (by omega)]
  rfl

namespace RatchetState

theorem newRangeCall_eq_ok {entropy : Entropy} {frame : InnerFrame} {state : RatchetState P}
    {call : RangeCall Key} (reached : newRangeCall entropy frame state = .ok call) :
    state.FitsBudget frame.header.previousChainLen ∧
      call = ⟨state.chainFrom frame.header.ratchetPublic, 0, frame.header.messageNumber,
        state.skipped.length + state.gapTo frame.header.previousChainLen⟩ := by
  simp only [newRangeCall, RangeCall.result, oldRangeCall, Outcome.bind_eq_ok,
    deriveRange_eq_ok, rootStep_eq, Outcome.ok.injEq, Outcome.okOr_eq_ok,
    DhKeyPair.diffieHellman_eq_ok] at reached
  rcases reached with ⟨_, ⟨fits, rfl⟩, _, ⟨_, rfl⟩, _, rfl, pair, _, _, _, _, _, extra, sum, same⟩
  refine ⟨fits, ?_⟩
  cases same
  rw [length_skippedRange] at sum
  rw [checkedAddSize_of_le fits.2] at sum
  rw [← Option.some.inj sum]
  rfl

theorem derivedCount_le {state : RatchetState P}
    (bounded : state.skipped.length ≤ maxSkippedKeys) (entropy : Entropy)
    (frame : InnerFrame) :
    state.skipped.length + derivedCount entropy frame state ≤ maxSkippedKeys := by
  have within (call : RangeCall Key) (fits : call.existingSkipped ≤ maxSkippedKeys) :
      call.existingSkipped + (call.derived P).length ≤ maxSkippedKeys :=
    call.length_derived_le fits
  unfold derivedCount rangeCalls
  split
  · exact bounded
  · split
    · split
      · exact bounded
      · exact within ⟨state.receivingChain, state.receivingCount, frame.header.messageNumber,
          state.skipped.length⟩ bounded
    · split
      · rename_i call reached
        rcases newRangeCall_eq_ok reached with ⟨fits, same⟩
        have oldKeys : ((state.oldRangeCall frame).derived P).length =
            state.gapTo frame.header.previousChainLen :=
          (state.oldRangeCall frame).length_derived_of_fits fits
        have newKeys := within call (by rw [same]; exact fits.2)
        rw [same] at newKeys ⊢
        simp only at newKeys
        simp only [List.map_cons, List.map_nil, List.sum_cons, List.sum_nil, oldKeys]
        omega
      · exact within (state.oldRangeCall frame) bounded

end RatchetState

/-! ## The counter -/

theorem deriveRange_ne_counterExhausted (chainKey : Key) (start endExclusive : UInt32)
    (existingSkipped : Nat) :
    deriveRange P chainKey start endExclusive existingSkipped ≠ .err .counterExhausted := by
  by_cases ordered : start.toNat ≤ endExclusive.toNat
  · by_cases budget : existingSkipped + (endExclusive.toNat - start.toNat) ≤ maxSkippedKeys
    · simp [deriveRange_of_le ⟨ordered, budget⟩]
    · simp [deriveRange_of_budget ordered (Nat.not_le.mp budget)]
  · simp [deriveRange_of_lt (Nat.not_le.mp ordered)]

theorem deriveForMessage_ne_counterExhausted (chainKey : Key)
    (currentCount target : UInt32) (existingSkipped : Nat) :
    deriveForMessage P chainKey currentCount target existingSkipped ≠
      .err .counterExhausted :=
  Outcome.bind_ne_err (deriveRange_ne_counterExhausted _ _ _ _) fun _ _ => by simp

theorem DhKeyPair.diffieHellman_ne_counterExhausted (pair : DhKeyPair P)
    (peer : DhPublicKey) : pair.diffieHellman peer ≠ .err .counterExhausted :=
  Outcome.bind_ne_err (Outcome.rejectIf_ne_err (by decide) _) fun _ _ => by simp

theorem DhKeyPair.generate_ne_counterExhausted (entropy : Entropy) :
    (DhKeyPair.generate entropy : Result (DhKeyPair P)) ≠ .err .counterExhausted :=
  Outcome.bind_ne_err (Outcome.okOr_ne_err (by decide) _) fun _ _ => by simp

theorem InnerFrame.openFrame_ne_counterExhausted (frame : InnerFrame) (key : Key) :
    frame.openFrame P key ≠ .err .counterExhausted := by
  simp only [openFrame, aad_eq, Outcome.ok_bind]
  exact Outcome.bind_ne_err (Outcome.rejectIf_ne_err (by decide) _) fun _ _ =>
    Outcome.okOr_ne_err (by decide) _

namespace RatchetState

/-- On the new-ratchet path the counter check is dead: a number past the budget was
refused before. -/
theorem decryptNewRatchet_ne_counterExhausted (entropy : Entropy) (frame : InnerFrame)
    (state : RatchetState P) :
    (decryptNewRatchet entropy frame.header.ratchetPublic frame state).1 ≠
      .err .counterExhausted := by
  unfold decryptNewRatchet
  rw [Update.read_bind_apply]
  apply Update.lift_bind_ne_err (deriveRange_ne_counterExhausted _ _ _ _)
  intro old _
  apply Update.lift_bind_ne_err (DhKeyPair.diffieHellman_ne_counterExhausted _ _)
  intro receiveOutput _
  apply Update.lift_bind_ne_err (by simp)
  intro roots _
  apply Update.lift_bind_ne_err (DhKeyPair.generate_ne_counterExhausted _)
  intro pair _
  apply Update.lift_bind_ne_err (DhKeyPair.diffieHellman_ne_counterExhausted _ _)
  intro sendOutput _
  apply Update.lift_bind_ne_err (by simp)
  intro nextRoots _
  apply Update.lift_bind_ne_err (Outcome.okOr_ne_err (by decide) _)
  intro extra _
  apply Update.lift_bind_ne_err (deriveForMessage_ne_counterExhausted _ _ _ _)
  intro derived reached
  rcases deriveForMessage_eq_ok.mp reached with ⟨⟨_, fits⟩, _⟩
  have room : frame.header.messageNumber.toNat + 1 < UInt32.size := by
    simp only [maxSkippedKeys, UInt32.size, UInt32.toNat_zero] at fits ⊢
    omega
  apply Update.lift_bind_ne_err (InnerFrame.openFrame_ne_counterExhausted _ _)
  intro plaintext _
  simp only [addSkipped, Update.modify_bind_apply, Update.lift_bind_apply, checkedAdd32_one,
    if_pos room, Outcome.okOr_some]
  simp [bumpGeneration]

theorem existingSkipped_le {state : RatchetState P}
    (bounded : state.skipped.length ≤ maxSkippedKeys) {entropy : Entropy}
    {frame : InnerFrame} {call : RangeCall Key}
    (member : call ∈ rangeCalls entropy frame state) :
    call.existingSkipped ≤ maxSkippedKeys := by
  unfold rangeCalls at member
  split at member
  · exact absurd member List.not_mem_nil
  · split at member
    · split at member
      · exact absurd member List.not_mem_nil
      · rw [List.mem_singleton.mp member]
        exact bounded
    · rcases List.mem_cons.mp member with old | later
      · rw [old]
        exact bounded
      · split at later
        · rename_i next reached
          rcases newRangeCall_eq_ok reached with ⟨fits, same⟩
          rw [List.mem_singleton.mp later, same]
          exact fits.2
        · exact absurd later List.not_mem_nil

/-! ## What a decryption retains -/

theorem newRangeCall_of_ready {entropy : Entropy} {frame : InnerFrame}
    {state : RatchetState P} {pair : DhKeyPair P}
    (ready : StepReady entropy frame.header state pair) :
    newRangeCall entropy frame state =
      .ok ⟨state.chainFrom frame.header.ratchetPublic, 0, frame.header.messageNumber,
        state.skipped.length + state.gapTo frame.header.previousChainLen⟩ := by
  have received := DhKeyPair.diffieHellman_eq_ok.mpr ⟨ready.receives, rfl⟩
  have sent := DhKeyPair.diffieHellman_eq_ok.mpr ⟨ready.sends, rfl⟩
  have total := checkedAddSize_of_le ready.fitsOld.2
  simp only [newRangeCall, RangeCall.result, oldRangeCall, deriveRange_of_le ready.fitsOld,
    Outcome.ok_bind, received, rootStep_eq, ready.generated, sent, length_skippedRange, total,
    Outcome.okOr_some]
  rfl

theorem length_afterNext {entropy : Entropy} {frame : InnerFrame} {state : RatchetState P}
    {pair : DhKeyPair P} {plaintext : List UInt8}
    (opens : OpensNext entropy state frame pair plaintext) :
    (state.afterNext pair frame.header).skipped.length =
      state.skipped.length + derivedCount entropy frame state := by
  have old := (state.oldRangeCall frame).length_derived_of_fits (P := P) opens.ready.fitsOld
  have new := RangeCall.length_derived_of_fits (P := P)
    ⟨state.chainFrom frame.header.ratchetPublic, 0, frame.header.messageNumber,
      state.skipped.length + state.gapTo frame.header.previousChainLen⟩
    ⟨Nat.zero_le _, opens.ready.fitsNew⟩
  rw [derivedCount, rangeCalls, if_neg opens.native.not_mismatch, if_neg opens.different,
    newRangeCall_of_ready opens.ready]
  simp only [List.map_cons, List.map_nil, List.sum_cons, List.sum_nil, old, new]
  simp only [afterNext, List.length_append, length_skippedTo, length_skippedEntries,
    length_skippedRange, oldRangeCall, UInt32.toNat_zero, gapTo]
  omega

theorem length_afterCurrent (entropy : Entropy) {frame : InnerFrame}
    {state : RatchetState P} {plaintext : List UInt8}
    (opens : state.OpensCurrent frame plaintext) :
    (state.afterCurrent frame.header.messageNumber).skipped.length =
      state.skipped.length + derivedCount entropy frame state := by
  have ahead : ¬frame.header.messageNumber < state.receivingCount :=
    UInt32.not_lt.mpr (UInt32.le_iff_toNat_le.mpr opens.fits.1)
  have derived := RangeCall.length_derived_of_fits (P := P)
    ⟨state.receivingChain, state.receivingCount, frame.header.messageNumber,
      state.skipped.length⟩ opens.fits
  rw [derivedCount, rangeCalls, if_neg opens.native.not_mismatch, if_pos opens.same,
    if_neg ahead]
  simp only [List.map_cons, List.map_nil, List.sum_cons, List.sum_nil, derived]
  simp only [afterCurrent, List.length_append, length_skippedTo, gapTo]
  omega

theorem derivedCount_of_retained (entropy : Entropy) {frame : InnerFrame}
    {state : RatchetState P} {index : Nat} {entry : SkippedMessageKey Key}
    {plaintext : List UInt8} (opens : state.OpensRetained frame index entry plaintext) :
    derivedCount entropy frame state = 0 := by
  rw [derivedCount, rangeCalls, if_neg opens.native.not_mismatch, if_pos opens.same,
    if_pos (UInt32.lt_iff_toNat_lt.mpr opens.passed)]
  rfl

theorem length_after_of_ok {entropy : Entropy} {frame : InnerFrame}
    {state after : RatchetState P} {plaintext : List UInt8}
    (decrypts : Decrypts entropy frame state (.ok plaintext) after) :
    after.skipped.length = state.skipped.length + derivedCount entropy frame state ∨
      derivedCount entropy frame state = 0 ∧
        after.skipped.length + 1 = state.skipped.length := by
  cases decrypts with
  | retained index entry _ opens =>
      refine .inr ⟨derivedCount_of_retained entropy opens, ?_⟩
      exact List.length_eraseIdx_add_one (List.getElem?_eq_some_iff.mp opens.element).1
  | current _ opens => exact .inl (length_afterCurrent entropy opens)
  | next pair _ opens => exact .inl (length_afterNext opens)

theorem budgetKept_of_bounded {state : RatchetState P}
    (bounded : state.SkippedBounded) : state.BudgetKept where
  bounded := bounded
  total := derivedCount_le bounded
  sums entropy frame call member := call.sum_fits (existingSkipped_le bounded member)
  extra frame result reached := by
    rcases deriveRange_eq_ok.mp reached with ⟨fits, rfl⟩
    have sum : checkedAddSize state.skipped.length
        (state.gapTo frame.header.previousChainLen) = some _ := checkedAddSize_of_le fits.2
    rw [length_skippedRange]
    exact Option.isSome_of_eq_some sum
  successor entropy frame call result reached derived := by
    rw [(newRangeCall_eq_ok reached).2] at derived
    rcases deriveRange_eq_ok.mp derived with ⟨⟨_, fits⟩, _⟩
    have room : frame.header.messageNumber.toNat + 1 < UInt32.size := by
      simp only [maxSkippedKeys, UInt32.size, UInt32.toNat_zero] at fits ⊢
      omega
    rw [checkedAdd32_one, if_pos room]
    rfl
  total_call entropy frame := by
    generalize called : decrypt entropy frame state = outcome
    rcases outcome with ⟨result, after⟩
    cases decrypt_spec called <;> simp
  counter entropy frame := decryptNewRatchet_ne_counterExhausted entropy frame state
  retained entropy frame plaintext read :=
    length_after_of_ok (decrypt_spec (Prod.ext read rfl))

end RatchetState

/-- The budget is kept in every state that calls on arbitrary frames and restarts from
arbitrary records lead to. -/
theorem run_budgetKept {P : Primitives (FixedBytes 32)}
    {handshake : AuthenticatedHandshake P} {suite : AeadSuite} {start final : RatchetState P}
    (started : RatchetState.fromAuthenticatedHandshakeWithSuite handshake suite = .ok start)
    {transitions : List (Transition (RatchetState P) HostEvent)}
    (run : Run HostStep start transitions final) : final.BudgetKept := by
  have bounded : final.SkippedBounded := by
    refine run.invariant ?_ ?_
    · rw [RatchetState.fromAuthenticatedHandshakeWithSuite_eq] at started
      rw [← Outcome.ok.inj started]
      exact Nat.zero_le _
    · intro current event next step bounded
      cases step with
      | call _ call ended =>
          rw [← (ended : call.after current = next)]
          exact RatchetCall.skippedBounded_after call bounded
      | restore _ key context floor blob accepted =>
          rcases RatchetState.restoreState_eq_ok.mp accepted
            with ⟨_, _, _, _, _, _, _, _, _, _, decoded⟩
          exact (RatchetState.distinct_of_decodeState decoded).2
  exact RatchetState.budgetKept_of_bounded bounded

/-- A frame that skips a number keeps the budget. -/
theorem run_budgetKept_skipped :
    ((RatchetCall.decrypt (constantEntropy 7)
      (InnerFrame.empty (.replicate 32 4) 0 1 3)).after concreteEndpoint).BudgetKept :=
  run_budgetKept concreteEndpoint_fresh (.cons (.call _ _ _ rfl) (.nil _))

end Mef26
