import Mef26.Persistence.Host

namespace Mef26

/-! # Batch derivation and single stepping

A batch of keys is what the single step yields when it is applied again and again,
whether the steps are taken at once, in several batches, or by a sender that
encrypts one frame after another. -/

variable {Key : Type}

def ChainStep (P : Primitives Key) (chainKey messageKey next : Key) : Prop :=
  chainStep P chainKey = .ok (next, messageKey)

def chainTrace (P : Primitives Key) (chainKey : Key) (count : Nat) :
    List (Transition Key Key) :=
  (List.range count).map fun step =>
    ⟨chainAt P chainKey step, messageKeyAt P chainKey step, chainAt P chainKey (step + 1)⟩

variable {P : Primitives Key} {chainKey : Key}

theorem chainStep_iff {messageKey next : Key} :
    ChainStep P chainKey messageKey next ↔
      next = chainNext P chainKey ∧ messageKey = messageKeyOf P chainKey := by
  rw [ChainStep, chainStep_eq, Outcome.ok.injEq, Prod.mk.injEq]
  exact and_congr eq_comm eq_comm

@[simp] theorem length_chainTrace (count : Nat) :
    (chainTrace P chainKey count).length = count := by
  simp [chainTrace]

theorem run_chainTrace (count : Nat) :
    Run (ChainStep P) chainKey (chainTrace P chainKey count) (chainAt P chainKey count) := by
  induction count with
  | zero => exact .nil _
  | succ count induction =>
      have next : ChainStep P (chainAt P chainKey count) (messageKeyAt P chainKey count)
          (chainAt P chainKey (count + 1)) :=
        chainStep_iff.mpr ⟨chainAt_succ P chainKey count, rfl⟩
      rw [chainTrace, List.range_succ, List.map_append]
      exact induction.snoc next

theorem run_chainStep {steps : List (Transition Key Key)} {last : Key}
    (run : Run (ChainStep P) chainKey steps last) :
    steps = chainTrace P chainKey steps.length ∧ last = chainAt P chainKey steps.length := by
  refine run.deterministic ?_ (run_chainTrace steps.length) (length_chainTrace _).symm
  intro current event next event' next' taken taken'
  rcases chainStep_iff.mp taken with ⟨rfl, rfl⟩
  rcases chainStep_iff.mp taken' with ⟨rfl, rfl⟩
  exact ⟨rfl, rfl⟩

theorem numbered_skippedRange {start : UInt32} {count : Nat}
    (small : start.toNat + count ≤ UInt32.size) :
    (skippedRange P chainKey start count).map (fun entry => (entry.1.toNat, entry.2)) =
      (List.range' start.toNat count).zip
        ((chainTrace P chainKey count).map Transition.event) := by
  have numbers : List.range' start.toNat count =
      (List.range count).map fun offset => start.toNat + offset := by
    rw [List.range'_eq_map_range]
  have keys : (chainTrace P chainKey count).map Transition.event =
      (List.range count).map fun offset => messageKeyAt P chainKey offset := by
    simp [chainTrace]
  rw [numbers, keys, List.zip_map', skippedRange, List.map_map]
  apply List.map_congr_left
  intro offset member
  have inside := List.mem_range.mp member
  simp only [Function.comp_apply, Prod.mk.injEq, and_true]
  rw [UInt32.toNat_add, UInt32.toNat_ofNat_of_lt' (by omega)]
  exact Nat.mod_eq_of_lt (by simp only [UInt32.size] at small; omega)

/-! ## Several batches -/

theorem skippedRange_add (start : UInt32) (first second : Nat) :
    skippedRange P chainKey start (first + second) =
      skippedRange P chainKey start first ++
        skippedRange P (chainAt P chainKey first) (start + .ofNat first) second := by
  simp only [skippedRange, List.range_add, List.map_append, List.map_map]
  congr 1
  apply List.map_congr_left
  intro offset _
  simp only [Function.comp_apply, messageKeyAt_chainAt, UInt32.ofNat_add, UInt32.add_assoc]

/-- Two batches in a row are one batch. The second one counts the keys of the first. -/
theorem deriveRange_add {start middle endExclusive : UInt32} (existingSkipped : Nat)
    (first : start.toNat ≤ middle.toNat) (second : middle.toNat ≤ endExclusive.toNat) :
    (do let (middleChain, before) ← deriveRange P chainKey start middle existingSkipped
        let (last, after) ← deriveRange P middleChain middle endExclusive
          (existingSkipped + before.length)
        return (last, before ++ after)) =
      deriveRange P chainKey start endExclusive existingSkipped := by
  have parts : endExclusive.toNat - start.toNat =
      (middle.toNat - start.toNat) + (endExclusive.toNat - middle.toNat) := by omega
  by_cases fitsFirst : existingSkipped + (middle.toNat - start.toNat) ≤ maxSkippedKeys
  · rw [deriveRange_of_le ⟨first, fitsFirst⟩]
    simp only [Outcome.ok_bind, length_skippedRange]
    by_cases fits : existingSkipped + (endExclusive.toNat - start.toNat) ≤ maxSkippedKeys
    · have reached : start + .ofNat (middle.toNat - start.toNat) = middle := by
        rw [← UInt32.toNat_sub_of_le _ _ (UInt32.le_iff_toNat_le.mpr first),
          UInt32.ofNat_toNat, UInt32.add_comm, UInt32.sub_add_cancel]
      rw [deriveRange_of_le ⟨second, by omega⟩, deriveRange_of_le ⟨by omega, fits⟩, parts,
        chainAt_add, skippedRange_add, reached]
      rfl
    · rw [deriveRange_of_budget second (by omega), deriveRange_of_budget (by omega) (by omega)]
      rfl
  · rw [deriveRange_of_budget first (by omega), deriveRange_of_budget (by omega) (by omega)]
    rfl

/-! ## A sender that encrypts one frame after another -/

/-- The call seals its frame. Only the counter can still make it fail. -/
def Seals (state : RatchetState P) (call : RatchetCall) (frame : InnerFrame) : Prop :=
  ∃ entropy kind plaintext, call = .encrypt entropy kind plaintext ∧
    state.sealNext entropy kind plaintext = .ok frame

theorem Seals.after {state : RatchetState P} {call : RatchetCall} {frame : InnerFrame}
    (seals : Seals state call frame) :
    (call.after state).sendingChain = chainNext P state.sendingChain ∧
      (state.sendingCount.toNat + 1 < UInt32.size →
        (call.after state).sendingCount.toNat = state.sendingCount.toNat + 1) := by
  rcases seals with ⟨entropy, kind, plaintext, rfl, sealed⟩
  by_cases room : state.sendingCount.toNat + 1 < UInt32.size
  · rw [RatchetCall.after, RatchetState.encrypt_of_sealed sealed room]
    exact ⟨rfl, fun _ => toNat_add_one room⟩
  · have bound := state.sendingCount.toNat_lt
    have full : state.sendingCount.toNat + 1 = UInt32.size := by
      simp only [UInt32.size] at room ⊢
      omega
    rw [RatchetCall.after, RatchetState.encrypt_of_exhausted sealed full]
    exact ⟨rfl, fun room' => absurd room' room⟩

theorem sendingChain_of_seals {start final : RatchetState P}
    {calls : List (Transition (RatchetState P) RatchetCall)}
    (run : Run CallStep start calls final)
    (seals : ∀ call ∈ calls, ∃ frame, Seals call.current call.event frame) :
    final.sendingChain = chainAt P start.sendingChain calls.length := by
  have steps : ∀ call ∈ calls, CallStep call.current call.event call.next →
      ChainStep P call.current.sendingChain (messageKeyOf P call.current.sendingChain)
        call.next.sendingChain := by
    intro call member taken
    rcases seals call member with ⟨frame, sealed⟩
    have next := sealed.after.1
    rw [show call.event.after call.current = call.next from taken] at next
    exact chainStep_iff.mpr ⟨next, rfl⟩
  have single := run_chainStep (run.image RatchetState.sendingChain
    (fun state _ => messageKeyOf P state.sendingChain) steps)
  rw [List.length_map] at single
  exact single.2

theorem sendingCount_of_seals {start final : RatchetState P}
    {calls : List (Transition (RatchetState P) RatchetCall)}
    (run : Run CallStep start calls final)
    (seals : ∀ call ∈ calls, ∃ frame, Seals call.current call.event frame)
    (room : start.sendingCount.toNat + calls.length < UInt32.size) :
    final.sendingCount.toNat = start.sendingCount.toNat + calls.length := by
  induction run with
  | nil => rfl
  | @cons current event middle rest final taken run induction =>
      rcases seals ⟨current, event, middle⟩ (List.mem_cons_self ..) with ⟨frame, sealed⟩
      rw [List.length_cons] at room ⊢
      have counted : middle.sendingCount.toNat = current.sendingCount.toNat + 1 := by
        have next := sealed.after.2
        rw [show event.after current = middle from taken] at next
        exact next (by simp only; omega)
      rw [induction (fun call member => seals call (List.mem_cons_of_mem _ member)) (by omega)]
      omega

/-- The last of some calls takes the given message key from its chain and seals a frame of the
given number under it, which `encrypt` returns unless the counter is at its end. -/
def SealsLast (calls : List (Transition (RatchetState P) RatchetCall)) (messageKey : Key)
    (number : UInt32) : Prop :=
  ∃ before last entropy kind plaintext frame, calls = before ++ [last] ∧
    last.event = .encrypt entropy kind plaintext ∧
    messageKey = messageKeyOf P last.current.sendingChain ∧
    InnerFrame.sealFrame P entropy messageKey last.current.suite
      (last.current.nextHeader kind) plaintext = .ok frame ∧
    frame.header.messageNumber = number ∧
    (RatchetState.encrypt entropy kind plaintext last.current).1 =
      if number.toNat + 1 < UInt32.size then .ok frame else .err .counterExhausted

/-- A sender at `start` that seals one frame after another up to the target reaches the
target's key and the chain after it. -/
theorem sealsLast_of_deriveForMessage {target : UInt32} {existingSkipped : Nat}
    {nextChain messageKey : Key} {skipped : SkippedKeys Key} {sender final : RatchetState P}
    {calls : List (Transition (RatchetState P) RatchetCall)}
    (derived : deriveForMessage P sender.sendingChain sender.sendingCount target
      existingSkipped = .ok (nextChain, messageKey, skipped))
    (run : Run CallStep sender calls final)
    (seals : ∀ call ∈ calls, ∃ frame, Seals call.current call.event frame)
    (count : calls.length = target.toNat - sender.sendingCount.toNat + 1) :
    final.sendingChain = nextChain ∧ SealsLast calls messageKey target := by
  rcases deriveForMessage_eq_ok.mp derived with ⟨⟨ordered, _⟩, same⟩
  cases same
  refine ⟨by rw [sendingChain_of_seals run seals, count], ?_⟩
  rcases List.eq_nil_or_concat calls with rfl | ⟨before, last, rfl⟩
  · simp at count
  rw [List.concat_eq_append] at run seals count ⊢
  have earlier : before.length = target.toNat - sender.sendingCount.toNat := by
    simpa using count
  have sealsBefore : ∀ call ∈ before, ∃ frame, Seals call.current call.event frame :=
    fun call member => seals call (List.mem_append_left _ member)
  rcases run.around with ⟨prior, _, _⟩
  have chain := sendingChain_of_seals prior sealsBefore
  have bound := target.toNat_lt
  have number := sendingCount_of_seals prior sealsBefore (by
    simp only [UInt32.size]
    omega)
  rcases seals last (List.mem_append_right _ (List.mem_singleton_self _))
    with ⟨frame, entropy, kind, plaintext, isEncrypt, sealed⟩
  have reached : last.current.sendingCount = target := by
    apply UInt32.toNat_inj.mp
    rw [number, earlier]
    omega
  have key : messageKeyAt P sender.sendingChain (target.toNat - sender.sendingCount.toNat) =
      messageKeyOf P last.current.sendingChain := by
    rw [chain, earlier, messageKeyAt]
  refine ⟨before, last, entropy, kind, plaintext, frame, rfl, isEncrypt, key, ?_, ?_, ?_⟩
  · rw [key]
    exact sealed
  · rw [(InnerFrame.sealFrame_eq_ok.mp sealed).1]
    exact reached
  · rw [← reached]
    exact RatchetState.encrypt_result_of_sealed sealed

/-! ## The refinement -/

theorem exists_deriveRange_iff {start endExclusive : UInt32} {existingSkipped : Nat} :
    (∃ result, deriveRange P chainKey start endExclusive existingSkipped = .ok result) ↔
      WithinBudget start endExclusive existingSkipped := by
  constructor
  · intro succeeds
    rcases succeeds with ⟨result, derived⟩
    exact (deriveRange_eq_ok.mp derived).1
  · intro fits
    exact ⟨_, deriveRange_of_le fits⟩

theorem exists_deriveForMessage_iff {start target : UInt32} {existingSkipped : Nat} :
    (∃ result, deriveForMessage P chainKey start target existingSkipped = .ok result) ↔
      WithinBudget start target existingSkipped := by
  constructor
  · intro succeeds
    rcases succeeds with ⟨result, derived⟩
    exact (deriveForMessage_eq_ok.mp derived).1
  · intro fits
    exact ⟨_, deriveForMessage_of_fits chainKey fits⟩

theorem run_of_deriveRange {start endExclusive : UInt32} {existingSkipped : Nat}
    {last : Key} {skipped : SkippedKeys Key}
    (derived : deriveRange P chainKey start endExclusive existingSkipped =
      .ok (last, skipped)) :
    ∃ steps, Run (ChainStep P) chainKey steps last ∧
      steps.length = endExclusive.toNat - start.toNat ∧
      skipped.map (fun entry => (entry.1.toNat, entry.2)) =
        (List.range' start.toNat (endExclusive.toNat - start.toNat)).zip
          (steps.map Transition.event) := by
  rcases deriveRange_eq_ok.mp derived with ⟨⟨ordered, _⟩, same⟩
  cases same
  have bound := endExclusive.toNat_lt
  refine ⟨_, run_chainTrace _, length_chainTrace _, numbered_skippedRange ?_⟩
  simp only [UInt32.size]
  omega

/-- A batch takes exactly the single steps of its range and pairs each number with the key
of its step, several batches in a row are one batch, and the batch that ends at a message
reaches the key and the chain of a sender that has encrypted up to that message. -/
theorem deriveRange_single_steps (chainKey : Key) (start endExclusive : UInt32)
    (existingSkipped : Nat) :
    ((∃ result, deriveRange P chainKey start endExclusive existingSkipped = .ok result) ↔
      start.toNat ≤ endExclusive.toNat ∧
        existingSkipped + (endExclusive.toNat - start.toNat) ≤ maxSkippedKeys) ∧
    (∀ last skipped,
      deriveRange P chainKey start endExclusive existingSkipped = .ok (last, skipped) →
      ∃ steps, Run (ChainStep P) chainKey steps last ∧
        steps.length = endExclusive.toNat - start.toNat ∧
        skipped.map (fun entry => (entry.1.toNat, entry.2)) =
          (List.range' start.toNat (endExclusive.toNat - start.toNat)).zip
            (steps.map Transition.event)) ∧
    (∀ middle : UInt32, start.toNat ≤ middle.toNat → middle.toNat ≤ endExclusive.toNat →
      (do let (middleChain, before) ←
            deriveRange P chainKey start middle existingSkipped
          let (last, after) ← deriveRange P middleChain middle endExclusive
            (existingSkipped + before.length)
          return (last, before ++ after)) =
        deriveRange P chainKey start endExclusive existingSkipped) ∧
    (∀ target : UInt32,
      ((∃ result, deriveForMessage P chainKey start target existingSkipped = .ok result) ↔
        start.toNat ≤ target.toNat ∧
          existingSkipped + (target.toNat - start.toNat) ≤ maxSkippedKeys) ∧
      ∀ nextChain messageKey skipped (sender final : RatchetState P) calls,
        deriveForMessage P chainKey start target existingSkipped =
          .ok (nextChain, messageKey, skipped) →
        sender.sendingChain = chainKey → sender.sendingCount = start →
        Run CallStep sender calls final →
        (∀ call ∈ calls, ∃ frame, Seals call.current call.event frame) →
        calls.length = target.toNat - start.toNat + 1 →
        final.sendingChain = nextChain ∧ SealsLast calls messageKey target) := by
  refine ⟨exists_deriveRange_iff, fun _ _ => run_of_deriveRange,
    fun _ => deriveRange_add existingSkipped, ?_⟩
  intro target
  refine ⟨exists_deriveForMessage_iff, ?_⟩
  intro nextChain messageKey skipped sender final calls derived chain count
  subst chain count
  exact sealsLast_of_deriveForMessage derived

def twoEncrypts : List (Transition (RatchetState Primitives.concrete) RatchetCall) :=
  concreteEndpoint.trace
    (List.replicate 2 (.encrypt (constantEntropy 0) .message []))

theorem seals_twoEncrypts :
    ∀ call ∈ twoEncrypts, ∃ frame, Seals call.current call.event frame := by
  have seals (state : RatchetState Primitives.concrete) :
      ∃ frame, Seals state (.encrypt (constantEntropy 0) .message []) frame := by
    have drawn : constantEntropy 0 state.suite.nonceLen = some (.replicate _ 0) := rfl
    have fits : ([] : List UInt8).length ≤ InnerFrame.maxPlaintextLen := Nat.zero_le _
    rcases InnerFrame.exists_sealFrame Primitives.lawfulAead_concrete
      Primitives.totalAead_concrete (messageKeyOf Primitives.concrete state.sendingChain)
      (state.nextHeader .message) drawn fits with ⟨frame, sealed⟩
    exact ⟨frame, _, _, _, rfl, sealed⟩
  intro call member
  rcases List.mem_cons.mp member with rfl | later
  · exact seals _
  · rw [List.mem_singleton.mp later]
    exact seals _

theorem deriveRange_single_steps_two :
    deriveForMessage Primitives.concrete concreteEndpoint.sendingChain 0 1 0 =
        .ok (chainAt Primitives.concrete concreteEndpoint.sendingChain 2,
          messageKeyAt Primitives.concrete concreteEndpoint.sendingChain 1,
          skippedRange Primitives.concrete concreteEndpoint.sendingChain 0 1) ∧
      SealsLast twoEncrypts
        (messageKeyAt Primitives.concrete concreteEndpoint.sendingChain 1) 1 := by
  have derived : deriveForMessage Primitives.concrete concreteEndpoint.sendingChain 0 1 0 =
      _ := deriveForMessage_of_fits _ ⟨by decide, by decide⟩
  refine ⟨derived, ?_⟩
  exact ((deriveRange_single_steps concreteEndpoint.sendingChain 0 0 0).2.2.2 1).2 _ _ _
    concreteEndpoint _ twoEncrypts derived rfl rfl (concreteEndpoint.run_trace _)
    seals_twoEncrypts rfl |>.2

end Mef26
