import Mef26.Ratchet.Slots
import Mef26.Session.Agreement
import Mef26.Session.Link

namespace Mef26

/-! # Retained keys in a session

An endpoint retains the keys of frames that have not arrived. Each lies on the chain that
the peer sent on under the ratchet key of its slot, so it opens the peer's frame of its
number. `decrypt` looks for it only while this ratchet key is the current one. -/

variable {Key : Type} {P : Primitives Key}

namespace RatchetState

/-- The endpoint sends on this chain. Once its counter has reached its end, the chain may
have moved on without it. -/
def SendsOn (state : RatchetState P) (base : Key) : Prop :=
  ∃ index, state.sendingChain = chainAt P base index ∧
    state.sendingCount.toNat = min index (UInt32.size - 1)

/-- The endpoint receives on this chain, at its counter or past all numbers. -/
def ReceivesOn (state : RatchetState P) (base : Key) : Prop :=
  ∃ index, state.receivingChain = chainAt P base index ∧
    (index = state.receivingCount.toNat ∨ UInt32.size ≤ index)

end RatchetState

/-! ## The chains of the sending keys -/

variable {rootSecret : Key} {sessionId : FixedBytes 32}

/-- What a call does to the sending chain: it stays on it, or it opens the chain of a new
pair. -/
inductive ChainEnds (call : RatchetCall) (state : RatchetState P) : Prop
  | kept (pair : (call.after state).dhPair = state.dhPair)
      (sends : ∀ base, state.SendsOn base → (call.after state).SendsOn base)
  | opened (pair : DhKeyPair P) (draws : RatchetCall.DrawsPair state call pair)
      (installed : (call.after state).dhPair = pair)
      (count : (call.after state).sendingCount = 0)
      (starts : ∀ rootSecret sessionId depth,
        Lineage (RootParent P) rootSecret depth state.rootKey →
          ∃ epoch, ChainStart P rootSecret sessionId epoch (call.after state).sendingChain)

theorem RatchetState.SendsOn.afterEncrypt {state : RatchetState P} {base : Key}
    (sends : state.SendsOn base) (room : state.sendingCount.toNat + 1 < UInt32.size) :
    state.afterEncrypt.SendsOn base := by
  rcases sends with ⟨index, chain, count⟩
  refine ⟨index + 1, ?_, ?_⟩
  · rw [RatchetState.afterEncrypt, chain, chainAt_succ]
  · have next : state.afterEncrypt.sendingCount.toNat = state.sendingCount.toNat + 1 :=
      toNat_add_one room
    rw [next, count]
    omega

theorem RatchetState.SendsOn.afterSendingExhausted {state : RatchetState P} {base : Key}
    (sends : state.SendsOn base) (full : state.sendingCount.toNat + 1 = UInt32.size) :
    state.afterSendingExhausted.SendsOn base := by
  rcases sends with ⟨index, chain, count⟩
  refine ⟨index + 1, ?_, ?_⟩
  · rw [RatchetState.afterSendingExhausted, chain, chainAt_succ]
  · have same : state.afterSendingExhausted.sendingCount = state.sendingCount := rfl
    rw [same, count]
    omega

theorem chainEnds (call : RatchetCall) (state : RatchetState P) : ChainEnds call state := by
  cases call.ends state with
  | refused error failed unchanged =>
      exact .kept (by rw [unchanged]) fun base sends => by rw [unchanged]; exact sends
  | exhausts failed moved =>
      generalize reached : call.after state = after at moved
      cases moved with
      | encrypt frame sealed full =>
          refine .kept (by rw [reached]; rfl) fun base sends => ?_
          rw [reached]
          exact sends.afterSendingExhausted full
      | decrypt =>
          refine .kept (by rw [reached]; rfl) fun base sends => ?_
          rw [reached]
          exact sends
  | commits reply replied committed =>
      generalize reached : call.after state = after at committed
      cases committed with
      | encrypt frame sealed room =>
          refine .kept (by rw [reached]; rfl) fun base sends => ?_
          rw [reached]
          exact sends.afterEncrypt room
      | retained | current =>
          refine .kept (by rw [reached]; rfl) fun base sends => ?_
          rw [reached]
          exact sends
      | rotate pair generated contributory =>
          refine .opened pair (.rotate generated contributory) (by rw [reached]; rfl)
            (by rw [reached]; rfl) fun rootSecret sessionId depth root => ?_
          rw [reached]
          exact ⟨_, .stepped _ root⟩
      | next pair plaintext opens =>
          refine .opened pair (.next plaintext opens) (by rw [reached]; rfl)
            (by rw [reached]; rfl) fun rootSecret sessionId depth root => ?_
          rw [reached]
          exact ⟨_, .stepped _ (.child root ⟨_, rfl⟩)⟩

/-- The chain that each side sends on under each ratchet key. -/
structure SendingBases (P : Primitives Key) (rootSecret : Key) (sessionId : FixedBytes 32)
    (base : RatchetRole → DhPublicKey → Key) (sessions : List (Session P)) : Prop where
  started (side : RatchetRole) (ratchetPublic : DhPublicKey) :
    ∃ epoch, ChainStart P rootSecret sessionId epoch (base side ratchetPublic)
  sends : ∀ session ∈ sessions, ∀ side,
    (session side).SendsOn (base side (session side).dhPair.publicKey)

section Bases

variable {base : RatchetRole → DhPublicKey → Key} {sessions : List (Session P)}
  {current next : Session P} {event : SessionEvent}

theorem SendingBases.kept (bases : SendingBases P rootSecret sessionId base sessions)
    (reached : current ∈ sessions) (step : SessionStep current event next)
    (pair : (event.call.after (current event.side)).dhPair = (current event.side).dhPair)
    (sends : ∀ base, (current event.side).SendsOn base →
      (event.call.after (current event.side)).SendsOn base) :
    SendingBases P rootSecret sessionId base (sessions ++ [next]) where
  started := bases.started
  sends := by
    intro session member side
    rcases List.mem_append.mp member with old | new
    · exact bases.sends session old side
    · rw [List.mem_singleton.mp new]
      by_cases here : side = event.side
      · rw [here, step.next_side, pair]
        exact sends _ (bases.sends current reached _)
      · rw [step.next_other here]
        exact bases.sends current reached side

theorem SendingBases.opened (bases : SendingBases P rootSecret sessionId base sessions)
    (reached : current ∈ sessions) (step : SessionStep current event next)
    {pair : DhKeyPair P}
    (new : ∀ session ∈ sessions, ∀ side, (session side).dhPair.publicKey ≠ pair.publicKey)
    (installed : (event.call.after (current event.side)).dhPair = pair)
    (count : (event.call.after (current event.side)).sendingCount = 0)
    (starts : ∃ epoch, ChainStart P rootSecret sessionId epoch
      (event.call.after (current event.side)).sendingChain) :
    SendingBases P rootSecret sessionId
      (fun side ratchetPublic =>
        if side = event.side ∧ ratchetPublic = pair.publicKey then
          (event.call.after (current event.side)).sendingChain
        else
          base side ratchetPublic)
      (sessions ++ [next]) where
  started := by
    intro side ratchetPublic
    split
    · exact starts
    · exact bases.started side ratchetPublic
  sends := by
    intro session member side
    rcases List.mem_append.mp member with old | last
    · rw [if_neg fun same => new session old side same.2]
      exact bases.sends session old side
    · rw [List.mem_singleton.mp last]
      by_cases here : side = event.side
      · rw [here, step.next_side, installed, if_pos ⟨rfl, rfl⟩]
        exact ⟨0, rfl, by rw [count]; rfl⟩
      · rw [step.next_other here, if_neg fun same => here same.1]
        exact bases.sends current reached side

end Bases

section Run

variable (kdf : P.CollisionFreeKdf) {ends : RatchetRole → AuthenticatedHandshake P}
  (mirrored : HandshakeEnds ends) {suite : AeadSuite} {start final : Session P}
  (starts : Session.Starts ends suite start) {transitions : List (SessionTransition P)}
  (run : Run SessionStep start transitions final)

include mirrored starts in
theorem sendingBases_start :
    SendingBases P (ends .initiator).rootSecret (ends .initiator).sessionId
      (fun side _ => (start side).sendingChain) [start] where
  started side _ := by
    refine ⟨0, ?_⟩
    rw [starts.eq_fresh, ← mirrored.rootSecret side, ← mirrored.sessionId side]
    exact .initial _
  sends := by
    intro session member side
    rw [List.mem_singleton.mp member]
    refine ⟨0, rfl, ?_⟩
    rw [starts.eq_fresh]
    rfl

include kdf mirrored starts run in
theorem exists_sendingBases (fresh : FreshKeys start transitions) :
    ∃ base, SendingBases P (ends .initiator).rootSecret (ends .initiator).sessionId base
      (Run.visited start transitions) := by
  refine @Run.history _ _ _ _ _ _ (fun past _ => ∃ base, SendingBases P _ _ base
    (Run.visited start past)) run ⟨_, sendingBases_start mirrored starts⟩ ?_
  intro before (transition : SessionTransition P) after split prior step invariant
  rcases invariant with ⟨base, bases⟩
  have reached := prior.final_mem_visited
  rw [Run.visited_snoc]
  cases chainEnds transition.event.call (transition.current transition.event.side) with
  | kept pair sends => exact ⟨_, bases.kept reached step pair sends⟩
  | opened pair draws installed count opens =>
      rcases exists_standing_of_session kdf mirrored starts prior transition.event.side
          with ⟨standing, locates⟩
      have new := fresh.drawn before transition after pair split draws
      exact ⟨_, bases.opened reached step new installed count (opens _ _ _ locates.root)⟩

end Run

/-! ## The retained keys -/

/-- A frame was sealed at a place of its sender's chain. Frames past the last number
carry the last number. -/
def SealedOn (P : Primitives Key) (base : DhPublicKey → Key) (key : Key)
    (frame : InnerFrame) : Prop :=
  ∃ index, key = messageKeyAt P (base frame.header.ratchetPublic) index ∧
    frame.header.messageNumber.toNat = min index (UInt32.size - 1)

/-- An endpoint receives on the chain of its peer's ratchet key, and retains keys of such
chains. Those of the current ratchet key are stored under their own numbers. -/
structure RetainsFrom (base : DhPublicKey → Key) (state : RatchetState P) : Prop where
  receives : state.ReceivesOn (base state.remoteDh)
  retained : ∀ entry ∈ state.skipped, ∃ index,
    entry.key = messageKeyAt P (base entry.remoteDh) index ∧
      (entry.remoteDh = state.remoteDh → index = entry.messageNumber.toNat ∧
        index < state.receivingCount.toNat)

section Receive

variable {base : DhPublicKey → Key} {state : RatchetState P} {frame : InnerFrame}
  {plaintext : List UInt8}

theorem RetainsFrom.skippedTo (retains : RetainsFrom base state) {number : UInt32}
    {entry : SkippedMessageKey Key} (member : entry ∈ state.skippedTo number) :
    entry.remoteDh = state.remoteDh ∧
      ∃ index, entry.key = messageKeyAt P (base state.remoteDh) index := by
  rcases retains.receives with ⟨index, chain, _⟩
  rcases RatchetState.mem_skippedEntries (state.gapTo_small number) member
      with ⟨remote, offset, _, _, key⟩
  rw [chain, messageKeyAt_chainAt] at key
  exact ⟨remote, _, key⟩

theorem RetainsFrom.receivingIndex (kdf : P.CollisionFreeKdf)
    (started : ∃ epoch, ChainStart P rootSecret sessionId epoch (base state.remoteDh))
    (opens : state.OpensCurrent frame plaintext)
    (room : frame.header.messageNumber.toNat + 1 < UInt32.size)
    (sealed : SealedOn P base (messageKeyAt P state.receivingChain
      (state.gapTo frame.header.messageNumber)) frame)
    (retains : RetainsFrom base state) :
    state.receivingChain = chainAt P (base state.remoteDh) state.receivingCount.toNat := by
  rcases retains.receives with ⟨index, chain, placed⟩
  rcases sealed with ⟨place, key, number⟩
  rcases started with ⟨epoch, started⟩
  rw [opens.same, chain, messageKeyAt_chainAt] at key
  have places := (kdf.messageKeyAt_eq started started key).2
  have gap : state.receivingCount.toNat + state.gapTo frame.header.messageNumber =
      frame.header.messageNumber.toNat := Nat.add_sub_cancel' opens.fits.1
  have atCounter : index = state.receivingCount.toNat := by
    rcases placed with same | past
    · exact same
    · omega
  rw [chain, atCounter]

theorem RetainsFrom.afterCurrent (retains : RetainsFrom base state) {number : UInt32}
    (room : number.toNat + 1 < UInt32.size) (fits : state.FitsBudget number)
    (atCounter : state.receivingChain =
      chainAt P (base state.remoteDh) state.receivingCount.toNat) :
    RetainsFrom base (state.afterCurrent number) := by
  have count : (state.afterCurrent number).receivingCount.toNat = number.toNat + 1 :=
    toNat_add_one room
  have gap : state.receivingCount.toNat + state.gapTo number = number.toNat :=
    Nat.add_sub_cancel' fits.1
  have ordered := fits.1
  refine ⟨⟨number.toNat + 1, ?_, .inl count.symm⟩, ?_⟩
  · rw [RatchetState.afterCurrent, atCounter, ← chainAt_add, ← Nat.add_assoc, gap]
  · intro entry member
    rw [count]
    rcases List.mem_append.mp member with old | new
    · rcases retains.retained entry old with ⟨index, key, current⟩
      refine ⟨index, key, fun same => ?_⟩
      rcases current same with ⟨numbered, below⟩
      exact ⟨numbered, by omega⟩
    · rcases RatchetState.mem_skippedEntries (state.gapTo_small number) new
          with ⟨remote, offset, inside, numbered, key⟩
      rw [atCounter, messageKeyAt_chainAt] at key
      rw [remote]
      exact ⟨_, key, fun _ => ⟨numbered.symm, by omega⟩⟩

theorem RetainsFrom.afterExhausted (retains : RetainsFrom base state) {number : UInt32}
    (full : number.toNat + 1 = UInt32.size) (fits : state.FitsBudget number) :
    RetainsFrom base (state.afterExhausted number) := by
  have gap : state.receivingCount.toNat + state.gapTo number = number.toNat :=
    Nat.add_sub_cancel' fits.1
  refine ⟨?_, retains.retained⟩
  rcases retains.receives with ⟨index, chain, placed⟩
  refine ⟨index + (state.gapTo number + 1), ?_, .inr ?_⟩
  · rw [RatchetState.afterExhausted, chain, ← chainAt_add]
  · rcases placed with same | past
    · omega
    · omega

theorem RetainsFrom.remoteDh_ne (kdf : P.CollisionFreeKdf)
    (derived : HandshakeRoot P rootSecret) {standing : Standing Key}
    (locates : standing.Locates P rootSecret sessionId state.keyStore)
    (retains : RetainsFrom base state) {ratchetPublic : DhPublicKey}
    (opened : base ratchetPublic = state.chainFrom ratchetPublic)
    {entry : SkippedMessageKey Key} (member : entry ∈ state.skipped) :
    entry.remoteDh ≠ ratchetPublic := by
  intro same
  rcases retains.retained entry member with ⟨index, key, _⟩
  have started := locates.opens (P.x25519 state.dhPair.secret ratchetPublic)
  rcases locates.passed entry.key (List.mem_map_of_mem member)
      with ⟨start, place, earlier, key', _⟩
  have there := earlier
  rcases there with ⟨epoch, _, origin⟩
  rw [same, opened] at key
  have starts := (kdf.messageKeyAt_eq started origin (key.symm.trans key')).1
  exact kdf.ne_of_startedBy derived earlier started (Nat.lt_succ_self _) starts.symm

theorem RetainsFrom.afterNext {entropy : Entropy} {pair : DhKeyPair P}
    (retains : RetainsFrom base state)
    (opens : RatchetState.OpensNext entropy state frame pair plaintext)
    (opened : base frame.header.ratchetPublic =
      state.chainFrom frame.header.ratchetPublic)
    (apart : ∀ entry ∈ state.skipped, entry.remoteDh ≠ frame.header.ratchetPublic) :
    RetainsFrom base (state.afterNext pair frame.header) := by
  have fits := opens.ready.fitsNew
  have room : frame.header.messageNumber.toNat + 1 < UInt32.size := by
    simp only [maxSkippedKeys, UInt32.size] at fits ⊢
    omega
  have count : (state.afterNext pair frame.header).receivingCount.toNat =
      frame.header.messageNumber.toNat + 1 := toNat_add_one room
  refine ⟨⟨frame.header.messageNumber.toNat + 1, ?_, .inl count.symm⟩, ?_⟩
  · rw [RatchetState.afterNext, opened]
  · intro entry member
    rw [count]
    rcases List.mem_append.mp member with kept | new
    · rcases List.mem_append.mp kept with old | gap
      · rcases retains.retained entry old with ⟨index, key, _⟩
        exact ⟨index, key, fun same => absurd same (apart entry old)⟩
      · rcases retains.skippedTo gap with ⟨remote, index, key⟩
        rw [← remote] at key
        refine ⟨index, key, fun same => absurd ?_ opens.different⟩
        exact same.symm.trans remote
    · have zero : (0 : UInt32).toNat = 0 := rfl
      rcases RatchetState.mem_skippedEntries (by rw [zero]; omega) new
          with ⟨remote, offset, inside, numbered, key⟩
      rw [zero, Nat.zero_add] at numbered
      rw [← opened, ← remote] at key
      exact ⟨offset, key, fun _ => ⟨numbered.symm, Nat.lt_succ_of_lt inside⟩⟩

/-- What an endpoint retains stays on the chains of its peer, whatever it is called with,
if all it opens was sealed there. -/
theorem RetainsFrom.after (kdf : P.CollisionFreeKdf) (derived : HandshakeRoot P rootSecret)
    {standing : Standing Key}
    (locates : standing.Locates P rootSecret sessionId state.keyStore)
    (started : ∀ ratchetPublic,
      ∃ epoch, ChainStart P rootSecret sessionId epoch (base ratchetPublic))
    (retains : RetainsFrom base state) {call : RatchetCall}
    (sealed : ∀ entropy frame key, call = .decrypt entropy frame →
      RatchetCall.UsesKey state call key → SealedOn P base key frame) :
    RetainsFrom base (call.after state) := by
  cases call.ends state with
  | refused error failed unchanged =>
      rw [unchanged]
      exact retains
  | exhausts failed moved =>
      generalize call.after state = after at moved
      cases moved with
      | encrypt => exact { retains with }
      | decrypt plaintext opens full => exact retains.afterExhausted full opens.fits
  | commits reply replied committed =>
      generalize call.after state = after at committed
      cases committed with
      | encrypt | rotate => exact { retains with }
      | retained index entry plaintext opens =>
          refine ⟨retains.receives, fun other member => ?_⟩
          exact retains.retained other (List.mem_of_mem_eraseIdx member)
      | current plaintext opens room =>
          have here := sealed _ _ _ rfl (.current plaintext opens)
          exact retains.afterCurrent room opens.fits
            (retains.receivingIndex kdf (started _) opens room here)
      | @next entropy frame pair plaintext opens =>
          rcases sealed _ _ _ rfl (.next pair plaintext opens) with ⟨index, key, _⟩
          rcases started frame.header.ratchetPublic with ⟨epoch, origin⟩
          have opened : base frame.header.ratchetPublic =
              state.chainFrom frame.header.ratchetPublic :=
            (kdf.messageKeyAt_eq (locates.opens _) origin key).1.symm
          exact retains.afterNext opens opened fun entry =>
            retains.remoteDh_ne kdf derived locates opened

end Receive

/-! ## Runs -/

def SentIn (transitions : List (SessionTransition P)) (side : RatchetRole)
    (frame : InnerFrame) (plaintext : List UInt8) : Prop :=
  ∃ sent ∈ transitions, ∃ entropy kind,
    sent.event = ⟨side, .encrypt entropy kind plaintext⟩ ∧
      SessionTransition.reply sent = .ok (.frame frame)

theorem RatchetCall.after_native (call : RatchetCall) (state : RatchetState P) :
    (call.after state).sessionId = state.sessionId ∧
      (call.after state).suite = state.suite := by
  cases call.ends state with
  | refused error failed unchanged =>
      rw [unchanged]
      exact ⟨rfl, rfl⟩
  | exhausts failed moved =>
      generalize call.after state = after at moved
      cases moved <;> exact ⟨rfl, rfl⟩
  | commits reply replied committed =>
      generalize call.after state = after at committed
      cases committed <;> exact ⟨rfl, rfl⟩

theorem SendingBases.seals {base : RatchetRole → DhPublicKey → Key}
    {start final : Session P} {transitions : List (SessionTransition P)}
    (bases : SendingBases P rootSecret sessionId base (Run.visited start transitions))
    (run : Run SessionStep start transitions final) {sent : SessionTransition P}
    (member : sent ∈ transitions) {key : Key} {frame : InnerFrame}
    (seals : sent.Seals key frame) : SealedOn P (base sent.event.side) key frame := by
  rcases seals with ⟨entropy, kind, plaintext, _, sealed, rfl⟩
  have header := (InnerFrame.sealFrame_eq_ok.mp sealed).1
  rcases bases.sends _ (run.current_mem_visited member) sent.event.side
      with ⟨index, chain, count⟩
  refine ⟨index, ?_, ?_⟩
  · rw [header, chain]
    rfl
  · rw [header, ← count]
    rfl

theorem SentIn.sealed {start final : Session P} {transitions : List (SessionTransition P)}
    (run : Run SessionStep start transitions final) {side : RatchetRole}
    {frame : InnerFrame} {plaintext : List UInt8}
    (sent : SentIn transitions side frame plaintext) :
    ∃ session ∈ Run.visited start transitions, ∃ entropy kind,
      (session side).sealNext entropy kind plaintext = .ok frame ∧
        (session side).sendingCount.toNat + 1 < UInt32.size := by
  rcases sent with ⟨call, inRun, entropy, kind, event, replied⟩
  rw [SessionTransition.reply, event] at replied
  exact ⟨call.current, run.current_mem_visited inRun, entropy, kind,
    RatchetCall.sealed_of_frame replied⟩

theorem SendingBases.openFrame (aead : P.LawfulAead)
    {base : RatchetRole → DhPublicKey → Key} {sessions : List (Session P)}
    (bases : SendingBases P rootSecret sessionId base sessions) {session : Session P}
    (reached : session ∈ sessions) {side : RatchetRole} {entropy : Entropy}
    {kind : FrameKind} {plaintext : List UInt8} {frame : InnerFrame}
    (sealed : (session side).sealNext entropy kind plaintext = .ok frame)
    (room : (session side).sendingCount.toNat + 1 < UInt32.size) :
    frame.openFrame P (messageKeyAt P (base side frame.header.ratchetPublic)
      frame.header.messageNumber.toNat) = .ok plaintext := by
  have header : frame.header = (session side).nextHeader kind :=
    (InnerFrame.sealFrame_eq_ok.mp sealed).1
  have opened : frame.openFrame P (messageKeyOf P (session side).sendingChain) =
      .ok plaintext := InnerFrame.openFrame_of_sealFrame aead sealed
  rcases bases.sends session reached side with ⟨index, chain, count⟩
  have place : index = frame.header.messageNumber.toNat := by
    have number : frame.header.messageNumber = (session side).sendingCount := by
      rw [header]
      rfl
    rw [number]
    omega
  have remote : frame.header.ratchetPublic = (session side).dhPair.publicKey := by
    rw [header]
    rfl
  rw [remote, ← place, messageKeyAt, ← chain]
  exact opened

/-- Once the ratchet key has changed, `decrypt` does not look for the retained keys of the
one before. -/
theorem RatchetState.decrypt_ne_of_stale {state : RatchetState P} {frame : InnerFrame}
    (stale : frame.header.ratchetPublic ≠ state.remoteDh) (entropy : Entropy)
    (plaintext : List UInt8) (index : Nat) :
    decrypt entropy frame state ≠ (.ok plaintext, state.afterSkipped index) := by
  intro called
  have remote : (state.afterSkipped index).remoteDh = state.remoteDh := rfl
  generalize state.afterSkipped index = after at called remote
  cases decrypt_spec called with
  | retained index entry plaintext opens => exact stale opens.same
  | current plaintext opens => exact stale opens.same
  | next pair plaintext opens => exact stale remote

section Run

variable (kdf : P.CollisionFreeKdf) (aead : P.LawfulAead)
  {ends : RatchetRole → AuthenticatedHandshake P} (mirrored : HandshakeEnds ends)
  {suite : AeadSuite} {start final : Session P} (starts : Session.Starts ends suite start)
  {transitions : List (SessionTransition P)}
  (run : Run SessionStep start transitions final) (ideal : IdealAead transitions)

include mirrored starts

include run in
theorem native_of_run (side : RatchetRole) :
    (final side).sessionId = (ends .initiator).sessionId ∧ (final side).suite = suite := by
  refine @Run.invariant _ _ _ _ _ _ (fun session => ∀ side,
    (session side).sessionId = (ends .initiator).sessionId ∧ (session side).suite = suite)
    run ?_ ?_ side
  · intro side
    rw [starts.eq_fresh, ← mirrored.sessionId side]
    exact ⟨rfl, rfl⟩
  · intro current event next step native side
    by_cases here : side = event.side
    · have kept := event.call.after_native (current event.side)
      rw [here, step.next_side, kept.1, kept.2]
      exact native event.side
    · rw [step.next_other here]
      exact native side

theorem accepts_of_sealed {past : List (SessionTransition P)} {session : Session P}
    (run : Run SessionStep start transitions final)
    (earlier : Run SessionStep start past session) {side : RatchetRole} {entropy : Entropy}
    {kind : FrameKind} {plaintext : List UInt8} {frame : InnerFrame}
    (sealed : (session side.peer).sealNext entropy kind plaintext = .ok frame) :
    (final side).Accepts frame := by
  refine sealed_native ?_ sealed
  have here := native_of_run mirrored starts run side
  have there := native_of_run mirrored starts earlier side.peer
  exact ⟨there.1.trans here.1.symm, there.2.trans here.2.symm⟩

theorem retainsFrom_start {base : RatchetRole → DhPublicKey → Key}
    (bases : SendingBases P (ends .initiator).rootSecret (ends .initiator).sessionId base
      (Run.visited start transitions)) (side : RatchetRole) :
    RetainsFrom (base side.peer) (start side) := by
  have sameSession := (mirrored.sessionId side).trans (mirrored.sessionId side.peer).symm
  have sameRoot := (mirrored.rootSecret side).trans (mirrored.rootSecret side.peer).symm
  rcases bases.sends start (List.mem_cons_self ..) side.peer with ⟨index, chain, count⟩
  rw [starts.eq_fresh] at chain count
  have zero : index = 0 := by
    have none : (0 : UInt32).toNat = 0 := rfl
    simp only [RatchetState.fresh, none, UInt32.size] at count
    omega
  subst zero
  have remote : (start side).remoteDh =
      (RatchetState.fresh (ends side.peer) suite).dhPair.publicKey := by
    rw [starts.eq_fresh]
    exact mirrored.remoteRatchet side
  refine ⟨⟨0, ?_, ?_⟩, ?_⟩
  · rw [remote, ← chain, starts.eq_fresh]
    simp only [RatchetState.fresh, sameSession, sameRoot, mirrored.role]
  · rw [starts.eq_fresh]
    exact .inl rfl
  · rw [starts.eq_fresh]
    simp [RatchetState.fresh]

include kdf run ideal

theorem retainsFrom_of_run {base : RatchetRole → DhPublicKey → Key}
    (bases : SendingBases P (ends .initiator).rootSecret (ends .initiator).sessionId base
      (Run.visited start transitions)) :
    ∀ side, RetainsFrom (base side.peer) (final side) := by
  refine @Run.history _ _ _ _ _ _ (fun _ session => ∀ side,
    RetainsFrom (base side.peer) (session side)) run
    (retainsFrom_start mirrored starts bases) ?_
  intro before (transition : SessionTransition P) after split prior step invariant side
  by_cases here : side = transition.event.side
  · subst here
    rcases exists_standing_of_session kdf mirrored starts prior transition.event.side
        with ⟨standing, locates⟩
    rw [step.next_side]
    refine (invariant transition.event.side).after kdf mirrored.derived locates
      (bases.started _) ?_
    intro entropy frame key isDecrypt uses
    rcases sealed_of_peer kdf mirrored starts run ideal split isDecrypt uses
        with ⟨sent, member, peer, seals⟩
    rw [← peer]
    refine bases.seals run ?_ seals
    rw [split]
    exact List.mem_append_left _ member
  · rw [step.next_other here]
    exact invariant side

include aead in
/-- A retained key of the current ratchet key opens the peer's frame of its slot, and
`decryptSkipped` finds it. -/
theorem opensRetained_of_sent (fresh : FreshKeys start transitions) {side : RatchetRole}
    {index : Nat} {entry : SkippedMessageKey Key}
    (element : (final side).skipped[index]? = some entry) {frame : InnerFrame}
    {plaintext : List UInt8} (sent : SentIn transitions side.peer frame plaintext)
    (slot : (frame.header.ratchetPublic, frame.header.messageNumber) = entry.slot)
    (current : entry.remoteDh = (final side).remoteDh) :
    (final side).OpensRetained frame index entry plaintext := by
  rcases exists_sendingBases kdf mirrored starts run fresh with ⟨base, bases⟩
  rcases exists_standing_of_session kdf mirrored starts run side with ⟨standing, locates⟩
  have retains := retainsFrom_of_run kdf mirrored starts run ideal bases side
  rcases sent.sealed run with ⟨session, reached, entropy, kind, sealed, room⟩
  rcases run.exists_run_of_visited reached with ⟨past, _, _, earlier⟩
  rcases Prod.mk.inj slot with ⟨remote, number⟩
  have keyOf (other : SkippedMessageKey Key) (member : other ∈ (final side).skipped)
      (same : other.remoteDh = (final side).remoteDh) :
      other.key = messageKeyAt P (base side.peer other.remoteDh)
          other.messageNumber.toNat ∧
        other.messageNumber.toNat < (final side).receivingCount.toNat := by
    rcases retains.retained other member with ⟨place, key, placed⟩
    rcases placed same with ⟨rfl, below⟩
    exact ⟨key, below⟩
  have here := keyOf entry (List.mem_of_getElem? element) current
  have opened := bases.openFrame aead reached sealed room
  rw [remote, number, ← here.1] at opened
  refine ⟨accepts_of_sealed mirrored starts run earlier sealed, remote.trans current, ?_, ?_,
    element, opened⟩
  · rw [number]
    exact here.2
  · rw [number, ← current]
    refine RatchetState.findSkipped_of_unique element fun other entry' element' same => ?_
    rcases Prod.mk.inj same with ⟨remote', number'⟩
    have there := keyOf entry' (List.mem_of_getElem? element') (remote'.trans current)
    rw [remote', number', ← here.1] at there
    have keys : (final side).keyStore.retained[other]? =
        (final side).keyStore.retained[index]? := by
      rw [RatchetState.keyStore, List.getElem?_map, List.getElem?_map, element, element']
      exact congrArg some there.1
    refine (List.getElem?_inj ?_ locates.distinct).mp keys
    rw [RatchetState.keyStore, List.length_map]
    exact (List.getElem?_eq_some_iff.mp element').1

include aead in
/-- In every session the peer's frame of a retained key's slot is decrypted with this key,
which is taken out, exactly as long as the ratchet key of the slot is the current one. -/
theorem run_opensRetained_iff (fresh : FreshKeys start transitions) :
    ∀ side index entry, (final side).skipped[index]? = some entry →
      ∀ frame plaintext, SentIn transitions side.peer frame plaintext →
        (frame.header.ratchetPublic, frame.header.messageNumber) = entry.slot →
        ∀ entropy, RatchetState.decrypt entropy frame (final side) =
            (.ok plaintext, (final side).afterSkipped index) ↔
          entry.remoteDh = (final side).remoteDh := by
  intro side index entry element frame plaintext sent slot entropy
  constructor
  · intro called
    by_contra stale
    rw [← (Prod.mk.inj slot).1] at stale
    exact RatchetState.decrypt_ne_of_stale stale entropy plaintext index called
  · intro current
    exact RatchetState.decrypt_of_retained
      (opensRetained_of_sent kdf aead mirrored starts run ideal fresh element sent slot current)

end Run

/-! ## A delayed frame -/

def delayingFrame : InnerFrame := .empty (.replicate 32 1) 0 1 0

def delayedEvents : List SessionEvent :=
  [⟨.initiator, .encrypt (constantEntropy 0) .message []⟩,
    ⟨.initiator, .encrypt (constantEntropy 0) .message []⟩,
    ⟨.responder, .decrypt (constantEntropy 3) delayingFrame⟩]

theorem delaying_opens :
    (symbolicSession .responder).OpensCurrent delayingFrame [] where
  native := ⟨rfl, rfl⟩
  same := rfl
  fits := ⟨by decide, by decide⟩
  opened := by decide +kernel

def delayedReceiver : RatchetState Primitives.symbolic :=
  (symbolicSession .responder).afterCurrent 1

theorem delayed_responder :
    delayedEvents.foldl Session.after symbolicSession .responder = delayedReceiver := by
  simp only [delayedEvents, List.foldl_cons, List.foldl_nil, Session.after_side]
  exact RatchetCall.after_of_commits (.current [] delaying_opens (by decide))

theorem third_of_delayedEvents {before after : List (SessionTransition Primitives.symbolic)}
    {transition : SessionTransition Primitives.symbolic}
    (split : symbolicSession.trace delayedEvents = before ++ transition :: after) :
    (∃ entropy kind plaintext, transition.event.call = .encrypt entropy kind plaintext) ∨
      transition.event = ⟨.responder, .decrypt (constantEntropy 3) delayingFrame⟩ ∧
        transition.current .responder = symbolicSession .responder ∧
        ∃ sent ∈ before, SessionTransition.Seals sent
          (messageKeyAt Primitives.symbolic (symbolicSession .initiator).sendingChain 1)
          delayingFrame := by
  rw [delayedEvents, Session.trace, Session.trace, Session.trace, Session.trace] at split
  rcases before with _ | ⟨_, _ | ⟨_, _ | ⟨_, rest⟩⟩⟩
  · cases split
    exact .inl ⟨_, _, _, rfl⟩
  · cases split
    exact .inl ⟨_, _, _, rfl⟩
  · cases split
    refine .inr ⟨rfl, rfl, _, .tail _ (.head _), _, _, _, rfl, ?_, rfl⟩
    decide +kernel
  · simp at split

theorem idealAead_delayed : IdealAead (symbolicSession.trace delayedEvents) := by
  intro before transition after split entropy frame key isDecrypt uses
  rcases third_of_delayedEvents split with ⟨_, _, _, isEncrypt⟩ | ⟨event, current, sent⟩
  · rw [isEncrypt] at isDecrypt
    cases isDecrypt
  · rw [SessionTransition.UsesKey, event] at uses
    rw [event] at isDecrypt
    cases isDecrypt
    simp only [current] at uses
    rw [uses.unique (.current [] delaying_opens)]
    exact sent

theorem freshKeys_delayed :
    FreshKeys symbolicSession (symbolicSession.trace delayedEvents) where
  initially := by decide
  drawn before transition after pair split draws := by
    rcases third_of_delayedEvents split with ⟨_, _, _, isEncrypt⟩ | ⟨event, current, _⟩
    · rw [isEncrypt] at draws
      cases draws
    · rw [event] at draws
      simp only [current] at draws
      cases draws with
      | next plaintext opens => exact absurd rfl opens.different

/-- The first one arrives after all. -/
theorem run_opensRetained_delayed :
    delayedReceiver.skipped.map SkippedMessageKey.slot = [(.replicate 32 1, 0)] ∧
      RatchetState.decrypt (constantEntropy 3) symbolicFrame delayedReceiver =
        (.ok [], delayedReceiver.afterSkipped 0) := by
  have usable := run_opensRetained_iff Primitives.collisionFreeKdf_symbolic
    Primitives.lawfulAead_symbolic handshakeEnds_sample starts_sampleSession
    (symbolicSession.run_trace delayedEvents) idealAead_delayed freshKeys_delayed .responder 0
  rw [delayed_responder] at usable
  refine ⟨by decide +kernel, (usable _ rfl symbolicFrame [] ?_ rfl _).mpr rfl⟩
  exact ⟨_, .head _, _, _, rfl, by decide +kernel⟩

/-! ## A frame delayed past a ratchet step -/

/-- The network hands over what the peer has returned before, in any order. -/
def RelaysPeer (transitions : List (SessionTransition P)) : Prop :=
  ∀ before (transition : SessionTransition P) after,
    transitions = before ++ transition :: after →
    ∀ entropy frame, transition.event.call = .decrypt entropy frame →
      ∃ plaintext, SentIn before transition.event.side.peer frame plaintext

def SessionEvent.isRotation (event : SessionEvent) : Bool :=
  match event.call with
  | .rotateSendingRatchet _ => true
  | .encrypt .. | .decrypt .. => false

def steppedFrame : InnerFrame := .empty (.replicate 32 5) 2 0 0

def staleEvents : List SessionEvent :=
  delayedEvents ++
    [⟨.initiator, .rotateSendingRatchet (constantEntropy 5)⟩,
      ⟨.initiator, .encrypt (constantEntropy 0) .message []⟩,
      ⟨.responder, .decrypt (constantEntropy 3) steppedFrame⟩]

def staleSession : Session Primitives.symbolic :=
  staleEvents.foldl Session.after symbolicSession

theorem relaysPeer_stale : RelaysPeer (symbolicSession.trace staleEvents) := by
  intro before transition after split entropy frame isDecrypt
  have events : staleEvents = [⟨.initiator, .encrypt (constantEntropy 0) .message []⟩,
      ⟨.initiator, .encrypt (constantEntropy 0) .message []⟩,
      ⟨.responder, .decrypt (constantEntropy 3) delayingFrame⟩,
      ⟨.initiator, .rotateSendingRatchet (constantEntropy 5)⟩,
      ⟨.initiator, .encrypt (constantEntropy 0) .message []⟩,
      ⟨.responder, .decrypt (constantEntropy 3) steppedFrame⟩] := rfl
  simp only [events, Session.trace] at split
  rcases before with _ | ⟨_, _ | ⟨_, _ | ⟨_, _ | ⟨_, _ | ⟨_, _ | ⟨_, rest⟩⟩⟩⟩⟩⟩
  · cases split
    cases isDecrypt
  · cases split
    cases isDecrypt
  · cases split
    cases isDecrypt
    exact ⟨[], _, .tail _ (.head _), _, _, rfl, by decide +kernel⟩
  · cases split
    cases isDecrypt
  · cases split
    cases isDecrypt
  · cases split
    cases isDecrypt
    refine ⟨[], _, .tail _ (.tail _ (.tail _ (.tail _ (.head _)))), _, _, rfl, ?_⟩
    decide +kernel
  · simp at split

/-- A retained key that is never found again: its frame arrives after a ratchet step. -/
theorem exists_run_not_opensRetained :
    HandshakeEnds (sampleEnds Primitives.symbolic) ∧
    Session.Starts (sampleEnds Primitives.symbolic) .xChaCha20Poly1305 symbolicSession ∧
    Primitives.symbolic.LawfulAead ∧
    ∃ transitions final, Run SessionStep symbolicSession transitions final ∧
      RelaysPeer transitions ∧
      transitions.countP (fun transition => transition.event.isRotation) ≤ 1 ∧
      ∃ side index entry frame plaintext,
        (final side).skipped[index]? = some entry ∧
        SentIn transitions side.peer frame plaintext ∧
        (frame.header.ratchetPublic, frame.header.messageNumber) = entry.slot ∧
        ∀ entropy, RatchetState.decrypt entropy frame (final side) ≠
          (.ok plaintext, (final side).afterSkipped index) := by
  have slots : (staleSession .responder).skipped.map SkippedMessageKey.slot =
      [(.replicate 32 1, 0)] := by decide +kernel
  rcases List.map_eq_singleton_iff.mp slots with ⟨entry, retained, slot⟩
  have stale : symbolicFrame.header.ratchetPublic ≠ (staleSession .responder).remoteDh := by
    decide +kernel
  refine ⟨handshakeEnds_sample, starts_sampleSession, Primitives.lawfulAead_symbolic, _, _,
    symbolicSession.run_trace staleEvents, relaysPeer_stale, by decide +kernel, .responder, 0,
    entry, symbolicFrame, [], ?_, ?_, slot.symm, fun entropy => ?_⟩
  · exact congrArg (fun entries => entries[0]?) retained
  · exact ⟨_, .head _, _, _, rfl, by decide +kernel⟩
  · exact RatchetState.decrypt_ne_of_stale stale entropy [] 0

end Mef26
