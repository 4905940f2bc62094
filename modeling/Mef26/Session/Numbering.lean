import Mef26.Session.Session

namespace Mef26

/-! # What an endpoint sends

The frames that an endpoint returns, the keys they were sealed under, and the numbers in
their headers. -/

variable {Key : Type} {P : Primitives Key}

structure SentFrame (Key : Type) where
  frame : InnerFrame
  key : Key

def SentFrame.slot (sent : SentFrame Key) : DhPublicKey × UInt32 :=
  (sent.frame.header.ratchetPublic, sent.frame.header.messageNumber)

def sentFrame (transition : Transition (RatchetState P) RatchetCall) :
    Option (SentFrame Key) :=
  match transition.event.result transition.current with
  | .ok (.frame frame) => some ⟨frame, messageKeyOf P transition.current.sendingChain⟩
  | _ => none

def sentFrames (transitions : List (Transition (RatchetState P) RatchetCall)) :
    List (SentFrame Key) :=
  transitions.filterMap sentFrame

def installedKey (transition : Transition (RatchetState P) RatchetCall) :
    Option DhPublicKey :=
  if transition.next.dhPair.publicKey = transition.current.dhPair.publicKey then
    none
  else
    some transition.next.dhPair.publicKey

def ratchetKeys (start : RatchetState P)
    (transitions : List (Transition (RatchetState P) RatchetCall)) : List DhPublicKey :=
  start.dhPair.publicKey :: transitions.filterMap installedKey

def numbersUnder (sent : List (SentFrame Key)) (ratchetPublic : DhPublicKey) : List Nat :=
  (sent.filter fun entry => entry.frame.header.ratchetPublic = ratchetPublic).map
    fun entry => entry.frame.header.messageNumber.toNat

/-- How many frames were sent under the last of some ratchet keys. -/
def lengthUnderLast (sent : List (SentFrame Key)) (keys : List DhPublicKey) : Nat :=
  match keys.getLast? with
  | none => 0
  | some key => (numbersUnder sent key).length

def FreshPairs (start : RatchetState P)
    (transitions : List (Transition (RatchetState P) RatchetCall)) : Prop :=
  ∀ before transition after pair, transitions = before ++ transition :: after →
    RatchetCall.DrawsPair transition.current transition.event pair →
    ∀ state ∈ Run.visited start before, state.dhPair.publicKey ≠ pair.publicKey

/-! ## Steps of the ledger -/

section Lists

variable {past : List (Transition (RatchetState P) RatchetCall)}
  {transition : Transition (RatchetState P) RatchetCall}

theorem sentFrames_snoc_none (silent : sentFrame transition = none) :
    sentFrames (past ++ [transition]) = sentFrames past := by
  simp [sentFrames, List.filterMap_append, silent]

theorem sentFrames_snoc_some {sent : SentFrame Key}
    (returned : sentFrame transition = some sent) :
    sentFrames (past ++ [transition]) = sentFrames past ++ [sent] := by
  simp [sentFrames, List.filterMap_append, returned]

theorem ratchetKeys_snoc_none {start : RatchetState P} (kept : installedKey transition = none) :
    ratchetKeys start (past ++ [transition]) = ratchetKeys start past := by
  simp [ratchetKeys, List.filterMap_append, kept]

theorem ratchetKeys_snoc_some {start : RatchetState P} {key : DhPublicKey}
    (installed : installedKey transition = some key) :
    ratchetKeys start (past ++ [transition]) = ratchetKeys start past ++ [key] := by
  simp [ratchetKeys, List.filterMap_append, installed]

theorem numbersUnder_snoc_same (sent : List (SentFrame Key)) (last : SentFrame Key) :
    numbersUnder (sent ++ [last]) last.frame.header.ratchetPublic =
      numbersUnder sent last.frame.header.ratchetPublic ++
        [last.frame.header.messageNumber.toNat] := by
  simp [numbersUnder, List.filter_append]

theorem numbersUnder_snoc_other (sent : List (SentFrame Key)) {last : SentFrame Key}
    {key : DhPublicKey} (other : last.frame.header.ratchetPublic ≠ key) :
    numbersUnder (sent ++ [last]) key = numbersUnder sent key := by
  simp [numbersUnder, List.filter_append, other]

theorem numbersUnder_of_absent {sent : List (SentFrame Key)} {key : DhPublicKey}
    (absent : ∀ entry ∈ sent, entry.frame.header.ratchetPublic ≠ key) :
    numbersUnder sent key = [] := by
  rw [numbersUnder, List.map_eq_nil_iff, List.filter_eq_nil_iff]
  intro entry member
  simpa using absent entry member

theorem ne_last_of_nodup {keys earlier later initial : List DhPublicKey}
    {key last other : DhPublicKey} (distinct : keys.Nodup)
    (split : keys = earlier ++ key :: later) (ended : keys = initial ++ [last])
    (member : other ∈ earlier) : other ≠ last := by
  intro same
  rw [split, List.nodup_append] at distinct
  have atEnd : (key :: later).getLast (by simp) = last := by
    have lasts : (earlier ++ key :: later).getLast? = (initial ++ [last]).getLast? := by
      rw [← split, ended]
    rw [List.getLast?_append_of_ne_nil _ (by simp), List.getLast?_concat,
      List.getLast?_eq_some_getLast (by simp)] at lasts
    exact Option.some.inj lasts
  have inLater : last ∈ key :: later := atEnd ▸ List.getLast_mem _
  exact distinct.2.2 other member last inLater same

end Lists

/-- What a call does to the numbering: it returns a frame with the current header, it
starts over under a new pair, or it does nothing to it. -/
inductive NumberingEnds (transition : Transition (RatchetState P) RatchetCall) : Prop
  | sent (sent : SentFrame Key) (returned : sentFrame transition = some sent)
      (kind : FrameKind) (header : sent.frame.header = transition.current.nextHeader kind)
      (pair : transition.next.dhPair = transition.current.dhPair)
      (count : transition.next.sendingCount.toNat =
        transition.current.sendingCount.toNat + 1)
      (previous : transition.next.previousSendingChainLen =
        transition.current.previousSendingChainLen)
  | drew (pair : DhKeyPair P)
      (draws : RatchetCall.DrawsPair transition.current transition.event pair)
      (silent : sentFrame transition = none) (installed : transition.next.dhPair = pair)
      (count : transition.next.sendingCount = 0)
      (previous : transition.next.previousSendingChainLen = transition.current.sendingCount)
  | idle (silent : sentFrame transition = none)
      (pair : transition.next.dhPair = transition.current.dhPair)
      (count : transition.next.sendingCount = transition.current.sendingCount)
      (previous : transition.next.previousSendingChainLen =
        transition.current.previousSendingChainLen)

theorem sentFrame_of_silent {transition : Transition (RatchetState P) RatchetCall}
    (silent : ∀ frame, transition.event.result transition.current ≠ .ok (.frame frame)) :
    sentFrame transition = none := by
  unfold sentFrame
  split
  · rename_i frame replied
    exact absurd replied (silent frame)
  · rfl

theorem numberingEnds {transition : Transition (RatchetState P) RatchetCall}
    (step : CallStep transition.current transition.event transition.next) :
    NumberingEnds transition := by
  rcases transition with ⟨current, call, next⟩
  have reached : call.after current = next := step
  subst reached
  cases call.ends current with
  | refused error failed unchanged =>
      have silent : sentFrame ⟨current, call, call.after current⟩ = none := by
        apply sentFrame_of_silent
        simp [failed]
      exact .idle silent (by rw [unchanged]) (by rw [unchanged]) (by rw [unchanged])
  | exhausts failed moved =>
      have silent : sentFrame ⟨current, call, call.after current⟩ = none := by
        apply sentFrame_of_silent
        simp [failed]
      generalize call.after current = after at moved silent
      cases moved with
      | encrypt => exact .idle silent rfl rfl rfl
      | decrypt => exact .idle silent rfl rfl rfl
  | commits reply replied committed =>
      generalize call.after current = after at committed
      cases committed with
      | @encrypt entropy kind plaintext frame sealed room =>
          have returned : (RatchetCall.encrypt entropy kind plaintext).result current =
              .ok (.frame frame) := by
            rw [RatchetCall.result, RatchetState.encrypt_of_sealed sealed room]
            rfl
          refine .sent ⟨frame, messageKeyOf P current.sendingChain⟩ ?_ kind
            (InnerFrame.sealFrame_eq_ok.mp sealed).1 rfl
            (toNat_add_one room) rfl
          simp only [sentFrame, returned]
      | rotate pair generated contributory =>
          refine .drew pair (.rotate generated contributory) ?_ rfl rfl rfl
          exact sentFrame_of_silent fun _ => RatchetCall.result_rotate_ne_frame _ _ _
      | retained =>
          refine .idle ?_ rfl rfl rfl
          exact sentFrame_of_silent fun _ => RatchetCall.result_decrypt_ne_frame _ _ _ _
      | current =>
          refine .idle ?_ rfl rfl rfl
          exact sentFrame_of_silent fun _ => RatchetCall.result_decrypt_ne_frame _ _ _ _
      | next pair plaintext opens =>
          refine .drew pair (.next plaintext opens) ?_ rfl rfl rfl
          exact sentFrame_of_silent fun _ => RatchetCall.result_decrypt_ne_frame _ _ _ _

theorem sealed_of_sentFrame {transition : Transition (RatchetState P) RatchetCall}
    {sent : SentFrame Key} (returned : sentFrame transition = some sent) :
    ∃ entropy kind plaintext, transition.event = .encrypt entropy kind plaintext ∧
      transition.current.sealNext entropy kind plaintext = .ok sent.frame ∧
      sent.key = messageKeyOf P transition.current.sendingChain := by
  unfold sentFrame at returned
  split at returned
  · rename_i frame replied
    rcases transition with ⟨current, call, next⟩
    cases call with
    | decrypt => exact absurd replied (RatchetCall.result_decrypt_ne_frame _ _ _ _)
    | rotateSendingRatchet => exact absurd replied (RatchetCall.result_rotate_ne_frame _ _ _)
    | encrypt entropy kind plaintext =>
        cases returned
        exact ⟨entropy, kind, plaintext, rfl, (RatchetCall.sealed_of_frame replied).1, rfl⟩
  · cases returned

/-! ## The ledger of a run -/

/-- The headers of all frames sent so far, against the ratchet keys so far. -/
structure Ledger (start : RatchetState P)
    (past : List (Transition (RatchetState P) RatchetCall)) (state : RatchetState P) :
    Prop where
  numbers (key : DhPublicKey) : numbersUnder (sentFrames past) key =
    List.range (numbersUnder (sentFrames past) key).length
  previous : ∀ sent ∈ sentFrames past, ∃ earlier later,
    ratchetKeys start past = earlier ++ sent.frame.header.ratchetPublic :: later ∧
      sent.frame.header.previousChainLen.toNat =
        lengthUnderLast (sentFrames past) earlier
  slots : ((sentFrames past).map SentFrame.slot).Nodup
  distinct : (ratchetKeys start past).Nodup
  visited : ∀ key ∈ ratchetKeys start past,
    ∃ earlier ∈ Run.visited start past, earlier.dhPair.publicKey = key
  current : ∃ earlier, ratchetKeys start past = earlier ++ [state.dhPair.publicKey] ∧
    state.previousSendingChainLen.toNat = lengthUnderLast (sentFrames past) earlier
  counted : (numbersUnder (sentFrames past) state.dhPair.publicKey).length =
    state.sendingCount.toNat

theorem Ledger.initial {handshake : AuthenticatedHandshake P} {suite : AeadSuite} :
    Ledger (RatchetState.fresh handshake suite) [] (RatchetState.fresh handshake suite) where
  numbers _ := rfl
  previous := by simp [sentFrames]
  slots := List.nodup_nil
  distinct := List.nodup_singleton _
  visited := by
    intro key member
    rw [List.mem_singleton.mp member]
    exact ⟨_, List.mem_cons_self .., rfl⟩
  current := ⟨[], rfl, rfl⟩
  counted := rfl

section Steps

variable {start : RatchetState P} {past : List (Transition (RatchetState P) RatchetCall)}
  {transition : Transition (RatchetState P) RatchetCall}

theorem Ledger.visited_snoc (ledger : Ledger start past transition.current)
    {key : DhPublicKey} (member : key ∈ ratchetKeys start past) :
    ∃ earlier ∈ Run.visited start (past ++ [transition]), earlier.dhPair.publicKey = key := by
  rcases ledger.visited key member with ⟨earlier, reached, holds⟩
  refine ⟨earlier, ?_, holds⟩
  simp only [Run.visited, List.map_append, ← List.cons_append] at reached ⊢
  exact List.mem_append_left _ reached

theorem Ledger.sent_known (ledger : Ledger start past transition.current)
    {sent : SentFrame Key} (member : sent ∈ sentFrames past) :
    sent.frame.header.ratchetPublic ∈ ratchetKeys start past := by
  rcases ledger.previous sent member with ⟨earlier, later, split, _⟩
  rw [split]
  exact List.mem_append_right _ (List.mem_cons_self ..)

theorem Ledger.idle (ledger : Ledger start past transition.current)
    (silent : sentFrame transition = none)
    (pair : transition.next.dhPair = transition.current.dhPair)
    (count : transition.next.sendingCount = transition.current.sendingCount)
    (previous : transition.next.previousSendingChainLen =
      transition.current.previousSendingChainLen) :
    Ledger start (past ++ [transition]) transition.next := by
  have kept : installedKey transition = none := by
    rw [installedKey, if_pos (by rw [pair])]
  have frames : sentFrames (past ++ [transition]) = sentFrames past :=
    sentFrames_snoc_none silent
  have keys : ratchetKeys start (past ++ [transition]) = ratchetKeys start past :=
    ratchetKeys_snoc_none kept
  constructor
  · rw [frames]
    exact ledger.numbers
  · rw [frames, keys]
    exact ledger.previous
  · rw [frames]
    exact ledger.slots
  · rw [keys]
    exact ledger.distinct
  · rw [keys]
    exact fun key member => ledger.visited_snoc member
  · rw [frames, keys, pair, previous]
    exact ledger.current
  · rw [frames, pair, count]
    exact ledger.counted

theorem Ledger.drew (ledger : Ledger start past transition.current) {pair : DhKeyPair P}
    (fresh : ∀ state ∈ Run.visited start past,
      state.dhPair.publicKey ≠ pair.publicKey)
    (reached : transition.current ∈ Run.visited start past)
    (silent : sentFrame transition = none) (installed : transition.next.dhPair = pair)
    (count : transition.next.sendingCount = 0)
    (previous : transition.next.previousSendingChainLen = transition.current.sendingCount) :
    Ledger start (past ++ [transition]) transition.next := by
  have changed : installedKey transition = some pair.publicKey := by
    rw [installedKey, if_neg, installed]
    rw [installed]
    exact (fresh _ reached).symm
  have frames : sentFrames (past ++ [transition]) = sentFrames past :=
    sentFrames_snoc_none silent
  have keys : ratchetKeys start (past ++ [transition]) =
      ratchetKeys start past ++ [pair.publicKey] := ratchetKeys_snoc_some changed
  have new : pair.publicKey ∉ ratchetKeys start past := by
    intro member
    rcases ledger.visited _ member with ⟨earlier, visited, same⟩
    exact fresh earlier visited same
  rcases ledger.current with ⟨initial, ended, _⟩
  constructor
  · rw [frames]
    exact ledger.numbers
  · rw [frames, keys]
    intro sent member
    rcases ledger.previous sent member with ⟨earlier, later, split, counted⟩
    exact ⟨earlier, later ++ [pair.publicKey], by simp [split], counted⟩
  · rw [frames]
    exact ledger.slots
  · rw [keys, List.nodup_append]
    refine ⟨ledger.distinct, List.nodup_singleton _, ?_⟩
    intro key member other last same
    rw [List.mem_singleton.mp last] at same
    exact new (same ▸ member)
  · rw [keys]
    intro key member
    rcases List.mem_append.mp member with old | last
    · exact ledger.visited_snoc old
    · refine ⟨transition.next, ?_, ?_⟩
      · simp [Run.visited]
      · rw [List.mem_singleton.mp last, installed]
  · refine ⟨ratchetKeys start past, by rw [keys, installed], ?_⟩
    rw [frames, previous, lengthUnderLast, ended, List.getLast?_concat]
    exact ledger.counted.symm
  · rw [frames, installed, count, numbersUnder_of_absent]
    · rfl
    · intro entry member same
      exact new (same ▸ ledger.sent_known member)

theorem Ledger.slot_not_mem {state : RatchetState P} (ledger : Ledger start past state)
    {sent : SentFrame Key}
    (ratchetPublic : sent.frame.header.ratchetPublic = state.dhPair.publicKey)
    (number : sent.frame.header.messageNumber = state.sendingCount) :
    sent.slot ∉ (sentFrames past).map SentFrame.slot := by
  intro member
  rcases List.mem_map.mp member with ⟨entry, old, same⟩
  rw [SentFrame.slot, SentFrame.slot, Prod.mk.injEq] at same
  have listed : entry.frame.header.messageNumber.toNat ∈
      numbersUnder (sentFrames past) sent.frame.header.ratchetPublic := by
    apply List.mem_map_of_mem
    exact List.mem_filter.mpr ⟨old, by simpa using same.1⟩
  rw [ledger.numbers, List.mem_range, ratchetPublic, ledger.counted, same.2, number] at listed
  exact Nat.lt_irrefl _ listed

theorem Ledger.lengthUnderLast_snoc {state : RatchetState P} (ledger : Ledger start past state)
    {sent : SentFrame Key}
    (ratchetPublic : sent.frame.header.ratchetPublic = state.dhPair.publicKey)
    {earlier later : List DhPublicKey} {key : DhPublicKey}
    (split : ratchetKeys start past = earlier ++ key :: later) :
    lengthUnderLast (sentFrames past ++ [sent]) earlier =
      lengthUnderLast (sentFrames past) earlier := by
  rcases ledger.current with ⟨initial, ended, _⟩
  unfold lengthUnderLast
  split
  · rfl
  · rename_i last isLast
    have different := ne_last_of_nodup ledger.distinct split ended (List.mem_of_getLast? isLast)
    rw [numbersUnder_snoc_other]
    rw [ratchetPublic]
    exact different.symm

theorem Ledger.sent (ledger : Ledger start past transition.current) {sent : SentFrame Key}
    {kind : FrameKind} (returned : sentFrame transition = some sent)
    (header : sent.frame.header = transition.current.nextHeader kind)
    (pair : transition.next.dhPair = transition.current.dhPair)
    (count : transition.next.sendingCount.toNat =
      transition.current.sendingCount.toNat + 1)
    (previous : transition.next.previousSendingChainLen =
      transition.current.previousSendingChainLen) :
    Ledger start (past ++ [transition]) transition.next := by
  have kept : installedKey transition = none := by
    rw [installedKey, if_pos (by rw [pair])]
  have frames : sentFrames (past ++ [transition]) = sentFrames past ++ [sent] :=
    sentFrames_snoc_some returned
  have keys : ratchetKeys start (past ++ [transition]) = ratchetKeys start past :=
    ratchetKeys_snoc_none kept
  have ratchetPublic : sent.frame.header.ratchetPublic =
      transition.current.dhPair.publicKey := by rw [header]; rfl
  have number : sent.frame.header.messageNumber = transition.current.sendingCount := by
    rw [header]; rfl
  have extended := numbersUnder_snoc_same (sentFrames past) sent
  rcases ledger.current with ⟨initial, ended, precedes⟩
  have settled := ledger.lengthUnderLast_snoc ratchetPublic ended
  constructor
  · intro key
    rw [frames]
    by_cases here : sent.frame.header.ratchetPublic = key
    · rw [← here, extended, ratchetPublic, ledger.numbers, number, ← ledger.counted,
        List.length_append, List.length_range, List.length_singleton, List.range_succ]
    · rw [numbersUnder_snoc_other _ here]
      exact ledger.numbers key
  · rw [frames, keys]
    intro entry member
    rcases List.mem_append.mp member with old | last
    · rcases ledger.previous entry old with ⟨earlier, later, split, counted⟩
      have settled := ledger.lengthUnderLast_snoc ratchetPublic split
      exact ⟨earlier, later, split, counted.trans settled.symm⟩
    · rw [List.mem_singleton.mp last, ratchetPublic, header]
      exact ⟨initial, [], ended, precedes.trans settled.symm⟩
  · rw [frames, List.map_append, List.nodup_append]
    refine ⟨ledger.slots, List.nodup_singleton _, ?_⟩
    intro slot member other last same
    rw [List.map_singleton, List.mem_singleton] at last
    rw [same, last] at member
    exact ledger.slot_not_mem ratchetPublic number member
  · rw [keys]
    exact ledger.distinct
  · rw [keys]
    exact fun key member => ledger.visited_snoc member
  · rw [frames, keys, pair, previous]
    exact ⟨initial, ended, precedes.trans settled.symm⟩
  · rw [frames, pair, count, ← ratchetPublic, extended, List.length_append, ratchetPublic,
      ledger.counted]
    rfl

end Steps

structure SendsInOrder (start : RatchetState P)
    (transitions : List (Transition (RatchetState P) RatchetCall)) : Prop where
  sealed : ∀ sent ∈ sentFrames transitions, ∃ entropy suite plaintext,
    InnerFrame.sealFrame P entropy sent.key suite sent.frame.header plaintext =
      .ok sent.frame
  keys : ((sentFrames transitions).map SentFrame.key).Nodup
  slots : ((sentFrames transitions).map SentFrame.slot).Nodup
  numbers (key : DhPublicKey) : numbersUnder (sentFrames transitions) key =
    List.range (numbersUnder (sentFrames transitions) key).length
  previous : ∀ sent ∈ sentFrames transitions, ∃ earlier later,
    ratchetKeys start transitions = earlier ++ sent.frame.header.ratchetPublic :: later ∧
      sent.frame.header.previousChainLen.toNat =
        lengthUnderLast (sentFrames transitions) earlier

section Run

variable {handshake : AuthenticatedHandshake P} {suite : AeadSuite}
  {final : RatchetState P} {transitions : List (Transition (RatchetState P) RatchetCall)}
  (run : Run CallStep (RatchetState.fresh handshake suite) transitions final)

include run

theorem ledger_of_run (fresh : FreshPairs (RatchetState.fresh handshake suite) transitions) :
    Ledger (RatchetState.fresh handshake suite) transitions final := by
  refine run.history .initial ?_
  intro before transition after split prior step ledger
  cases numberingEnds step with
  | sent sent returned kind header pair count previous =>
      exact ledger.sent returned header pair count previous
  | drew pair draws silent installed count previous =>
      exact ledger.drew (fresh before transition after pair split draws)
        prior.final_mem_visited silent installed count previous
  | idle silent pair count previous => exact ledger.idle silent pair count previous

theorem nodup_sentKeys (kdf : P.CollisionFreeKdf)
    (derived : HandshakeRoot P handshake.rootSecret) :
    ((sentFrames transitions).map SentFrame.key).Nodup := by
  rw [sentFrames, List.map_filterMap, List.nodup_iff_pairwise_ne, List.pairwise_filterMap]
  apply Run.pairwise_of_before
  intro before transition after split earlier member key used key' uses same
  rw [split] at run
  subst same
  rcases Option.map_eq_some_iff.mp used with ⟨sent, returned, rfl⟩
  rcases Option.map_eq_some_iff.mp uses with ⟨sent', returned', sameKey⟩
  rcases sealed_of_sentFrame returned with ⟨_, _, _, event, sealed, key⟩
  rcases sealed_of_sentFrame returned' with ⟨_, _, _, event', sealed', key'⟩
  have usedThen : RatchetCall.UsesKey earlier.current earlier.event sent.key := by
    rw [event, key]
    exact .encrypt sent.frame sealed
  have usedNow : RatchetCall.UsesKey transition.current transition.event sent.key := by
    rw [event', ← sameKey, key']
    exact .encrypt sent'.frame sealed'
  exact usesKey_once_of_run kdf derived run.around.1 member usedThen usedNow

end Run

/-- Whatever is called on an endpoint, no two of the frames it returns share a number
under one ratchet key or a message key, the numbers under each ratchet key are those from
zero on, and each header tells how many frames were returned under the ratchet key
before. -/
theorem run_sendsInOrder (kdf : P.CollisionFreeKdf) {handshake : AuthenticatedHandshake P}
    (derived : HandshakeRoot P handshake.rootSecret) {suite : AeadSuite}
    {start final : RatchetState P}
    (started : RatchetState.fromAuthenticatedHandshakeWithSuite handshake suite = .ok start)
    {transitions : List (Transition (RatchetState P) RatchetCall)}
    (run : Run CallStep start transitions final) (fresh : FreshPairs start transitions) :
    SendsInOrder start transitions := by
  rw [RatchetState.fromAuthenticatedHandshakeWithSuite_eq] at started
  rw [← Outcome.ok.inj started] at run fresh ⊢
  have ledger := ledger_of_run run fresh
  constructor
  · intro sent member
    rcases List.mem_filterMap.mp member with ⟨transition, _, returned⟩
    rcases sealed_of_sentFrame returned with ⟨entropy, kind, plaintext, _, sealed, key⟩
    rw [RatchetState.sealNext] at sealed
    rw [(InnerFrame.sealFrame_eq_ok.mp sealed).1, key]
    exact ⟨entropy, _, plaintext, sealed⟩
  · exact nodup_sentKeys run kdf derived
  · exact ledger.slots
  · exact ledger.numbers
  · exact ledger.previous

theorem freshPairs_rotated :
    FreshPairs (symbolicSession .initiator)
      ((symbolicSession .initiator).trace rotatedCalls) := by
  intro before transition after pair split draws
  match before with
  | [] =>
      cases split
      cases draws
  | [sent] =>
      cases split
      cases draws with
      | rotate generated contributory =>
          rw [generate_constant] at generated
          cases generated
          decide
  | first :: second :: rest => simp [rotatedCalls, RatchetState.trace] at split

theorem run_sendsInOrder_rotated :
    SendsInOrder (symbolicSession .initiator)
      ((symbolicSession .initiator).trace rotatedCalls) :=
  run_sendsInOrder Primitives.collisionFreeKdf_symbolic handshakeEnds_sample.derived
    (starts_sampleSession .initiator) ((symbolicSession .initiator).run_trace rotatedCalls)
    freshPairs_rotated

end Mef26
