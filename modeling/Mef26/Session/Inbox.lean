import Mef26.Envelope.Delivery
import Mef26.Session.Recipient
import Mef26.Session.Reordering

namespace Mef26

/-! # The inbox of one chain

From the bytes on the wire to the plaintexts, a recipient of one sending chain does what
an inbox does that only knows the identifiers it has let in and the numbers it has read. -/

variable {Key : Type} {P : Primitives Key}

open Expiring Reception

/-! ## The inbox -/

structure Inbox where
  accepted : List (TransportMessageId × UInt64)
  read : Finset Nat

namespace Inbox

/-- What a message comes to that is let in, next to `retained` keys of other chains. -/
def answer (retained : Nat) (inbox : Inbox) (message : ChainMessage) : Result (List UInt8) :=
  if message.number ∈ inbox.read then
    .err .messageKeyConsumed
  else if Admits maxSkippedKeys retained inbox.read message.number then
    .ok message.plaintext
  else
    .err .skippedKeyLimitExceeded

structure LetsIn (capacity : Nat) (nowUnix : UInt64) (inbox : Inbox)
    (messageId : TransportMessageId) : Prop where
  new : messageId ∉ (due nowUnix inbox.accepted).map Prod.fst
  room : (due nowUnix inbox.accepted).length < capacity

def letIn (inbox : Inbox) (entry : TransportMessageId × UInt64) : Inbox :=
  { inbox with accepted := inbox.accepted ++ [entry] }

def reads (retained : Nat) (inbox : Inbox) (message : ChainMessage) : Inbox :=
  { inbox with read := receive maxSkippedKeys retained inbox.read message.number }

end Inbox

/-- What an inbox does with what an arrival carries: nothing, or the entry of an envelope
and a frame. -/
inductive InboxStep (sent : List ChainMessage) (capacity retained : Nat) (nowUnix : UInt64)
    (inbox : Inbox) : Result ((TransportMessageId × UInt64) × InnerFrame) →
      Result (List UInt8) → Inbox → Prop
  | closed (error : MefError) :
      InboxStep sent capacity retained nowUnix inbox (.err error) (.err error) inbox
  | replayed (entry : TransportMessageId × UInt64) (frame : InnerFrame)
      (known : entry.1 ∈ (due nowUnix inbox.accepted).map Prod.fst) :
      InboxStep sent capacity retained nowUnix inbox (.ok (entry, frame))
        (.err .replayDetected) inbox
  | full (entry : TransportMessageId × UInt64) (frame : InnerFrame)
      (new : entry.1 ∉ (due nowUnix inbox.accepted).map Prod.fst)
      (full : capacity ≤ (due nowUnix inbox.accepted).length) :
      InboxStep sent capacity retained nowUnix inbox (.ok (entry, frame))
        (.err .invalidState) inbox
  /-- A frame of somebody else still takes its place in the cache. -/
  | foreign (entry : TransportMessageId × UInt64) (frame : InnerFrame) (error : MefError)
      (letsIn : inbox.LetsIn capacity nowUnix entry.1)
      (foreign : ∀ message ∈ sent, message.frame ≠ frame) :
      InboxStep sent capacity retained nowUnix inbox (.ok (entry, frame)) (.err error)
        (inbox.letIn entry)
  | message (entry : TransportMessageId × UInt64) (message : ChainMessage)
      (letsIn : inbox.LetsIn capacity nowUnix entry.1) (member : message ∈ sent) :
      InboxStep sent capacity retained nowUnix inbox (.ok (entry, message.frame))
        (inbox.answer retained message) ((inbox.letIn entry).reads retained message)

/-! ## Frames that are not the sender's -/

namespace RatchetState.StandsAt

variable {chain : Key} {receiver : RatchetState P}
  {past : List (Transition (RatchetState P) RatchetCall)}
  {transition : Transition (RatchetState P) RatchetCall}

theorem acceptedNumbers_refused {error : MefError}
    (failed : transition.event.result transition.current = .err error) :
    acceptedNumbers receiver (past ++ [transition]) = acceptedNumbers receiver past := by
  have none : acceptedNumber transition = none := by
    unfold acceptedNumber
    split
    · rename_i entropy frame reply isDecrypt replied
      rw [failed] at replied
      cases replied
    · rfl
  simp [acceptedNumbers, List.filterMap_append, none]

theorem refused (stands : StandsAt chain receiver past transition.current) {error : MefError}
    (failed : transition.event.result transition.current = .err error)
    (unchanged : transition.next = transition.current) :
    StandsAt chain receiver (past ++ [transition]) transition.next := by
  rw [unchanged]
  constructor
  · rw [acceptedNumbers_refused failed]
    exact stands.state
  · rw [acceptedNumbers_refused failed]
    exact stands.small

end RatchetState.StandsAt

/-- Ideal authenticated encryption: what opens was returned by the sender. -/
def OpensOnlySent (sendings calls : List (Transition (RatchetState P) RatchetCall)) : Prop :=
  ∀ transition ∈ calls, ∀ key,
    RatchetCall.UsesKey transition.current transition.event key →
    ∃ message, Delivers sendings transition.event message

/-! ## Runs -/

/-- The inbox that a run has come to: the entries of the envelopes that were accepted and
the numbers of the messages that were decrypted. -/
def inboxOf (receiver : RatchetState P) (past : List (ReceiptTransition P)) : Inbox where
  accepted := (openings past).filterMap (Opening.acceptedEntry P)
  read := acceptedNumbers receiver (handedCalls past)

section Snoc

variable {receiver : RatchetState P} {past : List (ReceiptTransition P)}
  {transition : ReceiptTransition P}

theorem inboxOf_undecoded (noOpening : transition.event.opening = none)
    (noCall : transition.event.call transition.current = none) :
    inboxOf receiver (past ++ [transition]) = inboxOf receiver past := by
  rw [inboxOf, inboxOf, openings, handedCalls, seenSteps_snoc_none _ noOpening,
    seenSteps_snoc_none _ noCall]
  rfl

theorem inboxOf_refused {opening : Opening} {error : MefError}
    (isOpening : transition.event.opening = some opening)
    (noFrame : opening.result P transition.current.cache = .err error)
    (noCall : transition.event.call transition.current = none) :
    inboxOf receiver (past ++ [transition]) = inboxOf receiver past := by
  have noEntry : Opening.acceptedEntry P
      ⟨transition.current.cache, opening, transition.next.cache⟩ = none := by
    rw [Opening.acceptedEntry, noFrame]
  rw [inboxOf, inboxOf, openings, handedCalls, seenSteps_snoc_some _ isOpening,
    seenSteps_snoc_none _ noCall, List.filterMap_append, List.filterMap_cons_none noEntry,
    List.filterMap_nil, List.append_nil]
  rfl

theorem inboxOf_handed {opening : Opening} {frame : InnerFrame} {call : RatchetCall}
    (isOpening : transition.event.opening = some opening)
    (opened : opening.result P transition.current.cache = .ok frame)
    (isCall : transition.event.call transition.current = some call) :
    inboxOf receiver (past ++ [transition]) =
      { (inboxOf receiver past).letIn opening.entry with
        read := acceptedNumbers receiver (handedCalls past ++
          [⟨transition.current.ratchet, call, transition.next.ratchet⟩]) } := by
  have entry : Opening.acceptedEntry P
      ⟨transition.current.cache, opening, transition.next.cache⟩ = some opening.entry :=
    Opening.acceptedEntry_of_ok opened
  rw [inboxOf, inboxOf, openings, handedCalls, seenSteps_snoc_some _ isOpening,
    seenSteps_snoc_some _ isCall, List.filterMap_append, List.filterMap_cons_some entry]
  rfl

end Snoc

def ClockedReceipts (transitions : List (ReceiptTransition P)) : Prop :=
  transitions.Pairwise fun first second => first.event.nowUnix ≤ second.event.nowUnix

theorem exists_receipt_of_opening {past : List (ReceiptTransition P)}
    {seen : Transition ReplayCache Opening} (member : seen ∈ openings past) :
    ∃ transition ∈ past, seen.event.nowUnix = transition.event.nowUnix := by
  rcases mem_seenSteps.mp member with ⟨transition, inside, isSeen⟩
  rcases Option.map_eq_some_iff.mp isSeen with ⟨opening, isOpening, rfl⟩
  exact ⟨transition, inside, Receipt.nowUnix_of_opening isOpening⟩

theorem ClockedReceipts.clocked {transitions : List (ReceiptTransition P)}
    (clock : ClockedReceipts transitions) : Clocked (openings transitions) := by
  apply List.pairwise_filterMap.mpr
  apply clock.imp
  intro first second ordered opening isFirst opening' isSecond
  rcases Option.map_eq_some_iff.mp isFirst with ⟨_, isOpening, rfl⟩
  rcases Option.map_eq_some_iff.mp isSecond with ⟨_, isOpening', rfl⟩
  rw [Receipt.nowUnix_of_opening isOpening, Receipt.nowUnix_of_opening isOpening']
  exact ordered

section Run

variable (aead : P.LawfulAead) {chain : Key} {sender senderFinal : RatchetState P}
  {start final : Recipient P} {sendings : List (Transition (RatchetState P) RatchetCall)}
  {capacity : Nat} (receives : start.ratchet.ReceivesFrom chain sender)
  (sending : Run CallStep sender sendings senderFinal)
  (oneChain : ∀ transition ∈ sendings, ∀ pair,
    ¬RatchetCall.DrawsPair transition.current transition.event pair)

include aead receives sending oneChain in
theorem onChain_of_sent {message : ChainMessage}
    (sent : message ∈ sendings.filterMap chainMessage) :
    start.ratchet.OnChain chain message := by
  rcases List.mem_filterMap.mp sent with ⟨transition, member, returned⟩
  exact receives.onChain aead (receives.keepsChain sending oneChain member) returned

include aead receives sending oneChain in
/-- The ratchet stands where the messages it has read have brought it, whatever else it
was handed. -/
theorem standsAt_of_calls {state : RatchetState P}
    {calls : List (Transition (RatchetState P) RatchetCall)}
    (run : Run CallStep start.ratchet calls state) (opensOnly : OpensOnlySent sendings calls)
    (decrypts : ∀ transition ∈ calls, ∃ entropy frame, transition.event = .decrypt entropy frame) :
    RatchetState.StandsAt chain start.ratchet calls state := by
  apply run.history (.initial receives.receiving)
  intro before transition after split _ step stands
  have member : transition ∈ calls := split ▸ List.mem_append_right _ (List.mem_cons_self ..)
  by_cases genuine : ∃ message, Delivers sendings transition.event message
  · rcases genuine with ⟨message, sent, entropy, isDecrypt⟩
    exact stands.snoc receives.others (onChain_of_sent aead receives sending oneChain sent)
      isDecrypt step
  · rcases decrypts transition member with ⟨entropy, frame, isDecrypt⟩
    have unused (key : Key) :
        ¬RatchetCall.UsesKey transition.current (.decrypt entropy frame) key := by
      intro uses
      exact genuine (opensOnly transition member key (isDecrypt ▸ uses))
    rcases RatchetCall.refused_of_unused unused with ⟨error, failed, unchanged⟩
    rw [← isDecrypt] at failed unchanged
    exact stands.refused failed (step.symm.trans unchanged)

end Run

/-! ## The refinement -/

structure StandsAsInbox (chain : Key) (capacity : Nat) (receiver : RatchetState P)
    (past : List (ReceiptTransition P)) (recipient : Recipient P) : Prop where
  cache : Opening.Tracks P capacity (openings past) recipient.cache
  ratchet : RatchetState.StandsAt chain receiver (handedCalls past) recipient.ratchet

section Step

variable {chain : Key} {capacity : Nat} {receiver : RatchetState P}
  {past : List (ReceiptTransition P)} {transition : ReceiptTransition P}
  (stands : StandsAsInbox chain capacity receiver past transition.current)
  (clock : ∀ earlier ∈ past, earlier.event.nowUnix ≤ transition.event.nowUnix)

include stands clock

theorem StandsAsInbox.result_eq {opening : Opening}
    (isOpening : transition.event.opening = some opening) :
    opening.result P transition.current.cache =
      opening.answer P capacity (inboxOf receiver past).accepted := by
  apply stands.cache.result_eq
  intro seen member
  rcases exists_receipt_of_opening member with ⟨earlier, inside, same⟩
  rw [same, Receipt.nowUnix_of_opening isOpening]
  exact clock earlier inside

theorem StandsAsInbox.refused {sent : List ChainMessage} {opening : Opening} {error : MefError}
    (isOpening : transition.event.opening = some opening)
    (noFrame : opening.result P transition.current.cache = .err error) :
    InboxStep sent capacity receiver.skipped.length transition.event.nowUnix
      (inboxOf receiver past) (transition.event.carried P) (.err error)
      (inboxOf receiver past) := by
  have now := Receipt.nowUnix_of_opening isOpening
  rw [stands.result_eq clock isOpening] at noFrame
  rw [Receipt.carried_of_opening isOpening, ← now]
  cases opened : opening.envelope.openInner P opening.secret opening.nowUnix with
  | panic => exact absurd opened (OuterEnvelope.openInner_ne_panic _ _ _)
  | err inner =>
      rw [Opening.answer_of_closed opened] at noFrame
      cases noFrame
      exact .closed error
  | ok frame =>
      rw [Opening.answer_of_opened opened] at noFrame
      split at noFrame
      · rename_i known
        cases noFrame
        exact .replayed opening.entry frame known
      · rename_i new
        split at noFrame
        · rename_i full
          cases noFrame
          exact .full opening.entry frame new full
        · cases noFrame

theorem StandsAsInbox.letsIn {opening : Opening} {frame : InnerFrame}
    (isOpening : transition.event.opening = some opening)
    (opened : opening.result P transition.current.cache = .ok frame) :
    transition.event.carried P = .ok (opening.entry, frame) ∧
      (inboxOf receiver past).LetsIn capacity transition.event.nowUnix opening.entry.1 := by
  have now := Receipt.nowUnix_of_opening isOpening
  have inner := (Opening.checks_of_result opened).1
  rw [stands.result_eq clock isOpening, Opening.answer_of_opened inner] at opened
  rw [Receipt.carried_of_opening isOpening, ← now, inner]
  split at opened
  · cases opened
  · rename_i new
    split at opened
    · cases opened
    · rename_i room
      exact ⟨rfl, new, Nat.not_le.mp room⟩

theorem StandsAsInbox.message {sent : List ChainMessage} {opening : Opening}
    {message : ChainMessage} {next : RatchetState P}
    (others : ∀ entry ∈ receiver.skipped, entry.remoteDh ≠ receiver.remoteDh)
    (onChain : receiver.OnChain chain message) (member : message ∈ sent)
    (isOpening : transition.event.opening = some opening)
    (opened : opening.result P transition.current.cache = .ok message.frame)
    (moved : CallStep transition.current.ratchet
      (.decrypt transition.event.entropy message.frame) next) :
    InboxStep sent capacity receiver.skipped.length transition.event.nowUnix
      (inboxOf receiver past) (transition.event.carried P)
      (RatchetState.decrypt transition.event.entropy message.frame
        transition.current.ratchet).1
      { (inboxOf receiver past).letIn opening.entry with
        read := acceptedNumbers receiver (handedCalls past ++ [⟨transition.current.ratchet,
          .decrypt transition.event.entropy message.frame, next⟩]) } := by
  rcases stands.letsIn clock isOpening opened with ⟨carried, letsIn⟩
  have answers := @RatchetState.StandsAt.answersAs _ _ _ _ _ ⟨transition.current.ratchet,
    .decrypt transition.event.entropy message.frame, next⟩ _ stands.ratchet others onChain
    transition.event.entropy rfl moved
  rw [carried, RatchetState.acceptedNumbers_snoc rfl answers.result]
  have answered : (RatchetState.decrypt transition.event.entropy message.frame
      transition.current.ratchet).1 =
        (inboxOf receiver past).answer receiver.skipped.length message := by
    exact Outcome.map_injective (fun _ _ => RatchetReply.plaintext.inj) answers.result
  rw [answered]
  exact .message opening.entry message letsIn member

theorem StandsAsInbox.foreign {sent : List ChainMessage} {opening : Opening}
    {frame : InnerFrame} {next : RatchetState P}
    (foreign : ∀ message ∈ sent, message.frame ≠ frame)
    (unused : ∀ key, ¬RatchetCall.UsesKey transition.current.ratchet
      (.decrypt transition.event.entropy frame) key)
    (isOpening : transition.event.opening = some opening)
    (opened : opening.result P transition.current.cache = .ok frame) :
    InboxStep sent capacity receiver.skipped.length transition.event.nowUnix
      (inboxOf receiver past) (transition.event.carried P)
      (RatchetState.decrypt transition.event.entropy frame transition.current.ratchet).1
      { (inboxOf receiver past).letIn opening.entry with
        read := acceptedNumbers receiver (handedCalls past ++ [⟨transition.current.ratchet,
          .decrypt transition.event.entropy frame, next⟩]) } := by
  rcases stands.letsIn clock isOpening opened with ⟨carried, letsIn⟩
  rcases RatchetCall.refused_of_unused unused with ⟨error, failed, _⟩
  rw [carried, RatchetState.StandsAt.acceptedNumbers_refused failed]
  have answered : (RatchetState.decrypt transition.event.entropy frame
      transition.current.ratchet).1 = .err error :=
    Outcome.map_injective (fun _ _ => RatchetReply.plaintext.inj) failed
  rw [answered]
  exact .foreign opening.entry frame error letsIn foreign

end Step

/-! ## A message on its way -/

/-- The bytes of an envelope that a message of the sender was sealed into. -/
structure Posted (P : Primitives Key) (sent : List ChainMessage) (secret : DhSecretKey)
    (bytes : List UInt8) (entry : TransportMessageId × UInt64) (message : ChainMessage) :
    Prop where
  member : message ∈ sent
  wrapped : ∃ ephemeralEntropy idEntropy nonceEntropy mailbox paddingLen envelope,
    OuterEnvelope.sealEnvelope P ephemeralEntropy idEntropy nonceEntropy
        (P.x25519PublicKey secret) mailbox entry.2 message.frame paddingLen = .ok envelope ∧
      envelope.messageId = entry.1 ∧ envelope.encode = .ok bytes

theorem OuterEnvelope.openInner_of_expired {envelope : OuterEnvelope} {secret : DhSecretKey}
    {nowUnix : UInt64} (expired : envelope.expiresAtUnix < nowUnix) :
    envelope.openInner P secret nowUnix = .err .envelopeExpired := by
  rw [openInner, openEnvelope, Outcome.rejectIf_of _ expired]
  rfl

/-- What a posted message carries depends on the time it arrives at alone. -/
theorem Posted.carried (aead : P.LawfulAead) (agreement : P.LawfulX25519)
    {sent : List ChainMessage} {receipt : Receipt} {entry : TransportMessageId × UInt64}
    {message : ChainMessage} (posted : Posted P sent receipt.secret receipt.bytes entry message) :
    receipt.carried P = if receipt.nowUnix ≤ entry.2 then .ok (entry, message.frame)
      else .err .envelopeExpired := by
  rcases posted.wrapped with ⟨_, _, _, _, _, envelope, isSealed, identified, encoded⟩
  have expiry : envelope.expiresAtUnix = entry.2 := by
    rcases OuterEnvelope.sealEnvelope_eq_ok.mp isSealed
      with ⟨_, _, _, _, _, _, expiry, _⟩
    exact expiry
  rw [OuterEnvelope.encode_eq, Outcome.ok.injEq] at encoded
  have decoded : OuterEnvelope.decode receipt.bytes = .ok envelope :=
    OuterEnvelope.decode_eq_ok.mpr encoded.symm
  rw [Receipt.carried, decoded, Outcome.ok_bind]
  by_cases fresh : receipt.nowUnix ≤ entry.2
  · rw [if_pos fresh,
      OuterEnvelope.openInner_of_sealEnvelope aead agreement isSealed rfl fresh, identified,
      expiry]
    rfl
  · rw [if_neg fresh, OuterEnvelope.openInner_of_expired (expiry ▸ UInt64.not_le.mp fresh)]
    rfl

theorem opensOnlySent_of_posted (aead : P.LawfulAead) (agreement : P.LawfulX25519)
    {sendings : List (Transition (RatchetState P) RatchetCall)}
    {transitions : List (ReceiptTransition P)}
    (posted : ∀ transition ∈ transitions, ∃ entry message,
      Posted P (sendings.filterMap chainMessage) transition.event.secret
        transition.event.bytes entry message) :
    OpensOnlySent sendings (handedCalls transitions) := by
  intro seen member key _
  rcases mem_seenSteps.mp member with ⟨transition, inside, isSeen⟩
  rcases Option.map_eq_some_iff.mp isSeen with ⟨call, isCall, rfl⟩
  rcases Receipt.exists_decrypt_of_call isCall with ⟨frame, rfl⟩
  rcases posted transition inside with ⟨entry, message, isPosted⟩
  rcases Receipt.carried_of_call isCall with ⟨carriedEntry, carried⟩
  rw [isPosted.carried aead agreement] at carried
  split at carried
  · cases carried
    exact ⟨message, isPosted.member, _, rfl⟩
  · cases carried

/-! ## Whole runs -/

structure RefinesInbox (chain : Key) (sent : List ChainMessage) (capacity : Nat)
    (receiver : RatchetState P) (final : Recipient P)
    (transitions : List (ReceiptTransition P)) : Prop where
  steps (before : List (ReceiptTransition P)) (transition : ReceiptTransition P)
    (after : List (ReceiptTransition P)) : transitions = before ++ transition :: after →
    InboxStep sent capacity receiver.skipped.length transition.event.nowUnix
      (inboxOf receiver before) (transition.event.carried P)
      (transition.event.result transition.current)
      (inboxOf receiver (before ++ [transition]))
  ratchet : final.ratchet = receiver.accepting chain (inboxOf receiver transitions).read
  cache (nowUnix : UInt64) : (∀ earlier ∈ transitions, earlier.event.nowUnix ≤ nowUnix) →
    due nowUnix final.cache.entries = due nowUnix (inboxOf receiver transitions).accepted
  posted (receipt : Receipt) (entry : TransportMessageId × UInt64) (message : ChainMessage) :
    Posted P sent receipt.secret receipt.bytes entry message →
    receipt.carried P = if receipt.nowUnix ≤ entry.2 then .ok (entry, message.frame)
      else .err .envelopeExpired

section Run

variable (aead : P.LawfulAead) (agreement : P.LawfulX25519) {chain : Key}
  {sender senderFinal : RatchetState P} {start final : Recipient P}
  {sendings : List (Transition (RatchetState P) RatchetCall)} {capacity : Nat}
  (receives : start.ratchet.ReceivesFrom chain sender)
  (sending : Run CallStep sender sendings senderFinal)
  (oneChain : ∀ transition ∈ sendings, ∀ pair,
    ¬RatchetCall.DrawsPair transition.current transition.event pair)
  (created : ReplayCache.new capacity = .ok start.cache)
  {transitions : List (ReceiptTransition P)}
  (run : Run ReceiveStep start transitions final) (clock : ClockedReceipts transitions)
  (opensOnly : OpensOnlySent sendings (handedCalls transitions))

include aead receives sending oneChain created

theorem standsAsInbox_of_run {past : List (ReceiptTransition P)} {recipient : Recipient P}
    (run : Run ReceiveStep start past recipient) (clock : ClockedReceipts past)
    (opensOnly : OpensOnlySent sendings (handedCalls past)) :
    StandsAsInbox chain capacity start.ratchet past recipient where
  cache := tracks_of_run created (run_openings run) clock.clocked
  ratchet := by
    apply standsAt_of_calls aead receives sending oneChain (run_handedCalls run) opensOnly
    intro seen member
    rcases mem_seenSteps.mp member with ⟨transition, _, isSeen⟩
    rcases Option.map_eq_some_iff.mp isSeen with ⟨call, isCall, rfl⟩
    rcases Receipt.exists_decrypt_of_call isCall with ⟨frame, rfl⟩
    exact ⟨_, frame, rfl⟩

include run clock opensOnly

theorem inboxStep_of_run {before after : List (ReceiptTransition P)}
    {transition : ReceiptTransition P} (split : transitions = before ++ transition :: after) :
    InboxStep (sendings.filterMap chainMessage) capacity start.ratchet.skipped.length
      transition.event.nowUnix (inboxOf start.ratchet before) (transition.event.carried P)
      (transition.event.result transition.current)
      (inboxOf start.ratchet (before ++ [transition])) := by
  subst split
  rcases List.pairwise_append.mp clock with ⟨clockBefore, _, ordered⟩
  have now : ∀ earlier ∈ before, earlier.event.nowUnix ≤ transition.event.nowUnix :=
    fun earlier member => ordered earlier member transition (List.mem_cons_self ..)
  have opensBefore : OpensOnlySent sendings (handedCalls before) := by
    intro seen member
    apply opensOnly
    rw [handedCalls, seenSteps, List.filterMap_append]
    exact List.mem_append_left _ member
  have stands := standsAsInbox_of_run aead receives sending oneChain created run.around.1
    clockBefore opensBefore
  have step := run.around.2.1
  cases transition.event.ends transition.current with
  | undecoded error unread noOpening noCall failed unchanged =>
      rw [failed, inboxOf_undecoded noOpening noCall, Receipt.carried, unread]
      exact .closed error
  | refused opening error isOpening noFrame noCall failed kept =>
      rw [failed, inboxOf_refused isOpening noFrame noCall]
      exact stands.refused now isOpening noFrame
  | handed opening frame isOpening opened isCall answered moved =>
      rw [answered, inboxOf_handed isOpening opened isCall]
      by_cases genuine : ∃ message ∈ sendings.filterMap chainMessage, message.frame = frame
      · rcases genuine with ⟨message, member, rfl⟩
        apply stands.message now receives.others
          (onChain_of_sent aead receives sending oneChain member) member isOpening opened
        exact (congrArg Recipient.ratchet moved).symm.trans (congrArg Recipient.ratchet step)
      · apply stands.foreign now _ _ isOpening opened
        · intro message member same
          exact genuine ⟨message, member, same⟩
        · intro key uses
          have seen : seenStep Recipient.ratchet (fun transition : ReceiptTransition P =>
              transition.event.call transition.current) transition =
                some ⟨transition.current.ratchet, .decrypt transition.event.entropy frame,
                  transition.next.ratchet⟩ := seenStep_of_some isCall
          have inside : transition ∈ before ++ transition :: after :=
            List.mem_append_right _ (List.mem_cons_self ..)
          rcases opensOnly _ (mem_seenSteps.mpr ⟨transition, inside, seen⟩) key uses
            with ⟨message, sent, _, isDecrypt⟩
          cases isDecrypt
          exact genuine ⟨message, sent, rfl⟩

include agreement

/-- A recipient of one chain refines an inbox, from the bytes of the envelopes to the
plaintexts: it answers by the identifiers let in that have not expired and by the numbers
read, whatever arrives and in whatever order. -/
theorem run_refinesInbox :
    RefinesInbox chain (sendings.filterMap chainMessage) capacity start.ratchet final
      transitions := by
  have stands := standsAsInbox_of_run aead receives sending oneChain created run clock opensOnly
  constructor
  · intro before transition after split
    exact inboxStep_of_run aead receives sending oneChain created run clock opensOnly split
  · exact stands.ratchet.state
  · intro nowUnix latest
    apply stands.cache.reflects nowUnix _ _ (UInt64.le_refl _)
    intro seen member
    rcases exists_receipt_of_opening member with ⟨earlier, inside, same⟩
    rw [same]
    exact latest earlier inside
  · intro receipt entry message posted
    exact posted.carried aead agreement

end Run

/-! ## One envelope, twice -/

def symbolicEnvelope : OuterEnvelope where
  mailbox := .replicate 32 9
  messageId := .replicate 16 5
  expiresAtUnix := 100
  senderEphemeral := .replicate 32 6
  ciphertext := {
    suite := .xChaCha20Poly1305
    nonce := List.replicate 24 0
    body := symbolicFrame.wireBytes ++ List.replicate 23 0
    nonce_length := InnerFrame.length_zeroNonce
    tag_le_body := by decide +kernel
    body_le_limit := by decide +kernel }
  suite_eq := rfl

theorem symbolicEnvelope_sealed :
    OuterEnvelope.sealEnvelope Primitives.symbolic (constantEntropy 6) (constantEntropy 5)
      (constantEntropy 0) (Primitives.symbolic.x25519PublicKey (.replicate 32 1))
      (.replicate 32 9) 100 symbolicFrame 7 = .ok symbolicEnvelope := by
  decide +kernel

def symbolicReceipt : Receipt where
  bytes := symbolicEnvelope.wireBytes
  secret := .replicate 32 1
  nowUnix := 100
  entropy := constantEntropy 3

def symbolicRecipient : Recipient Primitives.symbolic :=
  ⟨emptyCache, symbolicSession .responder⟩

def repeatedReceipts : List (ReceiptTransition Primitives.symbolic) :=
  [⟨symbolicRecipient, symbolicReceipt, symbolicReceipt.after symbolicRecipient⟩,
    ⟨symbolicReceipt.after symbolicRecipient, symbolicReceipt,
      symbolicReceipt.after (symbolicReceipt.after symbolicRecipient)⟩]

theorem symbolicFrame_sent : (⟨symbolicFrame, []⟩ : ChainMessage) ∈
    ((symbolicSession .initiator).trace [sampleCall]).filterMap chainMessage := by
  apply List.mem_filterMap.mpr
  refine ⟨_, List.mem_singleton_self _, ?_⟩
  simp only [chainMessage, result_sampleCall]
  rfl

theorem posted_symbolic : Posted Primitives.symbolic
    (((symbolicSession .initiator).trace [sampleCall]).filterMap chainMessage)
    symbolicReceipt.secret symbolicReceipt.bytes (.replicate 16 5, 100)
    ⟨symbolicFrame, []⟩ where
  member := symbolicFrame_sent
  wrapped := ⟨_, _, _, _, _, _, symbolicEnvelope_sealed, rfl, symbolicEnvelope.encode_eq⟩

theorem event_of_repeated {transition : ReceiptTransition Primitives.symbolic}
    (member : transition ∈ repeatedReceipts) : transition.event = symbolicReceipt := by
  simp only [repeatedReceipts, List.mem_cons, List.not_mem_nil, or_false] at member
  rcases member with rfl | rfl <;> rfl

theorem run_refinesInbox_repeated :
    RefinesInbox (symbolicSession .initiator).sendingChain
      (((symbolicSession .initiator).trace [sampleCall]).filterMap chainMessage) 1
      (symbolicSession .responder)
      (symbolicReceipt.after (symbolicReceipt.after symbolicRecipient)) repeatedReceipts := by
  refine @run_refinesInbox _ _ Primitives.lawfulAead_symbolic Primitives.lawfulX25519_symbolic
    _ _ _ symbolicRecipient _ _ 1 receivesFrom_sample
    ((symbolicSession .initiator).run_trace [sampleCall]) ?_ rfl _
    (.cons rfl (.cons rfl (.nil _))) ?_ ?_
  · intro transition member pair draws
    rw [List.mem_singleton.mp member] at draws
    cases draws
  · exact List.pairwise_pair.mpr (UInt64.le_refl _)
  · apply opensOnlySent_of_posted Primitives.lawfulAead_symbolic
      Primitives.lawfulX25519_symbolic
    intro transition member
    rw [event_of_repeated member]
    exact ⟨_, _, posted_symbolic⟩

end Mef26
