import Mef26.Session.Network
import Mef26.Session.Recipient

namespace Mef26

/-! # Two hosts over mailboxes

Each host encrypts, rotates, and takes whatever bytes arrive at its mailbox, at any time
and with any clock. What its ratchet sees of this is a session. -/

variable {Key : Type} {P : Primitives Key}

inductive MailEvent
  | encrypt (side : RatchetRole) (entropy : Entropy) (kind : FrameKind)
      (plaintext : List UInt8)
  | rotateSendingRatchet (side : RatchetRole) (entropy : Entropy)
  | receive (side : RatchetRole) (receipt : Receipt)

namespace MailEvent

def side : MailEvent → RatchetRole
  | .encrypt side _ _ _ => side
  | .rotateSendingRatchet side _ => side
  | .receive side _ => side

def call : MailEvent → Recipient P → Option RatchetCall
  | .encrypt _ entropy kind plaintext, _ => some (.encrypt entropy kind plaintext)
  | .rotateSendingRatchet _ entropy, _ => some (.rotateSendingRatchet entropy)
  | .receive _ receipt, host => receipt.call host

def after : MailEvent → Recipient P → Recipient P
  | .encrypt _ entropy kind plaintext, host =>
      (Recipient.onRatchet (RatchetState.encrypt entropy kind plaintext) host).2
  | .rotateSendingRatchet _ entropy, host =>
      (Recipient.onRatchet (RatchetState.rotateSendingRatchet entropy) host).2
  | .receive _ receipt, host => receipt.after host

theorem ratchet_after (event : MailEvent) (host : Recipient P) :
    (event.after host).ratchet = match event.call host with
      | some call => call.after host.ratchet
      | none => host.ratchet := by
  cases event with
  | encrypt | rotateSendingRatchet => rfl
  | receive side receipt =>
      rw [after, call]
      cases receipt.ends host with
      | undecoded error _ _ noCall _ unchanged => rw [noCall, unchanged]
      | refused opening error _ _ noCall _ kept => rw [noCall, kept]
      | handed opening frame _ _ isCall _ moved => rw [isCall, moved]

end MailEvent

variable (P) in
abbrev Mail := RatchetRole → Recipient P

def Mail.after (mail : Mail P) (event : MailEvent) : Mail P :=
  Function.update mail event.side (event.after (mail event.side))

def MailStep (mail : Mail P) (event : MailEvent) (next : Mail P) : Prop :=
  next = Function.update mail event.side (event.after (mail event.side))

variable (P) in
abbrev MailTransition := Transition (Mail P) MailEvent

/-! ## What the ratchets see -/

def Mail.session (mail : Mail P) : Session P := fun side => (mail side).ratchet

theorem Mail.session_update (mail : Mail P) (event : MailEvent) :
    (mail.after event).session =
      Function.update mail.session event.side (event.after (mail event.side)).ratchet :=
  Function.comp_update Recipient.ratchet mail event.side _

theorem Mail.session_after (mail : Mail P) (event : MailEvent) :
    (mail.after event).session = match event.call (mail event.side) with
      | some call => mail.session.after ⟨event.side, call⟩
      | none => mail.session := by
  rw [mail.session_update, event.ratchet_after]
  cases event.call (mail event.side) with
  | none => exact Function.update_eq_self event.side mail.session
  | some call => rfl

def MailTransition.sessionEvent (transition : MailTransition P) : Option SessionEvent :=
  (transition.event.call (transition.current transition.event.side)).map
    (⟨transition.event.side, ·⟩)

def sessionOf (transitions : List (MailTransition P)) : List (SessionTransition P) :=
  seenSteps Mail.session MailTransition.sessionEvent transitions

theorem run_sessionOf {start final : Mail P} {transitions : List (MailTransition P)}
    (run : Run MailStep start transitions final) :
    Run SessionStep start.session (sessionOf transitions) final.session := by
  apply run.seen
  · intro transition _ step event isEvent
    rcases Option.map_eq_some_iff.mp isEvent with ⟨call, isCall, rfl⟩
    have moved := transition.current.session_after transition.event
    rw [isCall] at moved
    exact (congrArg Mail.session step).trans moved
  · intro transition _ step noEvent
    have unmoved := transition.current.session_after transition.event
    rw [Option.map_eq_none_iff.mp noEvent] at unmoved
    exact (congrArg Mail.session step).trans unmoved

theorem MailTransition.event_of_encrypt {transition : MailTransition P} {side : RatchetRole}
    {entropy : Entropy} {kind : FrameKind} {plaintext : List UInt8}
    (isEvent : transition.sessionEvent = some ⟨side, .encrypt entropy kind plaintext⟩) :
    transition.event = .encrypt side entropy kind plaintext := by
  rcases transition with ⟨mail, event, next⟩
  rcases Option.map_eq_some_iff.mp isEvent with ⟨call, isCall, same⟩
  cases same
  cases event with
  | encrypt side' entropy' kind' plaintext' =>
      cases isCall
      rfl
  | rotateSendingRatchet => cases isCall
  | receive side' receipt =>
      rcases receipt.exists_decrypt_of_call isCall with ⟨frame, isDecrypt⟩
      cases isDecrypt

/-! ## What is read -/

def MailTransition.readFrame (transition : MailTransition P) : Option InnerFrame :=
  match transition.event with
  | .receive side receipt =>
      match receipt.result (transition.current side), receipt.carried P with
      | .ok _, .ok (_, frame) => some frame
      | _, _ => none
  | _ => none

def readFrames (transitions : List (MailTransition P)) : List InnerFrame :=
  transitions.filterMap MailTransition.readFrame

theorem Receipt.call_of_result {receipt : Receipt} {host : Recipient P}
    {plaintext : List UInt8} (read : receipt.result host = .ok plaintext) :
    ∃ entry frame, receipt.carried P = .ok (entry, frame) ∧
      receipt.call host = some (.decrypt receipt.entropy frame) ∧
      (RatchetCall.decrypt receipt.entropy frame).result host.ratchet =
        .ok (.plaintext plaintext) := by
  cases receipt.ends host with
  | undecoded error _ _ _ failed | refused opening error _ _ _ failed =>
      rw [failed] at read
      cases read
  | handed opening frame _ _ isCall answered =>
      rcases Receipt.carried_of_call isCall with ⟨entry, carried⟩
      refine ⟨entry, frame, carried, isCall, ?_⟩
      rw [RatchetCall.result, ← answered, read]
      rfl

theorem readFrame_eq (transition : MailTransition P) :
    transition.readFrame =
      (seenStep Mail.session MailTransition.sessionEvent transition).bind
        SessionTransition.acceptedFrame := by
  rcases transition with ⟨mail, event, next⟩
  cases event with
  | encrypt side entropy kind plaintext => rfl
  | rotateSendingRatchet side entropy => rfl
  | receive side receipt =>
      have silent (noCall : receipt.call (mail side) = none) :
          seenStep Mail.session MailTransition.sessionEvent
            (⟨mail, .receive side receipt, next⟩ : MailTransition P) = none :=
        seenStep_of_none (Option.map_eq_none_iff.mpr noCall)
      rw [MailTransition.readFrame]
      cases receipt.ends (mail side) with
      | undecoded error _ _ noCall failed | refused opening error _ _ noCall failed =>
          simp only [failed, silent noCall, Option.bind_none]
      | handed opening frame _ _ isCall answered =>
          rcases Receipt.carried_of_call isCall with ⟨entry, carried⟩
          have seen : seenStep Mail.session MailTransition.sessionEvent
              (⟨mail, .receive side receipt, next⟩ : MailTransition P) =
                some ⟨mail.session, ⟨side, .decrypt receipt.entropy frame⟩, next.session⟩ :=
            seenStep_of_some (Option.map_eq_some_iff.mpr ⟨_, isCall, rfl⟩)
          simp only [answered, carried, seen, Option.bind_some,
            SessionTransition.acceptedFrame, SessionTransition.reply, RatchetCall.result,
            Mail.session]
          cases (RatchetState.decrypt receipt.entropy frame (mail side).ratchet).1 <;> rfl

theorem readFrames_eq (transitions : List (MailTransition P)) :
    readFrames transitions = acceptedFrames (sessionOf transitions) := by
  rw [acceptedFrames, sessionOf, seenSteps, List.filterMap_filterMap]
  exact List.filterMap_congr fun transition _ => readFrame_eq transition

/-! ## What the replay caches see -/

def MailTransition.opening (side : RatchetRole) (transition : MailTransition P) :
    Option Opening :=
  match transition.event with
  | .receive receiver receipt => if receiver = side then receipt.opening else none
  | _ => none

def openingsOf (side : RatchetRole) (transitions : List (MailTransition P)) :
    List (Transition ReplayCache Opening) :=
  seenSteps (fun mail => (mail side).cache) (MailTransition.opening side) transitions

theorem Receipt.cache_after (receipt : Receipt) (host : Recipient P) :
    (receipt.after host).cache = match receipt.opening with
      | some opening => opening.after P host.cache
      | none => host.cache := by
  cases receipt.ends host with
  | undecoded error _ noOpening _ _ unchanged => rw [noOpening, unchanged]
  | refused opening error isOpening _ _ _ kept => rw [isOpening, kept]
  | handed opening frame isOpening _ _ _ moved => rw [isOpening, moved]

theorem MailStep.cache_next {transition : MailTransition P}
    (step : MailStep transition.current transition.event transition.next) (side : RatchetRole) :
    (transition.next side).cache = match transition.opening side with
      | some opening => opening.after P (transition.current side).cache
      | none => (transition.current side).cache := by
  rcases transition with ⟨mail, event, next⟩
  simp only [MailTransition.opening]
  rw [show next = _ from step]
  by_cases here : event.side = side
  · subst here
    rw [Function.update_self]
    cases event with
    | encrypt | rotateSendingRatchet => rfl
    | receive receiver receipt =>
        simp only [MailEvent.after, Receipt.cache_after, MailEvent.side, if_true]
  · rw [Function.update_of_ne (Ne.symm here)]
    cases event with
    | encrypt | rotateSendingRatchet => rfl
    | receive receiver receipt =>
        have elsewhere : ¬receiver = side := here
        simp only [if_neg elsewhere]

theorem run_openingsOf {start final : Mail P} {transitions : List (MailTransition P)}
    (run : Run MailStep start transitions final) (side : RatchetRole) :
    Run (OpeningStep P) (start side).cache (openingsOf side transitions)
      (final side).cache := by
  apply @Run.seen _ _ _ _ MailStep (OpeningStep P) (fun mail => (mail side).cache)
    (MailTransition.opening side) _ _ _ run
  · intro transition _ step opening isOpening
    rw [step.cache_next side, isOpening]
    rfl
  · intro transition _ step noOpening
    rw [step.cache_next side, noOpening]

theorem MailTransition.receive_of_opening {side : RatchetRole}
    {transition : MailTransition P} {opening : Opening}
    (isOpening : transition.opening side = some opening) :
    ∃ receipt, transition.event = .receive side receipt ∧ receipt.opening = some opening := by
  rcases transition with ⟨mail, event, next⟩
  cases event with
  | encrypt | rotateSendingRatchet => cases isOpening
  | receive receiver receipt =>
      simp only [MailTransition.opening] at isOpening
      by_cases here : receiver = side
      · subst here
        rw [if_pos rfl] at isOpening
        exact ⟨receipt, rfl, isOpening⟩
      · rw [if_neg here] at isOpening
        cases isOpening

theorem MailTransition.opening_of_receive {side : RatchetRole}
    {transition : MailTransition P} {receipt : Receipt}
    (isReceive : transition.event = .receive side receipt) :
    transition.opening side = receipt.opening := by
  simp only [MailTransition.opening, isReceive, if_true]

def ClockedMail (transitions : List (MailTransition P)) : Prop :=
  transitions.Pairwise fun first second => ∀ side receipt receipt',
    first.event = .receive side receipt → second.event = .receive side receipt' →
    receipt.nowUnix ≤ receipt'.nowUnix

theorem ClockedMail.clocked {transitions : List (MailTransition P)}
    (clock : ClockedMail transitions) (side : RatchetRole) :
    Clocked (openingsOf side transitions) := by
  apply List.pairwise_filterMap.mpr
  apply clock.imp
  intro first second ordered seen isFirst seen' isSecond
  rcases Option.map_eq_some_iff.mp isFirst with ⟨opening, isOpening, rfl⟩
  rcases Option.map_eq_some_iff.mp isSecond with ⟨opening', isOpening', rfl⟩
  rcases MailTransition.receive_of_opening isOpening with ⟨receipt, isReceive, opened⟩
  rcases MailTransition.receive_of_opening isOpening' with ⟨receipt', isReceive', opened'⟩
  rw [Receipt.nowUnix_of_opening opened, Receipt.nowUnix_of_opening opened']
  exact ordered side receipt receipt' isReceive isReceive'

/-- What was once handed to the ratchet is not handed to it again, whatever the ratchet
made of it. -/
def HandsOnce (transitions : List (MailTransition P)) : Prop :=
  transitions.Pairwise fun first second => ∀ side receipt receipt',
    first.event = .receive side receipt → second.event = .receive side receipt' →
    receipt'.bytes = receipt.bytes → receipt.call (first.current side) ≠ none →
    receipt'.call (second.current side) = none

theorem Receipt.entry_of_bytes {receipt receipt' : Receipt} {opening opening' : Opening}
    (same : receipt'.bytes = receipt.bytes) (isOpening : receipt.opening = some opening)
    (isOpening' : receipt'.opening = some opening') : opening'.entry = opening.entry := by
  unfold Receipt.opening at isOpening isOpening'
  rw [same] at isOpening'
  split at isOpening
  · rename_i envelope decoded
    rw [decoded] at isOpening'
    cases isOpening
    cases isOpening'
    rfl
  all_goals cases isOpening

theorem Receipt.accepted_of_call {receipt : Receipt} {host : Recipient P}
    (isHanded : receipt.call host ≠ none) :
    ∃ opening frame, receipt.opening = some opening ∧
      opening.result P host.cache = .ok frame := by
  cases receipt.ends host with
  | undecoded error _ _ noCall | refused opening error _ _ noCall => exact absurd noCall isHanded
  | handed opening frame isOpening opened => exact ⟨opening, frame, isOpening, opened⟩

theorem handsOnce {capacity : RatchetRole → Nat} {start final : Mail P}
    (created : ∀ side, ReplayCache.new (capacity side) = .ok (start side).cache)
    {transitions : List (MailTransition P)} (run : Run MailStep start transitions final)
    (clock : ClockedMail transitions) : HandsOnce transitions := by
  apply Run.pairwise_of_before
  intro before transition after split earlier member side receipt receipt' isFirst isSecond
    same isHanded
  by_contra handedAgain
  rcases receipt.accepted_of_call isHanded with ⟨opening, frame, isOpening, opened⟩
  rcases receipt'.accepted_of_call handedAgain with ⟨opening', frame', isOpening', opened'⟩
  rw [split] at run
  rw [ClockedMail, split] at clock
  rcases List.pairwise_append.mp clock with ⟨clockBefore, _, ordered⟩
  have clockBefore : ClockedMail before := clockBefore
  have tracks := tracks_of_run (created side) (run_openingsOf run.around.1 side)
    (clockBefore.clocked side)
  apply tracks.result_ne_ok _ _ frame' opened'
  · intro seen inside
    rcases mem_seenSteps.mp inside with ⟨prior, priorMember, isSeen⟩
    rcases Option.map_eq_some_iff.mp isSeen with ⟨priorOpening, isPrior, rfl⟩
    rcases MailTransition.receive_of_opening isPrior with ⟨priorReceipt, isReceive, isIts⟩
    rw [Receipt.nowUnix_of_opening isIts, Receipt.nowUnix_of_opening isOpening']
    exact ordered prior priorMember transition (List.mem_cons_self ..) side priorReceipt
      receipt' isReceive isSecond
  · rw [Receipt.entry_of_bytes same isOpening isOpening']
    have seen : seenStep (fun mail : Mail P => (mail side).cache) (MailTransition.opening side)
        earlier = some ⟨(earlier.current side).cache, opening, (earlier.next side).cache⟩ := by
      apply seenStep_of_some
      rw [MailTransition.opening_of_receive isFirst]
      exact isOpening
    exact List.mem_filterMap.mpr ⟨_, mem_seenSteps.mpr ⟨earlier, member, seen⟩,
      Opening.acceptedEntry_of_ok opened⟩

/-! ## Agreement -/

/-- Every plaintext that a host reads from the wire was given to `encrypt` by its peer
before, and the frame it was read from is the one that call returned. -/
def ReadsFromPeer (transitions : List (MailTransition P)) : Prop :=
  ∀ before (transition : MailTransition P) after,
    transitions = before ++ transition :: after →
    ∀ side receipt plaintext, transition.event = .receive side receipt →
      receipt.result (transition.current side) = .ok plaintext →
      ∃ entry frame, receipt.carried P = .ok (entry, frame) ∧
        ∃ sent ∈ before, ∃ entropy kind,
          sent.event = .encrypt side.peer entropy kind plaintext ∧
          (RatchetState.encrypt entropy kind plaintext (sent.current side.peer).ratchet).1 =
            .ok frame

section Run

variable (kdf : P.CollisionFreeKdf) (aead : P.LawfulAead)
  {ends : RatchetRole → AuthenticatedHandshake P} (session : SessionEnds ends)
  {suite : AeadSuite} {start final : Mail P} (starts : start.session.Starts ends suite)
  {transitions : List (MailTransition P)} (run : Run MailStep start transitions final)
  (ideal : IdealAead (sessionOf transitions))

include kdf aead session starts run ideal

theorem readsFromPeer : ReadsFromPeer transitions := by
  intro before transition after split side receipt plaintext isReceive read
  rcases Receipt.call_of_result read with ⟨entry, frame, carried, isCall, replied⟩
  have seen : seenStep Mail.session MailTransition.sessionEvent transition =
      some ⟨transition.current.session, ⟨side, .decrypt receipt.entropy frame⟩,
        transition.next.session⟩ := by
    apply seenStep_of_some
    rw [MailTransition.sessionEvent, isReceive]
    exact Option.map_eq_some_iff.mpr ⟨_, isCall, rfl⟩
  have splitSession : sessionOf transitions = sessionOf before ++
      (⟨transition.current.session, ⟨side, .decrypt receipt.entropy frame⟩,
        transition.next.session⟩ :: sessionOf after) := by
    rw [split, sessionOf, seenSteps, List.filterMap_append, List.filterMap_cons_some seen]
    rfl
  rcases agreesWithPeer kdf aead session.mirrored starts (run_sessionOf run) ideal
    (sessionOf before) _ (sessionOf after) splitSession receipt.entropy frame plaintext rfl
    replied with ⟨sentSeen, member, entropy, kind, isSent, returned⟩
  rcases mem_seenSteps.mp member with ⟨sent, inside, isSeen⟩
  rcases Option.map_eq_some_iff.mp isSeen with ⟨event, isEvent, rfl⟩
  subst isSent
  have isEncrypt := MailTransition.event_of_encrypt isEvent
  refine ⟨entry, frame, carried, sent, inside, entropy, kind, isEncrypt, ?_⟩
  exact Outcome.map_injective (fun _ _ => RatchetReply.frame.inj) returned

/-- From the wire to the plaintext and back: what is read comes from the peer's `encrypt`,
no frame is read twice whatever it is wrapped in, and while the clocks do not run backwards
no bytes reach a ratchet twice. -/
theorem mail_agrees :
    ReadsFromPeer transitions ∧
      (FreshKeys start.session (sessionOf transitions) → (readFrames transitions).Nodup) ∧
      ∀ capacity : RatchetRole → Nat,
        (∀ side, ReplayCache.new (capacity side) = .ok (start side).cache) →
        ClockedMail transitions → HandsOnce transitions := by
  refine ⟨readsFromPeer kdf aead session starts run ideal, ?_, ?_⟩
  · intro fresh
    rw [readFrames_eq]
    exact acceptedFrames_nodup kdf session.mirrored starts (run_sessionOf run) ideal fresh
  · intro capacity created clock
    exact handsOnce created run clock

end Run

/-! ## A message through a mailbox -/

def networkEnvelope : OuterEnvelope where
  mailbox := .replicate 32 9
  messageId := .replicate 16 5
  expiresAtUnix := 100
  senderEphemeral := .replicate 32 6
  ciphertext := {
    suite := .xChaCha20Poly1305
    nonce := List.replicate 24 0
    body := networkFrame.wireBytes ++ List.replicate 16 0
    nonce_length := InnerFrame.length_zeroNonce
    tag_le_body := by decide +kernel
    body_le_limit := by decide +kernel }
  suite_eq := rfl

def networkReceipt : Receipt where
  bytes := networkEnvelope.wireBytes
  secret := .replicate 32 1
  nowUnix := 100
  entropy := constantEntropy 3

theorem carried_networkReceipt : networkReceipt.carried Primitives.tagged =
    .ok ((.replicate 16 5, 100), networkFrame) := by
  decide +kernel

def mailStart : Mail Primitives.tagged := fun side => ⟨emptyCache, networkStart true side⟩

def mailSending : MailEvent := .encrypt .initiator (constantEntropy 0) .message []

def mailTransitions : List (MailTransition Primitives.tagged) :=
  [⟨mailStart, mailSending, mailStart.after mailSending⟩,
    ⟨mailStart.after mailSending, .receive .responder networkReceipt,
      (mailStart.after mailSending).after (.receive .responder networkReceipt)⟩]

theorem run_mailTransitions : Run MailStep mailStart mailTransitions
    ((mailStart.after mailSending).after (.receive .responder networkReceipt)) :=
  .cons rfl (.cons rfl (.nil _))

theorem sessionOf_mailTransitions {before after : List (SessionTransition Primitives.tagged)}
    {seen : SessionTransition Primitives.tagged}
    (split : sessionOf mailTransitions = before ++ seen :: after) :
    seen.event = ⟨.initiator, sampleCall⟩ ∨
      seen.event = ⟨.responder, .decrypt (constantEntropy 3) networkFrame⟩ ∧
        seen.current .responder = networkStart true .responder ∧
        ∃ sent ∈ before, SessionTransition.Seals sent
          (messageKeyOf Primitives.tagged (networkStart true .initiator).sendingChain)
          networkFrame := by
  rcases exists_split_of_seenSteps split
    with ⟨earlier, transition, later, whole, isSeen, rfl⟩
  rcases Option.map_eq_some_iff.mp isSeen with ⟨event, isEvent, rfl⟩
  rw [mailTransitions] at whole
  match earlier with
  | [] =>
      cases whole
      cases isEvent
      exact .inl rfl
  | [_] =>
      cases whole
      rcases Option.map_eq_some_iff.mp isEvent with ⟨call, isCall, rfl⟩
      rcases Receipt.exists_decrypt_of_call isCall with ⟨frame, rfl⟩
      rcases Receipt.carried_of_call isCall with ⟨entry, carried⟩
      rw [carried_networkReceipt] at carried
      cases carried
      exact .inr ⟨rfl, rfl, _, List.mem_cons_self .., _, _, _, rfl, networkFrame_sealed, rfl⟩
  | _ :: _ :: rest => simp at whole

theorem idealAead_mail : IdealAead (sessionOf mailTransitions) := by
  intro before seen after split entropy frame key isDecrypt uses
  rcases sessionOf_mailTransitions split with isSending | ⟨isEvent, current, sent⟩
  · rw [isSending] at isDecrypt
    cases isDecrypt
  · rw [SessionTransition.UsesKey, isEvent] at uses
    rw [isEvent] at isDecrypt
    cases isDecrypt
    simp only [current] at uses
    rw [usesKey_network uses]
    exact sent

theorem freshKeys_mail : FreshKeys mailStart.session (sessionOf mailTransitions) where
  initially := by decide
  drawn before seen after pair split draws := by
    rcases sessionOf_mailTransitions split with isSending | ⟨isEvent, current, _⟩
    · rw [isSending] at draws
      cases draws
    · rw [isEvent] at draws
      simp only [current] at draws
      cases draws with
      | next plaintext opens => exact absurd rfl opens.different

theorem mail_agrees_sample : ReadsFromPeer mailTransitions ∧
    (readFrames mailTransitions).Nodup ∧ HandsOnce mailTransitions := by
  rcases mail_agrees Primitives.collisionFreeKdf_tagged Primitives.lawfulAead_tagged
    (sessionEnds_network true) (starts_network true) run_mailTransitions idealAead_mail
    with ⟨reads, once, handsOnce⟩
  refine ⟨reads, once freshKeys_mail, handsOnce (fun _ => 1) (fun _ => rfl) ?_⟩
  apply List.pairwise_pair.mpr
  intro side receipt receipt' isSending
  cases isSending

end Mef26
