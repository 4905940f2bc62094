import Mef26.Session.Delivery
import Mef26.Session.Inbox
import Mef26.Session.Mail

namespace Mef26

/-! # Letters

Two hosts send each other their messages in envelopes, which arrive in sending order unless
they are lost. An envelope that comes too late, or to a full replay cache, is as good as lost.
What the ratchets see of all this is a channel that loses messages. -/

variable {Key : Type} {P : Primitives Key}

open Expiring

structure Posting where
  ephemeralEntropy : Entropy
  idEntropy : Entropy
  nonceEntropy : Entropy
  recipientDeliveryKey : DhPublicKey
  mailbox : MailboxCapability
  expiresAtUnix : UInt64
  paddingLen : Nat

structure Letter where
  message : SentMessage
  posting : Posting

namespace Letter

section

variable (P)

def envelope (letter : Letter) : Result OuterEnvelope :=
  OuterEnvelope.sealEnvelope P letter.posting.ephemeralEntropy letter.posting.idEntropy
    letter.posting.nonceEntropy letter.posting.recipientDeliveryKey letter.posting.mailbox
    letter.posting.expiresAtUnix letter.message.frame letter.posting.paddingLen

def wire (letter : Letter) : Result (List UInt8) := do
  let envelope ← letter.envelope P
  envelope.encode

end

/-- What the replay cache makes of a letter that was sealed under an identifier. -/
def admission (letter : Letter) (cache : ReplayCache) (nowUnix : UInt64)
    (messageId : TransportMessageId) : Result InnerFrame :=
  if letter.posting.expiresAtUnix < nowUnix then
    .err .envelopeExpired
  else if (due nowUnix cache.entries).any fun entry => entry.1 = messageId then
    .err .replayDetected
  else if cache.capacity ≤ (due nowUnix cache.entries).length then
    .err .invalidState
  else
    .ok letter.message.frame

/-- What the host answers, after as many letters before it were lost. -/
def answer (letter : Letter) (cache : ReplayCache) (nowUnix : UInt64)
    (messageId : TransportMessageId) (lost : Nat) : Result (List UInt8) := do
  let _ ← letter.admission cache nowUnix messageId
  Outcome.rejectIf (maxSkippedKeys < lost) .skippedKeyLimitExceeded
  return letter.message.plaintext

end Letter

variable (P) in
/-- The hosts, the letters on their way from each side, and how many letters of each side
never got to the ratchet of the other. -/
structure Post where
  mail : Mail P
  letters : RatchetRole → List Letter
  lost : RatchetRole → Nat

inductive PostEvent
  | encrypt (side : RatchetRole) (entropy : Entropy) (kind : FrameKind)
      (plaintext : List UInt8) (posting : Posting)
  | rotateSendingRatchet (side : RatchetRole) (entropy : Entropy)
  /-- The first letter on its way to a side arrives. -/
  | arrive (side : RatchetRole) (receipt : Receipt)
  /-- The first letter on its way from a side is lost. -/
  | lose (side : RatchetRole)
  /-- Something else arrives. -/
  | disturb (side : RatchetRole) (receipt : Receipt)

namespace Post

def initial (mail : Mail P) : Post P where
  mail := mail
  letters _ := []
  lost _ := 0

def encrypted (post : Post P) (side : RatchetRole) (entropy : Entropy) (kind : FrameKind)
    (plaintext : List UInt8) (posting : Posting) : Post P :=
  { post with
    mail := post.mail.after (.encrypt side entropy kind plaintext)
    letters := Function.update post.letters side (post.letters side ++
      (emitted plaintext
        (RatchetState.encrypt entropy kind plaintext (post.mail side).ratchet).1).map
          (⟨·, posting⟩)) }

def rotated (post : Post P) (side : RatchetRole) (entropy : Entropy) : Post P :=
  { post with mail := post.mail.after (.rotateSendingRatchet side entropy) }

def disturbed (post : Post P) (side : RatchetRole) (receipt : Receipt) : Post P :=
  { post with mail := post.mail.after (.receive side receipt) }

def without (post : Post P) (side : RatchetRole) (rest : List Letter) : Post P :=
  { post with
    letters := Function.update post.letters side rest
    lost := Function.update post.lost side (post.lost side + 1) }

/-- A letter that does not get to the ratchet counts as lost. -/
def arrived (post : Post P) (side : RatchetRole) (receipt : Receipt) (rest : List Letter) :
    Post P where
  mail := post.mail.after (.receive side receipt)
  letters := Function.update post.letters side.peer rest
  lost := match receipt.call (post.mail side) with
    | some _ => post.lost
    | none => Function.update post.lost side.peer (post.lost side.peer + 1)

def messages (letters : RatchetRole → List Letter) (side : RatchetRole) : List SentMessage :=
  (letters side).map Letter.message

def channel (post : Post P) : Channel P where
  session := post.mail.session
  inFlight := messages post.letters
  dropped := post.lost

theorem letters_encrypted (post : Post P) (side : RatchetRole) (entropy : Entropy)
    (kind : FrameKind) (plaintext : List UInt8) (posting : Posting) :
    (post.encrypted side entropy kind plaintext posting).letters side = post.letters side ++
      (emitted plaintext
        (RatchetState.encrypt entropy kind plaintext (post.mail side).ratchet).1).map
          (⟨·, posting⟩) :=
  Function.update_self ..

theorem messages_update (letters : RatchetRole → List Letter) (side : RatchetRole)
    (changed : List Letter) :
    messages (Function.update letters side changed) =
      Function.update (messages letters) side (changed.map Letter.message) :=
  Function.comp_update (List.map Letter.message) letters side changed

theorem head_messages {letters : RatchetRole → List Letter} {side : RatchetRole}
    {letter : Letter} {rest : List Letter} (head : letters side = letter :: rest) :
    messages letters side = letter.message :: rest.map Letter.message := by
  rw [messages, head, List.map_cons]

theorem channel_encrypted (post : Post P) (side : RatchetRole) (entropy : Entropy)
    (kind : FrameKind) (plaintext : List UInt8) (posting : Posting) :
    (post.encrypted side entropy kind plaintext posting).channel =
      post.channel.encrypted side entropy kind plaintext := by
  have session := post.mail.session_after (.encrypt side entropy kind plaintext)
  simp only [MailEvent.call, MailEvent.side] at session
  simp only [channel, encrypted, Channel.encrypted, session, messages_update, List.map_append,
    List.map_map, Mail.session]
  congr
  exact List.map_id _

theorem channel_rotated (post : Post P) (side : RatchetRole) (entropy : Entropy) :
    (post.rotated side entropy).channel = post.channel.rotated side entropy := by
  have session := post.mail.session_after (.rotateSendingRatchet side entropy)
  simp only [MailEvent.call, MailEvent.side] at session
  simp only [channel, rotated, Channel.rotated, session]

theorem channel_without (post : Post P) (side : RatchetRole) (rest : List Letter) :
    (post.without side rest).channel = post.channel.lost side (rest.map Letter.message) := by
  simp only [channel, without, Channel.lost, messages_update]

theorem channel_disturbed {post : Post P} {side : RatchetRole} {receipt : Receipt}
    (unmoved : (receipt.after (post.mail side)).ratchet = (post.mail side).ratchet) :
    (post.disturbed side receipt).channel = post.channel := by
  have session := post.mail.session_update (.receive side receipt)
  simp only [MailEvent.after, MailEvent.side, unmoved] at session
  simp only [channel, disturbed, session]
  exact congrArg (Channel.mk · _ _) (Function.update_eq_self side post.mail.session)

/-- A letter whose frame goes to the ratchet is delivered. -/
theorem channel_arrived_handed {post : Post P} {side : RatchetRole} {receipt : Receipt}
    {letter : Letter} (rest : List Letter)
    (isCall : receipt.call (post.mail side) =
      some (.decrypt receipt.entropy letter.message.frame)) :
    (post.arrived side receipt rest).channel =
      post.channel.delivered side receipt.entropy letter.message
        (rest.map Letter.message) := by
  have session := post.mail.session_after (.receive side receipt)
  simp only [MailEvent.call, MailEvent.side, isCall] at session
  simp only [channel, arrived, Channel.delivered, session, messages_update, isCall]

/-- Any other letter is lost. -/
theorem channel_arrived_refused {post : Post P} {side : RatchetRole} {receipt : Receipt}
    (rest : List Letter) (noCall : receipt.call (post.mail side) = none) :
    (post.arrived side receipt rest).channel =
      post.channel.lost side.peer (rest.map Letter.message) := by
  have session := post.mail.session_after (.receive side receipt)
  simp only [MailEvent.call, MailEvent.side, noCall] at session
  simp only [channel, arrived, Channel.lost, session, messages_update, noCall]

end Post

inductive PostStep (post : Post P) : PostEvent → Post P → Prop
  | encrypt (side : RatchetRole) (entropy : Entropy) (kind : FrameKind)
      (plaintext : List UInt8) (posting : Posting) :
      PostStep post (.encrypt side entropy kind plaintext posting)
        (post.encrypted side entropy kind plaintext posting)
  | rotate (side : RatchetRole) (entropy : Entropy) :
      PostStep post (.rotateSendingRatchet side entropy) (post.rotated side entropy)
  | arrive (side : RatchetRole) (receipt : Receipt) (letter : Letter) (rest : List Letter)
      (head : post.letters side.peer = letter :: rest)
      (wire : letter.wire P = .ok receipt.bytes)
      (owner : letter.posting.recipientDeliveryKey = P.x25519PublicKey receipt.secret) :
      PostStep post (.arrive side receipt) (post.arrived side receipt rest)
  | lose (side : RatchetRole) (letter : Letter) (rest : List Letter)
      (head : post.letters side = letter :: rest) :
      PostStep post (.lose side) (post.without side rest)
  /-- Bytes that leave the ratchet alone: no envelopes, replays, forgeries. -/
  | disturb (side : RatchetRole) (receipt : Receipt)
      (unmoved : (receipt.after (post.mail side)).ratchet = (post.mail side).ratchet) :
      PostStep post (.disturb side receipt) (post.disturbed side receipt)

variable (P) in
abbrev PostTransition := Transition (Post P) PostEvent

/-! ## The channel -/

def PostTransition.channelEvent (transition : PostTransition P) : Option ChannelEvent :=
  match transition.event with
  | .encrypt side entropy kind plaintext _ => some (.encrypt side entropy kind plaintext)
  | .rotateSendingRatchet side entropy => some (.rotateSendingRatchet side entropy)
  | .arrive side receipt =>
      match receipt.call (transition.current.mail side) with
      | some _ => some (.deliver side receipt.entropy)
      | none => some (.drop side.peer)
  | .lose side => some (.drop side)
  | .disturb _ _ => none

def channelOf (transitions : List (PostTransition P)) : List (ChannelTransition P) :=
  seenSteps Post.channel PostTransition.channelEvent transitions

theorem Letter.carried (aead : P.LawfulAead) (agreement : P.LawfulX25519) {letter : Letter}
    {receipt : Receipt} (wire : letter.wire P = .ok receipt.bytes)
    (owner : letter.posting.recipientDeliveryKey = P.x25519PublicKey receipt.secret) :
    ∃ messageId, letter.posting.idEntropy transportIdLen = some messageId ∧
      receipt.carried P = if receipt.nowUnix ≤ letter.posting.expiresAtUnix then
        .ok ((messageId, letter.posting.expiresAtUnix), letter.message.frame)
      else .err .envelopeExpired := by
  rcases Outcome.bind_eq_ok.mp wire with ⟨envelope, sealed, encoded⟩
  refine ⟨envelope.messageId, ?_, ?_⟩
  · rcases OuterEnvelope.sealEnvelope_eq_ok.mp sealed with ⟨_, _, _, identified, _⟩
    exact identified
  · have posted : Posted P [⟨letter.message.frame, letter.message.plaintext⟩] receipt.secret
        receipt.bytes (envelope.messageId, letter.posting.expiresAtUnix)
        ⟨letter.message.frame, letter.message.plaintext⟩ :=
      ⟨List.mem_singleton_self _, _, _, _, _, _, envelope, by rw [← owner]; exact sealed, rfl,
        encoded⟩
    exact posted.carried aead agreement

theorem Letter.frame_of_call (aead : P.LawfulAead) (agreement : P.LawfulX25519) {letter : Letter}
    {receipt : Receipt} (wire : letter.wire P = .ok receipt.bytes)
    (owner : letter.posting.recipientDeliveryKey = P.x25519PublicKey receipt.secret)
    {host : Recipient P} {call : RatchetCall} (isCall : receipt.call host = some call) :
    call = .decrypt receipt.entropy letter.message.frame := by
  rcases receipt.exists_decrypt_of_call isCall with ⟨frame, rfl⟩
  rcases Receipt.carried_of_call isCall with ⟨entry, carried⟩
  rcases letter.carried aead agreement wire owner with ⟨messageId, _, carried'⟩
  rw [carried] at carried'
  split at carried'
  · cases carried'
    rfl
  · cases carried'

theorem run_channelOf (aead : P.LawfulAead) (agreement : P.LawfulX25519) {start final : Post P}
    {transitions : List (PostTransition P)} (run : Run PostStep start transitions final) :
    Run ChannelStep start.channel (channelOf transitions) final.channel := by
  apply run.seen
  · intro transition _ step event isEvent
    rcases transition with ⟨post, posted, next⟩
    simp only at step
    cases step with
    | encrypt side entropy kind plaintext posting =>
        cases isEvent
        exact post.channel_encrypted side entropy kind plaintext posting ▸ .encrypt ..
    | rotate side entropy =>
        cases isEvent
        exact post.channel_rotated side entropy ▸ .rotate ..
    | arrive side receipt letter rest head wire owner =>
        cases called : receipt.call (post.mail side) with
        | none =>
            simp only [PostTransition.channelEvent, called, Option.some.injEq] at isEvent
            rw [← isEvent, Post.channel_arrived_refused rest called]
            exact .drop side.peer _ _ (Post.head_messages head)
        | some call =>
            simp only [PostTransition.channelEvent, called, Option.some.injEq] at isEvent
            rw [letter.frame_of_call aead agreement wire owner called] at called
            rw [← isEvent, Post.channel_arrived_handed rest called]
            exact .deliver side _ _ _ (Post.head_messages head)
    | lose side letter rest head =>
        cases isEvent
        exact post.channel_without side rest ▸ .drop side _ _ (Post.head_messages head)
    | disturb side receipt unmoved => cases isEvent
  · intro transition _ step unseen
    rcases transition with ⟨post, posted, next⟩
    simp only at step
    cases step with
    | encrypt | rotate | lose => cases unseen
    | arrive side receipt letter rest head wire owner =>
        simp only [PostTransition.channelEvent] at unseen
        split at unseen <;> cases unseen
    | disturb side receipt unmoved => exact Post.channel_disturbed unmoved

/-! ## Answers -/

theorem Receipt.ratchet_of_noCall {receipt : Receipt} {host : Recipient P}
    (noCall : receipt.call host = none) : (receipt.after host).ratchet = host.ratchet := by
  cases receipt.ends host with
  | undecoded error _ _ _ _ unchanged => rw [unchanged]
  | refused opening error _ _ _ _ kept => rw [kept]
  | handed opening frame _ _ isCall =>
      rw [noCall] at isCall
      cases isCall

section Arrival

variable {letter : Letter} {receipt : Receipt} {host : Recipient P}
  {messageId : TransportMessageId}
  (carried : receipt.carried P = if receipt.nowUnix ≤ letter.posting.expiresAtUnix then
    .ok ((messageId, letter.posting.expiresAtUnix), letter.message.frame)
    else .err .envelopeExpired)

include carried

theorem Letter.admission_eq {opening : Opening} (isOpening : receipt.opening = some opening)
    (cache : ReplayCache) :
    opening.result P cache = letter.admission cache receipt.nowUnix messageId := by
  have now := Receipt.nowUnix_of_opening isOpening
  rw [Receipt.carried_of_opening isOpening] at carried
  rw [Opening.result_eq_answer, Letter.admission]
  cases opened : opening.envelope.openInner P opening.secret receipt.nowUnix with
  | ok frame =>
      rw [opened] at carried
      split at carried
      · rename_i inTime
        rcases Prod.mk.inj (Outcome.ok.inj carried) with ⟨entry, isFrame⟩
        rw [if_neg (UInt64.not_lt.mpr inTime), Opening.answer_of_opened (now ▸ opened), now,
          isFrame, entry]
        exact if_congr ReplayCache.any_entry_iff.symm rfl rfl
      · cases carried
  | err error =>
      rw [opened] at carried
      split at carried
      · cases carried
      · rename_i late
        cases carried
        rw [if_pos (UInt64.not_le.mp late), Opening.answer_of_closed (now ▸ opened)]
  | panic => exact absurd opened (OuterEnvelope.openInner_ne_panic _ _ _)

theorem Letter.answer_of_noCall (noCall : receipt.call host = none) (lost : Nat) :
    receipt.result host = letter.answer host.cache receipt.nowUnix messageId lost := by
  cases receipt.ends host with
  | undecoded error unread _ _ failed =>
      rw [Receipt.carried, unread] at carried
      split at carried
      · cases carried
      · rename_i late
        cases carried
        rw [failed, Letter.answer, Letter.admission, if_pos (UInt64.not_le.mp late)]
        rfl
  | refused opening error isOpening noFrame _ failed =>
      rw [Letter.admission_eq carried isOpening] at noFrame
      rw [failed, Letter.answer, noFrame]
      rfl
  | handed opening frame _ _ isCall =>
      rw [noCall] at isCall
      cases isCall

theorem Letter.answer_of_call {call : RatchetCall} (isCall : receipt.call host = some call)
    (lost : Nat) :
    letter.answer host.cache receipt.nowUnix messageId lost =
      if maxSkippedKeys < lost then .err .skippedKeyLimitExceeded
      else .ok letter.message.plaintext := by
  cases receipt.ends host with
  | undecoded error _ _ noCall | refused opening error _ _ noCall =>
      rw [noCall] at isCall
      cases isCall
  | handed opening frame isOpening opened =>
      rw [Letter.admission_eq carried isOpening] at opened
      rw [Letter.answer, opened, Outcome.ok_bind]
      by_cases beyond : maxSkippedKeys < lost
      · rw [if_pos beyond, Outcome.rejectIf_of _ beyond]
        rfl
      · rw [if_neg beyond, Outcome.rejectIf_of_not _ beyond]
        rfl

end Arrival

/-- A letter is answered by the clock, the replay cache and the number of letters lost, and
one that is refused leaves the ratchet as it is. -/
def AnswersLetter (transition : PostTransition P) : Prop :=
  ∀ side receipt letter rest, transition.event = .arrive side receipt →
    transition.current.letters side.peer = letter :: rest →
    ∃ messageId, letter.posting.idEntropy transportIdLen = some messageId ∧
      receipt.result (transition.current.mail side) =
        letter.answer (transition.current.mail side).cache receipt.nowUnix messageId
          (transition.current.lost side.peer) ∧
      ∀ error, receipt.result (transition.current.mail side) = .err error →
        (transition.next.mail side).ratchet = (transition.current.mail side).ratchet

theorem Receipt.result_of_call {receipt : Receipt} {host : Recipient P} {frame : InnerFrame}
    (isCall : receipt.call host = some (.decrypt receipt.entropy frame)) :
    receipt.result host = (RatchetState.decrypt receipt.entropy frame host.ratchet).1 ∧
      (receipt.after host).ratchet =
        (RatchetState.decrypt receipt.entropy frame host.ratchet).2 := by
  cases receipt.ends host with
  | undecoded error _ _ noCall | refused opening error _ _ noCall =>
      rw [noCall] at isCall
      cases isCall
  | handed opening frame' _ _ isCall' answered moved =>
      cases isCall.symm.trans isCall'
      exact ⟨answered, congrArg Recipient.ratchet moved⟩

theorem RatchetState.decrypt_of_delivers {ratchet : RatchetState P} {entropy : Entropy}
    {frame : InnerFrame} {plaintext : List UInt8} {lost : Nat}
    (delivers : if lost ≤ maxSkippedKeys then
        (RatchetState.decrypt entropy frame ratchet).1 = .ok plaintext
      else
        RatchetState.decrypt entropy frame ratchet =
          (.err .skippedKeyLimitExceeded, ratchet)) :
    (RatchetState.decrypt entropy frame ratchet).1 =
        (if maxSkippedKeys < lost then .err .skippedKeyLimitExceeded else .ok plaintext) ∧
      ∀ error, (RatchetState.decrypt entropy frame ratchet).1 = .err error →
        (RatchetState.decrypt entropy frame ratchet).2 = ratchet := by
  by_cases beyond : maxSkippedKeys < lost
  · rw [if_neg (Nat.not_le.mpr beyond)] at delivers
    rw [if_pos beyond]
    exact ⟨congrArg Prod.fst delivers, fun _ _ => congrArg Prod.snd delivers⟩
  · rw [if_pos (Nat.not_lt.mp beyond)] at delivers
    rw [if_neg beyond]
    refine ⟨delivers, fun error failed => ?_⟩
    cases delivers.symm.trans failed

theorem answersLetter (aead : P.LawfulAead) (agreement : P.LawfulX25519)
    {transition : PostTransition P}
    (step : PostStep transition.current transition.event transition.next)
    (inOrder : ∀ seen,
      seenStep Post.channel PostTransition.channelEvent transition = some seen →
        DeliversInOrder seen) : AnswersLetter transition := by
  rcases transition with ⟨post, event, next⟩
  intro side receipt letter rest isArrival head
  simp only at isArrival head step
  subst isArrival
  cases step with
  | arrive _ _ letter' rest' head' wire owner =>
  cases head.symm.trans head'
  rcases letter.carried aead agreement wire owner with ⟨messageId, drawn, carried⟩
  have ratchet : ((post.arrived side receipt rest).mail side).ratchet =
      (receipt.after (post.mail side)).ratchet :=
    congrArg Recipient.ratchet (Function.update_self ..)
  refine ⟨messageId, drawn, ?_⟩
  simp only [ratchet]
  cases called : receipt.call (post.mail side) with
  | none =>
      refine ⟨Letter.answer_of_noCall carried called _, fun _ _ => ?_⟩
      exact Receipt.ratchet_of_noCall called
  | some call =>
      rw [Letter.answer_of_call carried called]
      rw [letter.frame_of_call aead agreement wire owner called] at called
      rcases Receipt.result_of_call called with ⟨answered, moved⟩
      have seen : seenStep Post.channel PostTransition.channelEvent
          (⟨post, .arrive side receipt, post.arrived side receipt rest⟩ : PostTransition P) =
            some ⟨post.channel, .deliver side receipt.entropy,
              (post.arrived side receipt rest).channel⟩ := by
        apply seenStep_of_some
        simp only [PostTransition.channelEvent, called]
      have delivers := inOrder _ seen side receipt.entropy letter.message _ rfl
        (Post.head_messages head)
      rw [answered, moved]
      exact RatchetState.decrypt_of_delivers delivers

/-! ## Runs -/

structure RefinesChannel (start final : Post P) (transitions : List (PostTransition P)) :
    Prop where
  channel : Run ChannelStep start.channel (channelOf transitions) final.channel
  answers : ∀ transition ∈ transitions, AnswersLetter transition

/-- Envelopes over mailboxes are a channel that loses messages, and a message is read
whenever its letter is in time, the replay cache takes it, and no more letters of its
direction were lost than the ratchet can skip. -/
theorem run_refinesChannel (lawful : P.LawfulX25519) (aead : P.LawfulAead)
    {ends : RatchetRole → AuthenticatedHandshake P} (mirrored : HandshakeEnds ends)
    {suite : AeadSuite} {mail : Mail P} (starts : mail.session.Starts ends suite)
    {transitions : List (PostTransition P)} {final : Post P}
    (run : Run PostStep (.initial mail) transitions final)
    (available : RandomnessAvailable (channelOf transitions))
    (renews : RenewsKeys (channelOf transitions))
    (single : rotations (channelOf transitions) ≤ 1) :
    RefinesChannel (.initial mail) final transitions := by
  have channel := run_channelOf aead lawful run
  refine ⟨channel, ?_⟩
  have inOrder := (delivers_of_run lawful aead mirrored starts channel available renews
    single).inOrder
  intro transition member
  apply answersLetter aead lawful (run.step_of_mem member)
  intro seen isSeen
  exact inOrder seen (mem_seenSteps.mpr ⟨transition, member, isSeen⟩)

/-! ## A letter that arrives in time -/

def symbolicPosting : Posting where
  ephemeralEntropy := constantEntropy 6
  idEntropy := constantEntropy 5
  nonceEntropy := constantEntropy 0
  recipientDeliveryKey := Primitives.symbolic.x25519PublicKey (.replicate 32 1)
  mailbox := .replicate 32 9
  expiresAtUnix := 100
  paddingLen := 7

def symbolicLetter : Letter := ⟨⟨symbolicFrame, []⟩, symbolicPosting⟩

theorem wire_symbolicLetter :
    symbolicLetter.wire Primitives.symbolic = .ok symbolicReceipt.bytes := by
  have sealed : symbolicLetter.envelope Primitives.symbolic = .ok symbolicEnvelope :=
    symbolicEnvelope_sealed
  exact Outcome.bind_eq_ok.mpr ⟨symbolicEnvelope, sealed, symbolicEnvelope.encode_eq⟩

def symbolicMail : Mail Primitives.symbolic := fun side => ⟨emptyCache, symbolicSession side⟩

def symbolicPost : Post Primitives.symbolic :=
  (Post.initial symbolicMail).encrypted .initiator (constantEntropy 0) .message []
    symbolicPosting

theorem letters_symbolicPost : symbolicPost.letters .initiator = [symbolicLetter] := by
  have sent : RatchetState.encrypt (constantEntropy 0) .message []
      (symbolicMail .initiator).ratchet = _ :=
    RatchetState.encrypt_of_sealed symbolicFrame_sealed (by decide)
  rw [symbolicPost, Post.letters_encrypted, Post.initial, sent]
  rfl

def postTransitions : List (PostTransition Primitives.symbolic) :=
  [⟨.initial symbolicMail, .encrypt .initiator (constantEntropy 0) .message [] symbolicPosting,
      symbolicPost⟩,
    ⟨symbolicPost, .arrive .responder symbolicReceipt,
      symbolicPost.arrived .responder symbolicReceipt []⟩]

theorem run_postTransitions : Run PostStep (.initial symbolicMail) postTransitions
    (symbolicPost.arrived .responder symbolicReceipt []) :=
  .cons (.encrypt _ _ _ _ _) (.cons
    (.arrive _ _ symbolicLetter [] letters_symbolicPost wire_symbolicLetter rfl) (.nil _))

theorem channelOf_postTransitions {seen : ChannelTransition Primitives.symbolic}
    (member : seen ∈ channelOf postTransitions) :
    seen.event = .encrypt .initiator (constantEntropy 0) .message [] ∨
      seen.event = .drop .initiator ∨
      seen.event = .deliver .responder (constantEntropy 3) ∧
        seen.current = symbolicPost.channel := by
  rcases mem_seenSteps.mp member with ⟨transition, inside, isSeen⟩
  rcases Option.map_eq_some_iff.mp isSeen with ⟨event, isEvent, rfl⟩
  simp only [postTransitions, List.mem_cons, List.not_mem_nil, or_false] at inside
  rcases inside with rfl | rfl
  · cases isEvent
    exact .inl rfl
  · simp only [PostTransition.channelEvent] at isEvent
    split at isEvent <;> cases isEvent
    · exact .inr (.inr ⟨rfl, rfl⟩)
    · exact .inr (.inl rfl)

theorem randomnessAvailable_post : RandomnessAvailable (channelOf postTransitions) := by
  intro seen member side entropy isDelivery
  rcases channelOf_postTransitions member with isEvent | isEvent | ⟨isEvent, _⟩ <;>
    rw [isEvent] at isDelivery <;> cases isDelivery
  rfl

theorem renewsKeys_post : RenewsKeys (channelOf postTransitions) := by
  intro seen member event called pair draws
  rcases seen with ⟨current, channelEvent, next⟩
  rcases channelOf_postTransitions member with isEvent | isEvent | ⟨isEvent, isCurrent⟩ <;>
    simp only at isEvent <;> subst isEvent
  · cases called
    cases draws
  · cases called
  · simp only at isCurrent
    subst isCurrent
    simp only [ChannelTransition.sessionEvent, RatchetRole.peer, Post.channel, Post.messages,
      letters_symbolicPost] at called
    cases called
    cases draws with
    | next plaintext opens => exact absurd rfl opens.different

theorem rotations_post : rotations (channelOf postTransitions) = 0 := by
  apply List.countP_eq_zero.mpr
  intro seen member rotates
  rcases seen with ⟨current, channelEvent, next⟩
  rcases channelOf_postTransitions member with isEvent | isEvent | ⟨isEvent, _⟩ <;>
    simp only at isEvent <;> subst isEvent <;> cases rotates

/-- The letter is read, at the last second before it expires. -/
theorem run_refinesChannel_inTime :
    RefinesChannel (.initial symbolicMail)
        (symbolicPost.arrived .responder symbolicReceipt []) postTransitions ∧
      symbolicReceipt.result (symbolicPost.mail .responder) = .ok [] := by
  have refines := run_refinesChannel Primitives.lawfulX25519_symbolic
    Primitives.lawfulAead_symbolic handshakeEnds_sample starts_sampleSession run_postTransitions
    randomnessAvailable_post renewsKeys_post
    (Nat.le_trans (Nat.le_of_eq rotations_post) (Nat.zero_le _))
  refine ⟨refines, ?_⟩
  rcases refines.answers _ (List.mem_cons_of_mem _ (List.mem_singleton_self _)) .responder
    symbolicReceipt symbolicLetter [] rfl letters_symbolicPost
    with ⟨messageId, drawn, answered, _⟩
  rw [answered, ← Option.some.inj drawn]
  decide +kernel

end Mef26
