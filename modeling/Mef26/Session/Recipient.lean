import Mef26.Envelope.Admission
import Mef26.Foundation.Projection
import Mef26.Ratchet.Calls

namespace Mef26

/-! # From the wire to the plaintext

A recipient decodes the bytes that arrive, opens each envelope once against its replay
cache, and hands the frame to its ratchet. -/

variable {Key : Type} {P : Primitives Key}

variable (P) in
structure Recipient where
  cache : ReplayCache
  ratchet : RatchetState P

namespace Recipient

def onCache {α : Type} (method : Update ReplayCache MefError α) :
    Update (Recipient P) MefError α :=
  fun recipient => ((method recipient.cache).1,
    { recipient with cache := (method recipient.cache).2 })

def onRatchet {α : Type} (method : Update (RatchetState P) MefError α) :
    Update (Recipient P) MefError α :=
  fun recipient => ((method recipient.ratchet).1,
    { recipient with ratchet := (method recipient.ratchet).2 })

end Recipient

/-- Bytes that arrive, with the delivery key, the time and the random bytes that they are
met with. -/
structure Receipt where
  bytes : List UInt8
  secret : DhSecretKey
  nowUnix : UInt64
  entropy : Entropy

namespace Receipt

/-- `OuterEnvelope::decode`, `open_inner_once` and `decrypt`, one after the other. -/
def receive (receipt : Receipt) : Update (Recipient P) MefError (List UInt8) := do
  let envelope ← OuterEnvelope.decode receipt.bytes
  let frame ← Recipient.onCache
    (envelope.openInnerOnce P receipt.secret receipt.nowUnix)
  Recipient.onRatchet (RatchetState.decrypt receipt.entropy frame)

def result (receipt : Receipt) (recipient : Recipient P) : Result (List UInt8) :=
  (receipt.receive recipient).1

def after (receipt : Receipt) (recipient : Recipient P) : Recipient P :=
  (receipt.receive recipient).2

def opening (receipt : Receipt) : Option Opening :=
  match OuterEnvelope.decode receipt.bytes with
  | .ok envelope => some ⟨envelope, receipt.secret, receipt.nowUnix⟩
  | .err _ | .panic => none

def call (receipt : Receipt) (recipient : Recipient P) : Option RatchetCall :=
  receipt.opening.bind fun opening =>
    match opening.result P recipient.cache with
    | .ok frame => some (.decrypt receipt.entropy frame)
    | .err _ | .panic => none

/-- How a receipt ends: the bytes are no envelope, the cache refuses the envelope, or its
frame goes to the ratchet. -/
inductive Ends (receipt : Receipt) (recipient : Recipient P) : Prop
  | undecoded (error : MefError) (unread : OuterEnvelope.decode receipt.bytes = .err error)
      (noOpening : receipt.opening = none) (noCall : receipt.call recipient = none)
      (failed : receipt.result recipient = .err error)
      (unchanged : receipt.after recipient = recipient)
  | refused (opening : Opening) (error : MefError) (isOpening : receipt.opening = some opening)
      (noFrame : opening.result P recipient.cache = .err error)
      (noCall : receipt.call recipient = none) (failed : receipt.result recipient = .err error)
      (kept : receipt.after recipient =
        { recipient with cache := opening.after P recipient.cache })
  | handed (opening : Opening) (frame : InnerFrame)
      (isOpening : receipt.opening = some opening)
      (opened : opening.result P recipient.cache = .ok frame)
      (isCall : receipt.call recipient = some (.decrypt receipt.entropy frame))
      (answered : receipt.result recipient =
        (RatchetState.decrypt receipt.entropy frame recipient.ratchet).1)
      (moved : receipt.after recipient = ⟨opening.after P recipient.cache,
        (RatchetCall.decrypt receipt.entropy frame).after recipient.ratchet⟩)

theorem opening_of_decode {receipt : Receipt} {envelope : OuterEnvelope}
    (decoded : OuterEnvelope.decode receipt.bytes = .ok envelope) :
    receipt.opening = some ⟨envelope, receipt.secret, receipt.nowUnix⟩ := by
  rw [opening, decoded]

theorem ends (receipt : Receipt) (recipient : Recipient P) : receipt.Ends recipient := by
  cases decoded : OuterEnvelope.decode receipt.bytes with
  | panic => exact absurd decoded (OuterEnvelope.decode_ne_panic _)
  | err error =>
      have noOpening : receipt.opening = none := by rw [opening, decoded]
      have run : receipt.receive recipient = (.err error, recipient) := by
        rw [receive, Update.lift_bind_apply, decoded]
      exact .undecoded error decoded noOpening (by rw [call, noOpening]; rfl)
        (congrArg Prod.fst run) (congrArg Prod.snd run)
  | ok envelope =>
      have isOpening := opening_of_decode decoded
      generalize named : (⟨envelope, receipt.secret, receipt.nowUnix⟩ : Opening) = opening
        at isOpening
      have calls : receipt.call recipient = match opening.result P recipient.cache with
          | .ok frame => some (.decrypt receipt.entropy frame)
          | .err _ | .panic => none := by
        rw [call, isOpening]
        rfl
      have run : receipt.receive recipient =
          match opening.result P recipient.cache with
          | .ok frame => Recipient.onRatchet (RatchetState.decrypt receipt.entropy frame)
              { recipient with cache := opening.after P recipient.cache }
          | .err error =>
              (.err error, { recipient with cache := opening.after P recipient.cache })
          | .panic => (.panic, { recipient with cache := opening.after P recipient.cache }) := by
        rw [receive, Update.lift_bind_apply, decoded]
        simp only [Update.bind_apply, Recipient.onCache, ← named, Opening.result,
          Opening.after]
        cases (envelope.openInnerOnce P receipt.secret receipt.nowUnix recipient.cache).1 <;>
          rfl
      cases opened : opening.result P recipient.cache with
      | panic => exact absurd opened (opening.result_ne_panic _)
      | err error =>
          rw [opened] at run calls
          exact .refused opening error isOpening opened calls (congrArg Prod.fst run)
            (congrArg Prod.snd run)
      | ok frame =>
          rw [opened] at run calls
          exact .handed opening frame isOpening opened calls (congrArg Prod.fst run)
            (congrArg Prod.snd run)

end Receipt

/-! ## What an arrival carries -/

namespace Receipt

variable (P) in
def carried (receipt : Receipt) : Result ((TransportMessageId × UInt64) × InnerFrame) := do
  let envelope ← OuterEnvelope.decode receipt.bytes
  let frame ← envelope.openInner P receipt.secret receipt.nowUnix
  return ((envelope.messageId, envelope.expiresAtUnix), frame)

theorem carried_of_opening {receipt : Receipt} {opening : Opening}
    (isOpening : receipt.opening = some opening) :
    receipt.carried P = (opening.envelope.openInner P opening.secret receipt.nowUnix).map
      fun frame => (opening.entry, frame) := by
  unfold Receipt.opening at isOpening
  split at isOpening
  · rename_i envelope decoded
    cases isOpening
    rw [carried, decoded, Outcome.ok_bind]
    cases envelope.openInner P receipt.secret receipt.nowUnix <;> rfl
  all_goals cases isOpening

theorem nowUnix_of_opening {receipt : Receipt} {opening : Opening}
    (isOpening : receipt.opening = some opening) : opening.nowUnix = receipt.nowUnix := by
  unfold Receipt.opening at isOpening
  split at isOpening
  · cases isOpening
    rfl
  all_goals cases isOpening

theorem exists_decrypt_of_call {receipt : Receipt} {recipient : Recipient P}
    {call : RatchetCall} (isCall : receipt.call recipient = some call) :
    ∃ frame, call = .decrypt receipt.entropy frame := by
  rcases Option.bind_eq_some_iff.mp isCall with ⟨opening, _, handed⟩
  split at handed
  · rename_i frame _
    exact ⟨frame, (Option.some.inj handed).symm⟩
  all_goals cases handed

theorem carried_of_call {receipt : Receipt} {recipient : Recipient P}
    {frame : InnerFrame}
    (isCall : receipt.call recipient = some (.decrypt receipt.entropy frame)) :
    ∃ entry, receipt.carried P = .ok (entry, frame) := by
  cases receipt.ends recipient with
  | undecoded error unread noOpening noCall | refused opening error _ _ noCall =>
      rw [noCall] at isCall
      cases isCall
  | handed opening frame' isOpening opened isCall' =>
      cases isCall.symm.trans isCall'
      have inner := (Opening.checks_of_result opened).1
      rw [nowUnix_of_opening isOpening] at inner
      rw [carried_of_opening isOpening, inner]
      exact ⟨opening.entry, rfl⟩

end Receipt

/-! ## Runs of receipts -/

def ReceiveStep (recipient : Recipient P) (receipt : Receipt) (next : Recipient P) : Prop :=
  receipt.after recipient = next

variable (P) in
abbrev ReceiptTransition := Transition (Recipient P) Receipt

/-- What the replay cache sees of a run. -/
def openings (transitions : List (ReceiptTransition P)) :
    List (Transition ReplayCache Opening) :=
  seenSteps Recipient.cache (fun transition => transition.event.opening) transitions

/-- What the ratchet sees of a run. -/
def handedCalls (transitions : List (ReceiptTransition P)) :
    List (Transition (RatchetState P) RatchetCall) :=
  seenSteps Recipient.ratchet (fun transition => transition.event.call transition.current)
    transitions

section Run

variable {start final : Recipient P} {transitions : List (ReceiptTransition P)}
  (run : Run ReceiveStep start transitions final)

include run

theorem run_openings : Run (OpeningStep P) start.cache (openings transitions) final.cache := by
  apply run.seen
  · intro transition _ step opening isOpening
    rw [← (step : transition.event.after transition.current = transition.next)]
    cases transition.event.ends transition.current with
    | undecoded error unread noOpening =>
        rw [noOpening] at isOpening
        cases isOpening
    | refused opening' error isOpening' _ _ _ kept =>
        cases isOpening.symm.trans isOpening'
        rw [kept]
        rfl
    | handed opening' frame isOpening' _ _ _ moved =>
        cases isOpening.symm.trans isOpening'
        rw [moved]
        rfl
  · intro transition _ step noOpening
    rw [← (step : transition.event.after transition.current = transition.next)]
    cases transition.event.ends transition.current with
    | undecoded error unread _ _ _ unchanged => rw [unchanged]
    | refused opening error isOpening | handed opening frame isOpening =>
        rw [noOpening] at isOpening
        cases isOpening

theorem run_handedCalls :
    Run CallStep start.ratchet (handedCalls transitions) final.ratchet := by
  apply run.seen
  · intro transition _ step call isCall
    rw [← (step : transition.event.after transition.current = transition.next)]
    cases transition.event.ends transition.current with
    | undecoded error unread _ noCall | refused opening error _ _ noCall =>
        rw [noCall] at isCall
        cases isCall
    | handed opening frame _ _ isCall' _ moved =>
        cases isCall.symm.trans isCall'
        rw [moved]
        rfl
  · intro transition _ step noCall
    rw [← (step : transition.event.after transition.current = transition.next)]
    cases transition.event.ends transition.current with
    | undecoded error unread _ _ _ unchanged => rw [unchanged]
    | refused opening error _ _ _ _ kept => rw [kept]
    | handed opening frame _ _ isCall =>
        rw [noCall] at isCall
        cases isCall

end Run

end Mef26
