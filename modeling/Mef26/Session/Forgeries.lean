import Mef26.Foundation.Projection
import Mef26.Session.Agreement

namespace Mef26

/-! # What the network can do

A frame that the peer has not sealed, and a frame that has been accepted already, leave no
trace in the session. What is left to the network is when the peer's frames arrive first,
and whether they do. -/

variable {Key : Type} {P : Primitives Key}

/-- A delivery of a frame that the peer has not sealed, or that was accepted before. -/
def Forged (before : List (SessionTransition P)) (transition : SessionTransition P) : Prop :=
  ∃ entropy frame, transition.event.call = .decrypt entropy frame ∧
    ((∀ sent ∈ before, sent.event.side = transition.event.side.peer →
        ∀ key, ¬SessionTransition.Seals sent key frame) ∨
      ∃ earlier ∈ before, earlier.event.side = transition.event.side ∧
        earlier.acceptedFrame = some frame)

/-- The step fails and leaves both endpoints as they were. -/
structure LeavesNoTrace (transition : SessionTransition P) : Prop where
  failed : ∃ error, transition.reply = .err error
  unchanged : transition.next = transition.current

theorem leavesNoTrace_of_unused {transition : SessionTransition P}
    (step : SessionStep transition.current transition.event transition.next)
    {entropy : Entropy} {frame : InnerFrame}
    (isDecrypt : transition.event.call = .decrypt entropy frame)
    (unused : ∀ key, ¬transition.UsesKey key) : LeavesNoTrace transition := by
  have unusedHere (key : Key) : ¬RatchetCall.UsesKey
      (transition.current transition.event.side) (.decrypt entropy frame) key := by
    intro uses
    apply unused key
    rw [SessionTransition.UsesKey, isDecrypt]
    exact uses
  rcases RatchetCall.refused_of_unused unusedHere with ⟨error, failed, unchanged⟩
  constructor
  · refine ⟨error, ?_⟩
    rw [SessionTransition.reply, isDecrypt]
    exact failed
  · rw [step, Session.after, isDecrypt, unchanged]
    exact Function.update_eq_self _ _

section Run

variable (kdf : P.CollisionFreeKdf) {ends : RatchetRole → AuthenticatedHandshake P}
  (mirrored : HandshakeEnds ends) {suite : AeadSuite} {start final : Session P}
  (starts : Session.Starts ends suite start) {transitions : List (SessionTransition P)}
  (run : Run SessionStep start transitions final) (ideal : IdealAead transitions)
  (fresh : FreshKeys start transitions)

include kdf mirrored starts run ideal

/-- A frame that opens a second time would be sealed under two keys by one call, or open
under one key twice. -/
theorem not_usesKey_of_accepted (fresh : FreshKeys start transitions)
    {before after : List (SessionTransition P)} {transition earlier : SessionTransition P}
    (split : transitions = before ++ transition :: after) (member : earlier ∈ before)
    (same : earlier.event.side = transition.event.side) {entropy : Entropy}
    {frame : InnerFrame} (isDecrypt : transition.event.call = .decrypt entropy frame)
    (accepted : earlier.acceptedFrame = some frame) (key : Key) :
    ¬transition.UsesKey key := by
  intro uses
  rcases sealed_of_peer kdf mirrored starts run ideal split isDecrypt uses
    with ⟨sent, sentBefore, peer, seals⟩
  rcases List.append_of_mem member with ⟨earliest, between, rfl⟩
  have splitEarlier : transitions = earliest ++ earlier ::
      (between ++ transition :: after) := by
    rw [split, List.append_assoc, List.cons_append]
  rcases SessionTransition.acceptedFrame_eq_some accepted with ⟨_, _, isDecrypt', replied'⟩
  rcases accepted_of_peer kdf mirrored starts run ideal splitEarlier isDecrypt' replied'
    with ⟨key', uses', _, sent', sentBefore', peer', seals', returned'⟩
  rw [split] at run fresh
  have prior := run.around.1
  have returned : sent.reply = .ok (.frame frame) := by
    apply seals.returned
    rcases seals' with ⟨_, _, _, isEncrypt, _, _⟩
    rw [SessionTransition.reply, isEncrypt] at returned'
    rcases RatchetCall.sealed_of_frame returned' with ⟨sealed, room⟩
    rw [(InnerFrame.sealFrame_eq_ok.mp sealed).1]
    exact room
  rcases (framesApart prior fresh.of_append).sender_unique sentBefore
    (List.mem_append_left _ sentBefore')
    (SessionTransition.returnedFrame_eq_some.mpr returned)
    (SessionTransition.returnedFrame_eq_some.mpr returned') with rfl
  rw [seals'.unique seals] at uses'
  exact usesKey_once kdf mirrored starts prior member same uses' uses

include fresh

theorem Forged.leavesNoTrace {before after : List (SessionTransition P)}
    {transition : SessionTransition P} (split : transitions = before ++ transition :: after)
    (forged : Forged before transition) : LeavesNoTrace transition := by
  have step : SessionStep transition.current transition.event transition.next := by
    rw [split] at run
    exact run.around.2.1
  rcases forged with ⟨entropy, frame, isDecrypt, unsealed | ⟨earlier, member, same, accepted⟩⟩
  · apply leavesNoTrace_of_unused step isDecrypt
    intro key uses
    rcases sealed_of_peer kdf mirrored starts run ideal split isDecrypt uses
      with ⟨sent, member, peer, seals⟩
    exact unsealed sent member peer key seals
  · apply leavesNoTrace_of_unused step isDecrypt
    exact not_usesKey_of_accepted kdf mirrored starts run ideal fresh split member same
      isDecrypt accepted

/-- Every run is a run without its forged deliveries: they fail, the other calls go as
they would without them, and both endpoints end where they would end. -/
theorem forgeries_invisible :
    Run SessionStep start (withoutIdle Forged [] transitions) final ∧
      ∀ before transition after, transitions = before ++ transition :: after →
        Forged before transition → LeavesNoTrace transition := by
  have noTrace (before : List (SessionTransition P)) (transition : SessionTransition P)
      (after : List (SessionTransition P)) (split : transitions = before ++ transition :: after)
      (forged : Forged before transition) : LeavesNoTrace transition :=
    forged.leavesNoTrace kdf mirrored starts run ideal fresh split
  refine ⟨run.withoutIdle ?_, noTrace⟩
  intro before transition after split forged
  exact (noTrace before transition after split forged).unchanged

end Run

/-! ## The first message, twice -/

def readOnce : RatchetState Primitives.symbolic :=
  (RatchetCall.decrypt (constantEntropy 3) symbolicFrame).after (symbolicSession .responder)

def replayedEvents : List SessionEvent :=
  symbolicEvents ++ [⟨.responder, .decrypt (constantEntropy 3) symbolicFrame⟩]

theorem not_usesKey_readOnce (key : Term) :
    ¬RatchetCall.UsesKey readOnce (.decrypt (constantEntropy 3) symbolicFrame) key := by
  have noKeys : readOnce.skipped.length = 0 := by decide +kernel
  have counted : readOnce.receivingCount = 1 := by decide +kernel
  have same : symbolicFrame.header.ratchetPublic = readOnce.remoteDh := by decide +kernel
  intro uses
  cases uses with
  | retained index entry plaintext opens =>
      have inside := List.getElem?_eq_some_iff.mp opens.element
      exact absurd inside.1 (by omega)
  | current plaintext opens =>
      have reached := opens.fits.1
      rw [counted] at reached
      exact absurd reached (by decide)
  | next pair plaintext opens => exact opens.different same

theorem step_of_replayedEvents {before after : List (SessionTransition Primitives.symbolic)}
    {transition : SessionTransition Primitives.symbolic}
    (split : symbolicSession.trace replayedEvents = before ++ transition :: after) :
    transition.event = ⟨.initiator, sampleCall⟩ ∨
      transition.event = ⟨.responder, .decrypt (constantEntropy 3) symbolicFrame⟩ ∧
        ((transition.current .responder = symbolicSession .responder ∧
          ∃ sent ∈ before, SessionTransition.Seals sent
            (messageKeyOf Primitives.symbolic (symbolicSession .initiator).sendingChain)
            symbolicFrame) ∨
          transition.current .responder = readOnce) := by
  rw [replayedEvents, symbolicEvents, List.cons_append, List.cons_append, List.nil_append,
    Session.trace, Session.trace, Session.trace, Session.trace] at split
  rcases before with _ | ⟨first, _ | ⟨second, _ | ⟨third, rest⟩⟩⟩
  · cases split
    exact .inl rfl
  · cases split
    exact .inr ⟨rfl, .inl ⟨rfl, _, List.mem_cons_self .., _, _, _, rfl,
      symbolicFrame_sealed, rfl⟩⟩
  · cases split
    refine .inr ⟨rfl, .inr ?_⟩
    simp only [Session.after_side]
    rfl
  · simp at split

theorem idealAead_replayed : IdealAead (symbolicSession.trace replayedEvents) := by
  intro before transition after split entropy frame key isDecrypt uses
  rcases step_of_replayedEvents split with isSending | ⟨isEvent, first | second⟩
  · rw [isSending] at isDecrypt
    cases isDecrypt
  · rw [SessionTransition.UsesKey, isEvent] at uses
    rw [isEvent] at isDecrypt
    cases isDecrypt
    simp only [first.1] at uses
    rw [usesKey_symbolic uses]
    exact first.2
  · rw [SessionTransition.UsesKey, isEvent] at uses
    simp only [second] at uses
    exact absurd uses (not_usesKey_readOnce key)

theorem freshKeys_replayed :
    FreshKeys symbolicSession (symbolicSession.trace replayedEvents) where
  initially := by decide
  drawn before transition after pair split draws := by
    rcases step_of_replayedEvents split with isSending | ⟨isEvent, first | second⟩
    · rw [isSending] at draws
      cases draws
    · rw [isEvent] at draws
      simp only [first.1] at draws
      cases draws with
      | next plaintext opens => exact absurd rfl opens.different
    · rw [isEvent] at draws
      simp only [second] at draws
      cases draws with
      | next plaintext opens => exact absurd (.next pair plaintext opens) (not_usesKey_readOnce _)

theorem forgeries_invisible_replayed :
    Run SessionStep symbolicSession
        (withoutIdle Forged [] (symbolicSession.trace replayedEvents))
        (replayedEvents.foldl Session.after symbolicSession) ∧
      ∀ before transition after,
        symbolicSession.trace replayedEvents = before ++ transition :: after →
        Forged before transition → LeavesNoTrace transition :=
  forgeries_invisible Primitives.collisionFreeKdf_symbolic handshakeEnds_sample
    starts_sampleSession (symbolicSession.run_trace replayedEvents) idealAead_replayed
    freshKeys_replayed

end Mef26
