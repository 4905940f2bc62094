import Mef26.Session.Frames

namespace Mef26

/-! # Agreement

Under ideal authenticated encryption the network can only deliver what the peer has
sent, and each of the peer's frames at most once. -/

variable {Key : Type} {P : Primitives Key}

/-- Ideal authenticated encryption: a frame opens under a message key only if a call
before has sealed it under this key. -/
def IdealAead (transitions : List (SessionTransition P)) : Prop :=
  ∀ before (transition : SessionTransition P) after,
    transitions = before ++ transition :: after →
    ∀ entropy frame key, transition.event.call = .decrypt entropy frame →
      transition.UsesKey key →
      ∃ earlier ∈ before, SessionTransition.Seals earlier key frame

/-- Every accepted frame was returned by the peer before, for the plaintext it was
accepted with. -/
def AgreesWithPeer (transitions : List (SessionTransition P)) : Prop :=
  ∀ before (transition : SessionTransition P) after,
    transitions = before ++ transition :: after →
    ∀ entropy frame plaintext, transition.event.call = .decrypt entropy frame →
      transition.reply = .ok (.plaintext plaintext) →
      ∃ sent ∈ before, ∃ entropy' kind,
        sent.event = ⟨transition.event.side.peer, .encrypt entropy' kind plaintext⟩ ∧
        SessionTransition.reply sent = .ok (.frame frame)

def acceptedFrames (transitions : List (SessionTransition P)) : List InnerFrame :=
  transitions.filterMap SessionTransition.acceptedFrame

theorem FreshKeys.of_append {start : Session P}
    {before after : List (SessionTransition P)}
    (fresh : FreshKeys start (before ++ after)) : FreshKeys start before where
  initially := fresh.initially
  drawn earlier transition later pair split :=
    fresh.drawn earlier transition (later ++ after) pair (by simp [split])

theorem SessionTransition.acceptedFrame_eq_some {transition : SessionTransition P}
    {frame : InnerFrame} (accepted : transition.acceptedFrame = some frame) :
    ∃ entropy plaintext, transition.event.call = .decrypt entropy frame ∧
      transition.reply = .ok (.plaintext plaintext) := by
  unfold acceptedFrame at accepted
  split at accepted
  · rename_i entropy other reply isDecrypt replied
    cases accepted
    refine ⟨entropy, ?_⟩
    rw [SessionTransition.reply, isDecrypt, RatchetCall.result] at replied ⊢
    cases called : (RatchetState.decrypt entropy frame
        (transition.current transition.event.side)).1 with
    | ok plaintext => exact ⟨plaintext, rfl, rfl⟩
    | err | panic =>
        rw [called] at replied
        cases replied
  · cases accepted

theorem SessionTransition.Seals.usesKey {transition : SessionTransition P} {key : Key}
    {frame : InnerFrame} (seals : transition.Seals key frame) : transition.UsesKey key := by
  rcases seals with ⟨entropy, kind, plaintext, isEncrypt, sealed, rfl⟩
  unfold UsesKey
  rw [isEncrypt]
  exact .encrypt frame sealed

theorem SessionTransition.Seals.unique {transition : SessionTransition P} {key key' : Key}
    {frame frame' : InnerFrame} (first : transition.Seals key frame)
    (second : transition.Seals key' frame') : key = key' := by
  rcases first with ⟨_, _, _, _, _, rfl⟩
  rcases second with ⟨_, _, _, _, _, rfl⟩
  rfl

theorem SessionTransition.Seals.returned {transition : SessionTransition P} {key : Key}
    {frame : InnerFrame} (seals : transition.Seals key frame)
    (room : frame.header.messageNumber.toNat + 1 < UInt32.size) :
    transition.reply = .ok (.frame frame) := by
  rcases seals with ⟨entropy, kind, plaintext, isEncrypt, sealed, _⟩
  have header := (InnerFrame.sealFrame_eq_ok.mp sealed).1
  rw [header] at room
  rw [reply, isEncrypt, RatchetCall.result, RatchetState.encrypt_of_sealed sealed room]
  rfl

theorem SessionTransition.Seals.plaintext (aead : P.LawfulAead)
    {transition : SessionTransition P} {key : Key} {frame : InnerFrame}
    {plaintext : List UInt8} (seals : transition.Seals key frame)
    (opened : frame.openFrame P key = .ok plaintext) :
    ∃ entropy kind, transition.event.call = .encrypt entropy kind plaintext := by
  rcases seals with ⟨entropy, kind, original, isEncrypt, sealed, rfl⟩
  rw [InnerFrame.openFrame_of_sealFrame aead sealed] at opened
  cases opened
  exact ⟨entropy, kind, isEncrypt⟩

section Run

variable (kdf : P.CollisionFreeKdf) (aead : P.LawfulAead)
  {ends : RatchetRole → AuthenticatedHandshake P} (mirrored : HandshakeEnds ends)
  {suite : AeadSuite} {start final : Session P} (starts : Session.Starts ends suite start)
  {transitions : List (SessionTransition P)}
  (run : Run SessionStep start transitions final) (ideal : IdealAead transitions)

include kdf mirrored starts run ideal in
theorem sealed_of_peer {before after : List (SessionTransition P)}
    {transition : SessionTransition P} (split : transitions = before ++ transition :: after)
    {entropy : Entropy} {frame : InnerFrame} {key : Key}
    (isDecrypt : transition.event.call = .decrypt entropy frame)
    (uses : transition.UsesKey key) :
    ∃ sent ∈ before, sent.event.side = transition.event.side.peer ∧
      SessionTransition.Seals sent key frame := by
  have prior : Run SessionStep start before transition.current := by
    rw [split] at run
    exact run.around.1
  rcases ideal before transition after split entropy frame key isDecrypt uses
      with ⟨sent, member, seals⟩
  refine ⟨sent, member, ?_, seals⟩
  by_contra notPeer
  have own : sent.event.side = transition.event.side := by
    have sides := mt (@RatchetRole.eq_peer_of_ne transition.event.side _) notPeer
    exact not_not.mp sides
  exact usesKey_once kdf mirrored starts prior member own seals.usesKey uses

include kdf mirrored starts run ideal in
theorem accepted_of_peer {before after : List (SessionTransition P)}
    {transition : SessionTransition P} (split : transitions = before ++ transition :: after)
    {entropy : Entropy} {frame : InnerFrame} {plaintext : List UInt8}
    (isDecrypt : transition.event.call = .decrypt entropy frame)
    (replied : transition.reply = .ok (.plaintext plaintext)) :
    ∃ key, transition.UsesKey key ∧ frame.openFrame P key = .ok plaintext ∧
      ∃ sent ∈ before, sent.event.side = transition.event.side.peer ∧
        SessionTransition.Seals sent key frame ∧
        SessionTransition.reply sent = .ok (.frame frame) := by
  rw [SessionTransition.reply, isDecrypt] at replied
  rcases RatchetCall.usesKey_of_plaintext replied with ⟨key, uses, opened, room⟩
  have usesHere : transition.UsesKey key := by
    rw [SessionTransition.UsesKey, isDecrypt]
    exact uses
  rcases sealed_of_peer kdf mirrored starts run ideal split isDecrypt usesHere
      with ⟨sent, member, peer, seals⟩
  exact ⟨key, usesHere, opened, sent, member, peer, seals, seals.returned room⟩

include kdf mirrored starts run ideal

include aead in
theorem agreesWithPeer : AgreesWithPeer transitions := by
  intro before transition after split entropy frame plaintext isDecrypt replied
  rcases accepted_of_peer kdf mirrored starts run ideal split isDecrypt replied
      with ⟨key, _, opened, sent, member, peer, seals, returned⟩
  rcases seals.plaintext aead opened with ⟨entropy', kind, isEncrypt⟩
  exact ⟨sent, member, entropy', kind, by rw [← peer, ← isEncrypt], returned⟩

/-- Two acceptances of one frame would need two frames of the peer with one header, or
one message key used twice. -/
theorem acceptedFrames_nodup (fresh : FreshKeys start transitions) :
    (acceptedFrames transitions).Nodup := by
  refine List.pairwise_filterMap.mpr (Run.pairwise_of_before ?_)
  intro before transition after split earlier member frame first frame' second same
  subst same
  rcases SessionTransition.acceptedFrame_eq_some second with ⟨_, _, isDecrypt, replied⟩
  rcases accepted_of_peer kdf mirrored starts run ideal split isDecrypt replied
      with ⟨key, uses, _, sent, sentBefore, peer, seals, returned⟩
  rcases List.append_of_mem member with ⟨earliest, between, rfl⟩
  have splitEarlier : transitions = earliest ++ earlier ::
      (between ++ transition :: after) := by
    rw [split, List.append_assoc, List.cons_append]
  rcases SessionTransition.acceptedFrame_eq_some first with ⟨_, _, isDecrypt', replied'⟩
  rcases accepted_of_peer kdf mirrored starts run ideal splitEarlier isDecrypt' replied'
      with ⟨key', uses', _, sent', sentBefore', peer', seals', returned'⟩
  rw [split] at run fresh
  have prior := run.around.1
  rcases (framesApart prior fresh.of_append).sender_unique
    sentBefore (List.mem_append_left _ sentBefore')
    (SessionTransition.returnedFrame_eq_some.mpr returned)
    (SessionTransition.returnedFrame_eq_some.mpr returned') with rfl
  have sides : earlier.event.side = transition.event.side := by
    rw [← RatchetRole.peer_peer earlier.event.side, ← peer', peer, RatchetRole.peer_peer]
  rw [seals'.unique seals] at uses'
  exact usesKey_once kdf mirrored starts prior member sides uses' uses

include aead in
/-- Injective agreement: in every run the accepted frames are frames that the peer has
returned for their plaintexts, and none is accepted twice. -/
theorem run_injectivelyAgrees (fresh : FreshKeys start transitions) :
    AgreesWithPeer transitions ∧ (acceptedFrames transitions).Nodup :=
  ⟨agreesWithPeer kdf aead mirrored starts run ideal,
    acceptedFrames_nodup kdf mirrored starts run ideal fresh⟩

end Run

def symbolicEvents : List SessionEvent :=
  [⟨.initiator, .encrypt (constantEntropy 0) .message []⟩,
    ⟨.responder, .decrypt (constantEntropy 3) symbolicFrame⟩]

theorem usesKey_symbolic {key : Term}
    (uses : RatchetCall.UsesKey (symbolicSession .responder)
      (.decrypt (constantEntropy 3) symbolicFrame) key) :
    key = messageKeyOf Primitives.symbolic (symbolicSession .initiator).sendingChain := by
  cases uses with
  | retained index entry plaintext opens => exact absurd opens.passed (Nat.not_lt_zero _)
  | current => rfl
  | next pair plaintext opens => exact absurd rfl opens.different

theorem second_of_symbolicEvents {before after : List (SessionTransition Primitives.symbolic)}
    {transition : SessionTransition Primitives.symbolic}
    (split : symbolicSession.trace symbolicEvents = before ++ transition :: after) :
    (∃ entropy kind plaintext, transition.event.call = .encrypt entropy kind plaintext) ∨
      transition.event = ⟨.responder, .decrypt (constantEntropy 3) symbolicFrame⟩ ∧
        transition.current .responder = symbolicSession .responder ∧
        ∃ sent ∈ before, SessionTransition.Seals sent
          (messageKeyOf Primitives.symbolic (symbolicSession .initiator).sendingChain)
          symbolicFrame := by
  rw [symbolicEvents, Session.trace, Session.trace, Session.trace] at split
  match before with
  | [] =>
      cases split
      exact .inl ⟨_, _, _, rfl⟩
  | [sent] =>
      cases split
      exact .inr ⟨rfl, rfl, _, List.mem_singleton.mpr rfl, _, _, _, rfl,
        symbolicFrame_sealed, rfl⟩
  | first :: second :: rest => simp at split

theorem idealAead_symbolic : IdealAead (symbolicSession.trace symbolicEvents) := by
  intro before transition after split entropy frame key isDecrypt uses
  rcases second_of_symbolicEvents split with ⟨_, _, _, isEncrypt⟩ | ⟨event, current, sent⟩
  · rw [isEncrypt] at isDecrypt
    cases isDecrypt
  · rw [SessionTransition.UsesKey, event] at uses
    rw [event] at isDecrypt
    cases isDecrypt
    simp only [current] at uses
    rw [usesKey_symbolic uses]
    exact sent

theorem freshKeys_symbolic :
    FreshKeys symbolicSession (symbolicSession.trace symbolicEvents) where
  initially := by decide
  drawn before transition after pair split draws := by
    rcases second_of_symbolicEvents split with ⟨_, _, _, isEncrypt⟩ | ⟨event, current, _⟩
    · rw [isEncrypt] at draws
      cases draws
    · rw [event] at draws
      simp only [current] at draws
      cases draws with
      | next plaintext opens => exact absurd rfl opens.different

theorem run_injectivelyAgrees_delivered :
    AgreesWithPeer (symbolicSession.trace symbolicEvents) ∧
      (acceptedFrames (symbolicSession.trace symbolicEvents)).Nodup :=
  run_injectivelyAgrees Primitives.collisionFreeKdf_symbolic
    Primitives.lawfulAead_symbolic handshakeEnds_sample starts_sampleSession
    (symbolicSession.run_trace symbolicEvents) idealAead_symbolic freshKeys_symbolic

end Mef26
