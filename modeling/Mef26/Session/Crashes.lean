import Mef26.Foundation.Durable
import Mef26.Session.Agreement

namespace Mef26

/-! # Sessions whose endpoints crash

Each host hands out what its endpoint answered when it has stored the state after it. A
crash then takes nothing back, and the session behaves as one without crashes. -/

variable {Key : Type} {P : Primitives Key} {Record : Type}

def Storage.endpoint (storage : Storage (RatchetState P) Record) :
    Component (RatchetState P) RatchetCall (Result RatchetReply) Record where
  toStorage := storage
  after := RatchetCall.after
  reply := RatchetCall.result

variable (P Record) in
abbrev DurableEndpoint := Durable (RatchetState P) RatchetCall (Result RatchetReply) Record

variable (P) in
abbrev EndpointCall := LogEntry RatchetRole (RatchetState P) RatchetCall

variable (P Record) in
abbrev DurableTransition :=
  FamilyTransition RatchetRole (DurableEndpoint P Record) (DurableEvent RatchetCall)

def acceptedBy (answer : RatchetCall × Result RatchetReply) : Option InnerFrame :=
  match answer.1, answer.2 with
  | .decrypt _ frame, .ok _ => some frame
  | _, _ => none

namespace LogEntry

def sessionEvent (entry : EndpointCall P) : SessionEvent := ⟨entry.node, entry.call⟩

def answer (entry : EndpointCall P) : RatchetCall × Result RatchetReply :=
  (entry.call, entry.call.result entry.current)

end LogEntry

def crashFree (start : Session P) (transitions : List (DurableTransition P Record)) :
    List (SessionTransition P) :=
  start.trace ((survivors transitions).map LogEntry.sessionEvent)

/-! ## What a frame opens with -/

def OpensWith (_ : RatchetRole) (state : RatchetState P) (call : RatchetCall)
    (need : Key × InnerFrame) : Prop :=
  ∃ entropy, call = .decrypt entropy need.2 ∧ RatchetCall.UsesKey state call need.1

def SealsWith (_ : RatchetRole) (state : RatchetState P) (call : RatchetCall)
    (need : Key × InnerFrame) : Prop :=
  ∃ entropy kind plaintext, call = .encrypt entropy kind plaintext ∧
    state.sealNext entropy kind plaintext = .ok need.2 ∧
    need.1 = messageKeyOf P state.sendingChain

/-- Ideal authenticated encryption, when frames leave a host with a commit: a frame opens
under a message key only if a committed call has sealed it under this key. -/
def IdealReleases (transitions : List (DurableTransition P Record)) : Prop :=
  ∀ before transition after, transitions = before ++ transition :: after →
    ∀ call, transition.event.event = .call call →
      Backed OpensWith SealsWith (survivors before) transition.event.node
        (transition.current transition.event.node).memory call

/-! ## The session of the surviving calls -/

theorem Session.eq_trace {start final : Session P} {transitions : List (SessionTransition P)}
    (run : Run SessionStep start transitions final) :
    transitions = start.trace (transitions.map Transition.event) := by
  induction run with
  | nil => rfl
  | cons taken _ induction =>
      rw [List.map_cons, Session.trace]
      cases taken
      exact congrArg _ induction

def sessionTransition
    (transition : Transition (Session P) (EndpointCall P)) : SessionTransition P where
  current := transition.current
  event := transition.event.sessionEvent
  next := transition.next

section Run

variable {storages : RatchetRole → Storage (RatchetState P) Record}
  {start : Session P} {initial final : RatchetRole → DurableEndpoint P Record}
  {transitions : List (DurableTransition P Record)}

/-- The surviving calls, each with the session it is made in. -/
structure Logged (start : Session P) (transitions : List (DurableTransition P Record))
    (memory : Session P)
    (logged : List (Transition (Session P) (EndpointCall P))) : Prop where
  survive : logged.map Transition.event = survivors transitions
  called : ∀ transition ∈ logged,
    transition.event.current = transition.current transition.event.node
  traced : logged.map sessionTransition = crashFree start transitions
  run : Run SessionStep start (crashFree start transitions) memory

/-- What a run with crashes leaves behind is a run of the session without them. -/
theorem exists_logged
    (started : ∀ side, (storages side).endpoint.Starts (start side) (initial side))
    (run : Run (NetworkStep fun side => (storages side).endpoint) initial transitions final) :
    ∃ logged, Logged start transitions (fun side => (final side).memory) logged := by
  have runs : ∀ side, Run (storages side).endpoint.Step (start side)
      ((entriesOf side (survivors transitions)).map (storages side).endpoint.transition)
      (final side).memory := by
    intro side
    rcases exists_recorded started run side with ⟨committed, unsaved, stored, recorded⟩
    rw [recorded.entries, List.map_append]
    exact recorded.before.append recorded.since
  rcases exists_interleaved (survivors transitions) runs with ⟨logged, labelled, steps⟩
  have session : Run SessionStep start (logged.map sessionTransition)
      fun side => (final side).memory :=
    steps.map LogEntry.sessionEvent fun _ _ _ step => step.moved
  have traced := Session.eq_trace session
  have events : (logged.map sessionTransition).map Transition.event =
      (survivors transitions).map LogEntry.sessionEvent := by
    rw [← labelled, List.map_map, List.map_map]
    rfl
  rw [events] at traced
  refine ⟨logged, labelled, ?_, traced, ?_⟩
  · intro transition member
    exact (steps.step_of_mem member).called
  · rw [crashFree, ← traced]
    exact session

/-! ## Agreement -/

variable {memory : Session P} {logged : List (Transition (Session P) (EndpointCall P))}
  (log : Logged start transitions memory logged)

include log

theorem Logged.reply {transition : Transition (Session P) (EndpointCall P)}
    (member : transition ∈ logged) :
    (sessionTransition transition).reply =
      transition.event.call.result transition.event.current := by
  rw [log.called transition member]
  rfl

theorem Logged.backed (ideal : IdealReleases transitions)
    {before after : List (Transition (Session P) (EndpointCall P))}
    {transition : Transition (Session P) (EndpointCall P)}
    (split : logged = before ++ transition :: after) :
    Backed OpensWith SealsWith (before.map Transition.event) transition.event.node
      transition.event.current transition.event.call := by
  have events : survivors transitions = before.map Transition.event ++
      transition.event :: after.map Transition.event := by
    rw [← log.survive, split, List.map_append, List.map_cons]
  exact backed_of_survivors ideal events

theorem Logged.idealAead (ideal : IdealReleases transitions) :
    IdealAead (crashFree start transitions) := by
  rw [← log.traced]
  intro before transition after split entropy frame key isDecrypt uses
  rcases List.map_eq_append_iff.mp split with ⟨earlier, rest, same, rfl, tail⟩
  rcases List.map_eq_cons_iff.mp tail with ⟨opening, later, rfl, rfl, rfl⟩
  have member : opening ∈ logged := by
    rw [same]
    exact List.mem_append_right _ (List.mem_cons_self ..)
  have opens : OpensWith opening.event.node opening.event.current opening.event.call
      (key, frame) := by
    rw [log.called opening member]
    exact ⟨entropy, isDecrypt, uses⟩
  rcases log.backed ideal same (key, frame) opens with ⟨entry, inside, _, seals⟩
  rcases List.mem_map.mp inside with ⟨sealing, sealingBefore, rfl⟩
  refine ⟨sessionTransition sealing, List.mem_map_of_mem sealingBefore, ?_⟩
  have sealingMember : sealing ∈ logged := by
    rw [same]
    exact List.mem_append_left _ sealingBefore
  rw [log.called sealing sealingMember] at seals
  exact seals

/-- What a surviving call accepts was released by the peer, for the plaintext it was
accepted with. -/
theorem Logged.released_of_accepted (kdf : P.CollisionFreeKdf) (aead : P.LawfulAead)
    {ends : RatchetRole → AuthenticatedHandshake P} (mirrored : HandshakeEnds ends)
    {suite : AeadSuite} (starts : Session.Starts ends suite start)
    (ideal : IdealReleases transitions)
    {before after : List (Transition (Session P) (EndpointCall P))}
    {transition : Transition (Session P) (EndpointCall P)}
    (split : logged = before ++ transition :: after) {entropy : Entropy}
    {frame : InnerFrame} {plaintext : List UInt8}
    (answered : transition.event.answer = (.decrypt entropy frame, .ok (.plaintext plaintext))) :
    ∃ entry ∈ survivors transitions, entry.saved = true ∧
      entry.node = transition.event.node.peer ∧ ∃ entropy' kind,
        entry.answer = (.encrypt entropy' kind plaintext, .ok (.frame frame)) := by
  rcases Prod.mk.inj answered with ⟨isDecrypt, replied⟩
  rw [isDecrypt] at replied
  rcases RatchetCall.usesKey_of_plaintext replied with ⟨key, uses, opened, room⟩
  rw [← isDecrypt] at uses
  have opens : OpensWith transition.event.node transition.event.current
      transition.event.call (key, frame) := ⟨entropy, isDecrypt, uses⟩
  rcases log.backed ideal split (key, frame) opens with ⟨entry, inside, saved, seals⟩
  rcases List.mem_map.mp inside with ⟨sealing, sealingBefore, rfl⟩
  rcases seals with ⟨entropy', kind, original, isEncrypt, sealed, rfl⟩
  have sealingMember : sealing ∈ logged := by
    rw [split]
    exact List.mem_append_left _ sealingBefore
  have member : transition ∈ logged := by
    rw [split]
    exact List.mem_append_right _ (List.mem_cons_self ..)
  have survives : sealing.event ∈ survivors transitions := by
    rw [← log.survive]
    exact List.mem_map_of_mem sealingMember
  refine ⟨sealing.event, survives, saved, ?_, entropy', kind, ?_⟩
  · by_contra notPeer
    have own : sealing.event.node = transition.event.node :=
      not_not.mp (mt RatchetRole.eq_peer_of_ne notPeer)
    have run := log.run
    rw [← log.traced, split, List.map_append, List.map_cons] at run
    have usesHere : (sessionTransition transition).UsesKey
        (messageKeyOf P sealing.event.current.sendingChain) := by
      rw [log.called transition member] at uses
      exact uses
    have usesThere : (sessionTransition sealing).UsesKey
        (messageKeyOf P sealing.event.current.sendingChain) := by
      have used := RatchetCall.UsesKey.encrypt frame sealed
      rw [← isEncrypt] at used
      rw [SessionTransition.UsesKey]
      exact log.called sealing sealingMember ▸ used
    exact usesKey_once kdf mirrored starts run.around.1 (List.mem_map_of_mem sealingBefore)
      own usesThere usesHere
  · have header := (InnerFrame.sealFrame_eq_ok.mp sealed).1
    rw [header] at room
    rw [InnerFrame.openFrame_of_sealFrame aead sealed, Outcome.ok.injEq] at opened
    subst opened
    rw [LogEntry.answer, isEncrypt, RatchetCall.result,
      RatchetState.encrypt_of_sealed sealed room]
    rfl

theorem Logged.acceptedFrames : acceptedFrames (crashFree start transitions) =
    (survivors transitions).filterMap (acceptedBy ∘ LogEntry.answer) := by
  rw [← log.traced, ← log.survive, Mef26.acceptedFrames, List.filterMap_map,
    List.filterMap_map]
  refine List.filterMap_congr fun transition member => ?_
  have replied := log.reply member
  simp only [Function.comp_apply, SessionTransition.acceptedFrame, acceptedBy,
    LogEntry.answer, replied]
  rfl

omit log

/-- Each plaintext that a host hands out was released by the peer in the frame it came
in, and no frame is accepted twice, however often the endpoints crash. -/
theorem released_agree (kdf : P.CollisionFreeKdf) (aead : P.LawfulAead)
    {ends : RatchetRole → AuthenticatedHandshake P} (mirrored : HandshakeEnds ends)
    {suite : AeadSuite} (starts : Session.Starts ends suite start)
    (started : ∀ side, (storages side).endpoint.Starts (start side) (initial side))
    (run : Run (NetworkStep fun side => (storages side).endpoint) initial transitions final)
    (ideal : IdealReleases transitions)
    (fresh : FreshKeys start (crashFree start transitions)) :
    (∀ side entropy frame plaintext,
      (.decrypt entropy frame, .ok (.plaintext plaintext)) ∈ (final side).released →
        ∃ entropy' kind, (.encrypt entropy' kind plaintext, .ok (.frame frame)) ∈
          (final side.peer).released) ∧
    ∀ side, ((final side).released.filterMap acceptedBy).Nodup := by
  rcases exists_logged started run with ⟨logged, log⟩
  constructor
  · intro side entropy frame plaintext released
    rcases exists_recorded started run side with ⟨committed, unsaved, stored, recorded⟩
    rw [recorded.released] at released
    rcases List.mem_map.mp released with ⟨entry, member, answered⟩
    have ofSide : entry ∈ entriesOf side (survivors transitions) := by
      rw [recorded.entries]
      exact List.mem_append_left _ member
    rcases List.mem_filter.mp ofSide with ⟨survives, node⟩
    rw [← log.survive] at survives
    rcases List.mem_map.mp survives with ⟨transition, inside, rfl⟩
    rcases List.append_of_mem inside with ⟨before, after, split⟩
    rcases log.released_of_accepted kdf aead mirrored starts ideal split answered
      with ⟨sent, sentSurvives, saved, peer, entropy', kind, sentAnswer⟩
    rw [of_decide_eq_true node] at peer
    rcases exists_recorded started run side.peer
      with ⟨peerCommitted, peerUnsaved, peerStored, peerRecorded⟩
    have ofPeer : sent ∈ entriesOf side.peer (survivors transitions) :=
      List.mem_filter.mpr ⟨sentSurvives, decide_eq_true peer⟩
    rw [peerRecorded.entries] at ofPeer
    rcases List.mem_append.mp ofPeer with sentCommitted | sentUnsaved
    · refine ⟨entropy', kind, ?_⟩
      rw [peerRecorded.released]
      exact List.mem_map.mpr ⟨sent, sentCommitted, sentAnswer⟩
    · rw [peerRecorded.notSaved sent sentUnsaved] at saved
      cases saved
  · intro side
    rcases exists_recorded started run side with ⟨committed, unsaved, stored, recorded⟩
    have all := acceptedFrames_nodup kdf mirrored starts log.run (log.idealAead ideal) fresh
    rw [log.acceptedFrames] at all
    have inside : committed.Sublist (survivors transitions) := by
      refine List.Sublist.trans ?_ (List.filter_sublist (p := fun entry => entry.node = side))
      rw [← entriesOf, recorded.entries]
      exact List.sublist_append_left _ _
    rw [recorded.released, List.filterMap_map]
    exact all.sublist (inside.filterMap _)

end Run

/-! ## A receiver that crashes before it commits -/

def plainStorage : Storage (RatchetState Primitives.symbolic)
    (RatchetState Primitives.symbolic) where
  saves state record := record = state
  loads record state := state = record
  faithful saved loaded := loaded.trans saved

def receivingCall : RatchetCall := .decrypt (constantEntropy 3) symbolicFrame

def sampleHosts (initiator responder : DurableEndpoint Primitives.symbolic
    (RatchetState Primitives.symbolic)) : RatchetRole → DurableEndpoint Primitives.symbolic
      (RatchetState Primitives.symbolic)
  | .initiator => initiator
  | .responder => responder

def idleHost (state : RatchetState Primitives.symbolic)
    (released : List (RatchetCall × Result RatchetReply)) :
    DurableEndpoint Primitives.symbolic (RatchetState Primitives.symbolic) :=
  ⟨state, [], state, released⟩

def workingHost (state : RatchetState Primitives.symbolic) (call : RatchetCall) :
    DurableEndpoint Primitives.symbolic (RatchetState Primitives.symbolic) :=
  ⟨call.after state, [(call, call.result state)], state, []⟩

def committedHost (state : RatchetState Primitives.symbolic) (call : RatchetCall) :
    DurableEndpoint Primitives.symbolic (RatchetState Primitives.symbolic) :=
  idleHost (call.after state) [(call, call.result state)]

/-- The responder receives the message of the initiator, crashes, and receives it
again. -/
def crashingTransitions :
    List (DurableTransition Primitives.symbolic (RatchetState Primitives.symbolic)) :=
  let sender := symbolicSession .initiator
  let receiver := symbolicSession .responder
  let sent := committedHost sender sampleCall
  let received := sampleHosts sent (workingHost receiver receivingCall)
  [⟨sampleHosts (idleHost sender []) (idleHost receiver []),
      ⟨.initiator, .call sampleCall⟩,
      sampleHosts (workingHost sender sampleCall) (idleHost receiver [])⟩,
    ⟨sampleHosts (workingHost sender sampleCall) (idleHost receiver []),
      ⟨.initiator, .commit⟩, sampleHosts sent (idleHost receiver [])⟩,
    ⟨sampleHosts sent (idleHost receiver []), ⟨.responder, .call receivingCall⟩, received⟩,
    ⟨received, ⟨.responder, .crash⟩, sampleHosts sent (idleHost receiver [])⟩,
    ⟨sampleHosts sent (idleHost receiver []), ⟨.responder, .call receivingCall⟩, received⟩,
    ⟨received, ⟨.responder, .commit⟩,
      sampleHosts sent (committedHost receiver receivingCall)⟩]

def crashingHosts : RatchetRole → DurableEndpoint Primitives.symbolic
    (RatchetState Primitives.symbolic) :=
  sampleHosts (committedHost (symbolicSession .initiator) sampleCall)
    (committedHost (symbolicSession .responder) receivingCall)

section Sample

variable {initiator initiator' responder responder' : DurableEndpoint Primitives.symbolic
  (RatchetState Primitives.symbolic)} {event : DurableEvent RatchetCall}

theorem initiatorStep (taken : plainStorage.endpoint.DurableStep initiator event initiator') :
    NetworkStep (fun _ => plainStorage.endpoint) (sampleHosts initiator responder)
      ⟨.initiator, event⟩ (sampleHosts initiator' responder) where
  taken := taken
  others := by
    intro node other
    cases node with
    | initiator => exact absurd rfl other
    | responder => rfl

theorem responderStep (taken : plainStorage.endpoint.DurableStep responder event responder') :
    NetworkStep (fun _ => plainStorage.endpoint) (sampleHosts initiator responder)
      ⟨.responder, event⟩ (sampleHosts initiator responder') where
  taken := taken
  others := by
    intro node other
    cases node with
    | initiator => rfl
    | responder => exact absurd rfl other

end Sample

theorem starts_sampleHosts (side : RatchetRole) :
    plainStorage.endpoint.Starts (symbolicSession side) (sampleHosts
      (idleHost (symbolicSession .initiator) []) (idleHost (symbolicSession .responder) [])
      side) := by
  cases side <;> exact ⟨rfl, rfl, rfl, rfl⟩

theorem run_crashing :
    Run (NetworkStep fun _ => plainStorage.endpoint)
      (sampleHosts (idleHost (symbolicSession .initiator) [])
        (idleHost (symbolicSession .responder) []))
      crashingTransitions crashingHosts :=
  .cons (initiatorStep (.call sampleCall)) (.cons (initiatorStep (.commit _ rfl))
    (.cons (responderStep (.call receivingCall)) (.cons (responderStep (.crash _ rfl))
      (.cons (responderStep (.call receivingCall)) (.cons (responderStep (.commit _ rfl))
        (.nil _))))))

theorem backed_receiving {log : List (EndpointCall Primitives.symbolic)}
    (member : ⟨.initiator, symbolicSession .initiator, sampleCall, true⟩ ∈ log) :
    Backed OpensWith SealsWith log .responder (symbolicSession .responder) receivingCall := by
  intro need opens
  rcases need with ⟨key, frame⟩
  rcases opens with ⟨entropy, isDecrypt, uses⟩
  cases isDecrypt
  refine ⟨_, member, rfl, constantEntropy 0, .message, [], rfl, symbolicFrame_sealed, ?_⟩
  exact usesKey_symbolic uses

theorem idealReleases_crashing : IdealReleases crashingTransitions := by
  intro before transition after split call isCall
  rw [crashingTransitions] at split
  match before with
  | [] =>
      cases split
      cases isCall
      intro need opens
      rcases opens with ⟨_, isDecrypt, _⟩
      cases isDecrypt
  | [_] | [_, _, _] | [_, _, _, _, _] =>
      cases split
      cases isCall
  | [_, _] | [_, _, _, _] =>
      cases split
      cases isCall
      exact backed_receiving (List.mem_cons_self ..)
  | _ :: _ :: _ :: _ :: _ :: _ :: rest => simp at split

theorem released_agree_crashed :
    (∀ side entropy frame plaintext,
      (.decrypt entropy frame, .ok (.plaintext plaintext)) ∈ (crashingHosts side).released →
        ∃ entropy' kind, (.encrypt entropy' kind plaintext, .ok (.frame frame)) ∈
          (crashingHosts side.peer).released) ∧
    ∀ side, ((crashingHosts side).released.filterMap acceptedBy).Nodup :=
  released_agree Primitives.collisionFreeKdf_symbolic Primitives.lawfulAead_symbolic
    handshakeEnds_sample starts_sampleSession starts_sampleHosts run_crashing
    idealReleases_crashing freshKeys_symbolic

end Mef26
