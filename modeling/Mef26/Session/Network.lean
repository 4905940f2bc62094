import Mef26.Foundation.Family
import Mef26.Handshake.Agreement
import Mef26.Handshake.Completeness
import Mef26.Session.Agreement

namespace Mef26

/-! # Many sessions over one network

Any number of sessions share the network, which may hand any frame to any endpoint of any
of them. Their message keys are apart, so each session only accepts its own frames. -/

variable {Key : Type} {P : Primitives Key}

/-! ## Sessions that a handshake starts -/

/-- What an initiator ends up with, in either profile. -/
inductive Initiated : AuthenticatedHandshake P → Prop
  | classical {ephemeralEntropy ratchetEntropy : Entropy} {identity : LocalIdentity P}
      {bundle : ResponderPrekeyBundle} {nowUnix : UInt64} {message : InitiatorHandshake}
      {handshake : AuthenticatedHandshake P}
      (returned : initiate ephemeralEntropy ratchetEntropy identity bundle nowUnix =
        .ok (message, handshake)) : Initiated handshake
  | hybrid (K : MlKem768 Key) {ephemeralEntropy ratchetEntropy pqEntropy : Entropy}
      {identity : LocalIdentity P} {bundle : HybridResponderPrekeyBundle} {nowUnix : UInt64}
      {message : HybridInitiatorHandshake} {handshake : AuthenticatedHandshake P}
      (returned : Hybrid.initiate K ephemeralEntropy ratchetEntropy pqEntropy identity bundle
        nowUnix = .ok (message, handshake)) : Initiated handshake

theorem Initiated.handshakeRoot {handshake : AuthenticatedHandshake P}
    (initiated : Initiated handshake) : HandshakeRoot P handshake.rootSecret := by
  cases initiated with
  | classical returned =>
      rcases initiate_eq_ok.mp returned with ⟨_, _, _, _, _, _, _, _, _, _, rfl⟩
      exact ⟨_, _, _, List.mem_cons_self .., rfl⟩
  | hybrid K returned =>
      rcases Hybrid.parts_of_initiate returned with ⟨_, _, _, _, rfl⟩
      exact ⟨_, _, _, List.mem_cons_of_mem _ (List.mem_singleton_self _), rfl⟩

/-! ## Where the message keys of a session lie -/

section Place

variable {ends : RatchetRole → AuthenticatedHandshake P} {suite : AeadSuite}
  {start final : Session P} {transitions : List (SessionTransition P)}

theorem exists_place_of_usesKey (kdf : P.CollisionFreeKdf) (mirrored : HandshakeEnds ends)
    (starts : Session.Starts ends suite start)
    (run : Run SessionStep start transitions final) {transition : SessionTransition P}
    (member : transition ∈ transitions) {key : Key} (uses : transition.UsesKey key) :
    ∃ epoch chain index, ChainStart P (ends .initiator).rootSecret
      (ends .initiator).sessionId epoch chain ∧ key = messageKeyAt P chain index := by
  rcases exists_run_onSide run transition.event.side with ⟨calls, sideRun, recorded⟩
  rw [starts.eq_fresh] at sideRun
  rcases exists_standing_of_run kdf (mirrored.derived_side _) sideRun
    with ⟨standing, _, spent⟩
  rcases (spent _ (recorded transition member rfl) key uses).1
    with ⟨chain, index, ⟨epoch, _, started⟩, same, _⟩
  rw [mirrored.rootSecret, mirrored.sessionId] at started
  exact ⟨epoch, chain, index, started, same⟩

theorem rootSecret_eq_of_messageKey (kdf : P.CollisionFreeKdf)
    {rootSecret rootSecret' chain chain' : Key} {sessionId sessionId' : FixedBytes 32}
    {epoch epoch' index index' : Nat} (derived : HandshakeRoot P rootSecret)
    (derived' : HandshakeRoot P rootSecret')
    (started : ChainStart P rootSecret sessionId epoch chain)
    (started' : ChainStart P rootSecret' sessionId' epoch' chain')
    (same : messageKeyAt P chain index = messageKeyAt P chain' index') :
    rootSecret = rootSecret' := by
  have first := Lineage.iterate (chainNext P) chain index
  have second := Lineage.iterate (chainNext P) chain' index'
  rw [← chainAt] at first second
  rw [← kdf.messageKeyOf_injective same] at second
  have chains := (Lineage.unique kdf.uniqueParents_chain (kdf.isOrigin_chainStart started)
    (kdf.isOrigin_chainStart started') first second).1
  cases started with
  | initial role =>
      cases started' with
      | initial role' => exact KeyMaterial.ofKey_injective (kdf _ _ _ _ _ _ chains).1
      | stepped => exact absurd chains kdf.initialChain_ne_rootChain
  | stepped output root =>
      cases started' with
      | initial => exact absurd chains.symm kdf.initialChain_ne_rootChain
      | stepped output' root' =>
          rw [← (kdf.rootChain_eq chains).1] at root'
          exact (Lineage.unique kdf.uniqueParents_root (kdf.isOrigin_handshakeRoot derived)
            (kdf.isOrigin_handshakeRoot derived') root root').1

end Place

/-! ## The network -/

variable {Name : Type} [DecidableEq Name]

variable (P Name) in
abbrev NetworkTransition := FamilyTransition Name (Session P) SessionEvent

structure SessionEnds (ends : RatchetRole → AuthenticatedHandshake P) : Prop where
  initiated : Initiated (ends .initiator)
  same : SameSession (ends .initiator) (ends .responder)

theorem SessionEnds.mirrored {ends : RatchetRole → AuthenticatedHandshake P}
    (session : SessionEnds ends) :
    HandshakeEnds ends where
  role side := by
    cases side
    · exact session.same.roles.1
    · exact session.same.roles.2
  sessionId side := by
    cases side
    · rfl
    · exact session.same.sessionId
  rootSecret side := by
    cases side
    · rfl
    · exact session.same.rootSecret
  remoteRatchet side := by
    cases side
    · exact session.same.ratchets.1
    · exact session.same.ratchets.2
  derived := session.initiated.handshakeRoot

/-- Ideal authenticated encryption: a frame opens under a message key only if a call
before, in whichever session, has sealed it under this key. -/
def IdealNetwork (transitions : List (NetworkTransition P Name)) : Prop :=
  ∀ before (transition : NetworkTransition P Name) after,
    transitions = before ++ transition :: after →
    ∀ entropy frame key, transition.event.event.call = .decrypt entropy frame →
      SessionTransition.UsesKey transition.own key →
      ∃ earlier ∈ before, SessionTransition.Seals (FamilyTransition.own earlier) key frame

section Run

variable (kdf : P.CollisionFreeKdf) {ends : Name → RatchetRole → AuthenticatedHandshake P}
  (sessions : ∀ name, SessionEnds (ends name))
  (apart : Function.Injective fun name => (ends name .initiator).rootSecret)
  {suites : Name → AeadSuite} {start final : Name → Session P}
  (starts : ∀ name, Session.Starts (ends name) (suites name) (start name))
  {transitions : List (NetworkTransition P Name)}
  (run : Run (FamilyStep fun _ => SessionStep) start transitions final)

include kdf sessions apart starts run

theorem name_eq_of_usesKey {first second : NetworkTransition P Name}
    (member : first ∈ transitions) (member' : second ∈ transitions) {key : Key}
    (uses : SessionTransition.UsesKey first.own key)
    (uses' : SessionTransition.UsesKey second.own key) :
    first.event.node = second.event.node := by
  rcases exists_place_of_usesKey kdf (sessions _).mirrored (starts _)
    (run.stepsOf first.event.node) (mem_stepsOf member) uses
    with ⟨epoch, chain, index, started, rfl⟩
  rcases exists_place_of_usesKey kdf (sessions _).mirrored (starts _)
    (run.stepsOf second.event.node) (mem_stepsOf member') uses'
    with ⟨epoch', chain', index', started', same⟩
  exact apart (rootSecret_eq_of_messageKey kdf (sessions _).initiated.handshakeRoot
    (sessions _).initiated.handshakeRoot started started' same)

/-- Seen from one of the sessions the encryption is ideal too. -/
theorem idealAead_stepsOf (ideal : IdealNetwork transitions) (name : Name) :
    IdealAead (stepsOf name transitions) := by
  intro before step after split entropy frame key isDecrypt uses
  rcases exists_split_of_stepsOf split
    with ⟨earlier, transition, later, rfl, named, rfl, rfl⟩
  rcases ideal earlier transition later rfl entropy frame key isDecrypt uses
    with ⟨sealing, member, seals⟩
  have same := name_eq_of_usesKey kdf sessions apart starts run
    (List.mem_append_left _ member) (List.mem_append_right _ (List.mem_cons_self ..))
    seals.usesKey uses
  rw [named] at same
  exact ⟨sealing.own, same ▸ mem_stepsOf member, seals⟩

/-- Every session of the network has injective agreement, whatever frames of the other
sessions are handed to its endpoints, and no message key is used in two of them. -/
theorem sessions_separate (aead : P.LawfulAead) (ideal : IdealNetwork transitions)
    (fresh : ∀ name, FreshKeys (start name) (stepsOf name transitions)) :
    (∀ name, AgreesWithPeer (stepsOf name transitions) ∧
      (acceptedFrames (stepsOf name transitions)).Nodup) ∧
    ∀ first ∈ transitions, ∀ second ∈ transitions, ∀ key,
      SessionTransition.UsesKey (FamilyTransition.own first) key →
      SessionTransition.UsesKey (FamilyTransition.own second) key →
      first.event.node = second.event.node := by
  constructor
  · intro name
    have idealHere := idealAead_stepsOf kdf sessions apart starts run ideal name
    have mirrored := (sessions name).mirrored
    exact ⟨agreesWithPeer kdf aead mirrored (starts name) (run.stepsOf name) idealHere,
      acceptedFrames_nodup kdf mirrored (starts name) (run.stepsOf name) idealHere
        (fresh name)⟩
  · intro first member second member' key uses uses'
    exact name_eq_of_usesKey kdf sessions apart starts run member member' uses uses'

end Run

/-! ## Two sessions with one responder -/

def sampleRatchet : Bool → UInt8
  | true => 12
  | false => 14

def sampleEphemeralPair (name : Bool) : DhKeyPair Primitives.tagged :=
  .fromSecret (.replicate 32 (sampleRatchet name - 1))

def sampleRatchetPair (name : Bool) : DhKeyPair Primitives.tagged :=
  .fromSecret (.replicate 32 (sampleRatchet name))

def networkEnds (name : Bool) : RatchetRole → AuthenticatedHandshake Primitives.tagged
  | .initiator => initiatorHandshake (sampleInitiator Primitives.tagged)
      (samplePublished Primitives.tagged).bundle (sampleEphemeralPair name)
      (sampleRatchetPair name)
  | .responder => responderHandshake (sampleMaterial Primitives.tagged).identity
      (initiatorMessage (sampleInitiator Primitives.tagged)
        (samplePublished Primitives.tagged).bundle (sampleEphemeralPair name)
        (sampleRatchetPair name))
      (.fromSecret (.replicate 32 3)) (some (.fromSecret (.replicate 32 4)))

theorem initiate_network (name : Bool) :
    initiate (constantEntropy (sampleRatchet name - 1)) (constantEntropy (sampleRatchet name))
      (sampleInitiator Primitives.tagged) (samplePublished Primitives.tagged).bundle 2000 =
      .ok (initiatorMessage (sampleInitiator Primitives.tagged)
        (samplePublished Primitives.tagged).bundle (sampleEphemeralPair name)
        (sampleRatchetPair name), networkEnds name .initiator) :=
  initiate_published Primitives.lawfulX25519_tagged Primitives.lawfulEd25519_tagged
    (wellFormed_samplePublished _) rfl rfl (sampleInitiator _)
    (show 2000 ≤ (samplePublished Primitives.tagged).signedRecord.expiresAtUnix by decide)

theorem sessionEnds_network (name : Bool) : SessionEnds (networkEnds name) where
  initiated := .classical (initiate_network name)
  same := sameSession_of_keys Primitives.lawfulX25519_tagged rfl rfl rfl

theorem rootSecrets_apart :
    Function.Injective fun name => (networkEnds name .initiator).rootSecret := by
  intro name name' same
  rcases rootInput_injective (Primitives.collisionFreeKdf_tagged _ _ _ _ _ _ same).2.2
    with ⟨_, same2, _⟩
  have secrets := Primitives.separatesX25519_tagged _ _ _ rfl same2
  cases name <;> cases name'
  · rfl
  · exact absurd secrets (by decide)
  · exact absurd secrets (by decide)
  · rfl

def networkStart (name : Bool) : Session Primitives.tagged := fun side =>
  RatchetState.fresh (networkEnds name side) .xChaCha20Poly1305

theorem starts_network (name : Bool) :
    Session.Starts (networkEnds name) .xChaCha20Poly1305 (networkStart name) :=
  fun side => RatchetState.fromAuthenticatedHandshakeWithSuite_eq (networkEnds name side) _

def networkFrame : InnerFrame := .empty (.replicate 32 12) 0 0 33

theorem networkFrame_sealed :
    (networkStart true .initiator).sealNext (constantEntropy 0) .message [] =
      .ok networkFrame := by
  decide +kernel

def networkAfter (current : Bool → Session Primitives.tagged)
    (event : NodeEvent Bool SessionEvent) : Bool → Session Primitives.tagged :=
  Function.update current event.node ((current event.node).after event.event)

theorem networkAfter_step (current : Bool → Session Primitives.tagged)
    (event : NodeEvent Bool SessionEvent) :
    FamilyStep (fun _ => SessionStep) current event (networkAfter current event) where
  taken := Function.update_self ..
  others _ other := Function.update_of_ne other _ _

/-- Both initiators send, and the first message arrives at the wrong session and then at its
own. -/
def networkEvents : List (NodeEvent Bool SessionEvent) :=
  [⟨true, ⟨.initiator, sampleCall⟩⟩, ⟨false, ⟨.initiator, sampleCall⟩⟩,
    ⟨false, ⟨.responder, .decrypt (constantEntropy 3) networkFrame⟩⟩,
    ⟨true, ⟨.responder, .decrypt (constantEntropy 3) networkFrame⟩⟩]

def networkTrace (current : Bool → Session Primitives.tagged) :
    List (NodeEvent Bool SessionEvent) → List (NetworkTransition Primitives.tagged Bool)
  | [] => []
  | event :: events =>
      ⟨current, event, networkAfter current event⟩ ::
        networkTrace (networkAfter current event) events

theorem run_networkTrace (current : Bool → Session Primitives.tagged)
    (events : List (NodeEvent Bool SessionEvent)) :
    Run (FamilyStep fun _ => SessionStep) current (networkTrace current events)
      (events.foldl networkAfter current) := by
  induction events generalizing current with
  | nil => exact .nil current
  | cons event events induction =>
      exact .cons (networkAfter_step current event) (induction _)

theorem usesKey_network {key : Term}
    (uses : RatchetCall.UsesKey (networkStart true .responder)
      (.decrypt (constantEntropy 3) networkFrame) key) :
    key = messageKeyOf Primitives.tagged (networkStart true .initiator).sendingChain := by
  cases uses with
  | retained index entry plaintext opens => exact absurd opens.passed (Nat.not_lt_zero _)
  | current =>
      have roots := (sessionEnds_network true).same.rootSecret
      exact congrArg (fun root => messageKeyOf Primitives.tagged
        (initialChain Primitives.tagged .initiator root
          (networkEnds true .initiator).sessionId)) roots
  | next pair plaintext opens => exact absurd rfl opens.different

/-- To the other session the tag says that the key is a wrong one. -/
theorem not_usesKey_network {key : Term} : ¬RatchetCall.UsesKey (networkStart false .responder)
    (.decrypt (constantEntropy 3) networkFrame) key := by
  intro uses
  cases uses with
  | retained index entry plaintext opens => exact absurd opens.passed (Nat.not_lt_zero _)
  | current plaintext opens => exact absurd opens.same (by decide)
  | next pair plaintext opens =>
      have refused : networkFrame.openFrame Primitives.tagged (messageKeyAt Primitives.tagged
          ((networkStart false .responder).chainFrom networkFrame.header.ratchetPublic)
          networkFrame.header.messageNumber.toNat) = .err .authenticationFailed := by
        decide +kernel
      cases opens.opened.symm.trans refused

theorem idealNetwork_sample : IdealNetwork (networkTrace networkStart networkEvents) := by
  intro before transition after split entropy frame key isDecrypt uses
  simp only [networkEvents, networkTrace] at split
  match before with
  | [] | [_] =>
      cases split
      cases isDecrypt
  | [sealing, _] =>
      cases split
      cases isDecrypt
      exact absurd uses not_usesKey_network
  | [sealing, _, _] =>
      cases split
      cases isDecrypt
      refine ⟨_, List.mem_cons_self .., constantEntropy 0, .message, [], rfl,
        networkFrame_sealed, ?_⟩
      exact usesKey_network uses
  | _ :: _ :: _ :: _ :: rest => simp at split

theorem freshKeys_network (name : Bool) :
    FreshKeys (networkStart name) (stepsOf name (networkTrace networkStart networkEvents)) where
  initially := by cases name <;> decide
  drawn before step after pair split draws := by
    rcases exists_split_of_stepsOf split with ⟨earlier, transition, later, whole, _, rfl, _⟩
    simp only [networkEvents, networkTrace] at whole
    match earlier with
    | [] | [_] =>
        cases whole
        cases draws
    | [_, _] =>
        cases whole
        cases draws with
        | next plaintext opens => exact absurd (.next _ plaintext opens) not_usesKey_network
    | [_, _, _] =>
        cases whole
        cases draws with
        | next plaintext opens => exact absurd rfl opens.different
    | _ :: _ :: _ :: _ :: rest => simp at whole

theorem sessions_separate_sample :
    (∀ name, AgreesWithPeer (stepsOf name (networkTrace networkStart networkEvents)) ∧
      (acceptedFrames (stepsOf name (networkTrace networkStart networkEvents))).Nodup) ∧
    ∀ first ∈ networkTrace networkStart networkEvents,
      ∀ second ∈ networkTrace networkStart networkEvents, ∀ key,
      SessionTransition.UsesKey (FamilyTransition.own first) key →
      SessionTransition.UsesKey (FamilyTransition.own second) key →
      first.event.node = second.event.node :=
  sessions_separate Primitives.collisionFreeKdf_tagged sessionEnds_network
    rootSecrets_apart starts_network (run_networkTrace _ _) Primitives.lawfulAead_tagged
    idealNetwork_sample freshKeys_network

end Mef26
