import Mef26.Crypto.Identifiers
import Mef26.Handshake.Agreement
import Mef26.Handshake.Wire

namespace Mef26

/-! # Messages that are accepted twice

A responder adds nothing fresh to a session. What keeps two accepted messages apart is the
message itself and the prekeys it is accepted with. -/

open Handshake

variable {Key : Type} {P : Primitives Key}

/-- Two sessions that cannot be told apart. -/
structure Duplicates (first second : AuthenticatedHandshake P) : Prop where
  sessionId : second.sessionId = first.sessionId
  rootSecret : second.rootSecret = first.rootSecret

def sessionInput (Key : Type) (message : InitiatorHandshake) (responder : IdentityDhPublic) :
    KeyMaterial Key :=
  blake3Input sessionLabel [.ofBytes message.encode, .ofBytes (identityPublicWire responder)]

theorem sessionInput_injective {first second : InitiatorHandshake}
    {responder responder' : IdentityDhPublic}
    (same : sessionInput Key first responder = sessionInput Key second responder') :
    first = second ∧ responder = responder' := by
  have short (message : InitiatorHandshake) (responder : IdentityDhPublic) :
      ShortParts ([.ofBytes message.encode, .ofBytes (identityPublicWire responder)] :
        List (KeyMaterial Key)) := by
    simp [ShortParts, maxCiphertextLen]
  have parts := blake3Input_injective (short _ _) (short _ _) same
  rw [List.cons.injEq, List.cons.injEq] at parts
  exact ⟨InitiatorHandshake.encode_injective (KeyMaterial.ofBytes_injective parts.1),
    identityPublicWire_injective (KeyMaterial.ofBytes_injective parts.2.1)⟩

/-! ## Chains -/

theorem initialChain_eq_iff (kdf : P.CollisionFreeKdf) {role : RatchetRole} {root root' : Key}
    {sessionId sessionId' : FixedBytes 32} :
    initialChain P role root sessionId = initialChain P role root' sessionId' ↔
      sessionId = sessionId' ∧ root = root' := by
  constructor
  · intro same
    rcases kdf _ _ _ _ _ _ same with ⟨roots, _, sessions⟩
    exact ⟨FixedBytes.bytes_injective (KeyMaterial.ofBytes_injective sessions),
      KeyMaterial.ofKey_injective roots⟩
  · intro same
    rw [same.1, same.2]

theorem duplicates_iff_chains (kdf : P.CollisionFreeKdf)
    {first second : AuthenticatedHandshake P} (roles : second.role = first.role)
    {suite suite' : AeadSuite} {left right : RatchetState P}
    (started : RatchetState.fromAuthenticatedHandshakeWithSuite first suite = .ok left)
    (started' : RatchetState.fromAuthenticatedHandshakeWithSuite second suite' = .ok right) :
    (right.sendingChain = left.sendingChain ↔ Duplicates first second) ∧
      (right.receivingChain = left.receivingChain ↔ Duplicates first second) := by
  rw [RatchetState.fromAuthenticatedHandshakeWithSuite_eq, Outcome.ok.injEq] at started started'
  subst started started'
  have same : Duplicates first second ↔
      second.sessionId = first.sessionId ∧ second.rootSecret = first.rootSecret :=
    ⟨fun duplicates => ⟨duplicates.sessionId, duplicates.rootSecret⟩,
      fun both => ⟨both.1, both.2⟩⟩
  rw [same]
  simp only [RatchetState.fresh, roles]
  exact ⟨initialChain_eq_iff kdf, initialChain_eq_iff kdf⟩

/-! ## Accepted messages -/

def acceptCalls (transitions : List (PrekeyTransition P)) : List InitiatorHandshake :=
  transitions.filterMap fun transition =>
    match transition.event with
    | .accept message => some message
    | _ => none

structure PrekeyTransition.Answers (transition : PrekeyTransition P)
    (message : InitiatorHandshake) (answer : AuthenticatedHandshake P) : Prop where
  called : transition.event = .accept message
  returned : accept message transition.current = (.ok answer, transition.next)

theorem PrekeyTransition.Answers.mem_acceptCalls {transition : PrekeyTransition P}
    {message : InitiatorHandshake} {answer : AuthenticatedHandshake P}
    (answers : PrekeyTransition.Answers transition message answer)
    {transitions : List (PrekeyTransition P)} (member : transition ∈ transitions) :
    message ∈ acceptCalls transitions :=
  List.mem_filterMap.mpr ⟨transition, member, by rw [answers.called]⟩

section Twice

variable {signed signed' : DhKeyPair P} {oneTime oneTime' : Option (DhKeyPair P)}
  {message : InitiatorHandshake} {responder : LocalIdentity P}

theorem keys_of_duplicates (kdf : P.CollisionFreeKdf)
    (separates : P.SeparatesX25519 message.initiatorEphemeral)
    (agrees : signed'.Agrees message.initiatorEphemeral)
    (agrees' : ∀ pair ∈ oneTime', pair.Agrees message.initiatorEphemeral)
    (same : Duplicates (responderHandshake responder message signed oneTime)
      (responderHandshake responder message signed' oneTime')) :
    signed'.publicKey = signed.publicKey ∧
      (oneTime'.map fun pair => pair.publicKey) = oneTime.map fun pair => pair.publicKey := by
  rcases rootInput_injective (kdf _ _ _ _ _ _ same.rootSecret).2.2 with ⟨_, _, same3, same4⟩
  exact ⟨DhKeyPair.publicKey_eq_of_x25519 separates agrees same3,
    DhKeyPair.publicKeys_eq_of_x25519 separates agrees' same4⟩

end Twice

/-- The same message again. It asks for no one-time prekey, and no call in between gave the
identifier of its signed prekey to a new key. -/
structure IsReplay (between : List (PrekeyTransition P)) (message message' : InitiatorHandshake) :
    Prop where
  same : message' = message
  noOneTime : message.oneTimePrekeyId = none
  kept : ∀ transition ∈ between,
    ¬PrekeyTransition.Issues transition (.signed message.signedPrekeyId)

section Replay

variable {first second : PrekeyTransition P} {between : List (PrekeyTransition P)}
  {message message' : InitiatorHandshake} {answer answer' : AuthenticatedHandshake P}

/-- A one-time prekey that is asked for twice was replaced by another one in between. -/
theorem oneTimeKeys_ne (wellFormed : first.current.WellFormed)
    (step : PrekeyStep first.current first.event first.next)
    (run : Run PrekeyStep first.next between second.current)
    (fresh : FreshPrekeys first.current (first :: between)) {id : UInt32}
    (consumed : first.next = first.current.consume (some id)) {pair pair' : DhKeyPair P}
    (found : first.current.lookup (.oneTime id) = some pair)
    (found' : second.current.lookup (.oneTime id) = some pair') :
    pair.publicKey ≠ pair'.publicKey := by
  have wellFormed' := wellFormed.kept step.changes
  rcases Naming.kept_or_assigned run (exclusive_of_run run wellFormed') found'
    with kept | ⟨source, member, assigned⟩
  · rw [consumed, ResponderPrekeyMaterial.lookup, wellFormed.oneTimeEntry_consume] at kept
    cases kept
  · exact fresh.ne_of_assigned (List.mem_cons_of_mem _ member) assigned found

theorem duplicates_iff (kdf : P.CollisionFreeKdf) (wellFormed : first.current.WellFormed)
    (step : PrekeyStep first.current first.event first.next)
    (run : Run PrekeyStep first.next between second.current)
    (fresh : FreshPrekeys first.current (first :: between))
    (separates : P.SeparatesX25519 message'.initiatorEphemeral)
    (hash : sessionIdOf P message' first.current.identity.publicRecord =
      sessionIdOf P message first.current.identity.publicRecord →
        message' = message)
    (answers : PrekeyTransition.Answers first message answer)
    (answers' : PrekeyTransition.Answers second message' answer') :
    Duplicates answer answer' ↔ IsReplay between message message' := by
  rcases accept_eq_ok.mp answers.returned with ⟨⟨signed, oneTime, accepts, rfl⟩, consumed⟩
  rcases accept_eq_ok.mp answers'.returned with ⟨⟨signed', oneTime', accepts', rfl⟩, _⟩
  have whole := Run.cons step run
  rw [identity_of_run whole]
  have signedFound : first.current.lookup (.signed message.signedPrekeyId) = some signed :=
    accepts.signedFound
  have notFirst (name : PrekeyName) : ¬PrekeyTransition.Issues first name := by
    intro issues
    rw [PrekeyTransition.Issues, answers.called] at issues
    cases issues.2
  constructor
  · intro same
    have sameMessage := hash same.sessionId
    subst sameMessage
    rcases keys_of_duplicates kdf separates accepts'.agrees3 accepts'.agrees4 same
      with ⟨signedSame, oneTimeSame⟩
    refine ⟨rfl, ?_, ?_⟩
    · cases asked : message'.oneTimePrekeyId with
      | none => rfl
      | some id =>
          have found := accepts.oneTimeFound
          have found' := accepts'.oneTimeFound
          rw [asked] at consumed found found'
          rcases ResponderPrekeyMaterial.requestedPair_some.mp found with ⟨pair, held, rfl⟩
          rcases ResponderPrekeyMaterial.requestedPair_some.mp found' with ⟨pair', held', rfl⟩
          exact absurd (Option.some.inj oneTimeSame).symm
            (oneTimeKeys_ne wellFormed step run fresh consumed held held')
    · intro transition member
      exact (same_pair_iff whole wellFormed fresh signedFound accepts'.signedFound).mp
        signedSame transition (List.mem_cons_of_mem _ member)
  · intro replayed
    rcases replayed with ⟨rfl, notAsked, unissued⟩
    have found := accepts.oneTimeFound
    have found' := accepts'.oneTimeFound
    rw [notAsked] at found found'
    cases found
    cases found'
    have kept := same_pair_of_unissued whole wellFormed
      (List.forall_mem_cons.mpr ⟨notFirst _, unissued⟩) signedFound accepts'.signedFound
    subst kept
    exact ⟨rfl, rfl⟩

end Replay

/-- Two calls of `accept` in one run give the same session, and then the same chains, exactly
if the second replays the first. -/
theorem accepted_duplicates_iff (kdf : P.CollisionFreeKdf)
    {signingEntropy dhEntropy prekeyEntropy : Entropy} {id : UInt32} {expiresAtUnix : UInt64}
    {start final : ResponderPrekeyMaterial P}
    {transitions before between after : List (PrekeyTransition P)}
    {first second : PrekeyTransition P}
    (generated : ResponderPrekeyMaterial.generate signingEntropy dhEntropy prekeyEntropy id
      expiresAtUnix = .ok start)
    (run : Run PrekeyStep start transitions final) (fresh : FreshPrekeys start transitions)
    (separates : ∀ message ∈ acceptCalls transitions,
      P.SeparatesX25519 message.initiatorEphemeral)
    (hash : Set.InjOn P.blake3 {input | ∃ message ∈ acceptCalls transitions,
      input = sessionInput Key message start.identity.publicRecord})
    (split : transitions = before ++ first :: (between ++ second :: after))
    {message message' : InitiatorHandshake} {answer answer' : AuthenticatedHandshake P}
    (answers : PrekeyTransition.Answers first message answer)
    (answers' : PrekeyTransition.Answers second message' answer') :
    (Duplicates answer answer' ↔ IsReplay between message message') ∧
      ∀ suite suite' left right,
        RatchetState.fromAuthenticatedHandshakeWithSuite answer suite = .ok left →
        RatchetState.fromAuthenticatedHandshakeWithSuite answer' suite' = .ok right →
        (right.sendingChain = left.sendingChain ↔ IsReplay between message message') ∧
        (right.receivingChain = left.receivingChain ↔ IsReplay between message message') := by
  have called := answers.mem_acceptCalls (show first ∈ transitions by simp [split])
  have called' := answers'.mem_acceptCalls (show second ∈ transitions by simp [split])
  rw [split] at run fresh
  have wellFormed := wellFormed_of_run run.around.1
    (ResponderPrekeyMaterial.wellFormed_generate generated)
  have fresh' : FreshPrekeys first.current (first :: between) := by
    apply Naming.Fresh.of_prefix
    exact Naming.Fresh.of_append fresh run.around.1
  have hash' : sessionIdOf P message' first.current.identity.publicRecord =
      sessionIdOf P message first.current.identity.publicRecord →
        message' = message := by
    rw [identity_of_run run.around.1]
    intro same
    exact (sessionInput_injective (hash ⟨_, called', rfl⟩ ⟨_, called, rfl⟩ same)).1
  have duplicates := duplicates_iff kdf wellFormed run.around.2.1 run.around.2.2.around.1 fresh'
    (separates message' called') hash' answers answers'
  refine ⟨duplicates, ?_⟩
  intro suite suite' left right started started'
  rw [← duplicates]
  apply duplicates_iff_chains kdf _ started started'
  rcases accept_eq_ok.mp answers.returned with ⟨⟨_, _, _, rfl⟩, _⟩
  rcases accept_eq_ok.mp answers'.returned with ⟨⟨_, _, _, rfl⟩, _⟩
  rfl

/-! ## Two messages that are accepted again -/

/-- The sample message is accepted, its one-time prekey is replaced, and it is accepted again. -/
def sampleReplay : List (PrekeyTransition Primitives.symbolic) :=
  samplePublishing _ ++ (sampleReissue ++
    [⟨sampleReissued, .accept (sampleMessage 6 7), sampleMaterial _⟩])

theorem run_sampleReplay :
    Run PrekeyStep (sampleMaterial Primitives.symbolic) sampleReplay (sampleMaterial _) :=
  (run_samplePublishing _).append
    (run_sampleReissue.snoc (congrArg Prod.snd (accept_sample _ 6 7)).symm)

/-- A message that asks for a one-time prekey gives another session when it is accepted with
another key pair. -/
theorem accepted_duplicates_reissued : ∃ answer answer',
    accept (sampleMessage 6 7) (samplePublished Primitives.symbolic) =
      (.ok answer, sampleMaterial Primitives.symbolic) ∧
    accept (sampleMessage 6 7) sampleReissued =
      (.ok answer', sampleMaterial Primitives.symbolic) ∧
    ¬Duplicates answer answer' := by
  have first := accept_sample (.fromSecret (.replicate 32 4)) 6 7
  have second := accept_sample (.fromSecret (.replicate 32 5)) 6 7
  have fresh := freshPrekeys_of_generate (generate_sampleMaterial _) run_sampleReplay (by decide)
  have hash : Set.InjOn Primitives.symbolic.blake3 {input |
      ∃ message ∈ acceptCalls sampleReplay, input = sessionInput Term message
        (sampleMaterial Primitives.symbolic).identity.publicRecord} := by
    have calls : acceptCalls sampleReplay = [sampleMessage 6 7, sampleMessage 6 7] := rfl
    have once : ∀ message ∈ acceptCalls sampleReplay, message = sampleMessage 6 7 := by
      simp [calls]
    apply Set.Subsingleton.injOn
    intro left isLeft right isRight
    rcases isLeft with ⟨message, member, rfl⟩
    rcases isRight with ⟨message', member', rfl⟩
    rw [once message member, once message' member']
  have split : sampleReplay = samplePublishing _ ++
      ⟨samplePublished _, .accept (sampleMessage 6 7), sampleMaterial _⟩ ::
        ([⟨sampleMaterial _, .addOneTimePrekey (constantEntropy 5) 19, sampleReissued⟩] ++
          [⟨sampleReissued, .accept (sampleMessage 6 7), sampleMaterial _⟩]) := rfl
  refine ⟨_, _, first, second, ?_⟩
  intro duplicates
  have replay := (accepted_duplicates_iff Primitives.collisionFreeKdf_symbolic
    (generate_sampleMaterial _) run_sampleReplay fresh
    (fun _ _ => Primitives.separatesX25519_symbolic _) hash split ⟨rfl, first⟩
    ⟨rfl, second⟩).1.mp duplicates
  exact absurd replay.noOneTime (by decide)

def sampleUnnumbered : InitiatorHandshake :=
  initiatorMessage (sampleInitiator Primitives.symbolic)
    (sampleMaterial Primitives.symbolic).bundle (.fromSecret (.replicate 32 6))
    (.fromSecret (.replicate 32 7))

/-- A message that asks for no one-time prekey is accepted as often as it arrives, and always
gives the same session and the same chains. -/
theorem exists_accept_duplicated :
    ∃ answer answer' left right,
      Run PrekeyStep (sampleMaterial Primitives.symbolic)
        [⟨sampleMaterial _, .accept sampleUnnumbered, sampleMaterial _⟩,
          ⟨sampleMaterial _, .accept sampleUnnumbered, sampleMaterial _⟩] (sampleMaterial _) ∧
      PrekeyTransition.Answers ⟨sampleMaterial Primitives.symbolic, .accept sampleUnnumbered,
        sampleMaterial _⟩ sampleUnnumbered answer ∧
      PrekeyTransition.Answers ⟨sampleMaterial Primitives.symbolic, .accept sampleUnnumbered,
        sampleMaterial _⟩ sampleUnnumbered answer' ∧
      Duplicates answer answer' ∧
      RatchetState.fromAuthenticatedHandshake answer = .ok left ∧
      RatchetState.fromAuthenticatedHandshake answer' = .ok right ∧
      right.sendingChain = left.sendingChain ∧ right.receivingChain = left.receivingChain := by
  have accepts : Accepts (sampleMaterial Primitives.symbolic) sampleUnnumbered
      (.fromSecret (.replicate 32 3)) none := {
    verified := (sampleInitiator _).verify_publicRecord Primitives.lawfulEd25519_symbolic
    signedFound := rfl
    oneTimeFound := rfl
    agrees1 := rfl
    agrees2 := rfl
    agrees3 := rfl
    agrees4 := by simp }
  have accepted : accept sampleUnnumbered (sampleMaterial Primitives.symbolic) =
      (.ok _, sampleMaterial _) := accept_eq_ok.mpr ⟨⟨_, _, accepts, rfl⟩, rfl⟩
  have step : PrekeyStep (sampleMaterial Primitives.symbolic) (.accept sampleUnnumbered)
      (sampleMaterial _) := (congrArg Prod.snd accepted).symm
  exact ⟨_, _, _, _, .cons step (.cons step (.nil _)), ⟨rfl, accepted⟩, ⟨rfl, accepted⟩,
    ⟨rfl, rfl⟩, RatchetState.fromAuthenticatedHandshakeWithSuite_eq _ _,
    RatchetState.fromAuthenticatedHandshakeWithSuite_eq _ _, rfl, rfl⟩

end Mef26
