import Mef26.Handshake.Completeness
import Mef26.Handshake.Replays

namespace Mef26

/-! # What a session identifier stands for

Both sides of a session hash their view of it. Views with one identifier are the same view,
unless the hash collides on the inputs of the two sides. -/

open Handshake

variable {Key : Type} {P : Primitives Key} {K : MlKem768 Key}

/-- One side's view of a session. -/
@[ext]
structure SessionView (Key : Type) where
  message : InitiatorHandshake
  responder : IdentityDhPublic
  classicalId : FixedBytes 32
  /-- The ML-KEM secret of a hybrid session. -/
  sharedSecret : Option Key

def mixedInput (classicalId : FixedBytes 32) (sharedSecret : Key) : KeyMaterial Key :=
  blake3Input hybridSessionLabel [.ofBytes classicalId.bytes, .ofKey sharedSecret]

def SessionView.inputs (view : SessionView Key) : List (KeyMaterial Key) :=
  sessionInput Key view.message view.responder ::
    (view.sharedSecret.map (mixedInput view.classicalId)).toList

variable (P K) in
/-- A call that returned a session, with the view it had of it. -/
inductive Establishes : SessionView Key → AuthenticatedHandshake P → Prop
  | initiate {ephemeralEntropy ratchetEntropy : Entropy} {identity : LocalIdentity P}
      {bundle : ResponderPrekeyBundle} {nowUnix : UInt64} {message : InitiatorHandshake}
      {handshake : AuthenticatedHandshake P}
      (returned : initiate ephemeralEntropy ratchetEntropy identity bundle nowUnix =
        .ok (message, handshake)) :
      Establishes ⟨message, bundle.identity, handshake.sessionId, none⟩ handshake
  | accept {message : InitiatorHandshake} {material next : ResponderPrekeyMaterial P}
      {handshake : AuthenticatedHandshake P}
      (returned : accept message material = (.ok handshake, next)) :
      Establishes ⟨message, material.identity.publicRecord, handshake.sessionId, none⟩
        handshake
  | hybridInitiate {ephemeralEntropy ratchetEntropy pqEntropy : Entropy}
      {identity : LocalIdentity P} {bundle : HybridResponderPrekeyBundle} {nowUnix : UInt64}
      {message : HybridInitiatorHandshake} {classical handshake : AuthenticatedHandshake P}
      {sharedSecret : Key}
      (classicalPart : Mef26.initiate ephemeralEntropy ratchetEntropy identity
        bundle.classical nowUnix = .ok (message.classical, classical))
      (encapsulated : MlKem768PublicKey.encapsulate K bundle.pqPublic pqEntropy =
        .ok (message.pqCiphertext, sharedSecret))
      (returned : Hybrid.initiate K ephemeralEntropy ratchetEntropy pqEntropy identity
        bundle nowUnix = .ok (message, handshake)) :
      Establishes ⟨message.classical, bundle.classical.identity, classical.sessionId,
        some sharedSecret⟩ handshake
  | hybridAccept {message : HybridInitiatorHandshake}
      {material next : HybridResponderPrekeyMaterial P K}
      {classicalNext : ResponderPrekeyMaterial P}
      {classical handshake : AuthenticatedHandshake P}
      (classicalPart : Mef26.accept message.classical material.classical =
        (.ok classical, classicalNext))
      (returned : HybridResponderPrekeyMaterial.accept message material =
        (.ok handshake, next)) :
      Establishes ⟨message.classical, material.classical.identity.publicRecord,
        classical.sessionId, some (material.pq.decapsulate message.pqCiphertext)⟩ handshake

/-! ## Every hybrid call has a view -/

theorem exists_view_of_hybridInitiate {ephemeralEntropy ratchetEntropy pqEntropy : Entropy}
    {identity : LocalIdentity P} {bundle : HybridResponderPrekeyBundle} {nowUnix : UInt64}
    {message : HybridInitiatorHandshake} {handshake : AuthenticatedHandshake P}
    (returned : Hybrid.initiate K ephemeralEntropy ratchetEntropy pqEntropy identity bundle
      nowUnix = .ok (message, handshake)) :
    ∃ classicalId sharedSecret, Establishes P K
      ⟨message.classical, bundle.classical.identity, classicalId, some sharedSecret⟩
        handshake := by
  rcases Hybrid.parts_of_initiate returned
    with ⟨classical, sharedSecret, classicalPart, encapsulated, _⟩
  exact ⟨_, _, .hybridInitiate classicalPart encapsulated returned⟩

theorem exists_view_of_hybridAccept {message : HybridInitiatorHandshake}
    {material next : HybridResponderPrekeyMaterial P K} {handshake : AuthenticatedHandshake P}
    (returned : HybridResponderPrekeyMaterial.accept message material =
      (.ok handshake, next)) :
    ∃ classicalId, Establishes P K
      ⟨message.classical, material.classical.identity.publicRecord, classicalId,
        some (material.pq.decapsulate message.pqCiphertext)⟩ handshake := by
  rcases HybridResponderPrekeyMaterial.parts_of_accept returned
    with ⟨classical, classicalNext, classicalPart, _⟩
  exact ⟨_, .hybridAccept classicalPart returned⟩

/-! ## Identifiers as hashes of views -/

variable (P) in
def SessionView.sessionId (view : SessionView Key) : FixedBytes 32 :=
  match view.sharedSecret with
  | none => view.classicalId
  | some sharedSecret => P.blake3 (mixedInput view.classicalId sharedSecret)

theorem sessionId_of_initiate {ephemeralEntropy ratchetEntropy : Entropy}
    {identity : LocalIdentity P} {bundle : ResponderPrekeyBundle} {nowUnix : UInt64}
    {message : InitiatorHandshake} {handshake : AuthenticatedHandshake P}
    (returned : initiate ephemeralEntropy ratchetEntropy identity bundle nowUnix =
      .ok (message, handshake)) :
    handshake.sessionId = P.blake3 (sessionInput Key message bundle.identity) := by
  rcases initiate_eq_ok.mp returned with ⟨_, ephemeral, ratchet, _, _, _, _, _, _, rfl, rfl⟩
  rfl

theorem sessionId_of_accept {message : InitiatorHandshake}
    {material next : ResponderPrekeyMaterial P} {handshake : AuthenticatedHandshake P}
    (returned : accept message material = (.ok handshake, next)) :
    handshake.sessionId = P.blake3 (sessionInput Key message material.identity.publicRecord) := by
  rcases accept_eq_ok.mp returned with ⟨⟨_, _, _, rfl⟩, _⟩
  rfl

namespace Establishes

variable {view : SessionView Key} {handshake : AuthenticatedHandshake P}

theorem classicalId_eq (established : Establishes P K view handshake) :
    view.classicalId = P.blake3 (sessionInput Key view.message view.responder) := by
  cases established with
  | initiate returned => exact sessionId_of_initiate returned
  | accept returned => exact sessionId_of_accept returned
  | hybridInitiate classicalPart _ _ => exact sessionId_of_initiate classicalPart
  | hybridAccept classicalPart _ => exact sessionId_of_accept classicalPart

theorem sessionId_eq (established : Establishes P K view handshake) :
    handshake.sessionId = view.sessionId P := by
  cases established with
  | initiate _ | accept _ => rfl
  | hybridInitiate classicalPart encapsulated returned =>
      rcases Hybrid.parts_of_initiate returned with ⟨_, _, classicalPart', encapsulated', rfl⟩
      rw [classicalPart] at classicalPart'
      rw [encapsulated] at encapsulated'
      cases classicalPart'
      cases encapsulated'
      rfl
  | hybridAccept classicalPart returned =>
      rcases HybridResponderPrekeyMaterial.parts_of_accept returned
        with ⟨_, _, classicalPart', rfl⟩
      rw [classicalPart] at classicalPart'
      cases classicalPart'
      rfl

end Establishes

/-! ## Injectivity -/

theorem mixedInput_injective {classicalId classicalId' : FixedBytes 32}
    {sharedSecret sharedSecret' : Key}
    (same : mixedInput classicalId sharedSecret = mixedInput classicalId' sharedSecret') :
    classicalId = classicalId' ∧ sharedSecret = sharedSecret' := by
  have short (id : FixedBytes 32) (secret : Key) :
      ShortParts [KeyMaterial.ofBytes id.bytes, KeyMaterial.ofKey secret] := by
    simp [ShortParts, maxCiphertextLen]
  have parts := blake3Input_injective (short _ _) (short _ _) same
  rw [List.cons.injEq, List.cons.injEq] at parts
  exact ⟨FixedBytes.bytes_injective (KeyMaterial.ofBytes_injective parts.1),
    KeyMaterial.ofKey_injective parts.2.1⟩

theorem sessionInput_ne_mixedInput (message : InitiatorHandshake)
    (responder : IdentityDhPublic) (classicalId : FixedBytes 32) (sharedSecret : Key) :
    sessionInput Key message responder ≠ mixedInput classicalId sharedSecret :=
  blake3Input_ne (by decide) (by decide) _ _

section Binding

variable {left right : SessionView Key} {handshake answer : AuthenticatedHandshake P}

theorem eq_of_classicalId (established : Establishes P K left handshake)
    (established' : Establishes P K right answer)
    (hash : Set.InjOn P.blake3 {input | input ∈ left.inputs ∨ input ∈ right.inputs})
    (same : left.classicalId = right.classicalId) :
    left.message = right.message ∧ left.responder = right.responder := by
  rw [established.classicalId_eq, established'.classicalId_eq] at same
  exact sessionInput_injective
    (hash (.inl (List.mem_cons_self ..)) (.inr (List.mem_cons_self ..)) same)

/-- Equal session identifiers come from one classical session and one mixed secret. -/
theorem sessionId_inj (established : Establishes P K left handshake)
    (established' : Establishes P K right answer)
    (hash : Set.InjOn P.blake3 {input | input ∈ left.inputs ∨ input ∈ right.inputs})
    (same : left.sessionId P = right.sessionId P) :
    left.classicalId = right.classicalId ∧ left.sharedSecret = right.sharedSecret := by
  have hashed := established.classicalId_eq
  have hashed' := established'.classicalId_eq
  rcases left with ⟨message, responder, classicalId, sharedSecret⟩
  rcases right with ⟨message', responder', classicalId', sharedSecret'⟩
  cases sharedSecret with
  | none =>
      cases sharedSecret' with
      | none => exact ⟨same, rfl⟩
      | some secret' =>
          -- The two stages hash under labels that do not start with each other.
          have inputs := hash (.inl (List.mem_cons_self ..))
            (.inr (List.mem_cons_of_mem _ (List.mem_singleton_self _))) (hashed.symm.trans same)
          exact absurd inputs (sessionInput_ne_mixedInput _ _ _ _)
  | some secret =>
      cases sharedSecret' with
      | none =>
          have inputs := hash (.inr (List.mem_cons_self ..))
            (.inl (List.mem_cons_of_mem _ (List.mem_singleton_self _)))
            (hashed'.symm.trans same.symm)
          exact absurd inputs (sessionInput_ne_mixedInput _ _ _ _)
      | some secret' =>
          have inputs := hash (.inl (List.mem_cons_of_mem _ (List.mem_singleton_self _)))
            (.inr (List.mem_cons_of_mem _ (List.mem_singleton_self _))) same
          rcases mixedInput_injective inputs with ⟨ids, secrets⟩
          exact ⟨ids, congrArg some secrets⟩

/-- One session identifier stands for one view, whichever calls it comes from: one message,
one responder, one classical session, and one ML-KEM secret or none on both sides. -/
theorem sessionId_bindsView (established : Establishes P K left handshake)
    (established' : Establishes P K right answer)
    (hash : Set.InjOn P.blake3 {input | input ∈ left.inputs ∨ input ∈ right.inputs})
    (same : handshake.sessionId = answer.sessionId) : left = right := by
  rw [established.sessionId_eq, established'.sessionId_eq] at same
  rcases sessionId_inj established established' hash same with ⟨ids, secrets⟩
  rcases eq_of_classicalId established established' hash ids with ⟨messages, responders⟩
  exact SessionView.ext messages responders ids secrets

end Binding

/-- The two sides of the sample handshake share their view. -/
theorem sessionId_bindsView_sample : ∃ message handshake answer next,
    initiate (constantEntropy 6) (constantEntropy 7) (sampleInitiator Primitives.concrete)
      (samplePublished Primitives.concrete).bundle 2000 = .ok (message, handshake) ∧
    accept message (samplePublished Primitives.concrete) = (.ok answer, next) ∧
    (⟨message, (samplePublished Primitives.concrete).bundle.identity, handshake.sessionId,
        none⟩ : SessionView (FixedBytes 32)) =
      ⟨message, (samplePublished Primitives.concrete).identity.publicRecord, answer.sessionId,
        none⟩ := by
  have wellFormed : (samplePublished Primitives.concrete).WellFormed :=
    wellFormed_of_run (.cons (samplePublished_eq _) (.nil _))
      (ResponderPrekeyMaterial.wellFormed_generate (generate_sampleMaterial _))
  have initiated := initiate_published Primitives.lawfulX25519_concrete
    Primitives.lawfulEd25519_concrete wellFormed
    (rfl : DhKeyPair.generate (constantEntropy 6) = .ok (.fromSecret (.replicate 32 6)))
    (rfl : DhKeyPair.generate (constantEntropy 7) = .ok (.fromSecret (.replicate 32 7)))
    (sampleInitiator _) (by decide : (2000 : UInt64) ≤ 2000)
  rcases accept_published Primitives.lawfulX25519_concrete Primitives.lawfulEd25519_concrete
    wellFormed wellFormed rfl (.refl _) (sampleInitiator _) (.fromSecret (.replicate 32 6))
    (.fromSecret (.replicate 32 7)) with ⟨answer, next, accepted, same⟩
  refine ⟨_, _, answer, next, initiated, accepted, ?_⟩
  apply sessionId_bindsView (.initiate (K := concreteKem) initiated) (.accept accepted) ?_
    same.sessionId.symm
  apply Set.Subsingleton.injOn
  intro left isLeft right isRight
  rcases isLeft with isLeft | isLeft <;> rcases isRight with isRight | isRight <;>
    exact (List.mem_singleton.mp isLeft).trans (List.mem_singleton.mp isRight).symm

end Mef26
