import Mef26.Handshake.Honest
import Mef26.Handshake.HybridWire

namespace Mef26

/-! # Honest handshakes complete

Over the wire and over every run of the responder, classical and hybrid. -/

variable {Key : Type} {P : Primitives Key}

/-! ## The classical handshake -/

variable (P) in
/-- Completeness of the classical handshake, over the wire and over every run of the
responder. -/
def CompletesClassical : Prop :=
  ∀ {signingEntropy dhEntropy prekeyEntropy : Entropy} {id : UInt32} {expiresAtUnix : UInt64}
    {start published later : ResponderPrekeyMaterial P}
    {before after : List (PrekeyTransition P)},
    ResponderPrekeyMaterial.generate signingEntropy dhEntropy prekeyEntropy id expiresAtUnix =
      .ok start →
    Run PrekeyStep start before published → Run PrekeyStep published after later →
    ∀ (identity : LocalIdentity P) {ephemeralEntropy ratchetEntropy : Entropy},
      (ephemeralEntropy 32).isSome → (ratchetEntropy 32).isSome →
      ∀ nowUnix ≤ published.bundle.signedPrekey.expiresAtUnix,
      ∃ bundle message handshake,
        ResponderPrekeyBundle.decode P published.bundle.encode = .ok bundle ∧
        initiate ephemeralEntropy ratchetEntropy identity bundle nowUnix =
          .ok (message, handshake) ∧
        (published.HoldsPublished later → ∃ received answer next,
          InitiatorHandshake.decode P message.encode = .ok received ∧
          accept received later = (.ok answer, next) ∧ SameSession handshake answer)

theorem completesClassical (agreement : P.LawfulX25519) (signatures : P.LawfulEd25519) :
    CompletesClassical P := by
  intro signingEntropy dhEntropy prekeyEntropy id expiresAtUnix start published later before
    after generated run run' identity ephemeralEntropy ratchetEntropy available available'
    nowUnix fresh
  have initial := ResponderPrekeyMaterial.wellFormed_generate generated
  have wellFormed := wellFormed_of_run run initial
  have wellFormed' := wellFormed_of_run run' wellFormed
  rcases generate_of_isSome available with ⟨ephemeral, drawn⟩
  rcases generate_of_isSome available' with ⟨ratchet, drawn'⟩
  refine ⟨published.bundle, _, _, ?_,
    initiate_published agreement signatures wellFormed drawn drawn' identity fresh, ?_⟩
  · exact ResponderPrekeyBundle.decode_eq_ok.mpr
      ⟨rfl, published.identity.verify_publicRecord signatures⟩
  · intro holds
    rcases accept_published agreement signatures wellFormed wellFormed'
      (identity_of_run run') holds identity ephemeral ratchet with ⟨answer, next, accepted, same⟩
    exact ⟨_, answer, next, InitiatorHandshake.decode_eq_ok.mpr
      ⟨rfl, identity.verify_publicRecord signatures⟩, accepted, same⟩

/-! ## The hybrid handshake -/

variable {K : MlKem768 Key}

def AuthenticatedHandshake.mixed (handshake : AuthenticatedHandshake P) (sharedSecret : Key) :
    AuthenticatedHandshake P :=
  let sessionId := P.blake3 (blake3Input Handshake.hybridSessionLabel
    [.ofBytes handshake.sessionId.bytes, .ofKey sharedSecret])
  { handshake with
    sessionId
    rootSecret := P.hkdfSha256 (.ofBytes sessionId.bytes)
      (domainLabel "kdf" Handshake.hybridRootLabel)
      (KeyMaterial.ofKey handshake.rootSecret ++ KeyMaterial.ofKey sharedSecret) }

theorem AuthenticatedHandshake.mixMlKem768_eq (handshake : AuthenticatedHandshake P)
    (sharedSecret : Key) :
    handshake.mixMlKem768 sharedSecret = .ok (handshake.mixed sharedSecret) := by
  have short : ∀ part ∈ ([.ofBytes handshake.sessionId.bytes, .ofKey sharedSecret] :
      List (KeyMaterial Key)), KeyMaterial.byteLength part ≤ maxCiphertextLen := by
    simp [maxCiphertextLen]
  have bounded : KeyMaterial.byteLength (KeyMaterial.ofKey handshake.rootSecret ++
      KeyMaterial.ofKey sharedSecret) ≤ maxCiphertextLen := by
    simp [maxCiphertextLen]
  unfold mixMlKem768
  rw [blake3Id_eq P (by decide) short, Outcome.ok_bind]
  dsimp only
  rw [deriveSecret_eq P (by decide) bounded]
  rfl

theorem Hybrid.parts_of_initiate {ephemeralEntropy ratchetEntropy pqEntropy : Entropy}
    {identity : LocalIdentity P} {bundle : HybridResponderPrekeyBundle} {nowUnix : UInt64}
    {message : HybridInitiatorHandshake} {handshake : AuthenticatedHandshake P}
    (returned : Hybrid.initiate K ephemeralEntropy ratchetEntropy pqEntropy identity bundle
      nowUnix = .ok (message, handshake)) :
    ∃ classical sharedSecret,
      Mef26.initiate ephemeralEntropy ratchetEntropy identity bundle.classical nowUnix =
        .ok (message.classical, classical) ∧
      MlKem768PublicKey.encapsulate K bundle.pqPublic pqEntropy =
        .ok (message.pqCiphertext, sharedSecret) ∧
      handshake = classical.mixed sharedSecret := by
  unfold Hybrid.initiate at returned
  rcases Outcome.bind_eq_ok.mp returned with ⟨_, _, returned⟩
  rcases Outcome.bind_eq_ok.mp returned with ⟨⟨message, classical⟩, classicalPart, returned⟩
  rcases Outcome.bind_eq_ok.mp returned
    with ⟨⟨ciphertext, sharedSecret⟩, encapsulated, returned⟩
  dsimp only at returned
  rw [AuthenticatedHandshake.mixMlKem768_eq, Outcome.ok_bind] at returned
  cases returned
  exact ⟨classical, sharedSecret, classicalPart, encapsulated, rfl⟩

theorem SameSession.mixed {initiator responder : AuthenticatedHandshake P}
    (same : SameSession initiator responder) (sharedSecret : Key) :
    SameSession (initiator.mixed sharedSecret) (responder.mixed sharedSecret) := by
  apply sameSession_of
  · exact same.roles.1
  · exact same.roles.2
  · simp only [AuthenticatedHandshake.mixed, same.sessionId]
  · simp only [AuthenticatedHandshake.mixed, same.sessionId, same.rootSecret]
  · exact same.ratchets.1
  · exact same.ratchets.2

inductive HybridCall
  | addOneTimePrekey (entropy : Entropy) (id : UInt32)
  | bundle
  | accept (message : HybridInitiatorHandshake)

namespace HybridResponderPrekeyMaterial

def after (material : HybridResponderPrekeyMaterial P K) :
    HybridCall → HybridResponderPrekeyMaterial P K
  | .addOneTimePrekey entropy id => (addOneTimePrekey entropy id material).2
  | .bundle => material
  | .accept message => (accept message material).2

def publicBundle (material : HybridResponderPrekeyMaterial P K) :
    HybridResponderPrekeyBundle where
  classical := material.classical.bundle
  pqPublic := material.pq.publicKey
  pqSignature := material.classical.signMessage
    (transcriptOf P material.classical.bundle material.pq.publicKey)

theorem bundle_eq (material : HybridResponderPrekeyMaterial P K) :
    material.bundle = .ok material.publicBundle := by
  unfold bundle
  dsimp only
  rw [bindingTranscript_eq]
  rfl

theorem onClassical_apply {α : Type} (method : Update (ResponderPrekeyMaterial P) MefError α)
    (material : HybridResponderPrekeyMaterial P K) :
    onClassical method material = ((method material.classical).1,
      { material with classical := (method material.classical).2 }) := rfl

theorem accept_eq (message : HybridInitiatorHandshake)
    (material : HybridResponderPrekeyMaterial P K) :
    accept message material =
      (match (Mef26.accept message.classical material.classical).1 with
        | .ok handshake => .ok (handshake.mixed (material.pq.decapsulate message.pqCiphertext))
        | .err error => .err error
        | .panic => .panic,
      { material with classical := (Mef26.accept message.classical material.classical).2 }) := by
  unfold accept
  rw [Update.bind_apply, onClassical_apply]
  cases (Mef26.accept message.classical material.classical).1 with
  | err | panic => rfl
  | ok handshake =>
      dsimp only
      rw [Update.read_bind_apply]
      dsimp only
      rw [AuthenticatedHandshake.mixMlKem768_eq]
      rfl

theorem parts_of_accept {message : HybridInitiatorHandshake}
    {material next : HybridResponderPrekeyMaterial P K} {handshake : AuthenticatedHandshake P}
    (returned : accept message material = (.ok handshake, next)) :
    ∃ classical classicalNext,
      Mef26.accept message.classical material.classical = (.ok classical, classicalNext) ∧
      handshake = classical.mixed (material.pq.decapsulate message.pqCiphertext) := by
  rw [accept_eq, Prod.mk.injEq] at returned
  cases value : (Mef26.accept message.classical material.classical).1 with
  | err | panic =>
      rw [value] at returned
      cases returned.1
  | ok classical =>
      rw [value] at returned
      exact ⟨classical, _, Prod.ext value rfl, (Outcome.ok.inj returned.1).symm⟩

end HybridResponderPrekeyMaterial

def HybridStep (current : HybridResponderPrekeyMaterial P K) (call : HybridCall)
    (next : HybridResponderPrekeyMaterial P K) : Prop :=
  next = current.after call

/-- A hybrid run is a classical run under a fixed ML-KEM key pair. -/
theorem exists_run_classical {start final : HybridResponderPrekeyMaterial P K}
    {transitions : List (Transition (HybridResponderPrekeyMaterial P K) HybridCall)}
    (run : Run HybridStep start transitions final) :
    final.pq = start.pq ∧
      ∃ classical, Run PrekeyStep start.classical classical final.classical := by
  induction run with
  | nil state => exact ⟨rfl, [], .nil _⟩
  | @cons current call middle rest final taken run induction =>
      rcases induction with ⟨same, classical, remaining⟩
      cases call with
      | addOneTimePrekey entropy id =>
          have step : PrekeyStep current.classical (.addOneTimePrekey entropy id)
              middle.classical := by
            rw [taken]
            rfl
          exact ⟨same.trans (by rw [taken]; rfl), _, .cons step remaining⟩
      | bundle =>
          rw [HybridStep] at taken
          subst taken
          exact ⟨same, classical, remaining⟩
      | accept message =>
          rw [HybridStep, HybridResponderPrekeyMaterial.after,
            HybridResponderPrekeyMaterial.accept_eq] at taken
          have step : PrekeyStep current.classical (.accept message.classical)
              middle.classical := by
            rw [taken]
            rfl
          exact ⟨same.trans (by rw [taken]), _, .cons step remaining⟩

theorem HybridResponderPrekeyMaterial.generate_classical
    {signingEntropy dhEntropy prekeyEntropy pqEntropy : Entropy} {id : UInt32}
    {expiresAtUnix : UInt64} {material : HybridResponderPrekeyMaterial P K}
    (generated : generate signingEntropy dhEntropy prekeyEntropy pqEntropy id expiresAtUnix =
      .ok material) :
    ResponderPrekeyMaterial.generate signingEntropy dhEntropy prekeyEntropy id expiresAtUnix =
      .ok material.classical := by
  unfold generate at generated
  rcases Outcome.bind_eq_ok.mp generated with ⟨classical, made, generated⟩
  rcases Outcome.bind_eq_ok.mp generated with ⟨pq, _, generated⟩
  cases generated
  exact made

/-- Two ends of a classical handshake with one ML-KEM secret mixed into both. -/
def SameMixedSession (initiator responder : AuthenticatedHandshake P) : Prop :=
  SameSession initiator responder ∧ ∃ classical classical' sharedSecret,
    SameSession classical classical' ∧ initiator = classical.mixed sharedSecret ∧
      responder = classical'.mixed sharedSecret

section Hybrid

variable (agreement : P.LawfulX25519) (signatures : P.LawfulEd25519)

include signatures in
theorem HybridResponderPrekeyMaterial.verifySignature_publicBundle
    (material : HybridResponderPrekeyMaterial P K) :
    material.publicBundle.classical.identity.verifySignature P
      (transcriptOf P material.publicBundle.classical material.publicBundle.pqPublic)
      material.publicBundle.pqSignature = .ok ⟨⟩ :=
  material.classical.identity.signing.verify_sign signatures _

include signatures in
theorem HybridResponderPrekeyMaterial.verify_publicBundle
    (material : HybridResponderPrekeyMaterial P K) (wellFormed : material.classical.WellFormed)
    {nowUnix : UInt64} (fresh : nowUnix ≤ material.classical.signedRecord.expiresAtUnix) :
    material.publicBundle.verify P nowUnix = .ok ⟨⟩ := by
  have classical : material.publicBundle.classical.verify P nowUnix = .ok ⟨⟩ :=
    material.classical.verify_bundle signatures wellFormed fresh
  unfold HybridResponderPrekeyBundle.verify
  rw [classical, Outcome.ok_bind, bindingTranscript_eq, Outcome.ok_bind]
  exact material.verifySignature_publicBundle signatures

include agreement signatures in
theorem hybridInitiate_published {published : HybridResponderPrekeyMaterial P K}
    (wellFormed : published.classical.WellFormed)
    {ephemeralEntropy ratchetEntropy pqEntropy : Entropy} {ephemeral ratchet : DhKeyPair P}
    {randomness : FixedBytes 32}
    (generated : DhKeyPair.generate ephemeralEntropy = .ok ephemeral)
    (generated' : DhKeyPair.generate ratchetEntropy = .ok ratchet)
    (drawn : pqEntropy 32 = some randomness) (identity : LocalIdentity P) {nowUnix : UInt64}
    (fresh : nowUnix ≤ published.classical.signedRecord.expiresAtUnix) :
    Hybrid.initiate K ephemeralEntropy ratchetEntropy pqEntropy identity
        published.publicBundle nowUnix =
      .ok ({
        classical := initiatorMessage identity published.classical.bundle ephemeral ratchet
        pqCiphertext :=
          (K.encapsulateDeterministic published.pq.publicKey randomness).1 },
        (initiatorHandshake identity published.classical.bundle ephemeral ratchet).mixed
          (K.encapsulateDeterministic published.pq.publicKey randomness).2) := by
  have verified := published.verify_publicBundle signatures wellFormed fresh
  have initiated : Mef26.initiate ephemeralEntropy ratchetEntropy identity
      published.publicBundle.classical nowUnix = _ :=
    initiate_published agreement signatures wellFormed generated generated' identity fresh
  have encapsulated : MlKem768PublicKey.encapsulate K published.publicBundle.pqPublic
      pqEntropy = .ok (K.encapsulateDeterministic published.pq.publicKey randomness) := by
    unfold MlKem768PublicKey.encapsulate fillSecure
    rw [drawn]
    rfl
  unfold Hybrid.initiate
  rw [verified, Outcome.ok_bind, initiated, Outcome.ok_bind]
  dsimp only
  rw [encapsulated, Outcome.ok_bind, AuthenticatedHandshake.mixMlKem768_eq]
  rfl

end Hybrid

variable (P K) in
/-- Completeness of the hybrid handshake, over the wire and over every run of the
responder. -/
def CompletesHybrid : Prop :=
  ∀ {signingEntropy dhEntropy prekeyEntropy pqEntropy : Entropy} {id : UInt32}
    {expiresAtUnix : UInt64} {start published later : HybridResponderPrekeyMaterial P K}
    {before after : List (Transition (HybridResponderPrekeyMaterial P K) HybridCall)},
    HybridResponderPrekeyMaterial.generate signingEntropy dhEntropy prekeyEntropy pqEntropy id
      expiresAtUnix = .ok start →
    Run HybridStep start before published → Run HybridStep published after later →
    ∀ (identity : LocalIdentity P) {ephemeralEntropy ratchetEntropy entropy : Entropy},
      (ephemeralEntropy 32).isSome → (ratchetEntropy 32).isSome → (entropy 32).isSome →
      ∀ nowUnix ≤ published.classical.bundle.signedPrekey.expiresAtUnix,
      ∃ sent bundle message handshake,
        published.bundle = .ok sent ∧
        HybridResponderPrekeyBundle.decode P K sent.encode = .ok bundle ∧
        Hybrid.initiate K ephemeralEntropy ratchetEntropy entropy identity bundle nowUnix =
          .ok (message, handshake) ∧
        (published.classical.HoldsPublished later.classical → ∃ received answer next,
          HybridInitiatorHandshake.decode P message.encode = .ok received ∧
          HybridResponderPrekeyMaterial.accept received later = (.ok answer, next) ∧
          SameMixedSession handshake answer)

theorem completesHybrid (agreement : P.LawfulX25519) (signatures : P.LawfulEd25519)
    (kem : K.Lawful) : CompletesHybrid P K := by
  intro signingEntropy dhEntropy prekeyEntropy pqEntropy id expiresAtUnix start published
    later before after generated run run' identity ephemeralEntropy ratchetEntropy entropy
    available available' available'' nowUnix fresh
  have initial := ResponderPrekeyMaterial.wellFormed_generate
    (HybridResponderPrekeyMaterial.generate_classical generated)
  rcases exists_run_classical run with ⟨_, _, classicalRun⟩
  rcases exists_run_classical run' with ⟨samePq, _, classicalRun'⟩
  have wellFormed := wellFormed_of_run classicalRun initial
  have wellFormed' := wellFormed_of_run classicalRun' wellFormed
  rcases generate_of_isSome available with ⟨ephemeral, drawn⟩
  rcases generate_of_isSome available' with ⟨ratchet, drawn'⟩
  rcases Option.isSome_iff_exists.mp available'' with ⟨randomness, drawn''⟩
  refine ⟨published.publicBundle, published.publicBundle, _, _, published.bundle_eq, ?_,
    hybridInitiate_published agreement signatures wellFormed drawn drawn' drawn'' identity
      fresh, ?_⟩
  · refine HybridResponderPrekeyBundle.decode_eq_ok.mpr
      ⟨rfl, published.classical.identity.verify_publicRecord signatures, ?_,
        published.verifySignature_publicBundle signatures⟩
    show K.isEncapsulationKey published.pq.publicKey = true
    rw [published.pq.publicKey_eq]
    exact kem.valid _
  · intro holds
    rcases accept_published agreement signatures wellFormed wellFormed'
      (identity_of_run classicalRun') holds identity ephemeral ratchet
      with ⟨answer, next, accepted, same⟩
    have secrets : later.pq.decapsulate
        (K.encapsulateDeterministic published.pq.publicKey randomness).1 =
        (K.encapsulateDeterministic published.pq.publicKey randomness).2 := by
      rw [samePq, published.pq.publicKey_eq]
      exact kem.correct _ _
    refine ⟨_, answer.mixed (K.encapsulateDeterministic published.pq.publicKey randomness).2,
      { later with classical := next }, HybridInitiatorHandshake.decode_eq_ok.mpr
      ⟨rfl, identity.verify_publicRecord signatures⟩, ?_, ?_⟩
    · rw [HybridResponderPrekeyMaterial.accept_eq]
      dsimp only
      rw [accepted, secrets]
    · exact ⟨same.mixed _, _, _, _, same, rfl, rfl⟩

/-- Honest handshakes complete, classical and hybrid. -/
theorem handshakes_complete (agreement : P.LawfulX25519) (signatures : P.LawfulEd25519)
    (kem : K.Lawful) : CompletesClassical P ∧ CompletesHybrid P K :=
  ⟨completesClassical agreement signatures, completesHybrid agreement signatures kem⟩

/-! ## Two handshakes over the wire -/

def concreteKem : MlKem768 (FixedBytes 32) where
  encapsulationKey _ := .replicate 1184 0
  isEncapsulationKey _ := true
  encapsulateDeterministic _ randomness :=
    (⟨randomness.bytes ++ List.replicate 1056 0, by
      rw [List.length_append, randomness.length_bytes, List.length_replicate]⟩, randomness)
  decapsulate _ ciphertext := ⟨ciphertext.bytes.take 32, by
    rw [List.length_take, ciphertext.length_bytes]
    rfl⟩

theorem lawful_concreteKem : concreteKem.Lawful where
  valid _ := rfl
  correct _ randomness := FixedBytes.ext (List.take_left' randomness.length_bytes)

def sampleHybrid : HybridResponderPrekeyMaterial Primitives.concrete concreteKem where
  classical := sampleMaterial Primitives.concrete
  pq := { secret := .replicate 64 8, publicKey := .replicate 1184 0, publicKey_eq := rfl }

theorem generate_sampleHybrid :
    HybridResponderPrekeyMaterial.generate (constantEntropy 1) (constantEntropy 2)
      (constantEntropy 3) (constantEntropy 8) 7 2000 = .ok sampleHybrid := rfl

theorem handshakes_complete_sample :
    (∃ bundle message handshake received answer next,
      ResponderPrekeyBundle.decode Primitives.concrete
        (samplePublished Primitives.concrete).bundle.encode = .ok bundle ∧
      initiate (constantEntropy 6) (constantEntropy 7) (sampleInitiator Primitives.concrete)
        bundle 2000 = .ok (message, handshake) ∧
      InitiatorHandshake.decode Primitives.concrete message.encode = .ok received ∧
      accept received (sampleLater Primitives.concrete) = (.ok answer, next) ∧
      SameSession handshake answer) ∧
    ∃ sent bundle message handshake received answer next,
      sampleHybrid.bundle = .ok sent ∧
      HybridResponderPrekeyBundle.decode Primitives.concrete concreteKem sent.encode =
        .ok bundle ∧
      Hybrid.initiate concreteKem (constantEntropy 6) (constantEntropy 7) (constantEntropy 11)
        (sampleInitiator Primitives.concrete) bundle 2000 = .ok (message, handshake) ∧
      HybridInitiatorHandshake.decode Primitives.concrete message.encode = .ok received ∧
      HybridResponderPrekeyMaterial.accept received sampleHybrid = (.ok answer, next) ∧
      SameMixedSession handshake answer := by
  have complete := handshakes_complete Primitives.lawfulX25519_concrete
    Primitives.lawfulEd25519_concrete lawful_concreteKem
  constructor
  · have published : Run PrekeyStep (sampleMaterial _) _ (samplePublished Primitives.concrete) :=
      .cons (samplePublished_eq _) (.nil _)
    have rotated : Run PrekeyStep (samplePublished Primitives.concrete) _ (sampleLater _) :=
      .cons (sampleLater_eq _) (.nil _)
    rcases complete.1 (generate_sampleMaterial _) published rotated (sampleInitiator _)
      (rfl : (constantEntropy 6 32).isSome) (rfl : (constantEntropy 7 32).isSome) 2000
      (by decide) with ⟨bundle, message, handshake, decoded, initiated, accepted⟩
    rcases accepted (holdsPublished_sample _) with ⟨received, answer, next, rest⟩
    exact ⟨bundle, message, handshake, received, answer, next, decoded, initiated, rest⟩
  · rcases complete.2 generate_sampleHybrid (.nil _) (.nil _) (sampleInitiator _)
      (rfl : (constantEntropy 6 32).isSome) (rfl : (constantEntropy 7 32).isSome)
      (rfl : (constantEntropy 11 32).isSome) 2000 (by decide)
      with ⟨sent, bundle, message, handshake, published, decoded, initiated, accepted⟩
    rcases accepted (.refl _) with ⟨received, answer, next, rest⟩
    exact ⟨sent, bundle, message, handshake, received, answer, next, published, decoded,
      initiated, rest⟩

end Mef26
