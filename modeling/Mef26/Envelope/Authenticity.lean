import Mef26.Envelope.Delivery

namespace Mef26

/-! # Every byte of a frame and of an envelope is authenticated

The crate encrypts frames, envelopes and snapshot records. Their associated data never
coincide, so what opens as one of them was sealed as the same one. -/

/-- One use of the cipher: its inputs other than the plaintext, and its output. -/
structure CipherUse where
  suite : AeadSuite
  key : FixedBytes 32
  nonce : List UInt8
  aad : List UInt8
  body : List UInt8

structure FrameSealing where
  entropy : Entropy
  key : FixedBytes 32
  suite : AeadSuite
  header : FrameHeader
  plaintext : List UInt8

structure EnvelopeSealing where
  ephemeralEntropy : Entropy
  idEntropy : Entropy
  nonceEntropy : Entropy
  recipientDeliveryKey : DhPublicKey
  mailbox : MailboxCapability
  expiresAtUnix : UInt64
  innerFrame : InnerFrame
  paddingLen : Nat

structure RecordSealing (P : Primitives (FixedBytes 32)) where
  entropy : Entropy
  key : StateSealKey
  context : List UInt8
  state : RatchetState P

inductive Sealing (P : Primitives (FixedBytes 32))
  | frame (call : FrameSealing)
  | envelope (call : EnvelopeSealing)
  | record (call : RecordSealing P)

variable {P : Primitives (FixedBytes 32)}

variable (P) in
def FrameSealing.run (call : FrameSealing) : Result InnerFrame :=
  InnerFrame.sealFrame P call.entropy call.key call.suite call.header call.plaintext

variable (P) in
def EnvelopeSealing.run (call : EnvelopeSealing) : Result OuterEnvelope :=
  OuterEnvelope.sealEnvelope P call.ephemeralEntropy call.idEntropy call.nonceEntropy
    call.recipientDeliveryKey call.mailbox call.expiresAtUnix call.innerFrame call.paddingLen

def EnvelopeSealing.plaintext (call : EnvelopeSealing) : List UInt8 :=
  OuterEnvelope.paddedBytes call.innerFrame call.paddingLen

/-- How a call that succeeded used the cipher. The associated data is that of the length
predicted before encryption. -/
inductive Produced : Sealing P → CipherUse → Prop
  | frame {call : FrameSealing} {frame : InnerFrame} {aad : List UInt8} :
      call.run P = .ok frame →
      InnerFrame.encodeAad call.suite call.header (call.plaintext.length + aeadTagLen) =
        .ok aad →
      Produced (.frame call)
        ⟨call.suite, call.key, frame.ciphertext.nonce, aad, frame.ciphertext.body⟩
  | envelope {call : EnvelopeSealing} {ephemeral : DhKeyPair P} {envelope : OuterEnvelope}
      {aad : List UInt8} :
      DhKeyPair.generate call.ephemeralEntropy = .ok ephemeral →
      call.run P = .ok envelope →
      OuterEnvelope.encodeAad call.mailbox envelope.messageId call.expiresAtUnix
        ephemeral.publicKey (call.plaintext.length + aeadTagLen) = .ok aad →
      Produced (.envelope call)
        ⟨outerSuite, OuterEnvelope.envelopeKey P call.mailbox
          (P.x25519 ephemeral.secret call.recipientDeliveryKey),
          envelope.ciphertext.nonce, aad, envelope.ciphertext.body⟩
  | record {call : RecordSealing P} {ciphertext : Ciphertext} {aad : List UInt8} :
      RatchetState.stateAad call.context stateVersion = .ok aad →
      sealCiphertext P call.entropy call.key .xChaCha20Poly1305 aad call.state.stateBytes =
        .ok ciphertext →
      Produced (.record call)
        ⟨.xChaCha20Poly1305, call.key, ciphertext.nonce, aad, ciphertext.body⟩

/-- Ideal encryption: under a suite, key, nonce and associated data nothing opens but what
some recorded call produced for exactly these. -/
def IdealCipher (calls : Set (Sealing P)) : Prop :=
  ∀ suite key nonce aad body plaintext,
    P.aeadDecrypt suite key nonce aad body = some plaintext →
    ∃ call ∈ calls, Produced call ⟨suite, key, nonce, aad, body⟩

/-- The bytes are those of a frame that a recorded call sealed under a key for a plaintext
and a header. -/
def AuthenticFrame (calls : Set (Sealing P)) (bytes : List UInt8) (key : FixedBytes 32)
    (header : FrameHeader) (plaintext : List UInt8) : Prop :=
  ∃ call : FrameSealing, .frame call ∈ calls ∧ call.key = key ∧ call.header = header ∧
    call.plaintext = plaintext ∧
    ∃ frame, call.run P = .ok frame ∧ frame.encode = .ok bytes

/-- The bytes are those of an envelope that a recorded call sealed, with the fields and the
plaintext found in them. Sealed to the key of the recipient's secret, it is the same. -/
def AuthenticEnvelope (calls : Set (Sealing P)) (bytes : List UInt8)
    (secret : DhSecretKey) (received : OuterEnvelope) (plaintext : List UInt8) : Prop :=
  ∃ call : EnvelopeSealing, .envelope call ∈ calls ∧ call.mailbox = received.mailbox ∧
    call.expiresAtUnix = received.expiresAtUnix ∧ call.plaintext = plaintext ∧
    ∃ envelope, call.run P = .ok envelope ∧ envelope.encode = .ok bytes ∧
      envelope.messageId = received.messageId ∧
      envelope.senderEphemeral = received.senderEphemeral ∧
      { call with recipientDeliveryKey := P.x25519PublicKey secret }.run P = .ok envelope

/-- Whatever parses and opens is, byte for byte, what a recorded call sealed. -/
structure AuthenticatesEveryByte (calls : Set (Sealing P)) : Prop where
  frames : ∀ {bytes key frame plaintext}, InnerFrame.decode bytes = .ok frame →
    frame.openFrame P key = .ok plaintext →
    AuthenticFrame calls bytes key frame.header plaintext
  envelopes : ∀ {bytes secret nowUnix envelope plaintext},
    OuterEnvelope.decode bytes = .ok envelope →
    envelope.openEnvelope P secret nowUnix = .ok plaintext →
    AuthenticEnvelope calls bytes secret envelope plaintext

/-! ## The three formats of associated data -/

theorem take_frameAad (suite : AeadSuite) (header : FrameHeader) (bodyLen nonceLen : Nat) :
    (InnerFrame.headerBytes suite header bodyLen nonceLen).take 4 = [77, 69, 70, 1] := by
  simp only [InnerFrame.headerBytes, List.append_assoc]
  rfl

theorem take_envelopeAad (mailbox : MailboxCapability) (messageId : TransportMessageId)
    (expiresAtUnix : UInt64) (senderEphemeral : DhPublicKey) (bodyLen : Nat) :
    (OuterEnvelope.headerBytes mailbox messageId expiresAtUnix senderEphemeral
      bodyLen).take 4 = [77, 69, 79, 1] := by
  simp only [OuterEnvelope.headerBytes, List.append_assoc]
  rfl

theorem take_recordAad (context : List UInt8) :
    (RatchetState.aadLabel stateVersion ++ context).take 4 = [77, 69, 70, 45] := by
  rw [List.take_append_of_le_length (by rw [RatchetState.length_aadLabel]; decide)]
  decide

/-! ## Authenticity -/

theorem FrameSealing.aad_eq (aead : P.LawfulAead) {call : FrameSealing} {frame : InnerFrame}
    {aad : List UInt8} (returned : call.run P = .ok frame)
    (encoded : InnerFrame.encodeAad call.suite call.header
      (call.plaintext.length + aeadTagLen) = .ok aad) :
    aad = InnerFrame.headerBytes frame.suite frame.header frame.ciphertext.body.length
      frame.suite.nonceLen := by
  rcases InnerFrame.sealFrame_eq_ok.mp returned with ⟨header, sealed⟩
  have bodyLength := length_body_of_seal aead sealed
  have fits := frame.body_length_lt
  rw [← bodyLength, InnerFrame.encodeAad_eq _ _ fits, Outcome.ok.injEq] at encoded
  rw [InnerFrame.suite_of_sealFrame returned, header]
  exact encoded.symm

theorem EnvelopeSealing.aad_eq (aead : P.LawfulAead) {call : EnvelopeSealing}
    {ephemeral : DhKeyPair P} {envelope : OuterEnvelope} {aad : List UInt8}
    (generated : DhKeyPair.generate call.ephemeralEntropy = .ok ephemeral)
    (returned : call.run P = .ok envelope)
    (encoded : OuterEnvelope.encodeAad call.mailbox envelope.messageId call.expiresAtUnix
      ephemeral.publicKey (call.plaintext.length + aeadTagLen) = .ok aad) :
    aad = envelope.header := by
  rcases OuterEnvelope.sealEnvelope_eq_ok.mp returned
    with ⟨ephemeral', generated', _, _, _, mailbox, expires, isEphemeral, sealed⟩
  rw [generated, Outcome.ok.injEq] at generated'
  subst generated'
  have bodyLength := length_body_of_seal aead sealed
  have fits := envelope.body_length_lt
  rw [EnvelopeSealing.plaintext, ← bodyLength, OuterEnvelope.encodeAad_eq _ _ _ _ fits,
    Outcome.ok.injEq] at encoded
  rw [← encoded, OuterEnvelope.header, mailbox, expires, isEphemeral]

theorem exists_frameSealing (aead : P.LawfulAead) {calls : Set (Sealing P)}
    (ideal : IdealCipher calls) {frame : InnerFrame} {key : FixedBytes 32}
    {plaintext : List UInt8} (opened : frame.openFrame P key = .ok plaintext) :
    ∃ call : FrameSealing, .frame call ∈ calls ∧ call.key = key ∧
      call.run P = .ok frame := by
  rcases ideal _ _ _ _ _ _ (InnerFrame.openFrame_eq_ok.mp opened) with ⟨call, member, produced⟩
  generalize uses : CipherUse.mk _ _ _ _ _ = use at produced
  cases produced with
  | @frame call sealed aad returned encoded =>
      injection uses with suite key nonce aad body
      rw [FrameSealing.aad_eq aead returned encoded] at aad
      rcases InnerFrame.headerBytes_injective frame.body_length_lt sealed.body_length_lt aad
        with ⟨suite, header, _⟩
      have same : frame = sealed := InnerFrame.ext header (Ciphertext.ext suite nonce body)
      exact ⟨call, member, key.symm, same ▸ returned⟩
  | envelope generated returned encoded =>
      injection uses with _ _ _ aad _
      rw [EnvelopeSealing.aad_eq aead generated returned encoded] at aad
      have start := congrArg (List.take 4) aad
      rw [take_frameAad, OuterEnvelope.header, take_envelopeAad] at start
      exact absurd start (by decide)
  | record encoded sealed =>
      injection uses with _ _ _ aad _
      have start := congrArg (List.take 4) aad
      rw [(RatchetState.stateAad_eq_ok.mp encoded).2, take_frameAad, take_recordAad] at start
      exact absurd start (by decide)

theorem exists_envelopeSealing (aead : P.LawfulAead) {calls : Set (Sealing P)}
    (ideal : IdealCipher calls) {received : OuterEnvelope} {key : FixedBytes 32}
    {plaintext : List UInt8}
    (opened : P.aeadDecrypt outerSuite key received.ciphertext.nonce received.header
      received.ciphertext.body = some plaintext) :
    ∃ (call : EnvelopeSealing) (ephemeral : DhKeyPair P), .envelope call ∈ calls ∧
      DhKeyPair.generate call.ephemeralEntropy = .ok ephemeral ∧
      call.run P = .ok received ∧ key = OuterEnvelope.envelopeKey P call.mailbox
        (P.x25519 ephemeral.secret call.recipientDeliveryKey) := by
  rcases ideal _ _ _ _ _ _ opened with ⟨call, member, produced⟩
  generalize uses : CipherUse.mk _ _ _ _ _ = use at produced
  cases produced with
  | frame returned encoded =>
      injection uses with _ _ _ aad _
      rw [FrameSealing.aad_eq aead returned encoded] at aad
      have start := congrArg (List.take 4) aad
      rw [take_frameAad, OuterEnvelope.header, take_envelopeAad] at start
      exact absurd start (by decide)
  | @envelope call ephemeral sealed aad generated returned encoded =>
      injection uses with _ key nonce aad body
      rw [EnvelopeSealing.aad_eq aead generated returned encoded] at aad
      rcases OuterEnvelope.headerBytes_injective received.body_length_lt sealed.body_length_lt
        aad with ⟨mailbox, messageId, expires, isEphemeral, _⟩
      have suite := received.suite_eq.trans sealed.suite_eq.symm
      have same : received = sealed := OuterEnvelope.ext mailbox messageId expires isEphemeral
        (Ciphertext.ext suite nonce body)
      exact ⟨call, ephemeral, member, generated, same ▸ returned, key⟩
  | record encoded sealed =>
      injection uses with _ _ _ aad _
      have start := congrArg (List.take 4) aad
      rw [(RatchetState.stateAad_eq_ok.mp encoded).2, OuterEnvelope.header, take_envelopeAad,
        take_recordAad] at start
      exact absurd start (by decide)

/-- An envelope that was sealed to another encoding of a recipient's key is also the one
sealed to the key itself. -/
theorem EnvelopeSealing.run_of_recipient (agreement : P.LawfulX25519) {call : EnvelopeSealing}
    {ephemeral : DhKeyPair P} {envelope : OuterEnvelope} {secret : DhSecretKey}
    (generated : DhKeyPair.generate call.ephemeralEntropy = .ok ephemeral)
    (returned : call.run P = .ok envelope)
    (contributory : P.wasContributory (P.x25519 secret envelope.senderEphemeral) = true)
    (key : OuterEnvelope.envelopeKey P envelope.mailbox
        (P.x25519 secret envelope.senderEphemeral) =
      OuterEnvelope.envelopeKey P call.mailbox
        (P.x25519 ephemeral.secret call.recipientDeliveryKey)) :
    { call with recipientDeliveryKey := P.x25519PublicKey secret }.run P = .ok envelope := by
  rcases OuterEnvelope.sealEnvelope_eq_ok.mp returned
    with ⟨ephemeral', generated', _, drawn, bounded, mailbox, expires, isEphemeral, sealed⟩
  rw [generated, Outcome.ok.injEq] at generated'
  subst generated'
  have shared : P.x25519 ephemeral.secret (P.x25519PublicKey secret) =
      P.x25519 secret envelope.senderEphemeral := by
    rw [isEphemeral, ephemeral.publicKey_eq]
    exact agreement.symmetric _ _
  refine OuterEnvelope.sealEnvelope_eq_ok.mpr ⟨ephemeral, generated, shared ▸ contributory,
    drawn, bounded, mailbox, expires, isEphemeral, ?_⟩
  rw [shared, ← mailbox, key, mailbox]
  exact sealed

/-- A frame that parses and opens, and an envelope that parses and opens, is byte for byte
one that the crate sealed. -/
theorem authenticatesEveryByte (aead : P.LawfulAead) (agreement : P.LawfulX25519)
    {calls : Set (Sealing P)} (ideal : IdealCipher calls) :
    AuthenticatesEveryByte calls where
  frames := by
    intro bytes key frame plaintext decoded opened
    rcases exists_frameSealing aead ideal opened with ⟨call, member, rfl, returned⟩
    rcases InnerFrame.sealFrame_eq_ok.mp returned with ⟨header, _⟩
    have reopened := InnerFrame.openFrame_of_sealFrame aead returned
    rw [opened, Outcome.ok.injEq] at reopened
    refine ⟨call, member, rfl, header.symm, reopened.symm, frame, returned, ?_⟩
    rw [InnerFrame.encode_eq, InnerFrame.decode_eq_ok.mp decoded]
  envelopes := by
    intro bytes secret nowUnix received plaintext decoded opened
    rcases OuterEnvelope.openEnvelope_eq_ok.mp opened with ⟨_, contributory, decrypted⟩
    rcases exists_envelopeSealing aead ideal decrypted
      with ⟨call, ephemeral, member, generated, returned, key⟩
    rcases OuterEnvelope.sealEnvelope_eq_ok.mp returned
      with ⟨ephemeral', generated', _, _, _, mailbox, expires, isEphemeral, sealed⟩
    rw [generated, Outcome.ok.injEq] at generated'
    subst generated'
    have plaintextEq : plaintext = call.plaintext := by
      have reopened := aead.decrypt_encrypt (sealCiphertext_eq_ok.mp sealed).2.2.2.2
      rw [← EnvelopeSealing.plaintext, ← key, ← mailbox, ← expires, ← isEphemeral,
        EnvelopeSealing.plaintext, ← length_body_of_seal aead sealed,
        ← OuterEnvelope.header, decrypted, Option.some.injEq] at reopened
      exact reopened
    refine ⟨call, member, mailbox.symm, expires.symm, plaintextEq.symm, received, returned, ?_,
      rfl, rfl, EnvelopeSealing.run_of_recipient agreement generated returned contributory key⟩
    rw [OuterEnvelope.encode_eq, OuterEnvelope.decode_eq_ok.mp decoded]

/-! ## One frame and one envelope around it -/

def authenticFrameCall : FrameSealing where
  entropy := constantEntropy 0
  key := ⟨2 :: List.replicate 31 0, rfl⟩
  suite := .xChaCha20Poly1305
  header := concreteFrame.header
  plaintext := []

def authenticEnvelopeCall : EnvelopeSealing where
  ephemeralEntropy := constantEntropy 6
  idEntropy := constantEntropy 5
  nonceEntropy := constantEntropy 0
  recipientDeliveryKey := .replicate 32 1
  mailbox := .replicate 32 9
  expiresAtUnix := 100
  innerFrame := concreteFrame
  paddingLen := 0

def authenticEnvelopeKey : FixedBytes 32 := ⟨10 :: List.replicate 31 0, rfl⟩

def authenticEnvelope : OuterEnvelope where
  mailbox := .replicate 32 9
  messageId := .replicate 16 5
  expiresAtUnix := 100
  senderEphemeral := .replicate 32 6
  ciphertext := {
    suite := .xChaCha20Poly1305
    nonce := List.replicate 24 0
    body := concreteFrame.wireBytes ++ Primitives.concreteTag authenticEnvelopeKey
    nonce_length := InnerFrame.length_zeroNonce
    tag_le_body := by simp [aeadTagLen]
    body_le_limit := by
      rw [List.length_append, InnerFrame.length_wireBytes, Primitives.length_concreteTag]
      decide }
  suite_eq := rfl

def authenticPrimitives : Primitives (FixedBytes 32) :=
  Primitives.recorded [
    (.xChaCha20Poly1305, authenticFrameCall.key, List.replicate 24 0,
      InnerFrame.headerBytes .xChaCha20Poly1305 concreteFrame.header 16 24, []),
    (.xChaCha20Poly1305, authenticEnvelopeKey, List.replicate 24 0,
      authenticEnvelope.header, concreteFrame.wireBytes)]

def authenticCalls : Set (Sealing authenticPrimitives) :=
  {.frame authenticFrameCall, .envelope authenticEnvelopeCall}

theorem authenticFrameCall_run :
    authenticFrameCall.run authenticPrimitives = .ok concreteFrame := by
  decide +kernel

theorem authenticEnvelopeCall_run :
    authenticEnvelopeCall.run authenticPrimitives = .ok authenticEnvelope := by
  decide +kernel

theorem idealCipher_authenticCalls : IdealCipher authenticCalls := by
  intro suite key nonce aad body plaintext decrypted
  rcases Primitives.opens_recorded decrypted with ⟨listed, rfl⟩
  simp only [List.mem_cons, Prod.mk.injEq, List.not_mem_nil, or_false] at listed
  rcases listed with ⟨rfl, rfl, rfl, rfl, rfl⟩ | ⟨rfl, rfl, rfl, rfl, rfl⟩
  · exact ⟨_, .inl rfl, .frame authenticFrameCall_run rfl⟩
  · have generated : DhKeyPair.generate authenticEnvelopeCall.ephemeralEntropy =
        .ok (.fromSecret (.replicate 32 6) : DhKeyPair authenticPrimitives) := rfl
    have encoded : OuterEnvelope.encodeAad authenticEnvelopeCall.mailbox
        authenticEnvelope.messageId authenticEnvelopeCall.expiresAtUnix
        (.replicate 32 6) (authenticEnvelopeCall.plaintext.length + aeadTagLen) =
          .ok authenticEnvelope.header := by
      decide +kernel
    exact ⟨_, .inr rfl, .envelope generated authenticEnvelopeCall_run encoded⟩

theorem authenticatesEveryByte_recorded :
    AuthenticFrame authenticCalls concreteFrame.wireBytes authenticFrameCall.key
        concreteFrame.header [] ∧
      AuthenticEnvelope authenticCalls authenticEnvelope.wireBytes (.replicate 32 1)
        authenticEnvelope concreteFrame.wireBytes := by
  have every := authenticatesEveryByte Primitives.lawfulAead_recorded
    Primitives.lawfulX25519_recorded idealCipher_authenticCalls
  constructor
  · exact every.frames (InnerFrame.decode_eq_ok.mpr rfl) (by decide +kernel)
  · have opened : authenticEnvelope.openEnvelope authenticPrimitives (.replicate 32 1) 100 =
        .ok concreteFrame.wireBytes := by
      decide +kernel
    exact every.envelopes (OuterEnvelope.decode_eq_ok.mpr rfl) opened

end Mef26
