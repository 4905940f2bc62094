import Mef26.Envelope.Outer
import Mef26.Persistence.Host

namespace Mef26

/-! # From a message to its recipient

A frame that a ratchet returns, sealed into an envelope and opened at the other end. -/

variable {Key : Type} {P : Primitives Key}

namespace OuterEnvelope

section

variable {ephemeralEntropy idEntropy nonceEntropy : Entropy}
  {recipientDeliveryKey : DhPublicKey} {mailbox : MailboxCapability} {expiresAtUnix : UInt64}
  {innerFrame : InnerFrame} {paddingLen : Nat} {envelope : OuterEnvelope}
  {ephemeral : DhKeyPair P}

theorem openInner_of_sealEnvelope (aead : P.LawfulAead) (agreement : P.LawfulX25519)
    (sealed : sealEnvelope P ephemeralEntropy idEntropy nonceEntropy recipientDeliveryKey
      mailbox expiresAtUnix innerFrame paddingLen = .ok envelope) {secret : DhSecretKey}
    (recipient : recipientDeliveryKey = P.x25519PublicKey secret) {nowUnix : UInt64}
    (fresh : nowUnix ≤ expiresAtUnix) :
    envelope.openInner P secret nowUnix = .ok innerFrame := by
  rcases sealEnvelope_eq_ok.mp sealed
    with ⟨ephemeral, _, contributory, _, bounded, rfl, rfl, isEphemeral, encrypted⟩
  have shared : P.x25519 secret envelope.senderEphemeral =
      P.x25519 ephemeral.secret recipientDeliveryKey := by
    rw [isEphemeral, recipient, ephemeral.publicKey_eq]
    exact agreement.symmetric _ _
  have bodyLength := length_body_of_seal aead encrypted
  have header : headerBytes envelope.mailbox envelope.messageId envelope.expiresAtUnix
      ephemeral.publicKey ((paddedBytes innerFrame paddingLen).length + aeadTagLen) =
      envelope.header := by
    rw [OuterEnvelope.header, isEphemeral, bodyLength]
  have opened : envelope.openEnvelope P secret nowUnix =
      .ok (paddedBytes innerFrame paddingLen) := by
    apply openEnvelope_eq_ok.mpr
    rw [shared, ← header]
    exact ⟨fresh, contributory, aead.decrypt_encrypt (sealCiphertext_eq_ok.mp encrypted).2.2.2.2⟩
  refine openInner_eq_ok.mpr ⟨_, opened, ?_, List.replicate paddingLen 0, ?_, rfl⟩
  · rw [length_paddedBytes, InnerFrame.wireLimit]
    omega
  · intro byte member
    exact List.eq_of_mem_replicate member

theorem exists_sealEnvelope (aead : P.LawfulAead) (total : P.TotalAead)
    {messageId : TransportMessageId} {nonce : FixedBytes outerSuite.nonceLen}
    (generated : DhKeyPair.generate ephemeralEntropy = .ok ephemeral)
    (contributory : P.wasContributory (P.x25519 ephemeral.secret recipientDeliveryKey) = true)
    (identified : idEntropy transportIdLen = some messageId)
    (drawn : nonceEntropy outerSuite.nonceLen = some nonce)
    (fits : innerFrame.wireBytes.length + paddingLen ≤ maxCiphertextLen - aeadTagLen) :
    ∃ envelope, sealEnvelope P ephemeralEntropy idEntropy nonceEntropy recipientDeliveryKey
      mailbox expiresAtUnix innerFrame paddingLen = .ok envelope := by
  have aadBound : (headerBytes mailbox messageId expiresAtUnix ephemeral.publicKey
      ((paddedBytes innerFrame paddingLen).length + aeadTagLen)).length ≤ maxAadLen := by
    rw [length_headerBytes]
    decide
  have plaintextBound : (paddedBytes innerFrame paddingLen).length ≤
      maxCiphertextLen - aeadTagLen := by
    rw [length_paddedBytes]
    exact fits
  rcases exists_sealCiphertext aead total
    (envelopeKey P mailbox (P.x25519 ephemeral.secret recipientDeliveryKey)) drawn aadBound
    plaintextBound with ⟨ciphertext, sealed⟩
  have suite : ciphertext.suite = outerSuite := (sealCiphertext_eq_ok.mp sealed).2.2.1
  exact ⟨⟨mailbox, messageId, expiresAtUnix, ephemeral.publicKey, ciphertext, suite⟩,
    sealEnvelope_eq_ok.mpr ⟨ephemeral, generated, contributory, identified, fits, rfl, rfl,
      rfl, sealed⟩⟩

theorem sealEnvelope_of_over {messageId : TransportMessageId}
    (generated : DhKeyPair.generate ephemeralEntropy = .ok ephemeral)
    (contributory : P.wasContributory (P.x25519 ephemeral.secret recipientDeliveryKey) = true)
    (identified : idEntropy transportIdLen = some messageId)
    (exceeds : maxCiphertextLen - aeadTagLen < innerFrame.wireBytes.length + paddingLen) :
    sealEnvelope P ephemeralEntropy idEntropy nonceEntropy recipientDeliveryKey mailbox
      expiresAtUnix innerFrame paddingLen = .err .invalidLength := by
  have agreed := DhKeyPair.diffieHellman_eq_ok.mpr ⟨contributory, rfl⟩
  unfold sealEnvelope
  rw [generated, Outcome.ok_bind, agreed, Outcome.ok_bind, deriveAeadKey_eq, Outcome.ok_bind,
    TransportMessageId.generate, fillSecure, identified, Outcome.okOr_some, Outcome.ok_bind,
    InnerFrame.encode_eq, Outcome.ok_bind]
  cases sum : checkedAddSize innerFrame.wireBytes.length paddingLen with
  | none => rfl
  | some plaintextLen =>
      have plaintextEq : plaintextLen = innerFrame.wireBytes.length + paddingLen := by
        unfold checkedAddSize at sum
        split at sum
        · exact (Option.some.inj sum).symm
        · cases sum
      rw [Outcome.okOr_some, Outcome.ok_bind, Outcome.rejectIf_of _ (plaintextEq ▸ exceeds)]
      rfl

end

end OuterEnvelope

/-! ## Messages that fit -/

theorem InnerFrame.length_wireBytes_of_seal (aead : P.LawfulAead) {entropy : Entropy}
    {key : Key} {suite : AeadSuite} {header : FrameHeader} {plaintext : List UInt8}
    {frame : InnerFrame}
    (sealed : InnerFrame.sealFrame P entropy key suite header plaintext = .ok frame) :
    frame.wireBytes.length =
      plaintext.length + (InnerFrame.fixedHeaderLen + suite.nonceLen + aeadTagLen) := by
  have body := length_body_of_seal aead (InnerFrame.sealFrame_eq_ok.mp sealed).2
  rw [InnerFrame.length_wireBytes, InnerFrame.suite_of_sealFrame sealed, body]
  omega

/-- The longest message whose frame fits an envelope without padding. -/
def longestDelivered (suite : AeadSuite) : Nat :=
  maxCiphertextLen - aeadTagLen - (InnerFrame.fixedHeaderLen + suite.nonceLen + aeadTagLen)

/-- What becomes of a frame that `encrypt` returned. -/
structure DeliveredWithinLimit (P : Primitives Key) (suite : AeadSuite)
    (plaintext : List UInt8) (frame : InnerFrame) (recipientDeliveryKey : DhPublicKey)
    (expiresAtUnix : UInt64) (sealed : Result OuterEnvelope) : Prop where
  delivered : plaintext.length ≤ longestDelivered suite → ∃ envelope bytes received,
    sealed = .ok envelope ∧ envelope.encode = .ok bytes ∧
      OuterEnvelope.decode bytes = .ok received ∧
      ∀ secret nowUnix, recipientDeliveryKey = P.x25519PublicKey secret →
        nowUnix ≤ expiresAtUnix → received.openInner P secret nowUnix = .ok frame
  refused : longestDelivered suite < plaintext.length → sealed = .err .invalidLength

/-- A message up to the limit of its suite reaches its recipient whole; a longer one is
refused by the envelope, after `encrypt` has taken its step. -/
theorem encrypt_deliveredWithinLimit (aead : P.LawfulAead) (total : P.TotalAead)
    (agreement : P.LawfulX25519) {entropy : Entropy} {kind : FrameKind}
    {plaintext : List UInt8} {state after : RatchetState P} {frame : InnerFrame}
    (sent : RatchetState.encrypt entropy kind plaintext state = (.ok frame, after))
    {ephemeralEntropy idEntropy nonceEntropy : Entropy} {ephemeral : DhKeyPair P}
    {messageId : TransportMessageId} {nonce : FixedBytes outerSuite.nonceLen}
    (generated : DhKeyPair.generate ephemeralEntropy = .ok ephemeral)
    (identified : idEntropy transportIdLen = some messageId)
    (drawn : nonceEntropy outerSuite.nonceLen = some nonce)
    {recipientDeliveryKey : DhPublicKey}
    (contributory : P.wasContributory (P.x25519 ephemeral.secret recipientDeliveryKey) = true)
    (mailbox : MailboxCapability) (expiresAtUnix : UInt64) :
    DeliveredWithinLimit P state.suite plaintext frame recipientDeliveryKey expiresAtUnix
      (OuterEnvelope.sealEnvelope P ephemeralEntropy idEntropy nonceEntropy
        recipientDeliveryKey mailbox expiresAtUnix frame 0) := by
  have length : frame.wireBytes.length = plaintext.length +
      (InnerFrame.fixedHeaderLen + state.suite.nonceLen + aeadTagLen) := by
    cases RatchetState.encrypt_spec sent with
    | sent _ sealed _ => exact InnerFrame.length_wireBytes_of_seal aead sealed
  have room : InnerFrame.fixedHeaderLen + state.suite.nonceLen + aeadTagLen ≤
      maxCiphertextLen - aeadTagLen := by
    cases state.suite <;> decide
  constructor
  · intro fits
    unfold longestDelivered at fits
    have frameFits : frame.wireBytes.length + 0 ≤ maxCiphertextLen - aeadTagLen := by omega
    rcases OuterEnvelope.exists_sealEnvelope aead total generated contributory identified
      drawn frameFits with ⟨envelope, sealed⟩
    refine ⟨envelope, _, envelope, sealed, envelope.encode_eq,
      OuterEnvelope.decode_eq_ok.mpr rfl, ?_⟩
    intro secret nowUnix recipient fresh
    exact OuterEnvelope.openInner_of_sealEnvelope aead agreement sealed recipient fresh
  · intro exceeds
    unfold longestDelivered at exceeds
    exact OuterEnvelope.sealEnvelope_of_over generated contributory identified (by omega)

def concreteFrame : InnerFrame := .empty (.replicate 32 3) 0 0 2

theorem encrypt_deliveredWithinLimit_greeting :
    ∃ frame, RatchetState.encrypt (constantEntropy 0) .message [104, 105] concreteEndpoint =
        (.ok frame, concreteEndpoint.afterEncrypt) ∧
      DeliveredWithinLimit Primitives.concrete .xChaCha20Poly1305 [104, 105] frame
        (.replicate 32 1) 100
        (OuterEnvelope.sealEnvelope Primitives.concrete (constantEntropy 6) (constantEntropy 5)
          (constantEntropy 0) (.replicate 32 1) (.replicate 32 9) 100 frame 0) := by
  rcases InnerFrame.exists_sealFrame Primitives.lawfulAead_concrete
    Primitives.totalAead_concrete (messageKeyOf _ concreteEndpoint.sendingChain)
    (concreteEndpoint.nextHeader .message)
    (rfl : constantEntropy 0 concreteEndpoint.suite.nonceLen = some _)
    (by decide : ([104, 105] : List UInt8).length ≤ InnerFrame.maxPlaintextLen) with ⟨frame, sealed⟩
  have sent := RatchetState.encrypt_of_sealed sealed (by decide)
  refine ⟨frame, sent, ?_⟩
  exact encrypt_deliveredWithinLimit Primitives.lawfulAead_concrete
    Primitives.totalAead_concrete Primitives.lawfulX25519_concrete sent
    (rfl : DhKeyPair.generate (constantEntropy 6) = .ok (.fromSecret (.replicate 32 6)))
    rfl rfl rfl _ _

/-- The longest message that `encrypt` takes fits no envelope. -/
theorem exists_encrypt_not_delivered :
    ∃ frame, RatchetState.encrypt (constantEntropy 0) .message
        (List.replicate InnerFrame.maxPlaintextLen 0) concreteEndpoint =
          (.ok frame, concreteEndpoint.afterEncrypt) ∧
      ∀ ephemeralEntropy idEntropy nonceEntropy recipientDeliveryKey mailbox expiresAtUnix
        envelope, OuterEnvelope.sealEnvelope Primitives.concrete ephemeralEntropy idEntropy
          nonceEntropy recipientDeliveryKey mailbox expiresAtUnix frame 0 ≠ .ok envelope := by
  rcases InnerFrame.exists_sealFrame Primitives.lawfulAead_concrete
    Primitives.totalAead_concrete (messageKeyOf _ concreteEndpoint.sendingChain)
    (concreteEndpoint.nextHeader .message)
    (rfl : constantEntropy 0 concreteEndpoint.suite.nonceLen = some _)
    (Nat.le_of_eq List.length_replicate) with ⟨frame, sealed⟩
  refine ⟨frame, RatchetState.encrypt_of_sealed sealed (by decide), ?_⟩
  intro ephemeralEntropy idEntropy nonceEntropy recipientDeliveryKey mailbox expiresAtUnix
    envelope enveloped
  rcases OuterEnvelope.sealEnvelope_eq_ok.mp enveloped with ⟨_, _, _, _, bounded, _⟩
  rw [InnerFrame.length_wireBytes_of_seal Primitives.lawfulAead_concrete sealed,
    List.length_replicate] at bounded
  simp only [InnerFrame.maxPlaintextLen, maxCiphertextLen, aeadTagLen] at bounded
  omega

end Mef26
