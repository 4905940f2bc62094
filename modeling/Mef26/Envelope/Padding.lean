import Mef26.Envelope.Delivery

namespace Mef26

/-! # Padding inside an envelope

Zero bytes follow the frame inside an envelope. The frame says itself where it ends, so
the padding comes off again whatever the frame's own last bytes are. -/

variable {Key : Type} {P : Primitives Key}

namespace OuterEnvelope

/-- What opens an envelope: its ciphertext is the encryption of a plaintext under the key
that the recipient derives. Who encrypted it does not matter. -/
structure Authenticates (P : Primitives Key) (envelope : OuterEnvelope) (secret : DhSecretKey)
    (plaintext : List UInt8) : Prop where
  contributory : P.wasContributory (P.x25519 secret envelope.senderEphemeral) = true
  encrypted : P.aeadEncrypt outerSuite
    (envelopeKey P envelope.mailbox (P.x25519 secret envelope.senderEphemeral))
    envelope.ciphertext.nonce envelope.header plaintext = some envelope.ciphertext.body

theorem Authenticates.openEnvelope (aead : P.LawfulAead) {envelope : OuterEnvelope}
    {secret : DhSecretKey} {plaintext : List UInt8}
    (authentic : envelope.Authenticates P secret plaintext) {nowUnix : UInt64}
    (fresh : nowUnix ≤ envelope.expiresAtUnix) :
    envelope.openEnvelope P secret nowUnix = .ok plaintext :=
  openEnvelope_eq_ok.mpr
    ⟨fresh, authentic.contributory, aead.decrypt_encrypt authentic.encrypted⟩

theorem Authenticates.length_le (aead : P.LawfulAead) {envelope : OuterEnvelope}
    {secret : DhSecretKey} {plaintext : List UInt8}
    (authentic : envelope.Authenticates P secret plaintext) :
    plaintext.length ≤ InnerFrame.wireLimit := by
  have body := envelope.ciphertext.body_le_limit
  rw [aead.length_encrypt authentic.encrypted] at body
  rw [InnerFrame.wireLimit]
  omega

theorem eq_replicate_iff {padding : List UInt8} :
    (∀ byte ∈ padding, byte = 0) ↔ ∃ paddingLen, padding = List.replicate paddingLen 0 := by
  constructor
  · intro zeros
    exact ⟨padding.length, List.eq_replicate_of_mem zeros⟩
  · intro padded byte member
    rcases padded with ⟨paddingLen, rfl⟩
    exact List.eq_of_mem_replicate member

theorem paddedBytes_injective {left right : InnerFrame} {leftPadding rightPadding : Nat}
    (same : paddedBytes left leftPadding = paddedBytes right rightPadding) :
    left = right ∧ leftPadding = rightPadding := by
  have leftLeads : left.wireBytes <+: paddedBytes left leftPadding := List.prefix_append _ _
  have rightLeads : right.wireBytes <+: paddedBytes right rightPadding :=
    List.prefix_append _ _
  rw [← same] at rightLeads
  cases InnerFrame.prefixFree_wireBytes.unique trivial trivial leftLeads rightLeads
  have lengths := congrArg List.length same
  rw [length_paddedBytes, length_paddedBytes] at lengths
  exact ⟨rfl, Nat.add_left_cancel lengths⟩

/-- What sealing does with padding, and what opening takes off again. -/
structure RemovesPadding (P : Primitives Key) : Prop where
  /-- Sealing refuses a plaintext past the limit and nothing else. -/
  refuses : ∀ (ephemeralEntropy idEntropy nonceEntropy : Entropy) (ephemeral : DhKeyPair P)
    (messageId : TransportMessageId) (nonce : FixedBytes outerSuite.nonceLen)
    (recipientDeliveryKey : DhPublicKey) (mailbox : MailboxCapability)
    (expiresAtUnix : UInt64) (innerFrame : InnerFrame) (innerBytes : List UInt8)
    (paddingLen : Nat),
    DhKeyPair.generate ephemeralEntropy = .ok ephemeral →
    P.wasContributory (P.x25519 ephemeral.secret recipientDeliveryKey) = true →
    idEntropy transportIdLen = some messageId →
    nonceEntropy outerSuite.nonceLen = some nonce →
    innerFrame.encode = .ok innerBytes →
    (sealEnvelope P ephemeralEntropy idEntropy nonceEntropy recipientDeliveryKey mailbox
        expiresAtUnix innerFrame paddingLen = .err .invalidLength ↔
      maxCiphertextLen - 16 < innerBytes.length + paddingLen) ∧
    (innerBytes.length + paddingLen ≤ maxCiphertextLen - 16 →
      ∃ envelope, sealEnvelope P ephemeralEntropy idEntropy nonceEntropy recipientDeliveryKey
        mailbox expiresAtUnix innerFrame paddingLen = .ok envelope)
  /-- What was sealed for a recipient opens to the frame. -/
  returns : ∀ (ephemeralEntropy idEntropy nonceEntropy : Entropy) (secret : DhSecretKey)
    (mailbox : MailboxCapability) (expiresAtUnix nowUnix : UInt64) (innerFrame : InnerFrame)
    (paddingLen : Nat) (envelope : OuterEnvelope),
    sealEnvelope P ephemeralEntropy idEntropy nonceEntropy (P.x25519PublicKey secret) mailbox
      expiresAtUnix innerFrame paddingLen = .ok envelope →
    nowUnix ≤ expiresAtUnix → envelope.openInner P secret nowUnix = .ok innerFrame
  /-- Of any authenticated plaintext, opening returns the frame before the zero bytes. -/
  opens : ∀ (envelope : OuterEnvelope) (secret : DhSecretKey) (plaintext : List UInt8)
    (nowUnix : UInt64) (innerFrame : InnerFrame), envelope.Authenticates P secret plaintext →
    nowUnix ≤ envelope.expiresAtUnix →
    (envelope.openInner P secret nowUnix = .ok innerFrame ↔
      ∃ innerBytes paddingLen, innerFrame.encode = .ok innerBytes ∧
        plaintext = innerBytes ++ List.replicate paddingLen 0)
  /-- There is no other way to read it. -/
  unique : ∀ (left right : InnerFrame) (leftBytes rightBytes : List UInt8)
    (leftPadding rightPadding : Nat), left.encode = .ok leftBytes →
    right.encode = .ok rightBytes →
    leftBytes ++ List.replicate leftPadding 0 = rightBytes ++ List.replicate rightPadding 0 →
    left = right ∧ leftPadding = rightPadding

theorem removesPadding (aead : P.LawfulAead) (total : P.TotalAead)
    (agreement : P.LawfulX25519) : RemovesPadding P where
  refuses := by
    intro ephemeralEntropy idEntropy nonceEntropy ephemeral messageId nonce
      recipientDeliveryKey mailbox expiresAtUnix innerFrame innerBytes paddingLen generated
      contributory identified drawn encoded
    rw [InnerFrame.encode_eq] at encoded
    cases encoded
    have within : innerFrame.wireBytes.length + paddingLen ≤ maxCiphertextLen - aeadTagLen →
        ∃ envelope, sealEnvelope P ephemeralEntropy idEntropy nonceEntropy
          recipientDeliveryKey mailbox expiresAtUnix innerFrame paddingLen = .ok envelope :=
      exists_sealEnvelope aead total generated contributory identified drawn
    refine ⟨⟨?_, sealEnvelope_of_over generated contributory identified⟩, within⟩
    intro refused
    by_contra fits
    rcases within (Nat.not_lt.mp fits) with ⟨envelope, sealed⟩
    rw [refused] at sealed
    cases sealed
  returns := by
    intro ephemeralEntropy idEntropy nonceEntropy secret mailbox expiresAtUnix nowUnix
      innerFrame paddingLen envelope sealed fresh
    exact openInner_of_sealEnvelope aead agreement sealed rfl fresh
  opens := by
    intro envelope secret plaintext nowUnix innerFrame authentic fresh
    have opened := authentic.openEnvelope aead fresh
    rw [openInner_eq_ok]
    constructor
    · intro returned
      rcases returned with ⟨other, otherOpened, _, padding, zeros, split⟩
      rw [opened] at otherOpened
      cases otherOpened
      rcases eq_replicate_iff.mp zeros with ⟨paddingLen, rfl⟩
      exact ⟨_, paddingLen, innerFrame.encode_eq, split⟩
    · intro padded
      rcases padded with ⟨innerBytes, paddingLen, encoded, split⟩
      rw [InnerFrame.encode_eq] at encoded
      cases encoded
      exact ⟨plaintext, opened, authentic.length_le aead, _,
        eq_replicate_iff.mpr ⟨paddingLen, rfl⟩, split⟩
  unique := by
    intro left right leftBytes rightBytes leftPadding rightPadding leftEncoded rightEncoded same
    rw [InnerFrame.encode_eq] at leftEncoded rightEncoded
    cases leftEncoded
    cases rightEncoded
    exact paddedBytes_injective same

theorem removesPadding_concrete : RemovesPadding Primitives.concrete :=
  removesPadding Primitives.lawfulAead_concrete Primitives.totalAead_concrete
    Primitives.lawfulX25519_concrete

end OuterEnvelope

end Mef26
