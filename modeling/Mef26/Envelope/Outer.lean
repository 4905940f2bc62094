import Mef26.Frame.Wire

namespace Mef26

/-! # Outer delivery envelopes

An envelope carries one inner frame and encrypted padding to a mailbox. -/

abbrev capabilityLen : Nat := 32

abbrev transportIdLen : Nat := 16

abbrev MailboxCapability := FixedBytes capabilityLen

/-- What a server looks a mailbox up by. -/
def MailboxCapability.storageId {Key : Type} (P : Primitives Key) (mailbox : MailboxCapability) :
    Result (FixedBytes 32) :=
  blake3Id P "mailbox-capability-v1" [.ofBytes mailbox.bytes]

abbrev TransportMessageId := FixedBytes transportIdLen

def TransportMessageId.generate (entropy : Entropy) : Result TransportMessageId :=
  fillSecure entropy transportIdLen

def outerSuite : AeadSuite := .xChaCha20Poly1305

@[ext]
structure OuterEnvelope where
  mailbox : MailboxCapability
  messageId : TransportMessageId
  expiresAtUnix : UInt64
  senderEphemeral : DhPublicKey
  ciphertext : Ciphertext
  suite_eq : ciphertext.suite = outerSuite
  deriving DecidableEq, Repr

namespace OuterEnvelope

def magic : List UInt8 := utf8Bytes "MEO"

def version : UInt8 := 1

def keyLabel : String := "outer-envelope-v1"

def fixedLen : Nat := 3 + 1 + 1 + capabilityLen + transportIdLen + 8 + 32 + 1 + 4

def headerBytes (mailbox : MailboxCapability) (messageId : TransportMessageId)
    (expiresAtUnix : UInt64) (senderEphemeral : DhPublicKey) (bodyLen : Nat) : List UInt8 :=
  magic ++ [version] ++ [outerSuite.id] ++ mailbox.bytes ++ messageId.bytes ++
    beBytes64 expiresAtUnix ++ senderEphemeral.bytes ++ [UInt8.ofNat outerSuite.nonceLen] ++
    toBigEndian 4 bodyLen

def encodeAad (mailbox : MailboxCapability) (messageId : TransportMessageId)
    (expiresAtUnix : UInt64) (senderEphemeral : DhPublicKey) (bodyLen : Nat) :
    Result (List UInt8) := do
  Outcome.rejectIf (UInt32.size ≤ bodyLen) .invalidLength
  Outcome.rejectIf (UInt8.size ≤ outerSuite.nonceLen) .invalidLength
  let aad := headerBytes mailbox messageId expiresAtUnix senderEphemeral bodyLen
  Outcome.rejectIf (aad.length ≠ fixedLen) .invalidFrame
  return aad

def fromCiphertext (mailbox : MailboxCapability) (messageId : TransportMessageId)
    (expiresAtUnix : UInt64) (senderEphemeral : DhPublicKey) (ciphertext : Ciphertext) :
    Result OuterEnvelope :=
  if suite_eq : ciphertext.suite = outerSuite then do
    let aad ← encodeAad mailbox messageId expiresAtUnix senderEphemeral ciphertext.body.length
    Outcome.rejectIf (aad.length ≠ fixedLen) .invalidFrame
    return { mailbox, messageId, expiresAtUnix, senderEphemeral, ciphertext, suite_eq }
  else
    .err .invalidFrame

def aad (envelope : OuterEnvelope) : Result (List UInt8) :=
  encodeAad envelope.mailbox envelope.messageId envelope.expiresAtUnix
    envelope.senderEphemeral envelope.ciphertext.body.length

section

variable {Key : Type} (P : Primitives Key)

/-- Seals a complete inner frame for one recipient: the crate's `OuterEnvelope::seal`. -/
def sealEnvelope (ephemeralEntropy idEntropy nonceEntropy : Entropy)
    (recipientDeliveryKey : DhPublicKey) (mailbox : MailboxCapability)
    (expiresAtUnix : UInt64) (innerFrame : InnerFrame) (paddingLen : Nat) :
    Result OuterEnvelope := do
  let senderEphemeral : DhKeyPair P ← DhKeyPair.generate ephemeralEntropy
  let shared ← senderEphemeral.diffieHellman recipientDeliveryKey
  let key ← deriveAeadKey P (.ofBytes mailbox.bytes) keyLabel (.ofKey shared)
  let messageId ← TransportMessageId.generate idEntropy
  let innerBytes ← innerFrame.encode
  let plaintextLen ← Outcome.okOr .invalidLength (checkedAddSize innerBytes.length paddingLen)
  Outcome.rejectIf (plaintextLen > maxCiphertextLen - aeadTagLen) .invalidLength
  let bodyLen ← Outcome.okOr .invalidLength (checkedAddSize plaintextLen aeadTagLen)
  let plaintext := innerBytes ++ List.replicate (plaintextLen - innerBytes.length) 0
  let aad ← encodeAad mailbox messageId expiresAtUnix senderEphemeral.publicKey bodyLen
  let ciphertext ← sealCiphertext P nonceEntropy key outerSuite aad plaintext
  fromCiphertext mailbox messageId expiresAtUnix senderEphemeral.publicKey ciphertext

/-- Opens an envelope to the encoded frame and its padding: the crate's
`OuterEnvelope::open`. -/
def openEnvelope (envelope : OuterEnvelope) (recipientDeliverySecret : DhSecretKey)
    (nowUnix : UInt64) : Result (List UInt8) := do
  Outcome.rejectIf (nowUnix > envelope.expiresAtUnix) .envelopeExpired
  let recipient : DhKeyPair P := DhKeyPair.fromSecret recipientDeliverySecret
  let shared ← recipient.diffieHellman envelope.senderEphemeral
  let key ← deriveAeadKey P (.ofBytes envelope.mailbox.bytes) keyLabel (.ofKey shared)
  let aad ← envelope.aad
  openCiphertext P key envelope.ciphertext aad

/-- Opens an envelope to its one frame, and rejects padding that is not zero. -/
def openInner (envelope : OuterEnvelope) (recipientDeliverySecret : DhSecretKey)
    (nowUnix : UInt64) : Result InnerFrame := do
  let plaintext ← envelope.openEnvelope P recipientDeliverySecret nowUnix
  let (frame, consumed) ← InnerFrame.decodePrefix plaintext
  let padding ← slice plaintext consumed plaintext.length
  Outcome.rejectIf (padding.any fun byte => byte ≠ 0) .invalidFrame
  return frame

end

def encode (envelope : OuterEnvelope) : Result (List UInt8) := do
  let aad ← envelope.aad
  let nonceEnd ← Outcome.okOr .invalidLength
    (checkedAddSize aad.length envelope.ciphertext.nonce.length)
  let _ ← Outcome.okOr MefError.invalidLength
    (checkedAddSize nonceEnd envelope.ciphertext.body.length)
  return aad ++ envelope.ciphertext.nonce ++ envelope.ciphertext.body

def wireLimit : Nat := maxCiphertextLen + (fixedLen + 24)

def decode (bytes : List UInt8) : Result OuterEnvelope := do
  Outcome.rejectIf (bytes.length < fixedLen ∨ bytes.length > wireLimit) .invalidFrame
  let magicBytes ← slice bytes 0 3
  Outcome.rejectIf (magicBytes ≠ magic) .invalidFrame
  let versionByte ← elementAt bytes 3
  Outcome.rejectIf (versionByte ≠ version) .invalidFrame
  let suiteId ← elementAt bytes 4
  let suite ← AeadSuite.fromId suiteId
  Outcome.rejectIf (suite ≠ outerSuite) .invalidFrame
  let mailboxBytes ← slice bytes 5 37
  let mailbox ← copyArray .invalidFrame capabilityLen mailboxBytes
  let messageIdBytes ← slice bytes 37 53
  let messageId ← copyArray .invalidFrame transportIdLen messageIdBytes
  let expiresBytes ← slice bytes 53 61
  let expiresAtUnix ← copyArray .invalidFrame 8 expiresBytes
  let ephemeralBytes ← slice bytes 61 93
  let senderEphemeral ← copyArray .invalidFrame 32 ephemeralBytes
  let nonceLenByte ← elementAt bytes 93
  let nonceLen := nonceLenByte.toNat
  let bodyLenBytes ← slice bytes 94 98
  let bodyLenArray ← copyArray .invalidFrame 4 bodyLenBytes
  let bodyLen := (fromBeBytes32 bodyLenArray).toNat
  Outcome.rejectIf
    (nonceLen ≠ outerSuite.nonceLen ∨ ¬(aeadTagLen ≤ bodyLen ∧ bodyLen ≤ maxCiphertextLen))
    .invalidFrame
  let headerAndNonce ← Outcome.okOr .invalidLength (checkedAddSize fixedLen nonceLen)
  let expected ← Outcome.okOr .invalidLength (checkedAddSize headerAndNonce bodyLen)
  Outcome.rejectIf (bytes.length ≠ expected) .invalidFrame
  let nonceEnd ← addSize fixedLen nonceLen
  let nonce ← slice bytes fixedLen nonceEnd
  let body ← slice bytes nonceEnd bytes.length
  let ciphertext ← Ciphertext.fromParts outerSuite nonce body
  fromCiphertext mailbox messageId (fromBeBytes64 expiresAtUnix) senderEphemeral ciphertext

/-! ## Exactness -/

theorem magic_length : magic.length = 3 := by decide

@[simp] theorem length_headerBytes (mailbox : MailboxCapability)
    (messageId : TransportMessageId) (expiresAtUnix : UInt64) (senderEphemeral : DhPublicKey)
    (bodyLen : Nat) :
    (headerBytes mailbox messageId expiresAtUnix senderEphemeral bodyLen).length = fixedLen := by
  simp only [headerBytes, List.length_append, magic_length, List.length_singleton,
    FixedBytes.length_bytes, length_beBytes64, length_toBigEndian, fixedLen]

theorem encodeAad_eq (mailbox : MailboxCapability) (messageId : TransportMessageId)
    (expiresAtUnix : UInt64) (senderEphemeral : DhPublicKey) {bodyLen : Nat}
    (fits : bodyLen < UInt32.size) :
    encodeAad mailbox messageId expiresAtUnix senderEphemeral bodyLen =
      .ok (headerBytes mailbox messageId expiresAtUnix senderEphemeral bodyLen) := by
  unfold encodeAad
  rw [Outcome.rejectIf_of_not _ (Nat.not_le.mpr fits), Outcome.rejectIf_of_not _ (by decide)]
  simp only [Outcome.ok_bind]
  rw [Outcome.rejectIf_of_not _ (by simp)]
  rfl

theorem headerBytes_injective {mailbox mailbox' : MailboxCapability}
    {messageId messageId' : TransportMessageId} {expiresAtUnix expiresAtUnix' : UInt64}
    {senderEphemeral senderEphemeral' : DhPublicKey} {bodyLen bodyLen' : Nat}
    (fits : bodyLen < UInt32.size) (fits' : bodyLen' < UInt32.size)
    (equal : headerBytes mailbox messageId expiresAtUnix senderEphemeral bodyLen =
      headerBytes mailbox' messageId' expiresAtUnix' senderEphemeral' bodyLen') :
    mailbox = mailbox' ∧ messageId = messageId' ∧ expiresAtUnix = expiresAtUnix' ∧
      senderEphemeral = senderEphemeral' ∧ bodyLen = bodyLen' := by
  simp only [headerBytes] at equal
  rcases List.append_inj' equal (by simp) with ⟨equal, bodies⟩
  rcases List.append_inj' equal rfl with ⟨equal, _⟩
  rcases List.append_inj' equal (by simp) with ⟨equal, ephemerals⟩
  rcases List.append_inj' equal (by simp) with ⟨equal, expiries⟩
  rcases List.append_inj' equal (by simp) with ⟨equal, identifiers⟩
  rcases List.append_inj' equal (by simp) with ⟨_, mailboxes⟩
  exact ⟨FixedBytes.ext mailboxes, FixedBytes.ext identifiers, beBytes64_injective expiries,
    FixedBytes.ext ephemerals, toBigEndian_injective fits fits' bodies⟩

def header (envelope : OuterEnvelope) : List UInt8 :=
  headerBytes envelope.mailbox envelope.messageId envelope.expiresAtUnix
    envelope.senderEphemeral envelope.ciphertext.body.length

theorem body_length_lt (envelope : OuterEnvelope) :
    envelope.ciphertext.body.length < UInt32.size :=
  Nat.lt_of_le_of_lt envelope.ciphertext.body_le_limit (by decide)

@[simp] theorem aad_eq (envelope : OuterEnvelope) : envelope.aad = .ok envelope.header :=
  encodeAad_eq _ _ _ _ envelope.body_length_lt

theorem length_header (envelope : OuterEnvelope) : envelope.header.length = fixedLen :=
  length_headerBytes _ _ _ _ _

theorem length_nonce (envelope : OuterEnvelope) : envelope.ciphertext.nonce.length = 24 := by
  rw [envelope.ciphertext.nonce_length, envelope.suite_eq]
  rfl

theorem fromCiphertext_eq_ok {mailbox : MailboxCapability} {messageId : TransportMessageId}
    {expiresAtUnix : UInt64} {senderEphemeral : DhPublicKey} {ciphertext : Ciphertext}
    {envelope : OuterEnvelope} :
    fromCiphertext mailbox messageId expiresAtUnix senderEphemeral ciphertext = .ok envelope ↔
      envelope.mailbox = mailbox ∧ envelope.messageId = messageId ∧
        envelope.expiresAtUnix = expiresAtUnix ∧ envelope.senderEphemeral = senderEphemeral ∧
        envelope.ciphertext = ciphertext := by
  have fits : ciphertext.body.length < UInt32.size :=
    Nat.lt_of_le_of_lt ciphertext.body_le_limit (by decide)
  unfold fromCiphertext
  split
  · rw [encodeAad_eq _ _ _ _ fits, Outcome.ok_bind, Outcome.rejectIf_of_not _ (by simp),
      Outcome.ok_bind, Outcome.pure_eq_ok, Outcome.ok.injEq]
    constructor
    · intro same
      cases same
      exact ⟨rfl, rfl, rfl, rfl, rfl⟩
    · intro fields
      rcases fields with ⟨rfl, rfl, rfl, rfl, rfl⟩
      rfl
  · rename_i other
    simp only [reduceCtorEq, false_iff]
    intro fields
    exact other (fields.2.2.2.2 ▸ envelope.suite_eq)

theorem fromCiphertext_ne_panic (mailbox : MailboxCapability) (messageId : TransportMessageId)
    (expiresAtUnix : UInt64) (senderEphemeral : DhPublicKey) (ciphertext : Ciphertext) :
    fromCiphertext mailbox messageId expiresAtUnix senderEphemeral ciphertext ≠ .panic := by
  have fits : ciphertext.body.length < UInt32.size :=
    Nat.lt_of_le_of_lt ciphertext.body_le_limit (by decide)
  unfold fromCiphertext
  split
  · rw [encodeAad_eq _ _ _ _ fits, Outcome.ok_bind, Outcome.rejectIf_of_not _ (by simp)]
    simp
  · simp

def wireBytes (envelope : OuterEnvelope) : List UInt8 :=
  envelope.header ++ (envelope.ciphertext.nonce ++ envelope.ciphertext.body)

theorem length_wireBytes (envelope : OuterEnvelope) :
    envelope.wireBytes.length = fixedLen + (24 + envelope.ciphertext.body.length) := by
  rw [wireBytes, List.length_append, List.length_append, length_header, length_nonce]

@[simp] theorem encode_eq (envelope : OuterEnvelope) :
    envelope.encode = .ok envelope.wireBytes := by
  have body := envelope.ciphertext.body_le_limit
  have first : checkedAddSize fixedLen 24 = some (fixedLen + 24) := rfl
  have second : checkedAddSize (fixedLen + 24) envelope.ciphertext.body.length =
      some (fixedLen + 24 + envelope.ciphertext.body.length) :=
    if_pos (by
      simp only [fixedLen, capabilityLen, transportIdLen, maxCiphertextLen] at *
      omega)
  rw [encode, aad_eq, Outcome.ok_bind, length_header, length_nonce, first,
    Outcome.okOr_some, Outcome.ok_bind, second, Outcome.okOr_some, Outcome.ok_bind,
    List.append_assoc]
  rfl

theorem decode_fields (magicField : FixedBytes 3) (versionByte suiteId : UInt8)
    (mailbox : FixedBytes 32) (messageId : FixedBytes 16) (expires : FixedBytes 8)
    (senderEphemeral : FixedBytes 32) (nonceLen : UInt8) (bodyLen : FixedBytes 4)
    (rest bytes : List UInt8)
    (layout : bytes = magicField.bytes ++ (versionByte :: suiteId :: (mailbox.bytes ++
      (messageId.bytes ++ (expires.bytes ++ (senderEphemeral.bytes ++
      (nonceLen :: (bodyLen.bytes ++ rest)))))))) :
    decode bytes = (do
      Outcome.rejectIf (bytes.length > wireLimit) .invalidFrame
      Outcome.rejectIf (magicField.bytes ≠ magic) .invalidFrame
      Outcome.rejectIf (versionByte ≠ version) .invalidFrame
      let suite ← AeadSuite.fromId suiteId
      Outcome.rejectIf (suite ≠ outerSuite) .invalidFrame
      Outcome.rejectIf
        (nonceLen.toNat ≠ outerSuite.nonceLen ∨
          ¬(aeadTagLen ≤ (fromBeBytes32 bodyLen).toNat ∧
            (fromBeBytes32 bodyLen).toNat ≤ maxCiphertextLen)) .invalidFrame
      Outcome.rejectIf (rest.length ≠ nonceLen.toNat + (fromBeBytes32 bodyLen).toNat)
        .invalidFrame
      let ciphertext ← Ciphertext.fromParts outerSuite (rest.take nonceLen.toNat)
        (rest.drop nonceLen.toNat)
      fromCiphertext mailbox messageId (fromBeBytes64 expires) senderEphemeral
        ciphertext) := by
  have headerLen : fixedLen = 98 := rfl
  have length : bytes.length = 98 + rest.length := by
    rw [layout]
    simp only [List.length_append, FixedBytes.length_bytes, List.length_cons]
    omega
  have sized : (bytes.length < 98 ∨ bytes.length > wireLimit) ↔ bytes.length > wireLimit := by
    omega
  have fields : (slice bytes 0 3 : Result _) = .ok magicField.bytes ∧
      (elementAt bytes 3 : Result _) = .ok versionByte ∧
      (elementAt bytes 4 : Result _) = .ok suiteId ∧
      (slice bytes 5 37 : Result _) = .ok mailbox.bytes ∧
      (slice bytes 37 53 : Result _) = .ok messageId.bytes ∧
      (slice bytes 53 61 : Result _) = .ok expires.bytes ∧
      (slice bytes 61 93 : Result _) = .ok senderEphemeral.bytes ∧
      (elementAt bytes 93 : Result _) = .ok nonceLen ∧
      (slice bytes 94 98 : Result _) = .ok bodyLen.bytes := by
    rw [layout]
    simp (disch := decide) only [slice_skip, slice_cons, Nat.reduceSub, slice_field,
      elementAt_skip, elementAt_cons, elementAt_cons_zero, and_self]
  rcases fields with ⟨at0, at3, at4, at5, at37, at53, at61, at93, at94⟩
  have nonceBound := nonceLen.toNat_lt
  have nonceEnd : (addSize 98 nonceLen.toNat : Result Nat) = .ok (98 + nonceLen.toNat) :=
    addSize_of_lt (by omega)
  rcases checkedAddSize_announced (by decide : 98 < 2 ^ 16) nonceLen bodyLen
    with ⟨nonceSum, total⟩
  have whole : (bytes.length ≠ 98 + nonceLen.toNat + (fromBeBytes32 bodyLen).toNat) ↔
      rest.length ≠ nonceLen.toNat + (fromBeBytes32 bodyLen).toNat := by
    omega
  have drops : bytes.drop 98 = rest := by
    have regroup : bytes = (magicField.bytes ++ (versionByte :: suiteId :: (mailbox.bytes ++
        (messageId.bytes ++ (expires.bytes ++ (senderEphemeral.bytes ++
        (nonceLen :: bodyLen.bytes))))))) ++ rest := by
      rw [layout]
      simp only [List.append_assoc, List.cons_append]
    rw [regroup]
    exact List.drop_left' (by simp)
  unfold decode
  rw [headerLen, Outcome.rejectIf_congr _ sized]
  congr 1
  funext _
  rw [at0, Outcome.ok_bind]
  congr 1
  funext _
  rw [at3, Outcome.ok_bind]
  congr 1
  funext _
  rw [at4, Outcome.ok_bind]
  congr 1
  funext suite
  congr 1
  funext _
  simp only [at5, at37, at53, at61, at93, at94, Outcome.ok_bind, copyArray_bytes]
  congr 1
  funext _
  rw [nonceSum, Outcome.okOr_some, Outcome.ok_bind, total, Outcome.okOr_some,
    Outcome.ok_bind, Outcome.rejectIf_congr _ whole]
  by_cases fits : rest.length = nonceLen.toNat + (fromBeBytes32 bodyLen).toNat
  · have nonceSlice : (slice bytes 98 (98 + nonceLen.toNat) : Result _) =
        .ok (rest.take nonceLen.toNat) := by
      rw [slice_of_le (by omega) (by omega), drops, Nat.add_sub_cancel_left]
    have bodySlice : (slice bytes (98 + nonceLen.toNat) bytes.length : Result _) =
        .ok (rest.drop nonceLen.toNat) := by
      rw [slice_of_le (by omega) (by omega), ← List.drop_drop, drops]
      exact congrArg _ (List.take_of_length_le (by rw [List.length_drop]; omega))
    rw [Outcome.rejectIf_of_not _ (not_not.mpr fits), Outcome.ok_bind, Outcome.ok_bind,
      nonceEnd, Outcome.ok_bind, nonceSlice, Outcome.ok_bind, bodySlice, Outcome.ok_bind]
  · rw [Outcome.rejectIf_of _ fits]
    rfl

theorem length_of_decode {bytes : List UInt8} {envelope : OuterEnvelope}
    (decoded : decode bytes = .ok envelope) : fixedLen ≤ bytes.length := by
  by_contra short
  unfold decode at decoded
  rw [Outcome.rejectIf_of _ (.inl (Nat.not_le.mp short))] at decoded
  cases decoded

theorem exists_headerFields {bytes : List UInt8} (long : fixedLen ≤ bytes.length) :
    ∃ (magicField : FixedBytes 3) (versionByte suiteId : UInt8) (mailbox : FixedBytes 32)
      (messageId : FixedBytes 16) (expires : FixedBytes 8) (senderEphemeral : FixedBytes 32)
      (nonceLen : UInt8) (bodyLen : FixedBytes 4) (rest : List UInt8),
      bytes = magicField.bytes ++ (versionByte :: suiteId :: (mailbox.bytes ++
        (messageId.bytes ++ (expires.bytes ++ (senderEphemeral.bytes ++
        (nonceLen :: (bodyLen.bytes ++ rest))))))) := by
  simp only [fixedLen, capabilityLen, transportIdLen] at long
  rcases exists_field (by omega : 3 ≤ bytes.length) with ⟨magicField, rest, rfl, length⟩
  rcases exists_byte (by omega : 0 < rest.length) with ⟨versionByte, rest, rfl, length⟩
  rcases exists_byte (by omega : 0 < rest.length) with ⟨suiteId, rest, rfl, length⟩
  rcases exists_field (by omega : 32 ≤ rest.length) with ⟨mailbox, rest, rfl, length⟩
  rcases exists_field (by omega : 16 ≤ rest.length) with ⟨messageId, rest, rfl, length⟩
  rcases exists_field (by omega : 8 ≤ rest.length) with ⟨expires, rest, rfl, length⟩
  rcases exists_field (by omega : 32 ≤ rest.length) with ⟨senderEphemeral, rest, rfl, length⟩
  rcases exists_byte (by omega : 0 < rest.length) with ⟨nonceLen, rest, rfl, length⟩
  rcases exists_field (by omega : 4 ≤ rest.length) with ⟨bodyLen, rest, rfl, length⟩
  exact ⟨magicField, versionByte, suiteId, mailbox, messageId, expires, senderEphemeral,
    nonceLen, bodyLen, rest, rfl⟩

theorem wireBytes_fields (envelope : OuterEnvelope) :
    envelope.wireBytes =
      (⟨magic, magic_length⟩ : FixedBytes 3).bytes ++ (version :: outerSuite.id ::
        (envelope.mailbox.bytes ++ (envelope.messageId.bytes ++
        ((beArray64 envelope.expiresAtUnix).bytes ++ (envelope.senderEphemeral.bytes ++
        (UInt8.ofNat outerSuite.nonceLen ::
        ((beArray32 (.ofNat envelope.ciphertext.body.length)).bytes ++
        (envelope.ciphertext.nonce ++ envelope.ciphertext.body)))))))) := by
  have fits := envelope.body_length_lt
  simp only [wireBytes, header, headerBytes, bytes_beArray32, bytes_beArray64,
    List.append_assoc, List.singleton_append]
  simp only [beBytes32, UInt32.toNat_ofNat_of_lt' fits]
  rfl

theorem decode_eq_ok {bytes : List UInt8} {envelope : OuterEnvelope} :
    decode bytes = .ok envelope ↔ bytes = envelope.wireBytes := by
  have nonceByte : (UInt8.ofNat outerSuite.nonceLen).toNat = 24 := by decide
  constructor
  · intro decoded
    rcases exists_headerFields (length_of_decode decoded)
      with ⟨magicField, versionByte, suiteId, mailbox, messageId, expires, senderEphemeral,
        nonceLen, bodyLen, rest, layout⟩
    rw [decode_fields _ _ _ _ _ _ _ _ _ _ _ layout] at decoded
    simp only [Outcome.bind_eq_ok, Outcome.rejectIf_eq_ok, AeadSuite.fromId_eq_ok,
      Ciphertext.fromParts_eq_ok, fromCiphertext_eq_ok, not_not, Nat.not_lt,
      not_or] at decoded
    rcases decoded with ⟨_, limit, _, isMagic, _, rfl, suite, rfl, _, rfl, _,
      ⟨nonceEq, _, _⟩, _, whole, ciphertext, ⟨suite, nonce, body⟩, rfl, rfl, expiry, rfl,
      rfl⟩
    have bodyLength : envelope.ciphertext.body.length = (fromBeBytes32 bodyLen).toNat := by
      rw [body, List.length_drop]
      omega
    have nonceLength : UInt8.ofNat outerSuite.nonceLen = nonceLen := by
      rw [← nonceEq, UInt8.ofNat_toNat]
    have parts : rest = envelope.ciphertext.nonce ++ envelope.ciphertext.body := by
      rw [nonce, body, List.take_append_drop]
    rw [wireBytes_fields, nonceLength, bodyLength, UInt32.ofNat_toNat,
      beArray32_fromBeBytes32, expiry, beArray64_fromBeBytes64, ← parts, layout, isMagic]
  · intro encoded
    have body := envelope.ciphertext.body_le_limit
    have bodyWord : (UInt32.ofNat envelope.ciphertext.body.length).toNat =
        envelope.ciphertext.body.length :=
      UInt32.toNat_ofNat_of_lt' envelope.body_length_lt
    have limit : bytes.length ≤ wireLimit := by
      rw [encoded, length_wireBytes, wireLimit]
      omega
    rw [wireBytes_fields] at encoded
    rw [decode_fields _ _ _ _ _ _ _ _ _ _ _ encoded]
    simp only [Outcome.bind_eq_ok, Outcome.rejectIf_eq_ok, AeadSuite.fromId_eq_ok,
      Ciphertext.fromParts_eq_ok, fromCiphertext_eq_ok, not_not, Nat.not_lt, not_or,
      fromBeBytes32_beArray32, fromBeBytes64_beArray64, bodyWord, nonceByte]
    have nonce := envelope.length_nonce
    refine ⟨⟨⟩, limit, ⟨⟩, trivial, ⟨⟩, trivial, _, rfl, ⟨⟩, rfl, ⟨⟩,
      ⟨rfl, envelope.ciphertext.tag_le_body, body⟩, ⟨⟩, ?_, envelope.ciphertext,
      ⟨envelope.suite_eq, ?_, ?_⟩, trivial, trivial, trivial, trivial, rfl⟩
    · rw [List.length_append, nonce]
    · rw [← nonce, List.take_left]
    · rw [← nonce, List.drop_left]

theorem decode_ne_panic (bytes : List UInt8) : decode bytes ≠ .panic := by
  by_cases long : fixedLen ≤ bytes.length
  · rcases exists_headerFields long with ⟨_, _, _, _, _, _, _, _, _, _, layout⟩
    rw [decode_fields _ _ _ _ _ _ _ _ _ _ _ layout]
    apply Outcome.rejectIf_bind_ne_panic
    apply Outcome.rejectIf_bind_ne_panic
    apply Outcome.rejectIf_bind_ne_panic
    apply Outcome.bind_ne_panic (AeadSuite.fromId_ne_panic _)
    intro suite _
    apply Outcome.rejectIf_bind_ne_panic
    apply Outcome.rejectIf_bind_ne_panic
    apply Outcome.rejectIf_bind_ne_panic
    apply Outcome.bind_ne_panic (Ciphertext.fromParts_ne_panic _ _ _)
    intro ciphertext _
    exact fromCiphertext_ne_panic _ _ _ _ _
  · unfold decode
    rw [Outcome.rejectIf_of _ (.inl (Nat.not_le.mp long))]
    simp

/-! ## The codec -/

theorem exact_decode : Codec.Exact wireBytes (fun _ => True) decode := by
  intro bytes envelope
  rw [decode_eq_ok, and_true]

theorem wireBytes_injective : Function.Injective wireBytes := by
  intro left right same
  exact exact_decode.write_injective trivial trivial same

/-- The header fixes the length of what follows it. -/
theorem prefixFree_wireBytes : Codec.PrefixFree wireBytes (fun _ => True) := by
  intro left right _ _ leads
  rcases leads with ⟨rest, same⟩
  have headers : left.header = right.header := by
    rw [wireBytes, wireBytes, List.append_assoc] at same
    exact List.append_inj_left same (by rw [length_header, length_header])
  have bodies := (headerBytes_injective left.body_length_lt right.body_length_lt headers).2.2.2.2
  apply wireBytes_injective
  apply (show left.wireBytes <+: right.wireBytes from ⟨rest, same⟩).eq_of_length
  rw [length_wireBytes, length_wireBytes, bodies]

/-- Encoding and parsing are inverse, up to the longest body. -/
theorem envelopeCodec_exact :
    Codec.Canonical encode (fun _ => True) decode ∧
    ∀ bytes, (∃ envelope, decode bytes = .ok envelope) ↔
      ∃ envelope, encode envelope = .ok bytes := by
  have canonical := exact_decode.canonical prefixFree_wireBytes encode_eq decode_ne_panic
  refine ⟨canonical, ?_⟩
  intro bytes
  constructor
  · intro accepted
    rcases accepted with ⟨envelope, decoded⟩
    exact ⟨envelope, canonical.reencoded bytes envelope decoded⟩
  · intro written
    rcases written with ⟨envelope, encoded⟩
    rw [encode_eq] at encoded
    cases encoded
    exact ⟨envelope, decode_eq_ok.mpr rfl⟩

/-! ## Sealing and opening -/

section

variable {Key : Type} {P : Primitives Key}

variable (P) in
def envelopeKey (mailbox : MailboxCapability) (shared : Key) : Key :=
  P.hkdfSha256 (.ofBytes mailbox.bytes) (domainLabel "kdf" keyLabel) (.ofKey shared)

theorem deriveAeadKey_eq (mailbox : MailboxCapability) (shared : Key) :
    deriveAeadKey P (.ofBytes mailbox.bytes) keyLabel (.ofKey shared) =
      .ok (envelopeKey P mailbox shared) := by
  rw [deriveAeadKey_eq_deriveSecret, deriveSecret_eq P (by decide) (by simp; decide)]
  rfl

theorem openEnvelope_eq_ok {envelope : OuterEnvelope} {secret : DhSecretKey}
    {nowUnix : UInt64} {plaintext : List UInt8} :
    envelope.openEnvelope P secret nowUnix = .ok plaintext ↔
      nowUnix ≤ envelope.expiresAtUnix ∧
      P.wasContributory (P.x25519 secret envelope.senderEphemeral) = true ∧
      P.aeadDecrypt outerSuite
        (envelopeKey P envelope.mailbox (P.x25519 secret envelope.senderEphemeral))
        envelope.ciphertext.nonce envelope.header envelope.ciphertext.body =
          some plaintext := by
  have short : envelope.header.length ≤ maxAadLen := by
    rw [length_header]
    decide
  simp only [openEnvelope, Outcome.bind_eq_ok, Outcome.rejectIf_eq_ok, gt_iff_lt,
    UInt64.not_lt, DhKeyPair.diffieHellman_eq_ok, deriveAeadKey_eq, aad_eq,
    openCiphertext_eq_ok, Outcome.ok.injEq, envelope.suite_eq]
  constructor
  · intro opened
    rcases opened with ⟨_, fresh, _, ⟨contributory, rfl⟩, _, rfl, _, rfl, _, decrypted⟩
    exact ⟨fresh, contributory, decrypted⟩
  · intro opened
    rcases opened with ⟨fresh, contributory, decrypted⟩
    exact ⟨⟨⟩, fresh, _, ⟨contributory, rfl⟩, _, rfl, _, rfl, short, decrypted⟩

theorem openEnvelope_ne_panic (envelope : OuterEnvelope) (secret : DhSecretKey)
    (nowUnix : UInt64) : envelope.openEnvelope P secret nowUnix ≠ .panic := by
  unfold openEnvelope
  apply Outcome.bind_ne_panic (Outcome.rejectIf_ne_panic _ _)
  intro _ _
  apply Outcome.bind_ne_panic (DhKeyPair.diffieHellman_ne_panic _ _)
  intro shared _
  rw [deriveAeadKey_eq, Outcome.ok_bind, aad_eq, Outcome.ok_bind]
  exact openCiphertext_ne_panic _ _ _

/-- The one frame of an authenticated plaintext: its encoding, and zeros behind it. -/
theorem openInner_eq_ok {envelope : OuterEnvelope} {secret : DhSecretKey} {nowUnix : UInt64}
    {frame : InnerFrame} :
    envelope.openInner P secret nowUnix = .ok frame ↔
      ∃ plaintext, envelope.openEnvelope P secret nowUnix = .ok plaintext ∧
        plaintext.length ≤ InnerFrame.wireLimit ∧
        ∃ padding, (∀ byte ∈ padding, byte = 0) ∧ plaintext = frame.wireBytes ++ padding := by
  simp only [openInner, Outcome.bind_eq_ok, Prod.exists, InnerFrame.decodePrefix_eq_ok,
    slice_eq_ok, Outcome.rejectIf_eq_ok, Outcome.pure_eq_ok, Outcome.ok.injEq]
  constructor
  · intro opened
    rcases opened with ⟨plaintext, opened, frame', consumed, ⟨limit, rfl, rest, rfl⟩, padding,
      ⟨_, _, rfl⟩, _, zeros, rfl⟩
    refine ⟨_, opened, limit, rest, ?_, rfl⟩
    rw [List.drop_left, List.take_of_length_le (by simp)] at zeros
    simpa using zeros
  · intro opened
    rcases opened with ⟨_, opened, limit, padding, zeros, rfl⟩
    refine ⟨_, opened, frame, _, ⟨limit, rfl, padding, rfl⟩, padding, ⟨?_, Nat.le_refl _, ?_⟩,
      ⟨⟩, ?_, rfl⟩
    · simp
    · rw [List.drop_left, List.take_of_length_le (by simp)]
    · simpa using zeros

theorem openInner_ne_panic (envelope : OuterEnvelope) (secret : DhSecretKey)
    (nowUnix : UInt64) : envelope.openInner P secret nowUnix ≠ .panic := by
  unfold openInner
  apply Outcome.bind_ne_panic (openEnvelope_ne_panic _ _ _)
  intro plaintext _
  apply Outcome.bind_ne_panic (InnerFrame.decodePrefix_ne_panic _)
  intro parsed decoded
  rcases InnerFrame.decodePrefix_eq_ok.mp decoded with ⟨_, consumed, rest, rfl⟩
  apply Outcome.bind_ne_panic
  · rw [consumed, slice_of_le (by simp) (Nat.le_refl _)]
    simp
  · intro padding _
    apply Outcome.bind_ne_panic (Outcome.rejectIf_ne_panic _ _)
    intro _ _
    simp

def paddedBytes (innerFrame : InnerFrame) (paddingLen : Nat) : List UInt8 :=
  innerFrame.wireBytes ++ List.replicate paddingLen 0

@[simp] theorem length_paddedBytes (innerFrame : InnerFrame) (paddingLen : Nat) :
    (paddedBytes innerFrame paddingLen).length = innerFrame.wireBytes.length + paddingLen := by
  simp [paddedBytes]

theorem sealEnvelope_eq_ok {ephemeralEntropy idEntropy nonceEntropy : Entropy}
    {recipientDeliveryKey : DhPublicKey} {mailbox : MailboxCapability}
    {expiresAtUnix : UInt64} {innerFrame : InnerFrame} {paddingLen : Nat}
    {envelope : OuterEnvelope} :
    sealEnvelope P ephemeralEntropy idEntropy nonceEntropy recipientDeliveryKey mailbox
      expiresAtUnix innerFrame paddingLen = .ok envelope ↔
      ∃ ephemeral : DhKeyPair P, DhKeyPair.generate ephemeralEntropy = .ok ephemeral ∧
        P.wasContributory (P.x25519 ephemeral.secret recipientDeliveryKey) = true ∧
        idEntropy transportIdLen = some envelope.messageId ∧
        innerFrame.wireBytes.length + paddingLen ≤ maxCiphertextLen - aeadTagLen ∧
        envelope.mailbox = mailbox ∧ envelope.expiresAtUnix = expiresAtUnix ∧
        envelope.senderEphemeral = ephemeral.publicKey ∧
        sealCiphertext P nonceEntropy
          (envelopeKey P mailbox (P.x25519 ephemeral.secret recipientDeliveryKey)) outerSuite
          (headerBytes mailbox envelope.messageId expiresAtUnix ephemeral.publicKey
            ((paddedBytes innerFrame paddingLen).length + aeadTagLen))
          (paddedBytes innerFrame paddingLen) = .ok envelope.ciphertext := by
  have inRange (bounded : innerFrame.wireBytes.length + paddingLen ≤
      maxCiphertextLen - aeadTagLen) :
      checkedAddSize innerFrame.wireBytes.length paddingLen =
        some (innerFrame.wireBytes.length + paddingLen) ∧
      checkedAddSize (innerFrame.wireBytes.length + paddingLen) aeadTagLen =
        some (innerFrame.wireBytes.length + paddingLen + aeadTagLen) ∧
      innerFrame.wireBytes.length + paddingLen + aeadTagLen < UInt32.size := by
    simp only [maxCiphertextLen, aeadTagLen, UInt32.size] at bounded ⊢
    exact ⟨if_pos (by omega), if_pos (by omega), by omega⟩
  simp only [sealEnvelope, Outcome.bind_eq_ok, DhKeyPair.diffieHellman_eq_ok, deriveAeadKey_eq,
    TransportMessageId.generate, fillSecure, Outcome.okOr_eq_ok, InnerFrame.encode_eq,
    Outcome.ok.injEq, Outcome.rejectIf_eq_ok, fromCiphertext_eq_ok, gt_iff_lt, Nat.not_lt]
  constructor
  · intro sealed
    rcases sealed with ⟨ephemeral, generated, _, ⟨contributory, rfl⟩, _, rfl, messageId, drawn,
      _, rfl, plaintextLen, sum, _, bounded, bodyLen, total, aad, encoded, ciphertext,
      encrypted, rfl, rfl, rfl, isEphemeral, rfl⟩
    have plaintextEq : plaintextLen = innerFrame.wireBytes.length + paddingLen := by
      unfold checkedAddSize at sum
      split at sum
      · exact (Option.some.inj sum).symm
      · cases sum
    subst plaintextEq
    rcases inRange bounded with ⟨_, totalEq, fits⟩
    rw [totalEq, Option.some.injEq] at total
    subst total
    rw [encodeAad_eq _ _ _ _ fits, Outcome.ok.injEq] at encoded
    subst encoded
    rw [Nat.add_sub_cancel_left, ← paddedBytes] at encrypted
    refine ⟨ephemeral, generated, contributory, drawn, bounded, rfl, rfl, isEphemeral, ?_⟩
    rw [length_paddedBytes]
    exact encrypted
  · intro sealed
    rcases sealed with ⟨ephemeral, generated, contributory, drawn, bounded, rfl, rfl,
      isEphemeral, encrypted⟩
    rcases inRange bounded with ⟨sum, total, fits⟩
    refine ⟨ephemeral, generated, _, ⟨contributory, rfl⟩, _, rfl, _, drawn, _, rfl, _, sum,
      ⟨⟩, bounded, _, total, _, encodeAad_eq _ _ _ _ fits, _, ?_, rfl, rfl, rfl, isEphemeral,
      rfl⟩
    rw [Nat.add_sub_cancel_left, ← paddedBytes, ← length_paddedBytes]
    exact encrypted

end

end OuterEnvelope

end Mef26
