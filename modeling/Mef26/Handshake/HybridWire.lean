import Mef26.Handshake.Hybrid

namespace Mef26

/-! # Hybrid bundles and messages on the wire

Both formats are a header and parts behind their lengths. -/

variable {Key : Type} {P : Primitives Key} {K : MlKem768 Key}

namespace Hybrid

theorem magic_length : magic.length = 3 := by decide

/-- What both parsers do first: where the first part ends, and where the second begins. -/
def front (bytes : List UInt8) : Result (Nat × Nat) := do
  Outcome.rejectIf (bytes.length < 8) .invalidFrame
  let magicBytes ← slice bytes 0 3
  Outcome.rejectIf (magicBytes ≠ Hybrid.magic) .invalidFrame
  let versionByte ← elementAt bytes 3
  Outcome.rejectIf (versionByte ≠ Hybrid.version) .invalidFrame
  let firstLenBytes ← slice bytes 4 6
  let firstLen ← copyArray .invalidFrame 2 firstLenBytes
  let firstEnd ← Outcome.okOr .invalidLength
    (checkedAddSize 6 (fromBeBytes16 firstLen).toNat)
  let secondStart ← addSize firstEnd 2
  Outcome.rejectIf (bytes.length < secondStart) .invalidFrame
  return (firstEnd, secondStart)

theorem checkedAddSize_of_lt {start : Nat} (length : UInt16) (small : start < 2 ^ 32) :
    checkedAddSize start length.toNat = some (start + length.toNat) := by
  have bound := length.toNat_lt
  exact if_pos (by omega)

theorem front_fields (magicField : FixedBytes 3) (versionByte : UInt8)
    (firstLen : FixedBytes 2) (rest bytes : List UInt8) (long : 2 ≤ rest.length)
    (layout : bytes = magicField.bytes ++ (versionByte :: (firstLen.bytes ++ rest))) :
    front bytes = (do
      Outcome.rejectIf (magicField.bytes ≠ Hybrid.magic) .invalidFrame
      Outcome.rejectIf (versionByte ≠ Hybrid.version) .invalidFrame
      Outcome.rejectIf (rest.length < (fromBeBytes16 firstLen).toNat + 2) .invalidFrame
      return (6 + (fromBeBytes16 firstLen).toNat,
        6 + (fromBeBytes16 firstLen).toNat + 2)) := by
  have length : bytes.length = 6 + rest.length := by
    rw [layout]
    simp only [List.length_append, List.length_cons, FixedBytes.length_bytes]
    omega
  have fields : (slice bytes 0 3 : Result _) = .ok magicField.bytes ∧
      (elementAt bytes 3 : Result _) = .ok versionByte ∧
      (slice bytes 4 6 : Result _) = .ok firstLen.bytes := by
    rw [layout]
    simp (disch := decide) only [slice_skip, slice_cons, Nat.reduceSub, slice_field,
      elementAt_skip, elementAt_cons_zero, Nat.sub_self, and_self]
  rcases fields with ⟨at0, at3, at4⟩
  have sum := checkedAddSize_of_lt (fromBeBytes16 firstLen) (by decide : 6 < 2 ^ 32)
  have bound := (fromBeBytes16 firstLen).toNat_lt
  have start : (addSize (6 + (fromBeBytes16 firstLen).toNat) 2 : Result Nat) =
      .ok (6 + (fromBeBytes16 firstLen).toNat + 2) := if_pos (by omega)
  have inside : bytes.length < 6 + (fromBeBytes16 firstLen).toNat + 2 ↔
      rest.length < (fromBeBytes16 firstLen).toNat + 2 := by
    omega
  unfold front
  rw [Outcome.rejectIf_of_not _ (by omega), Outcome.ok_bind, at0, Outcome.ok_bind]
  congr 1
  funext _
  rw [at3, Outcome.ok_bind]
  congr 1
  funext _
  rw [at4, Outcome.ok_bind, copyArray_bytes, Outcome.ok_bind, sum, Outcome.okOr_some,
    Outcome.ok_bind, start, Outcome.ok_bind, Outcome.rejectIf_congr _ inside]

theorem exists_header {bytes : List UInt8} (long : 8 ≤ bytes.length) :
    ∃ (magicField : FixedBytes 3) (versionByte : UInt8) (firstLen : FixedBytes 2)
      (rest : List UInt8), 2 ≤ rest.length ∧
      bytes = magicField.bytes ++ (versionByte :: (firstLen.bytes ++ rest)) := by
  rcases exists_field (by omega : 3 ≤ bytes.length) with ⟨magicField, rest, rfl, length⟩
  rcases exists_byte (by omega : 0 < rest.length) with ⟨versionByte, rest, rfl, length⟩
  rcases exists_field (by omega : 2 ≤ rest.length) with ⟨firstLen, rest, rfl, length⟩
  exact ⟨magicField, versionByte, firstLen, rest, by omega, rfl⟩

theorem front_of_short {bytes : List UInt8} (short : ¬8 ≤ bytes.length) :
    front bytes = .err .invalidFrame := by
  unfold front
  rw [Outcome.rejectIf_of _ (Nat.not_le.mp short)]
  rfl

theorem front_ne_panic (bytes : List UInt8) : front bytes ≠ .panic := by
  by_cases long : 8 ≤ bytes.length
  · rcases exists_header long with ⟨magicField, versionByte, firstLen, rest, long, layout⟩
    rw [front_fields _ _ _ _ _ long layout]
    apply Outcome.rejectIf_bind_ne_panic
    apply Outcome.rejectIf_bind_ne_panic
    apply Outcome.rejectIf_bind_ne_panic
    simp
  · rw [front_of_short long]
    simp

/-- A first part behind its length, the length of a second part, and what follows. -/
structure Parts where
  firstLen : FixedBytes 2
  secondLen : FixedBytes 2
  first : List UInt8
  rest : List UInt8
  sized : first.length = (fromBeBytes16 firstLen).toNat

namespace Parts

variable (parts : Parts)

def bytes : List UInt8 :=
  magic ++ (version :: (parts.firstLen.bytes ++ (parts.first ++
    (parts.secondLen.bytes ++ parts.rest))))

def firstEnd : Nat := 6 + (fromBeBytes16 parts.firstLen).toNat

def before : List UInt8 := magic ++ (version :: parts.firstLen.bytes) ++ parts.first

theorem length_before : parts.before.length = parts.firstEnd := by
  have magicLength := magic_length
  have sized := parts.sized
  simp only [before, firstEnd, List.length_append, List.length_cons, FixedBytes.length_bytes]
  omega

theorem bytes_eq : parts.bytes = parts.before ++ parts.secondLen.bytes ++ parts.rest := by
  simp only [bytes, before, List.append_assoc, List.cons_append]

theorem length_bytes : parts.bytes.length = parts.firstEnd + 2 + parts.rest.length := by
  rw [bytes_eq, List.length_append, List.length_append, length_before,
    parts.secondLen.length_bytes]

theorem firstEnd_lt : parts.firstEnd + 2 < 2 ^ 32 := by
  have bound := (fromBeBytes16 parts.firstLen).toNat_lt
  rw [firstEnd]
  omega

theorem front_eq : front parts.bytes = .ok (parts.firstEnd, parts.firstEnd + 2) := by
  have sized := parts.sized
  have long : ¬(parts.first ++ (parts.secondLen.bytes ++ parts.rest)).length <
      (fromBeBytes16 parts.firstLen).toNat + 2 := by
    simp only [List.length_append, FixedBytes.length_bytes]
    omega
  rw [front_fields ⟨magic, magic_length⟩ version parts.firstLen _ parts.bytes (by omega) rfl,
    Outcome.rejectIf_of_not _ (not_not.mpr rfl), Outcome.ok_bind,
    Outcome.rejectIf_of_not _ (not_not.mpr rfl), Outcome.ok_bind,
    Outcome.rejectIf_of_not _ long]
  rfl

theorem slice_first : (slice parts.bytes 6 parts.firstEnd : Result _) = .ok parts.first := by
  have header : (magic ++ (version :: parts.firstLen.bytes)).length = 6 := by
    simp [magic_length]
  rw [bytes_eq, before, List.append_assoc]
  exact slice_append _ parts.first _ header.symm (by rw [header, parts.sized, firstEnd])

theorem slice_secondLen :
    (slice parts.bytes parts.firstEnd (parts.firstEnd + 2) : Result _) =
      .ok parts.secondLen.bytes := by
  rw [bytes_eq]
  exact slice_append _ parts.secondLen.bytes _ parts.length_before.symm
    (by rw [parts.length_before, parts.secondLen.length_bytes])

theorem drop_eq : parts.bytes.drop (parts.firstEnd + 2) = parts.rest := by
  rw [bytes_eq]
  exact List.drop_left'
    (by rw [List.length_append, parts.length_before, parts.secondLen.length_bytes])

end Parts

theorem exists_parts {bytes : List UInt8} {ends : Nat × Nat}
    (parsed : front bytes = .ok ends) : ∃ parts : Parts, bytes = parts.bytes := by
  by_cases long : 8 ≤ bytes.length
  · rcases exists_header long with ⟨magicField, versionByte, firstLen, rest, long, layout⟩
    rw [front_fields _ _ _ _ _ long layout] at parsed
    simp only [Outcome.bind_eq_ok, Outcome.rejectIf_eq_ok, not_not, Nat.not_lt] at parsed
    rcases parsed with ⟨_, isMagic, _, isVersion, _, inside, _⟩
    rcases exists_field (by omega : (fromBeBytes16 firstLen).toNat ≤ rest.length)
        with ⟨first, rest, rfl, length⟩
    rcases exists_field (by omega : 2 ≤ rest.length) with ⟨secondLen, rest, rfl, _⟩
    rw [isMagic, isVersion] at layout
    exact ⟨⟨firstLen, secondLen, first.bytes, rest, first.length_bytes⟩, layout⟩
  · rw [front_of_short long] at parsed
    cases parsed

end Hybrid

/-! ## Messages -/

namespace HybridInitiatorHandshake

theorem decode_eq_front (bytes : List UInt8) :
    decode P bytes = (do
      let (classicalEnd, ciphertextStart) ← Hybrid.front bytes
      let classicalBytes ← slice bytes 6 classicalEnd
      let classical ← InitiatorHandshake.decode P classicalBytes
      let ciphertextLenBytes ← slice bytes classicalEnd ciphertextStart
      let ciphertextLen ← copyArray .invalidFrame 2 ciphertextLenBytes
      let ciphertextEnd ← Outcome.okOr .invalidLength
        (checkedAddSize ciphertextStart (fromBeBytes16 ciphertextLen).toNat)
      Outcome.rejectIf (ciphertextEnd ≠ bytes.length) .invalidFrame
      let ciphertextBytes ← slice bytes ciphertextStart ciphertextEnd
      let pqCiphertext ← MlKem768Ciphertext.fromBytes ciphertextBytes
      return { classical, pqCiphertext }) := by
  unfold decode Hybrid.front
  simp only [Outcome.bind_assoc, Outcome.pure_eq_ok, Outcome.ok_bind]

theorem decode_parts (parts : Hybrid.Parts) :
    decode P parts.bytes = (do
      let classical ← InitiatorHandshake.decode P parts.first
      Outcome.rejectIf ((fromBeBytes16 parts.secondLen).toNat ≠ parts.rest.length)
        .invalidFrame
      let pqCiphertext ← MlKem768Ciphertext.fromBytes parts.rest
      return { classical, pqCiphertext }) := by
  have length := parts.length_bytes
  have drops := parts.drop_eq
  have total := Hybrid.checkedAddSize_of_lt (fromBeBytes16 parts.secondLen) parts.firstEnd_lt
  have whole : (parts.firstEnd + 2 + (fromBeBytes16 parts.secondLen).toNat ≠
      parts.bytes.length) ↔ (fromBeBytes16 parts.secondLen).toNat ≠ parts.rest.length := by
    omega
  rw [decode_eq_front, parts.front_eq, Outcome.ok_bind]
  dsimp only
  rw [parts.slice_first, Outcome.ok_bind]
  congr 1
  funext classical
  rw [parts.slice_secondLen, Outcome.ok_bind, copyArray_bytes, Outcome.ok_bind, total,
    Outcome.okOr_some, Outcome.ok_bind, Outcome.rejectIf_congr _ whole]
  by_cases fits : (fromBeBytes16 parts.secondLen).toNat = parts.rest.length
  · have body : (slice parts.bytes (parts.firstEnd + 2)
        (parts.firstEnd + 2 + (fromBeBytes16 parts.secondLen).toNat) : Result _) =
        .ok parts.rest := by
      rw [slice_of_le (by omega) (by omega), drops, Nat.add_sub_cancel_left, fits,
        List.take_length]
    rw [Outcome.rejectIf_of_not _ (not_not.mpr fits), Outcome.ok_bind, Outcome.ok_bind, body,
      Outcome.ok_bind]
  · rw [Outcome.rejectIf_of _ fits]
    rfl

theorem exists_parts_of_decode {bytes : List UInt8} {message : HybridInitiatorHandshake}
    (decoded : decode P bytes = .ok message) : ∃ parts : Hybrid.Parts, bytes = parts.bytes := by
  rw [decode_eq_front] at decoded
  rcases Outcome.bind_eq_ok.mp decoded with ⟨_, parsed, _⟩
  exact Hybrid.exists_parts parsed

theorem decode_ne_panic (bytes : List UInt8) : decode P bytes ≠ .panic := by
  cases parsed : Hybrid.front bytes with
  | panic => exact absurd parsed (Hybrid.front_ne_panic bytes)
  | err error => simp [decode_eq_front, parsed]
  | ok ends =>
      rcases Hybrid.exists_parts parsed with ⟨parts, rfl⟩
      rw [decode_parts]
      apply Outcome.bind_ne_panic (InitiatorHandshake.decode_ne_panic _)
      intro classical _
      apply Outcome.rejectIf_bind_ne_panic
      apply Outcome.bind_ne_panic (copyArray_ne_panic _ _ _)
      intro pqCiphertext _
      simp

theorem lengths (message : HybridInitiatorHandshake) :
    (fromBeBytes16 (beArray16 (.ofNat message.classical.encode.length))).toNat = 205 ∧
      (fromBeBytes16 (beArray16 (.ofNat message.pqCiphertext.bytes.length))).toNat = 1088 := by
  rw [fromBeBytes16_beArray16, fromBeBytes16_beArray16, InitiatorHandshake.length_encode,
    message.pqCiphertext.length_bytes]
  decide

def parts (message : HybridInitiatorHandshake) : Hybrid.Parts where
  firstLen := beArray16 (.ofNat message.classical.encode.length)
  secondLen := beArray16 (.ofNat message.pqCiphertext.bytes.length)
  first := message.classical.encode
  rest := message.pqCiphertext.bytes
  sized := by rw [message.lengths.1, InitiatorHandshake.length_encode]

theorem encode_eq_parts (message : HybridInitiatorHandshake) :
    message.encode = message.parts.bytes := by
  simp only [encode, lengthPrefixed, parts, Hybrid.Parts.bytes, bytes_beArray16,
    List.append_assoc, List.cons_append, List.nil_append]

/-- The parser accepts exactly the encodings of messages whose identity binding holds. -/
theorem decode_eq_ok {bytes : List UInt8} {message : HybridInitiatorHandshake} :
    decode P bytes = .ok message ↔
      bytes = message.encode ∧ message.classical.initiatorIdentity.verify P = .ok ⟨⟩ := by
  constructor
  · intro decoded
    rcases exists_parts_of_decode decoded with ⟨read, rfl⟩
    rw [decode_parts] at decoded
    simp only [Outcome.bind_eq_ok, Outcome.rejectIf_eq_ok, not_not,
      InitiatorHandshake.decode_eq_ok, MlKem768Ciphertext.fromBytes, copyArray_eq_ok,
      Outcome.pure_eq_ok, Outcome.ok.injEq] at decoded
    rcases decoded with ⟨classical, ⟨isFirst, verified⟩, _, length, ciphertext, isRest, rfl⟩
    refine ⟨?_, verified⟩
    have firstEq : beArray16 (.ofNat classical.encode.length) = read.firstLen := by
      rw [← isFirst, read.sized, UInt16.ofNat_toNat, beArray16_fromBeBytes16]
    have secondEq : beArray16 (.ofNat ciphertext.bytes.length) = read.secondLen := by
      rw [← isRest, ← length, UInt16.ofNat_toNat, beArray16_fromBeBytes16]
    rw [encode_eq_parts]
    simp only [parts, Hybrid.Parts.bytes, firstEq, secondEq, isFirst, isRest]
  · intro encoded
    rcases encoded with ⟨rfl, verified⟩
    rw [encode_eq_parts, decode_parts]
    simp only [Outcome.bind_eq_ok, Outcome.rejectIf_eq_ok, not_not,
      InitiatorHandshake.decode_eq_ok, MlKem768Ciphertext.fromBytes, copyArray_eq_ok,
      Outcome.pure_eq_ok, Outcome.ok.injEq]
    exact ⟨_, ⟨rfl, verified⟩, ⟨⟩,
      message.lengths.2.trans message.pqCiphertext.length_bytes.symm, message.pqCiphertext,
      rfl, rfl⟩

end HybridInitiatorHandshake

/-! ## Bundles -/

@[simp] theorem ResponderPrekeyBundle.length_encode (bundle : ResponderPrekeyBundle) :
    bundle.encode.length = 277 := by
  rw [encode_fields]
  simp [bundleMagic_length]

variable (P) in
def transcriptOf (classical : ResponderPrekeyBundle) (pqPublic : MlKem768PublicKey) :
    List UInt8 :=
  (P.blake3 (blake3Input Hybrid.transcriptLabel
    [.ofBytes classical.encode, .ofBytes pqPublic.bytes])).bytes

theorem bindingTranscript_eq (classical : ResponderPrekeyBundle)
    (pqPublic : MlKem768PublicKey) :
    bindingTranscript P classical pqPublic = .ok (transcriptOf P classical pqPublic) := by
  have short : ∀ part ∈ ([.ofBytes classical.encode, .ofBytes pqPublic.bytes] :
      List (KeyMaterial Key)), KeyMaterial.byteLength part ≤ maxCiphertextLen := by
    simp [maxCiphertextLen]
  unfold bindingTranscript
  rw [blake3Id_eq P (by decide) short]
  rfl

namespace HybridResponderPrekeyBundle

theorem decode_eq_front (bytes : List UInt8) :
    decode P K bytes = (do
      let (classicalEnd, pqStart) ← Hybrid.front bytes
      let classicalBytes ← slice bytes 6 classicalEnd
      let classical ← ResponderPrekeyBundle.decode P classicalBytes
      let pqLenBytes ← slice bytes classicalEnd pqStart
      let pqLen ← copyArray .invalidFrame 2 pqLenBytes
      let pqEnd ← Outcome.okOr .invalidLength
        (checkedAddSize pqStart (fromBeBytes16 pqLen).toNat)
      let signatureEnd ← Outcome.okOr .invalidLength (checkedAddSize pqEnd 64)
      Outcome.rejectIf (signatureEnd ≠ bytes.length) .invalidFrame
      let pqBytes ← slice bytes pqStart pqEnd
      let pqPublic ← MlKem768PublicKey.fromBytes K pqBytes
      let signatureBytes ← slice bytes pqEnd signatureEnd
      let pqSignature ← copyArray .invalidFrame 64 signatureBytes
      let transcript ← bindingTranscript P classical pqPublic
      classical.identity.verifySignature P transcript pqSignature
      return { classical, pqPublic, pqSignature }) := by
  unfold decode Hybrid.front
  simp only [Outcome.bind_assoc, Outcome.pure_eq_ok, Outcome.ok_bind]

theorem decode_parts (parts : Hybrid.Parts) :
    decode P K parts.bytes = (do
      let classical ← ResponderPrekeyBundle.decode P parts.first
      Outcome.rejectIf ((fromBeBytes16 parts.secondLen).toNat + 64 ≠ parts.rest.length)
        .invalidFrame
      let pqPublic ← MlKem768PublicKey.fromBytes K
        (parts.rest.take (fromBeBytes16 parts.secondLen).toNat)
      let pqSignature ← copyArray .invalidFrame 64
        (parts.rest.drop (fromBeBytes16 parts.secondLen).toNat)
      classical.identity.verifySignature P (transcriptOf P classical pqPublic) pqSignature
      return { classical, pqPublic, pqSignature }) := by
  have length := parts.length_bytes
  have drops := parts.drop_eq
  have small := parts.firstEnd_lt
  have bound := (fromBeBytes16 parts.secondLen).toNat_lt
  have total := Hybrid.checkedAddSize_of_lt (fromBeBytes16 parts.secondLen) small
  have last : checkedAddSize
      (parts.firstEnd + 2 + (fromBeBytes16 parts.secondLen).toNat) 64 =
      some (parts.firstEnd + 2 + (fromBeBytes16 parts.secondLen).toNat + 64) :=
    if_pos (by omega)
  have whole : (parts.firstEnd + 2 + (fromBeBytes16 parts.secondLen).toNat + 64 ≠
      parts.bytes.length) ↔
      (fromBeBytes16 parts.secondLen).toNat + 64 ≠ parts.rest.length := by
    omega
  rw [decode_eq_front, parts.front_eq, Outcome.ok_bind]
  dsimp only
  rw [parts.slice_first, Outcome.ok_bind]
  congr 1
  funext classical
  rw [parts.slice_secondLen, Outcome.ok_bind, copyArray_bytes, Outcome.ok_bind, total,
    Outcome.okOr_some, Outcome.ok_bind, last, Outcome.okOr_some, Outcome.ok_bind,
    Outcome.rejectIf_congr _ whole]
  by_cases fits : (fromBeBytes16 parts.secondLen).toNat + 64 = parts.rest.length
  · have key : (slice parts.bytes (parts.firstEnd + 2)
        (parts.firstEnd + 2 + (fromBeBytes16 parts.secondLen).toNat) : Result _) =
        .ok (parts.rest.take (fromBeBytes16 parts.secondLen).toNat) := by
      rw [slice_of_le (by omega) (by omega), drops, Nat.add_sub_cancel_left]
    have signature : (slice parts.bytes
        (parts.firstEnd + 2 + (fromBeBytes16 parts.secondLen).toNat)
        (parts.firstEnd + 2 + (fromBeBytes16 parts.secondLen).toNat + 64) : Result _) =
        .ok (parts.rest.drop (fromBeBytes16 parts.secondLen).toNat) := by
      rw [slice_of_le (by omega) (by omega), ← List.drop_drop, drops, Nat.add_sub_cancel_left]
      exact congrArg _ (List.take_of_length_le (by rw [List.length_drop]; omega))
    simp only [Outcome.rejectIf_of_not _ (not_not.mpr fits), Outcome.ok_bind, key, signature,
      bindingTranscript_eq]
  · rw [Outcome.rejectIf_of _ fits]
    rfl

theorem exists_parts_of_decode {bytes : List UInt8} {bundle : HybridResponderPrekeyBundle}
    (decoded : decode P K bytes = .ok bundle) :
    ∃ parts : Hybrid.Parts, bytes = parts.bytes := by
  rw [decode_eq_front] at decoded
  rcases Outcome.bind_eq_ok.mp decoded with ⟨_, parsed, _⟩
  exact Hybrid.exists_parts parsed

theorem decode_ne_panic (bytes : List UInt8) : decode P K bytes ≠ .panic := by
  cases parsed : Hybrid.front bytes with
  | panic => exact absurd parsed (Hybrid.front_ne_panic bytes)
  | err error => simp [decode_eq_front, parsed]
  | ok ends =>
      rcases Hybrid.exists_parts parsed with ⟨parts, rfl⟩
      rw [decode_parts]
      apply Outcome.bind_ne_panic (ResponderPrekeyBundle.decode_ne_panic _)
      intro classical _
      apply Outcome.rejectIf_bind_ne_panic
      apply Outcome.bind_ne_panic (MlKem768PublicKey.fromBytes_ne_panic _ _)
      intro pqPublic _
      apply Outcome.bind_ne_panic (copyArray_ne_panic _ _ _)
      intro pqSignature _
      apply Outcome.bind_ne_panic (IdentityPublicKey.verify_ne_panic _ _ _ _)
      intro _ _
      simp

theorem lengths (bundle : HybridResponderPrekeyBundle) :
    (fromBeBytes16 (beArray16 (.ofNat bundle.classical.encode.length))).toNat = 277 ∧
      (fromBeBytes16 (beArray16 (.ofNat bundle.pqPublic.bytes.length))).toNat = 1184 := by
  rw [fromBeBytes16_beArray16, fromBeBytes16_beArray16, ResponderPrekeyBundle.length_encode,
    bundle.pqPublic.length_bytes]
  decide

def parts (bundle : HybridResponderPrekeyBundle) : Hybrid.Parts where
  firstLen := beArray16 (.ofNat bundle.classical.encode.length)
  secondLen := beArray16 (.ofNat bundle.pqPublic.bytes.length)
  first := bundle.classical.encode
  rest := bundle.pqPublic.bytes ++ bundle.pqSignature.bytes
  sized := by rw [bundle.lengths.1, ResponderPrekeyBundle.length_encode]

theorem encode_eq_parts (bundle : HybridResponderPrekeyBundle) :
    bundle.encode = bundle.parts.bytes := by
  simp only [encode, lengthPrefixed, parts, Hybrid.Parts.bytes, bytes_beArray16,
    List.append_assoc, List.cons_append, List.nil_append]

/-- The parser accepts exactly the encodings of bundles whose identity binding and
ML-KEM binding hold. -/
theorem decode_eq_ok {bytes : List UInt8} {bundle : HybridResponderPrekeyBundle} :
    decode P K bytes = .ok bundle ↔
      bytes = bundle.encode ∧ bundle.classical.identity.verify P = .ok ⟨⟩ ∧
        K.isEncapsulationKey bundle.pqPublic = true ∧
        bundle.classical.identity.verifySignature P
          (transcriptOf P bundle.classical bundle.pqPublic) bundle.pqSignature = .ok ⟨⟩ := by
  constructor
  · intro decoded
    rcases exists_parts_of_decode decoded with ⟨read, rfl⟩
    rw [decode_parts] at decoded
    simp only [Outcome.bind_eq_ok, Outcome.rejectIf_eq_ok, not_not,
      ResponderPrekeyBundle.decode_eq_ok, MlKem768PublicKey.fromBytes, copyArray_eq_ok,
      Outcome.pure_eq_ok, Outcome.ok.injEq] at decoded
    rcases decoded with ⟨classical, ⟨isFirst, verified⟩, _, length, _,
      ⟨pqPublic, key, _, isKey, rfl⟩, pqSignature, signature, _, bound, rfl⟩
    refine ⟨?_, verified, isKey, bound⟩
    have keyLength : pqPublic.bytes.length = (fromBeBytes16 read.secondLen).toNat := by
      rw [← key, List.length_take]
      omega
    have firstEq : beArray16 (.ofNat classical.encode.length) = read.firstLen := by
      rw [← isFirst, read.sized, UInt16.ofNat_toNat, beArray16_fromBeBytes16]
    have secondEq : beArray16 (.ofNat pqPublic.bytes.length) = read.secondLen := by
      rw [keyLength, UInt16.ofNat_toNat, beArray16_fromBeBytes16]
    have isRest : pqPublic.bytes ++ pqSignature.bytes = read.rest := by
      rw [← key, ← signature, List.take_append_drop]
    rw [encode_eq_parts]
    simp only [parts, Hybrid.Parts.bytes, firstEq, secondEq, isFirst, isRest]
  · intro encoded
    rcases encoded with ⟨rfl, verified, isKey, bound⟩
    have secondLength : (fromBeBytes16 bundle.parts.secondLen).toNat = 1184 :=
      bundle.lengths.2
    have keyLength := bundle.pqPublic.length_bytes
    rw [encode_eq_parts, decode_parts]
    simp only [Outcome.bind_eq_ok, Outcome.rejectIf_eq_ok, not_not,
      ResponderPrekeyBundle.decode_eq_ok, MlKem768PublicKey.fromBytes, copyArray_eq_ok,
      Outcome.pure_eq_ok, Outcome.ok.injEq, secondLength]
    refine ⟨bundle.classical, ⟨rfl, verified⟩, ⟨⟩, by simp [parts], bundle.pqPublic,
      ⟨_, List.take_left' keyLength, ⟨⟩, isKey, rfl⟩, bundle.pqSignature,
      List.drop_left' keyLength, ⟨⟩, bound, rfl⟩

end HybridResponderPrekeyBundle

end Mef26
