import Mef26.Foundation.Codec
import Mef26.Frame

namespace Mef26

/-! # The wire form of inner frames -/

namespace FrameKind

theorem fromId_eq_ok {value : UInt8} {kind : FrameKind} :
    fromId value = .ok kind ↔ kind.id = value := by
  constructor
  · intro parsed
    unfold fromId at parsed
    split at parsed <;> cases parsed <;> rfl
  · intro same
    subst same
    exact fromId_id kind

theorem fromId_ne_panic (value : UInt8) : fromId value ≠ .panic := by
  unfold fromId
  split <;> simp

end FrameKind

theorem AeadSuite.fromId_ne_panic (value : UInt8) : AeadSuite.fromId value ≠ .panic := by
  unfold AeadSuite.fromId
  split <;> simp

namespace InnerFrame

def encode (frame : InnerFrame) : Result (List UInt8) := do
  let aad ← frame.aad
  let nonceEnd ← Outcome.okOr .invalidLength
    (checkedAddSize aad.length frame.ciphertext.nonce.length)
  let _ ← Outcome.okOr MefError.invalidLength
    (checkedAddSize nonceEnd frame.ciphertext.body.length)
  return aad ++ frame.ciphertext.nonce ++ frame.ciphertext.body

def wireLimit : Nat := maxCiphertextLen + (fixedHeaderLen + 24)

/-- Parses one frame from the beginning of a byte string, and tells how many bytes it
takes. -/
def decodePrefix (bytes : List UInt8) : Result (InnerFrame × Nat) := do
  Outcome.rejectIf (bytes.length < fixedHeaderLen ∨ bytes.length > wireLimit) .invalidFrame
  let magicBytes ← slice bytes 0 3
  Outcome.rejectIf (magicBytes ≠ magic) .invalidFrame
  let versionByte ← elementAt bytes 3
  Outcome.rejectIf (versionByte ≠ version) .invalidFrame
  let suiteId ← elementAt bytes 4
  let suite ← AeadSuite.fromId suiteId
  let kindId ← elementAt bytes 5
  let kind ← FrameKind.fromId kindId
  let sessionIdBytes ← slice bytes 6 38
  let sessionId ← copyArray .invalidFrame sessionIdLen sessionIdBytes
  let ratchetPublicBytes ← slice bytes 38 70
  let ratchetPublic ← copyArray .invalidFrame ratchetPublicLen ratchetPublicBytes
  let previousBytes ← slice bytes 70 74
  let previousChainLen ← copyArray .invalidFrame 4 previousBytes
  let numberBytes ← slice bytes 74 78
  let messageNumber ← copyArray .invalidFrame 4 numberBytes
  let nonceLenByte ← elementAt bytes 78
  let nonceLen := nonceLenByte.toNat
  let bodyLenBytes ← slice bytes 79 83
  let bodyLenArray ← copyArray .invalidFrame 4 bodyLenBytes
  let bodyLen := (fromBeBytes32 bodyLenArray).toNat
  Outcome.rejectIf
    (nonceLen ≠ suite.nonceLen ∨ ¬(aeadTagLen ≤ bodyLen ∧ bodyLen ≤ maxCiphertextLen))
    .invalidFrame
  let headerAndNonce ← Outcome.okOr .invalidLength (checkedAddSize fixedHeaderLen nonceLen)
  let expectedLen ← Outcome.okOr .invalidLength (checkedAddSize headerAndNonce bodyLen)
  Outcome.rejectIf (bytes.length < expectedLen) .invalidFrame
  let nonceEnd ← addSize fixedHeaderLen nonceLen
  let nonce ← slice bytes fixedHeaderLen nonceEnd
  let body ← slice bytes nonceEnd expectedLen
  let ciphertext ← Ciphertext.fromParts suite nonce body
  let frame ← fromCiphertext {
    kind, sessionId, ratchetPublic
    previousChainLen := fromBeBytes32 previousChainLen
    messageNumber := fromBeBytes32 messageNumber } ciphertext
  return (frame, expectedLen)

def decode (bytes : List UInt8) : Result InnerFrame := do
  let (frame, consumed) ← decodePrefix bytes
  Outcome.rejectIf (consumed ≠ bytes.length) .invalidFrame
  return frame

/-! ## Exactness -/

def wireBytes (frame : InnerFrame) : List UInt8 :=
  headerBytes frame.suite frame.header frame.ciphertext.body.length frame.suite.nonceLen ++
    (frame.ciphertext.nonce ++ frame.ciphertext.body)

theorem length_wireBytes (frame : InnerFrame) :
    frame.wireBytes.length =
      fixedHeaderLen + (frame.suite.nonceLen + frame.ciphertext.body.length) := by
  rw [wireBytes, List.length_append, List.length_append, length_headerBytes,
    frame.ciphertext.nonce_length]
  rfl

theorem length_wireBytes_le (frame : InnerFrame) : frame.wireBytes.length ≤ wireLimit := by
  have nonce := AeadSuite.nonceLen_le frame.suite
  have body := frame.ciphertext.body_le_limit
  rw [length_wireBytes, wireLimit]
  omega

@[simp] theorem encode_eq (frame : InnerFrame) : frame.encode = .ok frame.wireBytes := by
  have nonce := AeadSuite.nonceLen_le frame.suite
  have body := frame.ciphertext.body_le_limit
  have nonceLength : frame.ciphertext.nonce.length = frame.suite.nonceLen :=
    frame.ciphertext.nonce_length
  have first : checkedAddSize fixedHeaderLen frame.suite.nonceLen =
      some (fixedHeaderLen + frame.suite.nonceLen) :=
    if_pos (by simp only [fixedHeaderLen, sessionIdLen, ratchetPublicLen]; omega)
  have second : checkedAddSize (fixedHeaderLen + frame.suite.nonceLen)
      frame.ciphertext.body.length =
      some (fixedHeaderLen + frame.suite.nonceLen + frame.ciphertext.body.length) :=
    if_pos (by
      simp only [fixedHeaderLen, sessionIdLen, ratchetPublicLen, maxCiphertextLen] at *
      omega)
  rw [encode, aad_eq, Outcome.ok_bind, length_headerBytes, nonceLength, first,
    Outcome.okOr_some, Outcome.ok_bind, second, Outcome.okOr_some, Outcome.ok_bind,
    List.append_assoc]
  rfl

theorem decodePrefix_fields (magicField : FixedBytes 3) (versionByte suiteId kindId : UInt8)
    (sessionId ratchetPublic : FixedBytes 32) (previous number : FixedBytes 4)
    (nonceLen : UInt8) (bodyLen : FixedBytes 4) (rest bytes : List UInt8)
    (layout : bytes = magicField.bytes ++ (versionByte :: suiteId :: kindId ::
      (sessionId.bytes ++ (ratchetPublic.bytes ++ (previous.bytes ++ (number.bytes ++
      (nonceLen :: (bodyLen.bytes ++ rest)))))))) :
    decodePrefix bytes = do
      Outcome.rejectIf (bytes.length > wireLimit) .invalidFrame
      Outcome.rejectIf (magicField.bytes ≠ magic) .invalidFrame
      Outcome.rejectIf (versionByte ≠ version) .invalidFrame
      let suite ← AeadSuite.fromId suiteId
      let kind ← FrameKind.fromId kindId
      Outcome.rejectIf
        (nonceLen.toNat ≠ suite.nonceLen ∨ ¬(aeadTagLen ≤ (fromBeBytes32 bodyLen).toNat ∧
          (fromBeBytes32 bodyLen).toNat ≤ maxCiphertextLen)) .invalidFrame
      Outcome.rejectIf (rest.length < nonceLen.toNat + (fromBeBytes32 bodyLen).toNat)
        .invalidFrame
      let ciphertext ← Ciphertext.fromParts suite (rest.take nonceLen.toNat)
        ((rest.drop nonceLen.toNat).take (fromBeBytes32 bodyLen).toNat)
      return (⟨⟨kind, sessionId, ratchetPublic, fromBeBytes32 previous,
        fromBeBytes32 number⟩, ciphertext⟩,
        fixedHeaderLen + (nonceLen.toNat + (fromBeBytes32 bodyLen).toNat)) := by
  have header : fixedHeaderLen = 83 := rfl
  have length : bytes.length = 83 + rest.length := by
    rw [layout]
    simp only [List.length_append, FixedBytes.length_bytes, List.length_cons]
    omega
  have sized : (bytes.length < 83 ∨ bytes.length > wireLimit) ↔ bytes.length > wireLimit := by
    omega
  have fields : (slice bytes 0 3 : Result _) = .ok magicField.bytes ∧
      (elementAt bytes 3 : Result _) = .ok versionByte ∧
      (elementAt bytes 4 : Result _) = .ok suiteId ∧
      (elementAt bytes 5 : Result _) = .ok kindId ∧
      (slice bytes 6 38 : Result _) = .ok sessionId.bytes ∧
      (slice bytes 38 70 : Result _) = .ok ratchetPublic.bytes ∧
      (slice bytes 70 74 : Result _) = .ok previous.bytes ∧
      (slice bytes 74 78 : Result _) = .ok number.bytes ∧
      (elementAt bytes 78 : Result _) = .ok nonceLen ∧
      (slice bytes 79 83 : Result _) = .ok bodyLen.bytes := by
    rw [layout]
    simp (disch := decide) only [slice_skip, slice_cons, Nat.reduceSub, slice_field,
      elementAt_skip, elementAt_cons, elementAt_cons_zero, and_self]
  rcases fields with ⟨at0, at3, at4, at5, at6, at38, at70, at74, at78, at79⟩
  have nonceBound := nonceLen.toNat_lt
  have nonceEnd : (addSize 83 nonceLen.toNat : Result Nat) = .ok (83 + nonceLen.toNat) :=
    addSize_of_lt (by omega)
  rcases checkedAddSize_announced (by decide : 83 < 2 ^ 16) nonceLen bodyLen
    with ⟨nonceSum, total⟩
  have short : (bytes.length < 83 + nonceLen.toNat + (fromBeBytes32 bodyLen).toNat) ↔
      rest.length < nonceLen.toNat + (fromBeBytes32 bodyLen).toNat := by
    omega
  have drops : bytes.drop 83 = rest := by
    have regroup : bytes = (magicField.bytes ++ (versionByte :: suiteId :: kindId ::
        (sessionId.bytes ++ (ratchetPublic.bytes ++ (previous.bytes ++ (number.bytes ++
        (nonceLen :: bodyLen.bytes))))))) ++ rest := by
      rw [layout]
      simp only [List.append_assoc, List.cons_append]
    rw [regroup]
    exact List.drop_left' (by simp)
  unfold decodePrefix
  rw [header, Outcome.rejectIf_congr _ sized]
  congr 1
  funext _
  rw [at0, Outcome.ok_bind]
  congr 1
  funext _
  rw [at3, Outcome.ok_bind]
  congr 1
  funext _
  rw [at4, Outcome.ok_bind]
  congr 1
  funext suite
  rw [at5, Outcome.ok_bind]
  congr 1
  funext kind
  simp only [at6, at38, at70, at74, at78, at79, Outcome.ok_bind, copyArray_bytes]
  congr 1
  funext _
  rw [nonceSum, Outcome.okOr_some, Outcome.ok_bind, total, Outcome.okOr_some,
    Outcome.ok_bind, Outcome.rejectIf_congr _ short]
  by_cases cut : rest.length < nonceLen.toNat + (fromBeBytes32 bodyLen).toNat
  · rw [Outcome.rejectIf_of _ cut]
    rfl
  · have nonceSlice : (slice bytes 83 (83 + nonceLen.toNat) : Result _) =
        .ok (rest.take nonceLen.toNat) := by
      rw [slice_of_le (by omega) (by omega), drops, Nat.add_sub_cancel_left]
    have bodySlice : (slice bytes (83 + nonceLen.toNat)
        (83 + nonceLen.toNat + (fromBeBytes32 bodyLen).toNat) : Result _) =
        .ok ((rest.drop nonceLen.toNat).take (fromBeBytes32 bodyLen).toNat) := by
      rw [slice_of_le (by omega) (by omega), ← List.drop_drop, drops, Nat.add_sub_cancel_left]
    rw [Outcome.rejectIf_of_not _ cut, Outcome.ok_bind, Outcome.ok_bind, nonceEnd,
      Outcome.ok_bind, nonceSlice, Outcome.ok_bind, bodySlice, Outcome.ok_bind]
    congr 1
    funext ciphertext
    rw [fromCiphertext_eq, Outcome.ok_bind, Nat.add_assoc]

theorem length_of_decodePrefix {bytes : List UInt8} {result : InnerFrame × Nat}
    (decoded : decodePrefix bytes = .ok result) : fixedHeaderLen ≤ bytes.length := by
  by_contra short
  unfold decodePrefix at decoded
  rw [Outcome.rejectIf_of _ (.inl (Nat.not_le.mp short))] at decoded
  cases decoded

theorem exists_headerFields {bytes : List UInt8} (long : fixedHeaderLen ≤ bytes.length) :
    ∃ (magicField : FixedBytes 3) (versionByte suiteId kindId : UInt8)
      (sessionId ratchetPublic : FixedBytes 32) (previous number : FixedBytes 4)
      (nonceLen : UInt8) (bodyLen : FixedBytes 4) (rest : List UInt8),
      bytes = magicField.bytes ++ (versionByte :: suiteId :: kindId ::
        (sessionId.bytes ++ (ratchetPublic.bytes ++ (previous.bytes ++ (number.bytes ++
        (nonceLen :: (bodyLen.bytes ++ rest))))))) := by
  simp only [fixedHeaderLen, sessionIdLen, ratchetPublicLen] at long
  rcases exists_field (by omega : 3 ≤ bytes.length) with ⟨magicField, rest, rfl, length⟩
  rcases exists_byte (by omega : 0 < rest.length) with ⟨versionByte, rest, rfl, length⟩
  rcases exists_byte (by omega : 0 < rest.length) with ⟨suiteId, rest, rfl, length⟩
  rcases exists_byte (by omega : 0 < rest.length) with ⟨kindId, rest, rfl, length⟩
  rcases exists_field (by omega : 32 ≤ rest.length) with ⟨sessionId, rest, rfl, length⟩
  rcases exists_field (by omega : 32 ≤ rest.length) with ⟨ratchetPublic, rest, rfl, length⟩
  rcases exists_field (by omega : 4 ≤ rest.length) with ⟨previous, rest, rfl, length⟩
  rcases exists_field (by omega : 4 ≤ rest.length) with ⟨number, rest, rfl, length⟩
  rcases exists_byte (by omega : 0 < rest.length) with ⟨nonceLen, rest, rfl, length⟩
  rcases exists_field (by omega : 4 ≤ rest.length) with ⟨bodyLen, rest, rfl, length⟩
  exact ⟨magicField, versionByte, suiteId, kindId, sessionId, ratchetPublic, previous,
    number, nonceLen, bodyLen, rest, rfl⟩

theorem magic_length : magic.length = 3 := by decide

theorem headerBytes_fields (suite : AeadSuite) (header : FrameHeader) {bodyLen : Nat}
    (fits : bodyLen < UInt32.size) (rest : List UInt8) :
    headerBytes suite header bodyLen suite.nonceLen ++ rest =
      (⟨magic, magic_length⟩ : FixedBytes 3).bytes ++ (version :: suite.id ::
        header.kind.id :: (header.sessionId.bytes ++ (header.ratchetPublic.bytes ++
        ((beArray32 header.previousChainLen).bytes ++
        ((beArray32 header.messageNumber).bytes ++ (UInt8.ofNat suite.nonceLen ::
        ((beArray32 (.ofNat bodyLen)).bytes ++ rest))))))) := by
  simp only [headerBytes, bytes_beArray32, List.append_assoc, List.singleton_append]
  simp only [beBytes32, UInt32.toNat_ofNat_of_lt' fits]
  rfl

theorem decodePrefix_eq_ok {bytes : List UInt8} {frame : InnerFrame} {consumed : Nat} :
    decodePrefix bytes = .ok (frame, consumed) ↔
      bytes.length ≤ wireLimit ∧ consumed = frame.wireBytes.length ∧
        ∃ rest, bytes = frame.wireBytes ++ rest := by
  constructor
  · intro decoded
    rcases exists_headerFields (length_of_decodePrefix decoded)
      with ⟨magicField, versionByte, suiteId, kindId, sessionId, ratchetPublic, previous,
        number, nonceLen, bodyLen, rest, layout⟩
    rw [decodePrefix_fields _ _ _ _ _ _ _ _ _ _ _ _ layout] at decoded
    simp only [Outcome.bind_eq_ok, Outcome.rejectIf_eq_ok, AeadSuite.fromId_eq_ok,
      FrameKind.fromId_eq_ok, Ciphertext.fromParts_eq_ok, Outcome.pure_eq_ok,
      Outcome.ok.injEq, not_not, Nat.not_lt, not_or] at decoded
    rcases decoded with ⟨_, limit, _, isMagic, _, rfl, suite, rfl, kind, rfl, _,
      ⟨nonceEq, _, _⟩, _, inside, ciphertext, ⟨rfl, nonce, body⟩, same⟩
    cases same
    have bodyLength : ciphertext.body.length = (fromBeBytes32 bodyLen).toNat := by
      rw [body, List.length_take, List.length_drop]
      omega
    have nonceLength : UInt8.ofNat ciphertext.suite.nonceLen = nonceLen := by
      rw [← nonceEq, UInt8.ofNat_toNat]
    have bodyFits : ciphertext.body.length < UInt32.size := by
      rw [bodyLength]
      exact (fromBeBytes32 bodyLen).toNat_lt
    refine ⟨limit, ?_, rest.drop (nonceLen.toNat + (fromBeBytes32 bodyLen).toNat), ?_⟩
    · rw [length_wireBytes, suite, bodyLength, nonceEq]
    · have parts : rest = ciphertext.nonce ++ (ciphertext.body ++
          rest.drop (nonceLen.toNat + (fromBeBytes32 bodyLen).toNat)) := by
        rw [nonce, body, ← List.drop_drop, List.take_append_drop, List.take_append_drop]
      rw [wireBytes, List.append_assoc, suite, headerBytes_fields _ _ bodyFits,
        nonceLength, bodyLength, UInt32.ofNat_toNat, beArray32_fromBeBytes32,
        beArray32_fromBeBytes32, beArray32_fromBeBytes32, List.append_assoc, ← parts,
        layout, isMagic]
  · intro encoded
    rcases encoded with ⟨limit, rfl, rest, rfl⟩
    have bodyFits := frame.body_length_lt
    have bodyWord : (UInt32.ofNat frame.ciphertext.body.length).toNat =
        frame.ciphertext.body.length := UInt32.toNat_ofNat_of_lt' bodyFits
    have nonceByte : (UInt8.ofNat frame.suite.nonceLen).toNat = frame.suite.nonceLen :=
      UInt8.toNat_ofNat_of_lt'
        (Nat.lt_of_le_of_lt (AeadSuite.nonceLen_le frame.suite) (by decide))
    have nonceLength : frame.ciphertext.nonce.length = frame.suite.nonceLen :=
      frame.ciphertext.nonce_length
    have layout := headerBytes_fields frame.suite frame.header bodyFits
      (frame.ciphertext.nonce ++ (frame.ciphertext.body ++ rest))
    rw [← List.append_assoc, ← List.append_assoc, List.append_assoc (headerBytes _ _ _ _),
      ← wireBytes] at layout
    rw [decodePrefix_fields _ _ _ _ _ _ _ _ _ _ _ _ layout]
    simp only [Outcome.bind_eq_ok, Outcome.rejectIf_eq_ok, AeadSuite.fromId_eq_ok,
      FrameKind.fromId_eq_ok, Ciphertext.fromParts_eq_ok, Outcome.pure_eq_ok,
      Outcome.ok.injEq, not_not, Nat.not_lt, not_or, fromBeBytes32_beArray32, bodyWord,
      nonceByte]
    refine ⟨⟨⟩, limit, ⟨⟩, trivial, ⟨⟩, trivial, _, rfl, _, rfl, ⟨⟩,
      ⟨rfl, frame.ciphertext.tag_le_body, frame.ciphertext.body_le_limit⟩, ⟨⟩, ?_,
      frame.ciphertext, ⟨rfl, ?_, ?_⟩, ?_⟩
    · rw [List.length_append, List.length_append, nonceLength]
      omega
    · rw [← nonceLength, List.take_left]
    · rw [← nonceLength, List.drop_left, List.take_left]
    · rw [length_wireBytes]

theorem decode_eq_ok {bytes : List UInt8} {frame : InnerFrame} :
    decode bytes = .ok frame ↔ bytes = frame.wireBytes := by
  simp only [decode, Outcome.bind_eq_ok, Outcome.rejectIf_eq_ok, not_not, Outcome.pure_eq_ok,
    Outcome.ok.injEq, Prod.exists, decodePrefix_eq_ok]
  constructor
  · intro decoded
    rcases decoded with ⟨_, _, ⟨_, rfl, rest, rfl⟩, _, complete, rfl⟩
    rw [List.length_append] at complete
    rw [List.eq_nil_of_length_eq_zero (by omega : rest.length = 0), List.append_nil]
  · intro encoded
    rw [encoded]
    exact ⟨frame, _, ⟨frame.length_wireBytes_le, rfl, [], (List.append_nil _).symm⟩, ⟨⟩,
      rfl, rfl⟩

theorem decodePrefix_ne_panic (bytes : List UInt8) : decodePrefix bytes ≠ .panic := by
  by_cases long : fixedHeaderLen ≤ bytes.length
  · rcases exists_headerFields long with ⟨_, _, _, _, _, _, _, _, _, _, _, layout⟩
    rw [decodePrefix_fields _ _ _ _ _ _ _ _ _ _ _ _ layout]
    apply Outcome.rejectIf_bind_ne_panic
    apply Outcome.rejectIf_bind_ne_panic
    apply Outcome.rejectIf_bind_ne_panic
    apply Outcome.bind_ne_panic (AeadSuite.fromId_ne_panic _)
    intro suite _
    apply Outcome.bind_ne_panic (FrameKind.fromId_ne_panic _)
    intro kind _
    apply Outcome.rejectIf_bind_ne_panic
    apply Outcome.rejectIf_bind_ne_panic
    apply Outcome.bind_ne_panic (Ciphertext.fromParts_ne_panic _ _ _)
    intro ciphertext _
    simp
  · unfold decodePrefix
    rw [Outcome.rejectIf_of _ (.inl (Nat.not_le.mp long))]
    simp

theorem decode_ne_panic (bytes : List UInt8) : decode bytes ≠ .panic := by
  apply Outcome.bind_ne_panic (decodePrefix_ne_panic bytes)
  intro parsed _
  apply Outcome.rejectIf_bind_ne_panic
  simp

/-! ## The codec -/

theorem exact_decode : Codec.Exact wireBytes (fun _ => True) decode := by
  intro bytes frame
  rw [decode_eq_ok, and_true]

theorem exactPrefix_decodePrefix : Codec.ExactPrefix wireLimit wireBytes decodePrefix :=
  fun _ _ _ => decodePrefix_eq_ok

theorem prefixFree_wireBytes : Codec.PrefixFree wireBytes (fun _ => True) :=
  exactPrefix_decodePrefix.prefixFree length_wireBytes_le

/-- Encoding and parsing are inverse, and a frame ends where its header says. -/
theorem frameCodec_exact :
    Codec.Canonical encode (fun _ => True) decode ∧
    (∀ bytes frame consumed, decodePrefix bytes = .ok (frame, consumed) ↔
      bytes.length ≤ maxCiphertextLen + (fixedHeaderLen + 24) ∧ consumed ≤ bytes.length ∧
        frame.encode = .ok (bytes.take consumed)) ∧
    ∀ left right leftBytes rightBytes, encode left = .ok leftBytes →
      encode right = .ok rightBytes → leftBytes <+: rightBytes → leftBytes = rightBytes := by
  refine ⟨exact_decode.canonical prefixFree_wireBytes encode_eq decode_ne_panic, ?_, ?_⟩
  · intro bytes frame consumed
    rw [exactPrefix_decodePrefix.parse_eq_ok, encode_eq, Outcome.ok.injEq,
      eq_comm (b := bytes.take consumed)]
    rfl
  · intro left right leftBytes rightBytes leftEncoded rightEncoded leads
    rw [encode_eq] at leftEncoded rightEncoded
    cases leftEncoded
    cases rightEncoded
    rw [prefixFree_wireBytes left right trivial trivial leads]

end InnerFrame

end Mef26
