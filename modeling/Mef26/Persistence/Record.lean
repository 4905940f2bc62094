import Mef26.Persistence.Codec

namespace Mef26

/-! # The snapshot record around its ciphertext -/

namespace RatchetState

variable {P : Primitives (FixedBytes 32)}

def stateRecord (version : UInt8) (generation : UInt64) (ciphertext : Ciphertext) :
    List UInt8 :=
  stateMagic ++ (version :: (beBytes64 generation ++
    (UInt8.ofNat ciphertext.nonce.length :: (beBytes32 (.ofNat ciphertext.body.length) ++
      (ciphertext.nonce ++ ciphertext.body)))))

def aadLabel (version : UInt8) : List UInt8 :=
  if version = legacyStateVersion then aadLabelV1 else aadLabelV2

@[simp] theorem length_aadLabel (version : UInt8) : (aadLabel version).length = 24 := by
  unfold aadLabel
  split <;> decide

def ContextFits (context : List UInt8) : Prop :=
  24 + context.length ≤ maxAadLen

instance (context : List UInt8) : Decidable (ContextFits context) :=
  inferInstanceAs (Decidable (_ ≤ _))

theorem stateAad_eq_ok {context : List UInt8} {version : UInt8} {aad : List UInt8} :
    stateAad context version = .ok aad ↔
      ContextFits context ∧ aad = aadLabel version ++ context := by
  simp only [stateAad]
  rw [← aadLabel, length_aadLabel]
  by_cases small : 24 + context.length < 2 ^ 64
  · simp only [checkedAddSize, if_pos small, Outcome.okOr_some, Outcome.ok_bind,
      Outcome.bind_eq_ok, Outcome.rejectIf_eq_ok, Outcome.pure_eq_ok, Outcome.ok.injEq,
      gt_iff_lt, Nat.not_lt, ContextFits]
    constructor
    · intro returned
      rcases returned with ⟨_, fits, rfl⟩
      exact ⟨fits, rfl⟩
    · intro holds
      rcases holds with ⟨fits, rfl⟩
      exact ⟨⟨⟩, fits, rfl⟩
  · have large : ¬ContextFits context := by
      simp only [ContextFits, maxAadLen]
      omega
    simp only [checkedAddSize, if_neg small, Outcome.okOr_none, Outcome.err_bind, large,
      reduceCtorEq, false_and]

theorem sealState_eq_ok {entropy : Entropy} {key : StateSealKey} {context : List UInt8}
    {state : RatchetState P} {blob : List UInt8} :
    sealState entropy key context state = .ok blob ↔
      ContextFits context ∧ state.skipped.length ≤ maxSkippedKeys ∧
      ∃ ciphertext, sealCiphertext P entropy key .xChaCha20Poly1305
        (aadLabel stateVersion ++ context) (stateBytes state) = .ok ciphertext ∧
        blob = stateRecord stateVersion state.generation ciphertext := by
  have bodyFits (ciphertext : Ciphertext) : ¬UInt32.size ≤ ciphertext.body.length :=
    Nat.not_le.mpr (Nat.lt_of_le_of_lt ciphertext.body_le_limit (by decide))
  have nonceFits (ciphertext : Ciphertext) : ¬UInt8.size ≤ ciphertext.nonce.length := by
    have bound := AeadSuite.nonceLen_le ciphertext.suite
    rw [← ciphertext.nonce_length] at bound
    exact Nat.not_le.mpr (Nat.lt_of_le_of_lt bound (by decide))
  simp only [sealState, Outcome.bind_eq_ok, stateAad_eq_ok, encodeState_eq_ok,
    Outcome.rejectIf_eq_ok, bodyFits, nonceFits, not_false_eq_true, true_and,
    Outcome.pure_eq_ok, Outcome.ok.injEq]
  constructor
  · intro returned
    rcases returned with ⟨_, ⟨fits, rfl⟩, _, ⟨bounded, rfl⟩, ciphertext, sealed, _, _, rfl⟩
    exact ⟨fits, bounded, ciphertext, sealed, by simp [stateRecord]⟩
  · intro holds
    rcases holds with ⟨fits, bounded, ciphertext, sealed, rfl⟩
    exact ⟨_, ⟨fits, rfl⟩, _, ⟨bounded, rfl⟩, ciphertext, sealed, ⟨⟩, ⟨⟩,
      by simp [stateRecord]⟩

/-! ## Reading a record -/

theorem restoreState_layout {key : StateSealKey} {context : List UInt8} {floor : UInt64}
    (magicField : FixedBytes 3) (version : UInt8) (generation : FixedBytes 8)
    (nonceLen : UInt8) (bodyLen : FixedBytes 4) (nonce : FixedBytes 24)
    (body blob : List UInt8) (tag : 16 ≤ body.length)
    (layout : blob = magicField.bytes ++ (version :: (generation.bytes ++
      (nonceLen :: (bodyLen.bytes ++ (nonce.bytes ++ body)))))) :
    (restoreState key context floor blob : Result (RatchetState P)) = (do
      Outcome.rejectIf (magicField.bytes ≠ stateMagic) .invalidFrame
      Outcome.rejectIf (version ≠ legacyStateVersion ∧ version ≠ stateVersion) .invalidFrame
      Outcome.rejectIf (fromBeBytes64 generation < floor) .stateRollbackDetected
      Outcome.rejectIf (nonceLen.toNat ≠ 24 ∨ (fromBeBytes32 bodyLen).toNat ≠ body.length)
        .invalidFrame
      let ciphertext ← Ciphertext.fromParts .xChaCha20Poly1305 nonce.bytes body
      let aad ← stateAad context version
      let plaintext ← openCiphertext P key ciphertext aad
      decodeState plaintext (fromBeBytes64 generation) version) := by
  have length : blob.length = 41 + body.length := by
    rw [layout]
    simp only [List.length_append, FixedBytes.length_bytes, List.length_cons]
    omega
  have fields : (slice blob 0 3 : Result _) = .ok magicField.bytes ∧
      (elementAt blob 3 : Result _) = .ok version ∧
      (slice blob 4 12 : Result _) = .ok generation.bytes ∧
      (elementAt blob 12 : Result _) = .ok nonceLen ∧
      (slice blob 13 17 : Result _) = .ok bodyLen.bytes ∧
      (slice blob 17 41 : Result _) = .ok nonce.bytes := by
    rw [layout]
    simp (disch := decide) only [slice_skip, slice_cons, Nat.reduceSub, slice_field,
      elementAt_skip, elementAt_cons, elementAt_cons_zero, and_self]
  have at41 : (slice blob 41 blob.length : Result _) = .ok body := by
    rw [length, layout]
    simp (disch := omega) only [slice_skip, slice_cons, Nat.reduceSub]
    rw [show 41 + body.length - 3 - 1 - 8 - 1 - 4 - 24 = body.length by omega, slice_all]
  rcases fields with ⟨at0, at3, at4, at12, at13, at17⟩
  have headerLen : stateHeaderLen = 17 := rfl
  have nonceLenEq : stateNonceLen = 24 := rfl
  rcases checkedAddSize_announced (by decide : 17 < 2 ^ 16) nonceLen bodyLen
    with ⟨prefixSum, total⟩
  have sizes : (nonceLen.toNat ≠ 24 ∨
      17 + nonceLen.toNat + (fromBeBytes32 bodyLen).toNat ≠ blob.length) ↔
      (nonceLen.toNat ≠ 24 ∨ (fromBeBytes32 bodyLen).toNat ≠ body.length) := by
    omega
  unfold restoreState
  rw [headerLen, nonceLenEq, Outcome.rejectIf_of_not _ (by omega), Outcome.ok_bind, at0,
    Outcome.ok_bind]
  congr 1
  funext _
  rw [at3, Outcome.ok_bind]
  congr 1
  funext _
  rw [at4, Outcome.ok_bind, copyArray_bytes, Outcome.ok_bind]
  dsimp only
  congr 1
  funext _
  rw [at12, Outcome.ok_bind, at13, Outcome.ok_bind, copyArray_bytes, Outcome.ok_bind,
    prefixSum, Outcome.okOr_some, Outcome.ok_bind, total, Outcome.okOr_some,
    Outcome.ok_bind, Outcome.rejectIf_congr _ sizes]
  congr 1
  funext _
  rw [at17, Outcome.ok_bind, at41, Outcome.ok_bind]

theorem exists_layout {blob : List UInt8} (long : 57 ≤ blob.length) :
    ∃ (magicField : FixedBytes 3) (version : UInt8) (generation : FixedBytes 8)
      (nonceLen : UInt8) (bodyLen : FixedBytes 4) (nonce : FixedBytes 24)
      (body : List UInt8), 16 ≤ body.length ∧
      blob = magicField.bytes ++ (version :: (generation.bytes ++
        (nonceLen :: (bodyLen.bytes ++ (nonce.bytes ++ body))))) := by
  rcases exists_field (by omega : 3 ≤ blob.length) with ⟨magicField, rest, rfl, length⟩
  rcases exists_byte (by omega : 0 < rest.length) with ⟨version, rest, rfl, length⟩
  rcases exists_field (by omega : 8 ≤ rest.length) with ⟨generation, rest, rfl, length⟩
  rcases exists_byte (by omega : 0 < rest.length) with ⟨nonceLen, rest, rfl, length⟩
  rcases exists_field (by omega : 4 ≤ rest.length) with ⟨bodyLen, rest, rfl, length⟩
  rcases exists_field (by omega : 24 ≤ rest.length) with ⟨nonce, body, rfl, length⟩
  exact ⟨magicField, version, generation, nonceLen, bodyLen, nonce, body, by omega, rfl⟩

/-- A byte string restores exactly when it is a record at or above the floor
whose ciphertext opens to the encoding of the state. -/
theorem restoreState_eq_ok {key : StateSealKey} {context : List UInt8} {floor : UInt64}
    {blob : List UInt8} {state : RatchetState P} :
    restoreState key context floor blob = .ok state ↔
      ∃ version generation ciphertext plaintext,
        blob = stateRecord version generation ciphertext ∧
        ciphertext.suite = .xChaCha20Poly1305 ∧
        (version = legacyStateVersion ∨ version = stateVersion) ∧
        floor ≤ generation ∧ ContextFits context ∧
        openCiphertext P key ciphertext (aadLabel version ++ context) = .ok plaintext ∧
        decodeState plaintext generation version = .ok state := by
  constructor
  · intro restored
    have long : 57 ≤ blob.length := by
      by_contra short
      unfold restoreState at restored
      rw [Outcome.rejectIf_of _ (by simpa [stateHeaderLen, stateNonceLen] using short)]
        at restored
      cases restored
    rcases exists_layout long
        with ⟨magicField, version, generation, nonceLen, bodyLen, nonce, body, tag, layout⟩
    rw [restoreState_layout magicField version generation nonceLen bodyLen nonce body blob
      tag layout] at restored
    simp only [Outcome.bind_eq_ok, Outcome.rejectIf_eq_ok, not_not, not_and, not_or,
      Ciphertext.fromParts_eq_ok, stateAad_eq_ok, UInt64.not_lt] at restored
    rcases restored
        with ⟨_, magicEq, _, versionEq, _, floorLe, _, ⟨nonceLenEq, bodyLenEq⟩, ciphertext,
          ⟨suiteEq, nonceEq, bodyEq⟩, _, ⟨fits, rfl⟩, plaintext, opened, decoded⟩
    refine ⟨version, fromBeBytes64 generation, ciphertext, plaintext, ?_, suiteEq, ?_,
      floorLe, fits, opened, decoded⟩
    · have nonceByte : UInt8.ofNat ciphertext.nonce.length = nonceLen := by
        rw [nonceEq, nonce.length_bytes, ← nonceLenEq, UInt8.ofNat_toNat]
      rw [layout, stateRecord, magicEq, beBytes64_fromBeBytes64, nonceByte, bodyEq,
        ← bodyLenEq, UInt32.ofNat_toNat, beBytes32_fromBeBytes32, nonceEq]
    · by_contra neither
      rcases not_or.mp neither with ⟨notLegacy, notCurrent⟩
      exact notCurrent (versionEq notLegacy)
  · intro holds
    rcases holds with ⟨version, generation, ciphertext, plaintext, rfl, suiteEq, versionEq,
      floorLe, fits, opened, decoded⟩
    have nonceLength : ciphertext.nonce.length = 24 := by
      rw [ciphertext.nonce_length, suiteEq]
      rfl
    have bodyLen : (UInt32.ofNat ciphertext.body.length).toNat = ciphertext.body.length :=
      UInt32.toNat_ofNat_of_lt'
        (Nat.lt_of_le_of_lt ciphertext.body_le_limit (by decide))
    have magicLength : stateMagic.length = 3 := by decide
    rw [restoreState_layout ⟨stateMagic, magicLength⟩ version (beArray64 generation) 24
      (beArray32 (.ofNat ciphertext.body.length)) ⟨ciphertext.nonce, nonceLength⟩
      ciphertext.body _ ciphertext.tag_le_body (by rw [stateRecord, nonceLength]; rfl)]
    simp only [Outcome.bind_eq_ok, Outcome.rejectIf_eq_ok, Ciphertext.fromParts_eq_ok,
      stateAad_eq_ok, fromBeBytes64_beArray64, fromBeBytes32_beArray32, bodyLen,
      UInt64.not_lt]
    refine ⟨⟨⟩, not_not.mpr rfl, ⟨⟩, ?_, ⟨⟩, floorLe, ⟨⟩, ?_, ciphertext,
      ⟨suiteEq, rfl, rfl⟩, _, ⟨fits, rfl⟩, plaintext, opened, decoded⟩
    · intro holds
      rcases holds with ⟨notLegacy, notCurrent⟩
      exact versionEq.elim notLegacy notCurrent
    · intro either
      rcases either with wrong | wrong
      · exact wrong rfl
      · exact wrong rfl

/-- A record below the floor is refused before its ciphertext is looked at. -/
theorem restoreState_below_floor {key : StateSealKey} {context : List UInt8}
    {floor generation : UInt64} {version : UInt8} {ciphertext : Ciphertext}
    (suiteEq : ciphertext.suite = .xChaCha20Poly1305)
    (versionEq : version = legacyStateVersion ∨ version = stateVersion)
    (below : generation < floor) :
    (restoreState key context floor (stateRecord version generation ciphertext) :
      Result (RatchetState P)) = .err .stateRollbackDetected := by
  have nonceLength : ciphertext.nonce.length = 24 := by
    rw [ciphertext.nonce_length, suiteEq]
    rfl
  have magicLength : stateMagic.length = 3 := by decide
  rw [restoreState_layout ⟨stateMagic, magicLength⟩ version (beArray64 generation) 24
    (beArray32 (.ofNat ciphertext.body.length)) ⟨ciphertext.nonce, nonceLength⟩
    ciphertext.body _ ciphertext.tag_le_body (by rw [stateRecord, nonceLength]; rfl),
    Outcome.rejectIf_of_not _ (not_not.mpr rfl), Outcome.ok_bind,
    Outcome.rejectIf_of_not _ (not_and_or.mpr (versionEq.imp not_not.mpr not_not.mpr)),
    Outcome.ok_bind, fromBeBytes64_beArray64, Outcome.rejectIf_of _ below,
    Outcome.err_bind]

end RatchetState

end Mef26
