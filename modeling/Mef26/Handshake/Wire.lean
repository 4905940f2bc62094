import Mef26.Handshake.Values

namespace Mef26

/-! # Prekey bundles and initial messages on the wire -/

open Handshake

variable {Key : Type} (P : Primitives Key)

namespace Handshake

def bundleMagic : List UInt8 := utf8Bytes "MEB"

def messageLen : Nat := 3 + 1 + 32 + 32 + 64 + 32 + 32 + 4 + 1 + 4

def bundleLen : Nat := 3 + 1 + 32 + 32 + 64 + 4 + 32 + 8 + 64 + 1 + 4 + 32

end Handshake

def ResponderPrekeyBundle.encode (bundle : ResponderPrekeyBundle) : List UInt8 :=
  bundleMagic ++ [version] ++ bundle.identity.signing.bytes ++ bundle.identity.dh.bytes ++
    bundle.identity.signature.bytes ++ beBytes32 bundle.signedPrekey.keyId ++
    bundle.signedPrekey.publicKey.bytes ++ beBytes64 bundle.signedPrekey.expiresAtUnix ++
    bundle.signedPrekey.signature.bytes ++
    match bundle.oneTimePrekey with
    | some prekey => [1] ++ beBytes32 prekey.id ++ prekey.publicKey.bytes
    | none => [0] ++ beBytes32 0 ++ List.replicate 32 0

def ResponderPrekeyBundle.decodeOneTime (bytes : List UInt8) (flag : UInt8) :
    Result (Option OneTimePrekeyPublic) :=
  match flag with
  | 0 => do
      let padding ← slice bytes 241 277
      Outcome.rejectIf (padding ≠ List.replicate 36 0) .invalidFrame
      return none
  | 1 => do
      let idBytes ← slice bytes 241 245
      let id ← copyArray .invalidFrame 4 idBytes
      let publicBytes ← slice bytes 245 277
      let publicKey ← copyArray .invalidFrame 32 publicBytes
      return some { id := fromBeBytes32 id, publicKey }
  | _ => .err .invalidFrame

def ResponderPrekeyBundle.decode (bytes : List UInt8) : Result ResponderPrekeyBundle := do
  Outcome.rejectIf (bytes.length ≠ bundleLen) .invalidFrame
  let magicBytes ← slice bytes 0 3
  Outcome.rejectIf (magicBytes ≠ bundleMagic) .invalidFrame
  let versionByte ← elementAt bytes 3
  Outcome.rejectIf (versionByte ≠ version) .invalidFrame
  let signingBytes ← slice bytes 4 36
  let signingArray ← copyArray .invalidFrame 32 signingBytes
  let signing ← IdentityPublicKey.fromBytes P signingArray
  let dhBytes ← slice bytes 36 68
  let dh ← copyArray .invalidFrame 32 dhBytes
  let signatureBytes ← slice bytes 68 132
  let signature ← copyArray .invalidFrame 64 signatureBytes
  let identity : IdentityDhPublic := { signing, dh, signature }
  identity.verify P
  let keyIdBytes ← slice bytes 132 136
  let keyId ← copyArray .invalidFrame 4 keyIdBytes
  let prekeyBytes ← slice bytes 136 168
  let prekey ← copyArray .invalidFrame 32 prekeyBytes
  let expiresBytes ← slice bytes 168 176
  let expires ← copyArray .invalidFrame 8 expiresBytes
  let prekeySignatureBytes ← slice bytes 176 240
  let prekeySignature ← copyArray .invalidFrame 64 prekeySignatureBytes
  let flag ← elementAt bytes 240
  let oneTimePrekey ← decodeOneTime bytes flag
  return {
    identity
    signedPrekey := {
      keyId := fromBeBytes32 keyId
      publicKey := prekey
      expiresAtUnix := fromBeBytes64 expires
      signature := prekeySignature }
    oneTimePrekey }

def InitiatorHandshake.decodeOneTimeId (bytes : List UInt8) (flag : UInt8) :
    Result (Option UInt32) :=
  match flag with
  | 0 => do
      let padding ← slice bytes 201 205
      Outcome.rejectIf (padding ≠ List.replicate 4 0) .invalidFrame
      return none
  | 1 => do
      let idBytes ← slice bytes 201 205
      let id ← copyArray .invalidFrame 4 idBytes
      return some (fromBeBytes32 id)
  | _ => .err .invalidFrame

def InitiatorHandshake.decode (bytes : List UInt8) : Result InitiatorHandshake := do
  Outcome.rejectIf (bytes.length ≠ messageLen) .invalidFrame
  let magicBytes ← slice bytes 0 3
  Outcome.rejectIf (magicBytes ≠ magic) .invalidFrame
  let versionByte ← elementAt bytes 3
  Outcome.rejectIf (versionByte ≠ version) .invalidFrame
  let signingBytes ← slice bytes 4 36
  let signingArray ← copyArray .invalidFrame 32 signingBytes
  let signing ← IdentityPublicKey.fromBytes P signingArray
  let dhBytes ← slice bytes 36 68
  let dh ← copyArray .invalidFrame 32 dhBytes
  let signatureBytes ← slice bytes 68 132
  let signature ← copyArray .invalidFrame 64 signatureBytes
  let ephemeralBytes ← slice bytes 132 164
  let initiatorEphemeral ← copyArray .invalidFrame 32 ephemeralBytes
  let ratchetBytes ← slice bytes 164 196
  let initiatorRatchet ← copyArray .invalidFrame 32 ratchetBytes
  let signedIdBytes ← slice bytes 196 200
  let signedPrekeyId ← copyArray .invalidFrame 4 signedIdBytes
  let flag ← elementAt bytes 200
  let oneTimePrekeyId ← decodeOneTimeId bytes flag
  let initiatorIdentity : IdentityDhPublic := { signing, dh, signature }
  initiatorIdentity.verify P
  return {
    initiatorIdentity, initiatorEphemeral, initiatorRatchet
    signedPrekeyId := fromBeBytes32 signedPrekeyId
    oneTimePrekeyId }

theorem IdentityDhPublic.isKey_of_verify {identity : IdentityDhPublic}
    (verified : identity.verify P = .ok ⟨⟩) : P.ed25519IsKey identity.signing = true := by
  rcases Outcome.bind_eq_ok.mp verified with ⟨_, checked, _⟩
  exact not_not.mp (Outcome.rejectIf_eq_ok.mp checked)

theorem identityPublicWire_injective : Function.Injective identityPublicWire := by
  intro left right same
  simp only [identityPublicWire, List.append_assoc] at same
  rcases List.append_inj same (by simp) with ⟨signings, same⟩
  rcases List.append_inj same (by simp) with ⟨dhs, signatures⟩
  exact IdentityDhPublic.ext (FixedBytes.bytes_injective signings)
    (FixedBytes.bytes_injective dhs) (FixedBytes.bytes_injective signatures)

theorem exists_identityFields {bytes : List UInt8} (long : 132 ≤ bytes.length) :
    ∃ (magicField : FixedBytes 3) (versionByte : UInt8) (signing dh : FixedBytes 32)
      (signature : FixedBytes 64) (rest : List UInt8),
      bytes = magicField.bytes ++ (versionByte :: (signing.bytes ++ (dh.bytes ++
        (signature.bytes ++ rest)))) ∧ rest.length = bytes.length - 132 := by
  rcases exists_field (by omega : 3 ≤ bytes.length) with ⟨magicField, rest, rfl, length⟩
  rcases exists_byte (by omega : 0 < rest.length) with ⟨versionByte, rest, rfl, length⟩
  rcases exists_field (by omega : 32 ≤ rest.length) with ⟨signing, rest, rfl, length⟩
  rcases exists_field (by omega : 32 ≤ rest.length) with ⟨dh, rest, rfl, length⟩
  rcases exists_field (by omega : 64 ≤ rest.length) with ⟨signature, rest, rfl, length⟩
  exact ⟨magicField, versionByte, signing, dh, signature, rest, rfl, by omega⟩

theorem identityFields_inj {magicField : List UInt8} {versionByte : UInt8}
    {left right : IdentityDhPublic} {leftRest rightRest : List UInt8}
    (same : magicField ++ (versionByte :: (left.signing.bytes ++ (left.dh.bytes ++
        (left.signature.bytes ++ leftRest)))) =
      magicField ++ (versionByte :: (right.signing.bytes ++ (right.dh.bytes ++
        (right.signature.bytes ++ rightRest))))) :
    left = right ∧ leftRest = rightRest := by
  have same := List.tail_eq_of_cons_eq (List.append_cancel_left same)
  rcases List.append_inj same (by simp) with ⟨signings, same⟩
  rcases List.append_inj same (by simp) with ⟨dhs, same⟩
  rcases List.append_inj same (by simp) with ⟨signatures, same⟩
  exact ⟨IdentityDhPublic.ext (FixedBytes.bytes_injective signings)
    (FixedBytes.bytes_injective dhs) (FixedBytes.bytes_injective signatures), same⟩

/-! ## Messages -/

namespace InitiatorHandshake

variable {P}

theorem magic_length : magic.length = 3 := by decide

def oneTimeField : Option UInt32 → UInt8 × FixedBytes 4
  | some id => (1, beArray32 id)
  | none => (0, beArray32 0)

theorem encode_fields (message : InitiatorHandshake) :
    message.encode = (⟨magic, magic_length⟩ : FixedBytes 3).bytes ++ (version ::
      (message.initiatorIdentity.signing.bytes ++ (message.initiatorIdentity.dh.bytes ++
      (message.initiatorIdentity.signature.bytes ++ (message.initiatorEphemeral.bytes ++
      (message.initiatorRatchet.bytes ++ ((beArray32 message.signedPrekeyId).bytes ++
      ((oneTimeField message.oneTimePrekeyId).1 ::
        (oneTimeField message.oneTimePrekeyId).2.bytes)))))))) := by
  unfold encode oneTimeField
  cases message.oneTimePrekeyId <;>
    simp only [bytes_beArray32, List.append_assoc, List.singleton_append] <;> rfl

def oneTimeIdOf (flag : UInt8) (id : FixedBytes 4) : Result (Option UInt32) :=
  match flag with
  | 0 => do
      Outcome.rejectIf (id.bytes ≠ List.replicate 4 0) .invalidFrame
      return none
  | 1 => .ok (some (fromBeBytes32 id))
  | _ => .err .invalidFrame

theorem oneTimeIdOf_ne_panic (flag : UInt8) (id : FixedBytes 4) :
    oneTimeIdOf flag id ≠ .panic := by
  unfold oneTimeIdOf
  split
  · apply Outcome.rejectIf_bind_ne_panic
    simp
  · simp
  · simp

theorem oneTimeIdOf_eq_ok {flag : UInt8} {id : FixedBytes 4} {value : Option UInt32} :
    oneTimeIdOf flag id = .ok value ↔ oneTimeField value = (flag, id) := by
  have zeros : (beArray32 0).bytes = List.replicate 4 0 := by decide
  unfold oneTimeIdOf
  split
  · simp only [Outcome.bind_eq_ok, Outcome.rejectIf_eq_ok, Outcome.pure_eq_ok,
      Outcome.ok.injEq, not_not]
    cases value with
    | none =>
        simp only [oneTimeField, Prod.mk.injEq, true_and, and_true, exists_const]
        rw [← zeros, FixedBytes.bytes_inj, eq_comm]
    | some value => simp [oneTimeField]
  · cases value with
    | none => simp [oneTimeField]
    | some value =>
        simp only [oneTimeField, Outcome.ok.injEq, Option.some.injEq, Prod.mk.injEq, true_and]
        constructor
        · intro equal
          subst equal
          exact beArray32_fromBeBytes32 id
        · intro equal
          subst equal
          exact fromBeBytes32_beArray32 value
  · rename_i notZero notOne
    cases value with
    | none => simpa [oneTimeField] using fun same => absurd same (Ne.symm notZero)
    | some value => simpa [oneTimeField] using fun same => absurd same (Ne.symm notOne)

theorem decode_fields (magicField : FixedBytes 3) (versionByte : UInt8)
    (signing dh : FixedBytes 32) (signature : FixedBytes 64)
    (ephemeral ratchet : FixedBytes 32) (signedId : FixedBytes 4) (flag : UInt8)
    (id : FixedBytes 4) (bytes : List UInt8)
    (layout : bytes = magicField.bytes ++ (versionByte :: (signing.bytes ++ (dh.bytes ++
      (signature.bytes ++ (ephemeral.bytes ++ (ratchet.bytes ++ (signedId.bytes ++
      (flag :: id.bytes))))))))) :
    decode P bytes = (do
      Outcome.rejectIf (magicField.bytes ≠ magic) .invalidFrame
      Outcome.rejectIf (versionByte ≠ version) .invalidFrame
      let signing ← IdentityPublicKey.fromBytes P signing
      let oneTimePrekeyId ← oneTimeIdOf flag id
      let initiatorIdentity : IdentityDhPublic := { signing, dh, signature }
      initiatorIdentity.verify P
      return ⟨initiatorIdentity, ephemeral, ratchet, fromBeBytes32 signedId,
        oneTimePrekeyId⟩) := by
  have fields : (slice bytes 0 3 : Result _) = .ok magicField.bytes ∧
      (elementAt bytes 3 : Result _) = .ok versionByte ∧
      (slice bytes 4 36 : Result _) = .ok signing.bytes ∧
      (slice bytes 36 68 : Result _) = .ok dh.bytes ∧
      (slice bytes 68 132 : Result _) = .ok signature.bytes ∧
      (slice bytes 132 164 : Result _) = .ok ephemeral.bytes ∧
      (slice bytes 164 196 : Result _) = .ok ratchet.bytes ∧
      (slice bytes 196 200 : Result _) = .ok signedId.bytes ∧
      (elementAt bytes 200 : Result _) = .ok flag ∧
      (slice bytes 201 205 : Result _) = .ok id.bytes := by
    rw [layout]
    simp (disch := decide) only [slice_skip, slice_cons, Nat.reduceSub, slice_field,
      slice_bytes, elementAt_skip, elementAt_cons, elementAt_cons_zero, and_self]
  rcases fields
    with ⟨at0, at3, at4, at36, at68, at132, at164, at196, at200, at201⟩
  have length : ¬bytes.length ≠ messageLen := by
    rw [layout]
    simp [messageLen]
  have oneTime : decodeOneTimeId bytes flag = oneTimeIdOf flag id := by
    unfold decodeOneTimeId oneTimeIdOf
    rw [at201]
    split <;> simp
  unfold decode
  rw [Outcome.rejectIf_of_not _ length, Outcome.ok_bind, at0, Outcome.ok_bind]
  congr 1
  funext _
  rw [at3, Outcome.ok_bind]
  congr 1
  funext _
  simp only [at4, at36, at68, at132, at164, at196, at200, Outcome.ok_bind, copyArray_bytes,
    oneTime]

theorem exists_fields {bytes : List UInt8} (length : bytes.length = messageLen) :
    ∃ (magicField : FixedBytes 3) (versionByte : UInt8) (signing dh : FixedBytes 32)
      (signature : FixedBytes 64) (ephemeral ratchet : FixedBytes 32) (signedId : FixedBytes 4)
      (flag : UInt8) (id : FixedBytes 4),
      bytes = magicField.bytes ++ (versionByte :: (signing.bytes ++ (dh.bytes ++
        (signature.bytes ++ (ephemeral.bytes ++ (ratchet.bytes ++ (signedId.bytes ++
        (flag :: id.bytes)))))))) := by
  simp only [messageLen] at length
  rcases exists_identityFields (by omega : 132 ≤ bytes.length)
    with ⟨magicField, versionByte, signing, dh, signature, rest, rfl, length⟩
  rcases exists_field (by omega : 32 ≤ rest.length) with ⟨ephemeral, rest, rfl, length⟩
  rcases exists_field (by omega : 32 ≤ rest.length) with ⟨ratchet, rest, rfl, length⟩
  rcases exists_field (by omega : 4 ≤ rest.length) with ⟨signedId, rest, rfl, length⟩
  rcases exists_byte (by omega : 0 < rest.length) with ⟨flag, rest, rfl, length⟩
  exact ⟨magicField, versionByte, signing, dh, signature, ephemeral, ratchet, signedId, flag,
    ⟨rest, by omega⟩, rfl⟩

/-- The parser accepts exactly the encodings of messages whose identity binding holds. -/
theorem decode_eq_ok {bytes : List UInt8} {message : InitiatorHandshake} :
    decode P bytes = .ok message ↔
      bytes = message.encode ∧ message.initiatorIdentity.verify P = .ok ⟨⟩ := by
  constructor
  · intro decoded
    have length : bytes.length = messageLen := by
      by_contra other
      unfold decode at decoded
      rw [Outcome.rejectIf_of _ other] at decoded
      cases decoded
    rcases exists_fields length
      with ⟨magicField, versionByte, signing, dh, signature, ephemeral, ratchet, signedId,
        flag, id, layout⟩
    rw [decode_fields _ _ _ _ _ _ _ _ _ _ _ layout] at decoded
    simp only [Outcome.bind_eq_ok, Outcome.rejectIf_eq_ok, not_not,
      IdentityPublicKey.fromBytes, oneTimeIdOf_eq_ok, Outcome.pure_eq_ok,
      Outcome.ok.injEq] at decoded
    rcases decoded with ⟨_, isMagic, _, rfl, _, ⟨_, _, rfl⟩, oneTime, isOneTime, _, verified,
      rfl⟩
    refine ⟨?_, verified⟩
    rw [encode_fields, isOneTime, beArray32_fromBeBytes32, layout, isMagic]
  · intro encoded
    rcases encoded with ⟨encoded, verified⟩
    rw [encode_fields] at encoded
    rw [decode_fields _ _ _ _ _ _ _ _ _ _ _ encoded]
    have isKey := IdentityDhPublic.isKey_of_verify P verified
    simp only [Outcome.bind_eq_ok, Outcome.rejectIf_eq_ok, not_not,
      IdentityPublicKey.fromBytes, oneTimeIdOf_eq_ok, Outcome.pure_eq_ok, Outcome.ok.injEq,
      fromBeBytes32_beArray32]
    exact ⟨⟨⟩, trivial, ⟨⟩, trivial, _, ⟨⟨⟩, isKey, rfl⟩, message.oneTimePrekeyId, rfl, ⟨⟩,
      verified, rfl⟩

theorem oneTimeField_injective : Function.Injective oneTimeField := by
  intro left right same
  cases left with
  | none => cases right <;> simp_all [oneTimeField]
  | some id =>
      cases right with
      | none => simp [oneTimeField] at same
      | some other => exact congrArg some (beArray32_injective (Prod.mk.inj same).2)

theorem encode_injective : Function.Injective encode := by
  intro left right same
  rw [encode_fields, encode_fields] at same
  rcases identityFields_inj same with ⟨identities, same⟩
  rcases List.append_inj same (by simp) with ⟨ephemerals, same⟩
  rcases List.append_inj same (by simp) with ⟨ratchets, same⟩
  rcases List.append_inj same (by simp) with ⟨signedIds, same⟩
  rw [List.cons.injEq] at same
  have oneTimes := oneTimeField_injective
    (Prod.ext same.1 (FixedBytes.bytes_injective same.2))
  apply InitiatorHandshake.ext
  · exact identities
  · exact FixedBytes.bytes_injective ephemerals
  · exact FixedBytes.bytes_injective ratchets
  · exact beArray32_injective (FixedBytes.bytes_injective signedIds)
  · exact oneTimes

theorem decode_ne_panic (bytes : List UInt8) : decode P bytes ≠ .panic := by
  by_cases length : bytes.length = messageLen
  · rcases exists_fields length with ⟨_, _, _, _, _, _, _, _, flag, id, layout⟩
    rw [decode_fields _ _ _ _ _ _ _ _ _ _ _ layout]
    apply Outcome.rejectIf_bind_ne_panic
    apply Outcome.rejectIf_bind_ne_panic
    apply Outcome.bind_ne_panic (IdentityPublicKey.fromBytes_ne_panic _ _)
    intro signing _
    apply Outcome.bind_ne_panic (oneTimeIdOf_ne_panic flag id)
    intro oneTimePrekeyId _
    apply Outcome.bind_ne_panic (IdentityPublicKey.verify_ne_panic _ _ _ _)
    intro _ _
    simp
  · unfold decode
    rw [Outcome.rejectIf_of _ length]
    simp

end InitiatorHandshake

/-! ## Bundles -/

namespace ResponderPrekeyBundle

variable {P}

theorem bundleMagic_length : bundleMagic.length = 3 := by decide

def oneTimeField : Option OneTimePrekeyPublic → UInt8 × FixedBytes 4 × FixedBytes 32
  | some prekey => (1, beArray32 prekey.id, prekey.publicKey)
  | none => (0, beArray32 0, .replicate 32 0)

theorem encode_fields (bundle : ResponderPrekeyBundle) :
    bundle.encode = (⟨bundleMagic, bundleMagic_length⟩ : FixedBytes 3).bytes ++ (version ::
      (bundle.identity.signing.bytes ++ (bundle.identity.dh.bytes ++
      (bundle.identity.signature.bytes ++ ((beArray32 bundle.signedPrekey.keyId).bytes ++
      (bundle.signedPrekey.publicKey.bytes ++
      ((beArray64 bundle.signedPrekey.expiresAtUnix).bytes ++
      (bundle.signedPrekey.signature.bytes ++ ((oneTimeField bundle.oneTimePrekey).1 ::
        ((oneTimeField bundle.oneTimePrekey).2.1.bytes ++
        (oneTimeField bundle.oneTimePrekey).2.2.bytes)))))))))) := by
  unfold encode oneTimeField
  cases bundle.oneTimePrekey <;>
    simp only [bytes_beArray32, bytes_beArray64, List.append_assoc, List.singleton_append] <;>
    rfl

def oneTimeOf (flag : UInt8) (id : FixedBytes 4) (publicKey : FixedBytes 32) :
    Result (Option OneTimePrekeyPublic) :=
  match flag with
  | 0 => do
      Outcome.rejectIf (id.bytes ++ publicKey.bytes ≠ List.replicate 36 0) .invalidFrame
      return none
  | 1 => .ok (some { id := fromBeBytes32 id, publicKey })
  | _ => .err .invalidFrame

theorem oneTimeOf_ne_panic (flag : UInt8) (id : FixedBytes 4) (publicKey : FixedBytes 32) :
    oneTimeOf flag id publicKey ≠ .panic := by
  unfold oneTimeOf
  split
  · apply Outcome.rejectIf_bind_ne_panic
    simp
  · simp
  · simp

theorem oneTimeOf_eq_ok {flag : UInt8} {id : FixedBytes 4} {publicKey : FixedBytes 32}
    {value : Option OneTimePrekeyPublic} :
    oneTimeOf flag id publicKey = .ok value ↔ oneTimeField value = (flag, id, publicKey) := by
  have zeros : List.replicate 36 (0 : UInt8) =
      (beArray32 0).bytes ++ (FixedBytes.replicate 32 0).bytes := by decide
  unfold oneTimeOf
  split
  · simp only [Outcome.bind_eq_ok, Outcome.rejectIf_eq_ok, Outcome.pure_eq_ok,
      Outcome.ok.injEq, not_not]
    cases value with
    | none =>
        simp only [oneTimeField, Prod.mk.injEq, true_and, and_true, exists_const]
        constructor
        · intro padding
          rcases List.append_inj (padding.trans zeros) (by simp) with ⟨ids, keys⟩
          exact ⟨(FixedBytes.ext ids).symm, (FixedBytes.ext keys).symm⟩
        · intro fields
          rw [← fields.1, ← fields.2, zeros]
    | some value => simp [oneTimeField]
  · cases value with
    | none => simp [oneTimeField]
    | some value =>
        simp only [oneTimeField, Outcome.ok.injEq, Option.some.injEq, Prod.mk.injEq, true_and]
        constructor
        · intro same
          rw [← same]
          exact ⟨beArray32_fromBeBytes32 id, rfl⟩
        · intro fields
          rw [← fields.1, ← fields.2, fromBeBytes32_beArray32]
  · rename_i notZero notOne
    cases value with
    | none => simpa [oneTimeField] using fun same => absurd same (Ne.symm notZero)
    | some value => simpa [oneTimeField] using fun same => absurd same (Ne.symm notOne)

theorem decode_fields (magicField : FixedBytes 3) (versionByte : UInt8)
    (signing dh : FixedBytes 32) (signature : FixedBytes 64) (keyId : FixedBytes 4)
    (prekey : FixedBytes 32) (expires : FixedBytes 8) (prekeySignature : FixedBytes 64)
    (flag : UInt8) (id : FixedBytes 4) (publicKey : FixedBytes 32) (bytes : List UInt8)
    (layout : bytes = magicField.bytes ++ (versionByte :: (signing.bytes ++ (dh.bytes ++
      (signature.bytes ++ (keyId.bytes ++ (prekey.bytes ++ (expires.bytes ++
      (prekeySignature.bytes ++ (flag :: (id.bytes ++ publicKey.bytes))))))))))) :
    decode P bytes = (do
      Outcome.rejectIf (magicField.bytes ≠ bundleMagic) .invalidFrame
      Outcome.rejectIf (versionByte ≠ version) .invalidFrame
      let signing ← IdentityPublicKey.fromBytes P signing
      let identity : IdentityDhPublic := { signing, dh, signature }
      identity.verify P
      let oneTimePrekey ← oneTimeOf flag id publicKey
      return ⟨identity, ⟨fromBeBytes32 keyId, prekey, fromBeBytes64 expires, prekeySignature⟩,
        oneTimePrekey⟩) := by
  have length : bytes.length = 277 := by
    rw [layout]
    simp
  have fields : (slice bytes 0 3 : Result _) = .ok magicField.bytes ∧
      (elementAt bytes 3 : Result _) = .ok versionByte ∧
      (slice bytes 4 36 : Result _) = .ok signing.bytes ∧
      (slice bytes 36 68 : Result _) = .ok dh.bytes ∧
      (slice bytes 68 132 : Result _) = .ok signature.bytes ∧
      (slice bytes 132 136 : Result _) = .ok keyId.bytes ∧
      (slice bytes 136 168 : Result _) = .ok prekey.bytes ∧
      (slice bytes 168 176 : Result _) = .ok expires.bytes ∧
      (slice bytes 176 240 : Result _) = .ok prekeySignature.bytes ∧
      (elementAt bytes 240 : Result _) = .ok flag ∧
      (slice bytes 241 245 : Result _) = .ok id.bytes ∧
      (slice bytes 245 277 : Result _) = .ok publicKey.bytes := by
    rw [layout]
    simp (disch := decide) only [slice_skip, slice_cons, Nat.reduceSub, slice_field,
      slice_bytes, elementAt_skip, elementAt_cons, elementAt_cons_zero, and_self]
  rcases fields
    with ⟨at0, at3, at4, at36, at68, at132, at136, at168, at176, at240, at241, at245⟩
  have padding : (slice bytes 241 277 : Result _) = .ok (id.bytes ++ publicKey.bytes) := by
    rw [layout]
    simp (disch := decide) only [slice_skip, slice_cons, Nat.reduceSub]
    have whole : (slice (id.bytes ++ publicKey.bytes) 0 (id.bytes ++ publicKey.bytes).length :
      Result _) = _ := slice_all _
    simpa using whole
  have oneTime : decodeOneTime bytes flag = oneTimeOf flag id publicKey := by
    unfold decodeOneTime oneTimeOf
    rw [padding, at241, at245]
    split <;> simp
  have sized : ¬bytes.length ≠ bundleLen := not_not.mpr length
  unfold decode
  rw [Outcome.rejectIf_of_not _ sized, Outcome.ok_bind, at0, Outcome.ok_bind]
  congr 1
  funext _
  rw [at3, Outcome.ok_bind]
  congr 1
  funext _
  simp only [at4, at36, at68, at132, at136, at168, at176, at240, Outcome.ok_bind,
    copyArray_bytes, oneTime]

theorem exists_fields {bytes : List UInt8} (length : bytes.length = bundleLen) :
    ∃ (magicField : FixedBytes 3) (versionByte : UInt8) (signing dh : FixedBytes 32)
      (signature : FixedBytes 64) (keyId : FixedBytes 4) (prekey : FixedBytes 32)
      (expires : FixedBytes 8) (prekeySignature : FixedBytes 64) (flag : UInt8)
      (id : FixedBytes 4) (publicKey : FixedBytes 32),
      bytes = magicField.bytes ++ (versionByte :: (signing.bytes ++ (dh.bytes ++
        (signature.bytes ++ (keyId.bytes ++ (prekey.bytes ++ (expires.bytes ++
        (prekeySignature.bytes ++ (flag :: (id.bytes ++ publicKey.bytes)))))))))) := by
  simp only [bundleLen] at length
  rcases exists_identityFields (by omega : 132 ≤ bytes.length)
    with ⟨magicField, versionByte, signing, dh, signature, rest, rfl, length⟩
  rcases exists_field (by omega : 4 ≤ rest.length) with ⟨keyId, rest, rfl, length⟩
  rcases exists_field (by omega : 32 ≤ rest.length) with ⟨prekey, rest, rfl, length⟩
  rcases exists_field (by omega : 8 ≤ rest.length) with ⟨expires, rest, rfl, length⟩
  rcases exists_field (by omega : 64 ≤ rest.length) with ⟨prekeySignature, rest, rfl, length⟩
  rcases exists_byte (by omega : 0 < rest.length) with ⟨flag, rest, rfl, length⟩
  rcases exists_field (by omega : 4 ≤ rest.length) with ⟨id, rest, rfl, length⟩
  exact ⟨magicField, versionByte, signing, dh, signature, keyId, prekey, expires,
    prekeySignature, flag, id, ⟨rest, by omega⟩, rfl⟩

/-- The parser accepts exactly the encodings of bundles whose identity binding holds. -/
theorem decode_eq_ok {bytes : List UInt8} {bundle : ResponderPrekeyBundle} :
    decode P bytes = .ok bundle ↔
      bytes = bundle.encode ∧ bundle.identity.verify P = .ok ⟨⟩ := by
  constructor
  · intro decoded
    have length : bytes.length = bundleLen := by
      by_contra other
      unfold decode at decoded
      rw [Outcome.rejectIf_of _ other] at decoded
      cases decoded
    rcases exists_fields length
      with ⟨magicField, versionByte, signing, dh, signature, keyId, prekey, expires,
        prekeySignature, flag, id, publicKey, layout⟩
    rw [decode_fields _ _ _ _ _ _ _ _ _ _ _ _ _ layout] at decoded
    simp only [Outcome.bind_eq_ok, Outcome.rejectIf_eq_ok, not_not,
      IdentityPublicKey.fromBytes, oneTimeOf_eq_ok, Outcome.pure_eq_ok,
      Outcome.ok.injEq] at decoded
    rcases decoded with ⟨_, isMagic, _, rfl, _, ⟨_, _, rfl⟩, _, verified, oneTime, isOneTime,
      rfl⟩
    refine ⟨?_, verified⟩
    rw [encode_fields, isOneTime, beArray32_fromBeBytes32, beArray64_fromBeBytes64, layout,
      isMagic]
  · intro encoded
    rcases encoded with ⟨encoded, verified⟩
    rw [encode_fields] at encoded
    rw [decode_fields _ _ _ _ _ _ _ _ _ _ _ _ _ encoded]
    have isKey := IdentityDhPublic.isKey_of_verify P verified
    simp only [Outcome.bind_eq_ok, Outcome.rejectIf_eq_ok, not_not,
      IdentityPublicKey.fromBytes, oneTimeOf_eq_ok, Outcome.pure_eq_ok, Outcome.ok.injEq,
      fromBeBytes32_beArray32, fromBeBytes64_beArray64]
    exact ⟨⟨⟩, trivial, ⟨⟩, trivial, _, ⟨⟨⟩, isKey, rfl⟩, ⟨⟩, verified, bundle.oneTimePrekey,
      rfl, rfl⟩

theorem oneTimeField_injective : Function.Injective oneTimeField := by
  intro left right same
  cases left with
  | none => cases right <;> simp_all [oneTimeField]
  | some prekey =>
      cases right with
      | none => simp [oneTimeField] at same
      | some other =>
          simp only [oneTimeField, Prod.mk.injEq] at same
          exact congrArg some (OneTimePrekeyPublic.ext (beArray32_injective same.2.1) same.2.2)

theorem encode_injective : Function.Injective encode := by
  intro left right same
  rw [encode_fields, encode_fields] at same
  rcases identityFields_inj same with ⟨identities, same⟩
  rcases List.append_inj same (by simp) with ⟨keyIds, same⟩
  rcases List.append_inj same (by simp) with ⟨publicKeys, same⟩
  rcases List.append_inj same (by simp) with ⟨expiries, same⟩
  rcases List.append_inj same (by simp) with ⟨prekeySignatures, same⟩
  rw [List.cons.injEq] at same
  rcases List.append_inj same.2 (by simp) with ⟨ids, keys⟩
  have oneTimes := oneTimeField_injective (Prod.ext same.1
    (Prod.ext (FixedBytes.bytes_injective ids) (FixedBytes.bytes_injective keys)))
  apply ResponderPrekeyBundle.ext
  · exact identities
  · exact SignedPrekey.ext (beArray32_injective (FixedBytes.bytes_injective keyIds))
      (FixedBytes.bytes_injective publicKeys)
      (beArray64_injective (FixedBytes.bytes_injective expiries))
      (FixedBytes.bytes_injective prekeySignatures)
  · exact oneTimes

theorem decode_ne_panic (bytes : List UInt8) : decode P bytes ≠ .panic := by
  by_cases length : bytes.length = bundleLen
  · rcases exists_fields length with ⟨_, _, _, _, _, _, _, _, _, flag, id, publicKey, layout⟩
    rw [decode_fields _ _ _ _ _ _ _ _ _ _ _ _ _ layout]
    apply Outcome.rejectIf_bind_ne_panic
    apply Outcome.rejectIf_bind_ne_panic
    apply Outcome.bind_ne_panic (IdentityPublicKey.fromBytes_ne_panic _ _)
    intro signing _
    apply Outcome.bind_ne_panic (IdentityPublicKey.verify_ne_panic _ _ _ _)
    intro _ _
    apply Outcome.bind_ne_panic (oneTimeOf_ne_panic flag id publicKey)
    intro oneTimePrekey _
    simp
  · unfold decode
    rw [Outcome.rejectIf_of _ length]
    simp

end ResponderPrekeyBundle

end Mef26
