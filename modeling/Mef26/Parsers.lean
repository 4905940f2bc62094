import Mef26.Envelope.Outer
import Mef26.Handshake.HybridWire
import Mef26.Persistence.Record

namespace Mef26

/-! # Parsers on arbitrary input

A slice, an index or an unchecked sum that is out of range ends a call in a panic. No
parser gets there, whatever bytes it is given. -/

namespace RatchetState

variable {P : Primitives (FixedBytes 32)}

/-! ## Snapshots -/

/-- Every round of the loop reads one entry, and the entries that remain lie inside. -/
theorem decodeEntries_ne_panic {bytes : List UInt8} {fixedLen : Nat} (remaining index : Nat)
    (skipped : List (SkippedMessageKey (FixedBytes 32)))
    (inside : fixedLen + (index + remaining) * 68 ≤ bytes.length)
    (small : fixedLen + (index + remaining) * 68 < 2 ^ 64) :
    decodeEntries bytes fixedLen remaining index skipped ≠ .panic := by
  induction remaining generalizing index skipped with
  | zero => simp [decodeEntries]
  | succ remaining induction =>
      have entry : fixedLen + index * 68 + 68 ≤ fixedLen + (index + (remaining + 1)) * 68 := by
        omega
      rw [decodeEntries]
      apply Outcome.bind_ne_panic (Outcome.okOr_ne_panic _ _)
      intro distance product
      have distanceEq : distance = index * 68 := by
        rw [checkedMulSize, if_pos (by omega)] at product
        exact (Outcome.ok.inj product).symm
      subst distance
      rw [addSize_of_lt (by omega), Outcome.ok_bind, addSize_of_lt (by omega), Outcome.ok_bind]
      apply readArray_bind_ne_panic (by omega) (by omega)
      intro remoteDh
      rw [Outcome.ok_bind, addSize_of_lt (by omega), Outcome.ok_bind]
      apply readArray_bind_ne_panic (by omega) (by omega)
      intro messageNumber
      apply Outcome.rejectIf_bind_ne_panic
      rw [Outcome.ok_bind, addSize_of_lt (by omega), Outcome.ok_bind]
      apply readArray_bind_ne_panic (by omega) (by omega)
      intro key
      exact induction (index + 1) _ (by omega) (by omega)

theorem plaintextFixedLen_ne_panic (version : UInt8) : plaintextFixedLen version ≠ .panic := by
  unfold plaintextFixedLen
  split
  · simp
  · split <;> simp

/-- Where the entry count of a snapshot stands: inside its fixed part, and behind its suite
byte if it has one. -/
theorem suiteAndCountOffset_ne_panic {bytes : List UInt8} {version : UInt8} {fixedLen : Nat}
    (fixed : plaintextFixedLen version = .ok fixedLen) (long : fixedLen ≤ bytes.length) :
    suiteAndCountOffset bytes version ≠ .panic ∧
      206 ≤ fixedLen ∧ fixedLen ≤ 207 ∧
      ∀ suite countOffset, suiteAndCountOffset bytes version = .ok (suite, countOffset) →
        countOffset + 2 = fixedLen := by
  unfold plaintextFixedLen at fixed
  unfold suiteAndCountOffset
  split at fixed
  · rename_i legacy
    cases fixed
    rw [if_pos legacy]
    refine ⟨by simp, by decide, by decide, ?_⟩
    intro suite countOffset same
    cases same
    rfl
  · rename_i notLegacy
    split at fixed
    · cases fixed
      rw [if_neg notLegacy]
      refine ⟨?_, by decide, by decide, ?_⟩
      · apply Outcome.bind_ne_panic (elementAt_ne_panic ?_)
        · intro suiteId _
          apply Outcome.bind_ne_panic (AeadSuite.fromId_ne_panic _)
          intro suite _
          simp
        · exact Nat.lt_of_lt_of_le (by decide : 204 < plaintextFixedLenV2) long
      · intro suite countOffset returned
        simp only [Outcome.bind_eq_ok, Outcome.pure_eq_ok, Outcome.ok.injEq,
          Prod.mk.injEq] at returned
        rcases returned with ⟨_, _, _, _, _, rfl⟩
        rfl
    · cases fixed

theorem decodeState_ne_panic (bytes : List UInt8) (generation : UInt64) (version : UInt8) :
    (decodeState bytes generation version : Result (RatchetState P)) ≠ .panic := by
  unfold decodeState
  apply Outcome.bind_ne_panic (plaintextFixedLen_ne_panic version)
  intro fixedLen fixed
  by_cases short : bytes.length < fixedLen
  · rw [Outcome.rejectIf_of _ short]
    simp
  rw [Outcome.rejectIf_of_not _ short, Outcome.ok_bind]
  have long := Nat.not_lt.mp short
  rcases suiteAndCountOffset_ne_panic fixed long with ⟨located, atLeast, atMost, offsetOf⟩
  apply Outcome.bind_ne_panic located
  intro located selected
  rcases located with ⟨suite, countOffset⟩
  have offset := offsetOf suite countOffset selected
  dsimp only
  rw [addSize_of_lt (by omega), Outcome.ok_bind]
  apply readArray_bind_ne_panic (by omega) (by omega)
  intro count
  have countBound := (fromBeBytes16 count).toNat_lt
  have total : checkedAddSize fixedLen ((fromBeBytes16 count).toNat * 68) =
      some (fixedLen + (fromBeBytes16 count).toNat * 68) := if_pos (by omega)
  rw [checkedMulSize, if_pos (by omega)]
  apply Outcome.rejectIf_bind_ne_panic
  rw [Outcome.okOr_some, Outcome.ok_bind, total, Outcome.okOr_some, Outcome.ok_bind]
  by_cases sized : bytes.length = fixedLen + (fromBeBytes16 count).toNat * 68
  · rw [Outcome.rejectIf_of_not _ (not_not.mpr sized), Outcome.ok_bind]
    iterate 9
      apply readArray_bind_ne_panic (by decide) (by omega)
      intro _
    rw [Outcome.ok_bind]
    apply readArray_bind_ne_panic (by omega) (by omega)
    intro encodedCount
    apply Outcome.rejectIf_bind_ne_panic
    apply Outcome.bind_ne_panic (decodeEntries_ne_panic _ 0 [] (by omega) (by omega))
    intro skipped _
    simp
  · rw [Outcome.rejectIf_of _ sized]
    simp

theorem stateAad_ne_panic (context : List UInt8) (version : UInt8) :
    stateAad context version ≠ .panic := by
  unfold stateAad
  apply Outcome.bind_ne_panic (Outcome.okOr_ne_panic _ _)
  intro capacity _
  apply Outcome.rejectIf_bind_ne_panic
  simp

theorem restoreState_ne_panic (key : StateSealKey) (context : List UInt8) (floor : UInt64)
    (blob : List UInt8) :
    (restoreState key context floor blob : Result (RatchetState P)) ≠ .panic := by
  by_cases long : 57 ≤ blob.length
  · rcases exists_layout long with ⟨_, version, _, _, _, _, _, tag, layout⟩
    rw [restoreState_layout _ _ _ _ _ _ _ _ tag layout]
    apply Outcome.rejectIf_bind_ne_panic
    apply Outcome.rejectIf_bind_ne_panic
    apply Outcome.rejectIf_bind_ne_panic
    apply Outcome.rejectIf_bind_ne_panic
    apply Outcome.bind_ne_panic (Ciphertext.fromParts_ne_panic _ _ _)
    intro ciphertext _
    apply Outcome.bind_ne_panic (stateAad_ne_panic context version)
    intro aad _
    apply Outcome.bind_ne_panic (openCiphertext_ne_panic _ _ _)
    intro plaintext _
    exact decodeState_ne_panic plaintext _ version
  · have short : blob.length < stateHeaderLen + stateNonceLen + 16 := Nat.not_le.mp long
    unfold restoreState
    rw [Outcome.rejectIf_of _ short]
    simp

end RatchetState

/-! ## All parsers -/

/-- On every input every parser returns: no slice or index is out of bounds, no sum
overflows, and what comes back is a value or an error. The primitives are arbitrary, so
that the authenticated plaintexts are arbitrary byte strings as well. -/
theorem parsers_return {Key : Type} (P : Primitives Key) (K : MlKem768 Key)
    (Q : Primitives (FixedBytes 32)) :
    (∀ bytes, (InnerFrame.decode bytes).Returns) ∧
    (∀ bytes, (InnerFrame.decodePrefix bytes).Returns) ∧
    (∀ bytes, (OuterEnvelope.decode bytes).Returns) ∧
    (∀ bytes, (InitiatorHandshake.decode P bytes).Returns) ∧
    (∀ bytes, (ResponderPrekeyBundle.decode P bytes).Returns) ∧
    (∀ bytes, (HybridInitiatorHandshake.decode P bytes).Returns) ∧
    (∀ bytes, (HybridResponderPrekeyBundle.decode P K bytes).Returns) ∧
    (∀ key context floor blob,
      (RatchetState.restoreState key context floor blob :
        Result (RatchetState Q)).Returns) ∧
    (∀ bytes generation version,
      (RatchetState.decodeState bytes generation version :
        Result (RatchetState Q)).Returns) ∧
    ∀ (envelope : OuterEnvelope) (secret : DhSecretKey) (nowUnix : UInt64),
      (envelope.openInner P secret nowUnix).Returns := by
  refine ⟨?_, ?_, ?_, ?_, ?_, ?_, ?_, ?_, ?_, ?_⟩
  · intro bytes
    exact Outcome.returns_of (InnerFrame.decode_ne_panic bytes)
  · intro bytes
    exact Outcome.returns_of (InnerFrame.decodePrefix_ne_panic bytes)
  · intro bytes
    exact Outcome.returns_of (OuterEnvelope.decode_ne_panic bytes)
  · intro bytes
    exact Outcome.returns_of (InitiatorHandshake.decode_ne_panic bytes)
  · intro bytes
    exact Outcome.returns_of (ResponderPrekeyBundle.decode_ne_panic bytes)
  · intro bytes
    exact Outcome.returns_of (HybridInitiatorHandshake.decode_ne_panic bytes)
  · intro bytes
    exact Outcome.returns_of (HybridResponderPrekeyBundle.decode_ne_panic bytes)
  · intro key context floor blob
    exact Outcome.returns_of (RatchetState.restoreState_ne_panic key context floor blob)
  · intro bytes generation version
    exact Outcome.returns_of (RatchetState.decodeState_ne_panic bytes generation version)
  · intro envelope secret nowUnix
    exact Outcome.returns_of (envelope.openInner_ne_panic secret nowUnix)

end Mef26
