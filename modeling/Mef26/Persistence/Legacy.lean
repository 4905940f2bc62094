import Mathlib.Data.Set.Function
import Mef26.Persistence.Authenticity

namespace Mef26

/-! # Legacy snapshots

The legacy layout lacks the suite byte and is sealed under a label of its own. The crate still
reads it but no longer writes it. -/

namespace RatchetState

variable {P : Primitives (FixedBytes 32)}

/-- Where the suite stands in a plaintext of the current version. -/
def suiteOffset : Nat := 204

/-! ## The legacy layout -/

def legacyBytes (state : RatchetState P) : List UInt8 :=
  (SnapshotFields.ofState state).bytes ++
    (beBytes16 (.ofNat state.skipped.length) ++ state.skipped.flatMap encodeEntry)

theorem eraseIdx_stateBytes (state : RatchetState P) :
    (stateBytes state).eraseIdx suiteOffset = legacyBytes state := by
  rw [stateBytes_eq, legacyBytes, suiteOffset,
    List.eraseIdx_append_of_length_le (Nat.le_of_eq (SnapshotFields.length_bytes _)),
    SnapshotFields.length_bytes]
  rfl

theorem decodeState_legacyFields_eq_ok {fields : SnapshotFields} {count : FixedBytes 2}
    {rest : List UInt8} {generation : UInt64} {state : RatchetState P} :
    decodeState (fields.bytes ++ (count.bytes ++ rest)) generation legacyStateVersion =
        .ok state ↔
      ∃ skipped, (fromBeBytes16 count).toNat ≤ maxSkippedKeys ∧
        skipped.length = (fromBeBytes16 count).toNat ∧
        skipped.flatMap encodeEntry = rest ∧
        (skipped.map SkippedMessageKey.slot).Nodup ∧
        state = fields.state P generation .xChaCha20Poly1305 skipped := by
  have selected : suiteAndCountOffset (fields.bytes ++ ([] ++ (count.bytes ++ rest)))
      legacyStateVersion = (.ok .xChaCha20Poly1305 : Result AeadSuite) >>= fun suite =>
        .ok (suite, 204 + 0) := rfl
  have layout : decodeState (fields.bytes ++ ([] ++ (count.bytes ++ rest))) generation
      legacyStateVersion = .ok state ↔ _ :=
    decodeState_layout_eq_ok fields ⟨[], rfl⟩ count rest generation (Nat.zero_le 1) rfl
      selected
  rw [List.nil_append] at layout
  simp only [layout, Outcome.ok.injEq, exists_and_left, exists_eq_left']

theorem decodeState_legacy_eq_ok {bytes : List UInt8} {generation : UInt64}
    {state : RatchetState P} :
    decodeState bytes generation legacyStateVersion = .ok state ↔
      bytes = legacyBytes state ∧ state.suite = .xChaCha20Poly1305 ∧
      state.generation = generation ∧ state.SkippedBounded ∧ state.DistinctSlots := by
  constructor
  · intro decoded
    have long : plaintextFixedLenV1 ≤ bytes.length := length_of_decodeState rfl decoded
    simp only [plaintextFixedLenV1] at long
    rcases SnapshotFields.exists_fields (by omega : 204 ≤ bytes.length)
        with ⟨fields, rest, rfl, length⟩
    rcases exists_field (by omega : 2 ≤ rest.length) with ⟨count, rest, rfl, length⟩
    rcases decodeState_legacyFields_eq_ok.mp decoded
        with ⟨skipped, bounded, countEq, rfl, distinct, rfl⟩
    refine ⟨?_, rfl, rfl, Nat.le_trans (Nat.le_of_eq countEq) bounded, distinct⟩
    rw [legacyBytes, SnapshotFields.ofState_state]
    simp only [SnapshotFields.state, countEq, UInt16.ofNat_toNat, beBytes16_fromBeBytes16]
  · intro encoded
    rcases encoded with ⟨rfl, suiteEq, rfl, bounded, distinct⟩
    have countEq : (UInt16.ofNat state.skipped.length).toNat = state.skipped.length :=
      UInt16.toNat_ofNat_of_lt' (Nat.lt_of_le_of_lt bounded (by decide))
    rw [legacyBytes, ← bytes_beArray16, decodeState_legacyFields_eq_ok,
      fromBeBytes16_beArray16, countEq]
    exact ⟨state.skipped, bounded, rfl, rfl, distinct,
      suiteEq ▸ (SnapshotFields.state_ofState state).symm⟩

/-! ## The version byte -/

theorem set_stateRecord (version version' : UInt8) (generation : UInt64)
    (ciphertext : Ciphertext) :
    (stateRecord version generation ciphertext).set 3 version' =
      stateRecord version' generation ciphertext := by
  have magicLength : stateMagic.length = 3 := by decide
  rw [stateRecord, List.set_append_right _ _ (Nat.le_of_eq magicLength), magicLength]
  rfl

theorem version_eq_of_stateRecord {version version' : UInt8} {generation generation' : UInt64}
    {ciphertext ciphertext' : Ciphertext}
    (same : stateRecord version generation ciphertext =
      stateRecord version' generation' ciphertext') : version = version' :=
  (List.cons.inj (List.append_cancel_left same)).1

theorem ciphertext_eq_of_stateRecord {version version' : UInt8}
    {generation generation' : UInt64} {ciphertext ciphertext' : Ciphertext}
    (suites : ciphertext.suite = .xChaCha20Poly1305)
    (suites' : ciphertext'.suite = .xChaCha20Poly1305)
    (same : stateRecord version generation ciphertext =
      stateRecord version' generation' ciphertext') : ciphertext = ciphertext' := by
  have bodies := congrArg sealedBytes same
  rw [sealedBytes_stateRecord, sealedBytes_stateRecord] at bodies
  obtain ⟨nonceEq, bodyEq⟩ := List.append_inj bodies (by
    rw [ciphertext.nonce_length, ciphertext'.nonce_length, suites, suites'])
  exact ciphertext_ext_of_sealed suites suites' nonceEq bodyEq

end RatchetState

variable {P : Primitives (FixedBytes 32)}

variable (P) in
structure SealedSnapshot (key : StateSealKey) where
  version : UInt8
  context : List UInt8
  generation : UInt64
  plaintext : List UInt8
  ciphertext : Ciphertext
  known : version = legacyStateVersion ∨ version = stateVersion
  suite_eq : ciphertext.suite = .xChaCha20Poly1305
  encrypted : P.aeadEncrypt .xChaCha20Poly1305 key ciphertext.nonce
    (RatchetState.aadLabel version ++ context) plaintext = some ciphertext.body

namespace SealedSnapshot

variable {key : StateSealKey}

def record (snapshot : SealedSnapshot P key) : List UInt8 :=
  RatchetState.stateRecord snapshot.version snapshot.generation snapshot.ciphertext

theorem exists_of_sealState {entropy : Entropy} {context blob : List UInt8}
    {state : RatchetState P} (sealed : state.sealState entropy key context = .ok blob) :
    ∃ snapshot : SealedSnapshot P key, snapshot.version = stateVersion ∧
      snapshot.context = context ∧ snapshot.plaintext = state.stateBytes ∧
      snapshot.record = blob := by
  rcases RatchetState.sealState_eq_ok.mp sealed with ⟨_, _, ciphertext, encrypted, rfl⟩
  rcases sealCiphertext_eq_ok.mp encrypted with ⟨_, _, suiteEq, _, cipher⟩
  exact ⟨⟨stateVersion, context, state.generation, state.stateBytes, ciphertext, .inr rfl,
    suiteEq, cipher⟩, rfl, rfl, rfl, rfl⟩

end SealedSnapshot

/-- Ideal encryption of the snapshots under a key: nothing opens but what was sealed, and no
two snapshots share a ciphertext. -/
structure IdealSnapshots (key : StateSealKey) (snapshots : Set (SealedSnapshot P key)) :
    Prop where
  opens : ∀ nonce aad body plaintext,
    P.aeadDecrypt .xChaCha20Poly1305 key nonce aad body = some plaintext →
    ∃ snapshot ∈ snapshots, nonce = snapshot.ciphertext.nonce ∧
      aad = RatchetState.aadLabel snapshot.version ++ snapshot.context ∧
      body = snapshot.ciphertext.body
  apart : Set.InjOn SealedSnapshot.ciphertext snapshots

theorem aadLabel_injective {version version' : UInt8}
    (known : version = legacyStateVersion ∨ version = stateVersion)
    (known' : version' = legacyStateVersion ∨ version' = stateVersion)
    (same : RatchetState.aadLabel version = RatchetState.aadLabel version') :
    version = version' := by
  rcases known with rfl | rfl <;> rcases known' with rfl | rfl
  · rfl
  · exact absurd same (by decide)
  · exact absurd same (by decide)
  · rfl

/-- A sealed record restores only under the version it was sealed in. -/
theorem version_eq_of_restoreState {key : StateSealKey} {snapshots : Set (SealedSnapshot P key)}
    (ideal : IdealSnapshots key snapshots) {snapshot : SealedSnapshot P key}
    (member : snapshot ∈ snapshots) {version : UInt8} {context : List UInt8} {floor : UInt64}
    {state : RatchetState P}
    (restored : RatchetState.restoreState key context floor (snapshot.record.set 3 version) =
      .ok state) : version = snapshot.version := by
  rw [SealedSnapshot.record, RatchetState.set_stateRecord] at restored
  rcases RatchetState.restoreState_eq_ok.mp restored
      with ⟨version', generation, ciphertext, plaintext, same, suiteEq, known, _, _, opened, _⟩
  have versions := RatchetState.version_eq_of_stateRecord same
  have ciphertexts := RatchetState.ciphertext_eq_of_stateRecord snapshot.suite_eq suiteEq same
  subst versions
  have decrypted := (openCiphertext_eq_ok.mp opened).2
  rw [suiteEq, ← ciphertexts] at decrypted
  rcases ideal.opens _ _ _ _ decrypted with ⟨other, member', nonceEq, aadEq, bodyEq⟩
  have shared := ideal.apart member member'
    (ciphertext_ext_of_sealed snapshot.suite_eq other.suite_eq nonceEq bodyEq)
  rw [← shared] at aadEq
  exact aadLabel_injective known snapshot.known (List.append_inj aadEq (by simp)).1

/-- Both layouts stand for the same states, a parsed plaintext has no other form, and no
record passes from one version to the other. -/
theorem snapshotVersions_agree (P : Primitives (FixedBytes 32)) :
    (∀ (state : RatchetState P) (generation : UInt64), state.suite = .xChaCha20Poly1305 →
      state.SkippedBounded → state.DistinctSlots →
      ∃ plaintext, state.encodeState = .ok plaintext ∧
        RatchetState.decodeState plaintext generation stateVersion =
          .ok { state with generation } ∧
        (RatchetState.decodeState (plaintext.eraseIdx RatchetState.suiteOffset) generation
          legacyStateVersion : Result (RatchetState P)) = .ok { state with generation }) ∧
    (∀ (plaintext : List UInt8) (generation : UInt64) (state : RatchetState P),
      RatchetState.decodeState plaintext generation stateVersion = .ok state →
      state.encodeState = .ok plaintext) ∧
    ∀ key (snapshots : Set (SealedSnapshot P key)), IdealSnapshots key snapshots →
      ∀ snapshot ∈ snapshots, ∀ version ≠ snapshot.version, ∀ context floor state,
        RatchetState.restoreState key context floor (snapshot.record.set 3 version) ≠
          .ok (state : RatchetState P) := by
  refine ⟨?_, ?_, ?_⟩
  · intro state generation suiteEq bounded distinct
    refine ⟨state.stateBytes, RatchetState.encodeState_eq_ok.mpr ⟨bounded, rfl⟩,
      RatchetState.decodeState_eq_ok.mpr ⟨rfl, rfl, bounded, distinct⟩, ?_⟩
    rw [RatchetState.eraseIdx_stateBytes]
    exact RatchetState.decodeState_legacy_eq_ok.mpr ⟨rfl, suiteEq, rfl, bounded, distinct⟩
  · intro plaintext generation state decoded
    rcases RatchetState.decodeState_eq_ok.mp decoded with ⟨rfl, _, bounded, _⟩
    exact RatchetState.encodeState_eq_ok.mpr ⟨bounded, rfl⟩
  · intro key snapshots ideal snapshot member version changed context floor state restored
    exact changed (version_eq_of_restoreState ideal member restored)

/-! ## The recorded snapshot in both versions -/

def recordSnapshot : SealedSnapshot recordPrimitives recordKey where
  version := stateVersion
  context := []
  generation := 0
  plaintext := recordState.stateBytes
  ciphertext := recordCiphertext
  known := .inr rfl
  suite_eq := rfl
  encrypted := Primitives.encrypt_singleUse _ _ _ _ _

theorem idealSnapshots_record : IdealSnapshots recordKey {recordSnapshot} where
  opens := by
    intro nonce aad body plaintext decrypted
    rcases Primitives.opens_singleUse decrypted with ⟨rfl, rfl, rfl⟩
    exact ⟨recordSnapshot, rfl, rfl, rfl, rfl⟩
  apart := Set.injOn_singleton _ _

def retainingState : RatchetState recordPrimitives :=
  { recordState with
    receivingCount := 2
    skipped := [⟨.replicate 32 4, 0, .replicate 32 2⟩, ⟨.replicate 32 7, 0, .replicate 32 9⟩] }

theorem snapshotVersions_agree_record :
    (∃ plaintext, retainingState.encodeState = .ok plaintext ∧
      (RatchetState.decodeState (plaintext.eraseIdx RatchetState.suiteOffset) 5
        legacyStateVersion : Result (RatchetState recordPrimitives)) =
          .ok { retainingState with generation := 5 }) ∧
    ¬∃ state : RatchetState recordPrimitives, RatchetState.restoreState recordKey [] 0
      (recordSnapshot.record.set 3 legacyStateVersion) = .ok state := by
  rcases snapshotVersions_agree recordPrimitives with ⟨agree, _, apart⟩
  constructor
  · have bounded : retainingState.SkippedBounded := by
      unfold RatchetState.SkippedBounded
      decide
    have distinct : retainingState.DistinctSlots := by
      unfold RatchetState.DistinctSlots
      decide
    rcases agree retainingState 5 rfl bounded distinct with ⟨plaintext, encoded, _, decoded⟩
    exact ⟨plaintext, encoded, decoded⟩
  · intro restores
    rcases restores with ⟨state, restored⟩
    exact apart recordKey _ idealSnapshots_record recordSnapshot rfl legacyStateVersion
      (by decide) [] 0 state restored

end Mef26
