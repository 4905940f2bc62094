import Mef26.Persistence.Host

namespace Mef26

/-! # What a restored record proves

The cipher authenticates the plaintext, the version and the context of a record. The
generation stands in the header only. -/

structure SealCall (P : Primitives (FixedBytes 32)) where
  entropy : Entropy
  context : List UInt8
  state : RatchetState P

variable {P : Primitives (FixedBytes 32)}

namespace SealCall

def record (call : SealCall P) (key : StateSealKey) : Result (List UInt8) :=
  call.state.sealState call.entropy key call.context

/-- The nonce, associated data and body that the cipher produced for a call. -/
def Produced (call : SealCall P) (key : StateSealKey) (nonce aad body : List UInt8) :
    Prop :=
  RatchetState.ContextFits call.context ∧ call.state.SkippedBounded ∧
    aad = RatchetState.aadLabel stateVersion ++ call.context ∧
    ∃ ciphertext, sealCiphertext P call.entropy key .xChaCha20Poly1305 aad
        call.state.stateBytes = .ok ciphertext ∧
      nonce = ciphertext.nonce ∧ body = ciphertext.body

end SealCall

/-- Ideal encryption under a sealing key: nothing opens but what the recorded calls
produced. -/
def SealsOnly (key : StateSealKey) (calls : Set (SealCall P)) : Prop :=
  ∀ nonce aad body plaintext,
    P.aeadDecrypt .xChaCha20Poly1305 key nonce aad body = some plaintext →
    ∃ call ∈ calls, call.Produced key nonce aad body

def generationBytes (blob : List UInt8) : List UInt8 := (blob.drop 4).take 8

def sealedBytes (blob : List UInt8) : List UInt8 := blob.drop 17

/-- The restored state is the one some call sealed into this very record. -/
def AuthenticRecord (key : StateSealKey) (calls : Set (SealCall P)) (context : List UInt8)
    (floor : UInt64) (blob : List UInt8) (state : RatchetState P) : Prop :=
  ∃ call ∈ calls, call.context = context ∧ call.record key = .ok blob ∧
    call.state = state ∧ floor ≤ call.state.generation

/-- The record's generation bytes are those its ciphertext was sealed with. -/
def GenerationUntouched (key : StateSealKey) (calls : Set (SealCall P))
    (context blob : List UInt8) : Prop :=
  ∃ call ∈ calls, call.context = context ∧ ∃ record, call.record key = .ok record ∧
    generationBytes blob = generationBytes record ∧
    sealedBytes blob = sealedBytes record

namespace RatchetState

theorem generationBytes_stateRecord (version : UInt8) (generation : UInt64)
    (ciphertext : Ciphertext) :
    generationBytes (stateRecord version generation ciphertext) =
      beBytes64 generation := by
  have magicLength : stateMagic.length = 3 := by decide
  rw [generationBytes, stateRecord, List.drop_append, magicLength,
    List.drop_eq_nil_of_le (by rw [magicLength]; decide), List.nil_append,
    show 4 - 3 = 1 from rfl, List.drop_succ_cons, List.drop_zero,
    List.take_left' (length_beBytes64 generation)]

theorem sealedBytes_stateRecord (version : UInt8) (generation : UInt64)
    (ciphertext : Ciphertext) :
    sealedBytes (stateRecord version generation ciphertext) =
      ciphertext.nonce ++ ciphertext.body := by
  have header : stateRecord version generation ciphertext =
      (stateMagic ++ (version :: (beBytes64 generation ++
        (UInt8.ofNat ciphertext.nonce.length ::
          beBytes32 (.ofNat ciphertext.body.length))))) ++
      (ciphertext.nonce ++ ciphertext.body) := by
    simp [stateRecord]
  have headerLength : (stateMagic ++ (version :: (beBytes64 generation ++
      (UInt8.ofNat ciphertext.nonce.length ::
        beBytes32 (.ofNat ciphertext.body.length))))).length = 17 := by
    have magicLength : stateMagic.length = 3 := by decide
    simp [magicLength]
  rw [sealedBytes, header, List.drop_left' headerLength]

end RatchetState

/-! ## Restored records -/

theorem SealCall.record_eq_ok {call : SealCall P} {key : StateSealKey}
    {record : List UInt8} :
    call.record key = .ok record ↔
      ∃ ciphertext, call.Produced key ciphertext.nonce
          (RatchetState.aadLabel stateVersion ++ call.context) ciphertext.body ∧
        sealCiphertext P call.entropy key .xChaCha20Poly1305
          (RatchetState.aadLabel stateVersion ++ call.context)
          call.state.stateBytes = .ok ciphertext ∧
        record = RatchetState.stateRecord stateVersion call.state.generation ciphertext := by
  rw [SealCall.record, RatchetState.sealState_eq_ok]
  constructor
  · intro returned
    rcases returned with ⟨fits, bounded, ciphertext, encrypted, rfl⟩
    exact ⟨ciphertext, ⟨fits, bounded, rfl, ciphertext, encrypted, rfl, rfl⟩, encrypted, rfl⟩
  · intro holds
    rcases holds with ⟨ciphertext, ⟨fits, bounded, _⟩, encrypted, rfl⟩
    exact ⟨fits, bounded, ciphertext, encrypted, rfl⟩

theorem aadLabel_eq_current {version : UInt8}
    (equal : RatchetState.aadLabel version = RatchetState.aadLabel stateVersion)
    (known : version = legacyStateVersion ∨ version = stateVersion) :
    version = stateVersion := by
  rcases known with rfl | rfl
  · exact absurd equal (by decide)
  · rfl

theorem ciphertext_ext_of_sealed {left right : Ciphertext}
    (leftSuite : left.suite = .xChaCha20Poly1305)
    (rightSuite : right.suite = .xChaCha20Poly1305)
    (nonces : left.nonce = right.nonce) (bodies : left.body = right.body) :
    left = right :=
  Ciphertext.ext (leftSuite.trans rightSuite.symm) nonces bodies

/-- Where a restored state comes from: some call sealed it under this context, and
the record is that call's record but for the generation. -/
theorem exists_call_of_restoreState (aead : P.LawfulAead) {key : StateSealKey}
    {calls : Set (SealCall P)} (ideal : SealsOnly key calls) {context : List UInt8}
    {floor : UInt64} {blob : List UInt8} {state : RatchetState P}
    (restored : RatchetState.restoreState key context floor blob = .ok state) :
    ∃ call ∈ calls, call.context = context ∧ ∃ ciphertext,
      ciphertext.suite = .xChaCha20Poly1305 ∧
      call.record key = .ok (RatchetState.stateRecord stateVersion
        call.state.generation ciphertext) ∧
      blob = RatchetState.stateRecord stateVersion state.generation ciphertext ∧
      openCiphertext P key ciphertext (RatchetState.aadLabel stateVersion ++ context) =
        .ok state.stateBytes ∧
      state = { call.state with generation := state.generation } ∧
      floor ≤ state.generation := by
  rcases RatchetState.restoreState_eq_ok.mp restored
      with ⟨version, generation, ciphertext, plaintext, rfl, suiteEq, known, floorLe, fits,
        opened, decoded⟩
  have decrypted := (openCiphertext_eq_ok.mp opened).2
  rw [suiteEq] at decrypted
  rcases ideal _ _ _ _ decrypted with ⟨call, member, produced⟩
  rcases produced with ⟨callFits, bounded, aadEq, sealed, encrypted, nonceEq, bodyEq⟩
  rcases List.append_inj aadEq (by simp) with ⟨labels, contexts⟩
  rcases aadLabel_eq_current labels known with rfl
  subst contexts
  have sealedSuite := (sealCiphertext_eq_ok.mp encrypted).2.2.1
  rcases ciphertext_ext_of_sealed suiteEq sealedSuite nonceEq bodyEq with rfl
  rcases RatchetState.decodeState_eq_ok.mp decoded with ⟨rfl, rfl, _, _⟩
  have reopened := openCiphertext_of_seal aead encrypted
  rw [reopened, Outcome.ok.injEq] at opened
  refine ⟨call, member, rfl, ciphertext, suiteEq, ?_, rfl, ?_, ?_, floorLe⟩
  · exact RatchetState.sealState_eq_ok.mpr ⟨callFits, bounded, ciphertext, encrypted, rfl⟩
  · rw [reopened, opened]
  · exact RatchetState.stateBytes_injective opened.symm

/-- A restored state is authentic exactly when the generation bytes of its record were
left alone. -/
theorem restoreState_authentic_iff (aead : P.LawfulAead) {key : StateSealKey}
    {calls : Set (SealCall P)} (ideal : SealsOnly key calls) {context : List UInt8}
    {floor : UInt64} {blob : List UInt8} {state : RatchetState P}
    (restored : RatchetState.restoreState key context floor blob = .ok state) :
    AuthenticRecord key calls context floor blob state ↔
      GenerationUntouched key calls context blob := by
  rcases exists_call_of_restoreState aead ideal restored
      with ⟨_, _, _, ciphertext, suiteEq, _, rfl, opened, _, floorLe⟩
  constructor
  · intro holds
    rcases holds with ⟨call, member, contextEq, sealed, _⟩
    exact ⟨call, member, contextEq, _, sealed, rfl, rfl⟩
  · intro holds
    rcases holds with ⟨call, member, rfl, record, sealed, generations, bodies⟩
    rcases SealCall.record_eq_ok.mp sealed with ⟨produced, _, encrypted, rfl⟩
    have producedSuite := (sealCiphertext_eq_ok.mp encrypted).2.2.1
    rw [RatchetState.generationBytes_stateRecord,
      RatchetState.generationBytes_stateRecord] at generations
    have generationEq := beBytes64_injective generations
    rw [RatchetState.sealedBytes_stateRecord, RatchetState.sealedBytes_stateRecord] at bodies
    obtain ⟨nonceEq, bodyEq⟩ := List.append_inj bodies (by
      rw [ciphertext.nonce_length, produced.nonce_length, suiteEq, producedSuite])
    rcases ciphertext_ext_of_sealed suiteEq producedSuite nonceEq bodyEq with rfl
    have reopened := openCiphertext_of_seal aead encrypted
    rw [opened, Outcome.ok.injEq] at reopened
    have stateEq := RatchetState.stateBytes_injective reopened
    rw [generationEq] at stateEq floorLe ⊢
    exact ⟨call, member, rfl, sealed, stateEq.symm, floorLe⟩

/-! ## One sealed record and its tampered copy -/

def recordKey : StateSealKey := .replicate 32 11

/-- Primitives under which `recordKey` sealed the fresh endpoint and nothing else. -/
def recordPrimitives : Primitives (FixedBytes 32) :=
  Primitives.singleUse recordKey (List.replicate 24 0)
    (RatchetState.aadLabel stateVersion ++ []) concreteEndpoint.stateBytes

def recordState : RatchetState recordPrimitives :=
  { concreteEndpoint with
    dhPair := .fromSecret concreteEndpoint.dhPair.secret }

def recordCall : SealCall recordPrimitives where
  entropy := constantEntropy 0
  context := []
  state := recordState

def recordCiphertext : Ciphertext where
  suite := .xChaCha20Poly1305
  nonce := List.replicate 24 0
  body := recordState.stateBytes ++ Primitives.concreteTag recordKey
  nonce_length := InnerFrame.length_zeroNonce
  tag_le_body := by
    rw [List.length_append, RatchetState.length_stateBytes]
    decide
  body_le_limit := by
    rw [List.length_append, RatchetState.length_stateBytes]
    decide

theorem recordCall_sealed :
    sealCiphertext recordPrimitives (constantEntropy 0) recordKey .xChaCha20Poly1305
      (RatchetState.aadLabel stateVersion ++ []) recordState.stateBytes =
        .ok recordCiphertext := by
  refine sealCiphertext_eq_ok.mpr ⟨by decide, ?_, rfl, ⟨.replicate 24 0, rfl, rfl⟩, ?_⟩
  · rw [RatchetState.length_stateBytes]
    decide
  · exact Primitives.encrypt_singleUse _ _ _ _ _

theorem sealsOnly_recordCall : SealsOnly recordKey {recordCall} := by
  intro nonce aad body plaintext decrypted
  rcases Primitives.opens_singleUse decrypted with ⟨rfl, rfl, rfl⟩
  exact ⟨recordCall, rfl, by decide, Nat.zero_le _, rfl, recordCiphertext,
    recordCall_sealed, rfl, rfl⟩

/-- The record restores whatever generation its header names. -/
theorem restoreState_recordCiphertext (generation : UInt64) :
    RatchetState.restoreState recordKey [] generation
      (RatchetState.stateRecord stateVersion generation recordCiphertext) =
        .ok { recordState with generation } :=
  RatchetState.restoreState_eq_ok.mpr ⟨stateVersion, generation, recordCiphertext,
    recordState.stateBytes, rfl, rfl, .inr rfl, UInt64.le_refl _, by decide,
    openCiphertext_of_seal (Primitives.lawfulAead_singleUse _ _ _ _) recordCall_sealed,
    RatchetState.decodeState_eq_ok.mpr ⟨rfl, rfl, Nat.zero_le _, List.nodup_nil⟩⟩

theorem restoreState_authentic_record :
    AuthenticRecord recordKey {recordCall} [] 0
        (RatchetState.stateRecord stateVersion 0 recordCiphertext)
        { recordState with generation := 0 } ↔
      GenerationUntouched recordKey {recordCall} []
        (RatchetState.stateRecord stateVersion 0 recordCiphertext) :=
  restoreState_authentic_iff (Primitives.lawfulAead_singleUse _ _ _ _)
    sealsOnly_recordCall (restoreState_recordCiphertext 0)

/-- A record sealed at generation 0 restores under the floor 1 once its header says so. -/
theorem restoreState_not_authentic :
    SealsOnly recordKey {recordCall} ∧ recordCall.state.generation = 0 ∧
    recordCall.record recordKey =
      .ok (RatchetState.stateRecord stateVersion 0 recordCiphertext) ∧
    ∃ state, RatchetState.restoreState recordKey [] 1
        (RatchetState.stateRecord stateVersion 1 recordCiphertext) = .ok state ∧
      ¬AuthenticRecord recordKey {recordCall} [] 1
        (RatchetState.stateRecord stateVersion 1 recordCiphertext) state := by
  refine ⟨sealsOnly_recordCall, rfl, ?_, _, restoreState_recordCiphertext 1, ?_⟩
  · exact RatchetState.sealState_eq_ok.mpr
      ⟨by decide, Nat.zero_le _, recordCiphertext, recordCall_sealed, rfl⟩
  · intro holds
    rcases holds with ⟨call, rfl, _, _, _, floorLe⟩
    exact absurd floorLe (by decide)

end Mef26
