import Mathlib.Data.Set.Function
import Mef26.Crypto.Identifiers
import Mef26.Handshake.Completeness

namespace Mef26

/-! # What an identity signs

One Ed25519 key signs identity bindings, signed prekeys and hybrid bundles. The signed
bytes tell the purpose and the value. -/

variable {Key : Type}

inductive SignaturePurpose
  | identityBinding
  | signedPrekey
  | hybridBundle
  deriving DecidableEq, Repr

inductive SignedValue
  | identityBinding (dh : DhPublicKey)
  | signedPrekey (keyId : UInt32) (prekey : DhPublicKey) (expiresAtUnix : UInt64)
  | hybridBundle (classical : ResponderPrekeyBundle) (pqPublic : MlKem768PublicKey)

def bundleInput (Key : Type) (classical : ResponderPrekeyBundle)
    (pqPublic : MlKem768PublicKey) : KeyMaterial Key :=
  blake3Input Hybrid.transcriptLabel [.ofBytes classical.encode, .ofBytes pqPublic.bytes]

namespace SignedValue

def purpose : SignedValue → SignaturePurpose
  | .identityBinding _ => .identityBinding
  | .signedPrekey _ _ _ => .signedPrekey
  | .hybridBundle _ _ => .hybridBundle

def transcript (P : Primitives Key) : SignedValue → Result (List UInt8)
  | .identityBinding dh => .ok (identityBindingTranscript dh)
  | .signedPrekey keyId prekey expiresAtUnix =>
      .ok (SignedPrekey.transcript keyId prekey expiresAtUnix)
  | .hybridBundle classical pqPublic => bindingTranscript P classical pqPublic

def inputs (Key : Type) : SignedValue → List (KeyMaterial Key)
  | .identityBinding _ | .signedPrekey _ _ _ => []
  | .hybridBundle classical pqPublic => [bundleInput Key classical pqPublic]

end SignedValue

/-! ## The transcripts one by one -/

theorem length_identityBindingTranscript (dh : DhPublicKey) :
    (identityBindingTranscript dh).length = 57 := by
  have label : (utf8Bytes Handshake.identityBindingLabel).length = 24 := by decide
  simp only [identityBindingTranscript, List.length_append, label, List.length_singleton,
    FixedBytes.length_bytes]

theorem identityBindingTranscript_injective : Function.Injective identityBindingTranscript := by
  intro left right same
  exact FixedBytes.bytes_injective (List.append_cancel_left same)

namespace SignedPrekey

theorem transcript_fields (keyId : UInt32) (prekey : DhPublicKey) (expiresAtUnix : UInt64) :
    transcript keyId prekey expiresAtUnix =
      (utf8Bytes protocolId ++ [0] ++ utf8Bytes "signed-prekey-v1") ++
        ((beArray32 keyId).bytes ++ (prekey.bytes ++ (beArray64 expiresAtUnix).bytes)) := by
  simp only [transcript, bytes_beArray32, bytes_beArray64, List.append_assoc]

theorem length_transcript (keyId : UInt32) (prekey : DhPublicKey) (expiresAtUnix : UInt64) :
    (transcript keyId prekey expiresAtUnix).length = 67 := by
  have label : (utf8Bytes protocolId ++ [0] ++ utf8Bytes "signed-prekey-v1").length = 23 := by
    decide
  rw [transcript_fields, List.length_append, label]
  simp only [List.length_append, FixedBytes.length_bytes]

theorem transcript_inj {keyId keyId' : UInt32} {prekey prekey' : DhPublicKey}
    {expiresAtUnix expiresAtUnix' : UInt64}
    (same : transcript keyId prekey expiresAtUnix =
      transcript keyId' prekey' expiresAtUnix') :
    keyId = keyId' ∧ prekey = prekey' ∧ expiresAtUnix = expiresAtUnix' := by
  rw [transcript_fields, transcript_fields] at same
  rcases List.append_inj (List.append_cancel_left same) (by simp) with ⟨keyIds, rest⟩
  rcases List.append_inj rest (by simp) with ⟨prekeys, expiries⟩
  exact ⟨beArray32_injective (FixedBytes.bytes_injective keyIds),
    FixedBytes.bytes_injective prekeys,
    beArray64_injective (FixedBytes.bytes_injective expiries)⟩

end SignedPrekey

theorem bundleInput_inj {classical classical' : ResponderPrekeyBundle}
    {pqPublic pqPublic' : MlKem768PublicKey}
    (same : bundleInput Key classical pqPublic = bundleInput Key classical' pqPublic') :
    classical = classical' ∧ pqPublic = pqPublic' := by
  have short (bundle : ResponderPrekeyBundle) (publicKey : MlKem768PublicKey) :
      ShortParts [(.ofBytes bundle.encode : KeyMaterial Key), .ofBytes publicKey.bytes] := by
    simp [ShortParts, maxCiphertextLen]
  have parts := blake3Input_injective (short _ _) (short _ _) same
  rw [List.cons.injEq, List.cons.injEq] at parts
  exact ⟨ResponderPrekeyBundle.encode_injective (KeyMaterial.ofBytes_injective parts.1),
    FixedBytes.bytes_injective (KeyMaterial.ofBytes_injective parts.2.1)⟩

variable {P : Primitives Key} {K : MlKem768 Key}

theorem bindingTranscript_eq_ok {classical : ResponderPrekeyBundle}
    {pqPublic : MlKem768PublicKey} {bytes : List UInt8} :
    bindingTranscript P classical pqPublic = .ok bytes ↔
      bytes = (P.blake3 (bundleInput Key classical pqPublic)).bytes := by
  rw [bindingTranscript_eq, Outcome.ok.injEq, eq_comm]
  rfl

theorem bindingTranscript_inj {classical classical' : ResponderPrekeyBundle}
    {pqPublic pqPublic' : MlKem768PublicKey} {bytes : List UInt8}
    {inputs : Set (KeyMaterial Key)} (hash : Set.InjOn P.blake3 inputs)
    (member : bundleInput Key classical pqPublic ∈ inputs)
    (member' : bundleInput Key classical' pqPublic' ∈ inputs)
    (signed : bindingTranscript P classical pqPublic = .ok bytes)
    (signed' : bindingTranscript P classical' pqPublic' = .ok bytes) :
    classical = classical' ∧ pqPublic = pqPublic' := by
  have digests := (bindingTranscript_eq_ok.mp signed).symm.trans
    (bindingTranscript_eq_ok.mp signed')
  exact bundleInput_inj (hash member member' (FixedBytes.bytes_injective digests))

/-! ## The transcripts together -/

def SignaturePurpose.transcriptLen : SignaturePurpose → Nat
  | .identityBinding => 57
  | .signedPrekey => 67
  | .hybridBundle => 32

theorem SignaturePurpose.transcriptLen_injective :
    Function.Injective SignaturePurpose.transcriptLen := by
  intro left right same
  cases left <;> cases right <;> first | rfl | exact absurd same (by decide)

namespace SignedValue

variable {value value' : SignedValue} {bytes : List UInt8}

theorem length_of_transcript (signed : value.transcript P = .ok bytes) :
    bytes.length = value.purpose.transcriptLen := by
  cases value with
  | identityBinding dh =>
      cases signed
      exact length_identityBindingTranscript dh
  | signedPrekey keyId prekey expiresAtUnix =>
      cases signed
      exact SignedPrekey.length_transcript keyId prekey expiresAtUnix
  | hybridBundle classical pqPublic =>
      rw [bindingTranscript_eq_ok.mp signed]
      exact FixedBytes.length_bytes _

/-- No byte string is the transcript of values of two purposes. -/
theorem purpose_of_transcript (signed : value.transcript P = .ok bytes)
    (signed' : value'.transcript P = .ok bytes) : value.purpose = value'.purpose :=
  SignaturePurpose.transcriptLen_injective
    ((length_of_transcript signed).symm.trans (length_of_transcript signed'))

/-- A transcript determines its value, unless the hash collides on the two inputs. -/
theorem eq_of_transcript
    (hash : Set.InjOn P.blake3 {input | input ∈ value.inputs Key ∨ input ∈ value'.inputs Key})
    (signed : value.transcript P = .ok bytes) (signed' : value'.transcript P = .ok bytes) :
    value = value' := by
  have purposes := purpose_of_transcript signed signed'
  cases value with
  | identityBinding dh =>
      cases value' with
      | signedPrekey | hybridBundle => cases purposes
      | identityBinding dh' =>
          have same := (Outcome.ok.inj signed).trans (Outcome.ok.inj signed').symm
          rw [identityBindingTranscript_injective same]
  | signedPrekey keyId prekey expiresAtUnix =>
      cases value' with
      | identityBinding | hybridBundle => cases purposes
      | signedPrekey keyId' prekey' expiresAtUnix' =>
          have same := (Outcome.ok.inj signed).trans (Outcome.ok.inj signed').symm
          rcases SignedPrekey.transcript_inj same with ⟨rfl, rfl, rfl⟩
          rfl
  | hybridBundle classical pqPublic =>
      cases value' with
      | identityBinding | signedPrekey => cases purposes
      | hybridBundle classical' pqPublic' =>
          rcases bindingTranscript_inj hash (.inl (List.mem_singleton_self _))
            (.inr (List.mem_singleton_self _)) signed signed' with ⟨rfl, rfl⟩
          rfl

end SignedValue

/-! ## Issuing and verifying -/

/-- The source's calls that sign, with the value and the signature. -/
inductive Issues (P : Primitives Key) (K : MlKem768 Key) :
    IdentityKeyPair P → SignedValue → Signature → Prop
  | publicRecord (identity : LocalIdentity P) :
      Issues P K identity.signing (.identityBinding identity.dh.publicKey)
        identity.publicRecord.signature
  | issue (pair : IdentityKeyPair P) (keyId : UInt32) (publicKey : DhPublicKey)
      (expiresAtUnix : UInt64) :
      Issues P K pair (.signedPrekey keyId publicKey expiresAtUnix)
        (SignedPrekey.issue pair keyId publicKey expiresAtUnix).signature
  | bundle (material : HybridResponderPrekeyMaterial P K)
      (bundle : HybridResponderPrekeyBundle) (returned : material.bundle = .ok bundle) :
      Issues P K material.classical.identity.signing
        (.hybridBundle bundle.classical bundle.pqPublic) bundle.pqSignature

theorem Issues.eq_sign {pair : IdentityKeyPair P} {value : SignedValue}
    {signature : Signature} (issues : Issues P K pair value signature) {bytes : List UInt8}
    (transcript : value.transcript P = .ok bytes) : signature = pair.sign bytes := by
  cases issues with
  | publicRecord | issue =>
      cases transcript
      rfl
  | bundle material bundle returned =>
      rcases Outcome.bind_eq_ok.mp returned with ⟨bytes', hashed, same⟩
      cases same
      cases Outcome.ok.inj (hashed.symm.trans transcript)
      rfl

/-- Ideal signatures under one key: what verifies is the signature that was issued for the
message, and no other signed message has it. -/
structure Primitives.UnforgeableEd25519 (P : Primitives Key) (seed : FixedBytes 32)
    (signed : Set (List UInt8)) : Prop where
  issued {message : List UInt8} {signature : Signature} :
    P.ed25519VerifyStrict (P.ed25519PublicKey seed) message signature = true →
      message ∈ signed ∧ signature = P.ed25519Sign seed message
  distinct : Set.InjOn (P.ed25519Sign seed) signed

/-- A signature passes a check under an identity, for the value that is checked. -/
inductive Verifies (P : Primitives Key) (K : MlKem768 Key) :
    IdentityPublicKey → SignedValue → Signature → Prop
  | identityBinding (record : IdentityDhPublic) (verified : record.verify P = .ok ⟨⟩) :
      Verifies P K record.signing (.identityBinding record.dh) record.signature
  | signedPrekey (record : SignedPrekey) (identity : IdentityPublicKey) (nowUnix : UInt64)
      (verified : record.verify P identity nowUnix = .ok ⟨⟩) :
      Verifies P K identity
        (.signedPrekey record.keyId record.publicKey record.expiresAtUnix) record.signature
  | hybridBundle (bundle : HybridResponderPrekeyBundle) (nowUnix : UInt64)
      (verified : bundle.verify P nowUnix = .ok ⟨⟩) :
      Verifies P K bundle.classical.identity.signing
        (.hybridBundle bundle.classical bundle.pqPublic) bundle.pqSignature
  | decodedBundle (bytes : List UInt8) (bundle : HybridResponderPrekeyBundle)
      (decoded : HybridResponderPrekeyBundle.decode P K bytes = .ok bundle) :
      Verifies P K bundle.classical.identity.signing
        (.hybridBundle bundle.classical bundle.pqPublic) bundle.pqSignature

theorem IdentityPublicKey.verify_eq_ok {identity : IdentityPublicKey} {message : List UInt8}
    {signature : Signature} {result : PUnit} :
    identity.verify P message signature = .ok result ↔
      P.ed25519IsKey identity = true ∧
        P.ed25519VerifyStrict identity message signature = true := by
  simp [IdentityPublicKey.verify, Outcome.bind_eq_ok]

/-- Every check verifies the signature over the transcript of its value. -/
theorem Verifies.strict {identity : IdentityPublicKey} {value : SignedValue}
    {signature : Signature} (verifies : Verifies P K identity value signature) :
    ∃ bytes, value.transcript P = .ok bytes ∧
      P.ed25519VerifyStrict identity bytes signature = true := by
  cases verifies with
  | identityBinding record verified =>
      exact ⟨_, rfl, (IdentityPublicKey.verify_eq_ok.mp verified).2⟩
  | signedPrekey record identity nowUnix verified =>
      rcases Outcome.bind_eq_ok.mp verified with ⟨_, _, verified⟩
      exact ⟨_, rfl, (IdentityPublicKey.verify_eq_ok.mp verified).2⟩
  | hybridBundle bundle nowUnix verified =>
      rcases Outcome.bind_eq_ok.mp verified with ⟨_, _, verified⟩
      rcases Outcome.bind_eq_ok.mp verified with ⟨bytes, hashed, verified⟩
      exact ⟨bytes, hashed, (IdentityPublicKey.verify_eq_ok.mp verified).2⟩
  | decodedBundle bytes bundle decoded =>
      have bound := (HybridResponderPrekeyBundle.decode_eq_ok.mp decoded).2.2.2
      exact ⟨_, bindingTranscript_eq _ _,
        (IdentityPublicKey.verify_eq_ok.mp bound).2⟩

theorem eq_of_verifies {pair : IdentityKeyPair P} {signed : Set (List UInt8)}
    (unforgeable : P.UnforgeableEd25519 pair.seed signed) {value value' : SignedValue}
    (hash : Set.InjOn P.blake3 {input | input ∈ value.inputs Key ∨ input ∈ value'.inputs Key})
    {signature : Signature} (issues : Issues P K pair value signature) {bytes : List UInt8}
    (transcript : value.transcript P = .ok bytes) (member : bytes ∈ signed)
    (verifies : Verifies P K pair.publicKey value' signature) : value = value' := by
  rcases verifies.strict with ⟨bytes', transcript', verified⟩
  rw [pair.publicKey_eq] at verified
  rcases unforgeable.issued verified with ⟨member', signatures⟩
  have same := unforgeable.distinct member member'
    ((issues.eq_sign transcript).symm.trans signatures)
  subst same
  exact SignedValue.eq_of_transcript hash transcript transcript'

/-- Transcripts determine their values and their purposes, and under ideal signatures a
signature verifies for the purpose and the value it was issued for, and for no others. -/
theorem signedTranscripts_separated (P : Primitives Key) (K : MlKem768 Key) :
    (∀ dh dh', identityBindingTranscript dh = identityBindingTranscript dh' → dh = dh') ∧
    (∀ keyId keyId' prekey prekey' expiresAtUnix expiresAtUnix',
      SignedPrekey.transcript keyId prekey expiresAtUnix =
        SignedPrekey.transcript keyId' prekey' expiresAtUnix' →
      keyId = keyId' ∧ prekey = prekey' ∧ expiresAtUnix = expiresAtUnix') ∧
    (∀ classical classical' pqPublic pqPublic' bytes,
      Set.InjOn P.blake3
        {bundleInput Key classical pqPublic, bundleInput Key classical' pqPublic'} →
      bindingTranscript P classical pqPublic = .ok bytes →
      bindingTranscript P classical' pqPublic' = .ok bytes →
      classical = classical' ∧ pqPublic = pqPublic') ∧
    (∀ (value value' : SignedValue) bytes, value.transcript P = .ok bytes →
      value'.transcript P = .ok bytes → value.purpose = value'.purpose) ∧
    ∀ (pair : IdentityKeyPair P) (signed : Set (List UInt8)) (value value' : SignedValue)
      signature bytes, P.UnforgeableEd25519 pair.seed signed →
      Set.InjOn P.blake3
        {input | input ∈ value.inputs Key ∨ input ∈ value'.inputs Key} →
      Issues P K pair value signature → value.transcript P = .ok bytes → bytes ∈ signed →
      Verifies P K pair.publicKey value' signature → value = value' := by
  refine ⟨identityBindingTranscript_injective, ?_, ?_, ?_, ?_⟩
  · intro _ _ _ _ _ _
    exact SignedPrekey.transcript_inj
  · intro _ _ _ _ _ hash
    exact bindingTranscript_inj hash (.inl rfl) (.inr rfl)
  · intro _ _ _
    exact SignedValue.purpose_of_transcript
  · intro _ _ _ _ _ _ unforgeable hash issues transcript member verifies
    exact eq_of_verifies unforgeable hash issues transcript member verifies

/-! ## A sample identity -/

def lengthSignature (message : List UInt8) : Signature :=
  .replicate 64 (.ofNat message.length)

/-- The concrete primitives with a ledger of the messages that were signed. -/
def Primitives.ledger (signed : List (List UInt8)) : Primitives (FixedBytes 32) :=
  { Primitives.concrete with
    ed25519Sign _ message := lengthSignature message
    ed25519VerifyStrict _ message signature :=
      message ∈ signed ∧ signature = lengthSignature message }

theorem Primitives.unforgeable_ledger {signed : List (List UInt8)} (seed : FixedBytes 32)
    (distinct : ∀ left ∈ signed, ∀ right ∈ signed,
      lengthSignature left = lengthSignature right → left = right) :
    (Primitives.ledger signed).UnforgeableEd25519 seed {message | message ∈ signed} where
  issued verified := of_decide_eq_true verified
  distinct left isLeft right isRight := distinct left isLeft right isRight

/-- What the sample identity has signed: its binding and one prekey, over the same key. -/
def ledgerMessages : List (List UInt8) :=
  [identityBindingTranscript (.replicate 32 2), SignedPrekey.transcript 7 (.replicate 32 2) 1000]

def ledgerPair : IdentityKeyPair (Primitives.ledger ledgerMessages) :=
  .fromSeed (.replicate 32 1)

/-- The prekey verifies, and its signature does not pass for the binding of the same key. -/
theorem signedTranscripts_separated_ledger :
    (SignedPrekey.issue ledgerPair 7 (.replicate 32 2) 1000).verify
        (Primitives.ledger ledgerMessages) ledgerPair.publicKey 999 = .ok ⟨⟩ ∧
      (⟨ledgerPair.publicKey, .replicate 32 2,
        (SignedPrekey.issue ledgerPair 7 (.replicate 32 2) 1000).signature⟩ :
          IdentityDhPublic).verify (Primitives.ledger ledgerMessages) ≠ .ok ⟨⟩ := by
  refine ⟨by decide +kernel, ?_⟩
  intro verified
  have separated := (signedTranscripts_separated (Primitives.ledger ledgerMessages)
    concreteKem).2.2.2.2 ledgerPair {message | message ∈ ledgerMessages}
    (.signedPrekey 7 (.replicate 32 2) 1000) (.identityBinding (.replicate 32 2)) _ _
    (Primitives.unforgeable_ledger _ (by decide +kernel)) (by simp [SignedValue.inputs])
    (.issue ledgerPair 7 (.replicate 32 2) 1000) rfl
    (List.mem_cons_of_mem _ (List.mem_singleton_self _)) (.identityBinding _ verified)
  cases separated

end Mef26
