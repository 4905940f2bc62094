import Mef26.Envelope.Delivery
import Mef26.Envelope.Replay
import Mef26.Handshake.Completeness

namespace Mef26

/-! # Expiry

Envelopes and signed prekeys carry the second in which they expire. In that second every
call that checks it still accepts them. -/

variable {Key : Type}

inductive ExpiryCheck
  | openEnvelope
  | openInner
  | openInnerOnce
  | verifyPrekey
  | verifyBundle
  | verifyHybridBundle
  | initiate
  | hybridInitiate
  deriving DecidableEq, Repr

inductive ExpiringCall (P : Primitives Key)
  | openEnvelope (envelope : OuterEnvelope) (secret : DhSecretKey)
  | openInner (envelope : OuterEnvelope) (secret : DhSecretKey)
  | openInnerOnce (envelope : OuterEnvelope) (secret : DhSecretKey) (cache : ReplayCache)
  | verifyPrekey (record : SignedPrekey) (identity : IdentityPublicKey)
  | verifyBundle (bundle : ResponderPrekeyBundle)
  | verifyHybridBundle (bundle : HybridResponderPrekeyBundle)
  | initiate (ephemeralEntropy ratchetEntropy : Entropy) (identity : LocalIdentity P)
      (bundle : ResponderPrekeyBundle)
  | hybridInitiate (ephemeralEntropy ratchetEntropy pqEntropy : Entropy)
      (identity : LocalIdentity P) (bundle : HybridResponderPrekeyBundle)

namespace ExpiringCall

variable {P : Primitives Key}

def check : ExpiringCall P → ExpiryCheck
  | .openEnvelope _ _ => .openEnvelope
  | .openInner _ _ => .openInner
  | .openInnerOnce _ _ _ => .openInnerOnce
  | .verifyPrekey _ _ => .verifyPrekey
  | .verifyBundle _ => .verifyBundle
  | .verifyHybridBundle _ => .verifyHybridBundle
  | .initiate _ _ _ _ => .initiate
  | .hybridInitiate _ _ _ _ _ => .hybridInitiate

def expiresAtUnix : ExpiringCall P → UInt64
  | .openEnvelope envelope _ | .openInner envelope _ | .openInnerOnce envelope _ _ =>
      envelope.expiresAtUnix
  | .verifyPrekey record _ => record.expiresAtUnix
  | .verifyBundle bundle | .initiate _ _ _ bundle => bundle.signedPrekey.expiresAtUnix
  | .verifyHybridBundle bundle | .hybridInitiate _ _ _ _ bundle =>
      bundle.classical.signedPrekey.expiresAtUnix

def Passes (K : MlKem768 Key) (nowUnix : UInt64) : ExpiringCall P → Prop
  | .openEnvelope envelope secret =>
      ∃ plaintext, envelope.openEnvelope P secret nowUnix = .ok plaintext
  | .openInner envelope secret => ∃ frame, envelope.openInner P secret nowUnix = .ok frame
  | .openInnerOnce envelope secret cache =>
      ∃ frame, (envelope.openInnerOnce P secret nowUnix cache).1 = .ok frame
  | .verifyPrekey record identity => record.verify P identity nowUnix = .ok ⟨⟩
  | .verifyBundle bundle => bundle.verify P nowUnix = .ok ⟨⟩
  | .verifyHybridBundle bundle => bundle.verify P nowUnix = .ok ⟨⟩
  | .initiate ephemeralEntropy ratchetEntropy identity bundle =>
      ∃ started, Mef26.initiate ephemeralEntropy ratchetEntropy identity bundle nowUnix =
        .ok started
  | .hybridInitiate ephemeralEntropy ratchetEntropy pqEntropy identity bundle =>
      ∃ started, Hybrid.initiate K ephemeralEntropy ratchetEntropy pqEntropy identity bundle
        nowUnix = .ok started

end ExpiringCall

variable {P : Primitives Key} {K : MlKem768 Key} {nowUnix later : UInt64}

/-! ## After the expiry -/

theorem OuterEnvelope.le_of_openEnvelope {envelope : OuterEnvelope} {secret : DhSecretKey}
    {plaintext : List UInt8} (opened : envelope.openEnvelope P secret nowUnix = .ok plaintext) :
    nowUnix ≤ envelope.expiresAtUnix :=
  (openEnvelope_eq_ok.mp opened).1

theorem OuterEnvelope.le_of_openInner {envelope : OuterEnvelope} {secret : DhSecretKey}
    {frame : InnerFrame} (opened : envelope.openInner P secret nowUnix = .ok frame) :
    nowUnix ≤ envelope.expiresAtUnix := by
  rcases openInner_eq_ok.mp opened with ⟨plaintext, opened, _⟩
  exact le_of_openEnvelope opened

theorem SignedPrekey.le_of_verify {record : SignedPrekey} {identity : IdentityPublicKey}
    {result : PUnit} (verified : record.verify P identity nowUnix = .ok result) :
    nowUnix ≤ record.expiresAtUnix := by
  rcases Outcome.bind_eq_ok.mp verified with ⟨_, fresh, _⟩
  exact UInt64.not_lt.mp (Outcome.rejectIf_eq_ok.mp fresh)

theorem ResponderPrekeyBundle.le_of_verify {bundle : ResponderPrekeyBundle} {result : PUnit}
    (verified : bundle.verify P nowUnix = .ok result) :
    nowUnix ≤ bundle.signedPrekey.expiresAtUnix := by
  rcases Outcome.bind_eq_ok.mp verified with ⟨_, _, verified⟩
  exact SignedPrekey.le_of_verify verified

theorem HybridResponderPrekeyBundle.le_of_verify {bundle : HybridResponderPrekeyBundle}
    {result : PUnit} (verified : bundle.verify P nowUnix = .ok result) :
    nowUnix ≤ bundle.classical.signedPrekey.expiresAtUnix := by
  rcases Outcome.bind_eq_ok.mp verified with ⟨_, verified, _⟩
  exact ResponderPrekeyBundle.le_of_verify verified

theorem ExpiringCall.le_of_passes {call : ExpiringCall P} (passes : call.Passes K nowUnix) :
    nowUnix ≤ call.expiresAtUnix := by
  cases call with
  | openEnvelope envelope secret =>
      rcases passes with ⟨plaintext, opened⟩
      exact OuterEnvelope.le_of_openEnvelope opened
  | openInner envelope secret =>
      rcases passes with ⟨frame, opened⟩
      exact OuterEnvelope.le_of_openInner opened
  | openInnerOnce envelope secret cache =>
      rcases passes with ⟨frame, opened⟩
      let opening : Opening := ⟨envelope, secret, nowUnix⟩
      have returned : opening.result P cache = .ok frame := opened
      exact OuterEnvelope.le_of_openInner (Opening.checks_of_result returned).1
  | verifyPrekey record identity => exact SignedPrekey.le_of_verify passes
  | verifyBundle bundle => exact ResponderPrekeyBundle.le_of_verify passes
  | verifyHybridBundle bundle => exact HybridResponderPrekeyBundle.le_of_verify passes
  | initiate ephemeralEntropy ratchetEntropy identity bundle =>
      rcases passes with ⟨started, initiated⟩
      rcases Outcome.bind_eq_ok.mp initiated with ⟨_, verified, _⟩
      exact ResponderPrekeyBundle.le_of_verify verified
  | hybridInitiate ephemeralEntropy ratchetEntropy pqEntropy identity bundle =>
      rcases passes with ⟨started, initiated⟩
      rcases Outcome.bind_eq_ok.mp initiated with ⟨_, verified, _⟩
      exact HybridResponderPrekeyBundle.le_of_verify verified

/-! ## Up to the expiry -/

section Fresh

theorem OuterEnvelope.openEnvelope_of_fresh {envelope : OuterEnvelope} (secret : DhSecretKey)
    (fresh : nowUnix ≤ envelope.expiresAtUnix) (fresh' : later ≤ envelope.expiresAtUnix) :
    envelope.openEnvelope P secret nowUnix = envelope.openEnvelope P secret later := by
  unfold openEnvelope
  rw [Outcome.rejectIf_of_not _ (UInt64.not_lt.mpr fresh),
    Outcome.rejectIf_of_not _ (UInt64.not_lt.mpr fresh')]

theorem OuterEnvelope.openInner_of_fresh {envelope : OuterEnvelope} (secret : DhSecretKey)
    (fresh : nowUnix ≤ envelope.expiresAtUnix) (fresh' : later ≤ envelope.expiresAtUnix) :
    envelope.openInner P secret nowUnix = envelope.openInner P secret later := by
  unfold openInner
  rw [openEnvelope_of_fresh secret fresh fresh']

theorem SignedPrekey.verify_of_fresh {record : SignedPrekey} (identity : IdentityPublicKey)
    (fresh : nowUnix ≤ record.expiresAtUnix) (fresh' : later ≤ record.expiresAtUnix) :
    record.verify P identity nowUnix = record.verify P identity later := by
  unfold verify
  rw [Outcome.rejectIf_of_not _ (UInt64.not_lt.mpr fresh),
    Outcome.rejectIf_of_not _ (UInt64.not_lt.mpr fresh')]

theorem ResponderPrekeyBundle.verify_of_fresh {bundle : ResponderPrekeyBundle}
    (fresh : nowUnix ≤ bundle.signedPrekey.expiresAtUnix)
    (fresh' : later ≤ bundle.signedPrekey.expiresAtUnix) :
    bundle.verify P nowUnix = bundle.verify P later := by
  unfold verify
  rw [SignedPrekey.verify_of_fresh _ fresh fresh']

theorem HybridResponderPrekeyBundle.verify_of_fresh {bundle : HybridResponderPrekeyBundle}
    (fresh : nowUnix ≤ bundle.classical.signedPrekey.expiresAtUnix)
    (fresh' : later ≤ bundle.classical.signedPrekey.expiresAtUnix) :
    bundle.verify P nowUnix = bundle.verify P later := by
  unfold verify
  rw [ResponderPrekeyBundle.verify_of_fresh fresh fresh']

theorem initiate_of_fresh {bundle : ResponderPrekeyBundle}
    (ephemeralEntropy ratchetEntropy : Entropy) (identity : LocalIdentity P)
    (fresh : nowUnix ≤ bundle.signedPrekey.expiresAtUnix)
    (fresh' : later ≤ bundle.signedPrekey.expiresAtUnix) :
    initiate ephemeralEntropy ratchetEntropy identity bundle nowUnix =
      initiate ephemeralEntropy ratchetEntropy identity bundle later := by
  unfold initiate
  rw [ResponderPrekeyBundle.verify_of_fresh fresh fresh']

theorem Hybrid.initiate_of_fresh {bundle : HybridResponderPrekeyBundle}
    (ephemeralEntropy ratchetEntropy pqEntropy : Entropy) (identity : LocalIdentity P)
    (fresh : nowUnix ≤ bundle.classical.signedPrekey.expiresAtUnix)
    (fresh' : later ≤ bundle.classical.signedPrekey.expiresAtUnix) :
    Hybrid.initiate K ephemeralEntropy ratchetEntropy pqEntropy identity bundle nowUnix =
      Hybrid.initiate K ephemeralEntropy ratchetEntropy pqEntropy identity bundle later := by
  unfold Hybrid.initiate
  rw [HybridResponderPrekeyBundle.verify_of_fresh fresh fresh',
    Mef26.initiate_of_fresh _ _ _ fresh fresh']

theorem ExpiringCall.passes_of_le {call : ExpiringCall P} (passes : call.Passes K nowUnix)
    (ordered : nowUnix ≤ later) (fresh' : later ≤ call.expiresAtUnix) :
    call.Passes K later := by
  have fresh := call.le_of_passes passes
  cases call with
  | openEnvelope envelope secret =>
      rcases passes with ⟨plaintext, opened⟩
      rw [OuterEnvelope.openEnvelope_of_fresh secret fresh fresh'] at opened
      exact ⟨plaintext, opened⟩
  | openInner envelope secret =>
      rcases passes with ⟨frame, opened⟩
      rw [OuterEnvelope.openInner_of_fresh secret fresh fresh'] at opened
      exact ⟨frame, opened⟩
  | openInnerOnce envelope secret cache =>
      rcases passes with ⟨frame, opened⟩
      let opening : Opening := ⟨envelope, secret, nowUnix⟩
      let again : Opening := ⟨envelope, secret, later⟩
      have returned : opening.result P cache = .ok frame := opened
      rcases Opening.checks_of_result returned with ⟨checked, admitted⟩
      have checked' : again.envelope.openInner P again.secret again.nowUnix = .ok frame :=
        (OuterEnvelope.openInner_of_fresh secret fresh fresh').symm.trans checked
      have returned' : again.result P cache = .ok frame :=
        Opening.result_of_admitted checked' (admitted.mono ordered)
      exact ⟨frame, returned'⟩
  | verifyPrekey record identity =>
      exact (SignedPrekey.verify_of_fresh identity fresh fresh').symm.trans passes
  | verifyBundle bundle =>
      exact (ResponderPrekeyBundle.verify_of_fresh fresh fresh').symm.trans passes
  | verifyHybridBundle bundle =>
      exact (HybridResponderPrekeyBundle.verify_of_fresh fresh fresh').symm.trans passes
  | initiate ephemeralEntropy ratchetEntropy identity bundle =>
      rcases passes with ⟨started, initiated⟩
      rw [initiate_of_fresh _ _ _ fresh fresh'] at initiated
      exact ⟨started, initiated⟩
  | hybridInitiate ephemeralEntropy ratchetEntropy pqEntropy identity bundle =>
      rcases passes with ⟨started, initiated⟩
      rw [Hybrid.initiate_of_fresh _ _ _ _ fresh fresh'] at initiated
      exact ⟨started, initiated⟩

end Fresh

/-! ## In the second of the expiry -/

section Accepted

variable (aead : P.LawfulAead) (total : P.TotalAead) (agreement : P.LawfulX25519)
  (signatures : P.LawfulEd25519)

include aead total agreement in
/-- For every expiry there is an envelope that opens in that second. -/
theorem exists_openInner_at (expiresAtUnix : UInt64) :
    ∃ (envelope : OuterEnvelope) (secret : DhSecretKey) (frame : InnerFrame),
      envelope.expiresAtUnix = expiresAtUnix ∧
        envelope.openInner P secret expiresAtUnix = .ok frame := by
  let secret : DhSecretKey := .replicate 32 2
  let ephemeral : DhKeyPair P := .fromSecret (.replicate 32 1)
  let frame : InnerFrame := .empty (.replicate 32 1) 0 0 0
  have generated : DhKeyPair.generate (constantEntropy 1) = .ok ephemeral := rfl
  have fits : frame.wireBytes.length + 0 ≤ maxCiphertextLen - aeadTagLen := by
    rw [InnerFrame.length_wireBytes]
    decide
  have exists_sealed : ∃ envelope, OuterEnvelope.sealEnvelope P (constantEntropy 1)
      (constantEntropy 3) (constantEntropy 4) (P.x25519PublicKey secret) (.replicate 32 0)
      expiresAtUnix frame 0 = .ok envelope :=
    OuterEnvelope.exists_sealEnvelope aead total generated (agreement.contributory _ _) rfl rfl
      fits
  rcases exists_sealed with ⟨envelope, sealed⟩
  rcases OuterEnvelope.sealEnvelope_eq_ok.mp sealed with ⟨_, _, _, _, _, _, expiry, _⟩
  exact ⟨envelope, secret, frame, expiry, OuterEnvelope.openInner_of_sealEnvelope aead agreement
    sealed rfl (UInt64.le_refl _)⟩

variable (P) in
def expiringMaterial (expiresAtUnix : UInt64) : ResponderPrekeyMaterial P where
  identity := { signing := .fromSeed (.replicate 32 1), dh := .fromSecret (.replicate 32 2) }
  signedPrekey := .fromSecret (.replicate 32 3)
  signedRecord := .issue (.fromSeed (.replicate 32 1) : IdentityKeyPair P) 7
    (P.x25519PublicKey (.replicate 32 3)) expiresAtUnix
  retiredSignedPrekeys := []
  oneTimePrekeys := []

theorem wellFormed_expiringMaterial (expiresAtUnix : UInt64) :
    (expiringMaterial P expiresAtUnix).WellFormed := by
  have generated : ResponderPrekeyMaterial.generate (constantEntropy 1) (constantEntropy 2)
      (constantEntropy 3) 7 expiresAtUnix = .ok (expiringMaterial P expiresAtUnix) := rfl
  exact ResponderPrekeyMaterial.wellFormed_generate generated

variable (P K) in
def expiringHybrid (expiresAtUnix : UInt64) : HybridResponderPrekeyMaterial P K where
  classical := expiringMaterial P expiresAtUnix
  pq := {
    secret := .replicate 64 8
    publicKey := K.encapsulationKey (.replicate 64 8)
    publicKey_eq := rfl }

include aead total agreement signatures in
/-- Every entry point accepts some input in the very second of its expiry. -/
theorem exists_passes_at (K : MlKem768 Key) (check : ExpiryCheck) (expiresAtUnix : UInt64) :
    ∃ call : ExpiringCall P, call.check = check ∧ call.expiresAtUnix = expiresAtUnix ∧
      call.Passes K expiresAtUnix := by
  have ordered := UInt64.le_refl expiresAtUnix
  have wellFormed := wellFormed_expiringMaterial (P := P) expiresAtUnix
  rcases exists_openInner_at aead total agreement expiresAtUnix
    with ⟨envelope, secret, frame, expiry, opened⟩
  rcases OuterEnvelope.openInner_eq_ok.mp opened with ⟨plaintext, opened', _⟩
  have initiated := initiate_published agreement signatures wellFormed
    (rfl : DhKeyPair.generate (constantEntropy 6) = .ok (.fromSecret (.replicate 32 6)))
    (rfl : DhKeyPair.generate (constantEntropy 7) = .ok (.fromSecret (.replicate 32 7)))
    (sampleInitiator P) ordered
  have hybridWellFormed : (expiringHybrid P K expiresAtUnix).classical.WellFormed := wellFormed
  have hybridInitiated := hybridInitiate_published agreement signatures hybridWellFormed
    (rfl : DhKeyPair.generate (constantEntropy 6) = .ok (.fromSecret (.replicate 32 6)))
    (rfl : DhKeyPair.generate (constantEntropy 7) = .ok (.fromSecret (.replicate 32 7)))
    (rfl : constantEntropy 11 32 = some (.replicate 32 11)) (sampleInitiator P) ordered
  cases check with
  | openEnvelope => exact ⟨.openEnvelope envelope secret, rfl, expiry, plaintext, opened'⟩
  | openInner => exact ⟨.openInner envelope secret, rfl, expiry, frame, opened⟩
  | openInnerOnce =>
      let cache : ReplayCache := ⟨1, [], by decide⟩
      let opening : Opening := ⟨envelope, secret, expiresAtUnix⟩
      have admits : cache.Admits opening.entry.1 opening.nowUnix :=
        ⟨List.not_mem_nil, Nat.zero_lt_one⟩
      have returned : opening.result P cache = .ok frame :=
        Opening.result_of_admitted opened admits
      exact ⟨.openInnerOnce envelope secret cache, rfl, expiry, frame, returned⟩
  | verifyPrekey =>
      exact ⟨.verifyPrekey (expiringMaterial P expiresAtUnix).signedRecord _, rfl, rfl,
        SignedPrekey.verify_issue signatures _ _ _ ordered⟩
  | verifyBundle =>
      exact ⟨.verifyBundle (expiringMaterial P expiresAtUnix).bundle, rfl, rfl,
        ResponderPrekeyMaterial.verify_bundle signatures wellFormed ordered⟩
  | verifyHybridBundle =>
      exact ⟨.verifyHybridBundle (expiringHybrid P K expiresAtUnix).publicBundle, rfl, rfl,
        (expiringHybrid P K expiresAtUnix).verify_publicBundle signatures wellFormed ordered⟩
  | initiate =>
      exact ⟨.initiate _ _ _ (expiringMaterial P expiresAtUnix).bundle, rfl, rfl, _, initiated⟩
  | hybridInitiate =>
      exact ⟨.hybridInitiate _ _ _ _ (expiringHybrid P K expiresAtUnix).publicBundle, rfl, rfl,
        _, hybridInitiated⟩

end Accepted

/-- From its expiry on, an entry point refuses everything exactly if the clock is past the
expiry: the second of the expiry itself still counts as valid. A single call is refused from
its expiry on exactly if the clock is past the expiry or the call passes at no clock value. -/
theorem refusesExpired_iff (aead : P.LawfulAead) (total : P.TotalAead)
    (agreement : P.LawfulX25519) (signatures : P.LawfulEd25519) (K : MlKem768 Key) :
    (∀ (check : ExpiryCheck) (expiresAtUnix nowUnix : UInt64), expiresAtUnix ≤ nowUnix →
      ((∀ call : ExpiringCall P, call.check = check → call.expiresAtUnix = expiresAtUnix →
        ¬call.Passes K nowUnix) ↔ expiresAtUnix < nowUnix)) ∧
    ∀ (call : ExpiringCall P) (nowUnix : UInt64), call.expiresAtUnix ≤ nowUnix →
      (¬call.Passes K nowUnix ↔
        call.expiresAtUnix < nowUnix ∨ ∀ earlier, ¬call.Passes K earlier) := by
  constructor
  · intro check expiresAtUnix nowUnix expired
    constructor
    · intro refuses
      rcases UInt64.lt_or_eq_of_le expired with past | same
      · exact past
      · subst same
        rcases exists_passes_at aead total agreement signatures K check expiresAtUnix
          with ⟨call, isCheck, expiry, passes⟩
        exact absurd passes (refuses call isCheck expiry)
    · intro past call _ expiry passes
      subst expiry
      exact UInt64.not_lt.mpr (call.le_of_passes passes) past
  · intro call nowUnix expired
    constructor
    · intro refused
      rcases UInt64.lt_or_eq_of_le expired with past | same
      · exact .inl past
      · refine .inr fun earlier passes => refused ?_
        rw [← same]
        exact call.passes_of_le passes (call.le_of_passes passes) (UInt64.le_refl _)
    · intro either passes
      rcases either with past | never
      · exact UInt64.not_lt.mpr (call.le_of_passes passes) past
      · exact never nowUnix passes

theorem refusesExpired_iff_concrete :
    (¬∀ call : ExpiringCall Primitives.concrete, call.check = .openInner →
      call.expiresAtUnix = 1000 → ¬call.Passes concreteKem 1000) ∧
    ∀ call : ExpiringCall Primitives.concrete, call.check = .openInner →
      call.expiresAtUnix = 1000 → ¬call.Passes concreteKem 1001 := by
  have exact_iff := (refusesExpired_iff Primitives.lawfulAead_concrete
    Primitives.totalAead_concrete Primitives.lawfulX25519_concrete
    Primitives.lawfulEd25519_concrete concreteKem).1
  constructor
  · rw [exact_iff .openInner 1000 1000 (by decide)]
    decide
  · rw [exact_iff .openInner 1000 1001 (by decide)]
    decide

/-- A prekey and an envelope that expire at 2000 are accepted at 2000. -/
theorem accepted_at_expiry :
    ((sampleMaterial Primitives.concrete).signedRecord.expiresAtUnix = 2000 ∧
      (sampleMaterial Primitives.concrete).signedRecord.verify Primitives.concrete
        (sampleMaterial Primitives.concrete).identity.signing.publicKey 2000 = .ok ⟨⟩) ∧
    ∃ (envelope : OuterEnvelope) (secret : DhSecretKey) (frame : InnerFrame),
      envelope.expiresAtUnix = 2000 ∧
        envelope.openInner Primitives.concrete secret 2000 = .ok frame :=
  ⟨⟨rfl, SignedPrekey.verify_issue Primitives.lawfulEd25519_concrete _ _ _ (by decide)⟩,
    exists_openInner_at Primitives.lawfulAead_concrete Primitives.totalAead_concrete
      Primitives.lawfulX25519_concrete 2000⟩

end Mef26
