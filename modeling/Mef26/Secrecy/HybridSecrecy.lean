import Mef26.Crypto.Atoms
import Mef26.Handshake.Completeness
import Mef26.Secrecy.Erasure
import Mef26.Secrecy.Exposure

namespace Mef26

/-! # Secrecy of the hybrid handshake

The hybrid root takes the classical root and the encapsulated secret. An adversary has to
break both. -/

variable {Key : Type} {P : Primitives Key} {K : MlKem768 Key}

/-- A secret that belongs to an encapsulation key: decapsulated under it or encapsulated to
it. -/
inductive MlKem768.SecretOf (K : MlKem768 Key) : FixedBytes 1184 → Key → Prop
  | decapsulated (seed : FixedBytes 64) (ciphertext : FixedBytes 1088) :
      SecretOf K (K.encapsulationKey seed) (K.decapsulate seed ciphertext)
  | encapsulated (key : FixedBytes 1184) (randomness : FixedBytes 32) :
      SecretOf K key (K.encapsulateDeterministic key randomness).2

/-- Encapsulated secrets are free: each belongs to one key and comes from one randomness, and
none is a derived key or an agreement. -/
structure MlKem768.FreeSecrets (K : MlKem768 Key) (P : Primitives Key) : Prop where
  ne_kdf {key : FixedBytes 1184} {secret : Key} : K.SecretOf key secret →
    ∀ salt info input, secret ≠ P.hkdfSha256 salt info input
  ne_agreement {key : FixedBytes 1184} {secret : Key} : K.SecretOf key secret →
    ∀ own peer, secret ≠ P.x25519 own peer
  one_key {key key' : FixedBytes 1184} {secret : Key} :
    K.SecretOf key secret → K.SecretOf key' secret → key = key'
  one_randomness {key : FixedBytes 1184} {randomness randomness' : FixedBytes 32} :
    (K.encapsulateDeterministic key randomness).2 =
      (K.encapsulateDeterministic key randomness').2 → randomness = randomness'

structure KemCorruption (K : MlKem768 Key) where
  keys : FixedBytes 1184 → Prop
  genuine (key : FixedBytes 1184) : keys key → ∃ seed, K.encapsulationKey seed = key
  randomness : FixedBytes 32 → Prop

/-- The encapsulated secrets that the adversary obtains. -/
inductive KemCorruption.Learns (kem : KemCorruption K) : Key → Prop
  | decapsulates {seed : FixedBytes 64} (ciphertext : FixedBytes 1088) :
      kem.keys (K.encapsulationKey seed) → Learns kem (K.decapsulate seed ciphertext)
  | encapsulates (key : FixedBytes 1184) {randomness : FixedBytes 32} :
      kem.randomness randomness → Learns kem (K.encapsulateDeterministic key randomness).2

section Free

variable (apart : K.FreeSecrets P) {kem : KemCorruption K}

include apart

theorem KemCorruption.foreign : P.Foreign kem.Learns := by
  intro key learns
  have isSecret : ∃ owner, K.SecretOf owner key := by
    cases learns with
    | decapsulates ciphertext _ => exact ⟨_, .decapsulated _ ciphertext⟩
    | encapsulates owner _ => exact ⟨owner, .encapsulated owner _⟩
  rcases isSecret with ⟨owner, isSecret⟩
  exact ⟨apart.ne_kdf isSecret, apart.ne_agreement isSecret⟩

theorem KemCorruption.learns_encapsulated_iff (lawful : K.Lawful) {key : FixedBytes 1184}
    {randomness : FixedBytes 32} :
    kem.Learns (K.encapsulateDeterministic key randomness).2 ↔
      kem.keys key ∨ kem.randomness randomness := by
  constructor
  · intro learns
    generalize same : (K.encapsulateDeterministic key randomness).2 = secret at learns
    have isSecret : K.SecretOf key secret := same ▸ .encapsulated key randomness
    cases learns with
    | decapsulates ciphertext corrupted =>
        rw [apart.one_key isSecret (.decapsulated _ ciphertext)]
        exact .inl corrupted
    | encapsulates other corrupted =>
        cases apart.one_key isSecret (.encapsulated other _)
        rw [apart.one_randomness same]
        exact .inr corrupted
  · intro either
    rcases either with corrupted | drawn
    · rcases kem.genuine key corrupted with ⟨seed, rfl⟩
      rw [← lawful.correct]
      exact .decapsulates _ corrupted
    · exact .encapsulates key drawn

theorem KemCorruption.learns_decapsulated_iff {seed : FixedBytes 64}
    {ciphertext : FixedBytes 1088} :
    kem.Learns (K.decapsulate seed ciphertext) ↔
      kem.keys (K.encapsulationKey seed) ∨ ∃ randomness, kem.randomness randomness ∧
        (K.encapsulateDeterministic (K.encapsulationKey seed) randomness).2 =
          K.decapsulate seed ciphertext := by
  constructor
  · intro learns
    generalize same : K.decapsulate seed ciphertext = secret at learns
    have isSecret : K.SecretOf (K.encapsulationKey seed) secret :=
      same ▸ .decapsulated seed ciphertext
    cases learns with
    | decapsulates ciphertext' corrupted =>
        rw [apart.one_key isSecret (.decapsulated _ ciphertext')]
        exact .inl corrupted
    | encapsulates other corrupted =>
        cases apart.one_key isSecret (.encapsulated other _)
        exact .inr ⟨_, corrupted, rfl⟩
  · intro either
    rcases either with corrupted | ⟨randomness, drawn, same⟩
    · exact .decapsulates _ corrupted
    · rw [← same]
      exact .encapsulates _ drawn

end Free

section Mixed

variable (free : P.FreeSymbols) {corruption : Corruption P} {known : Key → Prop}
  {handshake : AuthenticatedHandshake P} {sharedSecret : Key}

include free

theorem derives_mixed_iff (unknown : ¬known (handshake.mixed sharedSecret).rootSecret) :
    corruption.Derives known (handshake.mixed sharedSecret).rootSecret ↔
      corruption.Derives known handshake.rootSecret ∧ corruption.Derives known sharedSecret := by
  have takes : Takes (AdversaryDerives P corruption.Holds)
      [handshake.rootSecret, sharedSecret] (handshake.mixed sharedSecret).rootSecret := by
    have whole : Takes (AdversaryDerives P corruption.Holds) _
        (handshake.mixed sharedSecret).rootSecret := free.takes_kdf _ _ _
    rwa [KeyMaterial.keys_ofBytes, KeyMaterial.keys_append, KeyMaterial.keys_ofKey,
      KeyMaterial.keys_ofKey] at whole
  rw [Corruption.Derives, takes.derivable_iff, or_iff_right unknown, List.forall_mem_cons,
    List.forall_mem_singleton]

omit free in
theorem derives_secretOf_iff (apart : K.FreeSecrets P) {key : FixedBytes 1184}
    (isSecret : K.SecretOf key sharedSecret) :
    corruption.Derives known sharedSecret ↔ known sharedSecret := by
  constructor
  · intro derivable
    cases derivable with
    | known isKnown => exact isKnown
    | rule applied _ =>
        cases applied with
        | derivation => exact absurd rfl (apart.ne_kdf isSecret _ _ _)
        | agreement => exact absurd rfl (apart.ne_agreement isSecret _ _)
  · exact .known

end Mixed

/-- Who computes what of a hybrid session, on either side: those that break the classical
handshake, and the encapsulation as well. For a message, they break each agreement before it
too. -/
theorem derives_hybridSession_iff (free : P.FreeSymbols) (lawful : P.LawfulX25519)
    (apart : K.FreeSecrets P) (correct : K.Lawful) (corruption : Corruption P)
    (kem : KemCorruption K) :
    (∀ {ephemeralEntropy ratchetEntropy pqEntropy : Entropy} {identity : LocalIdentity P}
      {bundle : HybridResponderPrekeyBundle} {nowUnix : UInt64}
      {message : HybridInitiatorHandshake} {handshake : AuthenticatedHandshake P},
      Hybrid.initiate K ephemeralEntropy ratchetEntropy pqEntropy identity bundle nowUnix =
        .ok (message, handshake) →
      ∃ randomness, pqEntropy 32 = some randomness ∧ corruption.Settles kem.Learns handshake
        ((message.classical.keysFor bundle.classical).Broken corruption.keys ∧
          (kem.keys bundle.pqPublic ∨ kem.randomness randomness))) ∧
    ∀ {message : HybridInitiatorHandshake} {material next : HybridResponderPrekeyMaterial P K}
      {handshake : AuthenticatedHandshake P},
      HybridResponderPrekeyMaterial.accept message material = (.ok handshake, next) →
      ∃ signed oneTime, Accepts material.classical message.classical signed oneTime ∧
        corruption.Settles kem.Learns handshake
          ((message.classical.keysWith material.classical.identity.dh signed oneTime).Broken
              corruption.keys ∧
            (kem.keys material.pq.publicKey ∨ ∃ randomness, kem.randomness randomness ∧
              (K.encapsulateDeterministic material.pq.publicKey randomness).2 =
                material.pq.decapsulate message.pqCiphertext)) := by
  have foreign : P.Foreign kem.Learns := KemCorruption.foreign apart
  have unknown (handshake : AuthenticatedHandshake P) (sharedSecret : Key) :
      ¬kem.Learns (handshake.mixed sharedSecret).rootSecret := fun isKnown =>
    (foreign _ isKnown).1 _ _ _ rfl
  constructor
  · intro ephemeralEntropy ratchetEntropy pqEntropy identity bundle nowUnix message handshake
      initiated
    rcases Hybrid.parts_of_initiate initiated
      with ⟨classical, sharedSecret, classicalPart, encapsulated, rfl⟩
    unfold MlKem768PublicKey.encapsulate fillSecure at encapsulated
    rcases Outcome.bind_eq_ok.mp encapsulated with ⟨randomness, drawn, encapsulated⟩
    have same : sharedSecret = (K.encapsulateDeterministic bundle.pqPublic randomness).2 :=
      (congrArg Prod.snd (Outcome.ok.inj encapsulated)).symm
    refine ⟨randomness, Outcome.okOr_eq_ok.mp drawn,
      Corruption.settles_of_root foreign free lawful (unknown _ _) ?_⟩
    rw [derives_mixed_iff free (unknown _ _), same,
      derives_initiated_iff free lawful corruption foreign classicalPart,
      derives_secretOf_iff apart (.encapsulated _ _),
      KemCorruption.learns_encapsulated_iff apart correct]
  · intro message material next handshake accepted
    rcases HybridResponderPrekeyMaterial.parts_of_accept accepted
      with ⟨classical, classicalNext, classicalPart, rfl⟩
    rcases derives_accepted_iff free lawful corruption foreign classicalPart
      with ⟨signed, oneTime, accepts, root⟩
    refine ⟨signed, oneTime, accepts,
      Corruption.settles_of_root foreign free lawful (unknown _ _) ?_⟩
    rw [derives_mixed_iff free (unknown _ _), root, material.pq.publicKey_eq,
      MlKem768KeyPair.decapsulate, derives_secretOf_iff apart (.decapsulated _ _),
      KemCorruption.learns_decapsulated_iff apart]

/-! ## What a hybrid responder keeps

Its operations never replace the signed prekey or the encapsulation key. -/

def HybridCall.classical : HybridCall → PrekeyCall
  | .addOneTimePrekey entropy id => .addOneTimePrekey entropy id
  | .bundle => .bundle
  | .accept message => .accept message.classical

variable (P K) in
abbrev HybridTransition := Transition (HybridResponderPrekeyMaterial P K) HybridCall

def HybridTransition.classical (transition : HybridTransition P K) : PrekeyTransition P :=
  ⟨transition.current.classical, transition.event.classical, transition.next.classical⟩

theorem HybridStep.classical {current next : HybridResponderPrekeyMaterial P K}
    {call : HybridCall} (step : HybridStep current call next) :
    PrekeyStep current.classical call.classical next.classical := by
  rw [step]
  cases call with
  | addOneTimePrekey entropy id => rfl
  | bundle => rfl
  | accept message =>
      rw [HybridResponderPrekeyMaterial.after, HybridResponderPrekeyMaterial.accept_eq]
      rfl

section Runs

variable {start final : HybridResponderPrekeyMaterial P K}
  {transitions : List (HybridTransition P K)}

theorem classical_of_run (run : Run HybridStep start transitions final) :
    Run PrekeyStep start.classical (transitions.map HybridTransition.classical)
      final.classical :=
  run.image HybridResponderPrekeyMaterial.classical (fun _ call => call.classical)
    fun _ _ step => HybridStep.classical step

theorem kept_of_run (run : Run HybridStep start transitions final) :
    final.classical.signedPrekeys = start.classical.signedPrekeys ∧ final.pq = start.pq := by
  refine @Run.invariant _ _ _ _ _ _ (fun material =>
    material.classical.signedPrekeys = start.classical.signedPrekeys ∧
      material.pq = start.pq) run ⟨rfl, rfl⟩ ?_
  intro current call next step kept
  have changes := PrekeyStep.changes (HybridStep.classical step)
  refine ⟨Eq.trans ?_ kept.1, Eq.trans ?_ kept.2⟩
  · cases call with
    | bundle =>
        rw [step]
        rfl
    | addOneTimePrekey entropy id =>
        rw [HybridCall.classical] at changes
        generalize next.classical = after at changes
        cases changes <;> rfl
    | accept message =>
        rw [HybridCall.classical] at changes
        generalize next.classical = after at changes
        cases changes with
        | unchanged => rfl
        | accepted => exact ResponderPrekeyMaterial.signedPrekeys_consume _ _
  · rw [step]
    cases call with
    | addOneTimePrekey => rfl
    | bundle => rfl
    | accept message =>
        rw [HybridResponderPrekeyMaterial.after, HybridResponderPrekeyMaterial.accept_eq]

end Runs

theorem visited_classical {transitions : List (HybridTransition P K)}
    {start material : HybridResponderPrekeyMaterial P K}
    (visited : material ∈ Run.visited start transitions) :
    material.classical ∈ Run.visited start.classical
      (transitions.map HybridTransition.classical) := by
  have mapped : Run.visited start.classical (transitions.map HybridTransition.classical) =
      (Run.visited start transitions).map HybridResponderPrekeyMaterial.classical := by
    simp only [Run.visited, List.map_cons, List.map_map]
    rfl
  rw [mapped]
  exact List.mem_map_of_mem visited

theorem HybridResponderPrekeyMaterial.accept_classical {message : HybridInitiatorHandshake}
    {material next : HybridResponderPrekeyMaterial P K} {answer : AuthenticatedHandshake P}
    (accepted : accept message material = (.ok answer, next)) :
    ∃ classical, Mef26.accept message.classical material.classical =
        (.ok classical, next.classical) ∧
      answer = classical.mixed (material.pq.decapsulate message.pqCiphertext) := by
  rcases parts_of_accept accepted with ⟨classical, classicalNext, classicalPart, rfl⟩
  have step := congrArg Prod.snd accepted
  rw [accept_eq, classicalPart] at step
  have same : classicalNext = next.classical :=
    congrArg HybridResponderPrekeyMaterial.classical step
  exact ⟨classical, same ▸ classicalPart, rfl⟩

def KemCorruption.exposing (others : KemCorruption K)
    (exposed : List (HybridResponderPrekeyMaterial P K)) : KemCorruption K where
  keys key := others.keys key ∨ ∃ material ∈ exposed, key = material.pq.publicKey
  genuine := by
    intro key corrupted
    rcases corrupted with other | ⟨material, _, rfl⟩
    · exact others.genuine key other
    · exact ⟨_, material.pq.publicKey_eq.symm⟩
  randomness := others.randomness

/-- Forward secrecy of the hybrid handshake over every run of a responder. Whoever learns the
material at any points after a message was accepted breaks the session exactly if the
message named no one-time prekey: nothing else of what it needs ever leaves the material. -/
theorem hybridAnswer_settles (free : P.FreeSymbols) (lawful : P.LawfulX25519)
    (secrets : K.FreeSecrets P)
    {signingEntropy dhEntropy prekeyEntropy pqEntropy : Entropy} {id : UInt32}
    {expiresAtUnix : UInt64} {start final : HybridResponderPrekeyMaterial P K}
    {before after : List (HybridTransition P K)} {transition : HybridTransition P K}
    (generated : HybridResponderPrekeyMaterial.generate signingEntropy dhEntropy prekeyEntropy
      pqEntropy id expiresAtUnix = .ok start)
    (run : Run HybridStep start (before ++ transition :: after) final)
    (distinct : (ownKeys start.classical ((before ++ transition :: after).map
      HybridTransition.classical)).Nodup)
    {message : HybridInitiatorHandshake} {answer : AuthenticatedHandshake P}
    (accepted : HybridResponderPrekeyMaterial.accept message transition.current =
      (.ok answer, transition.next))
    {others : Corruption P} (otherKem : KemCorruption K)
    (apart : ∀ key, others.keys key → key ∉ ownKeys start.classical
      ((before ++ transition :: after).map HybridTransition.classical))
    (unknown : ¬others.keys message.classical.initiatorEphemeral)
    (foreign : message.classical.initiatorEphemeral ∉ ownKeys start.classical
      ((before ++ transition :: after).map HybridTransition.classical))
    {exposed : List (HybridResponderPrekeyMaterial P K)}
    (later : ∀ material ∈ exposed, material ∈ Run.visited transition.next after) :
    (others.exposing (exposed.map HybridResponderPrekeyMaterial.classical)).Settles
      (otherKem.exposing exposed).Learns answer
      (message.classical.oneTimePrekeyId = none ∧ exposed ≠ []) := by
  have noKdf : P.Foreign (otherKem.exposing exposed).Learns := KemCorruption.foreign secrets
  have wellFormed := ResponderPrekeyMaterial.wellFormed_generate
    (HybridResponderPrekeyMaterial.generate_classical generated)
  rcases HybridResponderPrekeyMaterial.accept_classical accepted
    with ⟨classical, classicalPart, rfl⟩
  rcases derives_accepted_iff free lawful
    (others.exposing (exposed.map HybridResponderPrekeyMaterial.classical)) noKdf classicalPart
    with ⟨signed, oneTime, accepts, root⟩
  have unlearned : ¬(otherKem.exposing exposed).Learns
      (classical.mixed (transition.current.pq.decapsulate message.pqCiphertext)).rootSecret :=
    fun isKnown => (noKdf _ isKnown).1 _ _ _ rfl
  apply Corruption.settles_of_root noKdf free lawful unlearned
  rw [derives_mixed_iff free unlearned, root, MlKem768KeyPair.decapsulate,
    derives_secretOf_iff secrets (.decapsulated _ _),
    KemCorruption.learns_decapsulated_iff secrets]
  -- The classical part is a run of a classical responder.
  have classicalRun := classical_of_run run
  rw [List.map_append, List.map_cons] at classicalRun distinct apart foreign
  have visited : ∀ material ∈ exposed.map HybridResponderPrekeyMaterial.classical,
      material ∈ Run.visited transition.next.classical
        (after.map HybridTransition.classical) := by
    intro material member
    rcases List.mem_map.mp member with ⟨hybrid, isExposed, rfl⟩
    exact visited_classical (later hybrid isExposed)
  have broken := broken_exposed_iff classicalRun wellFormed distinct accepts
    (accept_eq_ok.mp classicalPart).2 apart unknown foreign visited
  have stays (material : HybridResponderPrekeyMaterial P K) (member : material ∈ exposed) :
      material.classical.signedPrekeys = transition.current.classical.signedPrekeys ∧
        material.pq = transition.current.pq := by
    rcases run.around.2.2.exists_run_of_visited (later material member)
      with ⟨past, rest, _, reached⟩
    exact kept_of_run (.cons run.around.2.1 reached)
  refine (and_congr broken Iff.rfl).trans ?_
  constructor
  · intro both
    rcases both with ⟨⟨noOneTime, material, member, _⟩, _⟩
    exact ⟨noOneTime, List.ne_nil_of_mem (List.mem_map.mp member).choose_spec.1⟩
  · intro both
    rcases both with ⟨noOneTime, nonempty⟩
    rcases List.exists_mem_of_ne_nil exposed nonempty with ⟨material, member⟩
    have signedStands :
        material.classical.lookup (.signed message.classical.signedPrekeyId) =
          transition.current.classical.lookup (.signed message.classical.signedPrekeyId) := by
      unfold ResponderPrekeyMaterial.lookup ResponderPrekeyMaterial.signedPair
      rw [(stays material member).1]
    refine ⟨⟨noOneTime, material.classical, List.mem_map_of_mem member, signedStands⟩,
      .inl (.inr ⟨material, member, ?_⟩)⟩
    rw [(stays material member).2, transition.current.pq.publicKey_eq]

/-! ## A symbolic hybrid responder -/

theorem Primitives.freeSymbols_hybridSymbolic : hybridSymbolic.FreeSymbols where
  kdf := by
    intro salt info input salt' info' input' same
    cases same
    exact ⟨rfl, rfl, rfl⟩
  agreement_ne_kdf _ _ _ _ _ same := by cases same
  agreement_eq secret peer secret' peer' same := by
    rcases Sym2.eq_iff.mp (HybridTerm.agreement.inj same) with ⟨secrets, _⟩ | ⟨crossed, _⟩
    · exact .inl secrets
    · exact .inr crossed

theorem secretOf_symbolicKem {key : FixedBytes 1184} {secret : HybridTerm}
    (isSecret : symbolicKem.SecretOf key secret) :
    ∃ randomness, secret = .encapsulated key randomness := by
  cases isSecret with
  | decapsulated seed ciphertext => exact ⟨_, rfl⟩
  | encapsulated key randomness => exact ⟨randomness, rfl⟩

theorem freeSecrets_symbolicKem : symbolicKem.FreeSecrets Primitives.hybridSymbolic where
  ne_kdf := by
    intro key secret isSecret salt info input same
    rcases secretOf_symbolicKem isSecret with ⟨randomness, rfl⟩
    cases same
  ne_agreement := by
    intro key secret isSecret own peer same
    rcases secretOf_symbolicKem isSecret with ⟨randomness, rfl⟩
    cases same
  one_key := by
    intro key key' secret isSecret isSecret'
    rcases secretOf_symbolicKem isSecret with ⟨randomness, rfl⟩
    rcases secretOf_symbolicKem isSecret' with ⟨randomness', same⟩
    cases same
    rfl
  one_randomness := by
    intro key randomness randomness' same
    cases same
    rfl

def sampleHybridStart :
    HybridResponderPrekeyMaterial Primitives.hybridSymbolic symbolicKem where
  classical := sampleMaterial _
  pq := {
    secret := .replicate 64 8
    publicKey := symbolicKem.encapsulationKey (.replicate 64 8)
    publicKey_eq := rfl }

theorem generate_sampleHybridStart :
    HybridResponderPrekeyMaterial.generate (constantEntropy 1) (constantEntropy 2)
      (constantEntropy 3) (constantEntropy 8) 7 2000 = .ok sampleHybridStart := rfl

def sampleHybridPublished :
    HybridResponderPrekeyMaterial Primitives.hybridSymbolic symbolicKem :=
  { sampleHybridStart with classical := samplePublished _ }

def sampleHybridMessage
    (material : HybridResponderPrekeyMaterial Primitives.hybridSymbolic symbolicKem) :
    HybridInitiatorHandshake where
  classical := initiatorMessage (sampleInitiator Primitives.hybridSymbolic)
    material.classical.bundle (.fromSecret (.replicate 32 11)) (.fromSecret (.replicate 32 12))
  pqCiphertext :=
    (symbolicKem.encapsulateDeterministic material.pq.publicKey (.replicate 32 13)).1

def sampleHybridInitiated : AuthenticatedHandshake Primitives.hybridSymbolic :=
  (initiatorHandshake (sampleInitiator _) sampleHybridStart.classical.bundle
    (.fromSecret (.replicate 32 11)) (.fromSecret (.replicate 32 12))).mixed
    (symbolicKem.encapsulateDeterministic sampleHybridStart.pq.publicKey (.replicate 32 13)).2

def corruptedKeys (keys : List DhPublicKey) : Corruption Primitives.hybridSymbolic where
  keys key := key ∈ keys
  genuine key _ := ⟨key, rfl⟩

instance (keys : List DhPublicKey) : DecidablePred (corruptedKeys keys).keys :=
  fun key => inferInstanceAs (Decidable (key ∈ keys))

def corruptedKem (broken : Bool) : KemCorruption symbolicKem where
  keys key := broken ∧ key = sampleHybridStart.pq.publicKey
  genuine := by
    intro key corrupted
    rw [corrupted.2]
    exact ⟨_, rfl⟩
  randomness _ := False

/-- Neither the classical keys nor the encapsulation key suffice alone. -/
theorem derives_hybridSession_sample :
    ¬(corruptedKeys [.replicate 32 2, .replicate 32 3]).Derives (corruptedKem false).Learns
        sampleHybridInitiated.rootSecret ∧
      ¬(corruptedKeys []).Derives (corruptedKem true).Learns
        sampleHybridInitiated.rootSecret ∧
      (corruptedKeys [.replicate 32 2, .replicate 32 3]).Derives (corruptedKem true).Learns
        sampleHybridInitiated.rootSecret := by
  have initiated : Hybrid.initiate symbolicKem (constantEntropy 11) (constantEntropy 12)
      (constantEntropy 13) (sampleInitiator _) sampleHybridStart.publicBundle 2000 =
      .ok (sampleHybridMessage sampleHybridStart, sampleHybridInitiated) :=
    hybridInitiate_published Primitives.lawfulX25519_hybridSymbolic
      Primitives.lawfulEd25519_hybridSymbolic (ResponderPrekeyMaterial.wellFormed_generate
        (HybridResponderPrekeyMaterial.generate_classical generate_sampleHybridStart))
      rfl rfl rfl (sampleInitiator _)
      (show 2000 ≤ sampleHybridStart.classical.signedRecord.expiresAtUnix by decide)
  have table (keys : List DhPublicKey) (broken : Bool) :=
    (derives_hybridSession_iff Primitives.freeSymbols_hybridSymbolic
      Primitives.lawfulX25519_hybridSymbolic freeSecrets_symbolicKem lawful_symbolicKem
      (corruptedKeys keys) (corruptedKem broken)).1 initiated
  refine ⟨?_, ?_, ?_⟩
  · intro derives
    rcases table [.replicate 32 2, .replicate 32 3] false with ⟨_, _, settles⟩
    rcases (settles.root.mp derives).2 with kem | known
    · exact absurd kem.1 (by decide)
    · exact known
  · intro derives
    rcases table [] true with ⟨_, _, settles⟩
    rcases (settles.root.mp derives).1.1 with initiator | signed
    · exact absurd initiator (by decide)
    · exact absurd signed (by decide)
  · rcases table [.replicate 32 2, .replicate 32 3] true with ⟨_, _, settles⟩
    refine settles.root.mpr ⟨⟨.inr (by decide), .inr (by decide), .inr (by decide), ?_⟩,
      .inl ⟨rfl, rfl⟩⟩
    intro oneTime offered
    cases offered

def sampleHybridAnswer (oneTime : Option (DhKeyPair Primitives.hybridSymbolic))
    (material : HybridResponderPrekeyMaterial Primitives.hybridSymbolic symbolicKem) :
    AuthenticatedHandshake Primitives.hybridSymbolic :=
  (responderHandshake material.classical.identity (sampleHybridMessage material).classical
    (.fromSecret (.replicate 32 3)) oneTime).mixed
    (material.pq.decapsulate (sampleHybridMessage material).pqCiphertext)

theorem accept_sampleHybrid (oneTime : Option (DhKeyPair Primitives.hybridSymbolic))
    (material : HybridResponderPrekeyMaterial Primitives.hybridSymbolic symbolicKem)
    (accepts : Accepts material.classical (sampleHybridMessage material).classical
      (.fromSecret (.replicate 32 3)) oneTime) :
    HybridResponderPrekeyMaterial.accept (sampleHybridMessage material) material =
      (.ok (sampleHybridAnswer oneTime material),
        { material with
          classical := material.classical.consume
            (sampleHybridMessage material).classical.oneTimePrekeyId }) := by
  rw [HybridResponderPrekeyMaterial.accept_eq,
    accept_eq_ok.mpr ⟨⟨_, _, accepts, rfl⟩, rfl⟩]
  rfl

/-- A responder is exposed right after it accepted. The session of a message with a one-time
prekey is safe, that of a message without is not. -/
theorem hybridAnswer_settles_sample :
    ¬((corruptedKeys [.replicate 32 10]).exposing [sampleHybridStart.classical]).Derives
        ((corruptedKem false).exposing [sampleHybridStart]).Learns
        (sampleHybridAnswer (some (.fromSecret (.replicate 32 4)))
          sampleHybridPublished).rootSecret ∧
      ((corruptedKeys [.replicate 32 10]).exposing [sampleHybridStart.classical]).Derives
        ((corruptedKem false).exposing [sampleHybridStart]).Learns
        (sampleHybridAnswer none sampleHybridStart).rootSecret := by
  have free := Primitives.freeSymbols_hybridSymbolic
  have lawful := Primitives.lawfulX25519_hybridSymbolic
  have verified := (sampleInitiator _).verify_publicRecord Primitives.lawfulEd25519_hybridSymbolic
  have numbered := accept_sampleHybrid (some (.fromSecret (.replicate 32 4)))
    sampleHybridPublished
    ⟨verified, rfl, rfl, rfl, rfl, rfl, fun _ _ => rfl⟩
  have unnumbered := accept_sampleHybrid none sampleHybridStart
    ⟨verified, rfl, rfl, rfl, rfl, rfl, by simp⟩
  have apart {own : List DhPublicKey} (absent : .replicate 32 10 ∉ own) (key : DhPublicKey)
      (corrupted : (corruptedKeys [.replicate 32 10]).keys key) : key ∉ own := by
    rw [List.mem_singleton.mp corrupted]
    exact absent
  constructor
  · have run : Run HybridStep sampleHybridStart
        ([⟨sampleHybridStart, .addOneTimePrekey (constantEntropy 4) 19, sampleHybridPublished⟩] ++
          ⟨sampleHybridPublished, .accept (sampleHybridMessage sampleHybridPublished),
            sampleHybridStart⟩ :: []) sampleHybridStart :=
      .cons rfl (.cons (congrArg Prod.snd numbered).symm (.nil _))
    have settles := hybridAnswer_settles free lawful freeSecrets_symbolicKem
      generate_sampleHybridStart run (by decide) numbered (corruptedKem false)
      (apart (by decide)) (by decide) (by decide)
      (List.forall_mem_singleton.mpr (List.mem_cons_self ..))
    intro derives
    exact absurd (settles.root.mp derives).1 (by decide)
  · have run : Run HybridStep sampleHybridStart
        ([] ++ ⟨sampleHybridStart, .accept (sampleHybridMessage sampleHybridStart),
          sampleHybridStart⟩ :: []) sampleHybridStart :=
      .cons (congrArg Prod.snd unnumbered).symm (.nil _)
    have settles := hybridAnswer_settles free lawful freeSecrets_symbolicKem
      generate_sampleHybridStart run (by decide) unnumbered (corruptedKem false)
      (apart (by decide)) (by decide) (by decide)
      (List.forall_mem_singleton.mpr (List.mem_cons_self ..))
    exact settles.root.mpr ⟨rfl, List.cons_ne_nil _ _⟩

end Mef26
