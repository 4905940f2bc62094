import Mef26.Foundation.Keyed
import Mef26.Handshake.Protocol
import Mef26.Ratchet.Steps

namespace Mef26

/-! # What the two sides of a handshake compute

`initiate` and `accept` as closed expressions over the keys each side works with. -/

open Handshake

variable {Key : Type}

/-! ## Derived values -/

@[simp] theorem InitiatorHandshake.length_encode (message : InitiatorHandshake) :
    message.encode.length = 205 := by
  have magicLength : magic.length = 3 := by decide
  unfold InitiatorHandshake.encode
  cases message.oneTimePrekeyId <;>
    simp only [List.length_append, magicLength, List.length_singleton,
      FixedBytes.length_bytes, length_beBytes32]

@[simp] theorem length_identityPublicWire (identity : IdentityDhPublic) :
    (identityPublicWire identity).length = 128 := by
  simp [identityPublicWire]

variable (P : Primitives Key)

def sessionIdOf (message : InitiatorHandshake) (responder : IdentityDhPublic) :
    FixedBytes 32 :=
  P.blake3 (blake3Input sessionLabel
    [.ofBytes message.encode, .ofBytes (identityPublicWire responder)])

def rootInput (dh1 dh2 dh3 : Key) (dh4 : Option Key) : KeyMaterial Key :=
  KeyMaterial.ofKey dh1 ++ KeyMaterial.ofKey dh2 ++ KeyMaterial.ofKey dh3 ++
    match dh4 with
    | some value => KeyMaterial.ofKey value
    | none => []

def rootSecretOf (sessionId : FixedBytes 32) (dh1 dh2 dh3 : Key) (dh4 : Option Key) : Key :=
  P.hkdfSha256 (.ofBytes sessionId.bytes) (domainLabel "kdf" rootLabel)
    (rootInput dh1 dh2 dh3 dh4)

theorem byteLength_rootInput_le (dh1 dh2 dh3 : Key) (dh4 : Option Key) :
    KeyMaterial.byteLength (rootInput dh1 dh2 dh3 dh4) ≤ 128 := by
  unfold rootInput
  cases dh4 <;> simp [KeyMaterial.byteLength, KeyMaterial.ofKey]

theorem rootInput_injective {dh1 dh2 dh3 dh1' dh2' dh3' : Key} {dh4 dh4' : Option Key}
    (same : rootInput dh1 dh2 dh3 dh4 = rootInput dh1' dh2' dh3' dh4') :
    dh1 = dh1' ∧ dh2 = dh2' ∧ dh3 = dh3' ∧ dh4 = dh4' := by
  unfold rootInput at same
  cases dh4 <;> cases dh4' <;> simp_all [KeyMaterial.ofKey]

theorem deriveHandshakeValues_eq (message : InitiatorHandshake) (responder : IdentityDhPublic)
    (dh1 dh2 dh3 : Key) (dh4 : Option Key) :
    deriveHandshakeValues P message responder dh1 dh2 dh3 dh4 =
      .ok (sessionIdOf P message responder,
        rootSecretOf P (sessionIdOf P message responder) dh1 dh2 dh3 dh4) := by
  have short : ∀ part ∈ ([.ofBytes message.encode, .ofBytes (identityPublicWire responder)] :
      List (KeyMaterial Key)), KeyMaterial.byteLength part ≤ maxCiphertextLen := by
    simp [maxCiphertextLen]
  have bounded : KeyMaterial.byteLength (rootInput dh1 dh2 dh3 dh4) ≤ maxCiphertextLen :=
    Nat.le_trans (byteLength_rootInput_le dh1 dh2 dh3 dh4) (by decide)
  simp only [deriveHandshakeValues]
  rw [blake3Id_eq P (by decide) short, Outcome.ok_bind]
  exact congrArg (· >>= _) (deriveSecret_eq P (by decide) bounded)

variable {P}

/-- A public key with which an agreement is not refused. -/
def DhKeyPair.Agrees (pair : DhKeyPair P) (peer : DhPublicKey) : Prop :=
  P.wasContributory (P.x25519 pair.secret peer) = true

theorem DhKeyPair.agrees_honest (lawful : P.LawfulX25519) (left right : DhKeyPair P) :
    left.Agrees right.publicKey := by
  rw [Agrees, right.publicKey_eq]
  exact lawful.contributory _ _

/-! ## The initiator -/

def initiatorMessage (identity : LocalIdentity P) (bundle : ResponderPrekeyBundle)
    (ephemeral ratchet : DhKeyPair P) : InitiatorHandshake where
  initiatorIdentity := identity.publicRecord
  initiatorEphemeral := ephemeral.publicKey
  initiatorRatchet := ratchet.publicKey
  signedPrekeyId := bundle.signedPrekey.keyId
  oneTimePrekeyId := bundle.oneTimePrekey.map fun prekey => prekey.id

def initiatorHandshake (identity : LocalIdentity P) (bundle : ResponderPrekeyBundle)
    (ephemeral ratchet : DhKeyPair P) : AuthenticatedHandshake P where
  sessionId := sessionIdOf P (initiatorMessage identity bundle ephemeral ratchet)
    bundle.identity
  rootSecret := rootSecretOf P
    (sessionIdOf P (initiatorMessage identity bundle ephemeral ratchet) bundle.identity)
    (P.x25519 identity.dh.secret bundle.signedPrekey.publicKey)
    (P.x25519 ephemeral.secret bundle.identity.dh)
    (P.x25519 ephemeral.secret bundle.signedPrekey.publicKey)
    (bundle.oneTimePrekey.map fun prekey => P.x25519 ephemeral.secret prekey.publicKey)
  role := .initiator
  localRatchet := ratchet
  remoteRatchet := bundle.signedPrekey.publicKey

theorem initiate_eq_ok {ephemeralEntropy ratchetEntropy : Entropy}
    {identity : LocalIdentity P} {bundle : ResponderPrekeyBundle} {nowUnix : UInt64}
    {message : InitiatorHandshake} {handshake : AuthenticatedHandshake P} :
    initiate ephemeralEntropy ratchetEntropy identity bundle nowUnix =
        .ok (message, handshake) ↔
      bundle.verify P nowUnix = .ok ⟨⟩ ∧
      ∃ ephemeral ratchet : DhKeyPair P,
        DhKeyPair.generate ephemeralEntropy = .ok ephemeral ∧
        DhKeyPair.generate ratchetEntropy = .ok ratchet ∧
        identity.dh.Agrees bundle.signedPrekey.publicKey ∧
        ephemeral.Agrees bundle.identity.dh ∧
        ephemeral.Agrees bundle.signedPrekey.publicKey ∧
        (∀ prekey ∈ bundle.oneTimePrekey, ephemeral.Agrees prekey.publicKey) ∧
        message = initiatorMessage identity bundle ephemeral ratchet ∧
        handshake = initiatorHandshake identity bundle ephemeral ratchet := by
  rcases bundle with ⟨responder, signed, offered⟩
  cases offered with
  | none =>
      simp only [initiate, deriveHandshakeValues_eq, Outcome.bind_eq_ok, Outcome.ok_bind,
        Outcome.pure_eq_ok, DhKeyPair.diffieHellman_eq_ok, Outcome.ok.injEq, Prod.mk.injEq]
      constructor
      · intro initiated
        rcases initiated with ⟨_, verified, ephemeral, drawn, ratchet, drawn', _,
          ⟨agrees1, rfl⟩, _, ⟨agrees2, rfl⟩, _, ⟨agrees3, rfl⟩, rfl, rfl⟩
        exact ⟨verified, ephemeral, ratchet, drawn, drawn', agrees1, agrees2, agrees3,
          by simp, rfl, rfl⟩
      · intro initiated
        rcases initiated with ⟨verified, ephemeral, ratchet, drawn, drawn', agrees1, agrees2,
          agrees3, _, rfl, rfl⟩
        exact ⟨_, verified, ephemeral, drawn, ratchet, drawn', _, ⟨agrees1, rfl⟩, _,
          ⟨agrees2, rfl⟩, _, ⟨agrees3, rfl⟩, rfl, rfl⟩
  | some prekey =>
      simp only [initiate, deriveHandshakeValues_eq, Outcome.bind_eq_ok, Outcome.ok_bind,
        Outcome.pure_eq_ok, DhKeyPair.diffieHellman_eq_ok, Outcome.ok.injEq, Prod.mk.injEq]
      constructor
      · intro initiated
        rcases initiated with ⟨_, verified, ephemeral, drawn, ratchet, drawn', _,
          ⟨agrees1, rfl⟩, _, ⟨agrees2, rfl⟩, _, ⟨agrees3, rfl⟩, _, ⟨agrees4, rfl⟩, rfl, rfl⟩
        refine ⟨verified, ephemeral, ratchet, drawn, drawn', agrees1, agrees2, agrees3, ?_,
          rfl, rfl⟩
        intro other offered
        cases offered
        exact agrees4
      · intro initiated
        rcases initiated with ⟨verified, ephemeral, ratchet, drawn, drawn', agrees1, agrees2,
          agrees3, agrees4, rfl, rfl⟩
        exact ⟨_, verified, ephemeral, drawn, ratchet, drawn', _, ⟨agrees1, rfl⟩, _,
          ⟨agrees2, rfl⟩, _, ⟨agrees3, rfl⟩, _, ⟨agrees4 prekey rfl, rfl⟩, rfl, rfl⟩

/-! ## The responder -/

namespace ResponderPrekeyMaterial

def signedPrekeys (material : ResponderPrekeyMaterial P) :
    List (SignedPrekey × DhKeyPair P) :=
  (material.signedRecord, material.signedPrekey) :: material.retiredSignedPrekeys

def signedPair (material : ResponderPrekeyMaterial P) (id : UInt32) : Option (DhKeyPair P) :=
  (Keyed.find (fun entry => entry.1.keyId) material.signedPrekeys id).map Prod.snd

def oneTimeEntry (material : ResponderPrekeyMaterial P) (id : UInt32) :
    Option (OneTimePrekey P) :=
  Keyed.find (fun entry => entry.publicPart.id) material.oneTimePrekeys id

def requestedPair (material : ResponderPrekeyMaterial P) :
    Option UInt32 → Option (Option (DhKeyPair P))
  | none => some none
  | some id => (material.oneTimeEntry id).map fun entry => some entry.key

def consume (material : ResponderPrekeyMaterial P) : Option UInt32 → ResponderPrekeyMaterial P
  | none => material
  | some id =>
      { material with
        oneTimePrekeys := Keyed.remove (fun entry => entry.publicPart.id)
          material.oneTimePrekeys id }

end ResponderPrekeyMaterial

theorem findSignedPrekey_eq (material : ResponderPrekeyMaterial P) (id : UInt32) :
    findSignedPrekey material id = Outcome.okOr .ratchetStateMismatch
      (material.signedPair id) := by
  unfold findSignedPrekey ResponderPrekeyMaterial.signedPair
    ResponderPrekeyMaterial.signedPrekeys Keyed.find
  by_cases current : material.signedRecord.keyId = id
  · simp [current]
  · rw [if_neg (Ne.symm current), List.find?_cons_of_neg (by simpa using current)]
    cases material.retiredSignedPrekeys.find? fun entry => entry.1.keyId = id with
    | none => rfl
    | some entry => exact congrArg Outcome.ok (DhKeyPair.fromSecret_secret entry.2)

def responderHandshake (identity : LocalIdentity P) (message : InitiatorHandshake)
    (signed : DhKeyPair P) (oneTime : Option (DhKeyPair P)) : AuthenticatedHandshake P where
  sessionId := sessionIdOf P message identity.publicRecord
  rootSecret := rootSecretOf P (sessionIdOf P message identity.publicRecord)
    (P.x25519 signed.secret message.initiatorIdentity.dh)
    (P.x25519 identity.dh.secret message.initiatorEphemeral)
    (P.x25519 signed.secret message.initiatorEphemeral)
    (oneTime.map fun pair => P.x25519 pair.secret message.initiatorEphemeral)
  role := .responder
  localRatchet := signed
  remoteRatchet := message.initiatorRatchet

def acceptValue (message : InitiatorHandshake) (material : ResponderPrekeyMaterial P) :
    Result (AuthenticatedHandshake P) := do
  message.initiatorIdentity.verify P
  let signed ← Outcome.okOr .ratchetStateMismatch
    (material.signedPair message.signedPrekeyId)
  let oneTime ← Outcome.okOr .ratchetStateMismatch
    (material.requestedPair message.oneTimePrekeyId)
  let _ ← signed.diffieHellman message.initiatorIdentity.dh
  let _ ← material.identity.dh.diffieHellman message.initiatorEphemeral
  let _ ← signed.diffieHellman message.initiatorEphemeral
  match oneTime with
  | some pair => do
      let _ ← pair.diffieHellman message.initiatorEphemeral
      return responderHandshake material.identity message signed oneTime
  | none => return responderHandshake material.identity message signed oneTime

theorem DhKeyPair.lift_diffieHellman_bind_settle {State α : Type} {pair : DhKeyPair P}
    {peer : DhPublicKey} {next : Key → Update State MefError α} {value : Key → Result α}
    {state accepted : State}
    (rest : next (P.x25519 pair.secret peer) state =
      (value (P.x25519 pair.secret peer)).settle accepted state) :
    ((liftM (pair.diffieHellman peer) : Update State MefError Key) >>= next) state =
      (pair.diffieHellman peer >>= value).settle accepted state := by
  apply Update.lift_bind_settle
  intro shared agreed
  rcases DhKeyPair.diffieHellman_eq_ok.mp agreed with ⟨_, rfl⟩
  exact rest

theorem accept_eq (message : InitiatorHandshake) (material : ResponderPrekeyMaterial P) :
    accept message material = (acceptValue message material).settle
      (material.consume message.oneTimePrekeyId) material := by
  unfold accept acceptValue
  rw [Update.read_bind_apply]
  apply Update.lift_bind_settle
  intro _ _
  rw [findSignedPrekey_eq]
  apply Update.lift_bind_settle
  intro signed _
  cases message.oneTimePrekeyId with
  | none =>
      simp only [findOneTimeIndex, ResponderPrekeyMaterial.requestedPair, Update.lift_ok_bind,
        Outcome.okOr_some, Outcome.ok_bind]
      apply DhKeyPair.lift_diffieHellman_bind_settle
      apply DhKeyPair.lift_diffieHellman_bind_settle
      apply DhKeyPair.lift_diffieHellman_bind_settle
      simp only [deriveHandshakeValues_eq]
      rfl
  | some id =>
      simp only [findOneTimeIndex, ResponderPrekeyMaterial.requestedPair,
        ResponderPrekeyMaterial.oneTimeEntry]
      cases search : material.oneTimePrekeys.findIdx? fun entry => entry.publicPart.id = id with
      | none =>
          rw [Keyed.findIdx?_eq_none.mp search]
          rfl
      | some index =>
          rcases Keyed.findIdx?_eq_some search with ⟨entry, element, found, removed⟩
          rw [found]
          simp only [Option.map_some, Outcome.okOr_some, Outcome.ok_bind, Outcome.pure_eq_ok,
            Update.lift_ok_bind]
          apply DhKeyPair.lift_diffieHellman_bind_settle
          apply DhKeyPair.lift_diffieHellman_bind_settle
          apply DhKeyPair.lift_diffieHellman_bind_settle
          simp only [elementAt, element, Update.lift_ok_bind]
          apply DhKeyPair.lift_diffieHellman_bind_settle
          simp only [deriveHandshakeValues_eq, ResponderPrekeyMaterial.consume, ← removed]
          rfl

/-- The keys with which a message is accepted. -/
structure Accepts (material : ResponderPrekeyMaterial P) (message : InitiatorHandshake)
    (signed : DhKeyPair P) (oneTime : Option (DhKeyPair P)) : Prop where
  verified : message.initiatorIdentity.verify P = .ok ⟨⟩
  signedFound : material.signedPair message.signedPrekeyId = some signed
  oneTimeFound : material.requestedPair message.oneTimePrekeyId = some oneTime
  agrees1 : signed.Agrees message.initiatorIdentity.dh
  agrees2 : material.identity.dh.Agrees message.initiatorEphemeral
  agrees3 : signed.Agrees message.initiatorEphemeral
  agrees4 : ∀ pair ∈ oneTime, pair.Agrees message.initiatorEphemeral

theorem acceptValue_eq_ok {message : InitiatorHandshake}
    {material : ResponderPrekeyMaterial P} {handshake : AuthenticatedHandshake P} :
    acceptValue message material = .ok handshake ↔
      ∃ signed oneTime, Accepts material message signed oneTime ∧
        handshake = responderHandshake material.identity message signed oneTime := by
  simp only [acceptValue, Outcome.bind_eq_ok, Outcome.okOr_eq_ok,
    DhKeyPair.diffieHellman_eq_ok]
  constructor
  · intro accepted
    rcases accepted with ⟨_, verified, signed, signedFound, oneTime, oneTimeFound, _,
      ⟨agrees1, _⟩, _, ⟨agrees2, _⟩, _, ⟨agrees3, _⟩, rest⟩
    cases oneTime with
    | none =>
        cases rest
        exact ⟨signed, none, ⟨verified, signedFound, oneTimeFound, agrees1, agrees2, agrees3,
          by simp⟩, rfl⟩
    | some pair =>
        rcases Outcome.bind_eq_ok.mp rest with ⟨_, agreed, rest⟩
        cases rest
        refine ⟨signed, some pair, ⟨verified, signedFound, oneTimeFound, agrees1, agrees2,
          agrees3, ?_⟩, rfl⟩
        intro other asked
        cases asked
        exact (DhKeyPair.diffieHellman_eq_ok.mp agreed).1
  · intro accepted
    rcases accepted with ⟨signed, oneTime, accepts, rfl⟩
    refine ⟨⟨⟩, accepts.verified, signed, accepts.signedFound, oneTime, accepts.oneTimeFound,
      _, ⟨accepts.agrees1, rfl⟩, _, ⟨accepts.agrees2, rfl⟩, _, ⟨accepts.agrees3, rfl⟩, ?_⟩
    cases oneTime with
    | none => rfl
    | some pair =>
        exact Outcome.bind_eq_ok.mpr ⟨_,
          DhKeyPair.diffieHellman_eq_ok.mpr ⟨accepts.agrees4 pair rfl, rfl⟩, rfl⟩

/-- A message that asks for a one-time prekey that is not held is refused. -/
theorem acceptValue_of_absent {message : InitiatorHandshake}
    {material : ResponderPrekeyMaterial P} {signed : DhKeyPair P}
    (verified : message.initiatorIdentity.verify P = .ok ⟨⟩)
    (signedFound : material.signedPair message.signedPrekeyId = some signed)
    (absent : material.requestedPair message.oneTimePrekeyId = none) :
    acceptValue message material = .err .ratchetStateMismatch := by
  unfold acceptValue
  rw [verified, Outcome.ok_bind, signedFound, Outcome.okOr_some, Outcome.ok_bind, absent]
  rfl

theorem acceptValue_ne_panic (message : InitiatorHandshake)
    (material : ResponderPrekeyMaterial P) : acceptValue message material ≠ .panic := by
  apply Outcome.bind_ne_panic (IdentityPublicKey.verify_ne_panic _ _ _ _)
  intro _ _
  apply Outcome.bind_ne_panic (Outcome.okOr_ne_panic _ _)
  intro signed _
  apply Outcome.bind_ne_panic (Outcome.okOr_ne_panic _ _)
  intro oneTime _
  apply Outcome.bind_ne_panic (DhKeyPair.diffieHellman_ne_panic _ _)
  intro _ _
  apply Outcome.bind_ne_panic (DhKeyPair.diffieHellman_ne_panic _ _)
  intro _ _
  apply Outcome.bind_ne_panic (DhKeyPair.diffieHellman_ne_panic _ _)
  intro _ _
  cases oneTime with
  | none => simp
  | some pair =>
      apply Outcome.bind_ne_panic (DhKeyPair.diffieHellman_ne_panic _ _)
      intro _ _
      simp

theorem accept_eq_ok {message : InitiatorHandshake}
    {material next : ResponderPrekeyMaterial P} {handshake : AuthenticatedHandshake P} :
    accept message material = (.ok handshake, next) ↔
      (∃ signed oneTime, Accepts material message signed oneTime ∧
        handshake = responderHandshake material.identity message signed oneTime) ∧
      next = material.consume message.oneTimePrekeyId := by
  rw [accept_eq, ← acceptValue_eq_ok]
  constructor
  · intro accepted
    have value := congrArg Prod.fst accepted
    rw [Outcome.settle_fst] at value
    rw [Outcome.settle_of_ok value, Prod.mk.injEq] at accepted
    exact ⟨value, accepted.2.symm⟩
  · intro accepted
    rcases accepted with ⟨value, rfl⟩
    exact Outcome.settle_of_ok value _ _

end Mef26
