import Mef26.Foundation.Composition
import Mef26.Handshake.Agreement
import Mef26.Secrecy.Recovery

namespace Mef26

/-! # Who can compute the root of a handshake

An adversary holds the secrets of some public keys and knows some derived keys. With free
symbols, what it derives from there is settled agreement by agreement. -/

variable {Key : Type}

@[simp] theorem KeyMaterial.keys_append (left right : KeyMaterial Key) :
    (left ++ right).keys = left.keys ++ right.keys :=
  List.filterMap_append

@[simp] theorem KeyMaterial.keys_ofKey (key : Key) : (KeyMaterial.ofKey key).keys = [key] := rfl

@[simp] theorem KeyMaterial.keys_ofBytes (bytes : List UInt8) :
    (KeyMaterial.ofBytes bytes : KeyMaterial Key).keys = [] := by
  apply List.filterMap_eq_nil_iff.mpr
  intro part member
  rcases List.mem_map.mp member with ⟨byte, _, rfl⟩
  rfl

/-- The public keys whose secrets an adversary holds. -/
structure Corruption (P : Primitives Key) where
  keys : DhPublicKey → Prop
  genuine (key : DhPublicKey) : keys key → ∃ secret, P.x25519PublicKey secret = key

abbrev AgreementOf := DhSecretKey × DhPublicKey

variable {P : Primitives Key}

variable (P) in
def AgreementOf.output (agreement : AgreementOf) : Key :=
  P.x25519 agreement.1 agreement.2

namespace Corruption

def Holds (corruption : Corruption P) (secret : DhSecretKey) : Prop :=
  corruption.keys (P.x25519PublicKey secret)

abbrev Derives (corruption : Corruption P) (known : Key → Prop) : Key → Prop :=
  Derivable (AdversaryDerives P corruption.Holds) known

/-- One side of the agreement is corrupted. -/
def Breaks (corruption : Corruption P) (agreement : AgreementOf) : Prop :=
  corruption.keys (P.x25519PublicKey agreement.1) ∨ corruption.keys agreement.2

end Corruption

section Free

variable (free : P.FreeSymbols)

include free

theorem Primitives.FreeSymbols.takes_kdf {held : DhSecretKey → Prop} (salt : KeyMaterial Key)
    (info : List UInt8) (input : KeyMaterial Key) :
    Takes (AdversaryDerives P held) (salt.keys ++ input.keys) (P.hkdfSha256 salt info input) where
  applies := .derivation salt info input
  needed := by
    intro other applied
    generalize same : P.hkdfSha256 salt info input = key at applied
    cases applied with
    | derivation salt' info' input' =>
        rcases free.kdf _ _ _ _ _ _ same with ⟨rfl, _, rfl⟩
        exact fun _ member => member
    | agreement => exact absurd same.symm (free.agreement_ne_kdf _ _ _ _ _)

theorem Corruption.derives_agreement_iff (lawful : P.LawfulX25519)
    (corruption : Corruption P) {known : Key → Prop} (agreement : AgreementOf) :
    corruption.Derives known (agreement.output P) ↔
      known (agreement.output P) ∨ corruption.Breaks agreement := by
  constructor
  · intro derivable
    generalize same : agreement.output P = key at derivable
    cases derivable with
    | known isKnown => exact .inl isKnown
    | rule applied _ =>
        cases applied with
        | derivation => exact absurd same (free.agreement_ne_kdf _ _ _ _ _)
        | agreement peer isHeld =>
            rcases free.agreement_eq _ _ _ _ same.symm with secrets | crossed
            · exact .inr (.inl (secrets ▸ isHeld))
            · exact .inr (.inr (crossed ▸ isHeld))
  · intro either
    rcases either with isKnown | own | other
    · exact .known isKnown
    · exact .rule (.agreement _ own) (List.forall_mem_nil _)
    · rcases corruption.genuine _ other with ⟨secret, isPublic⟩
      have crossed : agreement.output P =
          P.x25519 secret (P.x25519PublicKey agreement.1) := by
        unfold AgreementOf.output
        rw [← isPublic]
        exact lawful.symmetric _ _
      have isHeld : corruption.Holds secret := by
        unfold Corruption.Holds
        rwa [isPublic]
      rw [crossed]
      exact .rule (.agreement _ isHeld) (List.forall_mem_nil _)

end Free

/-! ## The agreements of a handshake -/

def rootOver (P : Primitives Key) (sessionId : FixedBytes 32)
    (agreements : List AgreementOf) : Key :=
  P.hkdfSha256 (.ofBytes sessionId.bytes) (domainLabel "kdf" Handshake.rootLabel)
    (agreements.map fun agreement => .inr (agreement.output P))

def initiatorAgreements (identity ephemeral : DhKeyPair P) (bundle : ResponderPrekeyBundle) :
    List AgreementOf :=
  [(identity.secret, bundle.signedPrekey.publicKey), (ephemeral.secret, bundle.identity.dh),
    (ephemeral.secret, bundle.signedPrekey.publicKey)] ++
    (bundle.oneTimePrekey.map fun prekey => (ephemeral.secret, prekey.publicKey)).toList

def responderAgreements (identity signed : DhKeyPair P) (oneTime : Option (DhKeyPair P))
    (message : InitiatorHandshake) : List AgreementOf :=
  [(signed.secret, message.initiatorIdentity.dh), (identity.secret, message.initiatorEphemeral),
    (signed.secret, message.initiatorEphemeral)] ++
    (oneTime.map fun pair => (pair.secret, message.initiatorEphemeral)).toList

theorem rootSecret_initiatorHandshake (identity : LocalIdentity P)
    (bundle : ResponderPrekeyBundle) (ephemeral ratchet : DhKeyPair P) :
    (initiatorHandshake identity bundle ephemeral ratchet).rootSecret =
      rootOver P (initiatorHandshake identity bundle ephemeral ratchet).sessionId
        (initiatorAgreements identity.dh ephemeral bundle) := by
  rcases bundle with ⟨responder, signed, offered⟩
  cases offered <;> rfl

theorem rootSecret_responderHandshake (identity : LocalIdentity P)
    (message : InitiatorHandshake) (signed : DhKeyPair P) (oneTime : Option (DhKeyPair P)) :
    (responderHandshake identity message signed oneTime).rootSecret =
      rootOver P (responderHandshake identity message signed oneTime).sessionId
        (responderAgreements identity.dh signed oneTime message) := by
  cases oneTime <;> rfl

theorem Corruption.derives_rootOver_iff (free : P.FreeSymbols) (lawful : P.LawfulX25519)
    (corruption : Corruption P) {known : Key → Prop} {sessionId : FixedBytes 32}
    {agreements : List AgreementOf} :
    corruption.Derives known (rootOver P sessionId agreements) ↔
      known (rootOver P sessionId agreements) ∨ ∀ agreement ∈ agreements,
        known (agreement.output P) ∨ corruption.Breaks agreement := by
  have inputs : (KeyMaterial.ofBytes sessionId.bytes : KeyMaterial Key).keys ++
      KeyMaterial.keys (agreements.map fun agreement => .inr (agreement.output P)) =
      agreements.map (AgreementOf.output P) := by
    rw [KeyMaterial.keys_ofBytes, List.nil_append, KeyMaterial.keys, List.filterMap_map]
    exact congrFun List.filterMap_eq_map agreements
  have takes : Takes (AdversaryDerives P corruption.Holds) _ (rootOver P sessionId agreements) :=
    free.takes_kdf (.ofBytes sessionId.bytes) (domainLabel "kdf" Handshake.rootLabel)
      (agreements.map fun agreement => .inr (agreement.output P))
  rw [inputs] at takes
  rw [Corruption.Derives, takes.derivable_iff, List.forall_mem_map]
  simp only [corruption.derives_agreement_iff free lawful]

/-! ## The table -/

structure HandshakeKeys where
  initiator : DhPublicKey
  ephemeral : DhPublicKey
  responder : DhPublicKey
  signedPrekey : DhPublicKey
  oneTimePrekey : Option DhPublicKey
  deriving DecidableEq, Repr

/-- The compromises that break a handshake: for each agreement one of its two keys. -/
def HandshakeKeys.Broken (keys : HandshakeKeys) (corrupted : DhPublicKey → Prop) : Prop :=
  (corrupted keys.initiator ∨ corrupted keys.signedPrekey) ∧
    (corrupted keys.ephemeral ∨ corrupted keys.responder) ∧
    (corrupted keys.ephemeral ∨ corrupted keys.signedPrekey) ∧
    ∀ oneTime ∈ keys.oneTimePrekey, corrupted keys.ephemeral ∨ corrupted oneTime

def InitiatorHandshake.keysFor (message : InitiatorHandshake) (bundle : ResponderPrekeyBundle) :
    HandshakeKeys where
  initiator := message.initiatorIdentity.dh
  ephemeral := message.initiatorEphemeral
  responder := bundle.identity.dh
  signedPrekey := bundle.signedPrekey.publicKey
  oneTimePrekey := bundle.oneTimePrekey.map fun prekey => prekey.publicKey

def InitiatorHandshake.keysWith (message : InitiatorHandshake) (identity signed : DhKeyPair P)
    (oneTime : Option (DhKeyPair P)) : HandshakeKeys where
  initiator := message.initiatorIdentity.dh
  ephemeral := message.initiatorEphemeral
  responder := identity.publicKey
  signedPrekey := signed.publicKey
  oneTimePrekey := oneTime.map fun pair => pair.publicKey

theorem broken_initiator_iff (corruption : Corruption P) (identity : LocalIdentity P)
    (bundle : ResponderPrekeyBundle) (ephemeral ratchet : DhKeyPair P) :
    (∀ agreement ∈ initiatorAgreements identity.dh ephemeral bundle,
        corruption.Breaks agreement) ↔
      ((initiatorMessage identity bundle ephemeral ratchet).keysFor bundle).Broken
        corruption.keys := by
  rcases bundle with ⟨responder, signed, offered⟩
  cases offered <;>
    simp [initiatorAgreements, Corruption.Breaks, HandshakeKeys.Broken,
      InitiatorHandshake.keysFor, initiatorMessage, LocalIdentity.publicRecord,
      ← DhKeyPair.publicKey_eq]

theorem broken_responder_iff (corruption : Corruption P) (identity signed : DhKeyPair P)
    (oneTime : Option (DhKeyPair P)) (message : InitiatorHandshake) :
    (∀ agreement ∈ responderAgreements identity signed oneTime message,
        corruption.Breaks agreement) ↔
      (message.keysWith identity signed oneTime).Broken corruption.keys := by
  cases oneTime <;>
    simp only [responderAgreements, Corruption.Breaks, HandshakeKeys.Broken,
      InitiatorHandshake.keysWith, ← DhKeyPair.publicKey_eq, List.forall_mem_cons,
      List.cons_append, List.nil_append, Option.map_none, Option.map_some,
      Option.toList_none, Option.toList_some, List.not_mem_nil, false_implies, implies_true,
      and_true, Option.mem_def, Option.some.injEq, reduceCtorEq, forall_eq'] <;>
    simp only [or_comm]

/-- An adversary that was told no derived key. -/
abbrev Corruption.Computes (corruption : Corruption P) : Key → Prop :=
  corruption.Derives fun _ => False

/-- Secrets from elsewhere: no output of a derivation and no agreement. -/
def Primitives.Foreign (P : Primitives Key) (known : Key → Prop) : Prop :=
  ∀ key, known key → (∀ salt info input, key ≠ P.hkdfSha256 salt info input) ∧
    ∀ secret peer, key ≠ P.x25519 secret peer

theorem Primitives.foreign_none : P.Foreign fun _ => False := fun _ known => known.elim

section Roots

variable (free : P.FreeSymbols) (lawful : P.LawfulX25519) (corruption : Corruption P)
  {known : Key → Prop} (foreign : P.Foreign known)

include free lawful foreign

theorem Corruption.derives_rootOver_iff_of_foreign {sessionId : FixedBytes 32}
    {agreements : List AgreementOf} :
    corruption.Derives known (rootOver P sessionId agreements) ↔
      ∀ agreement ∈ agreements, corruption.Breaks agreement := by
  have unknown : ¬known (rootOver P sessionId agreements) := fun isKnown =>
    (foreign _ isKnown).1 _ _ _ rfl
  rw [corruption.derives_rootOver_iff free lawful, or_iff_right unknown]
  apply forall₂_congr
  intro agreement _
  exact or_iff_right fun isKnown => (foreign _ isKnown).2 _ _ rfl

theorem derives_initiated_iff {ephemeralEntropy ratchetEntropy : Entropy}
    {identity : LocalIdentity P} {bundle : ResponderPrekeyBundle} {nowUnix : UInt64}
    {message : InitiatorHandshake} {handshake : AuthenticatedHandshake P}
    (initiated : initiate ephemeralEntropy ratchetEntropy identity bundle nowUnix =
      .ok (message, handshake)) :
    corruption.Derives known handshake.rootSecret ↔
      (message.keysFor bundle).Broken corruption.keys := by
  rcases initiate_eq_ok.mp initiated with ⟨_, ephemeral, ratchet, _, _, _, _, _, _, rfl, rfl⟩
  rw [rootSecret_initiatorHandshake,
    corruption.derives_rootOver_iff_of_foreign free lawful foreign]
  exact broken_initiator_iff corruption identity bundle ephemeral ratchet

theorem derives_accepted_iff {material next : ResponderPrekeyMaterial P}
    {message : InitiatorHandshake} {handshake : AuthenticatedHandshake P}
    (accepted : accept message material = (.ok handshake, next)) :
    ∃ signed oneTime, Accepts material message signed oneTime ∧
      (corruption.Derives known handshake.rootSecret ↔
        (message.keysWith material.identity.dh signed oneTime).Broken corruption.keys) := by
  rcases accept_eq_ok.mp accepted with ⟨⟨signed, oneTime, accepts, rfl⟩, _⟩
  refine ⟨signed, oneTime, accepts, ?_⟩
  rw [rootSecret_responderHandshake,
    corruption.derives_rootOver_iff_of_foreign free lawful foreign]
  exact broken_responder_iff corruption material.identity.dh signed oneTime message

end Roots

def Corruption.ofKeys (keys : List DhPublicKey) : Corruption Primitives.symbolic where
  keys key := key ∈ keys
  genuine key _ := ⟨key, rfl⟩

instance (keys : List DhPublicKey) : DecidablePred (Corruption.ofKeys keys).keys :=
  fun key => inferInstanceAs (Decidable (key ∈ keys))

end Mef26
