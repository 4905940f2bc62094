import Mef26.Envelope.Outer
import Mef26.Handshake.Signatures
import Mef26.Handshake.Transcripts
import Mef26.Ratchet.KeyLineage

namespace Mef26

/-! # Domain separation

Every identifier of the crate is one hash and every secret one key derivation, each under a
label of its own. What they are computed from can be read off them: neither two purposes nor
two inputs of one purpose share a value. -/

open Handshake

variable {Key : Type} {P : Primitives Key}

/-! ## Identifiers -/

inductive IdentifierPurpose
  | session
  | hybridSession
  | hybridBundle
  | identityFingerprint
  | mailboxStorage
  deriving DecidableEq, Repr

namespace IdentifierPurpose

def label : IdentifierPurpose → String
  | .session => sessionLabel
  | .hybridSession => hybridSessionLabel
  | .hybridBundle => Hybrid.transcriptLabel
  | .identityFingerprint => "identity-fingerprint-v1"
  | .mailboxStorage => "mailbox-capability-v1"

theorem label_apart {left right : IdentifierPurpose} (different : left ≠ right) :
    ¬utf8Bytes left.label <+: utf8Bytes right.label := by
  cases left <;> cases right <;> first | exact absurd rfl different | decide

end IdentifierPurpose

inductive IdentifierUse (Key : Type)
  | session (message : InitiatorHandshake) (responder : IdentityDhPublic)
  | hybridSession (classicalId : FixedBytes 32) (sharedSecret : Key)
  | hybridBundle (classical : ResponderPrekeyBundle) (pqPublic : MlKem768PublicKey)
  | identityFingerprint (identity : IdentityPublicKey)
  | mailboxStorage (mailbox : MailboxCapability)

namespace IdentifierUse

def purpose : IdentifierUse Key → IdentifierPurpose
  | .session _ _ => .session
  | .hybridSession _ _ => .hybridSession
  | .hybridBundle _ _ => .hybridBundle
  | .identityFingerprint _ => .identityFingerprint
  | .mailboxStorage _ => .mailboxStorage

def parts : IdentifierUse Key → List (KeyMaterial Key)
  | .session message responder =>
      [.ofBytes message.encode, .ofBytes (identityPublicWire responder)]
  | .hybridSession classicalId sharedSecret =>
      [.ofBytes classicalId.bytes, .ofKey sharedSecret]
  | .hybridBundle classical pqPublic => [.ofBytes classical.encode, .ofBytes pqPublic.bytes]
  | .identityFingerprint identity => [.ofBytes identity.bytes]
  | .mailboxStorage mailbox => [.ofBytes mailbox.bytes]

def input (use : IdentifierUse Key) : KeyMaterial Key :=
  blake3Input use.purpose.label use.parts

theorem shortParts (use : IdentifierUse Key) : ShortParts use.parts := by
  cases use <;> simp [ShortParts, parts, maxCiphertextLen, capabilityLen]

theorem eq_of_parts {left right : IdentifierUse Key} (purposes : left.purpose = right.purpose)
    (same : left.parts = right.parts) : left = right := by
  cases left <;> cases right <;> cases purposes <;>
    simp only [parts, List.cons.injEq, KeyMaterial.ofBytes_injective.eq_iff,
      KeyMaterial.ofKey_injective.eq_iff, FixedBytes.bytes_injective.eq_iff, and_true] at same
  case session.session.refl =>
      rw [InitiatorHandshake.encode_injective same.1, identityPublicWire_injective same.2]
  case hybridSession.hybridSession.refl =>
      rw [same.1, same.2]
  case hybridBundle.hybridBundle.refl =>
      rw [ResponderPrekeyBundle.encode_injective same.1, same.2]
  case identityFingerprint.identityFingerprint.refl => rw [same]
  case mailboxStorage.mailboxStorage.refl => rw [same]

theorem input_injective : Function.Injective (input : IdentifierUse Key → KeyMaterial Key) := by
  intro left right same
  by_cases purposes : left.purpose = right.purpose
  · unfold input at same
    rw [purposes] at same
    exact eq_of_parts purposes (blake3Input_injective left.shortParts right.shortParts same)
  · exact absurd same (blake3Input_ne (IdentifierPurpose.label_apart purposes)
      (IdentifierPurpose.label_apart (Ne.symm purposes)) _ _)

end IdentifierUse

variable (P) in
/-- The calls of the crate that return an identifier, with what they compute it from. -/
inductive Identifies : IdentifierUse Key → FixedBytes 32 → Prop
  | session {message : InitiatorHandshake} {responder : IdentityDhPublic} {dh1 dh2 dh3 : Key}
      {dh4 : Option Key} {sessionId : FixedBytes 32} {rootSecret : Key}
      (returned : deriveHandshakeValues P message responder dh1 dh2 dh3 dh4 =
        .ok (sessionId, rootSecret)) :
      Identifies (.session message responder) sessionId
  | hybridSession {classical mixed : AuthenticatedHandshake P} {sharedSecret : Key}
      (returned : classical.mixMlKem768 sharedSecret = .ok mixed) :
      Identifies (.hybridSession classical.sessionId sharedSecret) mixed.sessionId
  | hybridBundle {classical : ResponderPrekeyBundle} {pqPublic : MlKem768PublicKey}
      {digest : FixedBytes 32}
      (returned : bindingTranscript P classical pqPublic = .ok digest.bytes) :
      Identifies (.hybridBundle classical pqPublic) digest
  | identityFingerprint {identity : IdentityPublicKey} {digest : FixedBytes 32}
      (returned : Mef26.identityFingerprint P identity = .ok digest) :
      Identifies (.identityFingerprint identity) digest
  | mailboxStorage {mailbox : MailboxCapability} {digest : FixedBytes 32}
      (returned : mailbox.storageId P = .ok digest) :
      Identifies (.mailboxStorage mailbox) digest

theorem Identifies.eq_hash {use : IdentifierUse Key} {digest : FixedBytes 32}
    (identified : Identifies P use digest) : digest = P.blake3 use.input := by
  cases identified with
  | session returned =>
      rw [deriveHandshakeValues_eq] at returned
      cases returned
      rfl
  | hybridSession returned =>
      rw [AuthenticatedHandshake.mixMlKem768_eq] at returned
      cases returned
      rfl
  | hybridBundle returned =>
      exact FixedBytes.bytes_injective (bindingTranscript_eq_ok.mp returned)
  | identityFingerprint returned => exact (blake3Id_eq_ok.mp returned).2.2
  | mailboxStorage returned => exact (blake3Id_eq_ok.mp returned).2.2

/-- Identifiers that two calls return are equal exactly if both calls serve one purpose with
the same values, unless the hash collides on what these two calls feed it. -/
theorem identifiers_separate {left right : IdentifierUse Key} {digest digest' : FixedBytes 32}
    (hash : Set.InjOn P.blake3 {left.input, right.input})
    (identified : Identifies P left digest) (identified' : Identifies P right digest') :
    digest = digest' ↔ left = right := by
  rw [identified.eq_hash, identified'.eq_hash]
  constructor
  · intro same
    exact IdentifierUse.input_injective
      (hash (Set.mem_insert _ _) (Set.mem_insert_of_mem _ rfl) same)
  · intro same
    rw [same]

def Primitives.summing : Primitives (FixedBytes 32) :=
  { Primitives.concrete with
    blake3 input := .replicate 32 (input.foldl (fun sum symbol => sum + firstByte [symbol]) 0) }

/-- A fingerprint and a storage identifier of the same bytes differ. -/
theorem identifiers_separate_sameBytes :
    Primitives.summing.blake3
        (IdentifierUse.identityFingerprint (.replicate 32 1)).input ≠
      Primitives.summing.blake3 (IdentifierUse.mailboxStorage (.replicate 32 1)).input := by
  intro same
  have identified : Identifies Primitives.summing (.identityFingerprint (.replicate 32 1)) _ :=
    .identityFingerprint rfl
  have identified' : Identifies Primitives.summing (.mailboxStorage (.replicate 32 1)) _ :=
    .mailboxStorage rfl
  have hash : Set.InjOn Primitives.summing.blake3
      {(IdentifierUse.identityFingerprint (.replicate 32 1)).input,
        (IdentifierUse.mailboxStorage (.replicate 32 1)).input} :=
    Set.injOn_pair.mpr fun collision => absurd collision (by decide +kernel)
  cases (identifiers_separate hash identified identified').mp same

/-! ## Secrets -/

inductive SecretPurpose
  | handshakeRoot
  | hybridRoot
  | initialChain (role : RatchetRole)
  | nextRoot
  | rootChain
  | nextChain
  | messageKey
  | envelope
  deriving DecidableEq, Repr

namespace SecretPurpose

def label : SecretPurpose → String
  | .handshakeRoot => rootLabel
  | .hybridRoot => hybridRootLabel
  | .initialChain .initiator => initAToBLabel
  | .initialChain .responder => initBToALabel
  | .nextRoot => ratchetRootLabel
  | .rootChain => rootChainLabel
  | .nextChain => chainKeyLabel
  | .messageKey => messageKeyLabel
  | .envelope => OuterEnvelope.keyLabel

theorem label_injective : Function.Injective label := by
  intro left right same
  rcases left with _ | _ | ⟨_ | _⟩ | _ | _ | _ | _ | _ <;>
    rcases right with _ | _ | ⟨_ | _⟩ | _ | _ | _ | _ | _ <;>
    first | rfl | exact absurd same (by decide)

end SecretPurpose

inductive SecretUse (Key : Type)
  | handshakeRoot (sessionId : FixedBytes 32) (dh1 dh2 dh3 : Key) (dh4 : Option Key)
  | hybridRoot (sessionId : FixedBytes 32) (rootSecret sharedSecret : Key)
  | initialChain (role : RatchetRole) (rootSecret : Key) (sessionId : FixedBytes 32)
  | nextRoot (rootKey dhOutput : Key)
  | rootChain (rootKey dhOutput : Key)
  | nextChain (chainKey : Key)
  | messageKey (chainKey : Key)
  | envelope (mailbox : MailboxCapability) (shared : Key)

namespace SecretUse

def purpose : SecretUse Key → SecretPurpose
  | .handshakeRoot _ _ _ _ _ => .handshakeRoot
  | .hybridRoot _ _ _ => .hybridRoot
  | .initialChain role _ _ => .initialChain role
  | .nextRoot _ _ => .nextRoot
  | .rootChain _ _ => .rootChain
  | .nextChain _ => .nextChain
  | .messageKey _ => .messageKey
  | .envelope _ _ => .envelope

variable (P) in
def salt : SecretUse Key → KeyMaterial Key
  | .handshakeRoot sessionId _ _ _ _ | .hybridRoot sessionId _ _ => .ofBytes sessionId.bytes
  | .initialChain _ key _ | .nextRoot key _ | .nextChain key | .messageKey key => .ofKey key
  | .rootChain rootKey dhOutput => .ofKey (Mef26.nextRoot P rootKey dhOutput)
  | .envelope mailbox _ => .ofBytes mailbox.bytes

def input : SecretUse Key → KeyMaterial Key
  | .handshakeRoot _ dh1 dh2 dh3 dh4 => rootInput dh1 dh2 dh3 dh4
  | .hybridRoot _ rootSecret sharedSecret => .ofKey rootSecret ++ .ofKey sharedSecret
  | .initialChain _ _ sessionId => .ofBytes sessionId.bytes
  | .nextRoot _ key | .rootChain _ key | .envelope _ key => .ofKey key
  | .nextChain _ => .ofBytes [2]
  | .messageKey _ => .ofBytes [1]

variable (P) in
def secret (use : SecretUse Key) : Key :=
  P.hkdfSha256 (use.salt P) (domainLabel "kdf" use.purpose.label) use.input

theorem secret_initialChain (role : RatchetRole) (rootSecret : Key) (sessionId : FixedBytes 32) :
    secret P (.initialChain role rootSecret sessionId) =
      Mef26.initialChain P role rootSecret sessionId := by
  cases role <;> rfl

theorem secret_injective (kdf : P.CollisionFreeKdf) :
    Function.Injective (secret P : SecretUse Key → Key) := by
  intro left right same
  have purposes := SecretPurpose.label_injective (kdf.label_eq same)
  rcases kdf _ _ _ _ _ _ same with ⟨salts, _, inputs⟩
  cases left <;> cases right <;> cases purposes <;>
    simp only [salt, input, KeyMaterial.ofBytes_injective.eq_iff,
      KeyMaterial.ofKey_injective.eq_iff, FixedBytes.bytes_injective.eq_iff] at salts inputs
  case handshakeRoot.handshakeRoot.refl =>
      rcases rootInput_injective inputs with ⟨rfl, rfl, rfl, rfl⟩
      rw [salts]
  case hybridRoot.hybridRoot.refl =>
      rcases List.append_inj inputs rfl with ⟨roots, secrets⟩
      rw [salts, KeyMaterial.ofKey_injective roots, KeyMaterial.ofKey_injective secrets]
  case rootChain.rootChain.refl =>
      rcases kdf _ _ _ _ _ _ salts with ⟨roots, _, _⟩
      rw [KeyMaterial.ofKey_injective roots, inputs]
  all_goals simp only [salts, inputs]

end SecretUse

variable (P) in
/-- The calls of the crate that derive a secret, with what they derive it from. -/
inductive DerivesSecret : SecretUse Key → Key → Prop
  | handshakeRoot {message : InitiatorHandshake} {responder : IdentityDhPublic}
      {dh1 dh2 dh3 : Key} {dh4 : Option Key} {sessionId : FixedBytes 32} {rootSecret : Key}
      (returned : deriveHandshakeValues P message responder dh1 dh2 dh3 dh4 =
        .ok (sessionId, rootSecret)) :
      DerivesSecret (.handshakeRoot sessionId dh1 dh2 dh3 dh4) rootSecret
  | hybridRoot {classical mixed : AuthenticatedHandshake P} {sharedSecret : Key}
      (returned : classical.mixMlKem768 sharedSecret = .ok mixed) :
      DerivesSecret (.hybridRoot mixed.sessionId classical.rootSecret sharedSecret)
        mixed.rootSecret
  | sendingChain {handshake : AuthenticatedHandshake P} {suite : AeadSuite}
      {state : RatchetState P}
      (started : RatchetState.fromAuthenticatedHandshakeWithSuite handshake suite =
        .ok state) :
      DerivesSecret (.initialChain handshake.role handshake.rootSecret handshake.sessionId)
        state.sendingChain
  | receivingChain {handshake : AuthenticatedHandshake P} {suite : AeadSuite}
      {state : RatchetState P}
      (started : RatchetState.fromAuthenticatedHandshakeWithSuite handshake suite =
        .ok state) :
      DerivesSecret
        (.initialChain handshake.role.peer handshake.rootSecret handshake.sessionId)
        state.receivingChain
  | nextRoot {rootKey dhOutput next chainKey : Key}
      (stepped : rootStep P rootKey dhOutput = .ok (next, chainKey)) :
      DerivesSecret (.nextRoot rootKey dhOutput) next
  | rootChain {rootKey dhOutput next chainKey : Key}
      (stepped : rootStep P rootKey dhOutput = .ok (next, chainKey)) :
      DerivesSecret (.rootChain rootKey dhOutput) chainKey
  | nextChain {chainKey next messageKey : Key}
      (stepped : chainStep P chainKey = .ok (next, messageKey)) :
      DerivesSecret (.nextChain chainKey) next
  | messageKey {chainKey next messageKey : Key}
      (stepped : chainStep P chainKey = .ok (next, messageKey)) :
      DerivesSecret (.messageKey chainKey) messageKey
  | envelope {mailbox : MailboxCapability} {shared key : Key}
      (derived : deriveAeadKey P (.ofBytes mailbox.bytes) OuterEnvelope.keyLabel
        (.ofKey shared) = .ok key) :
      DerivesSecret (.envelope mailbox shared) key

theorem DerivesSecret.eq_secret {use : SecretUse Key} {key : Key}
    (derives : DerivesSecret P use key) : key = use.secret P := by
  cases derives with
  | handshakeRoot returned =>
      rw [deriveHandshakeValues_eq] at returned
      cases returned
      rfl
  | hybridRoot returned =>
      rw [AuthenticatedHandshake.mixMlKem768_eq] at returned
      cases returned
      rfl
  | sendingChain started =>
      rw [RatchetState.fromAuthenticatedHandshakeWithSuite_eq] at started
      cases started
      exact (SecretUse.secret_initialChain _ _ _).symm
  | receivingChain started =>
      rw [RatchetState.fromAuthenticatedHandshakeWithSuite_eq] at started
      cases started
      exact (SecretUse.secret_initialChain _ _ _).symm
  | nextRoot stepped | rootChain stepped =>
      rw [rootStep_eq] at stepped
      cases stepped
      rfl
  | nextChain stepped | messageKey stepped =>
      rw [chainStep_eq] at stepped
      cases stepped
      rfl
  | envelope derived =>
      rw [deriveAeadKey_eq_deriveSecret, deriveSecret_eq P (by decide) (by simp; decide)]
        at derived
      cases derived
      rfl

/-- Secrets that two calls derive, in whatever sessions and for whatever purposes, are equal
exactly if both calls serve one purpose with the same values. -/
theorem secrets_separate (kdf : P.CollisionFreeKdf) {left right : SecretUse Key}
    {key key' : Key} (derives : DerivesSecret P left key)
    (derives' : DerivesSecret P right key') : key = key' ↔ left = right := by
  rw [derives.eq_secret, derives'.eq_secret]
  exact (SecretUse.secret_injective kdf).eq_iff

def agreedSecret : Term := .agreement s(.replicate 32 1, .replicate 32 2)

/-- An envelope key is no message key, also where one secret serves as agreement and as chain
key. -/
theorem secrets_separate_envelope :
    messageKeyOf Primitives.symbolic agreedSecret ≠
      SecretUse.secret Primitives.symbolic (.envelope (.replicate 32 0) agreedSecret) := by
  intro same
  have derives := DerivesSecret.messageKey (chainStep_eq Primitives.symbolic agreedSecret)
  have derives' : DerivesSecret Primitives.symbolic
      (.envelope (.replicate 32 0) agreedSecret) _ := .envelope rfl
  cases (secrets_separate Primitives.collisionFreeKdf_symbolic derives derives').mp same

end Mef26
