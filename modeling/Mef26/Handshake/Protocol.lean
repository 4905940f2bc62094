import Mef26.Keys

namespace Mef26

/-! # The asynchronous prekey handshake

The responder publishes a bundle of prekeys, the initiator answers with one
message, and both derive the session identifier and root secret that start a
ratchet. -/

inductive RatchetRole
  | initiator
  | responder
  deriving DecidableEq, Repr

def RatchetRole.peer : RatchetRole → RatchetRole
  | .initiator => .responder
  | .responder => .initiator

@[simp] theorem RatchetRole.peer_peer (role : RatchetRole) : role.peer.peer = role := by
  cases role <;> rfl

@[simp] theorem RatchetRole.peer_ne (role : RatchetRole) : role.peer ≠ role := by
  cases role <;> decide

theorem RatchetRole.eq_peer_of_ne {role other : RatchetRole} (different : other ≠ role) :
    other = role.peer := by
  cases role <;> cases other <;> simp_all [RatchetRole.peer]

theorem RatchetRole.forall_of {property : RatchetRole → Prop} (role : RatchetRole)
    (here : property role) (there : property role.peer) (other : RatchetRole) :
    property other := by
  by_cases same : other = role
  · exact same ▸ here
  · exact RatchetRole.eq_peer_of_ne same ▸ there

namespace Handshake

def magic : List UInt8 := utf8Bytes "MEH"

def version : UInt8 := 1

def identityBindingLabel : String := "handshake-identity-dh-v1"

def sessionLabel : String := "handshake-session-v1"

def rootLabel : String := "handshake-x3dh-root-v1"

def hybridSessionLabel : String := "handshake-hybrid-mlkem768-session-v1"

def hybridRootLabel : String := "handshake-hybrid-mlkem768-root-v1"

end Handshake

open Handshake

variable {Key : Type}

/-! ## Identities -/

structure LocalIdentity (P : Primitives Key) where
  signing : IdentityKeyPair P
  dh : DhKeyPair P

@[ext]
structure IdentityDhPublic where
  signing : IdentityPublicKey
  dh : DhPublicKey
  signature : Signature
  deriving DecidableEq, Repr

def identityBindingTranscript (dh : DhPublicKey) : List UInt8 :=
  utf8Bytes identityBindingLabel ++ [0] ++ dh.bytes

section

variable {P : Primitives Key}

namespace LocalIdentity

def generate (signingEntropy dhEntropy : Entropy) : Result (LocalIdentity P) := do
  let signing ← IdentityKeyPair.generate signingEntropy
  let dh ← DhKeyPair.generate dhEntropy
  return { signing, dh }

def publicRecord (identity : LocalIdentity P) : IdentityDhPublic where
  signing := identity.signing.publicKey
  dh := identity.dh.publicKey
  signature := identity.signing.sign (identityBindingTranscript identity.dh.publicKey)

end LocalIdentity

variable (P) in
def IdentityDhPublic.verify (identity : IdentityDhPublic) : Result PUnit :=
  identity.signing.verify P (identityBindingTranscript identity.dh) identity.signature

def identityPublicWire (identity : IdentityDhPublic) : List UInt8 :=
  identity.signing.bytes ++ identity.dh.bytes ++ identity.signature.bytes

/-! ## Responder prekeys -/

@[ext]
structure OneTimePrekeyPublic where
  id : UInt32
  publicKey : DhPublicKey
  deriving DecidableEq, Repr

structure OneTimePrekey (P : Primitives Key) where
  publicPart : OneTimePrekeyPublic
  key : DhKeyPair P

@[ext]
structure ResponderPrekeyBundle where
  identity : IdentityDhPublic
  signedPrekey : SignedPrekey
  oneTimePrekey : Option OneTimePrekeyPublic
  deriving DecidableEq, Repr

variable (P) in
def ResponderPrekeyBundle.verify (bundle : ResponderPrekeyBundle) (nowUnix : UInt64) :
    Result PUnit := do
  bundle.identity.verify P
  bundle.signedPrekey.verify P bundle.identity.signing nowUnix

variable (P) in
structure ResponderPrekeyMaterial where
  identity : LocalIdentity P
  signedPrekey : DhKeyPair P
  signedRecord : SignedPrekey
  retiredSignedPrekeys : List (SignedPrekey × DhKeyPair P)
  oneTimePrekeys : List (OneTimePrekey P)

namespace ResponderPrekeyMaterial

def generate (signingEntropy dhEntropy prekeyEntropy : Entropy) (signedPrekeyId : UInt32)
    (expiresAtUnix : UInt64) : Result (ResponderPrekeyMaterial P) := do
  let identity ← LocalIdentity.generate signingEntropy dhEntropy
  let signedPrekey ← DhKeyPair.generate prekeyEntropy
  let signedRecord := SignedPrekey.issue identity.signing signedPrekeyId
    signedPrekey.publicKey expiresAtUnix
  return {
    identity, signedPrekey, signedRecord
    retiredSignedPrekeys := []
    oneTimePrekeys := [] }

def bundle (material : ResponderPrekeyMaterial P) : ResponderPrekeyBundle where
  identity := material.identity.publicRecord
  signedPrekey := material.signedRecord
  oneTimePrekey := material.oneTimePrekeys.head?.map fun entry => entry.publicPart

def addOneTimePrekey (entropy : Entropy) (id : UInt32) :
    Update (ResponderPrekeyMaterial P) MefError PUnit := do
  let material ← Update.read
  Outcome.rejectIf (material.oneTimePrekeys.any fun entry => entry.publicPart.id = id)
    MefError.invalidState
  let key ← DhKeyPair.generate entropy
  Update.modify fun material =>
    { material with
      oneTimePrekeys := material.oneTimePrekeys ++
        [{ publicPart := { id, publicKey := key.publicKey }, key }] }

def rotateSignedPrekey (entropy : Entropy) (id : UInt32) (expiresAtUnix : UInt64) :
    Update (ResponderPrekeyMaterial P) MefError PUnit := do
  let material ← Update.read
  Outcome.rejectIf (material.signedRecord.keyId = id ∨
    material.retiredSignedPrekeys.any fun entry => entry.1.keyId = id)
    MefError.invalidState
  let key ← DhKeyPair.generate entropy
  let retired : DhKeyPair P := DhKeyPair.fromSecret material.signedPrekey.secret
  Update.modify fun material =>
    { material with
      retiredSignedPrekeys :=
        material.retiredSignedPrekeys ++ [(material.signedRecord, retired)] }
  Update.modify fun material =>
    { material with
      signedRecord := SignedPrekey.issue material.identity.signing id key.publicKey
        expiresAtUnix }
  Update.modify fun material => { material with signedPrekey := key }

def retireSignedPrekey (id : UInt32) :
    Update (ResponderPrekeyMaterial P) MefError PUnit := do
  let material ← Update.read
  let index ← Outcome.okOr MefError.invalidState
    (material.retiredSignedPrekeys.findIdx? fun entry => entry.1.keyId = id)
  Update.modify fun material =>
    { material with retiredSignedPrekeys := material.retiredSignedPrekeys.eraseIdx index }

end ResponderPrekeyMaterial

/-! ## The initial message -/

@[ext]
structure InitiatorHandshake where
  initiatorIdentity : IdentityDhPublic
  initiatorEphemeral : DhPublicKey
  initiatorRatchet : DhPublicKey
  signedPrekeyId : UInt32
  oneTimePrekeyId : Option UInt32
  deriving DecidableEq, Repr

def InitiatorHandshake.encode (message : InitiatorHandshake) : List UInt8 :=
  magic ++ [version] ++ message.initiatorIdentity.signing.bytes ++
    message.initiatorIdentity.dh.bytes ++ message.initiatorIdentity.signature.bytes ++
    message.initiatorEphemeral.bytes ++ message.initiatorRatchet.bytes ++
    beBytes32 message.signedPrekeyId ++
    match message.oneTimePrekeyId with
    | some id => [1] ++ beBytes32 id
    | none => [0] ++ beBytes32 0

variable (P) in
@[ext]
structure AuthenticatedHandshake where
  sessionId : FixedBytes 32
  rootSecret : Key
  role : RatchetRole
  localRatchet : DhKeyPair P
  remoteRatchet : DhPublicKey

def AuthenticatedHandshake.mixMlKem768 (handshake : AuthenticatedHandshake P)
    (sharedSecret : Key) : Result (AuthenticatedHandshake P) := do
  let sessionId ← blake3Id P hybridSessionLabel
    [KeyMaterial.ofBytes handshake.sessionId.bytes, KeyMaterial.ofKey sharedSecret]
  let input := KeyMaterial.ofKey handshake.rootSecret ++ KeyMaterial.ofKey sharedSecret
  let rootSecret ← deriveSecret P (KeyMaterial.ofBytes sessionId.bytes) hybridRootLabel input
  return { handshake with sessionId, rootSecret }

variable (P) in
/-- The session identifier hashes both parties' public data, and the root secret
mixes the agreements under it. -/
def deriveHandshakeValues (message : InitiatorHandshake)
    (responderIdentity : IdentityDhPublic) (dh1 dh2 dh3 : Key) (dh4 : Option Key) :
    Result (FixedBytes 32 × Key) := do
  let messageWire := message.encode
  let responderWire := identityPublicWire responderIdentity
  let sessionId ← blake3Id P sessionLabel
    [KeyMaterial.ofBytes messageWire, KeyMaterial.ofBytes responderWire]
  let material := KeyMaterial.ofKey dh1 ++ KeyMaterial.ofKey dh2 ++ KeyMaterial.ofKey dh3 ++
    match dh4 with
    | some value => KeyMaterial.ofKey value
    | none => []
  let rootSecret ← deriveSecret P (KeyMaterial.ofBytes sessionId.bytes) rootLabel material
  return (sessionId, rootSecret)

def initiate (ephemeralEntropy ratchetEntropy : Entropy) (identity : LocalIdentity P)
    (bundle : ResponderPrekeyBundle) (nowUnix : UInt64) :
    Result (InitiatorHandshake × AuthenticatedHandshake P) := do
  bundle.verify P nowUnix
  let ephemeral : DhKeyPair P ← DhKeyPair.generate ephemeralEntropy
  let ratchet : DhKeyPair P ← DhKeyPair.generate ratchetEntropy
  let dh1 ← identity.dh.diffieHellman bundle.signedPrekey.publicKey
  let dh2 ← ephemeral.diffieHellman bundle.identity.dh
  let dh3 ← ephemeral.diffieHellman bundle.signedPrekey.publicKey
  let dh4 ← match bundle.oneTimePrekey with
    | some prekey => do
        let shared ← ephemeral.diffieHellman prekey.publicKey
        pure (some shared)
    | none => pure none
  let message : InitiatorHandshake := {
    initiatorIdentity := identity.publicRecord
    initiatorEphemeral := ephemeral.publicKey
    initiatorRatchet := ratchet.publicKey
    signedPrekeyId := bundle.signedPrekey.keyId
    oneTimePrekeyId := bundle.oneTimePrekey.map fun prekey => prekey.id }
  let (sessionId, rootSecret) ←
    deriveHandshakeValues P message bundle.identity dh1 dh2 dh3 dh4
  return (message, {
    sessionId, rootSecret
    role := .initiator
    localRatchet := ratchet
    remoteRatchet := bundle.signedPrekey.publicKey })

/-- The current or retained signed prekey with the identifier a message names. -/
def findSignedPrekey (material : ResponderPrekeyMaterial P) (id : UInt32) :
    Result (DhKeyPair P) :=
  if id = material.signedRecord.keyId then
    .ok (DhKeyPair.fromSecret material.signedPrekey.secret)
  else do
    let (_, key) ← Outcome.okOr .ratchetStateMismatch
      (material.retiredSignedPrekeys.find? fun entry => entry.1.keyId = id)
    return DhKeyPair.fromSecret key.secret

def findOneTimeIndex (material : ResponderPrekeyMaterial P) (id : Option UInt32) :
    Result (Option Nat) :=
  match id with
  | some id => do
      let index ← Outcome.okOr .ratchetStateMismatch
        (material.oneTimePrekeys.findIdx? fun entry => entry.publicPart.id = id)
      return some index
  | none => .ok none

/-- Validates and accepts an initiator message. A one-time prekey is removed
only after every computation succeeded. -/
def accept (message : InitiatorHandshake) :
    Update (ResponderPrekeyMaterial P) MefError (AuthenticatedHandshake P) := do
  let material ← Update.read
  message.initiatorIdentity.verify P
  let signedPrekey ← findSignedPrekey material message.signedPrekeyId
  let oneTimeIndex ← findOneTimeIndex material message.oneTimePrekeyId
  let dh1 ← signedPrekey.diffieHellman message.initiatorIdentity.dh
  let dh2 ← material.identity.dh.diffieHellman message.initiatorEphemeral
  let dh3 ← signedPrekey.diffieHellman message.initiatorEphemeral
  let dh4 : Option Key ← match oneTimeIndex with
    | some index => do
        let entry ← (elementAt material.oneTimePrekeys index : Result (OneTimePrekey P))
        let shared ← entry.key.diffieHellman message.initiatorEphemeral
        pure (some shared)
    | none => pure none
  let (sessionId, rootSecret) ← deriveHandshakeValues P message
    material.identity.publicRecord dh1 dh2 dh3 dh4
  match oneTimeIndex with
  | some index =>
      Update.modify fun material =>
        { material with oneTimePrekeys := material.oneTimePrekeys.eraseIdx index }
  | none => pure ⟨⟩
  return {
    sessionId, rootSecret
    role := .responder
    localRatchet := signedPrekey
    remoteRatchet := message.initiatorRatchet }

end

end Mef26
