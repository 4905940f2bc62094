import Mef26.Handshake.Wire

namespace Mef26

/-! # The hybrid handshake

Both the prekey agreements and an ML-KEM-768 secret enter the session. -/

open Handshake

variable {Key : Type}

/-- The ML-KEM-768 library. A decapsulation key is its seed. -/
structure MlKem768 (Key : Type) where
  encapsulationKey (seed : FixedBytes 64) : FixedBytes 1184
  /-- Whether bytes of the right length are an encapsulation key. -/
  isEncapsulationKey (bytes : FixedBytes 1184) : Bool
  encapsulateDeterministic (key : FixedBytes 1184) (randomness : FixedBytes 32) :
    FixedBytes 1088 × Key
  decapsulate (seed : FixedBytes 64) (ciphertext : FixedBytes 1088) : Key

/-- Honest keys are valid, and decapsulation returns the encapsulated secret. -/
structure MlKem768.Lawful (K : MlKem768 Key) : Prop where
  valid (seed : FixedBytes 64) : K.isEncapsulationKey (K.encapsulationKey seed) = true
  correct (seed : FixedBytes 64) (randomness : FixedBytes 32) :
    K.decapsulate seed
        (K.encapsulateDeterministic (K.encapsulationKey seed) randomness).1 =
      (K.encapsulateDeterministic (K.encapsulationKey seed) randomness).2

abbrev MlKem768PublicKey := FixedBytes 1184

abbrev MlKem768Ciphertext := FixedBytes 1088

structure MlKem768KeyPair (K : MlKem768 Key) where
  secret : FixedBytes 64
  publicKey : MlKem768PublicKey
  publicKey_eq : publicKey = K.encapsulationKey secret

section MlKem

variable (K : MlKem768 Key)

def MlKem768KeyPair.generate (entropy : Entropy) : Result (MlKem768KeyPair K) := do
  let secret ← fillSecure entropy 64
  return { secret, publicKey := K.encapsulationKey secret, publicKey_eq := rfl }

variable {K} in
def MlKem768KeyPair.decapsulate (pair : MlKem768KeyPair K) (ciphertext : MlKem768Ciphertext) :
    Key :=
  K.decapsulate pair.secret ciphertext

def MlKem768PublicKey.fromBytes (bytes : List UInt8) : Result MlKem768PublicKey := do
  let encoded ← copyArray .invalidLength 1184 bytes
  Outcome.rejectIf (¬K.isEncapsulationKey encoded) .authenticationFailed
  return encoded

theorem MlKem768PublicKey.fromBytes_ne_panic (bytes : List UInt8) :
    MlKem768PublicKey.fromBytes K bytes ≠ .panic := by
  apply Outcome.bind_ne_panic (copyArray_ne_panic _ _ _)
  intro encoded _
  apply Outcome.rejectIf_bind_ne_panic
  simp

def MlKem768PublicKey.encapsulate (publicKey : MlKem768PublicKey) (entropy : Entropy) :
    Result (MlKem768Ciphertext × Key) := do
  let randomness ← fillSecure entropy 32
  return K.encapsulateDeterministic publicKey randomness

def MlKem768Ciphertext.fromBytes (bytes : List UInt8) : Result MlKem768Ciphertext :=
  copyArray .invalidLength 1088 bytes

end MlKem

namespace Hybrid

def magic : List UInt8 := utf8Bytes "MEQ"

def version : UInt8 := 1

def transcriptLabel : String := "handshake-mlkem768-bundle-v1"

end Hybrid

def IdentityDhPublic.verifySignature (P : Primitives Key) (identity : IdentityDhPublic)
    (message : List UInt8) (signature : Signature) : Result PUnit :=
  identity.signing.verify P message signature

variable {P : Primitives Key} {K : MlKem768 Key}

def ResponderPrekeyMaterial.signMessage (material : ResponderPrekeyMaterial P)
    (message : List UInt8) : Signature :=
  material.identity.signing.sign message

@[ext]
structure HybridResponderPrekeyBundle where
  classical : ResponderPrekeyBundle
  pqPublic : MlKem768PublicKey
  pqSignature : Signature
  deriving DecidableEq, Repr

variable (P) in
def bindingTranscript (classical : ResponderPrekeyBundle) (pqPublic : MlKem768PublicKey) :
    Result (List UInt8) := do
  let digest ← blake3Id P Hybrid.transcriptLabel
    [.ofBytes classical.encode, .ofBytes pqPublic.bytes]
  return digest.bytes

variable (P) in
def HybridResponderPrekeyBundle.verify (bundle : HybridResponderPrekeyBundle)
    (nowUnix : UInt64) : Result PUnit := do
  bundle.classical.verify P nowUnix
  let transcript ← bindingTranscript P bundle.classical bundle.pqPublic
  bundle.classical.identity.verifySignature P transcript bundle.pqSignature

variable (P K) in
structure HybridResponderPrekeyMaterial where
  classical : ResponderPrekeyMaterial P
  pq : MlKem768KeyPair K

@[ext]
structure HybridInitiatorHandshake where
  classical : InitiatorHandshake
  pqCiphertext : MlKem768Ciphertext
  deriving DecidableEq, Repr

namespace HybridResponderPrekeyMaterial

def generate (signingEntropy dhEntropy prekeyEntropy pqEntropy : Entropy)
    (signedPrekeyId : UInt32) (expiresAtUnix : UInt64) :
    Result (HybridResponderPrekeyMaterial P K) := do
  let classical ← ResponderPrekeyMaterial.generate signingEntropy dhEntropy prekeyEntropy
    signedPrekeyId expiresAtUnix
  let pq ← MlKem768KeyPair.generate K pqEntropy
  return { classical, pq }

def bundle (material : HybridResponderPrekeyMaterial P K) :
    Result HybridResponderPrekeyBundle := do
  let classical := material.classical.bundle
  let pqPublic := material.pq.publicKey
  let transcript ← bindingTranscript P classical pqPublic
  let pqSignature := material.classical.signMessage transcript
  return { classical, pqPublic, pqSignature }

def onClassical {α : Type} (method : Update (ResponderPrekeyMaterial P) MefError α) :
    Update (HybridResponderPrekeyMaterial P K) MefError α :=
  fun material =>
    let (outcome, classical) := method material.classical
    (outcome, { material with classical })

def addOneTimePrekey (entropy : Entropy) (id : UInt32) :
    Update (HybridResponderPrekeyMaterial P K) MefError PUnit :=
  onClassical (ResponderPrekeyMaterial.addOneTimePrekey entropy id)

def accept (message : HybridInitiatorHandshake) :
    Update (HybridResponderPrekeyMaterial P K) MefError (AuthenticatedHandshake P) := do
  let classical ← onClassical (Mef26.accept message.classical)
  let material ← Update.read
  let pqShared := material.pq.decapsulate message.pqCiphertext
  liftM (classical.mixMlKem768 pqShared)

end HybridResponderPrekeyMaterial

variable (K) in
def Hybrid.initiate (ephemeralEntropy ratchetEntropy pqEntropy : Entropy)
    (identity : LocalIdentity P) (bundle : HybridResponderPrekeyBundle) (nowUnix : UInt64) :
    Result (HybridInitiatorHandshake × AuthenticatedHandshake P) := do
  bundle.verify P nowUnix
  let (classical, handshake) ←
    Mef26.initiate ephemeralEntropy ratchetEntropy identity bundle.classical nowUnix
  let (pqCiphertext, pqShared) ←
    MlKem768PublicKey.encapsulate K bundle.pqPublic pqEntropy
  let handshake ← handshake.mixMlKem768 pqShared
  return ({ classical, pqCiphertext }, handshake)

/-! ## The wire -/

def lengthPrefixed (part : List UInt8) : List UInt8 :=
  beBytes16 (.ofNat part.length) ++ part

def HybridResponderPrekeyBundle.encode (bundle : HybridResponderPrekeyBundle) : List UInt8 :=
  Hybrid.magic ++ [Hybrid.version] ++ lengthPrefixed bundle.classical.encode ++
    lengthPrefixed bundle.pqPublic.bytes ++ bundle.pqSignature.bytes

def HybridInitiatorHandshake.encode (message : HybridInitiatorHandshake) : List UInt8 :=
  Hybrid.magic ++ [Hybrid.version] ++ lengthPrefixed message.classical.encode ++
    lengthPrefixed message.pqCiphertext.bytes

variable (P K) in
def HybridResponderPrekeyBundle.decode (bytes : List UInt8) :
    Result HybridResponderPrekeyBundle := do
  Outcome.rejectIf (bytes.length < 8) .invalidFrame
  let magicBytes ← slice bytes 0 3
  Outcome.rejectIf (magicBytes ≠ Hybrid.magic) .invalidFrame
  let versionByte ← elementAt bytes 3
  Outcome.rejectIf (versionByte ≠ Hybrid.version) .invalidFrame
  let classicalLenBytes ← slice bytes 4 6
  let classicalLen ← copyArray .invalidFrame 2 classicalLenBytes
  let classicalStart := 6
  let classicalEnd ← Outcome.okOr .invalidLength
    (checkedAddSize classicalStart (fromBeBytes16 classicalLen).toNat)
  let pqStart ← addSize classicalEnd 2
  Outcome.rejectIf (bytes.length < pqStart) .invalidFrame
  let classicalBytes ← slice bytes classicalStart classicalEnd
  let classical ← ResponderPrekeyBundle.decode P classicalBytes
  let pqLenBytes ← slice bytes classicalEnd pqStart
  let pqLen ← copyArray .invalidFrame 2 pqLenBytes
  let pqEnd ← Outcome.okOr .invalidLength
    (checkedAddSize pqStart (fromBeBytes16 pqLen).toNat)
  let signatureEnd ← Outcome.okOr .invalidLength (checkedAddSize pqEnd 64)
  Outcome.rejectIf (signatureEnd ≠ bytes.length) .invalidFrame
  let pqBytes ← slice bytes pqStart pqEnd
  let pqPublic ← MlKem768PublicKey.fromBytes K pqBytes
  let signatureBytes ← slice bytes pqEnd signatureEnd
  let pqSignature ← copyArray .invalidFrame 64 signatureBytes
  let transcript ← bindingTranscript P classical pqPublic
  classical.identity.verifySignature P transcript pqSignature
  return { classical, pqPublic, pqSignature }

variable (P) in
def HybridInitiatorHandshake.decode (bytes : List UInt8) :
    Result HybridInitiatorHandshake := do
  Outcome.rejectIf (bytes.length < 8) .invalidFrame
  let magicBytes ← slice bytes 0 3
  Outcome.rejectIf (magicBytes ≠ Hybrid.magic) .invalidFrame
  let versionByte ← elementAt bytes 3
  Outcome.rejectIf (versionByte ≠ Hybrid.version) .invalidFrame
  let classicalLenBytes ← slice bytes 4 6
  let classicalLen ← copyArray .invalidFrame 2 classicalLenBytes
  let classicalStart := 6
  let classicalEnd ← Outcome.okOr .invalidLength
    (checkedAddSize classicalStart (fromBeBytes16 classicalLen).toNat)
  let ciphertextStart ← addSize classicalEnd 2
  Outcome.rejectIf (bytes.length < ciphertextStart) .invalidFrame
  let classicalBytes ← slice bytes classicalStart classicalEnd
  let classical ← InitiatorHandshake.decode P classicalBytes
  let ciphertextLenBytes ← slice bytes classicalEnd ciphertextStart
  let ciphertextLen ← copyArray .invalidFrame 2 ciphertextLenBytes
  let ciphertextEnd ← Outcome.okOr .invalidLength
    (checkedAddSize ciphertextStart (fromBeBytes16 ciphertextLen).toNat)
  Outcome.rejectIf (ciphertextEnd ≠ bytes.length) .invalidFrame
  let ciphertextBytes ← slice bytes ciphertextStart ciphertextEnd
  let pqCiphertext ← MlKem768Ciphertext.fromBytes ciphertextBytes
  return { classical, pqCiphertext }

end Mef26
