import Mathlib.Data.Sum.Basic
import Mef26.Foundation.Bytes
import Mef26.Limits

namespace Mef26

/-! # The primitives the crate wraps

The crate calls vetted libraries for its cryptography. Their functions are the
fields of `Primitives`, and the laws below state the documented behaviour that
results about the crate rely on.

`Key` is the type of 32-byte secrets: X25519 outputs, ratchet secrets and AEAD
keys. It is a parameter because idealised key derivation, whose outputs never
collide, has no instance over arrays of 32 bytes. Everything that travels on
the wire is made of real bytes. -/

inductive AeadSuite
  | aes256Gcm
  | aes256GcmSiv
  | chaCha20Poly1305
  | xChaCha20Poly1305
  deriving DecidableEq, Repr

namespace AeadSuite

def fromId (value : UInt8) : Result AeadSuite :=
  match value with
  | 1 => .ok .aes256Gcm
  | 2 => .ok .aes256GcmSiv
  | 3 => .ok .chaCha20Poly1305
  | 4 => .ok .xChaCha20Poly1305
  | _ => .err .unsupportedSuite

def id : AeadSuite → UInt8
  | .aes256Gcm => 1
  | .aes256GcmSiv => 2
  | .chaCha20Poly1305 => 3
  | .xChaCha20Poly1305 => 4

def nonceLen : AeadSuite → Nat
  | .aes256Gcm | .aes256GcmSiv | .chaCha20Poly1305 => 12
  | .xChaCha20Poly1305 => 24

@[simp] theorem fromId_id (suite : AeadSuite) : fromId suite.id = .ok suite := by
  cases suite <;> rfl

theorem fromId_eq_ok {value : UInt8} {suite : AeadSuite} :
    fromId value = .ok suite ↔ suite.id = value := by
  constructor
  · intro parsed
    unfold fromId at parsed
    split at parsed <;> cases parsed <;> rfl
  · intro same
    subst same
    exact fromId_id suite

theorem id_injective : Function.Injective id := by
  intro left right equal
  have parsed := congrArg fromId equal
  simpa using parsed

theorem nonceLen_le (suite : AeadSuite) : suite.nonceLen ≤ 24 := by
  cases suite <;> decide

end AeadSuite

/-- A byte string handed to a hash function. A secret block inside it counts
for 32 bytes and stays opaque. -/
abbrev KeyMaterial (Key : Type) := List (UInt8 ⊕ Key)

namespace KeyMaterial

variable {Key : Type}

def ofBytes (bytes : List UInt8) : KeyMaterial Key := bytes.map .inl

def ofKey (key : Key) : KeyMaterial Key := [.inr key]

def byteLength (material : KeyMaterial Key) : Nat :=
  (material.map fun
    | .inl _ => 1
    | .inr _ => 32).sum

@[simp] theorem byteLength_ofBytes (bytes : List UInt8) :
    byteLength (ofBytes bytes : KeyMaterial Key) = bytes.length := by
  induction bytes with
  | nil => rfl
  | cons byte rest induction =>
      simp only [byteLength, ofBytes, List.map_cons, List.sum_cons,
        List.length_cons] at induction ⊢
      omega

@[simp] theorem byteLength_ofKey (key : Key) : byteLength (ofKey key) = 32 := rfl

@[simp] theorem byteLength_append (left right : KeyMaterial Key) :
    byteLength (left ++ right) = byteLength left + byteLength right := by
  simp [byteLength]

theorem ofBytes_injective :
    Function.Injective (ofBytes : List UInt8 → KeyMaterial Key) :=
  List.map_injective_iff.mpr Sum.inl_injective

theorem ofKey_injective : Function.Injective (ofKey : Key → KeyMaterial Key) := by
  intro left right equal
  simpa [ofKey] using equal

end KeyMaterial

/-- The third-party functions behind the crate's wrappers. -/
structure Primitives (Key : Type) where
  /-- HKDF-SHA-256 extraction with a salt, expanded with `info` to 32 bytes. -/
  hkdfSha256 (salt : KeyMaterial Key) (info : List UInt8)
    (input : KeyMaterial Key) : Key
  blake3 (input : KeyMaterial Key) : FixedBytes 32
  x25519PublicKey (secret : FixedBytes 32) : FixedBytes 32
  x25519 (secret peer : FixedBytes 32) : Key
  wasContributory (shared : Key) : Bool
  /-- In-place encryption: the ciphertext with its tag, unless the library
  refuses the input. -/
  aeadEncrypt (suite : AeadSuite) (key : Key)
    (nonce aad plaintext : List UInt8) : Option (List UInt8)
  aeadDecrypt (suite : AeadSuite) (key : Key)
    (nonce aad body : List UInt8) : Option (List UInt8)
  ed25519PublicKey (seed : FixedBytes 32) : FixedBytes 32
  /-- Whether 32 bytes parse as a verifying key. -/
  ed25519IsKey (bytes : FixedBytes 32) : Bool
  ed25519Sign (seed : FixedBytes 32) (message : List UInt8) : FixedBytes 64
  ed25519VerifyStrict (key : FixedBytes 32) (message : List UInt8)
    (signature : FixedBytes 64) : Bool

/-- The operating system's answer to one request for random bytes. `none` is a
failing generator. -/
abbrev Entropy := (size : Nat) → Option (FixedBytes size)

def fillSecure (entropy : Entropy) (size : Nat) : Result (FixedBytes size) :=
  Outcome.okOr .randomnessUnavailable (entropy size)

namespace Primitives

variable {Key : Type}

/-- X25519 agreement is symmetric, and contributory on honest keys. -/
structure LawfulX25519 (P : Primitives Key) : Prop where
  symmetric (left right : FixedBytes 32) :
    P.x25519 left (P.x25519PublicKey right) = P.x25519 right (P.x25519PublicKey left)
  contributory (left right : FixedBytes 32) :
    P.wasContributory (P.x25519 left (P.x25519PublicKey right)) = true

/-- Secrets of different public keys have different agreements with a peer key. -/
def SeparatesX25519 (P : Primitives Key) (peer : FixedBytes 32) : Prop :=
  ∀ left right, P.wasContributory (P.x25519 left peer) = true →
    P.x25519 left peer = P.x25519 right peer →
    P.x25519PublicKey left = P.x25519PublicKey right

/-- Honest keys parse, and their signatures verify. -/
structure LawfulEd25519 (P : Primitives Key) : Prop where
  isKey (seed : FixedBytes 32) : P.ed25519IsKey (P.ed25519PublicKey seed) = true
  verify_sign (seed : FixedBytes 32) (message : List UInt8) :
    P.ed25519VerifyStrict (P.ed25519PublicKey seed) message (P.ed25519Sign seed message) = true

/-- Decryption inverts encryption, and the tag is 16 bytes long. -/
structure LawfulAead (P : Primitives Key) : Prop where
  decrypt_encrypt {suite : AeadSuite} {key : Key} {nonce aad plaintext body : List UInt8} :
    P.aeadEncrypt suite key nonce aad plaintext = some body →
      P.aeadDecrypt suite key nonce aad body = some plaintext
  length_encrypt {suite : AeadSuite} {key : Key} {nonce aad plaintext body : List UInt8} :
    P.aeadEncrypt suite key nonce aad plaintext = some body →
      body.length = plaintext.length + 16

/-- Encryption accepts every input within the crate's limits. -/
def TotalAead (P : Primitives Key) : Prop :=
  ∀ suite key nonce aad plaintext, nonce.length = suite.nonceLen →
    aad.length ≤ maxAadLen → plaintext.length ≤ maxCiphertextLen - 16 →
    (P.aeadEncrypt suite key nonce aad plaintext).isSome

def CollisionFreeKdf (P : Primitives Key) : Prop :=
  ∀ salt info input salt' info' input',
    P.hkdfSha256 salt info input = P.hkdfSha256 salt' info' input' →
      salt = salt' ∧ info = info' ∧ input = input'

theorem length_doubled (seed : FixedBytes 32) :
    (seed.bytes ++ seed.bytes).length = 64 := by
  rw [List.length_append, seed.length_bytes]

end Primitives

end Mef26
