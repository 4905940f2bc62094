import Mef26.Crypto.Kdf

namespace Mef26

/-! # X25519 and Ed25519 keys, and signed prekeys -/

abbrev DhPublicKey := FixedBytes 32

abbrev DhSecretKey := FixedBytes 32

/-- An X25519 key pair. Pairs are only ever built from their secret half. -/
structure DhKeyPair {Key : Type} (P : Primitives Key) where
  secret : DhSecretKey
  publicKey : DhPublicKey
  publicKey_eq : publicKey = P.x25519PublicKey secret
  deriving DecidableEq

namespace DhKeyPair

variable {Key : Type} {P : Primitives Key}

def fromSecret (secret : DhSecretKey) : DhKeyPair P where
  secret := secret
  publicKey := P.x25519PublicKey secret
  publicKey_eq := rfl

def generate (entropy : Entropy) : Result (DhKeyPair P) := do
  let secret ← fillSecure entropy 32
  return fromSecret secret

def diffieHellman (pair : DhKeyPair P) (peer : DhPublicKey) : Result Key := do
  let shared := P.x25519 pair.secret peer
  Outcome.rejectIf (¬P.wasContributory shared) .nonContributoryKeyAgreement
  return shared

@[ext] theorem ext_secret {left right : DhKeyPair P}
    (secrets : left.secret = right.secret) : left = right := by
  rcases left with ⟨leftSecret, leftPublic, leftEq⟩
  rcases right with ⟨rightSecret, rightPublic, rightEq⟩
  cases secrets
  cases leftEq
  cases rightEq
  rfl

@[simp] theorem fromSecret_secret (pair : DhKeyPair P) : fromSecret pair.secret = pair :=
  ext_secret rfl

theorem generate_eq_ok {entropy : Entropy} {pair : DhKeyPair P} :
    generate entropy = .ok pair ↔ entropy 32 = some pair.secret := by
  unfold generate fillSecure
  cases entropy 32 with
  | none => simp
  | some secret =>
      simp only [Outcome.okOr_some, Outcome.ok_bind, Outcome.pure_eq_ok,
        Outcome.ok.injEq, Option.some.injEq]
      constructor
      · intro same
        subst same
        rfl
      · intro same
        subst same
        exact fromSecret_secret pair

theorem diffieHellman_eq_ok {pair : DhKeyPair P} {peer : DhPublicKey} {shared : Key} :
    pair.diffieHellman peer = .ok shared ↔
      P.wasContributory (P.x25519 pair.secret peer) = true ∧
        shared = P.x25519 pair.secret peer := by
  simp only [diffieHellman, Outcome.bind_eq_ok, Outcome.rejectIf_eq_ok,
    Outcome.pure_eq_ok, Outcome.ok.injEq, not_not]
  constructor
  · intro returned
    rcases returned with ⟨_, contributory, rfl⟩
    exact ⟨contributory, rfl⟩
  · intro holds
    rcases holds with ⟨contributory, rfl⟩
    exact ⟨⟨⟩, contributory, rfl⟩

theorem generate_ne_panic (entropy : Entropy) :
    (generate entropy : Result (DhKeyPair P)) ≠ .panic :=
  Outcome.bind_ne_panic (Outcome.okOr_ne_panic _ _) fun _ _ => by simp

theorem diffieHellman_ne_panic (pair : DhKeyPair P) (peer : DhPublicKey) :
    pair.diffieHellman peer ≠ .panic :=
  Outcome.bind_ne_panic (Outcome.rejectIf_ne_panic _ _) fun _ _ => by simp

theorem x25519_comm (lawful : P.LawfulX25519) (left right : DhKeyPair P) :
    P.x25519 left.secret right.publicKey = P.x25519 right.secret left.publicKey := by
  rw [left.publicKey_eq, right.publicKey_eq]
  exact lawful.symmetric _ _

end DhKeyPair

/-! ## Identities -/

abbrev IdentityPublicKey := FixedBytes 32

abbrev Signature := FixedBytes 64

/-- An Ed25519 signing key, held as its seed. -/
structure IdentityKeyPair {Key : Type} (P : Primitives Key) where
  seed : FixedBytes 32
  publicKey : IdentityPublicKey
  publicKey_eq : publicKey = P.ed25519PublicKey seed
  deriving DecidableEq

section Identities

variable {Key : Type} (P : Primitives Key)

def IdentityPublicKey.fromBytes (bytes : FixedBytes 32) : Result IdentityPublicKey := do
  Outcome.rejectIf (¬P.ed25519IsKey bytes) .invalidFrame
  return bytes

def IdentityPublicKey.verify (identity : IdentityPublicKey) (message : List UInt8)
    (signature : Signature) : Result PUnit := do
  Outcome.rejectIf (¬P.ed25519IsKey identity) .invalidFrame
  Outcome.rejectIf (¬P.ed25519VerifyStrict identity message signature) .authenticationFailed

theorem IdentityPublicKey.fromBytes_ne_panic (bytes : FixedBytes 32) :
    IdentityPublicKey.fromBytes P bytes ≠ .panic := by
  apply Outcome.rejectIf_bind_ne_panic
  simp

theorem IdentityPublicKey.verify_ne_panic (identity : IdentityPublicKey)
    (message : List UInt8) (signature : Signature) :
    identity.verify P message signature ≠ .panic := by
  apply Outcome.rejectIf_bind_ne_panic
  exact Outcome.rejectIf_ne_panic _ _

variable {P}

namespace IdentityKeyPair

def fromSeed (seed : FixedBytes 32) : IdentityKeyPair P where
  seed := seed
  publicKey := P.ed25519PublicKey seed
  publicKey_eq := rfl

def generate (entropy : Entropy) : Result (IdentityKeyPair P) := do
  let seed ← fillSecure entropy 32
  return fromSeed seed

def sign (pair : IdentityKeyPair P) (message : List UInt8) : Signature :=
  P.ed25519Sign pair.seed message

end IdentityKeyPair

/-! ## Signed prekeys -/

@[ext]
structure SignedPrekey where
  keyId : UInt32
  publicKey : DhPublicKey
  expiresAtUnix : UInt64
  signature : Signature
  deriving DecidableEq, Repr

def SignedPrekey.transcript (keyId : UInt32) (prekey : DhPublicKey)
    (expiresAtUnix : UInt64) : List UInt8 :=
  utf8Bytes protocolId ++ [0] ++ utf8Bytes "signed-prekey-v1" ++ beBytes32 keyId ++
    prekey.bytes ++ beBytes64 expiresAtUnix

def IdentityKeyPair.signPrekey (pair : IdentityKeyPair P) (keyId : UInt32)
    (prekey : DhPublicKey) (expiresAtUnix : UInt64) : Signature :=
  pair.sign (SignedPrekey.transcript keyId prekey expiresAtUnix)

namespace SignedPrekey

def issue (identity : IdentityKeyPair P) (keyId : UInt32) (publicKey : DhPublicKey)
    (expiresAtUnix : UInt64) : SignedPrekey where
  keyId := keyId
  publicKey := publicKey
  expiresAtUnix := expiresAtUnix
  signature := identity.signPrekey keyId publicKey expiresAtUnix

variable (P) in
def verify (record : SignedPrekey) (identity : IdentityPublicKey) (nowUnix : UInt64) :
    Result PUnit := do
  Outcome.rejectIf (nowUnix > record.expiresAtUnix) .authenticationFailed
  identity.verify P (transcript record.keyId record.publicKey record.expiresAtUnix)
    record.signature

end SignedPrekey

variable (P) in
def identityFingerprint (identity : IdentityPublicKey) : Result (FixedBytes 32) :=
  blake3Id P "identity-fingerprint-v1" [.ofBytes identity.bytes]

end Identities

end Mef26
