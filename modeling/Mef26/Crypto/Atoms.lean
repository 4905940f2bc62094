import Mathlib.Data.Sym.Sym2
import Mef26.Handshake.Hybrid

namespace Mef26

/-! # Symbolic secrets with key encapsulation

Secrets as terms, as without encapsulation, and one more kind: the secret that was
encapsulated to a key with some randomness. -/

inductive HybridTerm
  | agreement (parties : Sym2 (FixedBytes 32))
  | derived (salt : List (UInt8 ⊕ HybridTerm)) (info : List UInt8)
      (input : List (UInt8 ⊕ HybridTerm))
  | encapsulated (key : FixedBytes 1184) (randomness : FixedBytes 32)

namespace Primitives

def hybridSymbolic : Primitives HybridTerm where
  hkdfSha256 := .derived
  blake3 _ := .replicate 32 0
  x25519PublicKey secret := secret
  x25519 secret peer := .agreement s(secret, peer)
  wasContributory _ := true
  aeadEncrypt _ _ _ _ plaintext := some (plaintext ++ List.replicate 16 0)
  aeadDecrypt _ _ _ _ body := some (body.take (body.length - 16))
  ed25519PublicKey seed := seed
  ed25519IsKey _ := true
  ed25519Sign seed _ := ⟨seed.bytes ++ seed.bytes, length_doubled seed⟩
  ed25519VerifyStrict key _ signature := signature.bytes = key.bytes ++ key.bytes

theorem lawfulX25519_hybridSymbolic : hybridSymbolic.LawfulX25519 where
  symmetric _ _ := congrArg HybridTerm.agreement Sym2.eq_swap
  contributory _ _ := rfl

theorem lawfulEd25519_hybridSymbolic : hybridSymbolic.LawfulEd25519 where
  isKey _ := rfl
  verify_sign _ _ := by simp [hybridSymbolic]

end Primitives

def FixedBytes.padded {size : Nat} (bytes : FixedBytes size) (more : Nat) :
    FixedBytes (size + more) where
  bytes := bytes.bytes ++ List.replicate more 0
  size_eq := by
    rw [List.length_append, bytes.length_bytes, List.length_replicate]

def FixedBytes.front {size : Nat} (first rest : Nat) (bytes : FixedBytes size)
    (split : size = first + rest) : FixedBytes first where
  bytes := bytes.bytes.take first
  size_eq := by
    rw [List.length_take, bytes.length_bytes, split]
    exact Nat.min_eq_left (Nat.le_add_right _ _)

def symbolicKem : MlKem768 HybridTerm where
  encapsulationKey seed := seed.padded 1120
  isEncapsulationKey _ := true
  encapsulateDeterministic key randomness :=
    (randomness.padded 1056, .encapsulated key randomness)
  decapsulate seed ciphertext :=
    .encapsulated (seed.padded 1120) (ciphertext.front 32 1056 rfl)

theorem lawful_symbolicKem : symbolicKem.Lawful where
  valid _ := rfl
  correct seed randomness := by
    refine congrArg (HybridTerm.encapsulated _) (FixedBytes.ext ?_)
    exact List.take_left' randomness.length_bytes

end Mef26
