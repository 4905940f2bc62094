import Mathlib.Data.Sym.Sym2
import Mef26.Crypto.Primitives

namespace Mef26

/-! # Symbolic secrets

Secrets as terms: a derived secret is the derivation itself, and an agreement is the
unordered pair of the keys it was made from. No two different derivations agree. -/

inductive Term
  | agreement (parties : Sym2 (FixedBytes 32))
  | derived (salt : List (UInt8 ⊕ Term)) (info : List UInt8) (input : List (UInt8 ⊕ Term))

namespace Primitives

/-- Free key derivation and agreement. Encryption appends an empty tag. -/
def symbolic : Primitives Term where
  hkdfSha256 := .derived
  blake3 _ := .replicate 32 0
  x25519PublicKey secret := secret
  x25519 secret peer := .agreement s(secret, peer)
  wasContributory _ := true
  aeadEncrypt _ _ _ _ plaintext := some (plaintext ++ List.replicate 16 0)
  aeadDecrypt _ _ _ _ body := some (body.take (body.length - 16))
  ed25519PublicKey seed := seed
  ed25519IsKey _ := true
  ed25519Sign seed _ := ⟨seed.bytes ++ seed.bytes, length_doubled seed⟩
  ed25519VerifyStrict key _ signature := signature.bytes = key.bytes ++ key.bytes

theorem collisionFreeKdf_symbolic : symbolic.CollisionFreeKdf := by
  intro salt info input salt' info' input' same
  cases same
  exact ⟨rfl, rfl, rfl⟩

theorem lawfulX25519_symbolic : symbolic.LawfulX25519 where
  symmetric _ _ := congrArg Term.agreement Sym2.eq_swap
  contributory _ _ := rfl

theorem separatesX25519_symbolic (peer : FixedBytes 32) : symbolic.SeparatesX25519 peer := by
  intro left right _ same
  exact Sym2.congr_left.mp (Term.agreement.inj same)

theorem lawfulEd25519_symbolic : symbolic.LawfulEd25519 where
  isKey _ := rfl
  verify_sign _ _ := by simp [symbolic]

theorem lawfulAead_symbolic : symbolic.LawfulAead where
  decrypt_encrypt := by
    intro suite key nonce aad plaintext _ called
    cases called
    simp [symbolic]
  length_encrypt := by
    intro suite key nonce aad plaintext _ called
    cases called
    simp

theorem totalAead_symbolic : symbolic.TotalAead := fun _ _ _ _ _ _ _ _ => rfl

/-! ## Tags -/

def labelTag : Term → List UInt8
  | .derived (.inr (.derived _ info _) :: _) _ _ =>
      UInt8.ofNat info.length :: List.replicate 15 0
  | _ => List.replicate 16 0

@[simp] theorem length_labelTag (key : Term) : (labelTag key).length = 16 := by
  unfold labelTag
  split <;> simp

/-- The symbolic primitives, where a key opens only what carries its tag. -/
def tagged : Primitives Term :=
  { symbolic with
    aeadEncrypt := fun _ key _ _ plaintext => some (plaintext ++ labelTag key)
    aeadDecrypt := fun _ key _ _ body =>
      if body.drop (body.length - 16) = labelTag key then
        some (body.take (body.length - 16))
      else
        none }

theorem collisionFreeKdf_tagged : tagged.CollisionFreeKdf := collisionFreeKdf_symbolic

theorem separatesX25519_tagged (peer : FixedBytes 32) : tagged.SeparatesX25519 peer :=
  separatesX25519_symbolic peer

theorem lawfulX25519_tagged : tagged.LawfulX25519 where
  symmetric := lawfulX25519_symbolic.symmetric
  contributory := lawfulX25519_symbolic.contributory

theorem lawfulEd25519_tagged : tagged.LawfulEd25519 where
  isKey := lawfulEd25519_symbolic.isKey
  verify_sign := lawfulEd25519_symbolic.verify_sign

theorem lawfulAead_tagged : tagged.LawfulAead where
  decrypt_encrypt := by
    intro suite key nonce aad plaintext _ called
    cases called
    have tagStart : (plaintext ++ labelTag key).length - 16 = plaintext.length := by
      simp
    simp only [tagged, tagStart, List.drop_left, List.take_left, if_true]
  length_encrypt := by
    intro suite key nonce aad plaintext _ called
    cases called
    simp

end Primitives

end Mef26
