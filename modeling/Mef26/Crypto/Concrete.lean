import Mef26.Frame

namespace Mef26

/-! # Small primitives over real bytes

Functions that satisfy the laws of the wrapped libraries and compute at once.
They are not secure; they show that the laws are consistent and carry runs. -/

namespace Primitives

def firstByte : KeyMaterial (FixedBytes 32) → UInt8
  | [] => 0
  | .inl byte :: _ => byte
  | .inr key :: _ => key.bytes.headD 0

def concreteTag (key : FixedBytes 32) : List UInt8 := key.bytes.take 16

@[simp] theorem length_concreteTag (key : FixedBytes 32) : (concreteTag key).length = 16 := by
  simp [concreteTag]

def concrete : Primitives (FixedBytes 32) where
  hkdfSha256 salt _ _ :=
    ⟨(firstByte salt + 1) :: List.replicate 31 0, by simp⟩
  blake3 input := ⟨firstByte input :: List.replicate 31 0, by simp⟩
  x25519PublicKey secret := secret
  x25519 secret peer := ⟨List.zipWith (· + ·) secret.bytes peer.bytes, by simp⟩
  wasContributory _ := true
  aeadEncrypt _ key _ _ plaintext := some (plaintext ++ concreteTag key)
  aeadDecrypt _ key _ _ body :=
    if body.drop (body.length - 16) = concreteTag key then
      some (body.take (body.length - 16))
    else
      none
  ed25519PublicKey seed := seed
  ed25519IsKey _ := true
  ed25519Sign seed _ := ⟨seed.bytes ++ seed.bytes, length_doubled seed⟩
  ed25519VerifyStrict key _ signature := signature.bytes = key.bytes ++ key.bytes

theorem lawfulX25519_concrete : concrete.LawfulX25519 where
  symmetric left right := by
    apply FixedBytes.ext
    exact List.zipWith_comm_of_comm UInt8.add_comm
  contributory _ _ := rfl

theorem lawfulEd25519_concrete : concrete.LawfulEd25519 where
  isKey _ := rfl
  verify_sign _ _ := by simp [concrete]

theorem lawfulAead_concrete : concrete.LawfulAead where
  decrypt_encrypt := by
    intro suite key nonce aad plaintext _ called
    cases called
    have tagStart : (plaintext ++ concreteTag key).length - 16 = plaintext.length := by
      simp
    simp only [concrete, tagStart, List.drop_left, List.take_left, if_true]
  length_encrypt := by
    intro suite key nonce aad plaintext _ called
    cases called
    simp

theorem totalAead_concrete : concrete.TotalAead := fun _ _ _ _ _ _ _ _ => rfl

/-- The concrete primitives with one key that sealed a single message and opens
nothing else. -/
def singleUse (key : FixedBytes 32) (nonce aad plaintext : List UInt8) :
    Primitives (FixedBytes 32) :=
  { concrete with
    aeadEncrypt := fun suite key' nonce' aad' plaintext' =>
      if key' = key ∧ ¬(nonce' = nonce ∧ aad' = aad ∧ plaintext' = plaintext) then none
      else concrete.aeadEncrypt suite key' nonce' aad' plaintext'
    aeadDecrypt := fun suite key' nonce' aad' body =>
      if key' = key ∧ ¬(nonce' = nonce ∧ aad' = aad ∧ body = plaintext ++ concreteTag key)
      then none
      else concrete.aeadDecrypt suite key' nonce' aad' body }

theorem lawfulAead_singleUse (key : FixedBytes 32) (nonce aad plaintext : List UInt8) :
    (singleUse key nonce aad plaintext).LawfulAead where
  decrypt_encrypt := by
    intro suite key' nonce' aad' plaintext' body encrypted
    simp only [singleUse] at encrypted ⊢
    split at encrypted
    · cases encrypted
    · rename_i admitted
      rw [if_neg]
      · exact lawfulAead_concrete.decrypt_encrypt encrypted
      · intro holds
        rcases holds with ⟨rfl, other⟩
        simp only [true_and, not_not] at admitted
        rcases admitted with ⟨rfl, rfl, rfl⟩
        cases encrypted
        exact other ⟨rfl, rfl, rfl⟩
  length_encrypt := by
    intro suite key' nonce' aad' plaintext' body encrypted
    simp only [singleUse] at encrypted
    split at encrypted
    · cases encrypted
    · exact lawfulAead_concrete.length_encrypt encrypted

theorem encrypt_singleUse (key : FixedBytes 32) (nonce aad plaintext : List UInt8)
    (suite : AeadSuite) :
    (singleUse key nonce aad plaintext).aeadEncrypt suite key nonce aad plaintext =
      some (plaintext ++ concreteTag key) := by
  simp [singleUse, concrete]

theorem opens_singleUse {key : FixedBytes 32} {nonce aad plaintext : List UInt8}
    {suite : AeadSuite} {nonce' aad' body opened : List UInt8}
    (decrypted : (singleUse key nonce aad plaintext).aeadDecrypt suite key nonce' aad' body =
      some opened) :
    nonce' = nonce ∧ aad' = aad ∧ body = plaintext ++ concreteTag key := by
  simp only [singleUse] at decrypted
  split at decrypted
  · cases decrypted
  · rename_i admitted
    simpa only [true_and, not_not] using admitted

/-- The concrete primitives with a cipher that knows only the listed encryptions: suite,
key, nonce, associated data and plaintext of each. -/
def recorded (uses : List (AeadSuite × FixedBytes 32 × List UInt8 × List UInt8 × List UInt8)) :
    Primitives (FixedBytes 32) :=
  { concrete with
    aeadEncrypt := fun suite key nonce aad plaintext =>
      if (suite, key, nonce, aad, plaintext) ∈ uses then
        concrete.aeadEncrypt suite key nonce aad plaintext
      else none
    aeadDecrypt := fun suite key nonce aad body =>
      (concrete.aeadDecrypt suite key nonce aad body).filter fun plaintext =>
        (suite, key, nonce, aad, plaintext) ∈ uses }

section Recorded

variable {uses : List (AeadSuite × FixedBytes 32 × List UInt8 × List UInt8 × List UInt8)}

theorem lawfulX25519_recorded : (recorded uses).LawfulX25519 where
  symmetric := lawfulX25519_concrete.symmetric
  contributory := lawfulX25519_concrete.contributory

theorem lawfulAead_recorded : (recorded uses).LawfulAead where
  decrypt_encrypt := by
    intro suite key nonce aad plaintext body encrypted
    simp only [recorded] at encrypted ⊢
    split at encrypted
    · rename_i listed
      rw [lawfulAead_concrete.decrypt_encrypt encrypted]
      simpa [Option.filter] using listed
    · cases encrypted
  length_encrypt := by
    intro suite key nonce aad plaintext body encrypted
    simp only [recorded] at encrypted
    split at encrypted
    · exact lawfulAead_concrete.length_encrypt encrypted
    · cases encrypted

theorem opens_recorded {suite : AeadSuite} {key : FixedBytes 32}
    {nonce aad body plaintext : List UInt8}
    (decrypted : (recorded uses).aeadDecrypt suite key nonce aad body = some plaintext) :
    (suite, key, nonce, aad, plaintext) ∈ uses ∧ body = plaintext ++ concreteTag key := by
  simp only [recorded, Option.filter_eq_some_iff, decide_eq_true_eq] at decrypted
  rcases decrypted with ⟨opened, listed⟩
  simp only [concrete] at opened
  split at opened
  · rename_i tag
    rw [← Option.some.inj opened, ← tag, List.take_append_drop]
    exact ⟨Option.some.inj opened ▸ listed, rfl⟩
  · cases opened

end Recorded

end Primitives

def constantEntropy (byte : UInt8) : Entropy := fun size => some (.replicate size byte)

def failingEntropy : Entropy := fun _ => none

namespace InnerFrame

theorem length_zeroNonce :
    (List.replicate 24 (0 : UInt8)).length = AeadSuite.nonceLen .xChaCha20Poly1305 := rfl

/-- A frame around an empty plaintext, whose tag starts with a given byte. -/
def empty (ratchetPublic : FixedBytes ratchetPublicLen)
    (previousChainLen messageNumber : UInt32) (tagByte : UInt8) : InnerFrame where
  header := {
    kind := .message
    sessionId := .replicate 32 0
    ratchetPublic, previousChainLen, messageNumber }
  ciphertext := {
    suite := .xChaCha20Poly1305
    nonce := List.replicate 24 0
    body := tagByte :: List.replicate 15 0
    nonce_length := length_zeroNonce
    tag_le_body := Nat.le_refl _
    body_le_limit := Nat.le_trans (Nat.le_refl 16) (by decide) }

end InnerFrame

end Mef26
