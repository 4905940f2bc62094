import Mef26.Crypto.Primitives

namespace Mef26

/-! # Domain-separated identifiers and key derivation -/

def keyLen : Nat := 32

/-- HKDF expansion refuses only outputs longer than 255 SHA-256 blocks. -/
def hkdfExpandLimit : Nat := 255 * 32

def domainLabel (kind label : String) : List UInt8 :=
  utf8Bytes protocolId ++ [0] ++ utf8Bytes kind ++ [0] ++ utf8Bytes label

def InvalidLabel (label : String) : Prop :=
  label.isEmpty ∨ label.utf8ByteSize > 255

instance (label : String) : Decidable (InvalidLabel label) :=
  inferInstanceAs (Decidable (_ ∨ _))

section Kdf

variable {Key : Type} (P : Primitives Key)

def deriveSecret (salt : KeyMaterial Key) (label : String)
    (input : KeyMaterial Key) : Result Key := do
  Outcome.rejectIf
    (InvalidLabel label ∨ KeyMaterial.byteLength input > maxCiphertextLen) .invalidLength
  Outcome.rejectIf (keyLen > hkdfExpandLimit) .keyDerivationFailed
  return P.hkdfSha256 salt (domainLabel "kdf" label) input

def deriveAeadKey (salt : KeyMaterial Key) (label : String)
    (input : KeyMaterial Key) : Result Key := do
  let secret ← deriveSecret P salt label input
  return secret

def blake3Input (label : String) (parts : List (KeyMaterial Key)) : KeyMaterial Key :=
  KeyMaterial.ofBytes (utf8Bytes protocolId ++ [0] ++ utf8Bytes "blake3-id" ++ [0] ++
    utf8Bytes label) ++
  parts.flatMap fun part =>
    KeyMaterial.ofBytes (toBigEndian 8 (KeyMaterial.byteLength part)) ++ part

def blake3Id (label : String) (parts : List (KeyMaterial Key)) : Result (FixedBytes 32) := do
  Outcome.rejectIf
    (InvalidLabel label ∨
      parts.any fun part => KeyMaterial.byteLength part > maxCiphertextLen) .invalidLength
  return P.blake3 (blake3Input label parts)

theorem deriveSecret_eq {salt : KeyMaterial Key} {label : String}
    {input : KeyMaterial Key} (valid : ¬InvalidLabel label)
    (short : KeyMaterial.byteLength input ≤ maxCiphertextLen) :
    deriveSecret P salt label input =
      .ok (P.hkdfSha256 salt (domainLabel "kdf" label) input) := by
  unfold deriveSecret
  rw [Outcome.rejectIf_of_not _ (not_or.mpr ⟨valid, Nat.not_lt.mpr short⟩),
    Outcome.rejectIf_of_not _ (by decide)]
  rfl

theorem blake3Id_eq {label : String} {parts : List (KeyMaterial Key)}
    (valid : ¬InvalidLabel label)
    (short : ∀ part ∈ parts, KeyMaterial.byteLength part ≤ maxCiphertextLen) :
    blake3Id P label parts = .ok (P.blake3 (blake3Input label parts)) := by
  have admitted : ¬(InvalidLabel label ∨
      parts.any fun part => KeyMaterial.byteLength part > maxCiphertextLen) := by
    simpa [valid] using short
  unfold blake3Id
  rw [Outcome.rejectIf_of_not _ admitted]
  rfl

@[simp] theorem deriveAeadKey_eq_deriveSecret (salt : KeyMaterial Key)
    (label : String) (input : KeyMaterial Key) :
    deriveAeadKey P salt label input = deriveSecret P salt label input := by
  unfold deriveAeadKey
  cases deriveSecret P salt label input <;> rfl

end Kdf

theorem domainLabel_injective (kind : String) : Function.Injective (domainLabel kind) := by
  intro left right equal
  exact utf8Bytes_injective (List.append_cancel_left equal)

end Mef26
