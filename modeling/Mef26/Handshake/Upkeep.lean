import Mef26.Handshake.Codecs

namespace Mef26

/-! # The responder's material stays usable

What the responder, and whoever reads its bundle, relies on after any calls. -/

variable {Key : Type} {P : Primitives Key}

namespace ResponderPrekeyMaterial

/-- Every name is given once, every record is that of the key pair stored with it, and the
bundle offers what is held. -/
structure Usable (material : ResponderPrekeyMaterial P) : Prop where
  signedIds : (material.signedPrekeys.map fun entry => entry.1.keyId).Nodup
  oneTimeIds : (material.oneTimePrekeys.map fun entry => entry.publicPart.id).Nodup
  signedKeys : ∀ entry ∈ material.signedPrekeys,
    entry.1.publicKey = P.x25519PublicKey entry.2.secret
  oneTimeKeys : ∀ entry ∈ material.oneTimePrekeys,
    entry.publicPart.publicKey = P.x25519PublicKey entry.key.secret
  verifies : ∀ entry ∈ material.signedPrekeys, ∀ nowUnix ≤ entry.1.expiresAtUnix,
    entry.1.verify P material.identity.signing.publicKey nowUnix = .ok ⟨⟩
  keepsCurrent : ∀ id,
    (retireSignedPrekey id material).2.signedRecord = material.signedRecord ∧
      (retireSignedPrekey id material).2.signedPrekey = material.signedPrekey
  offersIdentity :
    material.bundle.identity.signing = P.ed25519PublicKey material.identity.signing.seed ∧
      material.bundle.identity.dh = P.x25519PublicKey material.identity.dh.secret
  offersSigned : ∃ entry ∈ material.signedPrekeys, material.bundle.signedPrekey = entry.1
  offersOneTime : ∀ prekey, material.bundle.oneTimePrekey = some prekey →
    ∃ entry ∈ material.oneTimePrekeys, prekey = entry.publicPart
  bundleDecodes : ResponderPrekeyBundle.decode P material.bundle.encode = .ok material.bundle
  bundleVerifies : ∀ nowUnix ≤ material.bundle.signedPrekey.expiresAtUnix,
    material.bundle.verify P nowUnix = .ok ⟨⟩

/-- Retiring leaves the current prekey, whatever identifier it is asked for. -/
theorem current_retireSignedPrekey (material : ResponderPrekeyMaterial P) (id : UInt32) :
    (retireSignedPrekey id material).2.signedRecord = material.signedRecord ∧
      (retireSignedPrekey id material).2.signedPrekey = material.signedPrekey := by
  have changes := changes_retireSignedPrekey material id
  generalize (retireSignedPrekey id material).2 = next at changes ⊢
  cases changes with
  | unchanged => exact ⟨rfl, rfl⟩
  | retired => exact ⟨rfl, rfl⟩

theorem WellFormed.usable (signatures : P.LawfulEd25519) {material : ResponderPrekeyMaterial P}
    (wellFormed : material.WellFormed) : material.Usable where
  signedIds := wellFormed.signedNames
  oneTimeIds := wellFormed.oneTimeNames
  signedKeys entry held := by
    rw [wellFormed.publicKey_eq held, entry.2.publicKey_eq]
  oneTimeKeys entry held := by
    rw [wellFormed.published entry held, entry.key.publicKey_eq]
  verifies entry held nowUnix fresh := by
    rw [wellFormed.issued entry held]
    exact SignedPrekey.verify_issue signatures _ _ _ fresh
  keepsCurrent := material.current_retireSignedPrekey
  offersIdentity := ⟨material.identity.signing.publicKey_eq, material.identity.dh.publicKey_eq⟩
  offersSigned := ⟨_, List.mem_cons_self .., rfl⟩
  offersOneTime prekey offered := by
    rcases Option.map_eq_some_iff.mp offered with ⟨entry, isFirst, rfl⟩
    exact ⟨entry, List.mem_of_mem_head? isFirst, rfl⟩
  bundleDecodes := ResponderPrekeyBundle.exact_decode.parse_write
    (material.identity.verify_publicRecord signatures)
  bundleVerifies _ fresh := material.verify_bundle signatures wellFormed fresh

end ResponderPrekeyMaterial

/-- Generated material is usable after every sequence of calls, whatever they returned. -/
theorem run_usable (signatures : P.LawfulEd25519)
    {signingEntropy dhEntropy prekeyEntropy : Entropy} {id : UInt32} {expiresAtUnix : UInt64}
    {start final : ResponderPrekeyMaterial P} {transitions : List (PrekeyTransition P)}
    (generated : ResponderPrekeyMaterial.generate signingEntropy dhEntropy prekeyEntropy id
      expiresAtUnix = .ok start)
    (run : Run PrekeyStep start transitions final) : final.Usable := by
  have initial := ResponderPrekeyMaterial.wellFormed_generate generated
  exact (wellFormed_of_run run initial).usable signatures

theorem run_usable_rotated : (sampleLater Primitives.concrete).Usable :=
  run_usable Primitives.lawfulEd25519_concrete (generate_sampleMaterial _)
    (.cons (samplePublished_eq _) (.cons (sampleLater_eq _) (.nil _)))

end Mef26
