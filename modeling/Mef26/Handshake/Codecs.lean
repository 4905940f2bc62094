import Mef26.Foundation.Codec
import Mef26.Handshake.Completeness

namespace Mef26

/-! # The codecs of the handshake

A classical value is parsed once its identity binding verifies; a hybrid bundle also needs
its ML-KEM binding. Encoding a parsed value gives the bytes back. -/

variable {Key : Type} {P : Primitives Key} {K : MlKem768 Key}

/-! ## Classical -/

namespace InitiatorHandshake

def Bound (P : Primitives Key) (message : InitiatorHandshake) : Prop :=
  message.initiatorIdentity.verify P = .ok ⟨⟩

theorem exact_decode : Codec.Exact encode (Bound P) (decode P) :=
  fun _ _ => decode_eq_ok

end InitiatorHandshake

namespace ResponderPrekeyBundle

def Bound (P : Primitives Key) (bundle : ResponderPrekeyBundle) : Prop :=
  bundle.identity.verify P = .ok ⟨⟩

theorem exact_decode : Codec.Exact encode (Bound P) (decode P) :=
  fun _ _ => decode_eq_ok

end ResponderPrekeyBundle

/-- Each classical value whose identity binding holds has one wire form, and a missing
one-time prekey is written unlike any that is there. -/
theorem classicalCodecs_exact :
    Codec.Canonical (fun message => .ok (InitiatorHandshake.encode message))
      (InitiatorHandshake.Bound P) (InitiatorHandshake.decode P) ∧
    Codec.Canonical (fun bundle => .ok (ResponderPrekeyBundle.encode bundle))
      (ResponderPrekeyBundle.Bound P) (ResponderPrekeyBundle.decode P) ∧
    (∀ left right : InitiatorHandshake, left.oneTimePrekeyId = none →
      right.oneTimePrekeyId ≠ none → left.encode ≠ right.encode) ∧
    ∀ left right : ResponderPrekeyBundle, left.oneTimePrekey = none →
      right.oneTimePrekey ≠ none → left.encode ≠ right.encode := by
  refine ⟨?_, ?_, ?_, ?_⟩
  · exact InitiatorHandshake.exact_decode.canonical
      (InitiatorHandshake.exact_decode.prefixFree_of_length InitiatorHandshake.length_encode)
      (fun _ => rfl) InitiatorHandshake.decode_ne_panic
  · exact ResponderPrekeyBundle.exact_decode.canonical
      (ResponderPrekeyBundle.exact_decode.prefixFree_of_length
        ResponderPrekeyBundle.length_encode)
      (fun _ => rfl) ResponderPrekeyBundle.decode_ne_panic
  · intro left right missing present same
    rw [← InitiatorHandshake.encode_injective same] at present
    exact present missing
  · intro left right missing present same
    rw [← ResponderPrekeyBundle.encode_injective same] at present
    exact present missing

/-! ## Hybrid -/

namespace HybridInitiatorHandshake

theorem exact_decode : Codec.Exact encode
    (fun message => message.classical.Bound P) (decode P) :=
  fun _ _ => decode_eq_ok

@[simp] theorem length_encode (message : HybridInitiatorHandshake) :
    message.encode.length = 1301 := by
  simp [encode, lengthPrefixed, Hybrid.magic_length]

end HybridInitiatorHandshake

namespace HybridResponderPrekeyBundle

def Bound (P : Primitives Key) (K : MlKem768 Key) (bundle : HybridResponderPrekeyBundle) :
    Prop :=
  bundle.classical.Bound P ∧ K.isEncapsulationKey bundle.pqPublic = true ∧
    bundle.classical.identity.verifySignature P
      (transcriptOf P bundle.classical bundle.pqPublic) bundle.pqSignature = .ok ⟨⟩

theorem exact_decode : Codec.Exact encode (Bound P K) (decode P K) :=
  fun _ _ => decode_eq_ok

@[simp] theorem length_encode (bundle : HybridResponderPrekeyBundle) :
    bundle.encode.length = 1533 := by
  simp [encode, lengthPrefixed, Hybrid.magic_length]

end HybridResponderPrekeyBundle

section Honest

variable (signatures : P.LawfulEd25519)

include signatures

theorem HybridResponderPrekeyMaterial.bound_of_bundle
    (honestKeys : ∀ seed, K.isEncapsulationKey (K.encapsulationKey seed) = true)
    {material : HybridResponderPrekeyMaterial P K} {bundle : HybridResponderPrekeyBundle}
    (published : material.bundle = .ok bundle) : bundle.Bound P K := by
  rw [bundle_eq] at published
  cases published
  refine ⟨material.classical.identity.verify_publicRecord signatures, ?_,
    material.verifySignature_publicBundle signatures⟩
  show K.isEncapsulationKey material.pq.publicKey = true
  rw [material.pq.publicKey_eq]
  exact honestKeys _

theorem Hybrid.bound_of_initiate {ephemeralEntropy ratchetEntropy pqEntropy : Entropy}
    {identity : LocalIdentity P} {bundle : HybridResponderPrekeyBundle} {nowUnix : UInt64}
    {message : HybridInitiatorHandshake} {handshake : AuthenticatedHandshake P}
    (initiated : Hybrid.initiate K ephemeralEntropy ratchetEntropy pqEntropy identity bundle
      nowUnix = .ok (message, handshake)) : message.classical.Bound P := by
  rcases Hybrid.parts_of_initiate initiated with ⟨_, _, sent, _, _⟩
  rcases initiate_eq_ok.mp sent with ⟨_, _, _, _, _, _, _, _, _, sent, _⟩
  rw [sent]
  exact identity.verify_publicRecord signatures

/-- Hybrid values of honest parties come back from the wire, parsed bytes have no other
form, and no bytes are both a bundle and a message. -/
theorem hybridCodecs_exact
    (honestKeys : ∀ seed, K.isEncapsulationKey (K.encapsulationKey seed) = true) :
    (∀ (material : HybridResponderPrekeyMaterial P K) (bundle : HybridResponderPrekeyBundle),
      material.bundle = .ok bundle →
      HybridResponderPrekeyBundle.decode P K bundle.encode = .ok bundle) ∧
    (∀ (ephemeralEntropy ratchetEntropy pqEntropy : Entropy) (identity : LocalIdentity P)
      (bundle : HybridResponderPrekeyBundle) (nowUnix : UInt64)
      (message : HybridInitiatorHandshake) (handshake : AuthenticatedHandshake P),
      Hybrid.initiate K ephemeralEntropy ratchetEntropy pqEntropy identity bundle nowUnix =
        .ok (message, handshake) →
      HybridInitiatorHandshake.decode P message.encode = .ok message) ∧
    Codec.Canonical (fun bundle => .ok (HybridResponderPrekeyBundle.encode bundle))
      (HybridResponderPrekeyBundle.Bound P K) (HybridResponderPrekeyBundle.decode P K) ∧
    Codec.Canonical (fun message => .ok (HybridInitiatorHandshake.encode message))
      (fun message => message.classical.Bound P) (HybridInitiatorHandshake.decode P) ∧
    ∀ bytes bundle message,
      HybridResponderPrekeyBundle.decode P K bytes = .ok bundle →
      HybridInitiatorHandshake.decode P bytes ≠ .ok message := by
  refine ⟨?_, ?_, ?_, ?_, ?_⟩
  · intro material bundle published
    exact HybridResponderPrekeyBundle.exact_decode.parse_write
      (HybridResponderPrekeyMaterial.bound_of_bundle signatures honestKeys published)
  · intro ephemeralEntropy ratchetEntropy pqEntropy identity bundle nowUnix message handshake
      initiated
    exact HybridInitiatorHandshake.exact_decode.parse_write
      (Hybrid.bound_of_initiate signatures initiated)
  · exact HybridResponderPrekeyBundle.exact_decode.canonical
      (HybridResponderPrekeyBundle.exact_decode.prefixFree_of_length
        HybridResponderPrekeyBundle.length_encode)
      (fun _ => rfl) HybridResponderPrekeyBundle.decode_ne_panic
  · exact HybridInitiatorHandshake.exact_decode.canonical
      (HybridInitiatorHandshake.exact_decode.prefixFree_of_length
        HybridInitiatorHandshake.length_encode)
      (fun _ => rfl) HybridInitiatorHandshake.decode_ne_panic
  · intro bytes bundle message isBundle isMessage
    have bundleBytes := HybridResponderPrekeyBundle.exact_decode.write_eq isBundle
    have messageBytes := HybridInitiatorHandshake.exact_decode.write_eq isMessage
    have lengths := congrArg List.length (bundleBytes.trans messageBytes.symm)
    rw [HybridResponderPrekeyBundle.length_encode,
      HybridInitiatorHandshake.length_encode] at lengths
    cases lengths

end Honest

/-- The published bundle of the sample responder comes back. -/
theorem hybridCodecs_exact_sample :
    HybridResponderPrekeyBundle.decode Primitives.concrete concreteKem
      sampleHybrid.publicBundle.encode = .ok sampleHybrid.publicBundle :=
  (hybridCodecs_exact Primitives.lawfulEd25519_concrete (fun _ => rfl)).1 _ _
    sampleHybrid.bundle_eq

end Mef26
