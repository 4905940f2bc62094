import Mef26.Crypto.Concrete
import Mef26.Handshake.Prekeys

namespace Mef26

/-! # Honest handshakes

An initiator that works from a published bundle and a responder that still holds the
bundle's keys derive the same session. -/

variable {Key : Type} {P : Primitives Key}

/-! ## Honest signatures -/

section Signatures

variable (signatures : P.LawfulEd25519)

include signatures

theorem IdentityKeyPair.verify_sign (pair : IdentityKeyPair P) (message : List UInt8) :
    pair.publicKey.verify P message (pair.sign message) = .ok ⟨⟩ := by
  unfold IdentityPublicKey.verify sign
  rw [pair.publicKey_eq, signatures.isKey, signatures.verify_sign]
  rfl

theorem LocalIdentity.verify_publicRecord (identity : LocalIdentity P) :
    identity.publicRecord.verify P = .ok ⟨⟩ :=
  identity.signing.verify_sign signatures _

theorem SignedPrekey.verify_issue (identity : IdentityKeyPair P) (keyId : UInt32)
    (publicKey : DhPublicKey) {expiresAtUnix nowUnix : UInt64}
    (fresh : nowUnix ≤ expiresAtUnix) :
    (issue identity keyId publicKey expiresAtUnix).verify P identity.publicKey nowUnix =
      .ok ⟨⟩ := by
  have valid : ¬nowUnix > (issue identity keyId publicKey expiresAtUnix).expiresAtUnix :=
    UInt64.not_lt.mpr fresh
  unfold verify
  rw [Outcome.rejectIf_of_not _ valid, Outcome.ok_bind]
  exact identity.verify_sign signatures _

theorem ResponderPrekeyMaterial.verify_bundle {material : ResponderPrekeyMaterial P}
    (wellFormed : material.WellFormed) {nowUnix : UInt64}
    (fresh : nowUnix ≤ material.signedRecord.expiresAtUnix) :
    material.bundle.verify P nowUnix = .ok ⟨⟩ := by
  have issued := wellFormed.issued _ (List.mem_cons_self ..)
  unfold ResponderPrekeyBundle.verify
  rw [bundle, material.identity.verify_publicRecord signatures, Outcome.ok_bind]
  dsimp only at issued ⊢
  rw [issued]
  exact SignedPrekey.verify_issue signatures _ _ _ fresh

end Signatures

/-! ## States that mirror each other -/

/-- Two ratchets that belong together. -/
structure RatchetState.Mirrors (left right : RatchetState P) : Prop where
  sessionId : left.sessionId = right.sessionId
  rootKey : left.rootKey = right.rootKey
  sends : left.sendingChain = right.receivingChain
  receives : left.receivingChain = right.sendingChain
  remote : left.remoteDh = right.dhPair.publicKey
  remote' : right.remoteDh = left.dhPair.publicKey

/-- The two ends of one handshake, and the ratchets that start from them. -/
structure SameSession (initiator responder : AuthenticatedHandshake P) : Prop where
  roles : initiator.role = .initiator ∧ responder.role = .responder
  sessionId : responder.sessionId = initiator.sessionId
  rootSecret : responder.rootSecret = initiator.rootSecret
  mirrored (suite : AeadSuite) : ∃ left right,
    RatchetState.fromAuthenticatedHandshakeWithSuite initiator suite = .ok left ∧
    RatchetState.fromAuthenticatedHandshakeWithSuite responder suite = .ok right ∧
    left.Mirrors right

theorem sameSession_of {initiator responder : AuthenticatedHandshake P}
    (isInitiator : initiator.role = .initiator) (isResponder : responder.role = .responder)
    (sessionId : responder.sessionId = initiator.sessionId)
    (rootSecret : responder.rootSecret = initiator.rootSecret)
    (remote : initiator.remoteRatchet = responder.localRatchet.publicKey)
    (remote' : responder.remoteRatchet = initiator.localRatchet.publicKey) :
    SameSession initiator responder where
  roles := ⟨isInitiator, isResponder⟩
  sessionId := sessionId
  rootSecret := rootSecret
  mirrored := by
    intro suite
    refine ⟨_, _, RatchetState.fromAuthenticatedHandshakeWithSuite_eq _ _,
      RatchetState.fromAuthenticatedHandshakeWithSuite_eq _ _, ?_⟩
    exact {
      sessionId := sessionId.symm
      rootKey := rootSecret.symm
      sends := by
        simp only [RatchetState.fresh, isInitiator, isResponder, sessionId, rootSecret]
        rfl
      receives := by
        simp only [RatchetState.fresh, isInitiator, isResponder, sessionId, rootSecret]
        rfl
      remote := remote
      remote' := remote' }

theorem SameSession.ratchets {initiator responder : AuthenticatedHandshake P}
    (same : SameSession initiator responder) :
    initiator.remoteRatchet = responder.localRatchet.publicKey ∧
      responder.remoteRatchet = initiator.localRatchet.publicKey := by
  rcases same.mirrored defaultSuite with ⟨left, right, started, started', mirrors⟩
  rw [RatchetState.fromAuthenticatedHandshakeWithSuite_eq, Outcome.ok.injEq] at started started'
  subst started started'
  exact ⟨mirrors.remote, mirrors.remote'⟩

/-! ## The classical handshake -/

/-- The keys of the bundle that one state publishes are held in another. -/
structure ResponderPrekeyMaterial.HoldsPublished
    (published later : ResponderPrekeyMaterial P) : Prop where
  signed : (published.signedRecord, published.signedPrekey) ∈ later.signedPrekeys
  oneTime : ∀ entry ∈ published.oneTimePrekeys.head?, entry ∈ later.oneTimePrekeys

theorem ResponderPrekeyMaterial.HoldsPublished.refl (material : ResponderPrekeyMaterial P) :
    material.HoldsPublished material where
  signed := List.mem_cons_self ..
  oneTime := fun _ isFirst => List.mem_of_mem_head? isFirst

theorem generate_of_isSome {entropy : Entropy} (available : (entropy 32).isSome) :
    ∃ pair : DhKeyPair P, DhKeyPair.generate entropy = .ok pair := by
  rcases Option.isSome_iff_exists.mp available with ⟨secret, drawn⟩
  exact ⟨.fromSecret secret, DhKeyPair.generate_eq_ok.mpr drawn⟩

theorem ResponderPrekeyMaterial.WellFormed.publicKey_eq
    {material : ResponderPrekeyMaterial P} (wellFormed : material.WellFormed)
    {entry : SignedPrekey × DhKeyPair P} (held : entry ∈ material.signedPrekeys) :
    entry.1.publicKey = entry.2.publicKey := by
  rw [wellFormed.issued entry held]
  rfl

namespace ResponderPrekeyMaterial

def offeredPair (published : ResponderPrekeyMaterial P) : Option (DhKeyPair P) :=
  published.oneTimePrekeys.head?.map fun entry => entry.key

theorem WellFormed.offeredPair_publicKey {published : ResponderPrekeyMaterial P}
    (wellFormed : published.WellFormed) :
    (published.bundle.oneTimePrekey.map fun prekey => prekey.publicKey) =
      published.offeredPair.map fun pair => pair.publicKey := by
  unfold bundle offeredPair
  cases isFirst : published.oneTimePrekeys.head? with
  | none => rfl
  | some entry => exact congrArg some (wellFormed.published entry (List.mem_of_mem_head? isFirst))

/-- While the keys of a bundle are held, its identifiers name them. -/
theorem HoldsPublished.found {published later : ResponderPrekeyMaterial P}
    (holds : published.HoldsPublished later) (wellFormed : later.WellFormed) :
    later.signedPair published.bundle.signedPrekey.keyId = some published.signedPrekey ∧
      later.requestedPair (published.bundle.oneTimePrekey.map fun prekey => prekey.id) =
        some published.offeredPair := by
  constructor
  · exact wellFormed.signedPair_eq holds.signed
  · have oneTime := holds.oneTime
    unfold bundle offeredPair
    cases isFirst : published.oneTimePrekeys.head? with
    | none => rfl
    | some entry =>
        exact congrArg (Option.map fun entry => some entry.key)
          (wellFormed.oneTimeEntry_eq (oneTime entry isFirst))

end ResponderPrekeyMaterial

section Classical

variable (agreement : P.LawfulX25519)

include agreement

theorem initiate_published (signatures : P.LawfulEd25519)
    {published : ResponderPrekeyMaterial P} (wellFormed : published.WellFormed)
    {ephemeralEntropy ratchetEntropy : Entropy} {ephemeral ratchet : DhKeyPair P}
    (generated : DhKeyPair.generate ephemeralEntropy = .ok ephemeral)
    (generated' : DhKeyPair.generate ratchetEntropy = .ok ratchet)
    (identity : LocalIdentity P) {nowUnix : UInt64}
    (fresh : nowUnix ≤ published.signedRecord.expiresAtUnix) :
    initiate ephemeralEntropy ratchetEntropy identity published.bundle nowUnix =
      .ok (initiatorMessage identity published.bundle ephemeral ratchet,
        initiatorHandshake identity published.bundle ephemeral ratchet) := by
  have signedKey := wellFormed.publicKey_eq (List.mem_cons_self ..)
  refine initiate_eq_ok.mpr
    ⟨published.verify_bundle signatures wellFormed fresh, ephemeral, ratchet, generated,
      generated', ?_, ?_, ?_, ?_, rfl, rfl⟩
  · exact signedKey ▸ identity.dh.agrees_honest agreement published.signedPrekey
  · exact ephemeral.agrees_honest agreement published.identity.dh
  · exact signedKey ▸ ephemeral.agrees_honest agreement published.signedPrekey
  · intro prekey offered
    rcases Option.map_eq_some_iff.mp offered with ⟨entry, isFirst, rfl⟩
    rw [wellFormed.published entry (List.mem_of_mem_head? isFirst)]
    exact ephemeral.agrees_honest agreement entry.key

theorem sameSession_of_keys {identity : LocalIdentity P} {responder : LocalIdentity P}
    {bundle : ResponderPrekeyBundle} {ephemeral ratchet signed : DhKeyPair P}
    {oneTime : Option (DhKeyPair P)} (isResponder : bundle.identity = responder.publicRecord)
    (signedKey : bundle.signedPrekey.publicKey = signed.publicKey)
    (oneTimeKey : (bundle.oneTimePrekey.map fun prekey => prekey.publicKey) =
      oneTime.map fun pair => pair.publicKey) :
    SameSession (initiatorHandshake identity bundle ephemeral ratchet)
      (responderHandshake responder (initiatorMessage identity bundle ephemeral ratchet)
        signed oneTime) := by
  have dh1 : P.x25519 signed.secret identity.publicRecord.dh =
      P.x25519 identity.dh.secret bundle.signedPrekey.publicKey := by
    rw [signedKey]
    exact (identity.dh.x25519_comm agreement signed).symm
  have dh2 : P.x25519 responder.dh.secret ephemeral.publicKey =
      P.x25519 ephemeral.secret bundle.identity.dh := by
    rw [isResponder]
    exact (ephemeral.x25519_comm agreement responder.dh).symm
  have dh3 : P.x25519 signed.secret ephemeral.publicKey =
      P.x25519 ephemeral.secret bundle.signedPrekey.publicKey := by
    rw [signedKey]
    exact (ephemeral.x25519_comm agreement signed).symm
  have dh4 : (oneTime.map fun pair => P.x25519 pair.secret ephemeral.publicKey) =
      bundle.oneTimePrekey.map fun prekey =>
        P.x25519 ephemeral.secret prekey.publicKey := by
    have agreed := congrArg (Option.map (P.x25519 ephemeral.secret)) oneTimeKey
    rw [Option.map_map, Option.map_map] at agreed
    refine Eq.trans (congrArg (oneTime.map ·) ?_) agreed.symm
    funext pair
    exact (ephemeral.x25519_comm agreement pair).symm
  apply sameSession_of
  · rfl
  · rfl
  · simp only [responderHandshake, initiatorHandshake, isResponder]
  · rw [responderHandshake, initiatorHandshake, ← isResponder]
    dsimp only [initiatorMessage] at dh1 dh2 dh3 dh4 ⊢
    rw [dh1, dh2, dh3, dh4]
  · exact signedKey
  · rfl

theorem accept_published (signatures : P.LawfulEd25519)
    {published later : ResponderPrekeyMaterial P} (wellFormed : published.WellFormed)
    (wellFormed' : later.WellFormed) (same : later.identity = published.identity)
    (holds : published.HoldsPublished later) (identity : LocalIdentity P)
    (ephemeral ratchet : DhKeyPair P) :
    ∃ answer next,
      accept (initiatorMessage identity published.bundle ephemeral ratchet) later =
        (.ok answer, next) ∧
      SameSession (initiatorHandshake identity published.bundle ephemeral ratchet) answer := by
  rcases holds.found wellFormed' with ⟨signedFound, oneTimeFound⟩
  have accepts : Accepts later
      (initiatorMessage identity published.bundle ephemeral ratchet)
      published.signedPrekey published.offeredPair := {
    verified := identity.verify_publicRecord signatures
    signedFound := signedFound
    oneTimeFound := oneTimeFound
    agrees1 := published.signedPrekey.agrees_honest agreement identity.dh
    agrees2 := later.identity.dh.agrees_honest agreement ephemeral
    agrees3 := published.signedPrekey.agrees_honest agreement ephemeral
    agrees4 := by
      intro pair _
      exact pair.agrees_honest agreement ephemeral }
  refine ⟨_, _, accept_eq_ok.mpr ⟨⟨_, _, accepts, rfl⟩, rfl⟩, ?_⟩
  apply sameSession_of_keys agreement
  · rw [same]
    rfl
  · exact wellFormed.publicKey_eq (List.mem_cons_self ..)
  · exact wellFormed.offeredPair_publicKey

end Classical

/-! ## A responder over any primitives -/

section Sample

variable (P)

def sampleMaterial : ResponderPrekeyMaterial P where
  identity := { signing := .fromSeed (.replicate 32 1), dh := .fromSecret (.replicate 32 2) }
  signedPrekey := .fromSecret (.replicate 32 3)
  signedRecord := .issue (.fromSeed (.replicate 32 1) : IdentityKeyPair P) 7
    (P.x25519PublicKey (.replicate 32 3)) 2000
  retiredSignedPrekeys := []
  oneTimePrekeys := []

theorem generate_sampleMaterial :
    ResponderPrekeyMaterial.generate (constantEntropy 1) (constantEntropy 2)
      (constantEntropy 3) 7 2000 = .ok (sampleMaterial P) := rfl

def samplePublished : ResponderPrekeyMaterial P :=
  (sampleMaterial P).withOneTime 19 (.fromSecret (.replicate 32 4))

theorem samplePublished_eq :
    samplePublished P =
      (sampleMaterial P).after (.addOneTimePrekey (constantEntropy 4) 19) := rfl

def sampleLater : ResponderPrekeyMaterial P :=
  (samplePublished P).withSigned 8 3000 (.fromSecret (.replicate 32 5))

theorem sampleLater_eq :
    sampleLater P =
      (samplePublished P).after (.rotateSignedPrekey (constantEntropy 5) 8 3000) := rfl

def sampleInitiator : LocalIdentity P where
  signing := .fromSeed (.replicate 32 9)
  dh := .fromSecret (.replicate 32 10)

theorem holdsPublished_sample : (samplePublished P).HoldsPublished (sampleLater P) where
  signed := List.mem_cons_of_mem _ (List.mem_singleton_self _)
  oneTime := by
    intro entry isFirst
    exact List.mem_of_mem_head? isFirst

end Sample

end Mef26
