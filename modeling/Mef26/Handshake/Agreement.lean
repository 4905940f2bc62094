import Mef26.Crypto.Symbolic
import Mef26.Handshake.Honest
import Mef26.Handshake.KeyHistory

namespace Mef26

/-! # What an accepted message agrees on

A message names prekeys by their identifiers. Both sides derive the same session exactly
while the identifiers stand for the key pairs that were published under them. -/

variable {Key : Type} {P : Primitives Key}

def ResponderPrekeyBundle.names (bundle : ResponderPrekeyBundle) : List PrekeyName :=
  .signed bundle.signedPrekey.keyId ::
    (bundle.oneTimePrekey.map fun prekey => PrekeyName.oneTime prekey.id).toList

/-- No call gives an identifier of the bundle to a new key. -/
def KeepsIdentifiers (transitions : List (PrekeyTransition P)) (bundle : ResponderPrekeyBundle) :
    Prop :=
  ∀ transition ∈ transitions, ∀ name ∈ bundle.names, ¬PrekeyTransition.Issues transition name

namespace ResponderPrekeyMaterial

/-- The key pairs are those of the bundle. -/
structure Offers (published : ResponderPrekeyMaterial P) (signed : DhKeyPair P)
    (oneTime : Option (DhKeyPair P)) : Prop where
  signed : signed.publicKey = published.signedPrekey.publicKey
  oneTime : (oneTime.map fun pair => pair.publicKey) =
    published.offeredPair.map fun pair => pair.publicKey

theorem requestedPair_some {material : ResponderPrekeyMaterial P} {id : UInt32}
    {oneTime : Option (DhKeyPair P)} :
    material.requestedPair (some id) = some oneTime ↔
      ∃ pair, material.lookup (.oneTime id) = some pair ∧ oneTime = some pair := by
  simp only [requestedPair, lookup, Option.map_eq_some_iff]
  constructor
  · intro found
    rcases found with ⟨entry, found, rfl⟩
    exact ⟨entry.key, ⟨entry, found, rfl⟩, rfl⟩
  · intro found
    rcases found with ⟨_, ⟨entry, found, rfl⟩, rfl⟩
    exact ⟨entry, found, rfl⟩

/-- A message is accepted with the keys of its bundle exactly if the identifiers were not
given to other keys since. -/
theorem offers_iff {published later : ResponderPrekeyMaterial P}
    {transitions : List (PrekeyTransition P)} (wellFormed : published.WellFormed)
    (run : Run PrekeyStep published transitions later)
    (fresh : FreshPrekeys published transitions) {message : InitiatorHandshake}
    {signed : DhKeyPair P} {oneTime : Option (DhKeyPair P)}
    (names : message.signedPrekeyId = published.bundle.signedPrekey.keyId)
    (names' : message.oneTimePrekeyId =
      published.bundle.oneTimePrekey.map fun prekey => prekey.id)
    (accepts : Accepts later message signed oneTime) :
    published.Offers signed oneTime ↔ KeepsIdentifiers transitions published.bundle := by
  have signedPublished := wellFormed.lookup_signed.mpr
    ⟨(published.signedRecord, published.signedPrekey), List.mem_cons_self .., rfl, rfl⟩
  have signedFound : later.lookup (.signed published.signedRecord.keyId) = some signed :=
    names ▸ accepts.signedFound
  have sameSigned := same_pair_iff run wellFormed fresh signedPublished signedFound
  have oneTimeFound := accepts.oneTimeFound
  rw [names'] at oneTimeFound
  unfold KeepsIdentifiers ResponderPrekeyBundle.names
  unfold bundle at oneTimeFound ⊢
  cases isFirst : published.oneTimePrekeys.head? with
  | none =>
      rw [isFirst] at oneTimeFound
      cases oneTimeFound
      simp only [Option.map_none, Option.toList_none, List.mem_singleton, forall_eq]
      rw [← sameSigned]
      constructor
      · exact Offers.signed
      · intro same
        exact ⟨same, by rw [offeredPair, isFirst]; rfl⟩
  | some entry =>
      rw [isFirst] at oneTimeFound
      rcases requestedPair_some.mp oneTimeFound with ⟨pair, found, rfl⟩
      have oneTimePublished := wellFormed.lookup_oneTime.mpr
        ⟨entry, List.mem_of_mem_head? isFirst, rfl, rfl⟩
      have sameOneTime := same_pair_iff run wellFormed fresh oneTimePublished found
      simp only [Option.map_some, Option.toList_some, List.mem_cons, List.not_mem_nil,
        or_false, forall_eq_or_imp, forall_eq, forall_and]
      rw [← sameSigned, ← sameOneTime]
      constructor
      · intro offers
        have same := offers.oneTime
        rw [offeredPair, isFirst] at same
        exact ⟨offers.signed, Option.some.inj same⟩
      · intro same
        exact ⟨same.1, by rw [offeredPair, isFirst]; exact congrArg some same.2⟩

end ResponderPrekeyMaterial

theorem DhKeyPair.publicKey_eq_of_x25519 {left right : DhKeyPair P} {peer : DhPublicKey}
    (separates : P.SeparatesX25519 peer) (agrees : left.Agrees peer)
    (same : P.x25519 left.secret peer = P.x25519 right.secret peer) :
    left.publicKey = right.publicKey := by
  rw [left.publicKey_eq, right.publicKey_eq]
  exact separates _ _ agrees same

theorem DhKeyPair.publicKeys_eq_of_x25519 {left right : Option (DhKeyPair P)}
    {peer : DhPublicKey} (separates : P.SeparatesX25519 peer)
    (agrees : ∀ pair ∈ left, pair.Agrees peer)
    (same : (left.map fun pair => P.x25519 pair.secret peer) =
      right.map fun pair => P.x25519 pair.secret peer) :
    (left.map fun pair => pair.publicKey) = right.map fun pair => pair.publicKey := by
  cases left with
  | none =>
      cases right with
      | none => rfl
      | some pair' => cases same
  | some pair =>
      cases right with
      | none => cases same
      | some pair' =>
          apply congrArg some
          exact publicKey_eq_of_x25519 separates (agrees pair rfl) (Option.some.inj same)

/-- Equal root secrets come from the keys of the bundle. -/
theorem offers_of_rootSecret (agreement : P.LawfulX25519) (kdf : P.CollisionFreeKdf)
    {published : ResponderPrekeyMaterial P} (wellFormed : published.WellFormed)
    {identity responder : LocalIdentity P} {ephemeral ratchet signed : DhKeyPair P}
    {oneTime : Option (DhKeyPair P)} (separates : P.SeparatesX25519 ephemeral.publicKey)
    (same : (responderHandshake responder
        (initiatorMessage identity published.bundle ephemeral ratchet) signed oneTime).rootSecret =
      (initiatorHandshake identity published.bundle ephemeral ratchet).rootSecret) :
    published.Offers signed oneTime := by
  rcases rootInput_injective (kdf _ _ _ _ _ _ same).2.2 with ⟨_, _, same3, same4⟩
  have signedKey := wellFormed.publicKey_eq (List.mem_cons_self ..)
  constructor
  · apply DhKeyPair.publicKey_eq_of_x25519 separates (signed.agrees_honest agreement ephemeral)
    refine same3.trans ?_
    rw [← ephemeral.x25519_comm agreement published.signedPrekey, ← signedKey]
    rfl
  · apply DhKeyPair.publicKeys_eq_of_x25519 separates
      fun pair _ => pair.agrees_honest agreement ephemeral
    have agreed := congrArg (Option.map (P.x25519 ephemeral.secret))
      wellFormed.offeredPair_publicKey
    rw [Option.map_map, Option.map_map] at agreed
    refine (same4.trans agreed).trans (congrArg (published.offeredPair.map ·) ?_)
    funext pair
    exact ephemeral.x25519_comm agreement pair

/-- What an accepted message agrees on. The session identifier is always the same, the root
secret and the ratchets are the same exactly if the identifiers of the bundle were not given to
new keys after it was published. -/
theorem accept_agrees_iff (agreement : P.LawfulX25519) (kdf : P.CollisionFreeKdf)
    (separates : ∀ secret, P.SeparatesX25519 (P.x25519PublicKey secret))
    {signingEntropy dhEntropy prekeyEntropy : Entropy} {id : UInt32} {expiresAtUnix : UInt64}
    {start published later next : ResponderPrekeyMaterial P}
    {earlier between : List (PrekeyTransition P)}
    (generated : ResponderPrekeyMaterial.generate signingEntropy dhEntropy prekeyEntropy id
      expiresAtUnix = .ok start)
    (publishing : Run PrekeyStep start earlier published)
    (accepting : Run PrekeyStep published between later)
    (fresh : FreshPrekeys start (earlier ++ between))
    {ephemeralEntropy ratchetEntropy : Entropy} {identity : LocalIdentity P} {nowUnix : UInt64}
    {message : InitiatorHandshake} {handshake answer : AuthenticatedHandshake P}
    (initiated : initiate ephemeralEntropy ratchetEntropy identity published.bundle nowUnix =
      .ok (message, handshake))
    (accepted : accept message later = (.ok answer, next)) :
    (handshake.role = .initiator ∧ answer.role = .responder) ∧
      answer.sessionId = handshake.sessionId ∧
      (answer.rootSecret = handshake.rootSecret ↔ KeepsIdentifiers between published.bundle) ∧
      (SameSession handshake answer ↔ KeepsIdentifiers between published.bundle) := by
  rcases initiate_eq_ok.mp initiated with ⟨_, ephemeral, ratchet, _, _, _, _, _, _, rfl, rfl⟩
  rcases accept_eq_ok.mp accepted with ⟨⟨signed, oneTime, accepts, rfl⟩, _⟩
  have wellFormed := wellFormed_of_run publishing
    (ResponderPrekeyMaterial.wellFormed_generate generated)
  have isResponder : published.bundle.identity = later.identity.publicRecord := by
    rw [identity_of_run accepting]
    rfl
  have kept := ResponderPrekeyMaterial.offers_iff wellFormed accepting
    (Naming.Fresh.of_append fresh publishing) rfl rfl accepts
  have separated : P.SeparatesX25519 ephemeral.publicKey := by
    rw [ephemeral.publicKey_eq]
    exact separates _
  have agrees (offers : published.Offers signed oneTime) :
      SameSession (initiatorHandshake identity published.bundle ephemeral ratchet)
        (responderHandshake later.identity
          (initiatorMessage identity published.bundle ephemeral ratchet) signed oneTime) :=
    sameSession_of_keys agreement isResponder
      ((wellFormed.publicKey_eq (List.mem_cons_self ..)).trans offers.signed.symm)
      (wellFormed.offeredPair_publicKey.trans offers.oneTime.symm)
  refine ⟨⟨rfl, rfl⟩, ?_, ?_, ?_⟩
  · simp only [responderHandshake, initiatorHandshake, isResponder]
  · rw [← kept]
    exact ⟨offers_of_rootSecret agreement kdf wellFormed separated,
      fun offers => (agrees offers).rootSecret⟩
  · rw [← kept]
    exact ⟨fun same => offers_of_rootSecret agreement kdf wellFormed separated same.rootSecret,
      agrees⟩

/-! ## Identifiers that are kept, and one that is given again -/

def samplePublishing (P : Primitives Key) : List (PrekeyTransition P) :=
  [⟨sampleMaterial P, .addOneTimePrekey (constantEntropy 4) 19, samplePublished P⟩]

theorem run_samplePublishing (P : Primitives Key) :
    Run PrekeyStep (sampleMaterial P) (samplePublishing P) (samplePublished P) :=
  .cons (samplePublished_eq P) (.nil _)

theorem wellFormed_samplePublished (P : Primitives Key) : (samplePublished P).WellFormed :=
  wellFormed_of_run (run_samplePublishing P)
    (ResponderPrekeyMaterial.wellFormed_generate (generate_sampleMaterial P))

def sampleMessage (ephemeral ratchet : UInt8) : InitiatorHandshake :=
  initiatorMessage (sampleInitiator Primitives.symbolic)
    (samplePublished Primitives.symbolic).bundle (.fromSecret (.replicate 32 ephemeral))
    (.fromSecret (.replicate 32 ratchet))

theorem initiate_sample :
    initiate (constantEntropy 11) (constantEntropy 12) (sampleInitiator Primitives.symbolic)
      (samplePublished Primitives.symbolic).bundle 2000 =
      .ok (sampleMessage 11 12, initiatorHandshake (sampleInitiator Primitives.symbolic)
        (samplePublished Primitives.symbolic).bundle (.fromSecret (.replicate 32 11))
        (.fromSecret (.replicate 32 12))) :=
  initiate_published Primitives.lawfulX25519_symbolic Primitives.lawfulEd25519_symbolic
    (wellFormed_samplePublished _) rfl rfl (sampleInitiator _)
    (show 2000 ≤ (samplePublished Primitives.symbolic).signedRecord.expiresAtUnix by decide)

theorem accept_agrees_rotated :
    ∃ message handshake answer next,
      initiate (constantEntropy 11) (constantEntropy 12) (sampleInitiator Primitives.symbolic)
        (samplePublished Primitives.symbolic).bundle 2000 = .ok (message, handshake) ∧
      accept message (sampleLater Primitives.symbolic) = (.ok answer, next) ∧
      SameSession handshake answer := by
  have agreement := Primitives.lawfulX25519_symbolic
  have signatures := Primitives.lawfulEd25519_symbolic
  have publishing := run_samplePublishing Primitives.symbolic
  have rotating : Run PrekeyStep (samplePublished Primitives.symbolic) _ (sampleLater _) :=
    .cons (sampleLater_eq _) (.nil _)
  have wellFormed := wellFormed_samplePublished Primitives.symbolic
  rcases accept_published agreement signatures wellFormed (wellFormed_of_run rotating wellFormed)
    rfl (holdsPublished_sample _) (sampleInitiator _) (.fromSecret (.replicate 32 11))
    (.fromSecret (.replicate 32 12)) with ⟨answer, next, accepted, _⟩
  refine ⟨_, _, answer, next, initiate_sample, accepted, ?_⟩
  refine (accept_agrees_iff agreement Primitives.collisionFreeKdf_symbolic
    (fun _ => Primitives.separatesX25519_symbolic _) (generate_sampleMaterial _) publishing
    rotating (freshPrekeys_of_generate (generate_sampleMaterial _)
      (publishing.append rotating) (by decide)) initiate_sample accepted).2.2.2.mpr ?_
  intro transition member name named issues
  cases List.mem_singleton.mp member
  cases issues.2
  exact absurd named (by decide)

def sampleReissued : ResponderPrekeyMaterial Primitives.symbolic :=
  (sampleMaterial Primitives.symbolic).withOneTime 19 (.fromSecret (.replicate 32 5))

theorem accepts_sample (pair : DhKeyPair Primitives.symbolic) (ephemeral ratchet : UInt8) :
    Accepts ((sampleMaterial Primitives.symbolic).withOneTime 19 pair)
      (sampleMessage ephemeral ratchet) (.fromSecret (.replicate 32 3)) (some pair) where
  verified := (sampleInitiator _).verify_publicRecord Primitives.lawfulEd25519_symbolic
  signedFound := rfl
  oneTimeFound := rfl
  agrees1 := rfl
  agrees2 := rfl
  agrees3 := rfl
  agrees4 := fun _ _ => rfl

theorem accept_sample (pair : DhKeyPair Primitives.symbolic) (ephemeral ratchet : UInt8) :
    accept (sampleMessage ephemeral ratchet)
        ((sampleMaterial Primitives.symbolic).withOneTime 19 pair) =
      (.ok (responderHandshake (sampleMaterial _).identity (sampleMessage ephemeral ratchet)
        (.fromSecret (.replicate 32 3)) (some pair)), sampleMaterial _) :=
  accept_eq_ok.mpr ⟨⟨_, _, accepts_sample pair ephemeral ratchet, rfl⟩, rfl⟩

def sampleReissue : List (PrekeyTransition Primitives.symbolic) :=
  [⟨samplePublished _, .accept (sampleMessage 6 7), sampleMaterial _⟩,
    ⟨sampleMaterial _, .addOneTimePrekey (constantEntropy 5) 19, sampleReissued⟩]

theorem run_sampleReissue :
    Run PrekeyStep (samplePublished Primitives.symbolic) sampleReissue sampleReissued :=
  .cons (congrArg Prod.snd (accept_sample _ 6 7)).symm (.cons rfl (.nil _))

/-- Two initiators answer one bundle. The first is accepted, its one-time prekey is consumed and
another one is added under the same identifier. The second is accepted and derives another
root secret. -/
theorem exists_accept_not_agreeing :
    ∃ between later next message handshake answer,
      Run PrekeyStep (samplePublished Primitives.symbolic) between later ∧
      FreshPrekeys (sampleMaterial Primitives.symbolic)
        (samplePublishing Primitives.symbolic ++ between) ∧
      initiate (constantEntropy 11) (constantEntropy 12) (sampleInitiator Primitives.symbolic)
        (samplePublished Primitives.symbolic).bundle 2000 = .ok (message, handshake) ∧
      accept message later = (.ok answer, next) ∧
      answer.rootSecret ≠ handshake.rootSecret := by
  have publishing := run_samplePublishing Primitives.symbolic
  refine ⟨sampleReissue, sampleReissued, _, _, _, _, run_sampleReissue,
    freshPrekeys_of_generate (generate_sampleMaterial _) (publishing.append run_sampleReissue)
      (by decide), initiate_sample, accept_sample _ 11 12, ?_⟩
  intro same
  have offers := offers_of_rootSecret Primitives.lawfulX25519_symbolic
    Primitives.collisionFreeKdf_symbolic (wellFormed_samplePublished _)
    (Primitives.separatesX25519_symbolic _) same
  exact absurd offers.oneTime (by decide)

end Mef26
