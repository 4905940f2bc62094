import Mef26.Handshake.HeldKeys
import Mef26.Handshake.Replays
import Mef26.Secrecy.Exposure

namespace Mef26

/-! # What the responder erases

A consumed one-time prekey leaves the material for good. Whoever learns the material later
computes the session of a message exactly if the message named none and the signed prekey is
still held. -/

variable {Key : Type} {P : Primitives Key}

def Corruption.exposing (others : Corruption P) (exposed : List (ResponderPrekeyMaterial P)) :
    Corruption P where
  keys key := others.keys key ∨ ∃ material ∈ exposed, key ∈ material.heldKeys
  genuine := by
    intro key corrupted
    rcases corrupted with other | ⟨material, _, held⟩
    · exact others.genuine key other
    · exact ResponderPrekeyMaterial.genuine_of_held held

def ownKeys (start : ResponderPrekeyMaterial P) (transitions : List (PrekeyTransition P)) :
    List DhPublicKey :=
  start.identity.dh.publicKey :: (drawnKeys transitions ++ start.prekeyKeys)

section Accepted

variable {start final : ResponderPrekeyMaterial P} {before after : List (PrekeyTransition P)}
  {transition : PrekeyTransition P} {message : InitiatorHandshake} {signed : DhKeyPair P}
  {oneTime : Option (DhKeyPair P)}

theorem mem_ownKeys {earlier : List (PrekeyTransition P)} (later : List (PrekeyTransition P))
    (run : Run PrekeyStep start earlier final) {key : DhPublicKey}
    (held : key ∈ final.heldKeys) : key ∈ ownKeys start (earlier ++ later) := by
  rcases List.mem_cons.mp held with rfl | prekey
  · rw [identity_of_run run]
    exact List.mem_cons_self ..
  · apply List.mem_cons_of_mem
    rw [drawnKeys_append]
    rcases mem_prekeyKeys_of_run run prekey with drawn | initial
    · exact List.mem_append_left _ (List.mem_append_left _ drawn)
    · exact List.mem_append_right _ initial

theorem prekey_ne_identity {earlier later : List (PrekeyTransition P)}
    (run : Run PrekeyStep start earlier final)
    (distinct : (ownKeys start (earlier ++ later)).Nodup) {key : DhPublicKey}
    (held : key ∈ final.prekeyKeys) : key ≠ start.identity.dh.publicKey := by
  intro same
  subst same
  have own : start.identity.dh.publicKey ∈ drawnKeys (earlier ++ later) ++ start.prekeyKeys := by
    rw [drawnKeys_append]
    rcases mem_prekeyKeys_of_run run held with drawn | initial
    · exact List.mem_append_left _ (List.mem_append_left _ drawn)
    · exact List.mem_append_right _ initial
  exact (List.nodup_cons.mp distinct).1 own

theorem mem_ownKeys_of_visited (run : Run PrekeyStep start (before ++ transition :: after) final)
    {material : ResponderPrekeyMaterial P}
    (visited : material ∈ Run.visited transition.next after) {key : DhPublicKey}
    (held : key ∈ material.heldKeys) : key ∈ ownKeys start (before ++ transition :: after) := by
  rcases run.around.2.2.exists_run_of_visited visited with ⟨past, rest, rfl, reached⟩
  have own := mem_ownKeys rest (run.around.1.append (.cons run.around.2.1 reached)) held
  rwa [List.append_assoc, List.cons_append] at own

theorem Accepts.oneTime_lookup {material : ResponderPrekeyMaterial P} {pair : DhKeyPair P}
    (accepts : Accepts material message signed (some pair)) :
    ∃ id, message.oneTimePrekeyId = some id ∧ material.lookup (.oneTime id) = some pair := by
  have found := accepts.oneTimeFound
  cases asked : message.oneTimePrekeyId with
  | none =>
      rw [asked] at found
      cases found
  | some id =>
      rw [asked, ResponderPrekeyMaterial.requestedPair_some] at found
      rcases found with ⟨_, found, same⟩
      cases same
      exact ⟨id, rfl, found⟩

theorem Accepts.noOneTime_iff {material : ResponderPrekeyMaterial P}
    (accepts : Accepts material message signed oneTime) :
    message.oneTimePrekeyId = none ↔ oneTime = none := by
  constructor
  · intro unasked
    have found := accepts.oneTimeFound
    rw [unasked] at found
    cases found
    rfl
  · intro absent
    subst absent
    cases asked : message.oneTimePrekeyId with
    | none => rfl
    | some id =>
        have found := accepts.oneTimeFound
        rw [asked, ResponderPrekeyMaterial.requestedPair_some] at found
        rcases found with ⟨_, _, same⟩
        cases same

variable (run : Run PrekeyStep start (before ++ transition :: after) final)
  (wellFormed : start.WellFormed)
  (distinct : (ownKeys start (before ++ transition :: after)).Nodup)
  (accepts : Accepts transition.current message signed oneTime)
  (next : transition.next = transition.current.consume message.oneTimePrekeyId)

include run distinct in
theorem nodup_current : (drawnKeys after ++ transition.current.prekeyKeys).Nodup := by
  have whole := nodup_of_run run.around.1 (List.nodup_cons.mp distinct).2
  rw [drawnKeys_cons, List.append_assoc] at whole
  exact (List.nodup_append.mp whole).2.1

include run distinct accepts next

/-- A one-time prekey that a message was accepted with is never held again. -/
theorem oneTime_not_held {pair : DhKeyPair P} (consumed : oneTime = some pair)
    {material : ResponderPrekeyMaterial P}
    (visited : material ∈ Run.visited transition.next after) :
    pair.publicKey ∉ material.heldKeys := by
  have apart := nodup_current run distinct
  subst consumed
  rcases accepts.oneTime_lookup with ⟨id, asked, found⟩
  rcases Option.map_eq_some_iff.mp found with ⟨entry, isEntry, rfl⟩
  -- The material after the step and the consumed pair make up the one before it.
  have whole := ResponderPrekeyMaterial.prekeyKeys_consume_subperm isEntry
  rw [asked] at next
  rw [← next] at whole
  have inCurrent : entry.key.publicKey ∈ transition.current.prekeyKeys :=
    whole.subset (List.mem_cons_self ..)
  rcases run.around.2.2.exists_run_of_visited visited with ⟨past, rest, rfl, reached⟩
  have identity := identity_of_run (run.around.1.append (.cons run.around.2.1 reached))
  intro held
  rcases List.mem_cons.mp held with isIdentity | prekey
  · rw [identity] at isIdentity
    exact prekey_ne_identity run.around.1 distinct inCurrent isIdentity
  · rcases mem_prekeyKeys_of_run reached prekey with drawn | kept
    · rw [drawnKeys_append] at apart
      exact (List.nodup_append.mp apart).2.2 _ (List.mem_append_left _ drawn) _ inCurrent rfl
    · have once := whole.nodup_iff.mpr (List.nodup_append.mp apart).2.1
      exact (List.nodup_cons.mp once).1 kept

include wellFormed in
/-- The signed prekey of a message is held later exactly while its identifier stands for
it. -/
theorem signed_held_iff {material : ResponderPrekeyMaterial P}
    (visited : material ∈ Run.visited transition.next after) :
    signed.publicKey ∈ material.heldKeys ↔
      material.lookup (.signed message.signedPrekeyId) = some signed := by
  have apart := nodup_current run distinct
  have wellFormed' := wellFormed_of_run run.around.1 wellFormed
  rcases run.around.2.2.exists_run_of_visited visited with ⟨past, rest, rfl, reached⟩
  have nextWellFormed := wellFormed_of_run (run.around.1.snoc run.around.2.1) wellFormed
  have nextFound : transition.next.lookup (.signed message.signedPrekeyId) = some signed := by
    rw [next]
    cases message.oneTimePrekeyId <;> exact accepts.signedFound
  have nextDistinct : (drawnKeys past ++ transition.next.prekeyKeys).Nodup := by
    rw [next]
    rw [drawnKeys_append] at apart
    refine List.Nodup.sublist ?_ apart
    exact (List.sublist_append_left _ _).append
      (ResponderPrekeyMaterial.prekeyKeys_consume_sublist _ _)
  rw [← mem_prekeyKeys_iff_lookup reached nextWellFormed nextDistinct nextFound]
  constructor
  · intro held
    rcases List.mem_cons.mp held with isIdentity | prekey
    · have inCurrent := wellFormed'.mem_prekeyKeys_iff.mpr
        ⟨.signed message.signedPrekeyId, signed, accepts.signedFound, rfl⟩
      rw [identity_of_run (run.around.1.append (.cons run.around.2.1 reached))] at isIdentity
      exact absurd isIdentity (prekey_ne_identity run.around.1 distinct inCurrent)
    · exact prekey
  · exact List.mem_cons_of_mem _

/-! ### Which keys are exposed -/

variable {others : Corruption P} {exposed : List (ResponderPrekeyMaterial P)}
  (apart : ∀ key, others.keys key → key ∉ ownKeys start (before ++ transition :: after))
  (later : ∀ material ∈ exposed, material ∈ Run.visited transition.next after)

include wellFormed apart later

theorem oneTime_not_exposed {pair : DhKeyPair P} (consumed : oneTime = some pair) :
    ¬(others.exposing exposed).keys pair.publicKey := by
  intro corrupted
  rcases corrupted with other | ⟨material, member, held⟩
  · subst consumed
    rcases accepts.oneTime_lookup with ⟨id, _, found⟩
    have inCurrent := (wellFormed_of_run run.around.1 wellFormed).mem_prekeyKeys_iff.mpr
      ⟨_, _, found, rfl⟩
    exact apart _ other (mem_ownKeys _ run.around.1 (List.mem_cons_of_mem _ inCurrent))
  · exact oneTime_not_held run distinct accepts next consumed (later material member) held

theorem signed_exposed_iff : (others.exposing exposed).keys signed.publicKey ↔
    ∃ material ∈ exposed, material.lookup (.signed message.signedPrekeyId) =
      transition.current.lookup (.signed message.signedPrekeyId) := by
  have signedFound : transition.current.lookup (.signed message.signedPrekeyId) = some signed :=
    accepts.signedFound
  have notOther : ¬others.keys signed.publicKey := by
    intro other
    have inCurrent := (wellFormed_of_run run.around.1 wellFormed).mem_prekeyKeys_iff.mpr
      ⟨_, _, signedFound, rfl⟩
    exact apart _ other (mem_ownKeys _ run.around.1 (List.mem_cons_of_mem _ inCurrent))
  have standing (material : ResponderPrekeyMaterial P) (member : material ∈ exposed) :=
    signed_held_iff run wellFormed distinct accepts next (later material member)
  rw [signedFound]
  constructor
  · intro corrupted
    rcases corrupted.resolve_left notOther with ⟨material, member, held⟩
    exact ⟨material, member, (standing material member).mp held⟩
  · intro found
    rcases found with ⟨material, member, found⟩
    exact .inr ⟨material, member, (standing material member).mpr found⟩

end Accepted

theorem ephemeral_not_exposed {start final : ResponderPrekeyMaterial P}
    {before after : List (PrekeyTransition P)} {transition : PrekeyTransition P}
    (run : Run PrekeyStep start (before ++ transition :: after) final) {others : Corruption P}
    {exposed : List (ResponderPrekeyMaterial P)} {ephemeral : DhPublicKey}
    (unknown : ¬others.keys ephemeral)
    (foreign : ephemeral ∉ ownKeys start (before ++ transition :: after))
    (later : ∀ material ∈ exposed, material ∈ Run.visited transition.next after) :
    ¬(others.exposing exposed).keys ephemeral := by
  intro corrupted
  rcases corrupted with other | ⟨material, member, held⟩
  · exact unknown other
  · exact foreign (mem_ownKeys_of_visited run (later material member) held)

theorem identity_exposed {current next : ResponderPrekeyMaterial P}
    {after : List (PrekeyTransition P)} {call : PrekeyCall} {final : ResponderPrekeyMaterial P}
    (step : PrekeyStep current call next) (run : Run PrekeyStep next after final)
    (others : Corruption P) {exposed : List (ResponderPrekeyMaterial P)}
    {material : ResponderPrekeyMaterial P} (member : material ∈ exposed)
    (visited : material ∈ Run.visited next after) :
    (others.exposing exposed).keys current.identity.dh.publicKey := by
  rcases run.exists_run_of_visited visited with ⟨past, rest, rfl, reached⟩
  rw [← identity_of_run (Run.cons step reached)]
  exact .inr ⟨material, member, List.mem_cons_self ..⟩

section Broken

variable {start final : ResponderPrekeyMaterial P} {before after : List (PrekeyTransition P)}
  {transition : PrekeyTransition P} {message : InitiatorHandshake} {signed : DhKeyPair P}
  {oneTime : Option (DhKeyPair P)} {others : Corruption P}
  {exposed : List (ResponderPrekeyMaterial P)}

/-- When the later materials of a responder break a message that it accepted. -/
theorem broken_exposed_iff (run : Run PrekeyStep start (before ++ transition :: after) final)
    (wellFormed : start.WellFormed)
    (distinct : (ownKeys start (before ++ transition :: after)).Nodup)
    (accepts : Accepts transition.current message signed oneTime)
    (next : transition.next = transition.current.consume message.oneTimePrekeyId)
    (apart : ∀ key, others.keys key → key ∉ ownKeys start (before ++ transition :: after))
    (unknown : ¬others.keys message.initiatorEphemeral)
    (foreign : message.initiatorEphemeral ∉ ownKeys start (before ++ transition :: after))
    (later : ∀ material ∈ exposed, material ∈ Run.visited transition.next after) :
    (message.keysWith transition.current.identity.dh signed oneTime).Broken
        (others.exposing exposed).keys ↔
      message.oneTimePrekeyId = none ∧ ∃ material ∈ exposed,
        material.lookup (.signed message.signedPrekeyId) =
          transition.current.lookup (.signed message.signedPrekeyId) := by
  have ephemeralSafe := ephemeral_not_exposed run unknown foreign later
  have signedExposed := signed_exposed_iff run wellFormed distinct accepts next apart later
  rw [← signedExposed, accepts.noOneTime_iff]
  constructor
  · intro broken
    refine ⟨?_, broken.2.2.1.resolve_left ephemeralSafe⟩
    cases consumed : oneTime with
    | none => rfl
    | some pair =>
        have offered : pair.publicKey ∈
            (message.keysWith transition.current.identity.dh signed oneTime).oneTimePrekey := by
          rw [consumed]
          rfl
        have oneTimeSafe :=
          oneTime_not_exposed run wellFormed distinct accepts next apart later consumed
        exact absurd (broken.2.2.2 _ offered) (not_or.mpr ⟨ephemeralSafe, oneTimeSafe⟩)
  · intro held
    rcases held with ⟨rfl, corrupted⟩
    rcases signedExposed.mp corrupted with ⟨material, member, _⟩
    have identity := identity_exposed run.around.2.1 run.around.2.2 others member
      (later material member)
    refine ⟨.inr corrupted, .inr identity, .inr corrupted, ?_⟩
    intro oneTime offered
    cases offered

end Broken

/-- Forward secrecy of the handshake over every run of a responder. An adversary that learns
the whole material at some points after a message was accepted, and any keys of other
parties but the ephemeral key of the message, computes the root of the session exactly if
the message named no one-time prekey and the signed prekey it named still stands in one of
these materials. -/
theorem computes_answer_iff (free : P.FreeSymbols) (lawful : P.LawfulX25519)
    {signingEntropy dhEntropy prekeyEntropy : Entropy} {id : UInt32} {expiresAtUnix : UInt64}
    {start final : ResponderPrekeyMaterial P} {before after : List (PrekeyTransition P)}
    {transition : PrekeyTransition P}
    (generated : ResponderPrekeyMaterial.generate signingEntropy dhEntropy prekeyEntropy id
      expiresAtUnix = .ok start)
    (run : Run PrekeyStep start (before ++ transition :: after) final)
    (distinct : (ownKeys start (before ++ transition :: after)).Nodup)
    {message : InitiatorHandshake} {answer : AuthenticatedHandshake P}
    (answers : PrekeyTransition.Answers transition message answer)
    {others : Corruption P}
    (apart : ∀ key, others.keys key → key ∉ ownKeys start (before ++ transition :: after))
    (unknown : ¬others.keys message.initiatorEphemeral)
    (foreign : message.initiatorEphemeral ∉ ownKeys start (before ++ transition :: after))
    {exposed : List (ResponderPrekeyMaterial P)}
    (later : ∀ material ∈ exposed, material ∈ Run.visited transition.next after) :
    (others.exposing exposed).Settles (fun _ => False) answer
      (message.oneTimePrekeyId = none ∧ ∃ material ∈ exposed,
        material.lookup (.signed message.signedPrekeyId) =
          transition.current.lookup (.signed message.signedPrekeyId)) := by
  have wellFormed := ResponderPrekeyMaterial.wellFormed_generate generated
  rcases derives_accepted_iff free lawful (others.exposing exposed) Primitives.foreign_none
    answers.returned with ⟨signed, oneTime, accepts, root⟩
  have next := (accept_eq_ok.mp answers.returned).2
  rw [broken_exposed_iff run wellFormed distinct accepts next apart unknown foreign later]
    at root
  exact Corruption.settles_of_root Primitives.foreign_none free lawful not_false root

/-! ## A message with a one-time prekey, and one without -/

theorem accepts_unnumbered : Accepts (sampleMaterial Primitives.symbolic) sampleUnnumbered
    (.fromSecret (.replicate 32 3)) none where
  verified := (sampleInitiator _).verify_publicRecord Primitives.lawfulEd25519_symbolic
  signedFound := rfl
  oneTimeFound := rfl
  agrees1 := rfl
  agrees2 := rfl
  agrees3 := rfl
  agrees4 := by simp

/-- The responder is exposed right after it accepted, and the identity of the initiator with
it. -/
theorem computes_answer_sample :
    ¬((Corruption.ofKeys [.replicate 32 10]).exposing [sampleMaterial _]).Computes
        (responderHandshake (sampleMaterial Primitives.symbolic).identity (sampleMessage 11 12)
          (.fromSecret (.replicate 32 3)) (some (.fromSecret (.replicate 32 4)))).rootSecret ∧
      ((Corruption.ofKeys [.replicate 32 10]).exposing [sampleMaterial _]).Computes
        (responderHandshake (sampleMaterial Primitives.symbolic).identity sampleUnnumbered
          (.fromSecret (.replicate 32 3)) none).rootSecret := by
  have free := Primitives.freeSymbols_symbolic
  have lawful := Primitives.lawfulX25519_symbolic
  have numbered := accept_sample (.fromSecret (.replicate 32 4)) 11 12
  have unnumbered : accept sampleUnnumbered (sampleMaterial Primitives.symbolic) =
      (.ok _, sampleMaterial _) := accept_eq_ok.mpr ⟨⟨_, _, accepts_unnumbered, rfl⟩, rfl⟩
  have apart {own : List DhPublicKey} (absent : .replicate 32 10 ∉ own) (key : DhPublicKey)
      (corrupted : (Corruption.ofKeys [.replicate 32 10]).keys key) : key ∉ own := by
    rw [List.mem_singleton.mp corrupted]
    exact absent
  constructor
  · have run : Run PrekeyStep (sampleMaterial Primitives.symbolic)
        (samplePublishing _ ++ ⟨_, .accept (sampleMessage 11 12), _⟩ :: []) (sampleMaterial _) :=
      (run_samplePublishing _).append (.cons (congrArg Prod.snd numbered).symm (.nil _))
    have settles := computes_answer_iff free lawful (generate_sampleMaterial _) run (by decide)
      ⟨rfl, numbered⟩ (apart (by decide)) (by decide) (by decide)
      (List.forall_mem_singleton.mpr (List.mem_cons_self ..))
    intro computes
    exact absurd (settles.root.mp computes).1 (by decide)
  · have run : Run PrekeyStep (sampleMaterial Primitives.symbolic)
        ([] ++ ⟨_, .accept sampleUnnumbered, _⟩ :: []) (sampleMaterial _) :=
      .cons (congrArg Prod.snd unnumbered).symm (.nil _)
    have settles := computes_answer_iff free lawful (generate_sampleMaterial _) run (by decide)
      ⟨rfl, unnumbered⟩ (apart (by decide)) (by decide) (by decide)
      (List.forall_mem_singleton.mpr (List.mem_cons_self ..))
    exact settles.root.mpr ⟨rfl, _, List.mem_singleton_self _, rfl⟩

end Mef26
