import Mef26.Handshake.Completeness

namespace Mef26

/-! # Acceptance takes effect at once

`accept` either answers and takes out the one-time prekey that the message names, or
reports an error and leaves the material as it was. -/

variable {Key : Type} {P : Primitives Key} {K : MlKem768 Key}

namespace ResponderPrekeyMaterial

/-- What a message that names a one-time prekey, or none, takes out of the material: the
first entry of that name, and nothing else. -/
inductive Consumes (material : ResponderPrekeyMaterial P) :
    Option UInt32 → ResponderPrekeyMaterial P → Prop
  | nothing : Consumes material none material
  | entry (id : UInt32) (before after : List (OneTimePrekey P)) (taken : OneTimePrekey P)
      (split : material.oneTimePrekeys = before ++ taken :: after)
      (named : taken.publicPart.id = id)
      (first : ∀ earlier ∈ before, earlier.publicPart.id ≠ id) :
      Consumes material (some id) { material with oneTimePrekeys := before ++ after }

theorem consumes_of_requested {material : ResponderPrekeyMaterial P} {id : Option UInt32}
    {pair : Option (DhKeyPair P)} (found : material.requestedPair id = some pair) :
    material.Consumes id (material.consume id) := by
  cases id with
  | none => exact .nothing
  | some id =>
      rcases Option.map_eq_some_iff.mp found with ⟨entry, isEntry, _⟩
      rcases Keyed.mem_of_find isEntry with ⟨member, named⟩
      rcases @Keyed.exists_removed _ _ (fun entry : OneTimePrekey P => entry.publicPart.id)
        _ _ _ _ member named
        with ⟨taken, before, after, isTaken, first, split, removed⟩
      have consumes := Consumes.entry id before after taken split isTaken first
      rw [← removed] at consumes
      exact consumes

theorem accept_cases (message : InitiatorHandshake) (material : ResponderPrekeyMaterial P) :
    (∃ error, accept message material = (.err error, material)) ∨
      ∃ handshake next, accept message material = (.ok handshake, next) ∧
        material.Consumes message.oneTimePrekeyId next := by
  rw [accept_eq]
  cases value : acceptValue message material with
  | panic => exact absurd value (acceptValue_ne_panic message material)
  | err error => exact .inl ⟨error, rfl⟩
  | ok handshake =>
      rcases acceptValue_eq_ok.mp value with ⟨signed, oneTime, accepts, _⟩
      exact .inr ⟨handshake, _, rfl, consumes_of_requested accepts.oneTimeFound⟩

end ResponderPrekeyMaterial

/-- The two ends of a hybrid call: it fails with the classical one and never after it. -/
theorem HybridResponderPrekeyMaterial.accept_cases (message : HybridInitiatorHandshake)
    (material : HybridResponderPrekeyMaterial P K) :
    (∃ error, Mef26.accept message.classical material.classical =
        (.err error, material.classical) ∧
      accept message material = (.err error, material)) ∨
      ∃ classical handshake next, Mef26.accept message.classical material.classical =
          (.ok classical, next) ∧
        accept message material = (.ok handshake, { material with classical := next }) ∧
        material.classical.Consumes message.classical.oneTimePrekeyId next := by
  rw [accept_eq]
  rcases material.classical.accept_cases message.classical with refused | accepted
  · rcases refused with ⟨error, refused⟩
    rw [refused]
    exact .inl ⟨error, rfl, rfl⟩
  · rcases accepted with ⟨classical, next, accepted, consumes⟩
    rw [accepted]
    exact .inr ⟨classical, _, next, rfl, rfl, consumes⟩

/-- Acceptance is atomic, and mixing in the ML-KEM secret afterwards cannot fail. -/
theorem accept_atomic :
    (∀ (message : InitiatorHandshake) (material : ResponderPrekeyMaterial P),
      (∃ error, accept message material = (.err error, material)) ∨
      ∃ handshake next, accept message material = (.ok handshake, next) ∧
        material.Consumes message.oneTimePrekeyId next) ∧
    (∀ (message : HybridInitiatorHandshake) (material : HybridResponderPrekeyMaterial P K),
      (∃ error, HybridResponderPrekeyMaterial.accept message material =
        (.err error, material)) ∨
      ∃ handshake next, HybridResponderPrekeyMaterial.accept message material =
          (.ok handshake, { material with classical := next }) ∧
        material.classical.Consumes message.classical.oneTimePrekeyId next) ∧
    ∀ (handshake : AuthenticatedHandshake P) (sharedSecret : Key),
      ∃ mixed, handshake.mixMlKem768 sharedSecret = .ok mixed := by
  refine ⟨?_, ?_, ?_⟩
  · intro message material
    exact material.accept_cases message
  · intro message material
    rcases material.accept_cases message with refused | accepted
    · rcases refused with ⟨error, _, refused⟩
      exact .inl ⟨error, refused⟩
    · rcases accepted with ⟨_, handshake, next, _, accepted, consumes⟩
      exact .inr ⟨handshake, next, accepted, consumes⟩
  · intro handshake sharedSecret
    exact ⟨_, handshake.mixMlKem768_eq sharedSecret⟩

end Mef26
