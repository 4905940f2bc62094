import Mef26.Foundation.Execution
import Mef26.Handshake.Values

namespace Mef26

/-! # The life of the responder's prekeys

What each operation of the responder can do to its material, and what every sequence of
them keeps. -/

variable {Key : Type} {P : Primitives Key}

/-- The operations on a responder's prekey material. Publishing a bundle changes nothing. -/
inductive PrekeyCall
  | addOneTimePrekey (entropy : Entropy) (id : UInt32)
  | rotateSignedPrekey (entropy : Entropy) (id : UInt32) (expiresAtUnix : UInt64)
  | retireSignedPrekey (id : UInt32)
  | bundle
  | accept (message : InitiatorHandshake)

namespace ResponderPrekeyMaterial

def after (material : ResponderPrekeyMaterial P) : PrekeyCall → ResponderPrekeyMaterial P
  | .addOneTimePrekey entropy id => (addOneTimePrekey entropy id material).2
  | .rotateSignedPrekey entropy id expiresAtUnix =>
      (rotateSignedPrekey entropy id expiresAtUnix material).2
  | .retireSignedPrekey id => (retireSignedPrekey id material).2
  | .bundle => material
  | .accept message => (Mef26.accept message material).2

def withOneTime (material : ResponderPrekeyMaterial P) (id : UInt32) (key : DhKeyPair P) :
    ResponderPrekeyMaterial P :=
  { material with
    oneTimePrekeys := material.oneTimePrekeys ++
      [{ publicPart := { id, publicKey := key.publicKey }, key }] }

def withSigned (material : ResponderPrekeyMaterial P) (id : UInt32) (expiresAtUnix : UInt64)
    (key : DhKeyPair P) : ResponderPrekeyMaterial P :=
  { material with
    signedPrekey := key
    signedRecord := SignedPrekey.issue material.identity.signing id key.publicKey
      expiresAtUnix
    retiredSignedPrekeys := material.retiredSignedPrekeys ++
      [(material.signedRecord, material.signedPrekey)] }

def withoutSigned (material : ResponderPrekeyMaterial P) (id : UInt32) :
    ResponderPrekeyMaterial P :=
  { material with
    retiredSignedPrekeys :=
      Keyed.remove (fun entry => entry.1.keyId) material.retiredSignedPrekeys id }

inductive Changes (material : ResponderPrekeyMaterial P) :
    PrekeyCall → ResponderPrekeyMaterial P → Prop
  | unchanged (call : PrekeyCall) : Changes material call material
  | added (entropy : Entropy) (id : UInt32) (key : DhKeyPair P)
      (unused : id ∉ material.oneTimePrekeys.map fun entry => entry.publicPart.id)
      (generated : DhKeyPair.generate entropy = .ok key) :
      Changes material (.addOneTimePrekey entropy id) (material.withOneTime id key)
  | rotated (entropy : Entropy) (id : UInt32) (expiresAtUnix : UInt64) (key : DhKeyPair P)
      (unused : id ∉ material.signedPrekeys.map fun entry => entry.1.keyId)
      (generated : DhKeyPair.generate entropy = .ok key) :
      Changes material (.rotateSignedPrekey entropy id expiresAtUnix)
        (material.withSigned id expiresAtUnix key)
  | retired (id : UInt32)
      (retained : id ∈ material.retiredSignedPrekeys.map fun entry => entry.1.keyId) :
      Changes material (.retireSignedPrekey id) (material.withoutSigned id)
  | accepted (message : InitiatorHandshake) (signed : DhKeyPair P)
      (oneTime : Option (DhKeyPair P)) (accepts : Accepts material message signed oneTime) :
      Changes material (.accept message) (material.consume message.oneTimePrekeyId)

theorem changes_addOneTimePrekey (material : ResponderPrekeyMaterial P) (entropy : Entropy)
    (id : UInt32) :
    Changes material (.addOneTimePrekey entropy id)
      (addOneTimePrekey entropy id material).2 := by
  unfold addOneTimePrekey
  rw [Update.read_bind_apply, Update.lift_bind_apply]
  by_cases used : material.oneTimePrekeys.any fun entry => entry.publicPart.id = id
  · rw [Outcome.rejectIf_of _ used]
    exact .unchanged _
  · rw [Outcome.rejectIf_of_not _ used]
    dsimp only
    rw [Update.lift_bind_apply]
    cases generated : (DhKeyPair.generate entropy : Result (DhKeyPair P)) with
    | err | panic => exact .unchanged _
    | ok key => exact .added entropy id key (by simpa using used) generated

theorem changes_rotateSignedPrekey (material : ResponderPrekeyMaterial P) (entropy : Entropy)
    (id : UInt32) (expiresAtUnix : UInt64) :
    Changes material (.rotateSignedPrekey entropy id expiresAtUnix)
      (rotateSignedPrekey entropy id expiresAtUnix material).2 := by
  unfold rotateSignedPrekey
  rw [Update.read_bind_apply, Update.lift_bind_apply]
  by_cases used : material.signedRecord.keyId = id ∨
      material.retiredSignedPrekeys.any fun entry => entry.1.keyId = id
  · rw [Outcome.rejectIf_of _ used]
    exact .unchanged _
  · rw [Outcome.rejectIf_of_not _ used]
    dsimp only
    rw [Update.lift_bind_apply]
    cases generated : (DhKeyPair.generate entropy : Result (DhKeyPair P)) with
    | err | panic => exact .unchanged _
    | ok key =>
        have unused : id ∉ material.signedPrekeys.map fun entry => entry.1.keyId := by
          intro held
          apply used
          rcases List.mem_cons.mp held with current | retained
          · exact .inl current.symm
          · rcases List.mem_map.mp retained with ⟨entry, member, named⟩
            exact .inr (List.any_eq_true.mpr ⟨entry, member, by simpa using named⟩)
        have rotated := Changes.rotated entropy id expiresAtUnix key unused generated
        rw [withSigned, ← DhKeyPair.fromSecret_secret material.signedPrekey] at rotated
        exact rotated

theorem changes_retireSignedPrekey (material : ResponderPrekeyMaterial P) (id : UInt32) :
    Changes material (.retireSignedPrekey id) (retireSignedPrekey id material).2 := by
  unfold retireSignedPrekey
  rw [Update.read_bind_apply, Update.lift_bind_apply]
  cases search : material.retiredSignedPrekeys.findIdx? fun entry => entry.1.keyId = id with
  | none => exact .unchanged _
  | some index =>
      rcases Keyed.findIdx?_eq_some search with ⟨entry, _, found, removed⟩
      rcases Keyed.mem_of_find found with ⟨member, named⟩
      have retired := Changes.retired id (List.mem_map.mpr ⟨entry, member, named⟩)
      rw [withoutSigned, ← removed] at retired
      exact retired

theorem changes_accept (material : ResponderPrekeyMaterial P) (message : InitiatorHandshake) :
    Changes material (.accept message) (Mef26.accept message material).2 := by
  rw [accept_eq]
  cases value : acceptValue message material with
  | err | panic => exact .unchanged _
  | ok handshake =>
      rcases acceptValue_eq_ok.mp value with ⟨signed, oneTime, accepts, _⟩
      exact .accepted message signed oneTime accepts

theorem changes_after (material : ResponderPrekeyMaterial P) (call : PrekeyCall) :
    Changes material call (material.after call) := by
  cases call with
  | addOneTimePrekey entropy id => exact changes_addOneTimePrekey material entropy id
  | rotateSignedPrekey entropy id expiresAtUnix =>
      exact changes_rotateSignedPrekey material entropy id expiresAtUnix
  | retireSignedPrekey id => exact changes_retireSignedPrekey material id
  | bundle => exact .unchanged _
  | accept message => exact changes_accept material message

/-! ## What every call keeps -/

/-- Identifiers are distinct, and every record is that of its key pair. -/
structure WellFormed (material : ResponderPrekeyMaterial P) : Prop where
  signedNames : Keyed.Distinct (fun entry => entry.1.keyId) material.signedPrekeys
  oneTimeNames : Keyed.Distinct (fun entry => entry.publicPart.id) material.oneTimePrekeys
  issued : ∀ entry ∈ material.signedPrekeys, entry.1 = SignedPrekey.issue
    material.identity.signing entry.1.keyId entry.2.publicKey entry.1.expiresAtUnix
  published : ∀ entry ∈ material.oneTimePrekeys,
    entry.publicPart.publicKey = entry.key.publicKey

theorem WellFormed.signedPair_eq {material : ResponderPrekeyMaterial P}
    (wellFormed : material.WellFormed) {entry : SignedPrekey × DhKeyPair P}
    (held : entry ∈ material.signedPrekeys) :
    material.signedPair entry.1.keyId = some entry.2 :=
  congrArg (Option.map Prod.snd)
    ((Keyed.find_eq_some wellFormed.signedNames).mpr ⟨held, rfl⟩)

theorem WellFormed.oneTimeEntry_eq {material : ResponderPrekeyMaterial P}
    (wellFormed : material.WellFormed) {entry : OneTimePrekey P}
    (held : entry ∈ material.oneTimePrekeys) :
    material.oneTimeEntry entry.publicPart.id = some entry :=
  (Keyed.find_eq_some wellFormed.oneTimeNames).mpr ⟨held, rfl⟩

theorem wellFormed_generate {signingEntropy dhEntropy prekeyEntropy : Entropy} {id : UInt32}
    {expiresAtUnix : UInt64} {material : ResponderPrekeyMaterial P}
    (generated : generate signingEntropy dhEntropy prekeyEntropy id expiresAtUnix =
      .ok material) : material.WellFormed := by
  unfold generate at generated
  rcases Outcome.bind_eq_ok.mp generated with ⟨identity, _, generated⟩
  rcases Outcome.bind_eq_ok.mp generated with ⟨signedPrekey, _, generated⟩
  cases generated
  exact {
    signedNames := List.nodup_singleton _
    oneTimeNames := List.nodup_nil
    issued := by
      intro entry member
      cases List.mem_singleton.mp member
      rfl
    published := by simp }

theorem Changes.identity {material next : ResponderPrekeyMaterial P} {call : PrekeyCall}
    (changes : Changes material call next) : next.identity = material.identity := by
  cases changes with
  | unchanged | added | rotated | retired => rfl
  | accepted message =>
      unfold consume
      cases message.oneTimePrekeyId <;> rfl

theorem signedPrekeys_consume (material : ResponderPrekeyMaterial P) (id : Option UInt32) :
    (material.consume id).signedPrekeys = material.signedPrekeys := by
  cases id <;> rfl

theorem signedPrekeys_withoutSigned_sublist {material : ResponderPrekeyMaterial P} {id : UInt32} :
    (material.withoutSigned id).signedPrekeys.Sublist material.signedPrekeys :=
  Keyed.remove_sublist.cons_cons _

theorem mem_signedPrekeys_withSigned {material : ResponderPrekeyMaterial P} {id : UInt32}
    {expiresAtUnix : UInt64} {key : DhKeyPair P} {entry : SignedPrekey × DhKeyPair P} :
    entry ∈ (material.withSigned id expiresAtUnix key).signedPrekeys ↔
      entry = (SignedPrekey.issue material.identity.signing id key.publicKey expiresAtUnix,
        key) ∨ entry ∈ material.signedPrekeys := by
  simp only [signedPrekeys, withSigned, List.mem_cons, List.mem_append, List.not_mem_nil,
    or_false]
  tauto

theorem Changes.of_rotate {material next : ResponderPrekeyMaterial P} {entropy : Entropy}
    {id : UInt32} {expiresAtUnix : UInt64}
    (changes : Changes material (.rotateSignedPrekey entropy id expiresAtUnix) next) :
    next.oneTimePrekeys = material.oneTimePrekeys ∧
      ∀ entry ∈ material.signedPrekeys, entry ∈ next.signedPrekeys := by
  cases changes with
  | unchanged => exact ⟨rfl, fun _ held => held⟩
  | rotated => exact ⟨rfl, fun _ held => mem_signedPrekeys_withSigned.mpr (.inr held)⟩

theorem oneTimePrekeys_consume_sublist (material : ResponderPrekeyMaterial P)
    (id : Option UInt32) :
    (material.consume id).oneTimePrekeys.Sublist material.oneTimePrekeys := by
  cases id with
  | none => exact List.Sublist.refl _
  | some id => exact Keyed.remove_sublist

theorem WellFormed.oneTimeEntry_consume {material : ResponderPrekeyMaterial P}
    (wellFormed : material.WellFormed) (id : UInt32) :
    (material.consume (some id)).oneTimeEntry id = none := by
  apply Keyed.find_eq_none.mpr
  intro held
  rcases List.mem_map.mp held with ⟨entry, member, named⟩
  exact ((Keyed.mem_remove wellFormed.oneTimeNames).mp member).2 named

theorem oneTimeEntry_consume_of_none {material : ResponderPrekeyMaterial P} {id : UInt32}
    (absent : material.oneTimeEntry id = none) (asked : Option UInt32) :
    (material.consume asked).oneTimeEntry id = none := by
  apply Keyed.find_eq_none.mpr
  intro held
  apply Keyed.find_eq_none.mp absent
  exact ((oneTimePrekeys_consume_sublist material asked).map _).subset held

theorem WellFormed.kept {material next : ResponderPrekeyMaterial P} {call : PrekeyCall}
    (wellFormed : material.WellFormed) (changes : Changes material call next) :
    next.WellFormed := by
  cases changes with
  | unchanged => exact wellFormed
  | added entropy id key unused generated =>
      exact { wellFormed with
        oneTimeNames := Keyed.distinct_concat wellFormed.oneTimeNames unused
        published := by
          intro entry member
          rcases List.mem_append.mp member with held | new
          · exact wellFormed.published entry held
          · cases List.mem_singleton.mp new
            rfl }
  | rotated entropy id expiresAtUnix key unused generated =>
      refine { wellFormed with
        signedNames := ?_
        issued := ?_ }
      · have names := List.nodup_cons.mpr ⟨unused, wellFormed.signedNames⟩
        refine (List.Perm.nodup_iff ?_).mp names
        simp only [signedPrekeys, withSigned, List.map_cons, List.map_append, List.map_nil,
          SignedPrekey.issue]
        exact (List.perm_append_singleton _ _).symm.cons _
      · intro entry member
        rcases mem_signedPrekeys_withSigned.mp member with rfl | held
        · rfl
        · exact wellFormed.issued entry held
  | retired id retained =>
      exact { wellFormed with
        signedNames := wellFormed.signedNames.sublist
          (signedPrekeys_withoutSigned_sublist.map _)
        issued := by
          intro entry member
          exact wellFormed.issued entry (signedPrekeys_withoutSigned_sublist.subset member) }
  | accepted message =>
      have identity := Changes.identity (.accepted message _ _ (by assumption))
      have sublist := oneTimePrekeys_consume_sublist material message.oneTimePrekeyId
      refine ⟨?_, wellFormed.oneTimeNames.sublist (sublist.map _), ?_, ?_⟩
      · rw [signedPrekeys_consume]
        exact wellFormed.signedNames
      · rw [signedPrekeys_consume, identity]
        exact wellFormed.issued
      · intro entry member
        exact wellFormed.published entry (sublist.subset member)

end ResponderPrekeyMaterial

/-! ## Runs -/

def PrekeyStep (current : ResponderPrekeyMaterial P) (call : PrekeyCall)
    (next : ResponderPrekeyMaterial P) : Prop :=
  next = current.after call

theorem PrekeyStep.changes {current next : ResponderPrekeyMaterial P} {call : PrekeyCall}
    (step : PrekeyStep current call next) : current.Changes call next := by
  rw [step]
  exact current.changes_after call

variable (P) in
abbrev PrekeyTransition := Transition (ResponderPrekeyMaterial P) PrekeyCall

theorem wellFormed_of_run {start final : ResponderPrekeyMaterial P}
    {transitions : List (PrekeyTransition P)} (run : Run PrekeyStep start transitions final)
    (wellFormed : start.WellFormed) : final.WellFormed := by
  apply run.invariant wellFormed
  intro current call next step kept
  exact kept.kept step.changes

theorem identity_of_run {start final : ResponderPrekeyMaterial P}
    {transitions : List (PrekeyTransition P)} (run : Run PrekeyStep start transitions final) :
    final.identity = start.identity := by
  induction run with
  | nil => rfl
  | cons taken _ induction => rw [induction, (PrekeyStep.changes taken).identity]

end Mef26
