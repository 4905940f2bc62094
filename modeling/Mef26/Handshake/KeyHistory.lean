import Mef26.Foundation.Naming
import Mef26.Handshake.Prekeys

namespace Mef26

/-! # What prekey identifiers stand for

The material rejects an identifier only while it is in use. Over a run the identifier may
stand for one key pair, for none, and then for another. -/

variable {Key : Type} {P : Primitives Key}

/-- Signed and one-time prekeys are numbered separately. -/
inductive PrekeyName
  | signed (id : UInt32)
  | oneTime (id : UInt32)
  deriving DecidableEq, Repr

def PrekeyCall.issues : PrekeyCall → Option PrekeyName
  | .addOneTimePrekey _ id => some (.oneTime id)
  | .rotateSignedPrekey _ id _ => some (.signed id)
  | _ => none

def PrekeyCall.drawn : PrekeyCall → Option DhSecretKey
  | .addOneTimePrekey entropy _ | .rotateSignedPrekey entropy _ _ => entropy 32
  | _ => none

namespace ResponderPrekeyMaterial

/-- The key pair that an identifier stands for. -/
def lookup (material : ResponderPrekeyMaterial P) : PrekeyName → Option (DhKeyPair P)
  | .signed id => material.signedPair id
  | .oneTime id => (material.oneTimeEntry id).map fun entry => entry.key

variable {material next : ResponderPrekeyMaterial P} {call : PrekeyCall}

theorem WellFormed.lookup_signed (wellFormed : material.WellFormed) {id : UInt32}
    {pair : DhKeyPair P} : material.lookup (.signed id) = some pair ↔
      ∃ entry ∈ material.signedPrekeys, entry.1.keyId = id ∧ entry.2 = pair := by
  rw [lookup, signedPair, Option.map_eq_some_iff]
  simp only [Keyed.find_eq_some wellFormed.signedNames, and_assoc]

theorem WellFormed.lookup_oneTime (wellFormed : material.WellFormed) {id : UInt32}
    {pair : DhKeyPair P} : material.lookup (.oneTime id) = some pair ↔
      ∃ entry ∈ material.oneTimePrekeys, entry.publicPart.id = id ∧ entry.key = pair := by
  rw [lookup, oneTimeEntry, Option.map_eq_some_iff]
  simp only [Keyed.find_eq_some wellFormed.oneTimeNames, and_assoc]

theorem lookup_signed_eq_none {id : UInt32} : material.lookup (.signed id) = none ↔
    id ∉ material.signedPrekeys.map fun entry => entry.1.keyId := by
  rw [lookup, signedPair, Option.map_eq_none_iff, Keyed.find_eq_none]

theorem lookup_oneTime_eq_none {id : UInt32} : material.lookup (.oneTime id) = none ↔
    id ∉ material.oneTimePrekeys.map fun entry => entry.publicPart.id := by
  rw [lookup, oneTimeEntry, Option.map_eq_none_iff, Keyed.find_eq_none]

/-! ## Where keys come from -/

theorem Changes.mem_signedPrekeys (changes : Changes material call next)
    {entry : SignedPrekey × DhKeyPair P} (member : entry ∈ next.signedPrekeys) :
    entry ∈ material.signedPrekeys ∨
      material.lookup (.signed entry.1.keyId) = none ∧
        call.issues = some (.signed entry.1.keyId) ∧ call.drawn = some entry.2.secret := by
  cases changes with
  | unchanged => exact .inl member
  | added => exact .inl member
  | rotated entropy id expiresAtUnix key unused generated =>
      rcases mem_signedPrekeys_withSigned.mp member with rfl | held
      · exact .inr ⟨lookup_signed_eq_none.mpr unused, rfl,
          DhKeyPair.generate_eq_ok.mp generated⟩
      · exact .inl held
  | retired => exact .inl (signedPrekeys_withoutSigned_sublist.subset member)
  | accepted => exact .inl (signedPrekeys_consume material _ ▸ member)

theorem Changes.mem_oneTimePrekeys (changes : Changes material call next)
    {entry : OneTimePrekey P} (member : entry ∈ next.oneTimePrekeys) :
    entry ∈ material.oneTimePrekeys ∨
      material.lookup (.oneTime entry.publicPart.id) = none ∧
        call.issues = some (.oneTime entry.publicPart.id) ∧
        call.drawn = some entry.key.secret := by
  cases changes with
  | unchanged => exact .inl member
  | added entropy id key unused generated =>
      rcases List.mem_append.mp member with held | new
      · exact .inl held
      · cases List.mem_singleton.mp new
        exact .inr ⟨lookup_oneTime_eq_none.mpr unused, rfl,
          DhKeyPair.generate_eq_ok.mp generated⟩
  | rotated => exact .inl member
  | retired => exact .inl member
  | accepted message =>
      exact .inl ((oneTimePrekeys_consume_sublist material _).subset member)

theorem Changes.lookup_cases (changes : Changes material call next)
    (wellFormed : material.WellFormed) {name : PrekeyName} {pair : DhKeyPair P}
    (found : next.lookup name = some pair) :
    material.lookup name = some pair ∨
      material.lookup name = none ∧ call.issues = some name ∧
        call.drawn = some pair.secret := by
  have wellFormed' := wellFormed.kept changes
  cases name with
  | signed id =>
      rcases wellFormed'.lookup_signed.mp found with ⟨entry, member, rfl, rfl⟩
      rcases changes.mem_signedPrekeys member with held | issued
      · exact .inl (wellFormed.lookup_signed.mpr ⟨entry, held, rfl, rfl⟩)
      · exact .inr issued
  | oneTime id =>
      rcases wellFormed'.lookup_oneTime.mp found with ⟨entry, member, rfl, rfl⟩
      rcases changes.mem_oneTimePrekeys member with held | issued
      · exact .inl (wellFormed.lookup_oneTime.mpr ⟨entry, held, rfl, rfl⟩)
      · exact .inr issued

theorem Changes.lookup_issued (changes : Changes material call next)
    (wellFormed : material.WellFormed) (changed : next ≠ material) {name : PrekeyName}
    (issued : call.issues = some name) :
    material.lookup name = none ∧ ∃ pair, next.lookup name = some pair := by
  have wellFormed' := wellFormed.kept changes
  cases changes with
  | unchanged => exact absurd rfl changed
  | added entropy id key unused =>
      cases issued
      exact ⟨lookup_oneTime_eq_none.mpr unused, key, wellFormed'.lookup_oneTime.mpr
        ⟨_, List.mem_append_right _ (List.mem_singleton_self _), rfl, rfl⟩⟩
  | rotated entropy id expiresAtUnix key unused =>
      cases issued
      exact ⟨lookup_signed_eq_none.mpr unused, key, wellFormed'.lookup_signed.mpr
        ⟨_, mem_signedPrekeys_withSigned.mpr (.inl rfl), rfl, rfl⟩⟩
  | retired | accepted => cases issued

end ResponderPrekeyMaterial

/-! ## Identifiers over a run -/

def PrekeyTransition.Issues (transition : PrekeyTransition P) (name : PrekeyName) : Prop :=
  transition.next ≠ transition.current ∧ transition.event.issues = some name

/-- Every key pair that a call generates is new to the run. -/
def FreshPrekeys (start : ResponderPrekeyMaterial P)
    (transitions : List (PrekeyTransition P)) : Prop :=
  Naming.Fresh ResponderPrekeyMaterial.lookup DhKeyPair.publicKey start transitions

theorem issues_iff {transition : PrekeyTransition P} {name : PrekeyName}
    (step : PrekeyStep transition.current transition.event transition.next)
    (wellFormed : transition.current.WellFormed) :
    PrekeyTransition.Issues transition name ↔
      ∃ pair, Naming.Assigns ResponderPrekeyMaterial.lookup transition name pair := by
  have changes := step.changes
  constructor
  · intro issues
    rcases changes.lookup_issued wellFormed issues.1 issues.2 with ⟨free, pair, bound⟩
    exact ⟨pair, free, bound⟩
  · intro assigned
    rcases assigned with ⟨pair, free, bound⟩
    constructor
    · intro same
      rw [same, free] at bound
      cases bound
    · rcases changes.lookup_cases wellFormed bound with kept | issued
      · exact absurd (kept.symm.trans free) (by simp)
      · exact issued.2.1

section History

variable {start final : ResponderPrekeyMaterial P} {transitions : List (PrekeyTransition P)}

theorem wellFormed_current (run : Run PrekeyStep start transitions final)
    (wellFormed : start.WellFormed) {transition : PrekeyTransition P}
    (member : transition ∈ transitions) : transition.current.WellFormed := by
  rcases List.append_of_mem member with ⟨before, after, rfl⟩
  exact wellFormed_of_run run.around.1 wellFormed

theorem exclusive_of_run (run : Run PrekeyStep start transitions final)
    (wellFormed : start.WellFormed) :
    Naming.Exclusive ResponderPrekeyMaterial.lookup transitions := by
  intro transition member name pair other before after
  rcases (run.step_of_mem member).changes.lookup_cases (wellFormed_current run wellFormed member)
    after with kept | issued
  · exact Option.some.inj (kept.symm.trans before)
  · exact absurd (before.symm.trans issued.1) (by simp)

def drawnKeys (transitions : List (PrekeyTransition P)) : List DhPublicKey :=
  (transitions.filterMap fun transition => transition.event.drawn).map P.x25519PublicKey

theorem mem_drawnKeys_of_assigns (run : Run PrekeyStep start transitions final)
    (wellFormed : start.WellFormed) {transition : PrekeyTransition P}
    (member : transition ∈ transitions) {name : PrekeyName} {pair : DhKeyPair P}
    (assigned : Naming.Assigns ResponderPrekeyMaterial.lookup transition name pair) :
    pair.publicKey ∈ drawnKeys transitions := by
  rcases (run.step_of_mem member).changes.lookup_cases (wellFormed_current run wellFormed member)
    assigned.2 with kept | ⟨_, _, drawn⟩
  · exact absurd (kept.symm.trans assigned.1) (by simp)
  · rw [pair.publicKey_eq]
    exact List.mem_map_of_mem (List.mem_filterMap.mpr ⟨transition, member, drawn⟩)

theorem freshPrekeys_of_nodup (run : Run PrekeyStep start transitions final)
    (wellFormed : start.WellFormed) {held : List DhPublicKey}
    (covered : ∀ name pair, start.lookup name = some pair → pair.publicKey ∈ held)
    (distinct : (held ++ drawnKeys transitions).Nodup) : FreshPrekeys start transitions := by
  intro before transition after split name pair assigned state visited other known found
  rw [split] at run
  have earlier : known.publicKey ∈ held ++ drawnKeys before := by
    rcases run.around.1.exists_run_of_visited visited with ⟨first, second, rfl, reached⟩
    rcases Naming.kept_or_assigned reached (exclusive_of_run reached wellFormed) found
      with kept | ⟨source, member, given⟩
    · exact List.mem_append_left _ (covered other known kept)
    · have drawn := mem_drawnKeys_of_assigns run.around.1 wellFormed
        (List.mem_append_left second member) given
      exact List.mem_append_right _ drawn
  have rest := Run.cons run.around.2.1 run.around.2.2
  have last := mem_drawnKeys_of_assigns rest (wellFormed_of_run run.around.1 wellFormed)
    (List.mem_cons_self ..) assigned
  rw [split, drawnKeys, List.filterMap_append, List.map_append, ← List.append_assoc,
    List.nodup_append] at distinct
  exact distinct.2.2 _ earlier _ last

theorem freshPrekeys_of_generate {signingEntropy dhEntropy prekeyEntropy : Entropy}
    {id : UInt32} {expiresAtUnix : UInt64}
    (generated : ResponderPrekeyMaterial.generate signingEntropy dhEntropy prekeyEntropy id
      expiresAtUnix = .ok start) (run : Run PrekeyStep start transitions final)
    (distinct : (start.signedPrekey.publicKey :: drawnKeys transitions).Nodup) :
    FreshPrekeys start transitions := by
  have wellFormed := ResponderPrekeyMaterial.wellFormed_generate generated
  refine freshPrekeys_of_nodup run wellFormed ?_
    (show ([start.signedPrekey.publicKey] ++ drawnKeys transitions).Nodup from distinct)
  unfold ResponderPrekeyMaterial.generate at generated
  rcases Outcome.bind_eq_ok.mp generated with ⟨identity, _, generated⟩
  rcases Outcome.bind_eq_ok.mp generated with ⟨signedPrekey, _, generated⟩
  cases generated
  intro name pair found
  cases name with
  | signed id =>
      rcases wellFormed.lookup_signed.mp found with ⟨entry, member, _, rfl⟩
      cases List.mem_singleton.mp member
      exact List.mem_singleton_self _
  | oneTime id => cases found

theorem unissued_iff (run : Run PrekeyStep start transitions final)
    (wellFormed : start.WellFormed) {name : PrekeyName} :
    (∀ transition ∈ transitions, ¬PrekeyTransition.Issues transition name) ↔
      ∀ transition ∈ transitions, ∀ given,
        ¬Naming.Assigns ResponderPrekeyMaterial.lookup transition name given := by
  apply forall₂_congr
  intro transition member
  rw [issues_iff (run.step_of_mem member) (wellFormed_current run wellFormed member)]
  exact not_exists

theorem same_pair_of_unissued (run : Run PrekeyStep start transitions final)
    (wellFormed : start.WellFormed) {name : PrekeyName} {pair other : DhKeyPair P}
    (unissued : ∀ transition ∈ transitions, ¬PrekeyTransition.Issues transition name)
    (before : start.lookup name = some pair) (after : final.lookup name = some other) :
    other = pair :=
  Naming.eq_of_unassigned run (exclusive_of_run run wellFormed)
    ((unissued_iff run wellFormed).mp unissued) before after

/-- Over a run an identifier that stands for a key pair at both ends stands for the same one
exactly if no call in between issued it. -/
theorem same_pair_iff (run : Run PrekeyStep start transitions final)
    (wellFormed : start.WellFormed) (fresh : FreshPrekeys start transitions)
    {name : PrekeyName} {pair other : DhKeyPair P} (before : start.lookup name = some pair)
    (after : final.lookup name = some other) :
    other.publicKey = pair.publicKey ↔
      ∀ transition ∈ transitions, ¬PrekeyTransition.Issues transition name := by
  rw [fresh.same_iff (exclusive_of_run run wellFormed) run before after]
  exact (unissued_iff run wellFormed).symm

end History

end Mef26
