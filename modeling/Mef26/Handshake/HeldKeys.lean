import Mathlib.Data.List.Perm.Subperm
import Mef26.Handshake.KeyHistory

namespace Mef26

/-! # The key pairs that a responder holds

Key pairs come into the material one by one and only ever leave it again. While no pair is
drawn twice, a pair that has left does not come back. -/

variable {Key : Type} {P : Primitives Key}

def PrekeyCall.drawnKey (P : Primitives Key) (call : PrekeyCall) : List DhPublicKey :=
  (call.drawn.map P.x25519PublicKey).toList

theorem drawnKeys_cons {transition : PrekeyTransition P}
    {transitions : List (PrekeyTransition P)} :
    drawnKeys (transition :: transitions) =
      transition.event.drawnKey P ++ drawnKeys transitions := by
  unfold drawnKeys PrekeyCall.drawnKey
  rw [List.filterMap_cons]
  cases transition.event.drawn <;> rfl

theorem drawnKeys_append {first second : List (PrekeyTransition P)} :
    drawnKeys (first ++ second) = drawnKeys first ++ drawnKeys second := by
  rw [drawnKeys, List.filterMap_append, List.map_append]
  rfl

namespace ResponderPrekeyMaterial

def prekeyKeys (material : ResponderPrekeyMaterial P) : List DhPublicKey :=
  (material.signedPrekeys.map fun entry => entry.2.publicKey) ++
    material.oneTimePrekeys.map fun entry => entry.key.publicKey

def heldKeys (material : ResponderPrekeyMaterial P) : List DhPublicKey :=
  material.identity.dh.publicKey :: material.prekeyKeys

theorem genuine_of_held {material : ResponderPrekeyMaterial P} {key : DhPublicKey}
    (held : key ∈ material.heldKeys) : ∃ secret, P.x25519PublicKey secret = key := by
  rcases List.mem_cons.mp held with rfl | prekey
  · exact ⟨_, material.identity.dh.publicKey_eq.symm⟩
  · rcases List.mem_append.mp prekey with signed | oneTime
    · rcases List.mem_map.mp signed with ⟨entry, _, rfl⟩
      exact ⟨_, entry.2.publicKey_eq.symm⟩
    · rcases List.mem_map.mp oneTime with ⟨entry, _, rfl⟩
      exact ⟨_, entry.key.publicKey_eq.symm⟩

variable {material next : ResponderPrekeyMaterial P} {call : PrekeyCall}

theorem prekeyKeys_consume_sublist (material : ResponderPrekeyMaterial P)
    (id : Option UInt32) : (material.consume id).prekeyKeys.Sublist material.prekeyKeys := by
  unfold prekeyKeys
  rw [signedPrekeys_consume]
  exact ((oneTimePrekeys_consume_sublist material id).map _).append_left _

/-- No call brings in a pair that it did not draw. -/
theorem Changes.prekeyKeys_subperm (changes : Changes material call next) :
    next.prekeyKeys.Subperm (call.drawnKey P ++ material.prekeyKeys) := by
  have drew {entropy : Entropy} {key : DhKeyPair P}
      (generated : DhKeyPair.generate entropy = .ok key) :
      ((entropy 32).map P.x25519PublicKey).toList = [key.publicKey] := by
    rw [DhKeyPair.generate_eq_ok.mp generated, key.publicKey_eq]
    rfl
  cases changes with
  | unchanged => exact (List.sublist_append_right _ _).subperm
  | added entropy id key unused generated =>
      rw [PrekeyCall.drawnKey, PrekeyCall.drawn, drew generated]
      apply List.Perm.subperm
      simp only [prekeyKeys, withOneTime, List.map_append, List.map_cons, List.map_nil]
      rw [← List.append_assoc]
      exact List.perm_append_singleton _ _
  | rotated entropy id expiresAtUnix key unused generated =>
      rw [PrekeyCall.drawnKey, PrekeyCall.drawn, drew generated]
      apply List.Perm.subperm
      simp only [prekeyKeys, withSigned, signedPrekeys, List.map_append, List.map_cons,
        List.map_nil, List.cons_append, List.nil_append]
      exact ((List.perm_append_singleton _ _).append_right _).cons _
  | retired id retained =>
      refine List.Sublist.subperm (List.Sublist.trans ?_ (List.sublist_append_right _ _))
      exact (signedPrekeys_withoutSigned_sublist.map _).append_right _
  | accepted message =>
      exact ((prekeyKeys_consume_sublist material _).trans
        (List.sublist_append_right _ _)).subperm

theorem prekeyKeys_consume_subperm {id : UInt32} {entry : OneTimePrekey P}
    (found : material.oneTimeEntry id = some entry) :
    (entry.key.publicKey :: (material.consume (some id)).prekeyKeys).Perm
      material.prekeyKeys := by
  rcases Keyed.mem_of_find found with ⟨member, named⟩
  rcases @Keyed.exists_removed _ _ (fun entry : OneTimePrekey P => entry.publicPart.id) _ _ _ _
    member named with ⟨first, before, after, isFirst, others, split, removed⟩
  have same : entry = first := by
    rw [oneTimeEntry, Keyed.find, split, List.find?_append, List.find?_eq_none.mpr (by
      simpa using others), List.find?_cons_of_pos (by simpa using isFirst)] at found
    exact (Option.some.inj found).symm
  have consumed : (material.consume (some id)).oneTimePrekeys = before ++ after := removed
  unfold prekeyKeys
  rw [signedPrekeys_consume, consumed, split, same]
  simp only [List.map_append, List.map_cons]
  rw [← List.append_assoc, ← List.append_assoc]
  exact List.perm_middle.symm

theorem WellFormed.mem_prekeyKeys_iff (wellFormed : material.WellFormed) {key : DhPublicKey} :
    key ∈ material.prekeyKeys ↔
      ∃ name pair, material.lookup name = some pair ∧ pair.publicKey = key := by
  constructor
  · intro held
    rcases List.mem_append.mp held with signed | oneTime
    · rcases List.mem_map.mp signed with ⟨entry, member, rfl⟩
      exact ⟨.signed entry.1.keyId, entry.2,
        wellFormed.lookup_signed.mpr ⟨entry, member, rfl, rfl⟩, rfl⟩
    · rcases List.mem_map.mp oneTime with ⟨entry, member, rfl⟩
      exact ⟨.oneTime entry.publicPart.id, entry.key,
        wellFormed.lookup_oneTime.mpr ⟨entry, member, rfl, rfl⟩, rfl⟩
  · intro held
    rcases held with ⟨name, pair, found, rfl⟩
    cases name with
    | signed id =>
        rcases wellFormed.lookup_signed.mp found with ⟨entry, member, _, rfl⟩
        exact List.mem_append_left _ (List.mem_map_of_mem member)
    | oneTime id =>
        rcases wellFormed.lookup_oneTime.mp found with ⟨entry, member, _, rfl⟩
        exact List.mem_append_right _ (List.mem_map_of_mem member)

theorem WellFormed.name_eq (wellFormed : material.WellFormed)
    (distinct : material.prekeyKeys.Nodup) {name name' : PrekeyName} {pair pair' : DhKeyPair P}
    (found : material.lookup name = some pair) (found' : material.lookup name' = some pair')
    (same : pair.publicKey = pair'.publicKey) : name = name' := by
  rcases List.nodup_append.mp distinct with ⟨signedDistinct, oneTimeDistinct, apart⟩
  cases name with
  | signed id =>
      rcases wellFormed.lookup_signed.mp found with ⟨entry, member, rfl, rfl⟩
      cases name' with
      | signed id' =>
          rcases wellFormed.lookup_signed.mp found' with ⟨entry', member', rfl, rfl⟩
          rw [List.inj_on_of_nodup_map signedDistinct member member' same]
      | oneTime id' =>
          rcases wellFormed.lookup_oneTime.mp found' with ⟨entry', member', rfl, rfl⟩
          exact absurd same (apart _ (List.mem_map_of_mem member) _
            (List.mem_map_of_mem member'))
  | oneTime id =>
      rcases wellFormed.lookup_oneTime.mp found with ⟨entry, member, rfl, rfl⟩
      cases name' with
      | signed id' =>
          rcases wellFormed.lookup_signed.mp found' with ⟨entry', member', rfl, rfl⟩
          exact absurd same.symm (apart _ (List.mem_map_of_mem member') _
            (List.mem_map_of_mem member))
      | oneTime id' =>
          rcases wellFormed.lookup_oneTime.mp found' with ⟨entry', member', rfl, rfl⟩
          rw [List.inj_on_of_nodup_map oneTimeDistinct member member' same]

end ResponderPrekeyMaterial

/-! ## Over a run -/

section Runs

variable {start final : ResponderPrekeyMaterial P} {transitions : List (PrekeyTransition P)}

theorem prekeyKeys_subperm_of_run (run : Run PrekeyStep start transitions final) :
    final.prekeyKeys.Subperm (drawnKeys transitions ++ start.prekeyKeys) := by
  induction run with
  | nil state => exact List.Subperm.refl _
  | @cons current call middle rest final taken _ induction =>
      have first := (PrekeyStep.changes taken).prekeyKeys_subperm
      refine induction.trans (((List.subperm_append_left _).mpr first).trans ?_)
      rw [drawnKeys_cons, ← List.append_assoc]
      exact (List.perm_append_comm.append_right _).subperm

theorem mem_prekeyKeys_of_run (run : Run PrekeyStep start transitions final)
    {key : DhPublicKey} (held : key ∈ final.prekeyKeys) :
    key ∈ drawnKeys transitions ∨ key ∈ start.prekeyKeys :=
  List.mem_append.mp ((prekeyKeys_subperm_of_run run).subset held)

/-- The keys that are held at a point of a run and those that are drawn after it are
distinct, if all keys of the run are. -/
theorem nodup_of_run {before after : List (PrekeyTransition P)}
    (run : Run PrekeyStep start before final)
    (distinct : (drawnKeys (before ++ after) ++ start.prekeyKeys).Nodup) :
    (drawnKeys after ++ final.prekeyKeys).Nodup := by
  rw [drawnKeys_append] at distinct
  have held := (List.subperm_append_left (drawnKeys after)).mpr (prekeyKeys_subperm_of_run run)
  rw [← List.append_assoc] at held
  rcases held.trans (List.perm_append_comm.append_right _).subperm
    with ⟨entries, same, inside⟩
  exact same.nodup_iff.mp (distinct.sublist inside)

/-- While no key is drawn that is held already, a pair is held exactly while its name
stands for it. -/
theorem mem_prekeyKeys_iff_lookup (run : Run PrekeyStep start transitions final)
    (wellFormed : start.WellFormed) (distinct : (drawnKeys transitions ++ start.prekeyKeys).Nodup)
    {name : PrekeyName} {pair : DhKeyPair P} (found : start.lookup name = some pair) :
    pair.publicKey ∈ final.prekeyKeys ↔ final.lookup name = some pair := by
  have wellFormed' := wellFormed_of_run run wellFormed
  rcases List.nodup_append.mp distinct with ⟨_, startDistinct, apart⟩
  have held := wellFormed.mem_prekeyKeys_iff.mpr ⟨name, pair, found, rfl⟩
  constructor
  · intro later
    rcases wellFormed'.mem_prekeyKeys_iff.mp later with ⟨name', pair', found', same⟩
    rcases Naming.kept_or_assigned run (exclusive_of_run run wellFormed) found'
      with kept | ⟨transition, member, assigned⟩
    · cases wellFormed.name_eq startDistinct kept found same
      rw [found', ← found, kept]
    · have drawn := mem_drawnKeys_of_assigns run wellFormed member assigned
      exact absurd same (apart _ drawn _ held)
  · intro later
    exact wellFormed'.mem_prekeyKeys_iff.mpr ⟨name, pair, later, rfl⟩

end Runs

end Mef26
