import Mathlib.Data.List.Nodup
import Mef26.Ratchet.Calls

namespace Mef26

/-! # The slots of retained keys

A retained key is stored under a remote ratchet key and a message number. -/

namespace SkippedMessageKey

variable {Key : Type}

/-- The position a retained key is stored under. -/
def slot (entry : SkippedMessageKey Key) : DhPublicKey × UInt32 :=
  (entry.remoteDh, entry.messageNumber)

theorem any_slot_eq {entries : List (SkippedMessageKey Key)} {remoteDh : DhPublicKey}
    {messageNumber : UInt32} :
    (entries.any fun entry =>
      entry.remoteDh = remoteDh ∧ entry.messageNumber = messageNumber) = true ↔
      (remoteDh, messageNumber) ∈ entries.map slot := by
  simp [slot]

end SkippedMessageKey

namespace RatchetState

variable {Key : Type} {P : Primitives Key}

theorem toNat_add_ofNat {start : UInt32} {offset : Nat}
    (small : start.toNat + offset < UInt32.size) :
    (start + .ofNat offset).toNat = start.toNat + offset := by
  have offsetSmall : offset < UInt32.size := by omega
  rw [UInt32.toNat_add, UInt32.toNat_ofNat_of_lt' offsetSmall]
  exact Nat.mod_eq_of_lt small

theorem mem_slots_skippedEntries {remoteDh : DhPublicKey} {chainKey : Key}
    {start : UInt32} {count : Nat} (small : start.toNat + count ≤ UInt32.size)
    {position : DhPublicKey × UInt32} :
    position ∈ (skippedEntries remoteDh
        (skippedRange P chainKey start count)).map SkippedMessageKey.slot ↔
      position.1 = remoteDh ∧ start.toNat ≤ position.2.toNat ∧
        position.2.toNat < start.toNat + count := by
  rcases position with ⟨remote, number⟩
  simp only [skippedEntries, skippedRange, SkippedMessageKey.slot, List.map_map,
    List.mem_map, List.mem_range, Function.comp_apply, Prod.mk.injEq]
  constructor
  · intro holds
    rcases holds with ⟨offset, below, rfl, rfl⟩
    rw [toNat_add_ofNat (by omega)]
    exact ⟨rfl, by omega, by omega⟩
  · intro holds
    rcases holds with ⟨rfl, lower, upper⟩
    refine ⟨number.toNat - start.toNat, by omega, rfl, ?_⟩
    apply UInt32.toNat_inj.mp
    rw [toNat_add_ofNat (by omega)]
    omega

theorem mem_skippedEntries {remoteDh : DhPublicKey} {chainKey : Key} {start : UInt32}
    {count : Nat} (small : start.toNat + count ≤ UInt32.size)
    {entry : SkippedMessageKey Key}
    (member : entry ∈ skippedEntries remoteDh (skippedRange P chainKey start count)) :
    entry.remoteDh = remoteDh ∧ ∃ offset < count,
      entry.messageNumber.toNat = start.toNat + offset ∧
        entry.key = messageKeyAt P chainKey offset := by
  rcases List.mem_map.mp member with ⟨slot, inRange, rfl⟩
  rcases List.mem_map.mp inRange with ⟨offset, inside, rfl⟩
  rw [List.mem_range] at inside
  exact ⟨rfl, offset, inside, toNat_add_ofNat (by omega), rfl⟩

theorem nodup_slots_skippedEntries (remoteDh : DhPublicKey) (chainKey : Key)
    {start : UInt32} {count : Nat} (small : start.toNat + count ≤ UInt32.size) :
    ((skippedEntries remoteDh
      (skippedRange P chainKey start count)).map SkippedMessageKey.slot).Nodup := by
  simp only [skippedEntries, skippedRange, List.map_map]
  refine List.Nodup.map_on ?_ List.nodup_range
  intro first firstBelow second secondBelow equal
  rw [List.mem_range] at firstBelow secondBelow
  have numbers := congrArg (UInt32.toNat ∘ Prod.snd) equal
  simp only [Function.comp_apply, SkippedMessageKey.slot] at numbers
  rw [toNat_add_ofNat (by omega), toNat_add_ofNat (by omega)] at numbers
  omega

def DistinctSlots (state : RatchetState P) : Prop :=
  (state.skipped.map SkippedMessageKey.slot).Nodup

theorem findSkipped_of_unique {state : RatchetState P} {index : Nat}
    {entry : SkippedMessageKey Key} (element : state.skipped[index]? = some entry)
    (unique : ∀ (other : Nat) (entry' : SkippedMessageKey Key),
      state.skipped[other]? = some entry' → entry'.slot = entry.slot → other = index) :
    state.findSkipped entry.remoteDh entry.messageNumber = some index := by
  rcases List.getElem?_eq_some_iff.mp element with ⟨inside, rfl⟩
  refine List.findIdx?_eq_some_iff_getElem.mpr ⟨inside, by simp, ?_⟩
  intro other earlier found
  simp only [decide_eq_true_eq] at found
  have same := unique other _ (List.getElem?_eq_getElem (Nat.lt_trans earlier inside))
    (Prod.ext found.1 found.2)
  exact Nat.ne_of_lt earlier same

def SkippedBounded (state : RatchetState P) : Prop :=
  state.skipped.length ≤ maxSkippedKeys

def RetainsBetween (entries : List (SkippedMessageKey Key)) (remoteDh : DhPublicKey)
    (lower upper : Nat) : Prop :=
  ∃ entry ∈ entries, entry.remoteDh = remoteDh ∧
    lower ≤ entry.messageNumber.toNat ∧ entry.messageNumber.toNat < upper

theorem nodup_slots_append_iff (entries : List (SkippedMessageKey Key))
    (remoteDh : DhPublicKey) (chainKey : Key) {start : UInt32} {count : Nat}
    (small : start.toNat + count ≤ UInt32.size) :
    ((entries ++ skippedEntries remoteDh
        (skippedRange P chainKey start count)).map SkippedMessageKey.slot).Nodup ↔
      (entries.map SkippedMessageKey.slot).Nodup ∧
        ¬RetainsBetween entries remoteDh start.toNat (start.toNat + count) := by
  rw [List.map_append, List.nodup_append]
  constructor
  · intro holds
    rcases holds with ⟨distinct, _, apart⟩
    refine ⟨distinct, ?_⟩
    intro retains
    rcases retains with ⟨entry, member, remoteEq, lower, upper⟩
    exact apart _ (List.mem_map_of_mem member) _
      ((mem_slots_skippedEntries small).mpr ⟨remoteEq, lower, upper⟩) rfl
  · intro holds
    rcases holds with ⟨distinct, free⟩
    refine ⟨distinct, nodup_slots_skippedEntries remoteDh chainKey small, ?_⟩
    intro _ retained _ appended same
    subst same
    rcases List.mem_map.mp retained with ⟨entry, member, rfl⟩
    rcases (mem_slots_skippedEntries small).mp appended with ⟨remoteEq, lower, upper⟩
    exact free ⟨entry, member, remoteEq, lower, upper⟩

theorem gapTo_small (state : RatchetState P) (number : UInt32) :
    state.receivingCount.toNat + state.gapTo number ≤ UInt32.size := by
  have countBound := state.receivingCount.toNat_lt
  have numberBound := number.toNat_lt
  simp only [gapTo, UInt32.size]
  omega

theorem retainsBetween_append_of_ne {entries : List (SkippedMessageKey Key)}
    {remoteDh other : DhPublicKey} (keys : SkippedKeys Key) {lower upper : Nat}
    (different : other ≠ remoteDh) :
    RetainsBetween (entries ++ skippedEntries other keys) remoteDh lower upper ↔
      RetainsBetween entries remoteDh lower upper := by
  constructor
  · intro retains
    rcases retains with ⟨entry, member, remoteEq, bounds⟩
    rcases List.mem_append.mp member with retained | appended
    · exact ⟨entry, retained, remoteEq, bounds⟩
    · rcases List.mem_map.mp appended with ⟨_, _, rfl⟩
      exact absurd remoteEq different
  · intro retains
    rcases retains with ⟨entry, member, remaining⟩
    exact ⟨entry, List.mem_append_left _ member, remaining⟩

theorem distinctSlots_afterCurrent_iff {state : RatchetState P} {number : UInt32}
    (fits : state.FitsBudget number) :
    (state.afterCurrent number).DistinctSlots ↔
      state.DistinctSlots ∧ ¬RetainsBetween state.skipped state.remoteDh
        state.receivingCount.toNat number.toNat := by
  have total : state.receivingCount.toNat + state.gapTo number = number.toNat :=
    Nat.add_sub_cancel' fits.1
  have appended := nodup_slots_append_iff (P := P) state.skipped state.remoteDh
    state.receivingChain (state.gapTo_small number)
  rwa [total] at appended

theorem distinctSlots_afterNext_iff {entropy : Entropy} {state : RatchetState P}
    {pair : DhKeyPair P} {header : FrameHeader}
    (different : header.ratchetPublic ≠ state.remoteDh)
    (ready : StepReady entropy header state pair) :
    (state.afterNext pair header).DistinctSlots ↔
      state.DistinctSlots ∧
      ¬RetainsBetween state.skipped state.remoteDh state.receivingCount.toNat
        header.previousChainLen.toNat ∧
      ¬RetainsBetween state.skipped header.ratchetPublic 0 header.messageNumber.toNat := by
  have total : state.receivingCount.toNat + state.gapTo header.previousChainLen =
      header.previousChainLen.toNat := Nat.add_sub_cancel' ready.fitsOld.1
  have oldRange := nodup_slots_append_iff (P := P) state.skipped state.remoteDh
    state.receivingChain (state.gapTo_small header.previousChainLen)
  have start : (0 : UInt32).toNat = 0 := rfl
  have numberSmall : (0 : UInt32).toNat + header.messageNumber.toNat ≤ UInt32.size := by
    have bound := header.messageNumber.toNat_lt
    rw [start, Nat.zero_add]
    exact Nat.le_of_lt bound
  have newRange := nodup_slots_append_iff (P := P)
    (state.skipped ++ state.skippedTo header.previousChainLen) header.ratchetPublic
    (state.chainFrom header.ratchetPublic) numberSmall
  rw [total] at oldRange
  rw [start, Nat.zero_add, skippedTo, retainsBetween_append_of_ne _ (Ne.symm different),
    oldRange, and_assoc] at newRange
  exact newRange

end RatchetState

namespace RatchetCall

variable {Key : Type} {P : Primitives Key}

/-- The accepted frames that retain a key for a number whose key is retained
already. Only a peer that returns to an earlier ratchet key sends one. -/
inductive RepeatsSlot (state : RatchetState P) : RatchetCall → Prop
  | current {entropy : Entropy} {frame : InnerFrame} (plaintext : List UInt8)
      (opens : state.OpensCurrent frame plaintext)
      (room : frame.header.messageNumber.toNat + 1 < UInt32.size)
      (retained : RatchetState.RetainsBetween state.skipped state.remoteDh
        state.receivingCount.toNat frame.header.messageNumber.toNat) :
      RepeatsSlot state (.decrypt entropy frame)
  | next {entropy : Entropy} {frame : InnerFrame} (pair : DhKeyPair P)
      (plaintext : List UInt8)
      (opens : RatchetState.OpensNext entropy state frame pair plaintext)
      (retained : RatchetState.RetainsBetween state.skipped state.remoteDh
          state.receivingCount.toNat frame.header.previousChainLen.toNat ∨
        RatchetState.RetainsBetween state.skipped frame.header.ratchetPublic
          0 frame.header.messageNumber.toNat) :
      RepeatsSlot state (.decrypt entropy frame)

/-- Distinct slots stay distinct exactly under the calls that repeat none. -/
theorem distinctSlots_after_iff {state : RatchetState P} {call : RatchetCall}
    (distinct : state.DistinctSlots) :
    (call.after state).DistinctSlots ↔ ¬RepeatsSlot state call := by
  constructor
  · intro kept repeats
    rcases repeats with ⟨plaintext, opens, room, retained⟩ | ⟨pair, plaintext, opens, retained⟩
    · rw [after_of_commits (.current plaintext opens room),
        RatchetState.distinctSlots_afterCurrent_iff opens.fits] at kept
      exact kept.2 retained
    · rw [after_of_commits (.next pair plaintext opens),
        RatchetState.distinctSlots_afterNext_iff opens.different opens.ready] at kept
      exact retained.elim kept.2.1 kept.2.2
  · intro fresh
    cases call.ends state with
    | commits reply replied commits =>
        generalize call.after state = after at commits
        cases commits with
        | encrypt | rotate => exact distinct
        | retained index entry plaintext opens =>
            exact distinct.sublist ((List.eraseIdx_sublist _ _).map _)
        | current plaintext opens room =>
            exact (RatchetState.distinctSlots_afterCurrent_iff opens.fits).mpr
              ⟨distinct, fun retained => fresh (.current plaintext opens room retained)⟩
        | next pair plaintext opens =>
            exact (RatchetState.distinctSlots_afterNext_iff opens.different opens.ready).mpr
              ⟨distinct,
                fun retained => fresh (.next pair plaintext opens (.inl retained)),
                fun retained => fresh (.next pair plaintext opens (.inr retained))⟩
    | exhausts failed exhausts =>
        generalize call.after state = after at exhausts
        cases exhausts <;> exact distinct
    | refused error failed unchanged =>
        rw [unchanged]
        exact distinct

theorem skippedBounded_after {state : RatchetState P} (call : RatchetCall)
    (bounded : state.SkippedBounded) : (call.after state).SkippedBounded := by
  cases call.ends state with
  | commits reply replied commits =>
      generalize call.after state = after at commits
      cases commits with
      | encrypt | rotate => exact bounded
      | retained index entry plaintext opens =>
          exact Nat.le_trans (List.length_eraseIdx_le _ _) bounded
      | current plaintext opens room =>
          simp only [RatchetState.SkippedBounded, RatchetState.afterCurrent,
            List.length_append, RatchetState.length_skippedTo]
          exact opens.fits.length_le
      | next pair plaintext opens =>
          simp only [RatchetState.SkippedBounded, RatchetState.afterNext,
            List.length_append, RatchetState.length_skippedTo,
            RatchetState.length_skippedEntries, length_skippedRange]
          exact opens.ready.fitsNew
  | exhausts failed exhausts =>
      generalize call.after state = after at exhausts
      cases exhausts <;> exact bounded
  | refused error failed unchanged =>
      rw [unchanged]
      exact bounded

theorem skippedBounded_of_run {start final : RatchetState P}
    {transitions : List (Transition (RatchetState P) RatchetCall)}
    (run : Run CallStep start transitions final) (initially : start.SkippedBounded) :
    final.SkippedBounded := by
  refine run.invariant initially ?_
  intro current call _ same
  subst same
  exact skippedBounded_after call

end RatchetCall

end Mef26
