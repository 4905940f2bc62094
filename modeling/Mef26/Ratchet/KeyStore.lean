import Mathlib.Data.List.InsertIdx
import Mef26.Ratchet.Calls

namespace Mef26

/-! # The key store of an endpoint

What a ratchet is for, seen from its secrets: a store of a root, two chains and some
retained message keys, which only a few elementary moves change. Each call of the
ratchet is a short run of them. -/

@[ext]
structure KeyStore (Key : Type) where
  rootKey : Key
  sendingChain : Key
  receivingChain : Key
  retained : List Key

section

variable {Key : Type} (P : Primitives Key)

def nextKeys (chainKey : Key) (count : Nat) : List Key :=
  (List.range count).map (messageKeyAt P chainKey)

/-- The elementary moves. The event is the message key that is taken out, if any. -/
inductive KeyMove : KeyStore Key → Option Key → KeyStore Key → Prop
  | send (store) :
      KeyMove store (some (messageKeyOf P store.sendingChain))
        { store with sendingChain := chainNext P store.sendingChain }
  | receive (store) :
      KeyMove store (some (messageKeyOf P store.receivingChain))
        { store with receivingChain := chainNext P store.receivingChain }
  | release (store) (index : Nat) (key : Key) (element : store.retained[index]? = some key) :
      KeyMove store (some key) { store with retained := store.retained.eraseIdx index }
  /-- Passing over keys, which may be retained. -/
  | skip (store) (count : Nat) (kept : List Key)
      (sublist : kept.Sublist (nextKeys P store.receivingChain count)) :
      KeyMove store none
        { store with
          receivingChain := chainAt P store.receivingChain count
          retained := store.retained ++ kept }
  | stepSending (store) (output : Key) :
      KeyMove store none
        { store with
          rootKey := nextRoot P store.rootKey output
          sendingChain := rootChain P store.rootKey output }
  | stepReceiving (store) (output : Key) :
      KeyMove store none
        { store with
          rootKey := nextRoot P store.rootKey output
          receivingChain := rootChain P store.rootKey output }

end

variable {Key : Type} {P : Primitives Key}

/-- The message keys that a run of moves takes out, in order. -/
def keysTaken (moves : List (Transition (KeyStore Key) (Option Key))) : List Key :=
  moves.filterMap Transition.event

@[simp] theorem keysTaken_append (first second : List (Transition (KeyStore Key) (Option Key))) :
    keysTaken (first ++ second) = keysTaken first ++ keysTaken second :=
  List.filterMap_append

namespace RatchetState

def keyStore (state : RatchetState P) : KeyStore Key where
  rootKey := state.rootKey
  sendingChain := state.sendingChain
  receivingChain := state.receivingChain
  retained := state.skipped.map SkippedMessageKey.key

theorem keys_skippedEntries (remoteDh : DhPublicKey) (chainKey : Key) (start : UInt32)
    (count : Nat) :
    (skippedEntries remoteDh (skippedRange P chainKey start count)).map
      SkippedMessageKey.key = nextKeys P chainKey count := by
  simp [skippedEntries, skippedRange, nextKeys]

theorem keyStore_afterSkipped (state : RatchetState P) (index : Nat) :
    (state.afterSkipped index).keyStore =
      { state.keyStore with retained := state.keyStore.retained.eraseIdx index } := by
  simp [keyStore, afterSkipped, List.eraseIdx_map]

theorem keyStore_afterCurrent (state : RatchetState P) (number : UInt32) :
    (state.afterCurrent number).keyStore =
      { state.keyStore with
        receivingChain := chainAt P state.receivingChain (state.gapTo number + 1)
        retained := state.keyStore.retained ++
          nextKeys P state.receivingChain (state.gapTo number) } := by
  simp [keyStore, afterCurrent, skippedTo, keys_skippedEntries]

theorem keyStore_afterExhausted (state : RatchetState P) (number : UInt32) :
    (state.afterExhausted number).keyStore =
      { state.keyStore with
        receivingChain := chainAt P state.receivingChain (state.gapTo number + 1)
        retained := state.keyStore.retained ++ [] } := by
  simp [keyStore, afterExhausted]

theorem keyStore_afterNext (state : RatchetState P) (pair : DhKeyPair P)
    (header : FrameHeader) :
    (state.afterNext pair header).keyStore =
      { rootKey := nextRoot P (state.rootFrom header.ratchetPublic)
          (P.x25519 pair.secret header.ratchetPublic)
        sendingChain := rootChain P (state.rootFrom header.ratchetPublic)
          (P.x25519 pair.secret header.ratchetPublic)
        receivingChain := chainAt P (state.chainFrom header.ratchetPublic)
          (header.messageNumber.toNat + 1)
        retained := state.keyStore.retained ++
            nextKeys P state.receivingChain (state.gapTo header.previousChainLen) ++
          nextKeys P (state.chainFrom header.ratchetPublic) header.messageNumber.toNat } := by
  simp [keyStore, afterNext, skippedTo, keys_skippedEntries]

theorem exists_run_skip_receive (store : KeyStore Key) (count : Nat) {kept : List Key}
    (sublist : kept.Sublist (nextKeys P store.receivingChain count)) :
    ∃ moves, Run (KeyMove P) store moves
        { store with
          receivingChain := chainAt P store.receivingChain (count + 1)
          retained := store.retained ++ kept } ∧
      keysTaken moves = [messageKeyAt P store.receivingChain count] := by
  rw [chainAt_succ]
  exact ⟨_, .cons (.skip store count kept sublist) (.cons (.receive _) (.nil _)), rfl⟩

end RatchetState

namespace RatchetCall

theorem UsesKey.unique {state : RatchetState P} {call : RatchetCall} {key key' : Key}
    (first : UsesKey state call key) (second : UsesKey state call key') : key = key' := by
  cases first with
  | encrypt =>
      cases second
      rfl
  | retained index entry plaintext opens =>
      cases second with
      | retained index' entry' plaintext' opens' =>
          have indices := opens.found.symm.trans opens'.found
          have elements := opens.element
          rw [Option.some.inj indices, opens'.element] at elements
          rw [Option.some.inj elements]
      | current plaintext' opens' =>
          exact absurd opens.passed (Nat.not_lt.mpr opens'.fits.1)
      | next pair plaintext' opens' => exact absurd opens.same opens'.different
  | current plaintext opens =>
      cases second with
      | retained index' entry' plaintext' opens' =>
          exact absurd opens'.passed (Nat.not_lt.mpr opens.fits.1)
      | current => rfl
      | next pair plaintext' opens' => exact absurd opens.same opens'.different
  | next pair plaintext opens =>
      cases second with
      | retained index' entry' plaintext' opens' => exact absurd opens'.same opens.different
      | current plaintext' opens' => exact absurd opens'.same opens.different
      | next => rfl

theorem eq_of_full {count : UInt32} (full : ¬count.toNat + 1 < UInt32.size) :
    count.toNat + 1 = UInt32.size := by
  have bound := count.toNat_lt
  simp only [UInt32.size] at full ⊢
  omega

theorem UsesKey.exists_run {state : RatchetState P} {call : RatchetCall} {key : Key}
    (uses : UsesKey state call key) :
    ∃ moves, Run (KeyMove P) state.keyStore moves (call.after state).keyStore ∧
      keysTaken moves = [key] := by
  cases uses with
  | @encrypt entropy kind plaintext frame sealed =>
      have stored : ((RatchetCall.encrypt entropy kind plaintext).after state).keyStore =
          state.afterEncrypt.keyStore := by
        by_cases room : state.sendingCount.toNat + 1 < UInt32.size
        · rw [after_of_commits (.encrypt frame sealed room)]
        · rw [(result_of_exhausts (.encrypt frame sealed (eq_of_full room))).2]
          rfl
      rw [stored]
      exact ⟨_, .cons (.send state.keyStore) (.nil _), rfl⟩
  | retained index entry plaintext opens =>
      have element : state.keyStore.retained[index]? = some entry.key := by
        simp [RatchetState.keyStore, opens.element]
      rw [after_of_commits (.retained index entry plaintext opens),
        RatchetState.keyStore_afterSkipped]
      exact ⟨_, .cons (.release _ index _ element) (.nil _), rfl⟩
  | @current entropy frame plaintext opens =>
      by_cases room : frame.header.messageNumber.toNat + 1 < UInt32.size
      · rw [after_of_commits (.current plaintext opens room),
          RatchetState.keyStore_afterCurrent]
        exact RatchetState.exists_run_skip_receive state.keyStore _ (List.Sublist.refl _)
      · rw [(result_of_exhausts (.decrypt plaintext opens (eq_of_full room))).2,
          RatchetState.keyStore_afterExhausted]
        exact RatchetState.exists_run_skip_receive state.keyStore _ (List.nil_sublist _)
  | @next entropy frame pair plaintext opens =>
      -- The old chain is passed over, the root steps to the new chain, and after the
      -- message the root steps once more for sending.
      have old := KeyMove.skip (P := P) state.keyStore
        (state.gapTo frame.header.previousChainLen) _ (List.Sublist.refl _)
      have stepped := KeyMove.stepReceiving (P := P)
        { state.keyStore with
          receivingChain := chainAt P state.receivingChain
            (state.gapTo frame.header.previousChainLen)
          retained := state.keyStore.retained ++ nextKeys P state.receivingChain
            (state.gapTo frame.header.previousChainLen) }
        (P.x25519 state.dhPair.secret frame.header.ratchetPublic)
      rcases RatchetState.exists_run_skip_receive (P := P)
        { state.keyStore with
          rootKey := state.rootFrom frame.header.ratchetPublic
          receivingChain := state.chainFrom frame.header.ratchetPublic
          retained := state.keyStore.retained ++ nextKeys P state.receivingChain
            (state.gapTo frame.header.previousChainLen) }
        frame.header.messageNumber.toNat (List.Sublist.refl _) with ⟨moves, run, taken⟩
      rw [after_of_commits (.next pair plaintext opens), RatchetState.keyStore_afterNext]
      refine ⟨_, .cons old (.cons stepped (run.snoc (.stepSending _ _))), ?_⟩
      rw [← taken]
      simp [keysTaken]

/-- Every call refines a run of moves, which takes out just the key the call works
with. -/
theorem exists_keyMoves (call : RatchetCall) (state : RatchetState P) :
    ∃ moves, Run (KeyMove P) state.keyStore moves (call.after state).keyStore ∧
      ∀ key, key ∈ keysTaken moves ↔ UsesKey state call key := by
  by_cases used : ∃ key, UsesKey state call key
  · rcases used with ⟨key, uses⟩
    rcases uses.exists_run with ⟨moves, run, taken⟩
    refine ⟨moves, run, fun other => ?_⟩
    rw [taken, List.mem_singleton]
    constructor
    · intro same
      subst same
      exact uses
    · intro uses'
      exact uses'.unique uses
  · have unused (key : Key) : ¬UsesKey state call key := fun uses => used ⟨key, uses⟩
    have none_iff (key : Key) : key ∈ ([] : List Key) ↔ UsesKey state call key :=
      iff_of_false List.not_mem_nil (unused key)
    cases call.ends state with
    | refused error failed unchanged =>
        rw [unchanged]
        exact ⟨[], .nil _, none_iff⟩
    | exhausts failed moved =>
        generalize call.after state = after at moved
        cases moved with
        | encrypt frame sealed => exact absurd (.encrypt frame sealed) (unused _)
        | decrypt plaintext opens => exact absurd (.current plaintext opens) (unused _)
    | commits reply replied committed =>
        generalize call.after state = after at committed
        cases committed with
        | rotate pair =>
            exact ⟨_, .cons (.stepSending state.keyStore _) (.nil _), none_iff⟩
        | encrypt frame sealed => exact absurd (.encrypt frame sealed) (unused _)
        | retained index entry plaintext opens =>
            exact absurd (.retained index entry plaintext opens) (unused _)
        | current plaintext opens => exact absurd (.current plaintext opens) (unused _)
        | next pair plaintext opens =>
            exact absurd (.next pair plaintext opens) (unused _)

theorem exists_keyMoves_of_run {start final : RatchetState P}
    {transitions : List (Transition (RatchetState P) RatchetCall)}
    (run : Run CallStep start transitions final) :
    ∃ moves, Run (KeyMove P) start.keyStore moves final.keyStore ∧
      ∀ transition ∈ transitions, ∀ key,
        UsesKey transition.current transition.event key → key ∈ keysTaken moves := by
  induction run with
  | nil state => exact ⟨[], .nil _, by simp⟩
  | @cons current call middle rest final step _ induction =>
      rcases induction with ⟨later, laterRun, laterTaken⟩
      rcases call.exists_keyMoves current with ⟨moves, run, taken⟩
      have reached : call.after current = middle := step
      rw [reached] at run
      refine ⟨moves ++ later, run.append laterRun, ?_⟩
      intro transition member key uses
      rw [keysTaken_append, List.mem_append]
      rcases List.mem_cons.mp member with rfl | later
      · exact .inl ((taken key).mpr uses)
      · exact .inr (laterTaken transition later key uses)

end RatchetCall

end Mef26
