import Mathlib.Logic.Function.Iterate
import Mef26.Crypto.Kdf

namespace Mef26

/-! # Ratchet key schedule and bounded skipped-key derivation -/

def ratchetRootLabel : String := "ratchet-root-v1"

def rootChainLabel : String := "ratchet-root-chain-v1"

def chainKeyLabel : String := "ratchet-chain-next-v1"

def messageKeyLabel : String := "ratchet-message-key-v1"

abbrev SkippedKeys (Key : Type) := List (UInt32 × Key)

section Schedule

variable {Key : Type} (P : Primitives Key)

def chainStep (chainKey : Key) : Result (Key × Key) := do
  let next ← deriveSecret P (.ofKey chainKey) chainKeyLabel (.ofBytes [2])
  let messageKey ← deriveAeadKey P (.ofKey chainKey) messageKeyLabel (.ofBytes [1])
  return (next, messageKey)

def rootStep (rootKey dhOutput : Key) : Result (Key × Key) := do
  let nextRoot ← deriveSecret P (.ofKey rootKey) ratchetRootLabel (.ofKey dhOutput)
  let chainKey ← deriveSecret P (.ofKey nextRoot) rootChainLabel (.ofKey dhOutput)
  return (nextRoot, chainKey)

def deriveSteps : (remaining : Nat) → (number : UInt32) → (current : Key) →
    Result (Key × SkippedKeys Key)
  | 0, _, current => .ok (current, [])
  | remaining + 1, number, current => do
      let (next, key) ← chainStep P current
      let (last, skipped) ← deriveSteps remaining (number + 1) next
      return (last, (number, key) :: skipped)

/-- Advances a chain until `endExclusive` and retains the keys on the way, as
long as they fit the skipped-key budget. -/
def deriveRange (chainKey : Key) (start endExclusive : UInt32) (existingSkipped : Nat) :
    Result (Key × SkippedKeys Key) := do
  Outcome.rejectIf (endExclusive < start) .ratchetStateMismatch
  let additional ← subtract32 endExclusive start
  Outcome.rejectIf
    (((checkedAddSize existingSkipped additional.toNat).filter
      fun total => total ≤ maxSkippedKeys).isNone) .skippedKeyLimitExceeded
  deriveSteps P additional.toNat start chainKey

def deriveForMessage (chainKey : Key) (currentCount target : UInt32)
    (existingSkipped : Nat) : Result (Key × Key × SkippedKeys Key) := do
  let (beforeTarget, skipped) ← deriveRange P chainKey currentCount target existingSkipped
  let (nextChain, messageKey) ← chainStep P beforeTarget
  return (nextChain, messageKey, skipped)

/-! ## The schedule as functions -/

def chainNext (chainKey : Key) : Key :=
  P.hkdfSha256 (.ofKey chainKey) (domainLabel "kdf" chainKeyLabel) (.ofBytes [2])

def messageKeyOf (chainKey : Key) : Key :=
  P.hkdfSha256 (.ofKey chainKey) (domainLabel "kdf" messageKeyLabel) (.ofBytes [1])

def nextRoot (rootKey dhOutput : Key) : Key :=
  P.hkdfSha256 (.ofKey rootKey) (domainLabel "kdf" ratchetRootLabel) (.ofKey dhOutput)

def rootChain (rootKey dhOutput : Key) : Key :=
  P.hkdfSha256 (.ofKey (nextRoot P rootKey dhOutput)) (domainLabel "kdf" rootChainLabel)
    (.ofKey dhOutput)

def chainAt (chainKey : Key) (steps : Nat) : Key := (chainNext P)^[steps] chainKey

def messageKeyAt (chainKey : Key) (number : Nat) : Key :=
  messageKeyOf P (chainAt P chainKey number)

@[simp] theorem chainAt_zero (chainKey : Key) : chainAt P chainKey 0 = chainKey := rfl

theorem chainAt_succ (chainKey : Key) (steps : Nat) :
    chainAt P chainKey (steps + 1) = chainNext P (chainAt P chainKey steps) :=
  Function.iterate_succ_apply' (chainNext P) steps chainKey

theorem chainAt_add (chainKey : Key) (first second : Nat) :
    chainAt P chainKey (first + second) = chainAt P (chainAt P chainKey first) second := by
  rw [Nat.add_comm]
  exact Function.iterate_add_apply (chainNext P) second first chainKey

theorem messageKeyAt_chainAt (chainKey : Key) (first second : Nat) :
    messageKeyAt P (chainAt P chainKey first) second =
      messageKeyAt P chainKey (first + second) := by
  rw [messageKeyAt, messageKeyAt, chainAt_add]

@[simp] theorem chainStep_eq (chainKey : Key) :
    chainStep P chainKey = .ok (chainNext P chainKey, messageKeyOf P chainKey) := by
  unfold chainStep
  rw [deriveAeadKey_eq_deriveSecret, deriveSecret_eq P (by decide) (by simp; decide),
    deriveSecret_eq P (by decide) (by simp; decide)]
  rfl

@[simp] theorem rootStep_eq (rootKey dhOutput : Key) :
    rootStep P rootKey dhOutput = .ok (nextRoot P rootKey dhOutput,
      rootChain P rootKey dhOutput) := by
  unfold rootStep
  rw [deriveSecret_eq P (by decide) (by simp; decide), Outcome.ok_bind,
    deriveSecret_eq P (by decide) (by simp; decide)]
  rfl

/-- The keys of `count` consecutive messages of a chain that stands at `start`. -/
def skippedRange (chainKey : Key) (start : UInt32) (count : Nat) : SkippedKeys Key :=
  (List.range count).map fun offset =>
    (start + .ofNat offset, messageKeyAt P chainKey offset)

@[simp] theorem length_skippedRange (chainKey : Key) (start : UInt32) (count : Nat) :
    (skippedRange P chainKey start count).length = count := by
  simp [skippedRange]

theorem skippedRange_succ (chainKey : Key) (start : UInt32) (count : Nat) :
    skippedRange P chainKey start (count + 1) =
      (start, messageKeyOf P chainKey) ::
        skippedRange P (chainNext P chainKey) (start + 1) count := by
  simp only [skippedRange, List.range_succ_eq_map, List.map_cons, List.map_map]
  congr 1
  · simp [messageKeyAt]
  · apply List.map_congr_left
    intro offset _
    have shifted : messageKeyAt P (chainNext P chainKey) offset =
        messageKeyAt P chainKey (offset + 1) := by
      rw [Nat.add_comm]
      exact messageKeyAt_chainAt P chainKey 1 offset
    simp only [Function.comp_apply, Nat.succ_eq_add_one, shifted, UInt32.ofNat_add,
      Prod.mk.injEq, and_true]
    rw [UInt32.add_assoc, UInt32.add_comm 1]
    rfl

theorem deriveSteps_eq (remaining : Nat) (number : UInt32) (current : Key) :
    deriveSteps P remaining number current =
      .ok (chainAt P current remaining, skippedRange P current number remaining) := by
  induction remaining generalizing number current with
  | zero => rfl
  | succ remaining induction =>
      simp only [deriveSteps, chainStep_eq, Outcome.ok_bind, induction,
        skippedRange_succ, Outcome.pure_eq_ok]
      rfl

/-- Whether a range fits: it does not run backwards and stays in the budget. -/
def WithinBudget (start endExclusive : UInt32) (existingSkipped : Nat) : Prop :=
  start.toNat ≤ endExclusive.toNat ∧
    existingSkipped + (endExclusive.toNat - start.toNat) ≤ maxSkippedKeys

variable {P}

theorem deriveRange_of_le {chainKey : Key} {start endExclusive : UInt32}
    {existingSkipped : Nat} (fits : WithinBudget start endExclusive existingSkipped) :
    deriveRange P chainKey start endExclusive existingSkipped =
      .ok (chainAt P chainKey (endExclusive.toNat - start.toNat),
        skippedRange P chainKey start (endExclusive.toNat - start.toNat)) := by
  rcases fits with ⟨ordered, budget⟩
  have orderedWords : start ≤ endExclusive := UInt32.le_iff_toNat_le.mpr ordered
  have distance := UInt32.toNat_sub_of_le _ _ orderedWords
  have small : existingSkipped + (endExclusive.toNat - start.toNat) < 2 ^ 64 :=
    Nat.lt_of_le_of_lt budget (by decide)
  unfold deriveRange
  rw [Outcome.rejectIf_of_not _ (UInt32.not_lt.mpr orderedWords), Outcome.ok_bind,
    subtract32, if_pos orderedWords, Outcome.ok_bind, distance, checkedAddSize,
    if_pos small, Outcome.rejectIf_of_not _ (by simp [budget]), Outcome.ok_bind,
    deriveSteps_eq]

theorem checkedAddSize_of_le {first second : Nat}
    (fits : first + second ≤ maxSkippedKeys) :
    checkedAddSize first second = some (first + second) :=
  if_pos (Nat.lt_of_le_of_lt fits (by decide))

theorem deriveRange_of_lt {chainKey : Key} {start endExclusive : UInt32}
    {existingSkipped : Nat} (backwards : endExclusive.toNat < start.toNat) :
    deriveRange P chainKey start endExclusive existingSkipped =
      .err .ratchetStateMismatch := by
  unfold deriveRange
  rw [Outcome.rejectIf_of _ (UInt32.lt_iff_toNat_lt.mpr backwards)]
  rfl

/-- A range past the budget is refused before any key is derived. -/
theorem deriveRange_of_budget {chainKey : Key} {start endExclusive : UInt32}
    {existingSkipped : Nat} (ordered : start.toNat ≤ endExclusive.toNat)
    (exceeds : maxSkippedKeys < existingSkipped + (endExclusive.toNat - start.toNat)) :
    deriveRange P chainKey start endExclusive existingSkipped =
      .err .skippedKeyLimitExceeded := by
  have orderedWords : start ≤ endExclusive := UInt32.le_iff_toNat_le.mpr ordered
  have distance := UInt32.toNat_sub_of_le _ _ orderedWords
  unfold deriveRange
  rw [Outcome.rejectIf_of_not _ (UInt32.not_lt.mpr orderedWords), Outcome.ok_bind,
    subtract32, if_pos orderedWords, Outcome.ok_bind, distance]
  have refused : ((checkedAddSize existingSkipped
      (endExclusive.toNat - start.toNat)).filter
        fun total => total ≤ maxSkippedKeys).isNone := by
    unfold checkedAddSize
    split
    · simp [Option.filter, Nat.not_le.mpr exceeds]
    · rfl
  rw [Outcome.rejectIf_of _ refused]
  rfl

theorem deriveRange_eq_ok {chainKey : Key} {start endExclusive : UInt32}
    {existingSkipped : Nat} {result : Key × SkippedKeys Key} :
    deriveRange P chainKey start endExclusive existingSkipped = .ok result ↔
      WithinBudget start endExclusive existingSkipped ∧
      result = (chainAt P chainKey (endExclusive.toNat - start.toNat),
        skippedRange P chainKey start (endExclusive.toNat - start.toNat)) := by
  by_cases ordered : start.toNat ≤ endExclusive.toNat
  · by_cases budget : existingSkipped + (endExclusive.toNat - start.toNat) ≤ maxSkippedKeys
    · rw [deriveRange_of_le ⟨ordered, budget⟩, Outcome.ok.injEq, eq_comm]
      simp [WithinBudget, ordered, budget]
    · rw [deriveRange_of_budget ordered (Nat.not_le.mp budget)]
      simp [WithinBudget, budget]
  · rw [deriveRange_of_lt (Nat.not_le.mp ordered)]
    simp [WithinBudget, ordered]

theorem deriveForMessage_eq_ok {chainKey : Key} {currentCount target : UInt32}
    {existingSkipped : Nat} {result : Key × Key × SkippedKeys Key} :
    deriveForMessage P chainKey currentCount target existingSkipped = .ok result ↔
      WithinBudget currentCount target existingSkipped ∧
      result = (chainAt P chainKey (target.toNat - currentCount.toNat + 1),
        messageKeyAt P chainKey (target.toNat - currentCount.toNat),
        skippedRange P chainKey currentCount (target.toNat - currentCount.toNat)) := by
  simp only [deriveForMessage, Outcome.bind_eq_ok, deriveRange_eq_ok, chainStep_eq,
    Outcome.ok.injEq, Outcome.pure_eq_ok, chainAt_succ, messageKeyAt]
  constructor
  · intro returned
    rcases returned with ⟨_, ⟨fits, rfl⟩, _, rfl, rfl⟩
    exact ⟨fits, rfl⟩
  · intro holds
    rcases holds with ⟨fits, rfl⟩
    exact ⟨_, ⟨fits, rfl⟩, _, rfl, rfl⟩

theorem deriveForMessage_of_fits (chainKey : Key) {currentCount target : UInt32}
    {existingSkipped : Nat} (fits : WithinBudget currentCount target existingSkipped) :
    deriveForMessage P chainKey currentCount target existingSkipped =
      .ok (chainAt P chainKey (target.toNat - currentCount.toNat + 1),
        messageKeyAt P chainKey (target.toNat - currentCount.toNat),
        skippedRange P chainKey currentCount (target.toNat - currentCount.toNat)) :=
  deriveForMessage_eq_ok.mpr ⟨fits, rfl⟩

theorem deriveForMessage_from_zero (chainKey : Key) {target : UInt32}
    {existingSkipped : Nat} (fits : existingSkipped + target.toNat ≤ maxSkippedKeys) :
    deriveForMessage P chainKey 0 target existingSkipped =
      .ok (chainAt P chainKey (target.toNat + 1), messageKeyAt P chainKey target.toNat,
        skippedRange P chainKey 0 target.toNat) :=
  deriveForMessage_of_fits chainKey ⟨Nat.zero_le _, fits⟩

theorem deriveForMessage_of_budget (chainKey : Key) {currentCount target : UInt32}
    {existingSkipped : Nat} (ordered : currentCount.toNat ≤ target.toNat)
    (exceeds : maxSkippedKeys < existingSkipped + (target.toNat - currentCount.toNat)) :
    deriveForMessage P chainKey currentCount target existingSkipped =
      .err .skippedKeyLimitExceeded := by
  rw [deriveForMessage, deriveRange_of_budget ordered exceeds, Outcome.err_bind]

theorem deriveForMessage_over_zero (chainKey : Key) {target : UInt32}
    {existingSkipped : Nat} (exceeds : maxSkippedKeys < existingSkipped + target.toNat) :
    deriveForMessage P chainKey 0 target existingSkipped =
      .err .skippedKeyLimitExceeded :=
  deriveForMessage_of_budget chainKey (Nat.zero_le _) exceeds

theorem deriveRange_ne_panic (chainKey : Key) (start endExclusive : UInt32)
    (existingSkipped : Nat) :
    deriveRange P chainKey start endExclusive existingSkipped ≠ .panic := by
  by_cases ordered : start.toNat ≤ endExclusive.toNat
  · by_cases budget : existingSkipped + (endExclusive.toNat - start.toNat) ≤ maxSkippedKeys
    · simp [deriveRange_of_le ⟨ordered, budget⟩]
    · simp [deriveRange_of_budget ordered (Nat.not_le.mp budget)]
  · simp [deriveRange_of_lt (Nat.not_le.mp ordered)]

end Schedule

end Mef26
