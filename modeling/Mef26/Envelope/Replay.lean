import Mathlib.Data.List.Nodup
import Mef26.Crypto.Concrete
import Mef26.Envelope.Outer
import Mef26.Foundation.Execution

namespace Mef26

/-! # Replay rejection at the recipient -/

/-- A bounded cache of accepted identifiers with their expiry times. No cache has room
for nothing. -/
structure ReplayCache where
  capacity : Nat
  entries : List (TransportMessageId × UInt64)
  capacity_ne : capacity ≠ 0

namespace ReplayCache

def new (capacity : Nat) : Result ReplayCache :=
  if capacity_ne : capacity ≠ 0 then
    .ok { capacity, entries := [], capacity_ne }
  else
    .err .invalidLength

def purge (nowUnix : UInt64) (cache : ReplayCache) : ReplayCache :=
  { cache with entries := cache.entries.filter fun entry => entry.2 ≥ nowUnix }

def push (entry : TransportMessageId × UInt64) (cache : ReplayCache) : ReplayCache :=
  { cache with entries := cache.entries ++ [entry] }

def checkAndInsert (messageId : TransportMessageId) (expiresAtUnix nowUnix : UInt64) :
    Update ReplayCache MefError PUnit := do
  Update.modify (purge nowUnix)
  let cache ← Update.read
  Outcome.rejectIf (cache.entries.any fun entry => entry.1 = messageId) MefError.replayDetected
  Outcome.rejectIf (cache.entries.length ≥ cache.capacity) MefError.invalidState
  Update.modify (push (messageId, expiresAtUnix))

theorem any_entry_iff {messageId : TransportMessageId}
    {entries : List (TransportMessageId × UInt64)} :
    (entries.any fun entry => entry.1 = messageId) = true ↔
      messageId ∈ entries.map Prod.fst := by
  simp

theorem checkAndInsert_apply (messageId : TransportMessageId)
    (expiresAtUnix nowUnix : UInt64) (cache : ReplayCache) :
    checkAndInsert messageId expiresAtUnix nowUnix cache =
      if messageId ∈ (cache.purge nowUnix).entries.map Prod.fst then
        (.err .replayDetected, cache.purge nowUnix)
      else if cache.capacity ≤ (cache.purge nowUnix).entries.length then
        (.err .invalidState, cache.purge nowUnix)
      else
        (.ok ⟨⟩, (cache.purge nowUnix).push (messageId, expiresAtUnix)) := by
  rw [checkAndInsert, Update.modify_bind_apply, Update.read_bind_apply,
    Update.lift_bind_apply]
  by_cases known : messageId ∈ (cache.purge nowUnix).entries.map Prod.fst
  · rw [if_pos known, Outcome.rejectIf_of _ (any_entry_iff.mpr known)]
  · rw [if_neg known, Outcome.rejectIf_of_not _ (mt any_entry_iff.mp known)]
    simp only [Update.lift_bind_apply]
    by_cases full : (cache.purge nowUnix).entries.length ≥ (cache.purge nowUnix).capacity
    · rw [if_pos (show cache.capacity ≤ _ from full), Outcome.rejectIf_of _ full]
    · rw [if_neg (show ¬cache.capacity ≤ _ from full), Outcome.rejectIf_of_not _ full]
      rfl

def Admits (cache : ReplayCache) (messageId : TransportMessageId) (nowUnix : UInt64) : Prop :=
  messageId ∉ (cache.purge nowUnix).entries.map Prod.fst ∧
    (cache.purge nowUnix).entries.length < cache.capacity

theorem purge_sublist (cache : ReplayCache) {nowUnix later : UInt64}
    (ordered : nowUnix ≤ later) :
    (cache.purge later).entries.Sublist (cache.purge nowUnix).entries := by
  apply List.monotone_filter_right
  intro entry kept
  exact decide_eq_true (UInt64.le_trans ordered (of_decide_eq_true kept))

theorem Admits.mono {cache : ReplayCache} {messageId : TransportMessageId}
    {nowUnix later : UInt64} (admits : cache.Admits messageId nowUnix)
    (ordered : nowUnix ≤ later) : cache.Admits messageId later := by
  have left := cache.purge_sublist ordered
  refine ⟨?_, Nat.lt_of_le_of_lt left.length_le admits.2⟩
  intro known
  exact admits.1 ((left.map Prod.fst).subset known)

end ReplayCache

variable {Key : Type} (P : Primitives Key)

/-- Opens one inner frame and records the identifier against replay. -/
def OuterEnvelope.openInnerOnce (envelope : OuterEnvelope)
    (recipientDeliverySecret : DhSecretKey) (nowUnix : UInt64) :
    Update ReplayCache MefError InnerFrame := do
  let frame ← envelope.openInner P recipientDeliverySecret nowUnix
  ReplayCache.checkAndInsert envelope.messageId envelope.expiresAtUnix nowUnix
  return frame

/-! ## One call -/

/-- One call of `openInnerOnce`, on any envelope at any time. -/
structure Opening where
  envelope : OuterEnvelope
  secret : DhSecretKey
  nowUnix : UInt64

namespace Opening

def entry (opening : Opening) : TransportMessageId × UInt64 :=
  (opening.envelope.messageId, opening.envelope.expiresAtUnix)

def result (opening : Opening) (cache : ReplayCache) : Result InnerFrame :=
  (opening.envelope.openInnerOnce P opening.secret opening.nowUnix cache).1

def after (opening : Opening) (cache : ReplayCache) : ReplayCache :=
  (opening.envelope.openInnerOnce P opening.secret opening.nowUnix cache).2

def Checks (opening : Opening) : Prop :=
  ∃ frame, opening.envelope.openInner P opening.secret opening.nowUnix = .ok frame

variable {P}

/-- How a call ends: the envelope does not open, its identifier is known, the cache is
full, or it is accepted. -/
inductive Ends (opening : Opening) (cache : ReplayCache) : Prop
  | closed (unchecked : ¬opening.Checks P)
      (failed : ∀ frame, opening.result P cache ≠ .ok frame)
      (unchanged : opening.after P cache = cache)
  | replayed (checks : opening.Checks P)
      (known : opening.entry.1 ∈ (cache.purge opening.nowUnix).entries.map Prod.fst)
      (failed : opening.result P cache = .err .replayDetected)
      (purged : opening.after P cache = cache.purge opening.nowUnix)
  | full (checks : opening.Checks P)
      (failed : opening.result P cache = .err .invalidState)
      (purged : opening.after P cache = cache.purge opening.nowUnix)
  | accepted (frame : InnerFrame) (checks : opening.Checks P)
      (new : opening.entry.1 ∉ (cache.purge opening.nowUnix).entries.map Prod.fst)
      (room : (cache.purge opening.nowUnix).entries.length < cache.capacity)
      (opened : opening.result P cache = .ok frame)
      (recorded : opening.after P cache =
        (cache.purge opening.nowUnix).push opening.entry)

theorem openInnerOnce_of_checked {opening : Opening} {frame : InnerFrame}
    (opened : opening.envelope.openInner P opening.secret opening.nowUnix = .ok frame)
    (cache : ReplayCache) :
    opening.envelope.openInnerOnce P opening.secret opening.nowUnix cache =
      match ReplayCache.checkAndInsert opening.entry.1 opening.entry.2 opening.nowUnix cache with
      | (.ok _, after) => (.ok frame, after)
      | (.err error, after) => (.err error, after)
      | (.panic, after) => (.panic, after) := by
  simp only [OuterEnvelope.openInnerOnce, Update.lift_bind_apply, opened]
  rw [Update.bind_apply]
  simp only [entry]
  rcases ReplayCache.checkAndInsert opening.envelope.messageId
    opening.envelope.expiresAtUnix opening.nowUnix cache with ⟨_ | _ | _, after⟩ <;> rfl

theorem ends (opening : Opening) (cache : ReplayCache) : opening.Ends (P := P) cache := by
  cases opened : opening.envelope.openInner P opening.secret opening.nowUnix with
  | panic => exact absurd opened (OuterEnvelope.openInner_ne_panic _ _ _)
  | err error =>
      have call : opening.envelope.openInnerOnce P opening.secret opening.nowUnix cache =
          (.err error, cache) := by
        rw [OuterEnvelope.openInnerOnce, Update.lift_bind_apply, opened]
      apply Ends.closed
      · intro checks
        rcases checks with ⟨frame, checked⟩
        rw [opened] at checked
        cases checked
      · intro frame replied
        rw [result, call] at replied
        cases replied
      · exact congrArg Prod.snd call
  | ok frame =>
      have checks : opening.Checks P := ⟨frame, opened⟩
      have call := openInnerOnce_of_checked opened cache
      rw [ReplayCache.checkAndInsert_apply] at call
      by_cases known : opening.entry.1 ∈
          (cache.purge opening.nowUnix).entries.map Prod.fst
      · rw [if_pos known] at call
        exact .replayed checks known (congrArg Prod.fst call) (congrArg Prod.snd call)
      · rw [if_neg known] at call
        by_cases full : cache.capacity ≤ (cache.purge opening.nowUnix).entries.length
        · rw [if_pos full] at call
          exact .full checks (congrArg Prod.fst call) (congrArg Prod.snd call)
        · rw [if_neg full] at call
          exact .accepted frame checks known (Nat.not_le.mp full) (congrArg Prod.fst call)
            (congrArg Prod.snd call)

theorem checks_of_result {opening : Opening} {cache : ReplayCache} {frame : InnerFrame}
    (opened : opening.result P cache = .ok frame) :
    opening.envelope.openInner P opening.secret opening.nowUnix = .ok frame ∧
      cache.Admits opening.entry.1 opening.nowUnix := by
  cases opening.ends (P := P) cache with
  | closed _ failed => exact absurd opened (failed frame)
  | replayed _ _ failed | full _ failed =>
      rw [failed] at opened
      cases opened
  | accepted frame' checks new room opened' _ =>
      refine ⟨?_, new, room⟩
      rcases checks with ⟨checked, opens⟩
      have call := congrArg Prod.fst (openInnerOnce_of_checked opens cache)
      rw [ReplayCache.checkAndInsert_apply, if_neg new, if_neg (Nat.not_le.mpr room)] at call
      rw [opens, ← opened]
      exact call.symm

theorem result_of_admitted {opening : Opening} {cache : ReplayCache} {frame : InnerFrame}
    (opens : opening.envelope.openInner P opening.secret opening.nowUnix = .ok frame)
    (admits : cache.Admits opening.entry.1 opening.nowUnix) :
    opening.result P cache = .ok frame := by
  have call := congrArg Prod.fst (openInnerOnce_of_checked opens cache)
  rwa [ReplayCache.checkAndInsert_apply, if_neg admits.1,
    if_neg (Nat.not_le.mpr admits.2)] at call

end Opening

/-! ## Runs of calls -/

variable {P}

variable (P) in
def OpeningStep (cache : ReplayCache) (opening : Opening) (next : ReplayCache) : Prop :=
  opening.after P cache = next

namespace Opening

variable (P) in
def Accepted (transition : Transition ReplayCache Opening) : Prop :=
  ∃ frame, transition.event.result P transition.current = .ok frame

variable (P) in
/-- An entry that was accepted and that no check since then has seen as expired. -/
def Live (past : List (Transition ReplayCache Opening))
    (entry : TransportMessageId × UInt64) : Prop :=
  Run.Since
    (fun transition => Accepted P transition ∧ transition.event.entry = entry)
    (fun transition => transition.event.Checks P → transition.event.nowUnix ≤ entry.2) past

end Opening

variable (P) in
/-- What the cache guarantees of a run that starts with an empty one. -/
structure RejectsReplays (capacity : Nat) (transitions : List (Transition ReplayCache Opening))
    (final : ReplayCache) : Prop where
  entries (entry : TransportMessageId × UInt64) :
    entry ∈ final.entries ↔ Opening.Live P transitions entry
  distinct : (final.entries.map Prod.fst).Nodup
  bounded : final.entries.length ≤ capacity
  untouched : ∀ transition ∈ transitions,
    (∀ frame, transition.event.envelope.openInner P transition.event.secret
      transition.event.nowUnix ≠ .ok frame) → transition.next = transition.current
  /-- Between two acceptances of one envelope a check saw it as expired. -/
  expired (before : List (Transition ReplayCache Opening))
    (first : Transition ReplayCache Opening) (middle : List (Transition ReplayCache Opening))
    (second : Transition ReplayCache Opening)
    (after : List (Transition ReplayCache Opening)) :
    transitions = before ++ first :: middle ++ second :: after →
    first.event.envelope = second.event.envelope →
    Opening.Accepted P first → Opening.Accepted P second →
    ∃ between ∈ middle ++ [second], between.event.Checks P ∧
      first.event.envelope.expiresAtUnix < between.event.nowUnix
  once : transitions.Pairwise (fun first second =>
      first.event.nowUnix ≤ second.event.nowUnix) →
    transitions.Pairwise fun first second => Opening.Accepted P first →
      Opening.Accepted P second → first.event.envelope ≠ second.event.envelope

namespace Opening

theorem Checks.le_expiry {opening : Opening} (checks : opening.Checks P) :
    opening.nowUnix ≤ opening.envelope.expiresAtUnix := by
  rcases checks with ⟨frame, opened⟩
  rcases OuterEnvelope.openInner_eq_ok.mp opened with ⟨_, opened, _⟩
  exact (OuterEnvelope.openEnvelope_eq_ok.mp opened).1

structure Stands (P : Primitives Key) (capacity : Nat)
    (past : List (Transition ReplayCache Opening)) (cache : ReplayCache) : Prop where
  limit : cache.capacity = capacity
  entries (entry : TransportMessageId × UInt64) : entry ∈ cache.entries ↔ Live P past entry
  distinct : (cache.entries.map Prod.fst).Nodup
  bounded : cache.entries.length ≤ capacity

theorem Stands.initial {capacity : Nat} {cache : ReplayCache}
    (created : ReplayCache.new capacity = .ok cache) : Stands P capacity [] cache := by
  unfold ReplayCache.new at created
  split at created
  · cases created
    constructor
    · rfl
    · intro entry
      exact iff_of_false List.not_mem_nil Run.since_nil
    · exact List.nodup_nil
    · exact Nat.zero_le _
  · cases created

theorem mem_purge {cache : ReplayCache} {nowUnix : UInt64}
    {entry : TransportMessageId × UInt64} :
    entry ∈ (cache.purge nowUnix).entries ↔ entry ∈ cache.entries ∧ nowUnix ≤ entry.2 := by
  simp [ReplayCache.purge]

theorem nodup_purge {cache : ReplayCache} (distinct : (cache.entries.map Prod.fst).Nodup)
    (nowUnix : UInt64) : ((cache.purge nowUnix).entries.map Prod.fst).Nodup :=
  distinct.sublist (List.filter_sublist.map _)

theorem length_purge_le (cache : ReplayCache) (nowUnix : UInt64) :
    (cache.purge nowUnix).entries.length ≤ cache.entries.length :=
  List.length_filter_le _ _

theorem Stands.purged {capacity : Nat} {past : List (Transition ReplayCache Opening)}
    {transition : Transition ReplayCache Opening}
    (stands : Stands P capacity past transition.current)
    (checks : transition.event.Checks P) (refused : ¬Accepted P transition)
    (next : transition.next = transition.current.purge transition.event.nowUnix) :
    Stands P capacity (past ++ [transition]) transition.next := by
  rw [next]
  constructor
  · exact stands.limit
  · intro entry
    rw [mem_purge, stands.entries, Live, Live, Run.since_snoc]
    simp [refused, checks]
  · exact nodup_purge stands.distinct _
  · exact Nat.le_trans (length_purge_le _ _) stands.bounded

theorem Stands.snoc {capacity : Nat} {past : List (Transition ReplayCache Opening)}
    {transition : Transition ReplayCache Opening}
    (stands : Stands P capacity past transition.current)
    (step : OpeningStep P transition.current transition.event transition.next) :
    Stands P capacity (past ++ [transition]) transition.next := by
  have reached : transition.event.after P transition.current = transition.next := step
  cases transition.event.ends (P := P) transition.current with
  | closed unchecked failed unchanged =>
      have refused : ¬Accepted P transition := fun accepted => accepted.elim failed
      rw [← reached, unchanged]
      constructor
      · exact stands.limit
      · intro entry
        rw [stands.entries, Live, Live, Run.since_snoc]
        simp [refused, unchecked]
      · exact stands.distinct
      · exact stands.bounded
  | replayed checks known failed purged =>
      apply stands.purged checks _ (reached.symm.trans purged)
      intro accepted
      rcases accepted with ⟨frame, opened⟩
      rw [failed] at opened
      cases opened
  | full checks failed purged =>
      apply stands.purged checks _ (reached.symm.trans purged)
      intro accepted
      rcases accepted with ⟨frame, opened⟩
      rw [failed] at opened
      cases opened
  | accepted frame checks new room opened recorded =>
      have accepted : Accepted P transition := ⟨frame, opened⟩
      rw [← reached, recorded]
      constructor
      · exact stands.limit
      · intro entry
        rw [ReplayCache.push, List.mem_append, mem_purge, stands.entries, Live, Live,
          Run.since_snoc]
        simp [accepted, checks, eq_comm]
      · rw [ReplayCache.push, List.map_append, List.nodup_append]
        refine ⟨nodup_purge stands.distinct _, List.nodup_singleton _, ?_⟩
        intro earlier member last single same
        rw [List.map_singleton, List.mem_singleton] at single
        rw [same, single] at member
        exact new member
      · rw [ReplayCache.push, List.length_append, List.length_singleton]
        rw [stands.limit] at room
        exact room

theorem Stands.of_run {capacity : Nat} {cache final : ReplayCache}
    (created : ReplayCache.new capacity = .ok cache)
    {transitions : List (Transition ReplayCache Opening)}
    (run : Run (OpeningStep P) cache transitions final) : Stands P capacity transitions final := by
  apply run.history (Stands.initial created)
  intro before transition after _ _ step stands
  exact stands.snoc step

theorem Stands.not_accepted {capacity : Nat} {past : List (Transition ReplayCache Opening)}
    {transition : Transition ReplayCache Opening}
    (stands : Stands P capacity past transition.current)
    (live : Live P past transition.event.entry) : ¬Accepted P transition := by
  intro accepted
  rcases accepted with ⟨frame, opened⟩
  cases transition.event.ends (P := P) transition.current with
  | closed unchecked failed unchanged => exact failed frame opened
  | replayed checks known failed purged =>
      rw [failed] at opened
      cases opened
  | full checks failed purged =>
      rw [failed] at opened
      cases opened
  | accepted frame' checks new room opened' recorded =>
      apply new
      apply List.mem_map_of_mem
      exact mem_purge.mpr ⟨(stands.entries _).mpr live, checks.le_expiry⟩

theorem checks_of_accepted {transition : Transition ReplayCache Opening}
    (accepted : Accepted P transition) : transition.event.Checks P := by
  rcases accepted with ⟨frame, opened⟩
  cases transition.event.ends (P := P) transition.current with
  | closed unchecked failed unchanged => exact absurd opened (failed frame)
  | replayed checks | full checks | accepted _ checks => exact checks

end Opening

/-- A cache rejects replays over every run of calls, on any envelopes and under any
clock. -/
theorem run_rejectsReplays {Key : Type} {P : Primitives Key} {capacity : Nat}
    {cache final : ReplayCache} (created : ReplayCache.new capacity = .ok cache)
    {transitions : List (Transition ReplayCache Opening)}
    (run : Run (OpeningStep P) cache transitions final) :
    RejectsReplays P capacity transitions final := by
  have stands := Opening.Stands.of_run created run
  have expired (before : List (Transition ReplayCache Opening))
      (first : Transition ReplayCache Opening)
      (middle : List (Transition ReplayCache Opening))
      (second : Transition ReplayCache Opening)
      (after : List (Transition ReplayCache Opening))
      (split : transitions = before ++ first :: middle ++ second :: after)
      (same : first.event.envelope = second.event.envelope)
      (firstAccepted : Opening.Accepted P first) (secondAccepted : Opening.Accepted P second) :
      ∃ between ∈ middle ++ [second], between.event.Checks P ∧
        first.event.envelope.expiresAtUnix < between.event.nowUnix := by
    by_contra quiet
    push Not at quiet
    rw [split] at run
    have here := Opening.Stands.of_run created run.around.1
    apply here.not_accepted _ secondAccepted
    refine ⟨before, first, middle, rfl, ⟨firstAccepted, ?_⟩, ?_⟩
    · rw [Opening.entry, Opening.entry, same]
    · intro later member checks
      have kept := quiet later (List.mem_append_left _ member) checks
      rw [Opening.entry, ← same]
      exact UInt64.not_lt.mp kept
  constructor
  · exact stands.entries
  · exact stands.distinct
  · exact stands.bounded
  · intro transition member closed
    have step : transition.event.after P transition.current = transition.next :=
      run.step_of_mem member
    have unchecked : ¬transition.event.Checks P := fun checks => checks.elim closed
    cases transition.event.ends (P := P) transition.current with
    | closed _ _ unchanged => rw [← step, unchanged]
    | replayed checks | full checks | accepted _ checks => exact absurd checks unchecked
  · exact expired
  · intro clock
    apply Run.pairwise_of_before
    intro before second after split first member firstAccepted secondAccepted same
    rcases List.append_of_mem member with ⟨earlier, middle, rfl⟩
    rcases expired earlier first middle second after split same firstAccepted secondAccepted
      with ⟨between, inside, _, passed⟩
    have ordered : between.event.nowUnix ≤ second.event.nowUnix := by
      rcases List.mem_append.mp inside with early | last
      · rw [split] at clock
        exact (List.pairwise_append.mp clock).2.2 between
          (List.mem_append_right _ (List.mem_cons_of_mem _ early)) second
          (List.mem_cons_self ..)
      · rw [List.mem_singleton.mp last]
        exact UInt64.le_refl _
    have fresh := (Opening.checks_of_accepted secondAccepted).le_expiry
    rw [← same] at fresh
    exact UInt64.not_lt.mpr (UInt64.le_trans ordered fresh) passed

def sampleEnvelope : OuterEnvelope where
  mailbox := .replicate 32 9
  messageId := .replicate 16 5
  expiresAtUnix := 100
  senderEphemeral := .replicate 32 6
  ciphertext := {
    suite := .xChaCha20Poly1305
    nonce := List.replicate 24 0
    body := (InnerFrame.empty (.replicate 32 1) 0 0 0).wireBytes ++ 10 :: List.replicate 15 0
    nonce_length := InnerFrame.length_zeroNonce
    tag_le_body := by decide +kernel
    body_le_limit := by decide +kernel }
  suite_eq := rfl

def sampleOpening : Opening := ⟨sampleEnvelope, .replicate 32 1, 100⟩

def emptyCache : ReplayCache := ⟨1, [], by decide⟩

example : (sampleOpening.after Primitives.concrete emptyCache).entries =
    [(.replicate 16 5, 100)] := by
  decide +kernel

theorem run_rejectsReplays_twice :
    RejectsReplays Primitives.concrete 1
      [⟨emptyCache, sampleOpening, sampleOpening.after Primitives.concrete emptyCache⟩,
        ⟨sampleOpening.after Primitives.concrete emptyCache, sampleOpening,
          sampleOpening.after Primitives.concrete
            (sampleOpening.after Primitives.concrete emptyCache)⟩]
      (sampleOpening.after Primitives.concrete
        (sampleOpening.after Primitives.concrete emptyCache)) :=
  run_rejectsReplays rfl (.cons rfl (.cons rfl (.nil _)))

end Mef26
