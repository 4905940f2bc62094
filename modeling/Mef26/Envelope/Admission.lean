import Mef26.Envelope.Replay
import Mef26.Foundation.Expiring

namespace Mef26

/-! # What the replay cache answers

Under a clock that does not run backwards the answer to an envelope depends on the
entries accepted before it alone, on those of them that have not expired. -/

variable {Key : Type} {P : Primitives Key}

open Expiring

theorem ReplayCache.purge_entries (cache : ReplayCache) (nowUnix : UInt64) :
    (cache.purge nowUnix).entries = due nowUnix cache.entries := rfl

namespace Opening

variable (P) in
def acceptedEntry (transition : Transition ReplayCache Opening) :
    Option (TransportMessageId × UInt64) :=
  match transition.event.result P transition.current with
  | .ok _ => some transition.event.entry
  | .err _ | .panic => none

variable (P) in
/-- The answer to an envelope, given the entries accepted before. -/
def answer (capacity : Nat) (accepted : List (TransportMessageId × UInt64))
    (opening : Opening) : Result InnerFrame := do
  let frame ← opening.envelope.openInner P opening.secret opening.nowUnix
  Outcome.rejectIf (opening.entry.1 ∈ (due opening.nowUnix accepted).map Prod.fst)
    .replayDetected
  Outcome.rejectIf (capacity ≤ (due opening.nowUnix accepted).length) .invalidState
  return frame

theorem answer_of_opened {capacity : Nat} {accepted : List (TransportMessageId × UInt64)}
    {opening : Opening} {frame : InnerFrame}
    (opened : opening.envelope.openInner P opening.secret opening.nowUnix = .ok frame) :
    opening.answer P capacity accepted =
      if opening.entry.1 ∈ (due opening.nowUnix accepted).map Prod.fst then
        .err .replayDetected
      else if capacity ≤ (due opening.nowUnix accepted).length then
        .err .invalidState
      else
        .ok frame := by
  rw [answer, opened, Outcome.ok_bind]
  by_cases known : opening.entry.1 ∈ (due opening.nowUnix accepted).map Prod.fst
  · rw [if_pos known, Outcome.rejectIf_of _ known]
    rfl
  · rw [if_neg known, Outcome.rejectIf_of_not _ known, Outcome.ok_bind]
    by_cases full : capacity ≤ (due opening.nowUnix accepted).length
    · rw [if_pos full, Outcome.rejectIf_of _ full]
      rfl
    · rw [if_neg full, Outcome.rejectIf_of_not _ full]
      rfl

theorem answer_of_closed {capacity : Nat} {accepted : List (TransportMessageId × UInt64)}
    {opening : Opening} {error : MefError}
    (closed : opening.envelope.openInner P opening.secret opening.nowUnix = .err error) :
    opening.answer P capacity accepted = .err error := by
  rw [answer, closed]
  rfl

theorem result_eq_answer (opening : Opening) (cache : ReplayCache) :
    opening.result P cache = opening.answer P cache.capacity cache.entries := by
  cases opened : opening.envelope.openInner P opening.secret opening.nowUnix with
  | ok frame =>
      have call := congrArg Prod.fst (openInnerOnce_of_checked opened cache)
      rw [ReplayCache.checkAndInsert_apply, ReplayCache.purge_entries] at call
      rw [result, call, answer_of_opened opened]
      by_cases known : opening.entry.1 ∈ (due opening.nowUnix cache.entries).map Prod.fst
      · rw [if_pos known, if_pos known]
      · rw [if_neg known, if_neg known]
        by_cases full : cache.capacity ≤ (due opening.nowUnix cache.entries).length
        · rw [if_pos full, if_pos full]
        · rw [if_neg full, if_neg full]
  | err error =>
      rw [answer_of_closed opened, result, OuterEnvelope.openInnerOnce,
        Update.lift_bind_apply, opened]
  | panic => exact absurd opened (OuterEnvelope.openInner_ne_panic _ _ _)

theorem result_ne_panic (opening : Opening) (cache : ReplayCache) :
    opening.result P cache ≠ .panic := by
  rw [result_eq_answer]
  apply Outcome.bind_ne_panic (OuterEnvelope.openInner_ne_panic _ _ _)
  intro frame _
  apply Outcome.rejectIf_bind_ne_panic
  exact Outcome.rejectIf_bind_ne_panic (by simp)

theorem answer_congr {capacity : Nat} {accepted accepted' : List (TransportMessageId × UInt64)}
    {opening : Opening}
    (same : due opening.nowUnix accepted = due opening.nowUnix accepted') :
    opening.answer P capacity accepted = opening.answer P capacity accepted' := by
  rw [answer, answer, same]

theorem acceptedEntry_of_ok {transition : Transition ReplayCache Opening} {frame : InnerFrame}
    (opened : transition.event.result P transition.current = .ok frame) :
    acceptedEntry P transition = some transition.event.entry := by
  rw [acceptedEntry, opened]

theorem acceptedEntry_of_failed {transition : Transition ReplayCache Opening}
    (failed : ∀ frame, transition.event.result P transition.current ≠ .ok frame) :
    acceptedEntry P transition = none := by
  unfold acceptedEntry
  split
  · rename_i frame opened
    exact absurd opened (failed frame)
  · rfl
  · rfl

/-- Where a run stands: from the last clock on the cache holds what was accepted. -/
structure Tracks (P : Primitives Key) (capacity : Nat)
    (past : List (Transition ReplayCache Opening)) (cache : ReplayCache) : Prop where
  limit : cache.capacity = capacity
  reflects (nowUnix : UInt64) : (∀ earlier ∈ past, earlier.event.nowUnix ≤ nowUnix) →
    Reflects nowUnix cache.entries (past.filterMap (acceptedEntry P))

theorem Tracks.initial {capacity : Nat} {cache : ReplayCache}
    (created : ReplayCache.new capacity = .ok cache) : Tracks P capacity [] cache := by
  unfold ReplayCache.new at created
  split at created
  · cases created
    exact ⟨rfl, fun _ _ _ _ => rfl⟩
  · cases created

theorem Tracks.snoc {capacity : Nat} {past : List (Transition ReplayCache Opening)}
    {transition : Transition ReplayCache Opening}
    (tracks : Tracks P capacity past transition.current)
    (clock : ∀ earlier ∈ past, earlier.event.nowUnix ≤ transition.event.nowUnix)
    (step : OpeningStep P transition.current transition.event transition.next) :
    Tracks P capacity (past ++ [transition]) transition.next := by
  have reached : transition.event.after P transition.current = transition.next := step
  have here := tracks.reflects transition.event.nowUnix clock
  have purged := here.purge (UInt64.le_refl _)
  have latest {nowUnix : UInt64}
      (ordered : ∀ earlier ∈ past ++ [transition], earlier.event.nowUnix ≤ nowUnix) :
      transition.event.nowUnix ≤ nowUnix :=
    ordered transition (List.mem_append_right _ (List.mem_singleton_self _))
  rw [← reached]
  cases transition.event.ends (P := P) transition.current with
  | closed _ failed unchanged =>
      rw [unchanged]
      refine ⟨tracks.limit, fun nowUnix ordered => ?_⟩
      rw [List.filterMap_append, List.filterMap_cons_none (acceptedEntry_of_failed failed),
        List.filterMap_nil, List.append_nil]
      exact here.mono (latest ordered)
  | replayed _ _ failed emptied | full _ failed emptied =>
      rw [emptied]
      refine ⟨tracks.limit, fun nowUnix ordered => ?_⟩
      have refused : acceptedEntry P transition = none :=
        acceptedEntry_of_failed fun frame opened => by
          rw [failed] at opened
          cases opened
      rw [List.filterMap_append, List.filterMap_cons_none refused, List.filterMap_nil,
        List.append_nil]
      exact purged.mono (latest ordered)
  | accepted frame _ _ _ opened recorded =>
      rw [recorded]
      refine ⟨tracks.limit, fun nowUnix ordered => ?_⟩
      rw [List.filterMap_append, List.filterMap_cons_some (acceptedEntry_of_ok opened),
        List.filterMap_nil]
      exact (purged.push _).mono (latest ordered)

end Opening

def Clocked (transitions : List (Transition ReplayCache Opening)) : Prop :=
  transitions.Pairwise fun first second => first.event.nowUnix ≤ second.event.nowUnix

theorem tracks_of_run {capacity : Nat} {cache final : ReplayCache}
    (created : ReplayCache.new capacity = .ok cache)
    {transitions : List (Transition ReplayCache Opening)}
    (run : Run (OpeningStep P) cache transitions final) (clock : Clocked transitions) :
    Opening.Tracks P capacity transitions final := by
  apply run.history (Opening.Tracks.initial created)
  intro before transition after split _ step tracks
  apply tracks.snoc _ step
  intro earlier member
  rw [Clocked, split] at clock
  exact (List.pairwise_append.mp clock).2.2 earlier member transition (List.mem_cons_self ..)

theorem Opening.Tracks.result_eq {capacity : Nat}
    {past : List (Transition ReplayCache Opening)} {cache : ReplayCache}
    (tracks : Tracks P capacity past cache) {opening : Opening}
    (clock : ∀ earlier ∈ past, earlier.event.nowUnix ≤ opening.nowUnix) :
    opening.result P cache = opening.answer P capacity (past.filterMap (acceptedEntry P)) := by
  rw [result_eq_answer, tracks.limit]
  apply answer_congr
  exact tracks.reflects _ clock _ (UInt64.le_refl _)

theorem Opening.Tracks.result_ne_ok {capacity : Nat}
    {past : List (Transition ReplayCache Opening)} {cache : ReplayCache}
    (tracks : Tracks P capacity past cache) {opening : Opening}
    (clock : ∀ earlier ∈ past, earlier.event.nowUnix ≤ opening.nowUnix)
    (known : opening.entry ∈ past.filterMap (acceptedEntry P)) (frame : InnerFrame) :
    opening.result P cache ≠ .ok frame := by
  intro opened
  have inner := (checks_of_result opened).1
  have fresh : opening.nowUnix ≤ opening.entry.2 := Checks.le_expiry ⟨frame, inner⟩
  have unexpired : opening.entry ∈ due opening.nowUnix (past.filterMap (acceptedEntry P)) :=
    List.mem_filter.mpr ⟨known, decide_eq_true fresh⟩
  rw [tracks.result_eq clock, answer_of_opened inner,
    if_pos (List.mem_map_of_mem unexpired)] at opened
  cases opened

/-- Each answer is decided by the envelopes accepted before: refused as a replay when an
unexpired one had its identifier, refused for want of room when `capacity` of them are
unexpired, and otherwise it is the frame. -/
theorem run_answersByHistory {capacity : Nat} {cache final : ReplayCache}
    (created : ReplayCache.new capacity = .ok cache)
    {transitions : List (Transition ReplayCache Opening)}
    (run : Run (OpeningStep P) cache transitions final) (clock : Clocked transitions)
    {before after : List (Transition ReplayCache Opening)}
    {transition : Transition ReplayCache Opening}
    (split : transitions = before ++ transition :: after) :
    transition.event.result P transition.current =
      transition.event.answer P capacity (before.filterMap (Opening.acceptedEntry P)) := by
  rw [split] at run
  rw [Clocked, split] at clock
  rcases List.pairwise_append.mp clock with ⟨prior, _, ordered⟩
  apply (tracks_of_run created run.around.1 prior).result_eq
  intro earlier member
  exact ordered earlier member transition (List.mem_cons_self ..)

def usedCache : ReplayCache := sampleOpening.after Primitives.concrete emptyCache

theorem run_openedTwice : Run (OpeningStep Primitives.concrete) emptyCache
    ([⟨emptyCache, sampleOpening, usedCache⟩] ++
      [⟨usedCache, sampleOpening, sampleOpening.after Primitives.concrete usedCache⟩])
    (sampleOpening.after Primitives.concrete usedCache) :=
  .cons rfl (.cons rfl (.nil _))

theorem run_answersByHistory_twice :
    sampleOpening.result Primitives.concrete usedCache =
      sampleOpening.answer Primitives.concrete 1
        ([⟨emptyCache, sampleOpening, usedCache⟩].filterMap
          (Opening.acceptedEntry Primitives.concrete)) := by
  have clock : Clocked [⟨emptyCache, sampleOpening, usedCache⟩,
      ⟨usedCache, sampleOpening, sampleOpening.after Primitives.concrete usedCache⟩] :=
    List.pairwise_pair.mpr (UInt64.le_refl sampleOpening.nowUnix)
  have answered := @run_answersByHistory _ _ 1 emptyCache _ rfl _ run_openedTwice clock
    [⟨emptyCache, sampleOpening, usedCache⟩] []
    ⟨usedCache, sampleOpening, sampleOpening.after Primitives.concrete usedCache⟩ rfl
  simp only at answered
  exact answered

end Mef26
