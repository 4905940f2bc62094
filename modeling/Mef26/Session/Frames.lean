import Mef26.Session.Session

namespace Mef26

/-! # The frames of a session

With new ratchet keys only, the header of a frame tells which call sealed it. -/

variable {Key : Type} {P : Primitives Key}

theorem SessionTransition.returnedFrame_eq_some {transition : SessionTransition P}
    {frame : InnerFrame} :
    transition.returnedFrame = some frame ↔ transition.reply = .ok (.frame frame) := by
  unfold returnedFrame
  split
  · rename_i other replied
    rw [replied]
    simp
  · rename_i silent
    simp only [reduceCtorEq, false_iff]
    exact silent frame

/-- What keeps the headers of a session apart. -/
structure FramesApart (start : Session P) (past : List (SessionTransition P))
    (session : Session P) : Prop where
  apart (side : RatchetRole) :
    (session side).dhPair.publicKey ≠ (session side.peer).dhPair.publicKey
  held : ∀ transition ∈ past, ∀ frame, transition.returnedFrame = some frame →
    ∃ earlier ∈ Run.visited start past,
      (earlier transition.event.side).dhPair.publicKey = frame.header.ratchetPublic
  behind : ∀ transition ∈ past, ∀ frame, transition.returnedFrame = some frame →
    ∀ side, (session side).dhPair.publicKey = frame.header.ratchetPublic →
      transition.event.side = side ∧
        frame.header.messageNumber.toNat < (session side).sendingCount.toNat
  distinct : past.Pairwise fun first second =>
    ∀ frame, first.returnedFrame = some frame → second.returnedFrame ≠ some frame

/-- Which call returned a frame is determined by the frame. -/
theorem FramesApart.sender_unique {start session : Session P}
    {past : List (SessionTransition P)} (framed : FramesApart start past session)
    {first second : SessionTransition P} (firstMember : first ∈ past)
    (secondMember : second ∈ past) {frame : InnerFrame}
    (firstReturned : first.returnedFrame = some frame)
    (secondReturned : second.returnedFrame = some frame) : first = second := by
  have symmetric : Std.Symm fun first second : SessionTransition P =>
      ∀ frame, first.returnedFrame = some frame → second.returnedFrame ≠ some frame :=
    ⟨fun _ _ apart frame second first => apart frame first second⟩
  by_contra different
  exact framed.distinct.forall firstMember secondMember different frame firstReturned
    secondReturned

theorem Run.visited_snoc {State Event : Type} (start : State)
    (before : List (Transition State Event)) (transition : Transition State Event) :
    Run.visited start (before ++ [transition]) =
      Run.visited start before ++ [transition.next] := by
  simp [Run.visited]

section Step

variable {start : Session P} {before : List (SessionTransition P)}
  {transition : SessionTransition P}

theorem FramesApart.held_snoc (invariant : FramesApart start before transition.current)
    {earlier : SessionTransition P} (member : earlier ∈ before) {frame : InnerFrame}
    (returned : earlier.returnedFrame = some frame) :
    ∃ visited ∈ Run.visited start (before ++ [transition]),
      (visited earlier.event.side).dhPair.publicKey = frame.header.ratchetPublic := by
  rcases invariant.held earlier member frame returned with ⟨visited, reached, holds⟩
  rw [Run.visited_snoc]
  exact ⟨visited, List.mem_append_left _ reached, holds⟩

theorem FramesApart.snoc_silent (invariant : FramesApart start before transition.current)
    (silent : transition.returnedFrame = none)
    (apart : ∀ side, (transition.next side).dhPair.publicKey ≠
      (transition.next side.peer).dhPair.publicKey)
    (behind : ∀ earlier ∈ before, ∀ frame, earlier.returnedFrame = some frame →
      ∀ side, (transition.next side).dhPair.publicKey = frame.header.ratchetPublic →
        earlier.event.side = side ∧ frame.header.messageNumber.toNat <
          (transition.next side).sendingCount.toNat) :
    FramesApart start (before ++ [transition]) transition.next where
  apart := apart
  held := by
    intro earlier member frame returned
    rcases List.mem_append.mp member with old | new
    · exact invariant.held_snoc old returned
    · rw [List.mem_singleton.mp new, silent] at returned
      cases returned
  behind := by
    intro earlier member frame returned
    rcases List.mem_append.mp member with old | new
    · exact behind earlier old frame returned
    · rw [List.mem_singleton.mp new, silent] at returned
      cases returned
  distinct := by
    rw [List.pairwise_append]
    refine ⟨invariant.distinct, List.pairwise_singleton _ _, ?_⟩
    intro earlier _ last new frame _
    rw [List.mem_singleton.mp new, silent]
    simp

theorem FramesApart.snoc_sent (invariant : FramesApart start before transition.current)
    (reached : transition.current ∈ Run.visited start before)
    {frame : InnerFrame} (returned : transition.returnedFrame = some frame)
    (ratchetPublic : frame.header.ratchetPublic =
      (transition.current transition.event.side).dhPair.publicKey)
    (number : frame.header.messageNumber =
      (transition.current transition.event.side).sendingCount)
    (pairs : ∀ side, (transition.next side).dhPair = (transition.current side).dhPair)
    (counted : (transition.next transition.event.side).sendingCount.toNat =
      (transition.current transition.event.side).sendingCount.toNat + 1)
    (others : ∀ side, side ≠ transition.event.side →
      transition.next side = transition.current side) :
    FramesApart start (before ++ [transition]) transition.next where
  apart := by
    intro side
    rw [pairs, pairs]
    exact invariant.apart side
  held := by
    intro earlier member frame' returned'
    rcases List.mem_append.mp member with old | new
    · exact invariant.held_snoc old returned'
    · rw [List.mem_singleton.mp new, returned] at returned'
      cases returned'
      rw [Run.visited_snoc, List.mem_singleton.mp new]
      exact ⟨transition.current, List.mem_append_left _ reached, ratchetPublic.symm⟩
  behind := by
    intro earlier member frame' returned' side
    rw [pairs]
    intro holds
    rcases List.mem_append.mp member with old | new
    · rcases invariant.behind earlier old frame' returned' side holds with ⟨sender, below⟩
      refine ⟨sender, Nat.lt_of_lt_of_le below ?_⟩
      by_cases here : side = transition.event.side
      · rw [here, counted]
        exact Nat.le_succ _
      · rw [others side here]
    · rw [List.mem_singleton.mp new, returned] at returned'
      cases returned'
      rw [List.mem_singleton.mp new]
      by_cases here : side = transition.event.side
      · rw [here, counted, number]
        exact ⟨rfl, Nat.lt_succ_self _⟩
      · rw [RatchetRole.eq_peer_of_ne here] at holds
        exact absurd (holds.trans ratchetPublic).symm (invariant.apart _)
  distinct := by
    rw [List.pairwise_append]
    refine ⟨invariant.distinct, List.pairwise_singleton _ _, ?_⟩
    intro earlier old last new frame' returned' again
    rw [List.mem_singleton.mp new, returned] at again
    cases again
    have below := (invariant.behind earlier old frame returned' _ ratchetPublic.symm).2
    rw [number] at below
    exact Nat.lt_irrefl _ below

end Step

theorem framesApart {start final : Session P} {transitions : List (SessionTransition P)}
    (run : Run SessionStep start transitions final) (fresh : FreshKeys start transitions) :
    FramesApart start transitions final := by
  refine run.history ?_ ?_
  · refine ⟨fun side => ?_, by simp, by simp, .nil⟩
    cases side
    · exact fresh.initially
    · exact fresh.initially.symm
  intro before (transition : SessionTransition P) after split prior step invariant
  have reached := prior.final_mem_visited
  have others := fun side (other : side ≠ transition.event.side) => step.next_other other
  have silentOf (silent : ∀ frame, transition.reply ≠ .ok (.frame frame)) :
      transition.returnedFrame = none := by
    rw [Option.eq_none_iff_forall_not_mem]
    intro frame returned
    exact silent frame (SessionTransition.returnedFrame_eq_some.mp returned)
  have pairsOf (kept : (transition.event.call.after
      (transition.current transition.event.side)).dhPair =
        (transition.current transition.event.side).dhPair) (side : RatchetRole) :
      (transition.next side).dhPair = (transition.current side).dhPair := by
    by_cases here : side = transition.event.side
    · rw [here, step.next_side, kept]
    · rw [others side here]
  cases transition.event.call.sendingEnds (transition.current transition.event.side) with
  | sent frame isEncrypt sealed replied pair count =>
      have header := (InnerFrame.sealFrame_eq_ok.mp sealed).1
      refine invariant.snoc_sent reached
        (SessionTransition.returnedFrame_eq_some.mpr replied) ?_ ?_ (pairsOf pair) ?_ others
      · rw [header]
        rfl
      · rw [header]
        rfl
      · rw [step.next_side, count]
  | idle silent pair count =>
      refine invariant.snoc_silent (silentOf silent) ?_ ?_
      · intro side
        rw [pairsOf pair, pairsOf pair]
        exact invariant.apart side
      · intro earlier member frame returned side
        rw [pairsOf pair]
        intro holds
        have kept := invariant.behind earlier member frame returned side holds
        by_cases here : side = transition.event.side
        · rw [here] at kept ⊢
          rw [step.next_side, count]
          exact kept
        · rw [others side here]
          exact kept
  | drew pair draws silent installed =>
      have new := fresh.drawn before transition after pair split draws
      have nextPair : (transition.next transition.event.side).dhPair = pair := by
        rw [step.next_side, installed]
      refine invariant.snoc_silent (silentOf silent) ?_ ?_
      · intro side
        by_cases here : side = transition.event.side
        · rw [here, nextPair, others _ (RatchetRole.peer_ne _)]
          exact (new _ reached _).symm
        · rw [RatchetRole.eq_peer_of_ne here, RatchetRole.peer_peer, nextPair,
            others _ (RatchetRole.peer_ne _)]
          exact new _ reached _
      · intro earlier member frame returned side holds
        by_cases here : side = transition.event.side
        · rcases invariant.held earlier member frame returned with ⟨visited, before, held⟩
          rw [here, nextPair] at holds
          exact absurd (held.trans holds.symm) (new visited before _)
        · rw [others side here] at holds ⊢
          exact invariant.behind earlier member frame returned side holds

end Mef26
