import Mef26.Foundation.Execution
import Mef26.Ratchet.Steps

namespace Mef26

/-! # The mutating calls of one endpoint -/

inductive RatchetCall
  | encrypt (entropy : Entropy) (kind : FrameKind) (plaintext : List UInt8)
  | decrypt (entropy : Entropy) (frame : InnerFrame)
  | rotateSendingRatchet (entropy : Entropy)

inductive RatchetReply
  | frame (frame : InnerFrame)
  | plaintext (plaintext : List UInt8)
  | rotated
  deriving DecidableEq, Repr

namespace RatchetCall

variable {Key : Type} {P : Primitives Key}

def result : RatchetCall → RatchetState P → Result RatchetReply
  | .encrypt entropy kind plaintext, state =>
      (RatchetState.encrypt entropy kind plaintext state).1.map .frame
  | .decrypt entropy frame, state =>
      (RatchetState.decrypt entropy frame state).1.map .plaintext
  | .rotateSendingRatchet entropy, state =>
      (RatchetState.rotateSendingRatchet entropy state).1.map fun _ => .rotated

def after : RatchetCall → RatchetState P → RatchetState P
  | .encrypt entropy kind plaintext, state =>
      (RatchetState.encrypt entropy kind plaintext state).2
  | .decrypt entropy frame, state => (RatchetState.decrypt entropy frame state).2
  | .rotateSendingRatchet entropy, state =>
      (RatchetState.rotateSendingRatchet entropy state).2

/-- The calls that commit, with the state they leave. -/
inductive Commits (state : RatchetState P) : RatchetCall → RatchetState P → Prop
  | encrypt {entropy : Entropy} {kind : FrameKind} {plaintext : List UInt8}
      (frame : InnerFrame) (sealed : state.sealNext entropy kind plaintext = .ok frame)
      (room : state.sendingCount.toNat + 1 < UInt32.size) :
      Commits state (.encrypt entropy kind plaintext) state.afterEncrypt
  | rotate {entropy : Entropy} (pair : DhKeyPair P)
      (generated : DhKeyPair.generate entropy = .ok pair)
      (contributory : P.wasContributory (P.x25519 pair.secret state.remoteDh) = true) :
      Commits state (.rotateSendingRatchet entropy) (state.afterRotation pair)
  | retained {entropy : Entropy} {frame : InnerFrame} (index : Nat)
      (entry : SkippedMessageKey Key) (plaintext : List UInt8)
      (opens : state.OpensRetained frame index entry plaintext) :
      Commits state (.decrypt entropy frame) (state.afterSkipped index)
  | current {entropy : Entropy} {frame : InnerFrame} (plaintext : List UInt8)
      (opens : state.OpensCurrent frame plaintext)
      (room : frame.header.messageNumber.toNat + 1 < UInt32.size) :
      Commits state (.decrypt entropy frame)
        (state.afterCurrent frame.header.messageNumber)
  | next {entropy : Entropy} {frame : InnerFrame} (pair : DhKeyPair P)
      (plaintext : List UInt8)
      (opens : RatchetState.OpensNext entropy state frame pair plaintext) :
      Commits state (.decrypt entropy frame) (state.afterNext pair frame.header)

/-- The calls that find their counter at its end only after they have advanced a
chain, with the state they leave behind. -/
inductive Exhausts (state : RatchetState P) : RatchetCall → RatchetState P → Prop
  | encrypt {entropy : Entropy} {kind : FrameKind} {plaintext : List UInt8}
      (frame : InnerFrame) (sealed : state.sealNext entropy kind plaintext = .ok frame)
      (full : state.sendingCount.toNat + 1 = UInt32.size) :
      Exhausts state (.encrypt entropy kind plaintext) state.afterSendingExhausted
  | decrypt {entropy : Entropy} {frame : InnerFrame} (plaintext : List UInt8)
      (opens : state.OpensCurrent frame plaintext)
      (full : frame.header.messageNumber.toNat + 1 = UInt32.size) :
      Exhausts state (.decrypt entropy frame)
        (state.afterExhausted frame.header.messageNumber)

/-- The message key a call works with, once the frame was sealed or opened with it. -/
inductive UsesKey (state : RatchetState P) : RatchetCall → Key → Prop
  | encrypt {entropy : Entropy} {kind : FrameKind} {plaintext : List UInt8}
      (frame : InnerFrame) (sealed : state.sealNext entropy kind plaintext = .ok frame) :
      UsesKey state (.encrypt entropy kind plaintext) (messageKeyOf P state.sendingChain)
  | retained {entropy : Entropy} {frame : InnerFrame} (index : Nat)
      (entry : SkippedMessageKey Key) (plaintext : List UInt8)
      (opens : state.OpensRetained frame index entry plaintext) :
      UsesKey state (.decrypt entropy frame) entry.key
  | current {entropy : Entropy} {frame : InnerFrame} (plaintext : List UInt8)
      (opens : state.OpensCurrent frame plaintext) :
      UsesKey state (.decrypt entropy frame) (messageKeyAt P state.receivingChain
        (state.gapTo frame.header.messageNumber))
  | next {entropy : Entropy} {frame : InnerFrame} (pair : DhKeyPair P)
      (plaintext : List UInt8)
      (opens : RatchetState.OpensNext entropy state frame pair plaintext) :
      UsesKey state (.decrypt entropy frame) (messageKeyAt P
        (state.chainFrom frame.header.ratchetPublic) frame.header.messageNumber.toNat)

/-- The pair that a successful call has drawn and installed. -/
inductive DrawsPair (state : RatchetState P) : RatchetCall → DhKeyPair P → Prop
  | rotate {entropy : Entropy} {pair : DhKeyPair P}
      (generated : DhKeyPair.generate entropy = .ok pair)
      (contributory : P.wasContributory (P.x25519 pair.secret state.remoteDh) = true) :
      DrawsPair state (.rotateSendingRatchet entropy) pair
  | next {entropy : Entropy} {frame : InnerFrame} {pair : DhKeyPair P}
      (plaintext : List UInt8)
      (opens : RatchetState.OpensNext entropy state frame pair plaintext) :
      DrawsPair state (.decrypt entropy frame) pair

/-- How a call ends: it commits, it fails after it moved a chain, or it is refused
and leaves the state as it was. -/
inductive Ends (call : RatchetCall) (state : RatchetState P) : Prop
  | commits (reply : RatchetReply) (replied : call.result state = .ok reply)
      (committed : Commits state call (call.after state))
  | exhausts (failed : call.result state = .err .counterExhausted)
      (moved : Exhausts state call (call.after state))
  | refused (error : MefError) (failed : call.result state = .err error)
      (unchanged : call.after state = state)

theorem ends (call : RatchetCall) (state : RatchetState P) : Ends call state := by
  cases call with
  | encrypt entropy kind plaintext =>
      generalize called : RatchetState.encrypt entropy kind plaintext state = outcome
      rcases outcome with ⟨result, after⟩
      have resultEq : (RatchetCall.encrypt entropy kind plaintext).result state =
          result.map .frame := by
        rw [RatchetCall.result, called]
      have afterEq : (RatchetCall.encrypt entropy kind plaintext).after state = after := by
        rw [RatchetCall.after, called]
      cases RatchetState.encrypt_spec called with
      | sent frame sealed room =>
          exact .commits (.frame frame) resultEq (afterEq ▸ .encrypt frame sealed room)
      | refused error failed => exact .refused error resultEq afterEq
      | exhausted frame sealed full =>
          exact .exhausts resultEq (afterEq ▸ .encrypt frame sealed full)
  | decrypt entropy frame =>
      generalize called : RatchetState.decrypt entropy frame state = outcome
      rcases outcome with ⟨result, after⟩
      have resultEq : (RatchetCall.decrypt entropy frame).result state =
          result.map .plaintext := by
        rw [RatchetCall.result, called]
      have afterEq : (RatchetCall.decrypt entropy frame).after state = after := by
        rw [RatchetCall.after, called]
      cases RatchetState.decrypt_spec called with
      | refused error => exact .refused error resultEq afterEq
      | retained index entry plaintext opens =>
          exact .commits (.plaintext plaintext) resultEq
            (afterEq ▸ .retained index entry plaintext opens)
      | current plaintext opens room =>
          exact .commits (.plaintext plaintext) resultEq
            (afterEq ▸ .current plaintext opens room)
      | exhausted plaintext opens full =>
          exact .exhausts resultEq (afterEq ▸ .decrypt plaintext opens full)
      | next pair plaintext opens =>
          exact .commits (.plaintext plaintext) resultEq
            (afterEq ▸ .next pair plaintext opens)
  | rotateSendingRatchet entropy =>
      generalize called : RatchetState.rotateSendingRatchet entropy state = outcome
      rcases outcome with ⟨result, after⟩
      have resultEq : (RatchetCall.rotateSendingRatchet entropy).result state =
          result.map fun _ => .rotated := by
        rw [RatchetCall.result, called]
      have afterEq : (RatchetCall.rotateSendingRatchet entropy).after state = after := by
        rw [RatchetCall.after, called]
      cases RatchetState.rotate_spec called with
      | rotated pair generated contributory =>
          exact .commits .rotated resultEq (afterEq ▸ .rotate pair generated contributory)
      | refused error => exact .refused error resultEq afterEq

theorem after_of_commits {call : RatchetCall} {state after : RatchetState P}
    (commits : Commits state call after) : call.after state = after := by
  cases commits with
  | encrypt frame sealed room =>
      exact congrArg Prod.snd (RatchetState.encrypt_of_sealed sealed room)
  | rotate pair generated contributory =>
      exact congrArg Prod.snd (RatchetState.rotate_of_agreed generated contributory)
  | retained index entry plaintext opens =>
      exact congrArg Prod.snd (RatchetState.decrypt_of_retained opens)
  | current plaintext opens room =>
      exact congrArg Prod.snd (RatchetState.decrypt_of_current opens room)
  | next pair plaintext opens =>
      exact congrArg Prod.snd (RatchetState.decrypt_of_next opens)

theorem result_of_exhausts {call : RatchetCall} {state after : RatchetState P}
    (exhausts : Exhausts state call after) :
    call.result state = .err .counterExhausted ∧ call.after state = after := by
  cases exhausts with
  | encrypt frame sealed full =>
      have ended := RatchetState.encrypt_of_exhausted sealed full
      exact ⟨by rw [result, ended]; rfl, by rw [RatchetCall.after, ended]⟩
  | @decrypt entropy frame plaintext opens full =>
      have ended : RatchetState.decrypt entropy frame state = _ :=
        RatchetState.decrypt_of_exhausted opens full
      exact ⟨by rw [result, ended]; rfl, by rw [RatchetCall.after, ended]⟩

theorem usesKey_of_plaintext {entropy : Entropy} {frame : InnerFrame}
    {state : RatchetState P} {plaintext : List UInt8}
    (replied : (RatchetCall.decrypt entropy frame).result state =
      .ok (.plaintext plaintext)) :
    ∃ key, UsesKey state (.decrypt entropy frame) key ∧
      frame.openFrame P key = .ok plaintext ∧
      frame.header.messageNumber.toNat + 1 < UInt32.size := by
  generalize called : RatchetState.decrypt entropy frame state = outcome at *
  rcases outcome with ⟨result, after⟩
  rw [RatchetCall.result, called] at replied
  cases RatchetState.decrypt_spec called with
  | refused | exhausted => cases replied
  | retained index entry plaintext opens =>
      cases replied
      have bound := state.receivingCount.toNat_lt
      have passed := opens.passed
      refine ⟨_, .retained index entry plaintext opens, opens.opened, ?_⟩
      simp only [UInt32.size]
      omega
  | current plaintext opens room =>
      cases replied
      exact ⟨_, .current plaintext opens, opens.opened, room⟩
  | next pair plaintext opens =>
      cases replied
      have fits := opens.ready.fitsNew
      refine ⟨_, .next pair plaintext opens, opens.opened, ?_⟩
      simp only [maxSkippedKeys, UInt32.size] at fits ⊢
      omega

theorem refused_of_unused {state : RatchetState P} {entropy : Entropy}
    {frame : InnerFrame} (unused : ∀ key, ¬UsesKey state (.decrypt entropy frame) key) :
    ∃ error, (RatchetCall.decrypt entropy frame).result state = .err error ∧
      (RatchetCall.decrypt entropy frame).after state = state := by
  cases (RatchetCall.decrypt entropy frame).ends state with
  | refused error failed unchanged => exact ⟨error, failed, unchanged⟩
  | exhausts failed moved =>
      generalize (RatchetCall.decrypt entropy frame).after state = after at moved
      cases moved with
      | decrypt plaintext opens => exact absurd (.current plaintext opens) (unused _)
  | commits reply replied committed =>
      generalize (RatchetCall.decrypt entropy frame).after state = after at committed
      cases committed with
      | retained index entry plaintext opens =>
          exact absurd (.retained index entry plaintext opens) (unused _)
      | current plaintext opens => exact absurd (.current plaintext opens) (unused _)
      | next pair plaintext opens => exact absurd (.next pair plaintext opens) (unused _)

theorem sealed_of_frame {entropy : Entropy} {kind : FrameKind} {plaintext : List UInt8}
    {state : RatchetState P} {frame : InnerFrame}
    (replied : (RatchetCall.encrypt entropy kind plaintext).result state =
      .ok (.frame frame)) :
    state.sealNext entropy kind plaintext = .ok frame ∧
      state.sendingCount.toNat + 1 < UInt32.size := by
  generalize called : RatchetState.encrypt entropy kind plaintext state = outcome at *
  rcases outcome with ⟨result, after⟩
  rw [RatchetCall.result, called] at replied
  cases RatchetState.encrypt_spec called with
  | refused | exhausted => cases replied
  | sent frame' sealed room =>
      cases replied
      exact ⟨sealed, room⟩

theorem Commits.generation {call : RatchetCall} {state after : RatchetState P}
    (commits : Commits state call after) :
    after.generation = saturatingAdd64 state.generation 1 := by
  cases commits <;> rfl

theorem Exhausts.generation {call : RatchetCall} {state after : RatchetState P}
    (exhausts : Exhausts state call after) : after.generation = state.generation := by
  cases exhausts <;> rfl

/-- What a call does to the sending half of the endpoint: it returns a frame under the
next number, it installs a new pair, or it does nothing to it. -/
inductive SendingEnds (call : RatchetCall) (state : RatchetState P) : Prop
  | sent {entropy : Entropy} {kind : FrameKind} {plaintext : List UInt8}
      (frame : InnerFrame) (isEncrypt : call = .encrypt entropy kind plaintext)
      (sealed : state.sealNext entropy kind plaintext = .ok frame)
      (replied : call.result state = .ok (.frame frame))
      (pair : (call.after state).dhPair = state.dhPair)
      (count : (call.after state).sendingCount.toNat = state.sendingCount.toNat + 1)
  | drew (pair : DhKeyPair P) (draws : DrawsPair state call pair)
      (silent : ∀ frame, call.result state ≠ .ok (.frame frame))
      (installed : (call.after state).dhPair = pair)
  | idle (silent : ∀ frame, call.result state ≠ .ok (.frame frame))
      (pair : (call.after state).dhPair = state.dhPair)
      (count : (call.after state).sendingCount = state.sendingCount)

theorem result_decrypt_ne_frame (entropy : Entropy) (frame other : InnerFrame)
    (state : RatchetState P) :
    (RatchetCall.decrypt entropy frame).result state ≠ .ok (.frame other) :=
  Outcome.map_ne_ok _ fun _ => by simp

theorem result_rotate_ne_frame (entropy : Entropy) (other : InnerFrame)
    (state : RatchetState P) :
    (RatchetCall.rotateSendingRatchet entropy).result state ≠ .ok (.frame other) :=
  Outcome.map_ne_ok _ fun _ => by simp

theorem sendingEnds (call : RatchetCall) (state : RatchetState P) :
    SendingEnds call state := by
  cases call.ends state with
  | refused error failed unchanged =>
      refine .idle (fun frame replied => ?_) (by rw [unchanged]) (by rw [unchanged])
      rw [failed] at replied
      cases replied
  | exhausts failed moved =>
      have silent (frame : InnerFrame) : call.result state ≠ .ok (.frame frame) := by
        rw [failed]
        simp
      generalize afterEq : call.after state = after at moved
      refine .idle silent ?_ ?_ <;> rw [afterEq] <;> cases moved <;> rfl
  | commits reply replied committed =>
      generalize afterEq : call.after state = after at committed
      cases committed with
      | @encrypt entropy kind plaintext frame sealed room =>
          refine .sent frame rfl sealed ?_ (by rw [afterEq]; rfl) ?_
          · rw [result, RatchetState.encrypt_of_sealed sealed room]
            rfl
          · rw [afterEq]
            exact toNat_add_one room
      | @rotate entropy pair generated contributory =>
          exact .drew pair (.rotate generated contributory)
            (fun _ => result_rotate_ne_frame _ _ _) (by rw [afterEq]; rfl)
      | retained =>
          exact .idle (fun _ => result_decrypt_ne_frame _ _ _ _) (by rw [afterEq]; rfl)
            (by rw [afterEq]; rfl)
      | current =>
          exact .idle (fun _ => result_decrypt_ne_frame _ _ _ _) (by rw [afterEq]; rfl)
            (by rw [afterEq]; rfl)
      | next pair plaintext opens =>
          exact .drew pair (.next plaintext opens)
            (fun _ => result_decrypt_ne_frame _ _ _ _) (by rw [afterEq]; rfl)

end RatchetCall

def CallStep {Key : Type} {P : Primitives Key} (state : RatchetState P)
    (call : RatchetCall) (next : RatchetState P) : Prop :=
  call.after state = next

def RatchetState.trace {Key : Type} {P : Primitives Key} (start : RatchetState P) :
    List RatchetCall → List (Transition (RatchetState P) RatchetCall)
  | [] => []
  | call :: calls => ⟨start, call, call.after start⟩ :: (call.after start).trace calls

theorem RatchetState.run_trace {Key : Type} {P : Primitives Key} (start : RatchetState P)
    (calls : List RatchetCall) :
    Run CallStep start (start.trace calls)
      (calls.foldl (fun state call => call.after state) start) := by
  induction calls generalizing start with
  | nil => exact .nil start
  | cons call calls induction => exact .cons rfl (induction (call.after start))

end Mef26
