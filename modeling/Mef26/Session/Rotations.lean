import Mef26.Session.Delivery

namespace Mef26

/-! # Proactive rotations

A rotation steps the root of one side only, and the peer catches up by accepting a
frame. A second rotation, on either side, steps from a root the peer does not share. -/

variable {Key : Type} {P : Primitives Key}

def Lossless (transitions : List (ChannelTransition P)) : Prop :=
  ∀ transition ∈ transitions, ∀ side, transition.event ≠ .drop side

def DeliversExactly (transition : ChannelTransition P) : Prop :=
  ∀ side entropy sent rest, transition.event = .deliver side entropy →
    transition.current.inFlight side.peer = sent :: rest →
    (RatchetState.decrypt entropy sent.frame (transition.current.session side)).1 =
      .ok sent.plaintext

theorem dropped_of_lossless {start final : Channel P}
    {transitions : List (ChannelTransition P)}
    (run : Run ChannelStep start transitions final) (lossless : Lossless transitions) :
    final.dropped = start.dropped := by
  induction run with
  | nil => rfl
  | @cons current event middle rest final step run induction =>
      have later := induction fun transition member side =>
        lossless transition (List.mem_cons_of_mem _ member) side
      have here := lossless ⟨current, event, middle⟩ (List.mem_cons_self ..)
      rw [later]
      cases step with
      | drop side => exact absurd rfl (here side)
      | encrypt | rotate | deliver => rfl

section Run

variable (lawful : P.LawfulX25519) (aead : P.LawfulAead)
  {ends : RatchetRole → AuthenticatedHandshake P} (mirrored : HandshakeEnds ends)
  {suite : AeadSuite} {start : Session P} (starts : Session.Starts ends suite start)
  {transitions : List (ChannelTransition P)} {final : Channel P}
  (run : Run ChannelStep (Channel.initial start) transitions final)
  (lossless : Lossless transitions) (available : RandomnessAvailable transitions)
  (renews : RenewsKeys transitions)

include lawful aead mirrored starts run lossless available renews

/-- Without losses every delivery succeeds, as long as no rotation follows another. -/
theorem run_deliversExactly (single : rotations transitions ≤ 1) :
    ∀ transition ∈ transitions, DeliversExactly transition := by
  intro transition member side entropy sent rest isDelivery head
  have inOrder := (delivers_of_run lawful aead mirrored starts run available renews
    single).inOrder transition member side entropy sent rest isDelivery head
  rcases List.append_of_mem member with ⟨before, after, rfl⟩
  have dropped := dropped_of_lossless run.around.1
    fun earlier earlierMember => lossless earlier (List.mem_append_left _ earlierMember)
  have within : transition.current.dropped side.peer ≤ maxSkippedKeys := by
    rw [dropped]
    exact Nat.zero_le _
  rwa [if_pos within] at inOrder

end Run

/-! ## A rotation, a message and its delivery -/

def rotatedTransitions : List (ChannelTransition Primitives.concrete) :=
  let sending := rotatedChannel.encrypted .initiator (constantEntropy 0) .message []
  [⟨Channel.initial (sampleSession Primitives.concrete),
      .rotateSendingRatchet .initiator (constantEntropy 5), rotatedChannel⟩,
    ⟨rotatedChannel, .encrypt .initiator (constantEntropy 0) .message [], sending⟩,
    ⟨sending, .deliver .responder (constantEntropy 7),
      sending.delivered .responder (constantEntropy 7) rotatedMessage []⟩]

theorem run_rotatedTransitions :
    Run ChannelStep (Channel.initial (sampleSession Primitives.concrete)) rotatedTransitions
      ((rotatedChannel.encrypted .initiator (constantEntropy 0) .message []).delivered
        .responder (constantEntropy 7) rotatedMessage []) := by
  refine .cons (.rotate _ _) (.cons (.encrypt _ _ _ _) (.cons (.deliver _ _ _ _ ?_) (.nil _)))
  decide +kernel

theorem randomnessAvailable_rotated : RandomnessAvailable rotatedTransitions := by
  intro transition member side entropy isDelivery
  simp only [rotatedTransitions, List.mem_cons, List.not_mem_nil, or_false] at member
  rcases member with rfl | rfl | rfl <;> cases isDelivery
  rfl

theorem renewsKeys_rotated : RenewsKeys rotatedTransitions := by
  intro transition member event called pair draws
  simp only [rotatedTransitions, List.mem_cons, List.not_mem_nil, or_false] at member
  rcases member with rfl | rfl | rfl
  · cases called
    rw [publicKey_of_rotation draws]
    decide
  · cases called
    cases draws
  · cases called
    rw [publicKey_of_decryption draws]
    decide

theorem rotations_rotated : rotations rotatedTransitions = 1 := by
  decide +kernel

theorem run_deliversExactly_rotated :
    rotations rotatedTransitions = 1 ∧
      ∀ transition ∈ rotatedTransitions, DeliversExactly transition := by
  refine ⟨rotations_rotated, run_deliversExactly Primitives.lawfulX25519_concrete
    Primitives.lawfulAead_concrete handshakeEnds_sample starts_sampleSession
    run_rotatedTransitions ?_ randomnessAvailable_rotated renewsKeys_rotated
    (Nat.le_of_eq rotations_rotated)⟩
  intro transition member side dropped
  simp only [rotatedTransitions, List.mem_cons, List.not_mem_nil, or_false] at member
  rcases member with rfl | rfl | rfl <;> cases dropped

/-! ## Two rotations in a row -/

def twiceRotatedChannel : Channel Primitives.concrete :=
  rotatedChannel.rotated .initiator (constantEntropy 6)

def twiceRotatedMessage : SentMessage where
  frame := .empty (.replicate 32 6) 0 0 5
  plaintext := []

def twiceRotatedTransitions : List (ChannelTransition Primitives.concrete) :=
  let sending := twiceRotatedChannel.encrypted .initiator (constantEntropy 0) .message []
  [⟨Channel.initial (sampleSession Primitives.concrete),
      .rotateSendingRatchet .initiator (constantEntropy 5), rotatedChannel⟩,
    ⟨rotatedChannel, .rotateSendingRatchet .initiator (constantEntropy 6),
      twiceRotatedChannel⟩,
    ⟨twiceRotatedChannel, .encrypt .initiator (constantEntropy 0) .message [], sending⟩,
    ⟨sending, .deliver .responder (constantEntropy 7),
      sending.delivered .responder (constantEntropy 7) twiceRotatedMessage []⟩]

theorem twiceRotated_head :
    (twiceRotatedChannel.encrypted .initiator (constantEntropy 0) .message []).inFlight
      .initiator = [twiceRotatedMessage] := by
  decide +kernel

theorem renewsKeys_twiceRotated : RenewsKeys twiceRotatedTransitions := by
  intro transition member event called pair draws
  simp only [twiceRotatedTransitions, List.mem_cons, List.not_mem_nil, or_false] at member
  rcases member with rfl | rfl | rfl | rfl
  · cases called
    rw [publicKey_of_rotation draws]
    decide
  · cases called
    rw [publicKey_of_rotation draws]
    decide
  · cases called
    cases draws
  · cases called
    rw [publicKey_of_decryption draws]
    decide

/-- The peer cannot decrypt a message sent after two rotations in a row. -/
theorem exists_run_not_deliversExactly :
    HandshakeEnds (sampleEnds Primitives.concrete) ∧
    Session.Starts (sampleEnds Primitives.concrete) .xChaCha20Poly1305
      (sampleSession Primitives.concrete) ∧
    ∃ transitions final,
      Run ChannelStep (Channel.initial (sampleSession Primitives.concrete)) transitions
        final ∧
      Lossless transitions ∧ RandomnessAvailable transitions ∧ RenewsKeys transitions ∧
      ∃ transition ∈ transitions, ¬DeliversExactly transition := by
  refine ⟨handshakeEnds_sample, starts_sampleSession, twiceRotatedTransitions, _,
    .cons (.rotate _ _) (.cons (.rotate _ _) (.cons (.encrypt _ _ _ _)
      (.cons (.deliver _ _ _ _ twiceRotated_head) (.nil _)))), ?_, ?_,
    renewsKeys_twiceRotated, ?_⟩
  · intro transition member side
    simp only [twiceRotatedTransitions, List.mem_cons, List.not_mem_nil, or_false] at member
    rcases member with rfl | rfl | rfl | rfl <;> nofun
  · intro transition member side entropy isDelivery
    simp only [twiceRotatedTransitions, List.mem_cons, List.not_mem_nil, or_false] at member
    rcases member with rfl | rfl | rfl | rfl <;> cases isDelivery
    rfl
  · refine ⟨_, .tail _ (.tail _ (.tail _ (.head _))), fun delivers => ?_⟩
    have opened := delivers .responder _ twiceRotatedMessage [] rfl twiceRotated_head
    revert opened
    decide +kernel

end Mef26
