import Mef26.Session.Channel

namespace Mef26

/-! # Delivery in order

With at most one proactive rotation the two endpoints stay in step, whatever the
network loses. -/

variable {Key : Type} {P : Primitives Key}

/-! ## Calls on one direction -/

section Encrypt

variable {sender receiver : RatchetState P} {queue : List SentMessage} {first : Nat}
  (aead : P.LawfulAead) (entropy : Entropy) (kind : FrameKind) (plaintext : List UInt8)

include aead in
theorem Level.encrypt (level : Level sender receiver queue first) :
    Level (RatchetState.encrypt entropy kind plaintext sender).2 receiver
      (queue ++ emitted plaintext (RatchetState.encrypt entropy kind plaintext sender).1)
      first := by
  generalize called : RatchetState.encrypt entropy kind plaintext sender = outcome
  rcases outcome with ⟨result, after⟩
  cases RatchetState.encrypt_spec called with
  | sent frame sealed room => exact level.send aead sealed room
  | refused error failed =>
      rw [emitted, List.append_nil]
      exact level
  | exhausted frame sealed full =>
      rw [emitted, List.append_nil]
      exact level.exhaust full

include aead in
theorem Ahead.encrypt (ahead : Ahead sender receiver queue first) :
    Ahead (RatchetState.encrypt entropy kind plaintext sender).2 receiver
      (queue ++ emitted plaintext (RatchetState.encrypt entropy kind plaintext sender).1)
      first := by
  generalize called : RatchetState.encrypt entropy kind plaintext sender = outcome
  rcases outcome with ⟨result, after⟩
  cases RatchetState.encrypt_spec called with
  | sent frame sealed room => exact ahead.send aead sealed room
  | refused error failed =>
      rw [emitted, List.append_nil]
      exact ahead
  | exhausted frame sealed full =>
      rw [emitted, List.append_nil]
      exact ahead.exhaust full

theorem Level.encrypt_receiver (level : Level sender receiver queue first) :
    Level sender (RatchetState.encrypt entropy kind plaintext receiver).2 queue first := by
  generalize called : RatchetState.encrypt entropy kind plaintext receiver = outcome
  rcases outcome with ⟨result, after⟩
  cases RatchetState.encrypt_spec called with
  | sent => exact { level with messages := fun index sent element =>
      { level.messages index sent element with } }
  | refused => exact level
  | exhausted => exact { level with messages := fun index sent element =>
      { level.messages index sent element with } }

theorem Ahead.encrypt_receiver (ahead : Ahead sender receiver queue first) :
    Ahead sender (RatchetState.encrypt entropy kind plaintext receiver).2 queue first := by
  generalize called : RatchetState.encrypt entropy kind plaintext receiver = outcome
  rcases outcome with ⟨result, after⟩
  cases RatchetState.encrypt_spec called with
  | sent => exact {
      ahead with
      old := fun index sent element inside => { ahead.old index sent element inside with }
      new := fun index sent element outside =>
        { ahead.new index sent element outside with } }
  | refused => exact ahead
  | exhausted => exact {
      ahead with
      old := fun index sent element inside => { ahead.old index sent element inside with }
      new := fun index sent element outside =>
        { ahead.new index sent element outside with } }

theorem encrypt_keeps (state : RatchetState P) :
    (RatchetState.encrypt entropy kind plaintext state).2.rootKey = state.rootKey ∧
      (RatchetState.encrypt entropy kind plaintext state).2.skipped = state.skipped := by
  generalize called : RatchetState.encrypt entropy kind plaintext state = outcome
  rcases outcome with ⟨result, after⟩
  cases RatchetState.encrypt_spec called <;> exact ⟨rfl, rfl⟩

end Encrypt

section Steps

variable {sender receiver : RatchetState P} {queue : List SentMessage} {first : Nat}

theorem Level.rotate_receiver (level : Level sender receiver queue first)
    (pair : DhKeyPair P) : Level sender (receiver.afterRotation pair) queue first :=
  { level with messages := fun index sent element =>
      { level.messages index sent element with } }

theorem Level.receive_sender (level : Level sender receiver queue first) (number : UInt32) :
    Level (sender.afterCurrent number) receiver queue first :=
  { level with }

theorem Ahead.receive_sender (ahead : Ahead sender receiver queue first)
    (number : UInt32) : Ahead (sender.afterCurrent number) receiver queue first :=
  { ahead with }

theorem Level.rotate {pair : DhKeyPair P} (lawful : P.LawfulX25519)
    (level : Level sender receiver queue first) (root : sender.rootKey = receiver.rootKey)
    (back : sender.remoteDh = receiver.dhPair.publicKey)
    (new : pair.publicKey ≠ sender.dhPair.publicKey) :
    Ahead (sender.afterRotation pair) receiver queue first := by
  refine level.step lawful new rfl rfl rfl rfl rfl ?_ ?_ <;>
    rw [RatchetState.afterRotation, root, back]

theorem Level.answer {pair : DhKeyPair P} {header : FrameHeader} (lawful : P.LawfulX25519)
    (level : Level sender receiver queue first)
    (root : receiver.rootKey = sender.rootFrom receiver.dhPair.publicKey)
    (key : header.ratchetPublic = receiver.dhPair.publicKey)
    (new : pair.publicKey ≠ sender.dhPair.publicKey) :
    Ahead (sender.afterNext pair header) receiver queue first := by
  refine level.step lawful new rfl rfl rfl rfl rfl ?_ ?_ <;>
    rw [RatchetState.afterNext, key, root]

end Steps

/-! ## Calls on the whole channel -/

theorem rotations_snoc (past : List (ChannelTransition P)) (last : ChannelTransition P) :
    rotations (past ++ [last]) =
      rotations past + if ChannelTransition.rotates last then 1 else 0 := by
  rw [rotations, List.countP_append, List.countP_singleton]
  rfl

namespace Channel

variable {current next : Channel P}

/-- A step around one side that keeps the kind of both directions. -/
structure Keeps (side : RatchetRole) (current next : Channel P)
    (first first' : RatchetRole → Nat) : Prop where
  root (other : RatchetRole) :
    (next.session other).rootKey = (current.session other).rootKey
  levelHere : current.LevelFrom first side → next.LevelFrom first' side
  levelThere : current.LevelFrom first side.peer → next.LevelFrom first' side.peer
  aheadHere : current.AheadFrom first side → next.AheadFrom first' side
  aheadThere : current.AheadFrom first side.peer → next.AheadFrom first' side.peer
  charged (other : RatchetRole) : current.ChargedFrom first other →
    next.ChargedFrom first' other

theorem Keeps.inStep {side : RatchetRole} {past : List (ChannelTransition P)}
    {last : ChannelTransition P} {first first' : RatchetRole → Nat}
    (keeps : Keeps side current next first first')
    (unrotated : ChannelTransition.rotates last = false)
    (charged : ∀ side, current.ChargedFrom first side)
    (linked : rotations past = 0 ∧ current.Quiet first ∨
      rotations past = 1 ∧ ∃ side, current.LedBy first side) :
    InStep (past ++ [last]) next := by
  refine ⟨first', fun other => keeps.charged other (charged other), ?_⟩
  rw [rotations_snoc, unrotated]
  rcases linked with ⟨none, quiet⟩ | ⟨one, leader, led⟩
  · refine .inl ⟨none, ?_, ?_⟩
    · intro other
      rw [keeps.root, keeps.root]
      exact quiet.root other
    · exact RatchetRole.forall_of side (keeps.levelHere (quiet.level side))
        (keeps.levelThere (quiet.level side.peer))
  · refine .inr ⟨one, leader, ?_⟩
    by_cases here : leader = side
    · subst here
      exact ⟨keeps.aheadHere led.ahead, keeps.levelThere led.level⟩
    · rcases RatchetRole.eq_peer_of_ne here with rfl
      have level := led.level
      rw [RatchetRole.peer_peer] at level
      refine ⟨keeps.aheadThere led.ahead, ?_⟩
      rw [RatchetRole.peer_peer]
      exact keeps.levelHere level

section Update

variable {α : Type} (entries : RatchetRole → α) (side : RatchetRole) (entry : α)

@[simp] theorem update_side : Function.update entries side entry side = entry :=
  Function.update_self ..

@[simp] theorem update_peer : Function.update entries side entry side.peer =
    entries side.peer :=
  Function.update_of_ne (RatchetRole.peer_ne side) _ _

@[simp] theorem update_of_peer : Function.update entries side.peer entry side =
    entries side :=
  Function.update_of_ne (RatchetRole.peer_ne side).symm _ _

end Update

theorem keeps_encrypt (aead : P.LawfulAead) (current : Channel P) (side : RatchetRole)
    (entropy : Entropy) (kind : FrameKind) (plaintext : List UInt8)
    (first : RatchetRole → Nat) :
    Keeps side current (current.encrypted side entropy kind plaintext) first first where
  root := by
    refine RatchetRole.forall_of side ?_ ?_
    · simp only [encrypted, Session.after_side]
      exact (encrypt_keeps entropy kind plaintext _).1
    · simp only [encrypted, Session.after_peer]
  levelHere level := by
    simp only [LevelFrom, encrypted, Session.after_side, Session.after_peer,
      update_side] at level ⊢
    exact level.encrypt aead entropy kind plaintext
  levelThere level := by
    simp only [LevelFrom, encrypted, Session.after_side, Session.after_peer, update_peer,
      RatchetRole.peer_peer] at level ⊢
    exact level.encrypt_receiver entropy kind plaintext
  aheadHere ahead := by
    simp only [AheadFrom, encrypted, Session.after_side, Session.after_peer,
      update_side] at ahead ⊢
    exact ahead.encrypt aead entropy kind plaintext
  aheadThere ahead := by
    simp only [AheadFrom, encrypted, Session.after_side, Session.after_peer, update_peer,
      RatchetRole.peer_peer] at ahead ⊢
    exact ahead.encrypt_receiver entropy kind plaintext
  charged := by
    refine RatchetRole.forall_of side ?_ ?_
    · simp only [ChargedFrom, encrypted, Session.after_peer]
      exact id
    · simp only [ChargedFrom, encrypted, RatchetRole.peer_peer, Session.after_side]
      rw [RatchetCall.after, (encrypt_keeps entropy kind plaintext _).2]
      exact id

theorem keeps_drop (current : Channel P) (side : RatchetRole) {sent : SentMessage}
    {rest : List SentMessage} (head : current.inFlight side = sent :: rest)
    (dropped : RatchetRole → Nat) (first : RatchetRole → Nat)
    (charged : ∀ other, current.ChargedFrom first other →
      Charged (dropped other) ((current.session other.peer).skipped.length +
        Function.update first side (first side + 1) other)) :
    Keeps side current
      { current with
        inFlight := Function.update current.inFlight side rest
        dropped := dropped }
      first (Function.update first side (first side + 1)) where
  root _ := rfl
  levelHere level := by
    simp only [LevelFrom, update_side, head] at level ⊢
    exact level.drop
  levelThere level := by
    simp only [LevelFrom, update_peer] at level ⊢
    exact level
  aheadHere ahead := by
    simp only [AheadFrom, update_side, head] at ahead ⊢
    exact ahead.drop
  aheadThere ahead := by
    simp only [AheadFrom, update_peer] at ahead ⊢
    exact ahead
  charged := charged

theorem Charged.drop {dropped charge : Nat} (charged : Charged dropped charge) :
    Charged (dropped + 1) (charge + 1) := by
  rcases charged with ⟨within, past⟩
  constructor <;> intro bound <;> by_cases inside : dropped ≤ maxSkippedKeys
  · rw [within inside]
  · omega
  · rw [within inside]
    exact bound
  · have exceeds := past (Nat.not_le.mp inside)
    omega

theorem Charged.within_iff {dropped charge : Nat} (charged : Charged dropped charge) :
    dropped ≤ maxSkippedKeys ↔ charge ≤ maxSkippedKeys := by
  rcases charged with ⟨within, past⟩
  constructor
  · intro inside
    rw [within inside]
    exact inside
  · intro inside
    by_contra exceeds
    exact Nat.not_lt.mpr inside (past (Nat.not_le.mp exceeds))

theorem Charged.refuse {dropped charge : Nat} (charged : Charged dropped charge)
    (exceeds : maxSkippedKeys < charge) : Charged dropped (charge + 1) := by
  have past : ¬dropped ≤ maxSkippedKeys :=
    fun inside => Nat.not_lt.mpr (charged.within_iff.mp inside) exceeds
  exact ⟨fun inside => absurd inside past, fun _ => Nat.lt_succ_of_lt exceeds⟩

/-! ## Arrivals -/

section Arrival

variable {side : RatchetRole} {sent : SentMessage} {rest : List SentMessage}
  {first : RatchetRole → Nat} {entropy : Entropy}

theorem keeps_current (current : Channel P) (head : current.inFlight side.peer = sent :: rest)
    (message : CurrentMessage (current.session side) (first side.peer) sent)
    (accepted : RatchetState.decrypt entropy sent.frame (current.session side) =
      (.ok sent.plaintext,
        (current.session side).afterCurrent sent.frame.header.messageNumber))
    (inside : current.AheadFrom first side.peer →
      first side.peer < remaining (current.session side.peer) (current.session side)) :
    Keeps side current (current.delivered side entropy sent rest) first
      (Function.update first side.peer 0) where
  root := by
    refine RatchetRole.forall_of side ?_ ?_
    · simp only [delivered, Session.after_side, RatchetCall.after, accepted]
      rfl
    · simp only [delivered, Session.after_peer]
  levelHere level := by
    simp only [LevelFrom, delivered, Session.after_side, Session.after_peer, RatchetCall.after,
      accepted, update_of_peer] at level ⊢
    exact level.receive_sender _
  levelThere level := by
    simp only [LevelFrom, delivered, Session.after_side, Session.after_peer, RatchetCall.after,
      accepted, update_side, RatchetRole.peer_peer, head] at level ⊢
    exact level.receive
  aheadHere ahead := by
    simp only [AheadFrom, delivered, Session.after_side, Session.after_peer, RatchetCall.after,
      accepted, update_of_peer] at ahead ⊢
    exact ahead.receive_sender _
  aheadThere ahead := by
    have before := inside ahead
    simp only [AheadFrom, delivered, Session.after_side, Session.after_peer, RatchetCall.after,
      accepted, update_side, RatchetRole.peer_peer, head] at ahead ⊢
    exact ahead.receiveOld before
  charged := by
    refine RatchetRole.forall_of side ?_ ?_
    · simp only [ChargedFrom, delivered, Session.after_peer, update_of_peer]
      exact id
    · simp only [ChargedFrom, delivered, Session.after_side, RatchetCall.after, accepted,
        update_side, RatchetRole.peer_peer]
      intro charged
      rw [RatchetState.afterCurrent, List.length_append, RatchetState.length_skippedTo,
        message.gapTo]
      exact charged

/-- The first message of a chain the receiver does not hold: it answers with a root
step of its own and leads from then on. -/
theorem ledBy_next (lawful : P.LawfulX25519) (current : Channel P)
    (head : current.inFlight side.peer = sent :: rest)
    (led : current.LedBy first side.peer)
    (outside : remaining (current.session side.peer) (current.session side) ≤
      first side.peer)
    {pair : DhKeyPair P} (new : pair.publicKey ≠ (current.session side).dhPair.publicKey)
    (accepted : RatchetState.decrypt entropy sent.frame (current.session side) =
      (.ok sent.plaintext, (current.session side).afterNext pair sent.frame.header)) :
    (current.delivered side entropy sent rest).LedBy
      (Function.update first side.peer 0) side := by
  have ahead := led.ahead
  have level := led.level
  simp only [AheadFrom, LevelFrom, RatchetRole.peer_peer, head] at ahead level
  have key := (ahead.headNew outside).1.key
  constructor
  · simp only [AheadFrom, delivered, Session.after_side, Session.after_peer, RatchetCall.after,
      accepted, update_of_peer]
    exact level.answer lawful ahead.root key new
  · simp only [LevelFrom, delivered, Session.after_side, Session.after_peer, RatchetCall.after,
      accepted, update_side, RatchetRole.peer_peer]
    exact ahead.receiveNew outside pair

theorem charged_next (current : Channel P) {position : Nat}
    (message : NextMessage (current.session side.peer).dhPair.publicKey
      (current.session side.peer).previousSendingChainLen (current.session side) position sent)
    (placed : remaining (current.session side.peer) (current.session side) + position =
      first side.peer)
    {pair : DhKeyPair P}
    (accepted : RatchetState.decrypt entropy sent.frame (current.session side) =
      (.ok sent.plaintext, (current.session side).afterNext pair sent.frame.header))
    (charged : ∀ other, current.ChargedFrom first other) (other : RatchetRole) :
    (current.delivered side entropy sent rest).ChargedFrom
      (Function.update first side.peer 0) other := by
  revert other
  refine RatchetRole.forall_of side ?_ ?_
  · have here := charged side
    simp only [ChargedFrom, delivered, Session.after_peer, update_of_peer] at here ⊢
    exact here
  · have there := charged side.peer
    simp only [ChargedFrom, delivered, Session.after_side, RatchetCall.after, accepted,
      update_side, RatchetRole.peer_peer] at there ⊢
    rw [RatchetState.afterNext]
    simp only [List.length_append, RatchetState.length_skippedTo,
      RatchetState.length_skippedEntries, length_skippedRange, message.gapTo, message.number]
    rw [Nat.add_zero, Nat.add_assoc, placed]
    exact there

/-- What the first message on its way is to its receiver. -/
inductive Arrival (current : Channel P) (first : RatchetRole → Nat) (side : RatchetRole)
    (sent : SentMessage) : Prop
  | current
      (message : CurrentMessage (current.session side) (first side.peer) sent)
      (room : (current.session side).receivingCount.toNat + first side.peer + 1 <
        UInt32.size)
      (inside : current.AheadFrom first side.peer →
        first side.peer < remaining (current.session side.peer) (current.session side))
  | next (led : current.LedBy first side.peer)
      (outside : remaining (current.session side.peer) (current.session side) ≤
        first side.peer)

theorem arrival_of_level (current : Channel P)
    (head : current.inFlight side.peer = sent :: rest)
    (level : current.LevelFrom first side.peer) : Arrival current first side sent := by
  simp only [LevelFrom, RatchetRole.peer_peer, head] at level
  rcases level.head with ⟨message, room⟩
  refine .current message room fun ahead => ?_
  simp only [AheadFrom, RatchetRole.peer_peer] at ahead
  exact absurd level.remote ahead.newKey

theorem arrival (current : Channel P) (head : current.inFlight side.peer = sent :: rest)
    {past : List (ChannelTransition P)}
    (linked : rotations past = 0 ∧ current.Quiet first ∨
      rotations past = 1 ∧ ∃ side, current.LedBy first side) :
    Arrival current first side sent := by
  rcases linked with ⟨_, quiet⟩ | ⟨_, leader, led⟩
  · exact arrival_of_level current head (quiet.level side.peer)
  · by_cases here : leader = side
    · exact arrival_of_level current head (here ▸ led.level)
    · rcases RatchetRole.eq_peer_of_ne here with rfl
      have ahead := led.ahead
      simp only [AheadFrom, RatchetRole.peer_peer, head] at ahead
      by_cases inside : first side.peer <
          remaining (current.session side.peer) (current.session side)
      · have message := ahead.old 0 sent rfl inside
        have bound := (current.session side.peer).previousSendingChainLen.toNat_lt
        have within := inside
        rw [remaining] at within
        refine .current message ?_ fun _ => inside
        simp only [UInt32.size]
        omega
      · exact .next led (Nat.not_lt.mp inside)

theorem Arrival.refuse (lawful : P.LawfulX25519) {current : Channel P}
    (head : current.inFlight side.peer = sent :: rest)
    (arrives : Arrival current first side sent)
    (exceeds : maxSkippedKeys < (current.session side).skipped.length + first side.peer)
    {pair : DhKeyPair P} (generated : DhKeyPair.generate entropy = .ok pair) :
    RatchetState.decrypt entropy sent.frame (current.session side) =
      (.err .skippedKeyLimitExceeded, current.session side) := by
  cases arrives with
  | current message room inside => exact message.refuse exceeds entropy
  | next led outside =>
      have ahead := led.ahead
      simp only [AheadFrom, RatchetRole.peer_peer, head] at ahead
      refine (ahead.headNew outside).1.refuse lawful ahead.newKey ahead.ordered ?_ generated
      rw [Nat.add_sub_cancel' outside]
      exact exceeds

end Arrival

end Channel

/-- What a delivery should do: yield the plaintext while the lost messages of its
direction are within the budget, and be refused without effect after that. -/
def DeliversInOrder (transition : ChannelTransition P) : Prop :=
  ∀ side entropy sent rest, transition.event = .deliver side entropy →
    transition.current.inFlight side.peer = sent :: rest →
    if transition.current.dropped side.peer ≤ maxSkippedKeys then
      (RatchetState.decrypt entropy sent.frame (transition.current.session side)).1 =
        .ok sent.plaintext
    else
      RatchetState.decrypt entropy sent.frame (transition.current.session side) =
        (.err .skippedKeyLimitExceeded, transition.current.session side)

namespace Channel

theorem InStep.deliver_refused {past : List (ChannelTransition P)} {current : Channel P}
    (inStep : InStep past current) {side : RatchetRole} {entropy : Entropy}
    {sent : SentMessage} {rest : List SentMessage}
    (head : current.inFlight side.peer = sent :: rest)
    (budget : ¬current.dropped side.peer ≤ maxSkippedKeys)
    (refused : RatchetState.decrypt entropy sent.frame (current.session side) =
      (.err .skippedKeyLimitExceeded, current.session side)) :
    InStep (past ++ [⟨current, .deliver side entropy,
      current.delivered side entropy sent rest⟩])
      (current.delivered side entropy sent rest) := by
  rcases inStep with ⟨first, charged, linked⟩
  have exceeds := Nat.not_le.mp (mt (charged side.peer).within_iff.mpr budget)
  have unchanged : current.delivered side entropy sent rest =
      { current with inFlight := Function.update current.inFlight side.peer rest } := by
    have after : current.session.after ⟨side, .decrypt entropy sent.frame⟩ =
        current.session := by
      rw [Session.after, RatchetCall.after, refused]
      exact Function.update_eq_self side current.session
    rw [delivered, after]
  rw [unchanged]
  refine (keeps_drop current side.peer head current.dropped first ?_).inStep rfl charged
    linked
  refine RatchetRole.forall_of side ?_ ?_
  · intro here
    rw [update_of_peer]
    exact here
  · intro there
    rw [update_side, ← Nat.add_assoc]
    exact Charged.refuse there exceeds

theorem InStep.deliver (lawful : P.LawfulX25519) {past : List (ChannelTransition P)}
    {current : Channel P} (inStep : InStep past current) {side : RatchetRole}
    {entropy : Entropy} {sent : SentMessage} {rest : List SentMessage}
    (head : current.inFlight side.peer = sent :: rest)
    (available : (entropy 32).isSome)
    (renews : ∀ pair, RatchetCall.DrawsPair (current.session side)
      (.decrypt entropy sent.frame) pair →
        pair.publicKey ≠ (current.session side).dhPair.publicKey) :
    (if current.dropped side.peer ≤ maxSkippedKeys then
      (RatchetState.decrypt entropy sent.frame (current.session side)).1 =
        .ok sent.plaintext
    else
      RatchetState.decrypt entropy sent.frame (current.session side) =
        (.err .skippedKeyLimitExceeded, current.session side)) ∧
    InStep (past ++ [⟨current, .deliver side entropy,
      current.delivered side entropy sent rest⟩])
      (current.delivered side entropy sent rest) := by
  rcases inStep with ⟨first, charged, linked⟩
  rcases Option.isSome_iff_exists.mp available with ⟨secret, drawn⟩
  have generated : DhKeyPair.generate entropy = .ok (.fromSecret secret : DhKeyPair P) :=
    DhKeyPair.generate_eq_ok.mpr drawn
  have arrives := arrival current head linked
  have within := (charged side.peer).within_iff
  rw [RatchetRole.peer_peer] at within
  by_cases budget : current.dropped side.peer ≤ maxSkippedKeys
  · rw [if_pos budget]
    cases arrives with
    | current message room inside =>
        have accepted := message.accept room (within.mp budget) entropy
        refine ⟨by rw [accepted], ?_⟩
        exact (keeps_current current head message accepted inside).inStep rfl charged linked
    | next led outside =>
        have ahead := led.ahead
        simp only [AheadFrom, RatchetRole.peer_peer, head] at ahead
        rcases ahead.headNew outside with ⟨message, room⟩
        have placed := Nat.add_sub_cancel' outside
        have opens := message.accept lawful ahead.newKey ahead.ordered
          (by rw [placed]; exact within.mp budget) generated
        have accepted := RatchetState.decrypt_of_next opens
        refine ⟨by rw [accepted], Function.update first side.peer 0,
          charged_next current message placed accepted charged, ?_⟩
        have leads := ledBy_next lawful current head led outside
          (renews _ (.next _ opens)) accepted
        rw [rotations_snoc]
        rcases linked with ⟨_, quiet⟩ | ⟨one, _⟩
        · exact absurd (quiet.level side.peer).remote led.ahead.newKey
        · exact .inr ⟨one, side, leads⟩
  · rw [if_neg budget]
    have exceeds := Nat.not_le.mp (mt within.mpr budget)
    have refused := arrives.refuse lawful head exceeds generated
    exact ⟨refused, InStep.deliver_refused ⟨first, charged, linked⟩ head budget refused⟩

theorem InStep.encrypt (aead : P.LawfulAead) {past : List (ChannelTransition P)}
    {current : Channel P} (inStep : InStep past current) (side : RatchetRole)
    (entropy : Entropy) (kind : FrameKind) (plaintext : List UInt8) :
    InStep (past ++ [⟨current, .encrypt side entropy kind plaintext,
      current.encrypted side entropy kind plaintext⟩])
      (current.encrypted side entropy kind plaintext) := by
  rcases inStep with ⟨first, charged, linked⟩
  exact (keeps_encrypt aead current side entropy kind plaintext first).inStep rfl charged
    linked

theorem InStep.drop {past : List (ChannelTransition P)} {current : Channel P}
    (inStep : InStep past current) {side : RatchetRole} {sent : SentMessage}
    {rest : List SentMessage} (head : current.inFlight side = sent :: rest) :
    InStep (past ++ [⟨current, .drop side, current.lost side rest⟩])
      (current.lost side rest) := by
  rcases inStep with ⟨first, charged, linked⟩
  refine (keeps_drop current side head _ first ?_).inStep rfl charged linked
  refine RatchetRole.forall_of side ?_ ?_
  · intro here
    rw [update_side, update_side, ← Nat.add_assoc]
    exact Charged.drop here
  · intro there
    rw [update_peer, update_peer]
    exact there

theorem InStep.rotate (lawful : P.LawfulX25519) {past : List (ChannelTransition P)}
    {current : Channel P} (inStep : InStep past current) {side : RatchetRole}
    {entropy : Entropy}
    (single : rotations (past ++ [⟨current, .rotateSendingRatchet side entropy,
      current.rotated side entropy⟩]) ≤ 1)
    (renews : ∀ pair, RatchetCall.DrawsPair (current.session side)
      (.rotateSendingRatchet entropy) pair →
        pair.publicKey ≠ (current.session side).dhPair.publicKey) :
    InStep (past ++ [⟨current, .rotateSendingRatchet side entropy,
      current.rotated side entropy⟩]) (current.rotated side entropy) := by
  rcases inStep with ⟨first, charged, linked⟩
  generalize called : RatchetState.rotateSendingRatchet entropy (current.session side) =
    outcome
  rcases outcome with ⟨result, after⟩
  have rotates : ChannelTransition.rotates (⟨current, .rotateSendingRatchet side entropy,
      current.rotated side entropy⟩ : ChannelTransition P) = decide (result = .ok ⟨⟩) := by
    simp only [ChannelTransition.rotates, called]
  have afterEq : (RatchetCall.rotateSendingRatchet entropy).after (current.session side) =
      after := by
    rw [RatchetCall.after, called]
  rw [rotations_snoc, rotates] at single
  refine ⟨first, ?_⟩
  rw [rotations_snoc, rotates]
  cases RatchetState.rotate_spec called with
  | refused error =>
      have unchanged : current.rotated side entropy = current := by
        rw [rotated, Session.after, afterEq]
        exact congrArg (fun session => { current with session })
          (Function.update_eq_self side current.session)
      rw [unchanged]
      exact ⟨charged, linked⟩
  | rotated pair generated contributory =>
      have new := renews pair (.rotate generated contributory)
      rcases linked with ⟨none, quiet⟩ | ⟨one, _⟩
      · have here := quiet.level side
        have there := quiet.level side.peer
        have root := quiet.root side
        simp only [LevelFrom, RatchetRole.peer_peer] at here there
        refine ⟨?_, .inr ⟨by rw [none]; rfl, side, ?_, ?_⟩⟩
        · refine RatchetRole.forall_of side ?_ ?_
          · have before := charged side
            simp only [ChargedFrom, Channel.rotated, Session.after_peer] at before ⊢
            exact before
          · have before := charged side.peer
            simp only [ChargedFrom, Channel.rotated, RatchetRole.peer_peer, Session.after_side,
              afterEq] at before ⊢
            exact before
        · simp only [AheadFrom, Channel.rotated, Session.after_side, Session.after_peer,
            afterEq]
          exact here.rotate lawful root there.remote new
        · simp only [LevelFrom, Channel.rotated, RatchetRole.peer_peer, Session.after_side,
            Session.after_peer, afterEq]
          exact there.rotate_receiver pair
      · rw [one] at single
        exact absurd single (by decide)

theorem InStep.initial {ends : RatchetRole → AuthenticatedHandshake P}
    (mirrored : HandshakeEnds ends) {suite : AeadSuite} {start : Session P}
    (starts : Session.Starts ends suite start) : InStep [] (Channel.initial start) := by
  refine ⟨fun _ => 0, fun side => ?_, .inl ⟨rfl, fun side => ?_, fun side => ?_⟩⟩
  · simp only [ChargedFrom, Channel.initial, starts.eq_fresh]
    exact ⟨fun _ => rfl, fun exceeds => absurd exceeds (Nat.not_lt_zero _)⟩
  · simp only [Channel.initial, starts.eq_fresh]
    exact (mirrored.rootSecret side).trans (mirrored.rootSecret side.peer).symm
  · have sameSession := (mirrored.sessionId side).trans (mirrored.sessionId side.peer).symm
    have sameRoot := (mirrored.rootSecret side).trans (mirrored.rootSecret side.peer).symm
    simp only [LevelFrom, Channel.initial, starts.eq_fresh]
    exact {
      native := ⟨sameSession, rfl⟩
      remote := by
        rw [RatchetState.fresh, mirrored.remoteRatchet, RatchetRole.peer_peer]
        rfl
      counted := rfl
      chain := by
        intro _
        simp only [RatchetState.fresh, sameSession, sameRoot, mirrored.role,
          RatchetRole.peer_peer]
        rfl
      messages := by
        intro index sent element
        cases element }

end Channel

/-! ## Runs -/

theorem rotations_le_of_append (before after : List (ChannelTransition P)) :
    rotations before ≤ rotations (before ++ after) := by
  rw [rotations, rotations, List.countP_append]
  exact Nat.le_add_right _ _

structure Channel.Delivers (past : List (ChannelTransition P)) (channel : Channel P) :
    Prop where
  inStep : channel.InStep past
  inOrder : ∀ transition ∈ past, DeliversInOrder transition

section Run

variable (lawful : P.LawfulX25519) (aead : P.LawfulAead)
  {ends : RatchetRole → AuthenticatedHandshake P} (mirrored : HandshakeEnds ends)
  {suite : AeadSuite} {start : Session P} (starts : Session.Starts ends suite start)
  {transitions : List (ChannelTransition P)} {final : Channel P}
  (run : Run ChannelStep (Channel.initial start) transitions final)
  (available : RandomnessAvailable transitions) (renews : RenewsKeys transitions)
  (single : rotations transitions ≤ 1)

include lawful aead mirrored starts run available renews single

theorem delivers_of_run : final.Delivers transitions := by
  refine run.history ⟨Channel.InStep.initial mirrored starts, by simp⟩ ?_
  intro before transition after split _ step soFar
  rcases transition with ⟨current, event, next⟩
  rcases soFar with ⟨inStep, delivers⟩
  have member : (⟨current, event, next⟩ : ChannelTransition P) ∈ transitions := by
    rw [split]
    exact List.mem_append_right _ (List.mem_cons_self ..)
  have counted := rotations_le_of_append
    (before ++ [(⟨current, event, next⟩ : ChannelTransition P)]) after
  rw [← List.append_cons, ← split] at counted
  suffices kept : Channel.InStep (before ++ [⟨current, event, next⟩]) next ∧
      DeliversInOrder (⟨current, event, next⟩ : ChannelTransition P) by
    refine ⟨kept.1, fun transition earlier => ?_⟩
    rcases List.mem_append.mp earlier with old | new
    · exact delivers transition old
    · rw [List.mem_singleton.mp new]
      exact kept.2
  simp only at step inStep
  cases step with
  | encrypt side entropy kind plaintext =>
      refine ⟨inStep.encrypt aead side entropy kind plaintext, ?_⟩
      intro _ _ _ _ called
      cases called
  | rotate side entropy =>
      refine ⟨inStep.rotate lawful ?_ ?_, ?_⟩
      · exact Nat.le_trans counted single
      · exact renews _ member _ rfl
      · intro _ _ _ _ called
        cases called
  | deliver side entropy sent rest head =>
      obtain ⟨right, kept⟩ := inStep.deliver lawful head (available _ member side entropy rfl)
        (renews _ member ⟨side, .decrypt entropy sent.frame⟩ (by
          simp only [ChannelTransition.sessionEvent, head]
          rfl))
      refine ⟨kept, ?_⟩
      intro side' entropy' sent' rest' called head'
      cases called
      cases head.symm.trans head'
      exact right
  | drop side sent rest head =>
      refine ⟨inStep.drop head, ?_⟩
      intro _ _ _ _ called
      cases called

/-- Lossy delivery in order: while the losses of a direction are within the budget each
delivery yields its plaintext, and after that each is refused without effect. -/
theorem run_deliversInOrder : ∀ transition ∈ transitions, DeliversInOrder transition :=
  (delivers_of_run lawful aead mirrored starts run available renews single).inOrder

end Run

/-! ## A rotation and two messages, of which one is lost -/

theorem publicKey_of_generate {pair : DhKeyPair Primitives.concrete} {byte : UInt8}
    (generated : DhKeyPair.generate (constantEntropy byte) = .ok pair) :
    pair.publicKey = .replicate 32 byte := by
  have drawn := DhKeyPair.generate_eq_ok.mp generated
  rw [pair.publicKey_eq]
  exact (Option.some.inj drawn).symm

theorem publicKey_of_rotation {state : RatchetState Primitives.concrete} {byte : UInt8}
    {pair : DhKeyPair Primitives.concrete} (draws : RatchetCall.DrawsPair state
      (.rotateSendingRatchet (constantEntropy byte)) pair) :
    pair.publicKey = .replicate 32 byte := by
  cases draws with
  | rotate generated => exact publicKey_of_generate generated

theorem publicKey_of_decryption {state : RatchetState Primitives.concrete} {byte : UInt8}
    {frame : InnerFrame} {pair : DhKeyPair Primitives.concrete}
    (draws : RatchetCall.DrawsPair state (.decrypt (constantEntropy byte) frame) pair) :
    pair.publicKey = .replicate 32 byte := by
  cases draws with
  | next plaintext opens => exact publicKey_of_generate opens.ready.generated

def rotatedChannel : Channel Primitives.concrete :=
  (Channel.initial (sampleSession Primitives.concrete)).rotated .initiator (constantEntropy 5)

def rotatedMessage : SentMessage where
  frame := .empty (.replicate 32 5) 0 0 4
  plaintext := []

def secondMessage : SentMessage where
  frame := .empty (.replicate 32 5) 0 1 5
  plaintext := []

def lossyTransitions : List (ChannelTransition Primitives.concrete) :=
  let sending := rotatedChannel.encrypted .initiator (constantEntropy 0) .message []
  let sendingAgain := (sending.lost .initiator []).encrypted .initiator (constantEntropy 0)
    .message []
  [⟨Channel.initial (sampleSession Primitives.concrete),
      .rotateSendingRatchet .initiator (constantEntropy 5), rotatedChannel⟩,
    ⟨rotatedChannel, .encrypt .initiator (constantEntropy 0) .message [], sending⟩,
    ⟨sending, .drop .initiator, sending.lost .initiator []⟩,
    ⟨sending.lost .initiator [], .encrypt .initiator (constantEntropy 0) .message [],
      sendingAgain⟩,
    ⟨sendingAgain, .deliver .responder (constantEntropy 7),
      sendingAgain.delivered .responder (constantEntropy 7) secondMessage []⟩]

theorem exists_run_lossyTransitions : ∃ final,
    Run ChannelStep (Channel.initial (sampleSession Primitives.concrete)) lossyTransitions
      final := by
  refine ⟨_, .cons (.rotate _ _) (.cons (.encrypt _ _ _ _) (.cons (.drop _ rotatedMessage _ ?_)
    (.cons (.encrypt _ _ _ _) (.cons (.deliver _ _ _ _ ?_) (.nil _)))))⟩
  all_goals decide +kernel

theorem randomnessAvailable_lossy : RandomnessAvailable lossyTransitions := by
  intro transition member side entropy isDelivery
  simp only [lossyTransitions, List.mem_cons, List.not_mem_nil, or_false] at member
  rcases member with rfl | rfl | rfl | rfl | rfl <;> cases isDelivery
  rfl

theorem renewsKeys_lossy : RenewsKeys lossyTransitions := by
  intro transition member event called pair draws
  simp only [lossyTransitions, List.mem_cons, List.not_mem_nil, or_false] at member
  rcases member with rfl | rfl | rfl | rfl | rfl
  · cases called
    rw [publicKey_of_rotation draws]
    decide
  · cases called
    cases draws
  · cases called
  · cases called
    cases draws
  · cases called
    rw [publicKey_of_decryption draws]
    decide

theorem rotations_lossy : rotations lossyTransitions = 1 := by
  decide +kernel

theorem run_deliversInOrder_lossy :
    rotations lossyTransitions = 1 ∧
      ∀ transition ∈ lossyTransitions, DeliversInOrder transition := by
  rcases exists_run_lossyTransitions with ⟨final, run⟩
  exact ⟨rotations_lossy, run_deliversInOrder Primitives.lawfulX25519_concrete
    Primitives.lawfulAead_concrete handshakeEnds_sample starts_sampleSession run
    randomnessAvailable_lossy renewsKeys_lossy (Nat.le_of_eq rotations_lossy)⟩

end Mef26
