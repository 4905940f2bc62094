import Mef26.Session.Session

namespace Mef26

/-! # One direction of a session

What holds between a sender and a receiver while frames are on their way in sending
order. Either the receiver holds the chain the sender sends on, or the sender has
stepped its root and is one chain ahead. -/

variable {Key : Type} {P : Primitives Key}

structure SentMessage where
  frame : InnerFrame
  plaintext : List UInt8
  deriving DecidableEq

/-- A message of the chain the receiver holds, at a distance from its place there. -/
structure CurrentMessage (receiver : RatchetState P) (distance : Nat)
    (sent : SentMessage) : Prop where
  native : receiver.Accepts sent.frame
  same : sent.frame.header.ratchetPublic = receiver.remoteDh
  number : sent.frame.header.messageNumber.toNat = receiver.receivingCount.toNat + distance
  opened : sent.frame.openFrame P (messageKeyAt P receiver.receivingChain distance) =
    .ok sent.plaintext

/-- A message of the chain that a new ratchet key starts. -/
structure NextMessage (newKey : DhPublicKey) (previousLen : UInt32)
    (receiver : RatchetState P) (position : Nat) (sent : SentMessage) : Prop where
  native : receiver.Accepts sent.frame
  key : sent.frame.header.ratchetPublic = newKey
  previous : sent.frame.header.previousChainLen = previousLen
  number : sent.frame.header.messageNumber.toNat = position
  opened : sent.frame.openFrame P (messageKeyAt P (receiver.chainFrom newKey) position) =
    .ok sent.plaintext

/-- Sender and receiver are on the same chain. The messages on their way are the last
ones sent, and the first of them is at distance `first`. -/
structure Level (sender receiver : RatchetState P) (queue : List SentMessage)
    (first : Nat) : Prop where
  native : sender.sessionId = receiver.sessionId ∧ sender.suite = receiver.suite
  remote : receiver.remoteDh = sender.dhPair.publicKey
  counted : receiver.receivingCount.toNat + (first + queue.length) =
    sender.sendingCount.toNat
  chain : sender.sendingCount.toNat + 1 < UInt32.size →
    sender.sendingChain = chainAt P receiver.receivingChain (first + queue.length)
  messages : ∀ index sent, queue[index]? = some sent →
    CurrentMessage receiver (first + index) sent

/-- How many messages of the receiver's chain it has not got. -/
def remaining (sender receiver : RatchetState P) : Nat :=
  sender.previousSendingChainLen.toNat - receiver.receivingCount.toNat

/-- The sender is one chain ahead. The messages on their way are the last ones sent on
the old chain and on the new one. -/
structure Ahead (sender receiver : RatchetState P) (queue : List SentMessage)
    (first : Nat) : Prop where
  native : sender.sessionId = receiver.sessionId ∧ sender.suite = receiver.suite
  newKey : receiver.remoteDh ≠ sender.dhPair.publicKey
  root : sender.rootKey = receiver.rootFrom sender.dhPair.publicKey
  ordered : receiver.receivingCount.toNat ≤ sender.previousSendingChainLen.toNat
  counted : first + queue.length = remaining sender receiver + sender.sendingCount.toNat
  chain : sender.sendingCount.toNat + 1 < UInt32.size →
    sender.sendingChain = chainAt P (receiver.chainFrom sender.dhPair.publicKey)
      sender.sendingCount.toNat
  old : ∀ index sent, queue[index]? = some sent →
    first + index < remaining sender receiver → CurrentMessage receiver (first + index) sent
  new : ∀ index sent, queue[index]? = some sent →
    remaining sender receiver ≤ first + index →
    NextMessage sender.dhPair.publicKey sender.previousSendingChainLen receiver
      (first + index - remaining sender receiver) sent

/-! ## Single messages -/

section Message

variable {sender receiver : RatchetState P} {distance : Nat} {sent : SentMessage}

theorem CurrentMessage.gapTo (current : CurrentMessage receiver distance sent) :
    receiver.gapTo sent.frame.header.messageNumber = distance := by
  rw [RatchetState.gapTo, current.number]
  exact Nat.add_sub_cancel_left _ _

theorem CurrentMessage.accept (current : CurrentMessage receiver distance sent)
    (room : receiver.receivingCount.toNat + distance + 1 < UInt32.size)
    (budget : receiver.skipped.length + distance ≤ maxSkippedKeys) (entropy : Entropy) :
    RatchetState.decrypt entropy sent.frame receiver =
      (.ok sent.plaintext, receiver.afterCurrent sent.frame.header.messageNumber) := by
  have gap := current.gapTo
  refine RatchetState.decrypt_of_current ⟨current.native, current.same, ?_, ?_⟩ ?_
  · refine ⟨by rw [current.number]; exact Nat.le_add_right _ _, ?_⟩
    rw [RatchetState.gapTo] at gap
    rw [gap]
    exact budget
  · rw [gap]
    exact current.opened
  · rw [current.number]
    exact room

theorem CurrentMessage.refuse (current : CurrentMessage receiver distance sent)
    (exceeds : maxSkippedKeys < receiver.skipped.length + distance) (entropy : Entropy) :
    RatchetState.decrypt entropy sent.frame receiver =
      (.err .skippedKeyLimitExceeded, receiver) := by
  rw [RatchetState.decrypt_of_same current.native current.same]
  refine RatchetState.decryptSameRatchet_of_budget ?_ ?_
  · rw [current.number]
    exact Nat.le_add_right _ _
  · rw [current.gapTo]
    exact exceeds

theorem CurrentMessage.advance {later : SentMessage} {offset : Nat}
    (current : CurrentMessage receiver distance sent)
    (room : receiver.receivingCount.toNat + distance + 1 < UInt32.size)
    (next : CurrentMessage receiver (distance + 1 + offset) later) :
    CurrentMessage (receiver.afterCurrent sent.frame.header.messageNumber) offset later where
  native := next.native
  same := next.same
  number := by
    have count : (sent.frame.header.messageNumber + 1).toNat =
        receiver.receivingCount.toNat + distance + 1 := by
      rw [toNat_add_one (by rw [current.number]; exact room), current.number]
    rw [next.number, RatchetState.afterCurrent, count]
    omega
  opened := by
    rw [RatchetState.afterCurrent, current.gapTo, messageKeyAt_chainAt]
    exact next.opened

theorem NextMessage.gapTo {newKey : DhPublicKey} {position : Nat}
    (next : NextMessage newKey sender.previousSendingChainLen receiver position sent) :
    receiver.gapTo sent.frame.header.previousChainLen = remaining sender receiver := by
  rw [RatchetState.gapTo, next.previous, remaining]

theorem NextMessage.contributory (lawful : P.LawfulX25519) {previousLen : UInt32}
    {position : Nat}
    (next : NextMessage sender.dhPair.publicKey previousLen receiver position sent)
    (pair : DhKeyPair P) :
    P.wasContributory (P.x25519 pair.secret sent.frame.header.ratchetPublic) = true := by
  rw [next.key, sender.dhPair.publicKey_eq]
  exact lawful.contributory _ _

theorem NextMessage.fitsOld {newKey : DhPublicKey} {position : Nat}
    (next : NextMessage newKey sender.previousSendingChainLen receiver position sent)
    (ordered : receiver.receivingCount.toNat ≤ sender.previousSendingChainLen.toNat)
    (fits : receiver.skipped.length + remaining sender receiver ≤ maxSkippedKeys) :
    receiver.FitsBudget sent.frame.header.previousChainLen := by
  rw [next.previous]
  exact ⟨ordered, fits⟩

theorem NextMessage.accept {position : Nat} (lawful : P.LawfulX25519)
    (next : NextMessage sender.dhPair.publicKey sender.previousSendingChainLen receiver
      position sent)
    (newKey : receiver.remoteDh ≠ sender.dhPair.publicKey)
    (ordered : receiver.receivingCount.toNat ≤ sender.previousSendingChainLen.toNat)
    (budget : receiver.skipped.length + (remaining sender receiver + position) ≤
      maxSkippedKeys)
    {entropy : Entropy} {pair : DhKeyPair P}
    (generated : DhKeyPair.generate entropy = .ok pair) :
    RatchetState.OpensNext entropy receiver sent.frame pair sent.plaintext where
  native := next.native
  different := by
    rw [next.key]
    exact newKey.symm
  ready := {
    receives := next.contributory lawful _
    generated := generated
    sends := next.contributory lawful _
    fitsOld := next.fitsOld ordered (by omega)
    fitsNew := by
      rw [next.gapTo, next.number]
      omega }
  opened := by
    rw [next.key, next.number]
    exact next.opened

theorem NextMessage.refuse {position : Nat} (lawful : P.LawfulX25519)
    (next : NextMessage sender.dhPair.publicKey sender.previousSendingChainLen receiver
      position sent)
    (newKey : receiver.remoteDh ≠ sender.dhPair.publicKey)
    (ordered : receiver.receivingCount.toNat ≤ sender.previousSendingChainLen.toNat)
    (exceeds : maxSkippedKeys < receiver.skipped.length +
      (remaining sender receiver + position))
    {entropy : Entropy} {pair : DhKeyPair P}
    (generated : DhKeyPair.generate entropy = .ok pair) :
    RatchetState.decrypt entropy sent.frame receiver =
      (.err .skippedKeyLimitExceeded, receiver) := by
  have different : sent.frame.header.ratchetPublic ≠ receiver.remoteDh := by
    rw [next.key]
    exact newKey.symm
  rw [RatchetState.decrypt_of_different next.native different]
  by_cases fits : receiver.skipped.length + remaining sender receiver ≤ maxSkippedKeys
  · refine RatchetState.decryptNewRatchet_of_budget (next.contributory lawful _) generated
      (next.contributory lawful _) (next.fitsOld ordered fits) ?_
    rw [next.gapTo, next.number]
    omega
  · refine RatchetState.decryptNewRatchet_of_oldBudget ?_ ?_
    · rw [next.previous]
      exact ordered
    · rw [next.gapTo]
      exact Nat.not_le.mp fits

theorem NextMessage.advance {newKey : DhPublicKey} {previousLen : UInt32}
    {later : SentMessage} {position offset : Nat} {pair : DhKeyPair P}
    (next : NextMessage newKey previousLen receiver position sent)
    (room : position + 1 < UInt32.size)
    (after : NextMessage newKey previousLen receiver (position + 1 + offset) later) :
    CurrentMessage (receiver.afterNext pair sent.frame.header) offset later where
  native := after.native
  same := by
    rw [after.key, RatchetState.afterNext, next.key]
  number := by
    have count : (sent.frame.header.messageNumber + 1).toNat = position + 1 := by
      rw [toNat_add_one (by rw [next.number]; exact room), next.number]
    rw [after.number, RatchetState.afterNext, count]
  opened := by
    rw [RatchetState.afterNext, next.key, next.number, messageKeyAt_chainAt]
    exact after.opened

end Message

/-! ## What the sender does -/

section Sender

variable {sender receiver : RatchetState P} {queue : List SentMessage} {first : Nat}

theorem sealed_native {entropy : Entropy} {kind : FrameKind} {plaintext : List UInt8}
    {frame : InnerFrame} (native : sender.sessionId = receiver.sessionId ∧
      sender.suite = receiver.suite)
    (sealed : sender.sealNext entropy kind plaintext = .ok frame) :
    receiver.Accepts frame := by
  refine ⟨?_, ?_⟩
  · rw [(InnerFrame.sealFrame_eq_ok.mp sealed).1]
    exact native.1
  · rw [InnerFrame.suite_of_sealFrame sealed]
    exact native.2

theorem getElem?_snoc {α : Type} {entries : List α} {last entry : α} {index : Nat}
    (element : (entries ++ [last])[index]? = some entry) :
    entries[index]? = some entry ∨ index = entries.length ∧ entry = last := by
  rcases Nat.lt_trichotomy index entries.length with inside | rfl | outside
  · rw [List.getElem?_append_left inside] at element
    exact .inl element
  · rw [List.getElem?_concat_length] at element
    exact .inr ⟨rfl, (Option.some.inj element).symm⟩
  · rw [List.getElem?_eq_none (by simpa using Nat.succ_le_of_lt outside)] at element
    cases element

theorem Level.send (aead : P.LawfulAead) (level : Level sender receiver queue first)
    {entropy : Entropy} {kind : FrameKind} {plaintext : List UInt8} {frame : InnerFrame}
    (sealed : sender.sealNext entropy kind plaintext = .ok frame)
    (room : sender.sendingCount.toNat + 1 < UInt32.size) :
    Level sender.afterEncrypt receiver (queue ++ [⟨frame, plaintext⟩]) first where
  native := level.native
  remote := level.remote
  counted := by
    have count : (sender.sendingCount + 1).toNat = sender.sendingCount.toNat + 1 :=
      toNat_add_one room
    rw [RatchetState.afterEncrypt, count, List.length_append, ← level.counted]
    rfl
  chain := by
    intro _
    rw [RatchetState.afterEncrypt, level.chain room, List.length_append, ← chainAt_succ]
    rfl
  messages := by
    intro index sent element
    rcases getElem?_snoc element with earlier | ⟨rfl, rfl⟩
    · exact level.messages index sent earlier
    · have header := (InnerFrame.sealFrame_eq_ok.mp sealed).1
      have opened := InnerFrame.openFrame_of_sealFrame aead sealed
      exact {
        native := sealed_native level.native sealed
        same := by
          rw [header, level.remote]
          rfl
        number := by
          rw [header, level.counted]
          rfl
        opened := by
          rw [messageKeyAt, ← level.chain room]
          exact opened }

theorem Ahead.send (aead : P.LawfulAead) (ahead : Ahead sender receiver queue first)
    {entropy : Entropy} {kind : FrameKind} {plaintext : List UInt8} {frame : InnerFrame}
    (sealed : sender.sealNext entropy kind plaintext = .ok frame)
    (room : sender.sendingCount.toNat + 1 < UInt32.size) :
    Ahead sender.afterEncrypt receiver (queue ++ [⟨frame, plaintext⟩]) first where
  native := ahead.native
  newKey := ahead.newKey
  root := ahead.root
  ordered := ahead.ordered
  counted := by
    have count : (sender.sendingCount + 1).toNat = sender.sendingCount.toNat + 1 :=
      toNat_add_one room
    have counted := ahead.counted
    rw [RatchetState.afterEncrypt, count, List.length_append]
    simp only [remaining, List.length_singleton] at counted ⊢
    omega
  chain := by
    intro _
    have count : (sender.sendingCount + 1).toNat = sender.sendingCount.toNat + 1 :=
      toNat_add_one room
    rw [RatchetState.afterEncrypt, ahead.chain room, count, chainAt_succ]
  old := by
    intro index sent element inside
    rcases getElem?_snoc element with earlier | ⟨rfl, rfl⟩
    · exact ahead.old index sent earlier inside
    · have counted := ahead.counted
      simp only [remaining, RatchetState.afterEncrypt] at counted inside
      omega
  new := by
    intro index sent element outside
    rcases getElem?_snoc element with earlier | ⟨rfl, rfl⟩
    · exact ahead.new index sent earlier outside
    · have header := (InnerFrame.sealFrame_eq_ok.mp sealed).1
      have opened := InnerFrame.openFrame_of_sealFrame aead sealed
      have position : first + queue.length - remaining sender receiver =
          sender.sendingCount.toNat := by
        rw [ahead.counted]
        exact Nat.add_sub_cancel_left _ _
      exact {
        native := sealed_native ahead.native sealed
        key := by
          rw [header]
          rfl
        previous := by
          rw [header]
          rfl
        number := by
          rw [header]
          exact position.symm
        opened := by
          have chain := ahead.chain room
          rw [← position] at chain
          rw [messageKeyAt]
          exact chain ▸ opened }

theorem Level.exhaust (level : Level sender receiver queue first)
    (full : sender.sendingCount.toNat + 1 = UInt32.size) :
    Level sender.afterSendingExhausted receiver queue first :=
  { level with
    chain := fun room => absurd room (by simp [RatchetState.afterSendingExhausted, full]) }

theorem Ahead.exhaust (ahead : Ahead sender receiver queue first)
    (full : sender.sendingCount.toNat + 1 = UInt32.size) :
    Ahead sender.afterSendingExhausted receiver queue first :=
  { ahead with
    chain := fun room => absurd room (by simp [RatchetState.afterSendingExhausted, full]) }

/-- A sender that steps its root from the receiver's root goes one chain ahead. -/
theorem Level.step {stepped : RatchetState P} {pair : DhKeyPair P}
    (lawful : P.LawfulX25519) (level : Level sender receiver queue first)
    (new : pair.publicKey ≠ sender.dhPair.publicKey)
    (session : stepped.sessionId = sender.sessionId) (suite : stepped.suite = sender.suite)
    (installed : stepped.dhPair = pair)
    (previous : stepped.previousSendingChainLen = sender.sendingCount)
    (count : stepped.sendingCount = 0)
    (root : stepped.rootKey =
      nextRoot P receiver.rootKey (P.x25519 pair.secret receiver.dhPair.publicKey))
    (chain : stepped.sendingChain =
      rootChain P receiver.rootKey (P.x25519 pair.secret receiver.dhPair.publicKey)) :
    Ahead stepped receiver queue first := by
  have agreed := DhKeyPair.x25519_comm lawful receiver.dhPair pair
  have zero : (0 : UInt32).toNat = 0 := rfl
  have counted := level.counted
  have distance : remaining stepped receiver = first + queue.length := by
    rw [remaining, previous]
    omega
  exact {
    native := by rw [session, suite]; exact level.native
    newKey := by
      rw [level.remote, installed]
      exact new.symm
    root := by rw [root, installed, RatchetState.rootFrom, agreed]
    ordered := by
      rw [previous]
      omega
    counted := by rw [distance, count, zero, Nat.add_zero]
    chain := by
      intro _
      rw [chain, count, installed, RatchetState.chainFrom, agreed]
      rfl
    old := fun index sent element _ => level.messages index sent element
    new := by
      intro index sent element outside
      have inside := (List.getElem?_eq_some_iff.mp element).1
      omega }

end Sender

/-! ## What the network and the receiver do -/

section Receiver

variable {sender receiver : RatchetState P} {sent : SentMessage} {rest : List SentMessage}
  {first : Nat}

theorem Level.drop (level : Level sender receiver (sent :: rest) first) :
    Level sender receiver rest (first + 1) where
  native := level.native
  remote := level.remote
  counted := by
    have counted := level.counted
    rw [List.length_cons] at counted
    omega
  chain := by
    have chain := level.chain
    rwa [List.length_cons, Nat.add_comm rest.length, ← Nat.add_assoc] at chain
  messages := by
    intro index later element
    have distance : first + 1 + index = first + (index + 1) := by omega
    rw [distance]
    exact level.messages (index + 1) later element

theorem Ahead.drop (ahead : Ahead sender receiver (sent :: rest) first) :
    Ahead sender receiver rest (first + 1) where
  native := ahead.native
  newKey := ahead.newKey
  root := ahead.root
  ordered := ahead.ordered
  counted := by
    have counted := ahead.counted
    rw [List.length_cons] at counted
    omega
  chain := ahead.chain
  old := by
    intro index later element
    have distance : first + 1 + index = first + (index + 1) := by omega
    rw [distance]
    exact ahead.old (index + 1) later element
  new := by
    intro index later element
    have distance : first + 1 + index = first + (index + 1) := by omega
    rw [distance]
    exact ahead.new (index + 1) later element

theorem Level.head (level : Level sender receiver (sent :: rest) first) :
    CurrentMessage receiver first sent ∧
      receiver.receivingCount.toNat + first + 1 < UInt32.size := by
  have counted := level.counted
  have bound := sender.sendingCount.toNat_lt
  rw [List.length_cons] at counted
  refine ⟨level.messages 0 sent rfl, ?_⟩
  simp only [UInt32.size]
  omega

theorem receivingCount_afterCurrent {distance : Nat}
    (current : CurrentMessage receiver distance sent)
    (room : receiver.receivingCount.toNat + distance + 1 < UInt32.size) :
    (receiver.afterCurrent sent.frame.header.messageNumber).receivingCount.toNat =
      receiver.receivingCount.toNat + distance + 1 := by
  rw [RatchetState.afterCurrent, toNat_add_one (by rw [current.number]; exact room),
    current.number]

theorem Level.receive (level : Level sender receiver (sent :: rest) first) :
    Level sender (receiver.afterCurrent sent.frame.header.messageNumber) rest 0 := by
  rcases level.head with ⟨current, room⟩
  have counted := level.counted
  rw [List.length_cons] at counted
  exact {
    native := level.native
    remote := level.remote
    counted := by
      rw [receivingCount_afterCurrent current room]
      omega
    chain := by
      intro sending
      rw [level.chain sending, RatchetState.afterCurrent, current.gapTo, ← chainAt_add,
        List.length_cons]
      congr 1
      omega
    messages := by
      intro index later element
      rw [Nat.zero_add]
      refine current.advance room ?_
      rw [Nat.add_assoc, Nat.add_comm 1]
      exact level.messages (index + 1) later element }

theorem Ahead.receiveOld (ahead : Ahead sender receiver (sent :: rest) first)
    (inside : first < remaining sender receiver) :
    Ahead sender (receiver.afterCurrent sent.frame.header.messageNumber) rest 0 := by
  have current := ahead.old 0 sent rfl inside
  have bound := sender.previousSendingChainLen.toNat_lt
  have ordered := ahead.ordered
  have within := inside
  rw [remaining] at within
  have room : receiver.receivingCount.toNat + first + 1 < UInt32.size := by
    simp only [UInt32.size]
    omega
  have closer : remaining sender (receiver.afterCurrent sent.frame.header.messageNumber) +
      (first + 1) = remaining sender receiver := by
    rw [remaining, remaining, receivingCount_afterCurrent current room]
    omega
  have counted := ahead.counted
  rw [List.length_cons] at counted
  exact {
    native := ahead.native
    newKey := ahead.newKey
    root := ahead.root
    ordered := by
      rw [receivingCount_afterCurrent current room]
      omega
    counted := by omega
    chain := ahead.chain
    old := by
      intro index later element within
      rw [Nat.zero_add] at within ⊢
      refine current.advance room ?_
      rw [Nat.add_assoc, Nat.add_comm 1]
      exact ahead.old (index + 1) later element (by omega)
    new := by
      intro index later element outside
      have message := ahead.new (index + 1) later element (by omega)
      have position : first + (index + 1) - remaining sender receiver =
          0 + index - remaining sender
            (receiver.afterCurrent sent.frame.header.messageNumber) := by omega
      rw [position] at message
      exact { message with } }

theorem Ahead.headNew (ahead : Ahead sender receiver (sent :: rest) first)
    (outside : remaining sender receiver ≤ first) :
    NextMessage sender.dhPair.publicKey sender.previousSendingChainLen receiver
        (first - remaining sender receiver) sent ∧
      first - remaining sender receiver + 1 < UInt32.size := by
  have counted := ahead.counted
  have bound := sender.sendingCount.toNat_lt
  rw [List.length_cons] at counted
  refine ⟨ahead.new 0 sent rfl outside, ?_⟩
  simp only [UInt32.size]
  omega

theorem Ahead.receiveNew (ahead : Ahead sender receiver (sent :: rest) first)
    (outside : remaining sender receiver ≤ first) (pair : DhKeyPair P) :
    Level sender (receiver.afterNext pair sent.frame.header) rest 0 := by
  rcases ahead.headNew outside with ⟨next, room⟩
  have counted := ahead.counted
  rw [List.length_cons] at counted
  have count : (receiver.afterNext pair sent.frame.header).receivingCount.toNat =
      first - remaining sender receiver + 1 := by
    rw [RatchetState.afterNext, toNat_add_one (by rw [next.number]; exact room), next.number]
  exact {
    native := ahead.native
    remote := next.key
    counted := by
      rw [count]
      omega
    chain := by
      intro sending
      rw [ahead.chain sending, RatchetState.afterNext, next.key, next.number, ← chainAt_add]
      congr 1
      omega
    messages := by
      intro index later element
      rw [Nat.zero_add]
      refine next.advance room ?_
      have message := ahead.new (index + 1) later element (by omega)
      have position : first + (index + 1) - remaining sender receiver =
          first - remaining sender receiver + 1 + index := by omega
      rwa [position] at message }

end Receiver

end Mef26
