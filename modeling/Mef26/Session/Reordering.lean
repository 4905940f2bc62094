import Mef26.Foundation.Reception
import Mef26.Session.Numbering

namespace Mef26

/-! # One chain, delivered in any order

A receiver of one sending chain refines the set of the numbers it has accepted. -/

variable {Key : Type} {P : Primitives Key}

open Reception

structure ChainMessage where
  frame : InnerFrame
  plaintext : List UInt8

def ChainMessage.number (message : ChainMessage) : Nat :=
  message.frame.header.messageNumber.toNat

def chainMessage (transition : Transition (RatchetState P) RatchetCall) :
    Option ChainMessage :=
  match transition.event, transition.event.result transition.current with
  | .encrypt _ _ plaintext, .ok (.frame frame) => some ⟨frame, plaintext⟩
  | _, _ => none

def acceptedNumber (transition : Transition (RatchetState P) RatchetCall) : Option Nat :=
  match transition.event, transition.event.result transition.current with
  | .decrypt _ frame, .ok _ => some frame.header.messageNumber.toNat
  | _, _ => none

/-- The numbers of a chain that a receiver has accepted: those before its counter at the
start, and those of its run. -/
def acceptedNumbers (start : RatchetState P)
    (transitions : List (Transition (RatchetState P) RatchetCall)) : Finset Nat :=
  Finset.range start.receivingCount.toNat ∪ (transitions.filterMap acceptedNumber).toFinset

namespace RatchetState

variable (P) in
def chainKeys (remoteDh : DhPublicKey) (chain : Key) (numbers : List Nat) :
    List (SkippedMessageKey Key) :=
  numbers.map fun number => {
    remoteDh, messageNumber := .ofNat number, key := messageKeyAt P chain number }

/-- The receiver once it has accepted these numbers of a chain. -/
def accepting (start : RatchetState P) (chain : Key) (accepted : Finset Nat) :
    RatchetState P :=
  { start with
    receivingChain := chainAt P chain (nextNumber accepted)
    receivingCount := .ofNat (nextNumber accepted)
    generation := (saturatingAdd64 · 1)^[accepted.card - start.receivingCount.toNat]
      start.generation
    skipped := start.skipped ++ chainKeys P start.remoteDh chain (missing accepted) }

/-- A receiver that stands on the chain of a sender, and retains keys of other chains
only. -/
structure ReceivesFrom (receiver : RatchetState P) (chain : Key) (sender : RatchetState P) :
    Prop where
  sessionId : sender.sessionId = receiver.sessionId
  suite : sender.suite = receiver.suite
  ratchetPublic : sender.dhPair.publicKey = receiver.remoteDh
  sending : sender.sendingChain = chainAt P chain sender.sendingCount.toNat
  receiving : receiver.receivingChain = chainAt P chain receiver.receivingCount.toNat
  others : ∀ entry ∈ receiver.skipped, entry.remoteDh ≠ receiver.remoteDh

/-- A message of a chain, as its receiver may get it. -/
structure OnChain (receiver : RatchetState P) (chain : Key) (message : ChainMessage) :
    Prop where
  native : receiver.Accepts message.frame
  same : message.frame.header.ratchetPublic = receiver.remoteDh
  opens : message.frame.openFrame P (messageKeyAt P chain message.number) =
    .ok message.plaintext
  room : message.number + 1 < UInt32.size

/-! ## The sender's frames -/

/-- A sender that has kept to its chain. -/
structure KeepsChain (chain : Key) (sender state : RatchetState P) : Prop where
  sessionId : state.sessionId = sender.sessionId
  suite : state.suite = sender.suite
  pair : state.dhPair = sender.dhPair
  /-- At the end of its counter the chain has moved on alone. -/
  sending : state.sendingCount.toNat + 1 < UInt32.size →
    state.sendingChain = chainAt P chain state.sendingCount.toNat

theorem KeepsChain.after {chain : Key} {sender state : RatchetState P}
    (keeps : KeepsChain chain sender state) (call : RatchetCall)
    (stays : ∀ pair, ¬RatchetCall.DrawsPair state call pair) :
    KeepsChain chain sender (call.after state) := by
  rcases keeps with ⟨sessionId, suite, pair, sending⟩
  cases call.ends state with
  | refused error failed unchanged =>
      rw [unchanged]
      exact ⟨sessionId, suite, pair, sending⟩
  | exhausts failed moved =>
      generalize call.after state = after at moved
      cases moved with
      | encrypt frame sealed full =>
          refine ⟨sessionId, suite, pair, fun room => ?_⟩
          simp only [afterSendingExhausted] at room
          omega
      | decrypt => exact ⟨sessionId, suite, pair, sending⟩
  | commits reply replied committed =>
      generalize call.after state = after at committed
      cases committed with
      | encrypt frame sealed room =>
          refine ⟨sessionId, suite, pair, fun _ => ?_⟩
          simp only [afterEncrypt, toNat_add_one room, chainAt_succ, sending room]
      | rotate drawn generated contributory =>
          exact absurd (.rotate generated contributory) (stays drawn)
      | retained => exact ⟨sessionId, suite, pair, sending⟩
      | current => exact ⟨sessionId, suite, pair, sending⟩
      | next drawn plaintext opens => exact absurd (.next plaintext opens) (stays drawn)

theorem ReceivesFrom.onChain {receiver sender : RatchetState P} {chain : Key}
    (receives : receiver.ReceivesFrom chain sender) (aead : P.LawfulAead)
    {transition : Transition (RatchetState P) RatchetCall} {message : ChainMessage}
    (keeps : KeepsChain chain sender transition.current)
    (sent : chainMessage transition = some message) : receiver.OnChain chain message := by
  unfold chainMessage at sent
  split at sent
  · rename_i entropy kind plaintext frame isEncrypt replied
    cases sent
    rw [isEncrypt] at replied
    rcases RatchetCall.sealed_of_frame replied with ⟨sealed, room⟩
    have header : frame.header = transition.current.nextHeader kind :=
      (InnerFrame.sealFrame_eq_ok.mp sealed).1
    have opened : frame.openFrame P (messageKeyOf P transition.current.sendingChain) =
        .ok plaintext := InnerFrame.openFrame_of_sealFrame aead sealed
    have number : frame.header.messageNumber = transition.current.sendingCount := by
      rw [header]
      rfl
    constructor
    · constructor
      · rw [header, ← receives.sessionId, ← keeps.sessionId]
        rfl
      · rw [InnerFrame.suite_of_sealFrame sealed, keeps.suite, receives.suite]
    · rw [header, ← receives.ratchetPublic, ← keeps.pair]
      rfl
    · rw [ChainMessage.number, number, messageKeyAt, ← keeps.sending room]
      exact opened
    · rw [ChainMessage.number, number]
      exact room
  · cases sent

theorem ReceivesFrom.keepsChain {receiver sender final : RatchetState P} {chain : Key}
    (receives : receiver.ReceivesFrom chain sender)
    {sendings : List (Transition (RatchetState P) RatchetCall)}
    (run : Run CallStep sender sendings final)
    (oneChain : ∀ transition ∈ sendings, ∀ pair,
      ¬RatchetCall.DrawsPair transition.current transition.event pair)
    {transition : Transition (RatchetState P) RatchetCall} (member : transition ∈ sendings) :
    KeepsChain chain sender transition.current := by
  rcases List.append_of_mem member with ⟨before, after, rfl⟩
  apply run.around.1.invariant_of_mem
  · exact ⟨rfl, rfl, rfl, fun _ => receives.sending⟩
  · intro earlier inside step keeps
    rw [← (step : earlier.event.after earlier.current = earlier.next)]
    exact keeps.after earlier.event (oneChain earlier (List.mem_append_left _ inside))

/-! ## One delivery -/

section Delivery

variable {start : RatchetState P} {chain : Key} {accepted : Finset Nat}

theorem mem_chainKeys {remoteDh : DhPublicKey} {numbers : List Nat}
    {entry : SkippedMessageKey Key} :
    entry ∈ chainKeys P remoteDh chain numbers ↔ ∃ number ∈ numbers,
      ⟨remoteDh, .ofNat number, messageKeyAt P chain number⟩ = entry :=
  List.mem_map

@[simp] theorem length_chainKeys (remoteDh : DhPublicKey) (numbers : List Nat) :
    (chainKeys P remoteDh chain numbers).length = numbers.length :=
  List.length_map _

theorem receivingCount_accepting (small : nextNumber accepted < UInt32.size) :
    (start.accepting chain accepted).receivingCount.toNat = nextNumber accepted :=
  UInt32.toNat_ofNat_of_lt' small

theorem ofNat_eq_iff {number : Nat} {word : UInt32} (small : number < UInt32.size) :
    UInt32.ofNat number = word ↔ number = word.toNat := by
  rw [← UInt32.toNat_inj, UInt32.toNat_ofNat_of_lt' small]

def isSlot (remoteDh : DhPublicKey) (word : UInt32) (entry : SkippedMessageKey Key) : Bool :=
  entry.remoteDh = remoteDh ∧ entry.messageNumber = word

theorem findSkipped_accepting_eq_none
    (others : ∀ entry ∈ start.skipped, entry.remoteDh ≠ start.remoteDh)
    (small : nextNumber accepted < UInt32.size) {word : UInt32}
    (known : word.toNat ∉ missing accepted) :
    (start.accepting chain accepted).findSkipped start.remoteDh word = none := by
  apply List.findIdx?_eq_none_iff.mpr
  intro entry member
  rw [decide_eq_false_iff_not]
  intro slot
  rcases List.mem_append.mp member with earlier | retained
  · exact others entry earlier slot.1
  · rcases mem_chainKeys.mp retained with ⟨number, inside, rfl⟩
    have below := Nat.lt_trans (mem_missing.mp inside).1 small
    rw [(ofNat_eq_iff below).mp slot.2] at inside
    exact known inside

theorem eraseP_congr {Item : Type*} {first second : Item → Bool} {items : List Item}
    (agree : ∀ item ∈ items, first item = second item) :
    items.eraseP first = items.eraseP second := by
  induction items with
  | nil => rfl
  | cons item items induction =>
      rw [List.eraseP_cons, List.eraseP_cons, agree item (List.mem_cons_self ..),
        induction fun other member => agree other (List.mem_cons_of_mem _ member)]

variable (chain) in
theorem eraseP_skipped_accepting
    (others : ∀ entry ∈ start.skipped, entry.remoteDh ≠ start.remoteDh)
    (small : nextNumber accepted < UInt32.size) {word : UInt32}
    (behind : word.toNat < nextNumber accepted) :
    (start.accepting chain accepted).skipped.eraseP (isSlot start.remoteDh word) =
      (start.accepting chain (insert word.toNat accepted)).skipped := by
  have apart : ∀ entry ∈ start.skipped, ¬isSlot start.remoteDh word entry = true := by
    intro entry member slot
    exact others entry member (of_decide_eq_true slot).1
  have reads : ∀ number ∈ missing accepted,
      (isSlot start.remoteDh word ∘ fun number : Nat => (⟨start.remoteDh, .ofNat number,
        messageKeyAt P chain number⟩ : SkippedMessageKey Key)) number =
        (number == word.toNat) := by
    intro number member
    have below := Nat.lt_trans (mem_missing.mp member).1 small
    simp [isSlot, ofNat_eq_iff below, Bool.beq_eq_decide_eq]
  simp only [accepting]
  rw [List.eraseP_append_right _ apart, chainKeys, List.eraseP_map, eraseP_congr reads,
    ← List.erase_eq_eraseP', ← missing_insert_of_lt behind]
  rfl

theorem skippedTo_accepting (small : nextNumber accepted < UInt32.size) {word : UInt32} :
    (start.accepting chain accepted).skippedTo word =
      chainKeys P start.remoteDh chain
        ((List.range (word.toNat - nextNumber accepted)).map (nextNumber accepted + ·)) := by
  simp only [skippedTo, gapTo, receivingCount_accepting small, skippedEntries, skippedRange,
    chainKeys, List.map_map]
  apply List.map_congr_left
  intro offset _
  simp only [Function.comp_apply, accepting, messageKeyAt_chainAt, UInt32.ofNat_add]

variable (chain) in
theorem generation_insert {number : Nat} (new : number ∉ accepted)
    (counted : Finset.range start.receivingCount.toNat ⊆ accepted) :
    (start.accepting chain (insert number accepted)).generation =
      saturatingAdd64 (start.accepting chain accepted).generation 1 := by
  have enough := Finset.card_le_card counted
  rw [Finset.card_range] at enough
  have size : (insert number accepted).card - start.receivingCount.toNat =
      accepted.card - start.receivingCount.toNat + 1 := by
    rw [Finset.card_insert_of_notMem new]
    omega
  simp only [accepting, size, Function.iterate_succ_apply']

theorem afterSkipped_accepting
    (others : ∀ entry ∈ start.skipped, entry.remoteDh ≠ start.remoteDh)
    (counted : Finset.range start.receivingCount.toNat ⊆ accepted)
    (small : nextNumber accepted < UInt32.size) {word : UInt32} {index : Nat}
    (behind : word.toNat < nextNumber accepted) (new : word.toNat ∉ accepted)
    (found : (start.accepting chain accepted).findSkipped start.remoteDh word =
      some index) :
    (start.accepting chain accepted).afterSkipped index =
      start.accepting chain (insert word.toNat accepted) := by
  have erased := eraseP_skipped_accepting chain others small behind
  have generation := generation_insert chain new counted
  rw [List.eraseP_eq_eraseIdx] at erased
  have search : (start.accepting chain accepted).skipped.findIdx?
      (isSlot start.remoteDh word) = some index := found
  rw [search] at erased
  simp only at erased
  rw [afterSkipped, erased, ← generation]
  simp only [accepting, nextNumber_insert_of_lt behind]

theorem afterCurrent_accepting
    (counted : Finset.range start.receivingCount.toNat ⊆ accepted)
    (small : nextNumber accepted < UInt32.size) {word : UInt32}
    (ahead : nextNumber accepted ≤ word.toNat) (room : word.toNat + 1 < UInt32.size) :
    (start.accepting chain accepted).afterCurrent word =
      start.accepting chain (insert word.toNat accepted) := by
  have new : word.toNat ∉ accepted := by
    intro early
    have below := lt_nextNumber early
    omega
  have generation := generation_insert chain new counted
  have chainKey : chainAt P (start.accepting chain accepted).receivingChain
      (word.toNat - nextNumber accepted + 1) = chainAt P chain (word.toNat + 1) := by
    rw [accepting, ← chainAt_add]
    congr 1
    omega
  have count : word + 1 = .ofNat (word.toNat + 1) := by
    rw [← UInt32.toNat_inj, toNat_add_one room, UInt32.toNat_ofNat_of_lt' room]
  have keys : (start.accepting chain accepted).skipped ++
      (start.accepting chain accepted).skippedTo word =
      (start.accepting chain (insert word.toNat accepted)).skipped := by
    rw [skippedTo_accepting small]
    simp only [accepting, missing_insert_of_le ahead, chainKeys, List.map_append,
      List.append_assoc]
  rw [afterCurrent, keys, ← generation, gapTo, receivingCount_accepting small, chainKey, count]
  simp only [accepting, nextNumber_insert_of_le ahead]

def answer (start : RatchetState P) (accepted : Finset Nat) (message : ChainMessage) :
    Result (List UInt8) :=
  if message.number ∈ accepted then
    .err .messageKeyConsumed
  else if Admits maxSkippedKeys start.skipped.length accepted message.number then
    .ok message.plaintext
  else
    .err .skippedKeyLimitExceeded

theorem openFrame_of_retained {message : ChainMessage} (onChain : start.OnChain chain message)
    (small : nextNumber accepted < UInt32.size) {index : Nat}
    {entry : SkippedMessageKey Key}
    (others : ∀ entry ∈ start.skipped, entry.remoteDh ≠ start.remoteDh)
    (found : (start.accepting chain accepted).findSkipped start.remoteDh
      message.frame.header.messageNumber = some index)
    (element : (start.accepting chain accepted).skipped[index]? = some entry) :
    message.frame.openFrame P entry.key = .ok message.plaintext := by
  rcases List.findIdx?_eq_some_iff_getElem.mp found with ⟨inside, slot, _⟩
  rw [List.getElem?_eq_getElem inside, Option.some.injEq] at element
  rw [element] at slot
  have member : entry ∈ (start.accepting chain accepted).skipped :=
    element ▸ List.getElem_mem inside
  have own := of_decide_eq_true slot
  rcases List.mem_append.mp member with earlier | retained
  · exact absurd own.1 (others entry earlier)
  · rcases mem_chainKeys.mp retained with ⟨number, late, rfl⟩
    have below := Nat.lt_trans (mem_missing.mp late).1 small
    have sameNumber : number = message.number := (ofNat_eq_iff below).mp own.2
    rw [sameNumber]
    exact onChain.opens

section Answers

variable {message : ChainMessage} (onChain : start.OnChain chain message)
  (others : ∀ entry ∈ start.skipped, entry.remoteDh ≠ start.remoteDh)
  (counted : Finset.range start.receivingCount.toNat ⊆ accepted)
  (small : nextNumber accepted < UInt32.size) (entropy : Entropy)

include onChain others small in
theorem decrypt_repeated (known : message.number ∈ accepted) :
    decrypt entropy message.frame (start.accepting chain accepted) =
      (.err .messageKeyConsumed, start.accepting chain accepted) := by
  have native : (start.accepting chain accepted).Accepts message.frame := onChain.native
  have missingKey : (start.accepting chain accepted).findSkipped start.remoteDh
      message.frame.header.messageNumber = none :=
    findSkipped_accepting_eq_none others small fun late => (mem_missing.mp late).2 known
  have passed : message.frame.header.messageNumber <
      (start.accepting chain accepted).receivingCount := by
    rw [UInt32.lt_iff_toNat_lt, receivingCount_accepting small]
    exact lt_nextNumber known
  rw [decrypt_of_same native onChain.same]
  simp only [decryptSameRatchet, Update.read_bind_apply, if_pos passed]
  exact decryptSkipped_of_none missingKey

include onChain others counted small in
theorem decrypt_late (new : message.number ∉ accepted)
    (behind : message.number < nextNumber accepted) :
    decrypt entropy message.frame (start.accepting chain accepted) =
      (.ok message.plaintext, start.accepting chain (insert message.number accepted)) := by
  have retained : (⟨start.remoteDh, .ofNat message.number,
      messageKeyAt P chain message.number⟩ : SkippedMessageKey Key) ∈
      (start.accepting chain accepted).skipped :=
    List.mem_append_right _
      (mem_chainKeys.mpr ⟨_, mem_missing.mpr ⟨behind, new⟩, rfl⟩)
  cases found : (start.accepting chain accepted).findSkipped start.remoteDh
      message.frame.header.messageNumber with
  | none =>
      have absent := List.findIdx?_eq_none_iff.mp found _ retained
      simp [ChainMessage.number] at absent
  | some index =>
      rcases List.findIdx?_eq_some_iff_getElem.mp found with ⟨inside, _⟩
      have element := List.getElem?_eq_getElem inside
      rw [ChainMessage.number,
        ← afterSkipped_accepting others counted small behind new found]
      refine decrypt_of_retained ⟨onChain.native, onChain.same, ?_, found, element, ?_⟩
      · rw [receivingCount_accepting small]
        exact behind
      · exact openFrame_of_retained onChain small others found element

include onChain counted small in
theorem decrypt_early (ahead : nextNumber accepted ≤ message.number)
    (fits : start.skipped.length + (missing accepted).length +
      (message.number - nextNumber accepted) ≤ maxSkippedKeys) :
    decrypt entropy message.frame (start.accepting chain accepted) =
      (.ok message.plaintext, start.accepting chain (insert message.number accepted)) := by
  have count : (start.accepting chain accepted).receivingCount.toNat =
    nextNumber accepted := receivingCount_accepting small
  rw [ChainMessage.number, ← afterCurrent_accepting counted small ahead onChain.room]
  refine decrypt_of_current ⟨onChain.native, onChain.same, ?_, ?_⟩ onChain.room
  · constructor
    · rw [count]
      exact ahead
    · rw [count]
      simpa [accepting, ChainMessage.number] using fits
  · have key : messageKeyAt P (start.accepting chain accepted).receivingChain
        ((start.accepting chain accepted).gapTo message.frame.header.messageNumber) =
        messageKeyAt P chain message.number := by
      rw [gapTo, count, accepting, messageKeyAt_chainAt]
      exact congrArg (messageKeyAt P chain) (Nat.add_sub_of_le ahead)
    rw [key]
    exact onChain.opens

include onChain small in
theorem decrypt_beyond (ahead : nextNumber accepted ≤ message.number)
    (exceeds : maxSkippedKeys < start.skipped.length + (missing accepted).length +
      (message.number - nextNumber accepted)) :
    decrypt entropy message.frame (start.accepting chain accepted) =
      (.err .skippedKeyLimitExceeded, start.accepting chain accepted) := by
  have count : (start.accepting chain accepted).receivingCount.toNat =
    nextNumber accepted := receivingCount_accepting small
  have native : (start.accepting chain accepted).Accepts message.frame := onChain.native
  rw [decrypt_of_same native onChain.same]
  apply decryptSameRatchet_of_budget
  · rw [count]
    exact ahead
  · rw [gapTo, count]
    simpa [accepting, ChainMessage.number] using exceeds

include onChain others counted small in
/-- The receiver does with a message what the set does with its number. -/
theorem decrypt_accepting :
    decrypt entropy message.frame (start.accepting chain accepted) =
      (start.answer accepted message, start.accepting chain
        (receive maxSkippedKeys start.skipped.length accepted message.number)) := by
  by_cases known : message.number ∈ accepted
  · have refused : ¬Admits maxSkippedKeys start.skipped.length accepted message.number :=
      fun admits => admits.1 known
    rw [answer, if_pos known, receive, if_neg refused]
    exact decrypt_repeated onChain others small entropy known
  · by_cases admits : Admits maxSkippedKeys start.skipped.length accepted message.number
    · rw [answer, if_neg known, if_pos admits, receive, if_pos admits]
      by_cases behind : message.number < nextNumber accepted
      · exact decrypt_late onChain others counted small entropy known behind
      · exact decrypt_early onChain counted small entropy (Nat.not_lt.mp behind)
          (admits.2.resolve_left behind)
    · have beyond := not_or.mp (not_and.mp admits known)
      rw [answer, if_neg known, if_neg admits, receive, if_neg admits]
      exact decrypt_beyond onChain small entropy (Nat.not_lt.mp beyond.1)
        (Nat.not_le.mp beyond.2)

end Answers

end Delivery

end RatchetState

/-! ## Runs of deliveries -/

def Delivers (sendings : List (Transition (RatchetState P) RatchetCall))
    (call : RatchetCall) (message : ChainMessage) : Prop :=
  message ∈ sendings.filterMap chainMessage ∧ ∃ entropy, call = .decrypt entropy message.frame

structure AnswersAccepted (accepted : Finset Nat)
    (transition : Transition (RatchetState P) RatchetCall) (message : ChainMessage) :
    Prop where
  plaintext : transition.event.result transition.current = .ok (.plaintext message.plaintext) ↔
    message.number ∉ accepted ∧
      (message.number < transition.current.receivingCount.toNat ∨
        transition.current.skipped.length +
          (message.number - transition.current.receivingCount.toNat) ≤ maxSkippedKeys)
  repeated : message.number ∈ accepted →
    transition.event.result transition.current = .err .messageKeyConsumed ∧
      transition.next = transition.current
  beyond : message.number ∉ accepted →
    transition.current.receivingCount.toNat ≤ message.number →
    maxSkippedKeys < transition.current.skipped.length +
      (message.number - transition.current.receivingCount.toNat) →
    transition.event.result transition.current = .err .skippedKeyLimitExceeded ∧
      transition.next = transition.current

structure RefinesAccepted (chain : Key) (receiver final : RatchetState P)
    (sendings deliveries : List (Transition (RatchetState P) RatchetCall)) : Prop where
  answers (before : List (Transition (RatchetState P) RatchetCall))
    (transition : Transition (RatchetState P) RatchetCall)
    (after : List (Transition (RatchetState P) RatchetCall)) (message : ChainMessage) :
    deliveries = before ++ transition :: after →
      Delivers sendings transition.event message →
      AnswersAccepted (acceptedNumbers receiver before) transition message
  count : final.receivingCount.toNat = nextNumber (acceptedNumbers receiver deliveries)
  skipped : final.skipped = receiver.skipped ++
    RatchetState.chainKeys P receiver.remoteDh chain
      (missing (acceptedNumbers receiver deliveries))
  /-- Only the set of accepted numbers matters, not the order they came in. -/
  final : final = receiver.accepting chain (acceptedNumbers receiver deliveries)

namespace RatchetState

variable {chain : Key} {receiver : RatchetState P}

theorem accepting_start (receives : receiver.receivingChain =
    chainAt P chain receiver.receivingCount.toNat) :
    receiver.accepting chain (acceptedNumbers receiver []) = receiver := by
  have start : acceptedNumbers receiver [] = Finset.range receiver.receivingCount.toNat := by
    simp [acceptedNumbers]
  rw [start, accepting]
  simp [← receives, chainKeys]

structure AnswersAs (receiver : RatchetState P) (chain : Key) (accepted : Finset Nat)
    (transition : Transition (RatchetState P) RatchetCall) (message : ChainMessage) : Prop where
  current : transition.current = receiver.accepting chain accepted
  result : transition.event.result transition.current =
    (receiver.answer accepted message).map .plaintext
  next : transition.next = receiver.accepting chain
    (receive maxSkippedKeys receiver.skipped.length accepted message.number)

theorem acceptedNumber_eq {accepted : Finset Nat}
    {transition : Transition (RatchetState P) RatchetCall} {message : ChainMessage}
    {entropy : Entropy} (isDecrypt : transition.event = .decrypt entropy message.frame)
    (answered : transition.event.result transition.current =
      (receiver.answer accepted message).map .plaintext) :
    acceptedNumber transition =
      if Admits maxSkippedKeys receiver.skipped.length accepted message.number then
        some message.number
      else
        none := by
  rw [acceptedNumber, answered, answer, isDecrypt]
  by_cases known : message.number ∈ accepted
  · have refused : ¬Admits maxSkippedKeys receiver.skipped.length accepted message.number :=
      fun admits => admits.1 known
    rw [if_pos known, if_neg refused]
    rfl
  · rw [if_neg known]
    by_cases admits : Admits maxSkippedKeys receiver.skipped.length accepted message.number
    · rw [if_pos admits, if_pos admits]
      rfl
    · rw [if_neg admits, if_neg admits]
      rfl

theorem acceptedNumbers_snoc {past : List (Transition (RatchetState P) RatchetCall)}
    {transition : Transition (RatchetState P) RatchetCall} {message : ChainMessage}
    {entropy : Entropy} (isDecrypt : transition.event = .decrypt entropy message.frame)
    (answered : transition.event.result transition.current =
      (receiver.answer (acceptedNumbers receiver past) message).map .plaintext) :
    acceptedNumbers receiver (past ++ [transition]) =
      receive maxSkippedKeys receiver.skipped.length (acceptedNumbers receiver past)
        message.number := by
  have number := acceptedNumber_eq isDecrypt answered
  rw [receive]
  split at number
  · rename_i admits
    rw [if_pos admits]
    ext other
    simp [acceptedNumbers, List.filterMap_append, number, or_left_comm]
  · rename_i refused
    rw [if_neg refused]
    simp [acceptedNumbers, List.filterMap_append, number]

theorem nextNumber_receive_lt {accepted : Finset Nat} {number : Nat} {budget retained : Nat}
    (small : nextNumber accepted < UInt32.size) (room : number + 1 < UInt32.size) :
    nextNumber (receive budget retained accepted number) < UInt32.size := by
  unfold receive
  split
  · rw [nextNumber_insert]
    omega
  · exact small

/-- Where a run of deliveries stands. -/
structure StandsAt (chain : Key) (receiver : RatchetState P)
    (past : List (Transition (RatchetState P) RatchetCall)) (state : RatchetState P) :
    Prop where
  state : state = receiver.accepting chain (acceptedNumbers receiver past)
  small : nextNumber (acceptedNumbers receiver past) < UInt32.size

theorem StandsAt.initial (receives : receiver.receivingChain =
    chainAt P chain receiver.receivingCount.toNat) :
    StandsAt chain receiver [] receiver where
  state := (accepting_start receives).symm
  small := by
    simpa [acceptedNumbers] using receiver.receivingCount.toNat_lt

theorem StandsAt.answersAs {past : List (Transition (RatchetState P) RatchetCall)}
    {transition : Transition (RatchetState P) RatchetCall} {message : ChainMessage}
    (stands : StandsAt chain receiver past transition.current)
    (others : ∀ entry ∈ receiver.skipped, entry.remoteDh ≠ receiver.remoteDh)
    (onChain : receiver.OnChain chain message) {entropy : Entropy}
    (isDecrypt : transition.event = .decrypt entropy message.frame)
    (step : CallStep transition.current transition.event transition.next) :
    receiver.AnswersAs chain (acceptedNumbers receiver past) transition message := by
  have counted : Finset.range receiver.receivingCount.toNat ⊆ acceptedNumbers receiver past :=
    Finset.subset_union_left
  have called := decrypt_accepting onChain others counted stands.small entropy
  rw [← stands.state] at called
  constructor
  · exact stands.state
  · rw [isDecrypt, RatchetCall.result, called]
  · rw [← (step : transition.event.after transition.current = transition.next), isDecrypt,
      RatchetCall.after, called]

theorem StandsAt.snoc {past : List (Transition (RatchetState P) RatchetCall)}
    {transition : Transition (RatchetState P) RatchetCall} {message : ChainMessage}
    (stands : StandsAt chain receiver past transition.current)
    (others : ∀ entry ∈ receiver.skipped, entry.remoteDh ≠ receiver.remoteDh)
    (onChain : receiver.OnChain chain message) {entropy : Entropy}
    (isDecrypt : transition.event = .decrypt entropy message.frame)
    (step : CallStep transition.current transition.event transition.next) :
    StandsAt chain receiver (past ++ [transition]) transition.next := by
  have answers := stands.answersAs others onChain isDecrypt step
  have numbers := acceptedNumbers_snoc isDecrypt answers.result
  constructor
  · rw [numbers]
    exact answers.next
  · rw [numbers]
    exact nextNumber_receive_lt stands.small onChain.room

theorem AnswersAs.answersAccepted {accepted : Finset Nat}
    {transition : Transition (RatchetState P) RatchetCall} {message : ChainMessage}
    (answers : receiver.AnswersAs chain accepted transition message)
    (small : nextNumber accepted < UInt32.size) :
    AnswersAccepted accepted transition message := by
  rcases answers with ⟨current, result, next⟩
  have count : transition.current.receivingCount.toNat = nextNumber accepted := by
    rw [current]
    exact receivingCount_accepting small
  have retained : transition.current.skipped.length =
      receiver.skipped.length + (missing accepted).length := by
    rw [current]
    simp [accepting]
  constructor
  · rw [result, answer, count, retained]
    by_cases known : message.number ∈ accepted
    · simp [known]
    · rw [if_neg known]
      split <;> rename_i admits <;> simpa [Admits, known] using admits
  · intro known
    have refused : ¬Admits maxSkippedKeys receiver.skipped.length accepted message.number :=
      fun admits => admits.1 known
    rw [result, next, current, answer, if_pos known, receive, if_neg refused]
    exact ⟨rfl, rfl⟩
  · intro new ahead exceeds
    rw [count] at ahead exceeds
    rw [retained] at exceeds
    have refused : ¬Admits maxSkippedKeys receiver.skipped.length accepted message.number :=
      fun admits => admits.2.elim (Nat.not_lt.mpr ahead) (Nat.not_le.mpr exceeds)
    rw [result, next, current, answer, if_neg new, if_neg refused, receive, if_neg refused]
    exact ⟨rfl, rfl⟩

end RatchetState

/-- A receiver of one chain refines the set of the numbers it has accepted, whatever
order the chain's frames come in. -/
theorem run_refinesAccepted {Key : Type} {P : Primitives Key} (aead : P.LawfulAead)
    {chain : Key} {sender senderFinal receiver final : RatchetState P}
    {sendings deliveries : List (Transition (RatchetState P) RatchetCall)}
    (receives : receiver.ReceivesFrom chain sender)
    (sending : Run CallStep sender sendings senderFinal)
    (oneChain : ∀ transition ∈ sendings, ∀ pair,
      ¬RatchetCall.DrawsPair transition.current transition.event pair)
    (run : Run CallStep receiver deliveries final)
    (genuine : ∀ transition ∈ deliveries,
      ∃ message, Delivers sendings transition.event message) :
    RefinesAccepted chain receiver final sendings deliveries := by
  have onChain {message : ChainMessage} (sent : message ∈ sendings.filterMap chainMessage) :
      receiver.OnChain chain message := by
    rcases List.mem_filterMap.mp sent with ⟨transition, member, returned⟩
    exact receives.onChain aead (receives.keepsChain sending oneChain member) returned
  have stands (past : List (Transition (RatchetState P) RatchetCall))
      (state : RatchetState P) (run : Run CallStep receiver past state)
      (genuine : ∀ transition ∈ past, ∃ message, Delivers sendings transition.event message) :
      RatchetState.StandsAt chain receiver past state := by
    refine run.history (.initial receives.receiving) ?_
    intro before transition after split _ step stands
    have member : transition ∈ past := split ▸ List.mem_append_right _ (List.mem_cons_self ..)
    rcases genuine transition member with ⟨message, sent, entropy, isDecrypt⟩
    exact stands.snoc receives.others (onChain sent) isDecrypt step
  have reached := stands deliveries final run genuine
  constructor
  · intro before transition after message split delivers
    rcases delivers with ⟨sent, entropy, isDecrypt⟩
    rw [split] at run genuine
    have here := stands before transition.current run.around.1 fun earlier member =>
      genuine earlier (List.mem_append_left _ member)
    exact (here.answersAs receives.others (onChain sent) isDecrypt
      run.around.2.1).answersAccepted here.small
  · rw [reached.state]
    exact RatchetState.receivingCount_accepting reached.small
  · rw [reached.state]
    rfl
  · exact reached.state

def repeatedCalls : List RatchetCall :=
  [.decrypt (constantEntropy 0) symbolicFrame, .decrypt (constantEntropy 0) symbolicFrame]

theorem receivesFrom_sample :
    (symbolicSession .responder).ReceivesFrom
      (symbolicSession .initiator).sendingChain (symbolicSession .initiator) where
  sessionId := rfl
  suite := rfl
  ratchetPublic := rfl
  sending := rfl
  receiving := rfl
  others _ member := absurd member List.not_mem_nil

theorem run_refinesAccepted_repeated :
    RefinesAccepted (symbolicSession .initiator).sendingChain (symbolicSession .responder)
      (repeatedCalls.foldl (fun state call => call.after state) (symbolicSession .responder))
      ((symbolicSession .initiator).trace [sampleCall])
      ((symbolicSession .responder).trace repeatedCalls) := by
  refine run_refinesAccepted Primitives.lawfulAead_symbolic receivesFrom_sample
    ((symbolicSession .initiator).run_trace [sampleCall]) ?_
    ((symbolicSession .responder).run_trace repeatedCalls) ?_
  · intro transition member pair draws
    rw [List.mem_singleton.mp member] at draws
    cases draws
  · intro transition member
    have sent : (⟨symbolicFrame, []⟩ : ChainMessage) ∈
        ((symbolicSession .initiator).trace [sampleCall]).filterMap chainMessage := by
      apply List.mem_filterMap.mpr
      refine ⟨_, List.mem_singleton_self _, ?_⟩
      simp only [chainMessage, result_sampleCall]
      rfl
    refine ⟨⟨symbolicFrame, []⟩, sent, constantEntropy 0, ?_⟩
    simp only [repeatedCalls, RatchetState.trace, List.mem_cons, List.not_mem_nil,
      or_false] at member
    rcases member with rfl | rfl <;> rfl

end Mef26
