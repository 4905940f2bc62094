import Mathlib.Data.List.Nodup
import Mef26.Ratchet.KeyLineage
import Mef26.Ratchet.KeyStore

namespace Mef26

/-! # One-time message keys

With key derivation that never collides, the store of an endpoint never hands out a
message key twice, over all its sending and receiving chains. -/

structure ChainCursor (Key : Type) where
  start : Key
  count : Nat

/-- Where a store stands: the depth of its root and its places on the two chains. -/
structure Standing (Key : Type) where
  depth : Nat
  sending : ChainCursor Key
  receiving : ChainCursor Key

variable {Key : Type}

namespace ChainCursor

variable (P : Primitives Key) (rootSecret : Key) (sessionId : FixedBytes 32)

def chain (cursor : ChainCursor Key) : Key := chainAt P cursor.start cursor.count

def forward (cursor : ChainCursor Key) (more : Nat) : ChainCursor Key where
  start := cursor.start
  count := cursor.count + more

/-- A place of a chain that the cursor has passed, or of another chain. -/
def Behind (cursor : ChainCursor Key) (start : Key) (index : Nat) : Prop :=
  start = cursor.start → index < cursor.count

/-- A cursor only moves forward, or to a chain that is still to come. -/
def Advances (depth : Nat) (cursor cursor' : ChainCursor Key) : Prop :=
  (cursor'.start = cursor.start ∧ cursor.count ≤ cursor'.count) ∨
    ∃ epoch, depth < epoch ∧ ChainStart P rootSecret sessionId epoch cursor'.start

variable {P rootSecret sessionId}

@[simp] theorem chain_forward (cursor : ChainCursor Key) (more : Nat) :
    (cursor.forward more).chain P = chainAt P (cursor.chain P) more :=
  chainAt_add P cursor.start cursor.count more

theorem advances_forward (depth : Nat) (cursor : ChainCursor Key) (more : Nat) :
    cursor.Advances P rootSecret sessionId depth (cursor.forward more) :=
  .inl ⟨rfl, Nat.le_add_right _ _⟩

theorem advances_self (depth : Nat) (cursor : ChainCursor Key) :
    cursor.Advances P rootSecret sessionId depth cursor :=
  .inl ⟨rfl, Nat.le_refl _⟩

end ChainCursor

namespace Standing

variable (P : Primitives Key) (rootSecret : Key) (sessionId : FixedBytes 32)

/-- The message keys whose numbers lie behind: they were taken out or retained. -/
def Passed (standing : Standing Key) (key : Key) : Prop :=
  ∃ start index, StartedBy P rootSecret sessionId standing.depth start ∧
    key = messageKeyAt P start index ∧
    standing.sending.Behind start index ∧ standing.receiving.Behind start index

structure Points (standing : Standing Key) (store : KeyStore Key) : Prop where
  root : Lineage (RootParent P) rootSecret standing.depth store.rootKey
  sending : store.sendingChain = standing.sending.chain P
  sendingStarted : StartedBy P rootSecret sessionId standing.depth standing.sending.start
  receiving : store.receivingChain = standing.receiving.chain P
  receivingStarted : StartedBy P rootSecret sessionId standing.depth standing.receiving.start
  apart : standing.sending.start ≠ standing.receiving.start

structure Locates (standing : Standing Key) (store : KeyStore Key) : Prop
    extends standing.Points P rootSecret sessionId store where
  passed : ∀ key ∈ store.retained, standing.Passed P rootSecret sessionId key
  distinct : store.retained.Nodup

/-- The message keys that are gone for good. -/
def Spent (standing : Standing Key) (store : KeyStore Key) (key : Key) : Prop :=
  standing.Passed P rootSecret sessionId key ∧ key ∉ store.retained

/-- What one move does to a store at a standing. -/
structure Follows (standing : Standing Key) (store : KeyStore Key) (taken : Option Key)
    (standing' : Standing Key) (after : KeyStore Key) : Prop where
  locates : standing'.Locates P rootSecret sessionId after
  spent : ∀ key, standing.Spent P rootSecret sessionId store key →
    standing'.Spent P rootSecret sessionId after key
  taken : ∀ key, taken = some key →
    ¬standing.Spent P rootSecret sessionId store key ∧
      standing'.Spent P rootSecret sessionId after key

end Standing

variable {P : Primitives Key} {rootSecret : Key} {sessionId : FixedBytes 32}

section Moves

variable (kdf : P.CollisionFreeKdf) (derived : HandshakeRoot P rootSecret)

include kdf derived

theorem ChainCursor.Behind.mono {depth : Nat} {cursor cursor' : ChainCursor Key}
    {start : Key} {index : Nat} (advances : cursor.Advances P rootSecret sessionId depth cursor')
    (started : StartedBy P rootSecret sessionId depth start)
    (behind : cursor.Behind start index) :
    cursor'.Behind start index := by
  intro equal
  subst equal
  rcases advances with ⟨same, ordered⟩ | ⟨epoch, deeper, later⟩
  · exact Nat.lt_of_lt_of_le (behind same) ordered
  · exact absurd rfl (kdf.ne_of_startedBy derived started later deeper)

structure Standing.Advances (P : Primitives Key) (rootSecret : Key) (sessionId : FixedBytes 32)
    (standing standing' : Standing Key) : Prop where
  deeper : standing.depth ≤ standing'.depth
  sending : standing.sending.Advances P rootSecret sessionId standing.depth standing'.sending
  receiving : standing.receiving.Advances P rootSecret sessionId standing.depth standing'.receiving

theorem Standing.Passed.mono {standing standing' : Standing Key} {key : Key}
    (advances : standing.Advances P rootSecret sessionId standing')
    (passed : standing.Passed P rootSecret sessionId key) :
    standing'.Passed P rootSecret sessionId key := by
  rcases passed with ⟨start, index, started, placed, sent, received⟩
  exact ⟨start, index, started.mono advances.deeper, placed,
    sent.mono kdf derived advances.sending started,
    received.mono kdf derived advances.receiving started⟩

theorem Standing.Locates.follows {standing standing' : Standing Key}
    {store after : KeyStore Key} {taken : Option Key} {kept : List Key}
    (locates : standing.Locates P rootSecret sessionId store)
    (advances : standing.Advances P rootSecret sessionId standing')
    (points : standing'.Points P rootSecret sessionId after)
    (retained : after.retained = store.retained ++ kept)
    (keptPassed : ∀ key ∈ kept,
      ¬standing.Passed P rootSecret sessionId key ∧ standing'.Passed P rootSecret sessionId key)
    (keptDistinct : kept.Nodup)
    (takenPassed : ∀ key, taken = some key → ¬standing.Passed P rootSecret sessionId key ∧
      standing'.Passed P rootSecret sessionId key ∧ key ∉ kept) :
    standing.Follows P rootSecret sessionId store taken standing' after where
  locates :=
    { points with
      passed := by
        intro key member
        rw [retained, List.mem_append] at member
        rcases member with old | new
        · exact (locates.passed key old).mono kdf derived advances
        · exact (keptPassed key new).2
      distinct := by
        rw [retained, List.nodup_append]
        refine ⟨locates.distinct, keptDistinct, ?_⟩
        intro key old _ new same
        subst same
        exact (keptPassed key new).1 (locates.passed key old) }
  spent := by
    intro key spent
    rcases spent with ⟨passed, gone⟩
    refine ⟨passed.mono kdf derived advances, ?_⟩
    rw [retained, List.mem_append]
    intro either
    rcases either with old | new
    · exact gone old
    · exact (keptPassed key new).1 passed
  taken := by
    intro key isTaken
    rcases takenPassed key isTaken with ⟨unpassed, passed, notKept⟩
    refine ⟨fun spent => unpassed spent.1, passed, ?_⟩
    rw [retained, List.mem_append]
    intro either
    rcases either with old | new
    · exact unpassed (locates.passed key old)
    · exact notKept new

theorem Standing.Locates.follows_keeping {standing standing' : Standing Key}
    {store after : KeyStore Key} {taken : Option Key}
    (locates : standing.Locates P rootSecret sessionId store)
    (advances : standing.Advances P rootSecret sessionId standing')
    (points : standing'.Points P rootSecret sessionId after)
    (retained : after.retained = store.retained)
    (takenPassed : ∀ key, taken = some key → ¬standing.Passed P rootSecret sessionId key ∧
      standing'.Passed P rootSecret sessionId key) :
    standing.Follows P rootSecret sessionId store taken standing' after := by
  have extended : after.retained = store.retained ++ [] := by
    rw [retained, List.append_nil]
  apply locates.follows kdf derived advances points extended (by simp) List.nodup_nil
  intro key isTaken
  have moved := takenPassed key isTaken
  exact ⟨moved.1, moved.2, List.not_mem_nil⟩

end Moves

section Cursors

variable (kdf : P.CollisionFreeKdf)

include kdf

theorem ChainCursor.not_behind {cursor : ChainCursor Key} {depth index offset : Nat}
    {start : Key} (here : StartedBy P rootSecret sessionId depth cursor.start)
    (started : StartedBy P rootSecret sessionId depth start)
    (same : messageKeyAt P (cursor.chain P) offset = messageKeyAt P start index) :
    ¬cursor.Behind start index := by
  rcases here with ⟨_, _, here⟩
  rcases started with ⟨_, _, started⟩
  rw [ChainCursor.chain, messageKeyAt_chainAt] at same
  rcases kdf.messageKeyAt_eq here started same with ⟨starts, indices⟩
  intro behind
  have bound := behind starts.symm
  omega

namespace Standing

variable {standing : Standing Key} {store : KeyStore Key}

theorem not_passed_sending (points : standing.Points P rootSecret sessionId store)
    (offset : Nat) :
    ¬standing.Passed P rootSecret sessionId (messageKeyAt P store.sendingChain offset) := by
  intro passed
  rcases passed with ⟨start, index, started, same, behind, _⟩
  rw [points.sending] at same
  exact ChainCursor.not_behind kdf points.sendingStarted started same behind

theorem not_passed_receiving (points : standing.Points P rootSecret sessionId store)
    (offset : Nat) :
    ¬standing.Passed P rootSecret sessionId (messageKeyAt P store.receivingChain offset) := by
  intro passed
  rcases passed with ⟨start, index, started, same, _, behind⟩
  rw [points.receiving] at same
  exact ChainCursor.not_behind kdf points.receivingStarted started same behind

omit kdf

theorem passed_sending (points : standing.Points P rootSecret sessionId store)
    {offset more : Nat}
    (inside : offset < more) :
    Passed P rootSecret sessionId { standing with sending := standing.sending.forward more }
      (messageKeyAt P store.sendingChain offset) := by
  refine ⟨standing.sending.start, standing.sending.count + offset, points.sendingStarted,
    ?_, fun _ => Nat.add_lt_add_left inside _, fun same => absurd same points.apart⟩
  rw [points.sending, ChainCursor.chain, messageKeyAt_chainAt]

theorem passed_receiving (points : standing.Points P rootSecret sessionId store)
    {offset more : Nat}
    (inside : offset < more) :
    Passed P rootSecret sessionId { standing with receiving := standing.receiving.forward more }
      (messageKeyAt P store.receivingChain offset) := by
  refine ⟨standing.receiving.start, standing.receiving.count + offset,
    points.receivingStarted, ?_, fun same => absurd same.symm points.apart,
    fun _ => Nat.add_lt_add_left inside _⟩
  rw [points.receiving, ChainCursor.chain, messageKeyAt_chainAt]

end Standing

end Cursors

section Moves

variable (kdf : P.CollisionFreeKdf) (derived : HandshakeRoot P rootSecret)
  {standing : Standing Key} {store : KeyStore Key}

include kdf

theorem nodup_nextKeys {standing : Standing Key} {store : KeyStore Key}
    (points : standing.Points P rootSecret sessionId store) (count : Nat) :
    (nextKeys P store.receivingChain count).Nodup := by
  refine List.Nodup.map_on ?_ List.nodup_range
  intro first _ second _ same
  rcases points.receivingStarted with ⟨_, _, started⟩
  rw [points.receiving, ChainCursor.chain, messageKeyAt_chainAt, messageKeyAt_chainAt] at same
  have indices := (kdf.messageKeyAt_eq started started same).2
  omega

include derived

theorem Standing.follows_send (locates : standing.Locates P rootSecret sessionId store) :
    Follows P rootSecret sessionId standing store (some (messageKeyOf P store.sendingChain))
      { standing with sending := standing.sending.forward 1 }
      { store with sendingChain := chainNext P store.sendingChain } := by
  refine locates.follows_keeping kdf derived ?_ ?_ rfl ?_
  · exact ⟨Nat.le_refl _, ChainCursor.advances_forward _ _ _, ChainCursor.advances_self _ _⟩
  · refine { locates.toPoints with sending := ?_ }
    rw [ChainCursor.chain_forward, ← locates.sending]
    rfl
  · intro _ called
    cases called
    exact ⟨Standing.not_passed_sending kdf locates.toPoints 0,
      Standing.passed_sending locates.toPoints Nat.one_pos⟩

theorem Standing.follows_receive (locates : standing.Locates P rootSecret sessionId store) :
    Follows P rootSecret sessionId standing store (some (messageKeyOf P store.receivingChain))
      { standing with receiving := standing.receiving.forward 1 }
      { store with receivingChain := chainNext P store.receivingChain } := by
  refine locates.follows_keeping kdf derived ?_ ?_ rfl ?_
  · exact ⟨Nat.le_refl _, ChainCursor.advances_self _ _, ChainCursor.advances_forward _ _ _⟩
  · refine { locates.toPoints with receiving := ?_ }
    rw [ChainCursor.chain_forward, ← locates.receiving]
    rfl
  · intro _ called
    cases called
    exact ⟨Standing.not_passed_receiving kdf locates.toPoints 0,
      Standing.passed_receiving locates.toPoints Nat.one_pos⟩

theorem Standing.follows_skip (locates : standing.Locates P rootSecret sessionId store)
    (count : Nat) {kept : List Key}
    (sublist : kept.Sublist (nextKeys P store.receivingChain count)) :
    Follows P rootSecret sessionId standing store none
      { standing with receiving := standing.receiving.forward count }
      { store with
        receivingChain := chainAt P store.receivingChain count
        retained := store.retained ++ kept } := by
  refine locates.follows kdf derived ?_ ?_ rfl ?_
    ((nodup_nextKeys kdf locates.toPoints count).sublist sublist) (by simp)
  · exact ⟨Nat.le_refl _, ChainCursor.advances_self _ _, ChainCursor.advances_forward _ _ _⟩
  · refine { locates.toPoints with receiving := ?_ }
    rw [ChainCursor.chain_forward, ← locates.receiving]
  · intro key member
    rcases List.mem_map.mp (sublist.subset member) with ⟨offset, inside, rfl⟩
    exact ⟨Standing.not_passed_receiving kdf locates.toPoints offset,
      Standing.passed_receiving locates.toPoints (List.mem_range.mp inside)⟩

omit kdf derived in
theorem Standing.Points.opens (points : standing.Points P rootSecret sessionId store)
    (output : Key) :
    ChainStart P rootSecret sessionId (standing.depth + 1) (rootChain P store.rootKey output) :=
  .stepped output points.root

omit kdf derived in
theorem Standing.Points.steps (points : standing.Points P rootSecret sessionId store)
    (output : Key) :
    Lineage (RootParent P) rootSecret (standing.depth + 1)
      (nextRoot P store.rootKey output) :=
  .child points.root ⟨output, rfl⟩

theorem Standing.follows_stepSending (locates : standing.Locates P rootSecret sessionId store)
    (output : Key) :
    Follows P rootSecret sessionId standing store none
      { standing with
        depth := standing.depth + 1
        sending := ⟨rootChain P store.rootKey output, 0⟩ }
      { store with
        rootKey := nextRoot P store.rootKey output
        sendingChain := rootChain P store.rootKey output } := by
  have opened := locates.opens output
  refine locates.follows_keeping kdf derived ?_ ?_ rfl (by simp)
  · exact ⟨Nat.le_succ _, .inr ⟨_, Nat.lt_succ_self _, opened⟩, ChainCursor.advances_self _ _⟩
  · exact {
      root := locates.steps output
      sending := rfl
      sendingStarted := ⟨_, Nat.le_refl _, opened⟩
      receiving := locates.receiving
      receivingStarted := locates.receivingStarted.mono (Nat.le_succ _)
      apart := (kdf.ne_of_startedBy derived locates.receivingStarted opened
        (Nat.lt_succ_self _)).symm }

theorem Standing.follows_stepReceiving (locates : standing.Locates P rootSecret sessionId store)
    (output : Key) :
    Follows P rootSecret sessionId standing store none
      { standing with
        depth := standing.depth + 1
        receiving := ⟨rootChain P store.rootKey output, 0⟩ }
      { store with
        rootKey := nextRoot P store.rootKey output
        receivingChain := rootChain P store.rootKey output } := by
  have opened := locates.opens output
  refine locates.follows_keeping kdf derived ?_ ?_ rfl (by simp)
  · exact ⟨Nat.le_succ _, ChainCursor.advances_self _ _, .inr ⟨_, Nat.lt_succ_self _, opened⟩⟩
  · exact {
      root := locates.steps output
      sending := locates.sending
      sendingStarted := locates.sendingStarted.mono (Nat.le_succ _)
      receiving := rfl
      receivingStarted := ⟨_, Nat.le_refl _, opened⟩
      apart := kdf.ne_of_startedBy derived locates.sendingStarted opened
        (Nat.lt_succ_self _) }

omit kdf derived in
theorem Standing.follows_release (locates : standing.Locates P rootSecret sessionId store)
    {index : Nat} {key : Key} (element : store.retained[index]? = some key) :
    Follows P rootSecret sessionId standing store (some key) standing
      { store with retained := store.retained.eraseIdx index } where
  locates :=
    { locates.toPoints with
      passed := fun other member =>
        locates.passed other (List.mem_of_mem_eraseIdx member)
      distinct := locates.distinct.sublist (List.eraseIdx_sublist _ _) }
  spent := by
    intro other spent
    rcases spent with ⟨passed, gone⟩
    exact ⟨passed, fun member => gone (List.mem_of_mem_eraseIdx member)⟩
  taken := by
    intro _ isTaken
    cases isTaken
    have member : key ∈ store.retained := List.mem_of_getElem? element
    refine ⟨fun spent => spent.2 member, locates.passed key member, ?_⟩
    rw [List.mem_eraseIdx_iff_getElem?]
    intro kept
    rcases kept with ⟨other, different, same⟩
    have inside := (List.getElem?_eq_some_iff.mp same).1
    exact different
      ((List.getElem?_inj inside locates.distinct).mp (same.trans element.symm))

theorem Standing.exists_follows {taken : Option Key} {after : KeyStore Key}
    (locates : standing.Locates P rootSecret sessionId store)
    (move : KeyMove P store taken after) :
    ∃ standing', Follows P rootSecret sessionId standing store taken standing' after := by
  cases move with
  | send => exact ⟨_, follows_send kdf derived locates⟩
  | receive => exact ⟨_, follows_receive kdf derived locates⟩
  | release _ _ element => exact ⟨_, follows_release locates element⟩
  | skip count _ sublist => exact ⟨_, follows_skip kdf derived locates count sublist⟩
  | stepSending output => exact ⟨_, follows_stepSending kdf derived locates output⟩
  | stepReceiving output => exact ⟨_, follows_stepReceiving kdf derived locates output⟩

/-- Over a run no key is taken out twice, none that was spent before is taken out, and
all that were are spent at its end. -/
theorem keysTaken_nodup {start final : KeyStore Key}
    {moves : List (Transition (KeyStore Key) (Option Key))}
    (run : Run (KeyMove P) start moves final)
    (locates : standing.Locates P rootSecret sessionId start) :
    (keysTaken moves).Nodup ∧
      (∀ key ∈ keysTaken moves, ¬standing.Spent P rootSecret sessionId start key) ∧
      ∃ standing' : Standing Key, standing'.Locates P rootSecret sessionId final ∧
        ∀ key, standing.Spent P rootSecret sessionId start key ∨ key ∈ keysTaken moves →
          standing'.Spent P rootSecret sessionId final key := by
  induction run generalizing standing with
  | nil state =>
      exact ⟨List.nodup_nil, by simp [keysTaken], standing, locates, by simp [keysTaken]⟩
  | @cons current taken middle rest final move run induction =>
      rcases Standing.exists_follows kdf derived locates move with ⟨next, follows⟩
      rcases induction follows.locates with ⟨distinct, unspent, standing', located, spent⟩
      have earlier (key : Key) (member : key ∈ keysTaken rest) :
          ¬standing.Spent P rootSecret sessionId current key :=
        fun before => unspent key member (follows.spent key before)
      cases taken with
      | none =>
          refine ⟨distinct, earlier, standing', located, ?_⟩
          intro key either
          rcases either with before | member
          · exact spent key (.inl (follows.spent key before))
          · exact spent key (.inr member)
      | some key =>
          rcases follows.taken key rfl with ⟨fresh, gone⟩
          refine ⟨List.nodup_cons.mpr ⟨fun again => unspent key again gone, distinct⟩, ?_,
            standing', located, ?_⟩
          · exact List.forall_mem_cons.mpr ⟨fresh, earlier⟩
          · intro other either
            rcases either with before | member
            · exact spent other (.inl (follows.spent other before))
            · rcases List.mem_cons.mp member with rfl | later
              · exact spent _ (.inl gone)
              · exact spent other (.inr later)

def Standing.initial (handshake : AuthenticatedHandshake P) : Standing Key where
  depth := 0
  sending := ⟨initialChain P handshake.role handshake.rootSecret handshake.sessionId, 0⟩
  receiving :=
    ⟨initialChain P handshake.role.peer handshake.rootSecret handshake.sessionId, 0⟩

omit derived in
theorem Standing.locates_fresh (handshake : AuthenticatedHandshake P) (suite : AeadSuite) :
    (Standing.initial handshake).Locates P handshake.rootSecret handshake.sessionId
      (RatchetState.fresh handshake suite).keyStore where
  root := .self
  sending := rfl
  sendingStarted := ⟨0, Nat.le_refl _, .initial _⟩
  receiving := rfl
  receivingStarted := ⟨0, Nat.le_refl _, .initial _⟩
  apart := fun same => handshake.role.peer_ne (kdf.initialChain_eq same).symm
  passed := by simp [RatchetState.keyStore, RatchetState.fresh]
  distinct := List.nodup_nil

omit derived in
theorem exists_standing_of_run {handshake : AuthenticatedHandshake P} {suite : AeadSuite}
    (derived : HandshakeRoot P handshake.rootSecret) {final : RatchetState P}
    {transitions : List (Transition (RatchetState P) RatchetCall)}
    (run : Run CallStep (RatchetState.fresh handshake suite) transitions final) :
    ∃ standing : Standing Key,
      standing.Locates P handshake.rootSecret handshake.sessionId final.keyStore ∧
        ∀ transition ∈ transitions, ∀ key,
          RatchetCall.UsesKey transition.current transition.event key →
            standing.Spent P handshake.rootSecret handshake.sessionId final.keyStore key := by
  rcases RatchetCall.exists_keyMoves_of_run run with ⟨moves, moved, taken⟩
  rcases (keysTaken_nodup kdf derived moved (Standing.locates_fresh kdf handshake suite)).2.2
    with ⟨standing, locates, spent⟩
  refine ⟨standing, locates, ?_⟩
  intro transition member key uses
  exact spent key (.inr (taken transition member key uses))

omit derived in
/-- No endpoint works with a message key a second time. -/
theorem usesKey_once_of_run {handshake : AuthenticatedHandshake P} {suite : AeadSuite}
    (derived : HandshakeRoot P handshake.rootSecret) {state : RatchetState P}
    {past : List (Transition (RatchetState P) RatchetCall)}
    (run : Run CallStep (RatchetState.fresh handshake suite) past state)
    {earlier : Transition (RatchetState P) RatchetCall} (member : earlier ∈ past)
    {call : RatchetCall} {key : Key}
    (used : RatchetCall.UsesKey earlier.current earlier.event key) :
    ¬RatchetCall.UsesKey state call key := by
  intro uses
  rcases exists_standing_of_run kdf derived run with ⟨standing, locates, spent⟩
  rcases call.exists_keyMoves state with ⟨moves, moved, taken⟩
  have unspent := (keysTaken_nodup kdf derived moved locates).2.1
  exact unspent key ((taken key).mpr uses) (spent earlier member key used)

end Moves

end Mef26
