import Mef26.Secrecy.Knowledge
import Mef26.Session.Session

namespace Mef26

/-! # Forward secrecy

Which message keys the state of an endpoint gives away after the endpoint has worked
with them. -/

variable {Key : Type} {P : Primitives Key}

def Consumed (transitions : List (Transition (RatchetState P) RatchetCall)) (key : Key) :
    Prop :=
  ∃ transition ∈ transitions,
    RatchetCall.UsesKey transition.current transition.event key

def RootStepped (transitions : List (Transition (RatchetState P) RatchetCall)) : Prop :=
  ∃ transition ∈ transitions, ∃ pair,
    RatchetCall.DrawsPair transition.current transition.event pair

/-! ## What a store keeps to itself -/

/-- The keys that lie behind a store: other roots down to its depth, chain keys before
its places, and message keys that are gone. -/
inductive Standing.Hides (P : Primitives Key) (rootSecret : Key) (sessionId : FixedBytes 32)
    (standing : Standing Key) (store : KeyStore Key) : Key → Prop
  | root {depth : Nat} {root : Key} (bound : depth ≤ standing.depth)
      (lineage : Lineage (RootParent P) rootSecret depth root)
      (other : root ≠ store.rootKey) : Hides P rootSecret sessionId standing store root
  | chain {start : Key} {index : Nat}
      (started : StartedBy P rootSecret sessionId standing.depth start)
      (sent : standing.sending.Behind start index)
      (received : standing.receiving.Behind start index) :
      Hides P rootSecret sessionId standing store (chainAt P start index)
  | message {key : Key} (spent : standing.Spent P rootSecret sessionId store key) :
      Hides P rootSecret sessionId standing store key

section Hiding

variable (free : P.FreeSymbols) {rootSecret : Key} {sessionId : FixedBytes 32}
  (derived : HandshakeRoot P rootSecret) {standing : Standing Key} {store : KeyStore Key}

namespace Standing

theorem Passed.derivedUnder {key : Key} (passed : standing.Passed P rootSecret sessionId key) :
    DerivedUnder P [messageKeyLabel] key := by
  rcases passed with ⟨start, index, _, rfl, _, _⟩
  exact derivedUnder_message _

theorem Hides.earlier {start : Key} {index : Nat}
    (started : StartedBy P rootSecret sessionId standing.depth start)
    (sent : standing.sending.Behind start (index + 1))
    (received : standing.receiving.Behind start (index + 1)) :
    Hides P rootSecret sessionId standing store (chainAt P start index) :=
  .chain started (fun same => Nat.lt_of_succ_lt (sent same))
    (fun same => Nat.lt_of_succ_lt (received same))

include derived

theorem Hides.derivedUnder {key : Key}
    (hides : Hides P rootSecret sessionId standing store key) :
    ∃ labels, DerivedUnder P labels key := by
  cases hides with
  | root _ lineage _ => exact ⟨_, derivedUnder_root derived lineage⟩
  | chain started _ _ =>
      rcases started with ⟨epoch, _, started⟩
      exact ⟨_, derivedUnder_chain started _⟩
  | message spent => exact ⟨_, spent.1.derivedUnder⟩

include free

omit derived in
theorem Hides.of_root {key : Key}
    (hides : Hides P rootSecret sessionId standing store key)
    (isRoot : DerivedUnder P rootLabels key) :
    key ≠ store.rootKey ∧
      ∃ depth ≤ standing.depth, Lineage (RootParent P) rootSecret depth key := by
  cases hides with
  | @root depth _ bound lineage other => exact ⟨other, depth, bound, lineage⟩
  | chain started _ _ =>
      rcases started with ⟨epoch, _, started⟩
      exact absurd rfl
        (free.kdf.kinds_apart (by decide) isRoot (derivedUnder_chain started _))
  | message spent =>
      exact absurd rfl (free.kdf.kinds_apart (by decide) isRoot spent.1.derivedUnder)

theorem Hides.of_chain {key : Key}
    (hides : Hides P rootSecret sessionId standing store key)
    (isChain : DerivedUnder P chainLabels key) :
    ∃ start index, key = chainAt P start index ∧
      StartedBy P rootSecret sessionId standing.depth start ∧
      standing.sending.Behind start index ∧ standing.receiving.Behind start index := by
  cases hides with
  | root _ lineage _ =>
      exact absurd rfl
        (free.kdf.kinds_apart (by decide) isChain (derivedUnder_root derived lineage))
  | @chain start index started sent received =>
      exact ⟨start, index, rfl, started, sent, received⟩
  | message spent =>
      exact absurd rfl (free.kdf.kinds_apart (by decide) isChain spent.1.derivedUnder)

theorem Hides.of_message {key : Key}
    (hides : Hides P rootSecret sessionId standing store key)
    (isMessage : DerivedUnder P [messageKeyLabel] key) :
    standing.Spent P rootSecret sessionId store key := by
  cases hides with
  | root _ lineage _ =>
      exact absurd rfl
        (free.kdf.kinds_apart (by decide) isMessage (derivedUnder_root derived lineage))
  | chain started _ _ =>
      rcases started with ⟨epoch, _, started⟩
      exact absurd rfl
        (free.kdf.kinds_apart (by decide) isMessage (derivedUnder_chain started _))
  | message spent => exact spent

omit derived in
theorem not_behind_here {cursor : ChainCursor Key} {start : Key} {index : Nat}
    (here : StartedBy P rootSecret sessionId standing.depth cursor.start)
    (started : StartedBy P rootSecret sessionId standing.depth start)
    (same : cursor.chain P = chainAt P start index) : ¬cursor.Behind start index := by
  intro behind
  rcases here with ⟨_, _, here⟩
  rcases started with ⟨_, _, started⟩
  have place := free.kdf.chainAt_eq here started same
  have passed := behind place.1.symm
  omega

theorem not_hides_of_holds {state : RatchetState P} {key : Key}
    (locates : standing.Locates P rootSecret sessionId state.keyStore)
    (holds : state.Holds key) :
    ¬Hides P rootSecret sessionId standing state.keyStore key := by
  intro hides
  cases holds with
  | rootKey =>
      have isRoot := derivedUnder_root derived locates.root
      exact (hides.of_root free isRoot).1 rfl
  | sendingChain =>
      have sending : state.sendingChain = standing.sending.chain P := locates.sending
      rcases locates.sendingStarted with ⟨_, _, here⟩
      have isChain := derivedUnder_chain here standing.sending.count
      rw [← ChainCursor.chain, ← sending] at isChain
      rcases hides.of_chain free derived isChain
        with ⟨start, index, same, started, behind, _⟩
      rw [sending] at same
      exact not_behind_here free locates.sendingStarted started same behind
  | receivingChain =>
      have receiving : state.receivingChain = standing.receiving.chain P := locates.receiving
      rcases locates.receivingStarted with ⟨_, _, here⟩
      have isChain := derivedUnder_chain here standing.receiving.count
      rw [← ChainCursor.chain, ← receiving] at isChain
      rcases hides.of_chain free derived isChain
        with ⟨start, index, same, started, _, behind⟩
      rw [receiving] at same
      exact not_behind_here free locates.receivingStarted started same behind
  | skipped entry member =>
      have retained : entry.key ∈ state.keyStore.retained :=
        List.mem_map_of_mem (f := SkippedMessageKey.key) member
      have isMessage := (locates.passed _ retained).derivedUnder
      exact (hides.of_message free derived isMessage).2 retained

/-! ## No derivation reaches behind a store -/

variable (points : standing.Points P rootSecret sessionId store)

include points

theorem hides_above {depth : Nat} {root : Key} (bound : depth < standing.depth)
    (lineage : Lineage (RootParent P) rootSecret depth root) :
    Hides P rootSecret sessionId standing store root := by
  apply Hides.root (Nat.le_of_lt bound) lineage
  intro current
  have origin := free.kdf.isOrigin_handshakeRoot derived
  rw [current] at lineage
  have depths := (Lineage.unique free.kdf.uniqueParents_root origin origin lineage
    points.root).2
  omega

theorem Hides.parent_root {root output : Key}
    (hides : Hides P rootSecret sessionId standing store (nextRoot P root output)) :
    Hides P rootSecret sessionId standing store root := by
  have isRoot : DerivedUnder P rootLabels (nextRoot P root output) :=
    ⟨ratchetRootLabel, by decide, _, _, rfl⟩
  rcases (hides.of_root free isRoot).2 with ⟨depth, bound, lineage⟩
  generalize same : nextRoot P root output = next at lineage
  cases lineage with
  | self =>
      rw [← same] at derived
      exact absurd ⟨output, rfl⟩ (free.kdf.isOrigin_handshakeRoot derived root)
  | @child depth above _ lineage step =>
      rcases step with ⟨output', rfl⟩
      rw [(free.kdf.nextRoot_eq same).1]
      exact hides_above free derived points bound lineage

omit points in
/-- A hidden chain that was opened from a root belongs to an epoch of the session, and
the store has sent on it if it is the sending chain. -/
theorem Hides.of_chainOfRoot {next output : Key}
    (hides : Hides P rootSecret sessionId standing store (chainOfRoot P next output)) :
    ∃ depth root, depth < standing.depth ∧
      Lineage (RootParent P) rootSecret depth root ∧ next = nextRoot P root output ∧
      standing.sending.Behind (chainOfRoot P next output) 0 := by
  have isChain : DerivedUnder P chainLabels (chainOfRoot P next output) :=
    ⟨rootChainLabel, by decide, _, _, rfl⟩
  rcases hides.of_chain free derived isChain
    with ⟨start, index, same, ⟨epoch, bound, started⟩, sent, _⟩
  cases index with
  | succ index =>
      rw [chainAt_succ] at same
      exact absurd (free.kdf.label_eq same) (by decide)
  | zero =>
      rw [chainAt_zero] at same
      subst same
      generalize opened : chainOfRoot P next output = start at started
      cases started with
      | initial role =>
          have labels := free.kdf.label_eq opened
          revert labels
          cases role <;> simp [rootChainLabel, initAToBLabel, initBToALabel]
      | @stepped depth root output' lineage =>
          rcases free.kdf _ _ _ _ _ _ opened with ⟨salts, _, inputs⟩
          have outputs := KeyMaterial.ofKey_injective inputs
          subst outputs
          rw [← opened]
          exact ⟨depth, root, bound, lineage, KeyMaterial.ofKey_injective salts, sent⟩

theorem Hides.parent_rootChain {root output : Key}
    (hides : Hides P rootSecret sessionId standing store (rootChain P root output)) :
    Hides P rootSecret sessionId standing store root := by
  rcases Hides.of_chainOfRoot free derived hides
    with ⟨depth, root', bound, lineage, same, _⟩
  rw [(free.kdf.nextRoot_eq same).1]
  exact hides_above free derived points bound lineage

/-- Behind a store whose root has moved, the code's derivations only lead from hidden
keys to hidden keys. -/
theorem guarded_code (moved : standing.depth ≠ 0) {held : DhSecretKey → Prop}
    {premises : List Key} {key : Key} (applied : CodeDerives P held premises key)
    (hides : Hides P rootSecret sessionId standing store key) :
    ∃ premise ∈ premises, Hides P rootSecret sessionId standing store premise := by
  cases applied with
  | nextChain chainKey =>
      have isChain : DerivedUnder P chainLabels (chainNext P chainKey) :=
        ⟨chainKeyLabel, by decide, _, _, rfl⟩
      rcases hides.of_chain free derived isChain
        with ⟨start, index, same, started, sent, received⟩
      cases index with
      | zero =>
          rcases started with ⟨_, _, started⟩
          exact absurd same (free.kdf.isOrigin_chainStart started chainKey)
      | succ index =>
          rw [chainAt_succ] at same
          rw [free.kdf.chainNext_injective same]
          exact ⟨_, List.mem_cons_self .., .earlier started sent received⟩
  | messageKey chainKey =>
      have isMessage : DerivedUnder P [messageKeyLabel] (messageKeyOf P chainKey) :=
        derivedUnder_message chainKey
      rcases (hides.of_message free derived isMessage).1
        with ⟨start, index, started, same, sent, received⟩
      rw [free.kdf.messageKeyOf_injective same]
      exact ⟨_, List.mem_cons_self .., .chain started sent received⟩
  | nextRoot root output =>
      exact ⟨root, List.mem_cons_self .., hides.parent_root free derived points⟩
  | rootChain root output =>
      exact ⟨root, List.mem_cons_self .., hides.parent_rootChain free derived points⟩
  | initialChain role root sessionId' =>
      have isChain : DerivedUnder P chainLabels (initialChain P role root sessionId') := by
        cases role
        · exact ⟨initAToBLabel, by decide, _, _, rfl⟩
        · exact ⟨initBToALabel, by decide, _, _, rfl⟩
      rcases hides.of_chain free derived isChain
        with ⟨start, index, same, ⟨epoch, _, started⟩, _, _⟩
      cases index with
      | succ index =>
          rw [chainAt_succ] at same
          have started := @ChainStart.initial _ P root sessionId' role
          exact absurd same.symm (free.kdf.isOrigin_chainStart started _)
      | zero =>
          rw [chainAt_zero] at same
          cases started with
          | stepped output lineage => exact absurd same free.kdf.initialChain_ne_rootChain
          | initial role' =>
              have salts := (free.kdf _ _ _ _ _ _ same).1
              rw [KeyMaterial.ofKey_injective salts]
              refine ⟨_, List.mem_cons_self .., .root (Nat.zero_le _) .self ?_⟩
              intro current
              have origin := free.kdf.isOrigin_handshakeRoot derived
              have here := points.root
              rw [← current] at here
              exact moved (Lineage.unique free.kdf.uniqueParents_root origin origin here
                .self).2
  | @agreement secret peer isHeld =>
      rcases hides.derivedUnder derived with ⟨labels, isDerived⟩
      exact absurd isDerived (free.agreement_not_derivedUnder secret peer)

/-- With a sending chain that is still at its start, taking a root step apart leads no
further. -/
theorem guarded_parts (moved : standing.depth ≠ 0)
    (unused : ∀ root output, store.rootKey = nextRoot P root output →
      store.sendingChain = rootChain P root output) {held : DhSecretKey → Prop}
    {premises : List Key} {key : Key} (applied : PartsDerive P held premises key)
    (hides : Hides P rootSecret sessionId standing store key) :
    ∃ premise ∈ premises, Hides P rootSecret sessionId standing store premise := by
  cases applied with
  | code applied => exact guarded_code free derived points moved applied hides
  | chainOfRoot next output =>
      refine ⟨next, List.mem_cons_self .., ?_⟩
      rcases Hides.of_chainOfRoot free derived hides
        with ⟨depth, root, bound, lineage, rfl, behind⟩
      apply Hides.root bound (.child lineage ⟨output, rfl⟩)
      intro current
      have sending := unused root output current.symm
      rw [points.sending, ChainCursor.chain] at sending
      rcases points.sendingStarted with ⟨_, _, here⟩
      have place : _ ∧ _ = 0 :=
        free.kdf.chainAt_eq here (.stepped output lineage) sending
      have passed := behind place.1.symm
      omega

end Standing

end Hiding

/-! ## The keys of a run -/

def RatchetState.rootOutput (state : RatchetState P) : Key :=
  P.x25519 state.dhPair.secret state.remoteDh

/-- Either the root is still that of the handshake, or the last root step has also
opened the sending chain. -/
inductive RootTrace (rootSecret : Key)
    (past : List (Transition (RatchetState P) RatchetCall)) (state : RatchetState P) : Prop
  | still (unstepped : ¬RootStepped past) (root : state.rootKey = rootSecret)
  | stepped (root : Key) (stepped : RootStepped past)
      (current : state.rootKey = nextRoot P root state.rootOutput)
      (chain : state.sendingChain =
        chainAt P (rootChain P root state.rootOutput) state.sendingCount.toNat)
      (first : state.sendingCount ≠ 0 →
        Consumed past (messageKeyOf P (rootChain P root state.rootOutput)))

section Traces

variable {past : List (Transition (RatchetState P) RatchetCall)} {state after : RatchetState P}
  {call : RatchetCall} {rootSecret : Key}

theorem rootStepped_snoc (transition : Transition (RatchetState P) RatchetCall) :
    RootStepped (past ++ [transition]) ↔ RootStepped past ∨
      ∃ pair, RatchetCall.DrawsPair transition.current transition.event pair := by
  simp only [RootStepped, List.mem_append, List.mem_singleton, or_and_right, exists_or,
    exists_eq_left]

theorem Consumed.snoc {key : Key} (consumed : Consumed past key)
    (transition : Transition (RatchetState P) RatchetCall) :
    Consumed (past ++ [transition]) key := by
  rcases consumed with ⟨earlier, member, uses⟩
  exact ⟨earlier, List.mem_append_left _ member, uses⟩

theorem RootTrace.keep (trace : RootTrace rootSecret past state)
    (undrawn : ∀ pair, ¬RatchetCall.DrawsPair state call pair)
    (root : after.rootKey = state.rootKey) (pair : after.dhPair = state.dhPair)
    (remote : after.remoteDh = state.remoteDh)
    (chain : after.sendingChain = state.sendingChain)
    (count : after.sendingCount = state.sendingCount) :
    RootTrace rootSecret (past ++ [⟨state, call, after⟩]) after := by
  have output : after.rootOutput = state.rootOutput := by
    rw [RatchetState.rootOutput, RatchetState.rootOutput, pair, remote]
  cases trace with
  | still unstepped same =>
      apply RootTrace.still _ (root.trans same)
      rw [rootStepped_snoc]
      intro steps
      rcases steps with earlier | ⟨pair, draws⟩
      · exact unstepped earlier
      · exact undrawn pair draws
  | stepped previous stepped current sending first =>
      apply RootTrace.stepped previous ((rootStepped_snoc _).mpr (.inl stepped))
      · rw [root, output, current]
      · rw [chain, output, count, sending]
      · rw [output, count]
        intro sent
        exact (first sent).snoc _

theorem RootTrace.encrypt {entropy : Entropy} {kind : FrameKind} {plaintext : List UInt8}
    {frame : InnerFrame} (trace : RootTrace rootSecret past state)
    (sealed : state.sealNext entropy kind plaintext = .ok frame)
    (room : state.sendingCount.toNat + 1 < UInt32.size) :
    RootTrace rootSecret
      (past ++ [⟨state, .encrypt entropy kind plaintext, state.afterEncrypt⟩])
      state.afterEncrypt := by
  cases trace with
  | still unstepped same =>
      refine .still ?_ same
      rw [rootStepped_snoc]
      intro steps
      rcases steps with earlier | ⟨pair, draws⟩
      · exact unstepped earlier
      · cases draws
  | stepped root stepped current sending first =>
      refine .stepped root ((rootStepped_snoc _).mpr (.inl stepped)) current ?_ ?_
      · have count : state.afterEncrypt.sendingCount.toNat = state.sendingCount.toNat + 1 :=
          toNat_add_one room
        have output : state.afterEncrypt.rootOutput = state.rootOutput := rfl
        rw [count, output, chainAt_succ, ← sending]
        rfl
      · intro _
        by_cases unsent : state.sendingCount = 0
        · rw [unsent] at sending
          refine ⟨_, List.mem_append_right _ (List.mem_singleton_self _), ?_⟩
          have uses := RatchetCall.UsesKey.encrypt frame sealed
          rw [sending] at uses
          exact uses
        · exact (first unsent).snoc _

theorem RootTrace.snoc (trace : RootTrace rootSecret past state)
    (commits : RatchetCall.Commits state call after) :
    RootTrace rootSecret (past ++ [⟨state, call, after⟩]) after := by
  cases commits with
  | encrypt frame sealed room => exact trace.encrypt sealed room
  | rotate pair generated contributory =>
      have stepped : RootStepped (past ++ [⟨state, _, state.afterRotation pair⟩]) :=
        (rootStepped_snoc _).mpr (.inr ⟨pair, .rotate generated contributory⟩)
      exact .stepped state.rootKey stepped rfl rfl fun sent => absurd rfl sent
  | retained index entry plaintext opens =>
      refine trace.keep ?_ rfl rfl rfl rfl rfl
      intro pair draws
      cases draws with
      | next plaintext' opens' => exact opens'.different opens.same
  | current plaintext opens room =>
      refine trace.keep ?_ rfl rfl rfl rfl rfl
      intro pair draws
      cases draws with
      | next plaintext' opens' => exact opens'.different opens.same
  | @next _ frame pair plaintext opens =>
      have stepped : RootStepped (past ++ [⟨state, _, state.afterNext pair frame.header⟩]) :=
        (rootStepped_snoc _).mpr (.inr ⟨pair, .next plaintext opens⟩)
      exact .stepped (state.rootFrom frame.header.ratchetPublic) stepped rfl rfl
        fun sent => absurd rfl sent

end Traces

section Run

variable (free : P.FreeSymbols) {handshake : AuthenticatedHandshake P}
  (derived : HandshakeRoot P handshake.rootSecret) {suite : AeadSuite}
  {start final : RatchetState P}
  (started : RatchetState.fromAuthenticatedHandshakeWithSuite handshake suite = .ok start)
  {transitions : List (Transition (RatchetState P) RatchetCall)}
  (run : Run CallStep start transitions final)

include free derived started run

theorem exists_standing :
    ∃ standing : Standing Key,
      standing.Locates P handshake.rootSecret handshake.sessionId final.keyStore ∧
        ∀ key, Consumed transitions key →
          standing.Spent P handshake.rootSecret handshake.sessionId final.keyStore key := by
  rw [RatchetState.fromAuthenticatedHandshakeWithSuite_eq] at started
  rw [← Outcome.ok.inj started] at run
  rcases exists_standing_of_run free.kdf derived run with ⟨standing, locates, spent⟩
  refine ⟨standing, locates, ?_⟩
  intro key consumed
  rcases consumed with ⟨transition, member, uses⟩
  exact spent transition member key uses

variable (succeeds : ∀ transition ∈ transitions, ∃ reply,
  transition.event.result transition.current = .ok reply)

omit free derived in
include succeeds in
theorem rootTrace_of_run : RootTrace handshake.rootSecret transitions final := by
  rw [RatchetState.fromAuthenticatedHandshakeWithSuite_eq] at started
  rw [← Outcome.ok.inj started] at run
  refine run.history ?_ ?_
  · exact .still (by simp [RootStepped]) rfl
  · intro before transition after split _ step trace
    have member : transition ∈ transitions := by
      rw [split]
      exact List.mem_append_right _ (List.mem_cons_self ..)
    rcases succeeds transition member with ⟨reply, replied⟩
    have next : transition.event.after transition.current = transition.next := step
    cases transition.event.ends transition.current with
    | commits _ _ committed =>
        rw [next] at committed
        exact trace.snoc committed
    | exhausts failed _ =>
        rw [failed] at replied
        cases replied
    | refused error failed _ =>
        rw [failed] at replied
        cases replied

omit started run in
/-- Until the root moves, every key that an endpoint has worked with follows from its
root and its session identifier. -/
theorem canDerive_of_still {standing : Standing Key}
    (locates : standing.Locates P handshake.rootSecret handshake.sessionId final.keyStore)
    (still : final.rootKey = handshake.rootSecret) {key : Key}
    (passed : standing.Passed P handshake.rootSecret handshake.sessionId key) :
    final.CanDerive key := by
  have origin := free.kdf.isOrigin_handshakeRoot derived
  have root : Lineage (RootParent P) handshake.rootSecret standing.depth final.rootKey :=
    locates.root
  rw [still] at root
  have shallow := (Lineage.unique free.kdf.uniqueParents_root origin origin root .self).2
  rcases passed with ⟨start, index, ⟨epoch, bound, begun⟩, rfl, _, _⟩
  have first : epoch = 0 := by omega
  subst first
  cases begun with
  | initial role =>
      have chain (count : Nat) : final.CanDerive (chainAt P
          (initialChain P role handshake.rootSecret handshake.sessionId) count) := by
        induction count with
        | zero =>
            rw [chainAt_zero, ← still]
            exact .rule_one (.initialChain role _ _) (.known .rootKey)
        | succ count induction =>
            rw [chainAt_succ]
            exact .rule_one (.nextChain _) induction
      exact .rule_one (.messageKey _) (chain index)

omit started run in
/-- Once the root has moved, nothing that is behind the store follows from the state. -/
theorem not_canDerive_of_stepped {standing : Standing Key}
    (locates : standing.Locates P handshake.rootSecret handshake.sessionId final.keyStore)
    (moved : standing.depth ≠ 0) {key : Key}
    (spent : standing.Spent P handshake.rootSecret handshake.sessionId final.keyStore key) :
    ¬final.CanDerive key := by
  refine Guards.not_derivable ⟨?_, ?_⟩ (Standing.Hides.message spent)
  · intro known holds
    exact Standing.not_hides_of_holds free derived locates holds
  · intro premises conclusion applied hides
    exact Standing.guarded_code free derived locates.toPoints moved applied hides

omit started run in
theorem not_canDeriveInParts_of_unused {standing : Standing Key}
    (locates : standing.Locates P handshake.rootSecret handshake.sessionId final.keyStore)
    (moved : standing.depth ≠ 0)
    (unused : ∀ root output, final.rootKey = nextRoot P root output →
      final.sendingChain = rootChain P root output) {key : Key}
    (spent : standing.Spent P handshake.rootSecret handshake.sessionId final.keyStore key) :
    ¬final.CanDeriveInParts key := by
  refine Guards.not_derivable ⟨?_, ?_⟩ (Standing.Hides.message spent)
  · intro known holds
    exact Standing.not_hides_of_holds free derived locates holds
  · intro premises conclusion applied hides
    exact Standing.guarded_parts free derived locates.toPoints moved unused applied hides

omit free derived started run in
theorem canDeriveInParts_of_current {root : Key}
    (current : final.rootKey = nextRoot P root final.rootOutput) :
    final.CanDeriveInParts (messageKeyOf P (rootChain P root final.rootOutput)) := by
  have output : final.CanDeriveInParts final.rootOutput :=
    .rule (.code (.agreement final.remoteDh rfl)) (by simp)
  have chain : final.CanDeriveInParts (rootChain P root final.rootOutput) := by
    rw [rootChain_eq_chainOfRoot, ← current]
    exact .rule_two (.chainOfRoot _ _) (.known .rootKey) output
  exact .rule_one (.code (.messageKey _)) chain

/-- Forward secrecy holds at a state exactly when the root has moved since the handshake
or no message key was worked with yet. Where root steps can be taken apart, the sending
chain must besides be unused. -/
theorem run_forwardSecret_iff (succeeds : ∀ transition ∈ transitions, ∃ reply,
      transition.event.result transition.current = .ok reply) :
    ((∀ key, Consumed transitions key → ¬final.CanDerive key) ↔
      RootStepped transitions ∨ ∀ key, ¬Consumed transitions key) ∧
    ((∀ key, Consumed transitions key → ¬final.CanDeriveInParts key) ↔
      (RootStepped transitions ∧ final.sendingCount = 0) ∨
        ∀ key, ¬Consumed transitions key) := by
  rcases exists_standing free derived started run with ⟨standing, locates, spent⟩
  have vacuous {leaks : Key → Prop} (unused : ∀ key, ¬Consumed transitions key) (key : Key)
      (consumed : Consumed transitions key) : ¬leaks key := absurd consumed (unused key)
  cases rootTrace_of_run started run succeeds with
  | still unstepped root =>
      have leaks (key : Key) (consumed : Consumed transitions key) : final.CanDerive key :=
        canDerive_of_still free derived locates root (spent key consumed).1
      refine ⟨⟨fun secret => .inr ?_, ?_⟩, ⟨fun secret => .inr ?_, ?_⟩⟩
      · intro key consumed
        exact secret key consumed (leaks key consumed)
      · intro condition
        exact vacuous (condition.resolve_left unstepped)
      · intro key consumed
        exact secret key consumed (leaks key consumed).inParts
      · intro condition
        exact vacuous (condition.resolve_left fun stepped => unstepped stepped.1)
  | stepped root stepped current chain first =>
      have moved : standing.depth ≠ 0 := by
        intro shallow
        have lineage := locates.root
        rw [shallow] at lineage
        generalize same : final.keyStore.rootKey = here at lineage
        cases lineage with
        | self =>
            have stepped := same.symm.trans current
            exact free.kdf.isOrigin_handshakeRoot derived root ⟨_, stepped⟩
      refine ⟨⟨fun _ => .inl stepped, fun _ key consumed => ?_⟩, ⟨fun secret => ?_, ?_⟩⟩
      · exact not_canDerive_of_stepped free derived locates moved (spent key consumed)
      · by_cases unsent : final.sendingCount = 0
        · exact .inl ⟨stepped, unsent⟩
        · exact absurd (canDeriveInParts_of_current current) (secret _ (first unsent))
      · intro condition
        rcases condition with ⟨_, unsent⟩ | unused
        · intro key consumed
          refine not_canDeriveInParts_of_unused free derived locates moved ?_
            (spent key consumed)
          intro root' output same
          rw [current] at same
          have same := free.kdf.nextRoot_eq same
          rw [chain, unsent, same.1, same.2]
          rfl
        · exact vacuous unused

end Run

/-! ## One message and a rotation -/

theorem consumed_sampleCall (calls : List RatchetCall) :
    Consumed ((symbolicSession .initiator).trace (sampleCall :: calls))
      (messageKeyOf Primitives.symbolic (symbolicSession .initiator).sendingChain) :=
  ⟨_, List.mem_cons_self .., .encrypt symbolicFrame symbolicFrame_sealed⟩

theorem rotatedCalls_succeed :
    ∀ transition ∈ (symbolicSession .initiator).trace rotatedCalls, ∃ reply,
      transition.event.result transition.current = .ok reply := by
  intro transition member
  rcases List.mem_cons.mp member with rfl | later
  · exact ⟨_, result_sampleCall⟩
  · rw [List.mem_singleton.mp later]
    refine ⟨.rotated, ?_⟩
    rw [RatchetCall.result, RatchetState.rotate_of_agreed generate_constant rfl]
    rfl

/-- After the rotation the key of the message is out of reach. -/
theorem run_forwardSecret_rotated :
    Consumed ((symbolicSession .initiator).trace rotatedCalls)
        (messageKeyOf Primitives.symbolic (symbolicSession .initiator).sendingChain) ∧
      ∀ key, Consumed ((symbolicSession .initiator).trace rotatedCalls) key →
        ¬(rotatedCalls.foldl (fun state call => call.after state)
          (symbolicSession .initiator)).CanDerive key := by
  refine ⟨consumed_sampleCall _, (run_forwardSecret_iff
    Primitives.freeSymbols_symbolic handshakeEnds_sample.derived
    (starts_sampleSession .initiator) ((symbolicSession .initiator).run_trace rotatedCalls)
    rotatedCalls_succeed).1.mpr (.inl ?_)⟩
  exact ⟨_, List.mem_cons_of_mem _ (List.mem_cons_self ..), _,
    .rotate generate_constant rfl⟩

/-- Before it, the key follows from the root that the state still holds. -/
theorem exists_run_not_forwardSecret :
    ∃ (handshake : AuthenticatedHandshake Primitives.symbolic) (suite : AeadSuite)
      (start final : RatchetState Primitives.symbolic)
      (transitions : List (Transition (RatchetState Primitives.symbolic) RatchetCall))
      (key : Term),
      HandshakeRoot Primitives.symbolic handshake.rootSecret ∧
      RatchetState.fromAuthenticatedHandshakeWithSuite handshake suite = .ok start ∧
      Run CallStep start transitions final ∧
      (∀ transition ∈ transitions, ∃ reply,
        transition.event.result transition.current = .ok reply) ∧
      Consumed transitions key ∧ final.CanDerive key := by
  refine ⟨_, _, _, _, _, _, handshakeEnds_sample.derived, starts_sampleSession .initiator,
    (symbolicSession .initiator).run_trace [sampleCall], ?_, consumed_sampleCall [], ?_⟩
  · intro transition member
    rw [List.mem_singleton.mp member]
    exact ⟨_, result_sampleCall⟩
  · have sent : [sampleCall].foldl (fun state call => call.after state)
        (symbolicSession .initiator) = (symbolicSession .initiator).afterEncrypt :=
      congrArg Prod.snd (RatchetState.encrypt_of_sealed symbolicFrame_sealed (by decide))
    rw [sent]
    exact .rule_one (.messageKey _)
      (.rule_one (.initialChain .initiator _ (.replicate 32 0)) (.known .rootKey))

end Mef26
