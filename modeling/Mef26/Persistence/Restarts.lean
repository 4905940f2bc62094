import Mef26.Persistence.Legacy
import Mef26.Persistence.RoundTrip
import Mef26.Persistence.Versions
import Mef26.Session.Crashes

namespace Mef26

/-! # Hosts that crash

A host stores a sealed snapshot and its rollback floor together with the frames and
plaintexts it hands out, and after a crash it restores the snapshot it stored last. -/

variable {P : Primitives (FixedBytes 32)}

structure StoredSnapshot where
  blob : List UInt8
  floor : UInt64

namespace RatchetState

theorem restoreState_sealed_iff (aead : P.LawfulAead) {state loaded : RatchetState P}
    {entropy : Entropy} {key : StateSealKey} {context blob : List UInt8} {floor : UInt64}
    (sealed : state.sealState entropy key context = .ok blob)
    (floorLe : floor ≤ state.generation) :
    restoreState key context floor blob = .ok loaded ↔
      loaded = state ∧ state.DistinctSlots := by
  constructor
  · intro restored
    rcases sealState_eq_ok.mp sealed with ⟨_, _, ciphertext, encrypted, rfl⟩
    rcases restoreState_eq_ok.mp restored
        with ⟨version, generation, ciphertext', plaintext, same, suiteEq, _, _, _, opened,
          decoded⟩
    have sealedSuite := (sealCiphertext_eq_ok.mp encrypted).2.2.1
    have generations := congrArg generationBytes same
    rw [generationBytes_stateRecord, generationBytes_stateRecord] at generations
    rcases beBytes64_injective generations with rfl
    rcases version_eq_of_stateRecord same with rfl
    rcases ciphertext_eq_of_stateRecord sealedSuite suiteEq same with rfl
    have reopened := openCiphertext_of_seal aead encrypted
    rw [reopened, Outcome.ok.injEq] at opened
    rcases decodeState_eq_ok.mp decoded with ⟨bytes, generationEq, _, distinct⟩
    have loadedEq := stateBytes_injective (bytes.symm.trans opened.symm)
    rw [generationEq] at loadedEq
    subst loadedEq
    exact ⟨rfl, distinct⟩
  · intro holds
    rcases holds with ⟨rfl, distinct⟩
    exact restoreState_of_sealState aead sealed floorLe distinct

def sealedStorage (aead : P.LawfulAead) (key : StateSealKey) (context : List UInt8) :
    Storage (RatchetState P) StoredSnapshot where
  saves state record :=
    (∃ entropy, state.sealState entropy key context = .ok record.blob) ∧
      record.floor = state.generation
  loads record state := restoreState key context record.floor record.blob = .ok state
  faithful := by
    intro state loaded record saves loads
    rcases saves with ⟨⟨entropy, sealed⟩, floorEq⟩
    exact ((restoreState_sealed_iff aead sealed (UInt64.le_of_eq floorEq)).mp loads).1

def component (aead : P.LawfulAead) (key : StateSealKey) (context : List UInt8) :
    Component (RatchetState P) RatchetCall (Result RatchetReply) StoredSnapshot :=
  (sealedStorage aead key context).endpoint

end RatchetState

def HostStarts {Node : Type} (aead : P.LawfulAead) (keys : Node → StateSealKey)
    (contexts : Node → List UInt8) (handshakes : Node → AuthenticatedHandshake P)
    (suites : Node → AeadSuite) (host : Node → DurableEndpoint P StoredSnapshot) : Prop :=
  ∀ node, (RatchetState.component aead (keys node) (contexts node)).Starts
    (RatchetState.fresh (handshakes node) (suites node)) (host node)

def succeeded (answer : RatchetCall × Result RatchetReply) : Bool :=
  match answer.2 with
  | .ok _ => true
  | _ => false

def answerOf (transition : Transition (RatchetState P) RatchetCall) :
    RatchetCall × Result RatchetReply :=
  (transition.event, transition.event.result transition.current)

/-- A host stands where a run without crashes would have led it. What it has handed out
are the answers of the committed calls, and its snapshot is the state they led to. -/
structure StandsOn (aead : P.LawfulAead) (key : StateSealKey) (context : List UInt8)
    (start : RatchetState P)
    (session : DurableEndpoint P StoredSnapshot)
    (committed unsaved : List (Transition (RatchetState P) RatchetCall))
    (stored : RatchetState P) : Prop where
  before : Run CallStep start committed stored
  since : Run CallStep stored unsaved session.memory
  released : session.released = committed.map answerOf
  pending : session.pending = unsaved.map answerOf
  stores : (RatchetState.component aead key context).saves stored session.record

/-! ## What the floor counts -/

theorem toNat_saturatingAdd64_one (value : UInt64) :
    (saturatingAdd64 value 1).toNat = min (value.toNat + 1) (UInt64.size - 1) := by
  have bound := value.toNat_lt
  by_cases room : value.toNat + 1 < UInt64.size
  · rw [show saturatingAdd64 value 1 = value + 1 from if_pos room, UInt64.toNat_add]
    simp only [UInt64.size, UInt64.reduceToNat] at room ⊢
    omega
  · have full : value.toNat + 1 = UInt64.size := by
      simp only [UInt64.size] at room ⊢
      omega
    rw [saturatingAdd64_one_of_full full, full]
    omega

theorem RatchetCall.generation_after (call : RatchetCall) (state : RatchetState P) :
    (call.after state).generation.toNat =
      min (state.generation.toNat + if succeeded (call, call.result state) then 1 else 0)
        (UInt64.size - 1) := by
  have bound := state.generation.toNat_lt
  have kept {answered : Result RatchetReply} (failed : succeeded (call, answered) = false) :
      state.generation.toNat = min (state.generation.toNat +
        if succeeded (call, answered) then 1 else 0) (UInt64.size - 1) := by
    rw [failed]
    simp only [UInt64.size, Bool.false_eq_true, if_false] at bound ⊢
    omega
  cases call.ends state with
  | commits reply replied commits =>
      rw [commits.generation, toNat_saturatingAdd64_one, replied]
      rfl
  | exhausts failed exhausts =>
      rw [exhausts.generation, failed]
      exact kept rfl
  | refused error failed unchanged =>
      rw [unchanged, failed]
      exact kept rfl

theorem generation_of_run {start final : RatchetState P}
    {transitions : List (Transition (RatchetState P) RatchetCall)}
    (run : Run CallStep start transitions final) :
    final.generation.toNat =
      min (start.generation.toNat + (transitions.map answerOf).countP succeeded)
        (UInt64.size - 1) := by
  induction run with
  | nil state =>
      have bound := state.generation.toNat_lt
      simp only [List.map_nil, List.countP_nil, UInt64.size] at bound ⊢
      omega
  | @cons current call middle rest final ended _ induction =>
      have first := call.generation_after current
      rw [show call.after current = middle from ended] at first
      have answered : answerOf ⟨current, call, middle⟩ = (call, call.result current) := rfl
      rw [induction, first, List.map_cons, List.countP_cons, answered]
      omega

/-! ## A host that crashes once -/

def hostKey : StateSealKey := .replicate 32 9

def storedSnapshot (state : RatchetState Primitives.concrete) : StoredSnapshot where
  blob :=
    match state.sealState (constantEntropy 0) hostKey [] with
    | .ok blob => blob
    | _ => []
  floor := state.generation

def hostComponent : Component (RatchetState Primitives.concrete) RatchetCall
    (Result RatchetReply) StoredSnapshot :=
  RatchetState.component Primitives.lawfulAead_concrete hostKey []

theorem storedSnapshot_saves {state : RatchetState Primitives.concrete}
    (bounded : state.SkippedBounded) :
    hostComponent.saves state (storedSnapshot state) := by
  have fits : RatchetState.ContextFits [] := by decide
  have available : (constantEntropy 0 AeadSuite.xChaCha20Poly1305.nonceLen).isSome := rfl
  rcases exists_sealState Primitives.lawfulAead_concrete Primitives.totalAead_concrete
    bounded hostKey available fits with ⟨blob, sealed⟩
  refine ⟨⟨constantEntropy 0, ?_⟩, rfl⟩
  rw [storedSnapshot, sealed]

theorem storedSnapshot_loads {state : RatchetState Primitives.concrete}
    (bounded : state.SkippedBounded) (distinct : state.DistinctSlots) :
    hostComponent.loads (storedSnapshot state) state := by
  rcases storedSnapshot_saves bounded with ⟨⟨entropy, sealed⟩, floorEq⟩
  exact restoreState_of_sealState Primitives.lawfulAead_concrete sealed
    (UInt64.le_of_eq floorEq) distinct

def hostCall : RatchetCall := .encrypt (constantEntropy 0) .message []

def committedEndpoint : RatchetState Primitives.concrete := hostCall.after concreteEndpoint

theorem committedEndpoint_bounded : committedEndpoint.SkippedBounded :=
  RatchetCall.skippedBounded_after hostCall (Nat.zero_le _)

theorem committedEndpoint_distinct : committedEndpoint.DistinctSlots := by
  have initially : concreteEndpoint.DistinctSlots := List.nodup_nil
  refine (RatchetCall.distinctSlots_after_iff initially).mpr ?_
  intro repeats
  cases repeats

def firstAnswer : RatchetCall × Result RatchetReply :=
  (hostCall, hostCall.result concreteEndpoint)

def newHost : DurableEndpoint Primitives.concrete StoredSnapshot :=
  ⟨concreteEndpoint, [], storedSnapshot concreteEndpoint, []⟩

def crashedHost : DurableEndpoint Primitives.concrete StoredSnapshot :=
  ⟨committedEndpoint, [], storedSnapshot committedEndpoint, [firstAnswer]⟩

theorem hostStarts_new :
    HostStarts Primitives.lawfulAead_concrete (fun _ => hostKey) (fun _ => [])
      (fun _ => concreteHandshake) (fun _ => .xChaCha20Poly1305) (fun _ : Unit => newHost) := by
  have fresh : RatchetState.fresh concreteHandshake .xChaCha20Poly1305 =
      concreteEndpoint := rfl
  have bounded : concreteEndpoint.SkippedBounded := Nat.zero_le _
  intro _
  rw [fresh]
  exact ⟨rfl, storedSnapshot_saves bounded, rfl, rfl⟩

theorem hostStep {current next : DurableEndpoint Primitives.concrete StoredSnapshot}
    {event : DurableEvent RatchetCall}
    (taken : hostComponent.DurableStep current event next) :
    NetworkStep (fun _ : Unit => hostComponent) (fun _ => current) ⟨(), event⟩
      (fun _ => next) :=
  ⟨taken, fun _ other => absurd rfl other⟩

theorem exists_run_crashed :
    ∃ transitions, Run (NetworkStep fun _ : Unit => hostComponent) (fun _ => newHost)
      transitions (fun _ => crashedHost) := by
  have saves := storedSnapshot_saves committedEndpoint_bounded
  have loads := storedSnapshot_loads committedEndpoint_bounded committedEndpoint_distinct
  have crashed := @Run.nil _ _ (NetworkStep fun _ : Unit => hostComponent)
    fun _ => crashedHost
  exact ⟨_, .cons (hostStep (.call hostCall)) (.cons (hostStep (.commit _ saves))
    (.cons (hostStep (.call hostCall)) (.cons (hostStep (.crash _ loads)) crashed)))⟩

/-! ## Restarts -/

section Host

variable {Node : Type} [DecidableEq Node] (aead : P.LawfulAead) {keys : Node → StateSealKey}
  {contexts : Node → List UInt8} {handshakes : Node → AuthenticatedHandshake P}
  {suites : Node → AeadSuite}
  {start middle final : Node → DurableEndpoint P StoredSnapshot}
  {transitions later : List (FamilyTransition Node (DurableEndpoint P StoredSnapshot)
    (DurableEvent RatchetCall))}

theorem exists_standsOn (started : HostStarts aead keys contexts handshakes suites start)
    (run : Run (NetworkStep fun node =>
      RatchetState.component aead (keys node) (contexts node)) start transitions final)
    (node : Node) :
    ∃ committed unsaved stored, StandsOn aead (keys node) (contexts node)
      (RatchetState.fresh (handshakes node) (suites node)) (final node)
      committed unsaved stored := by
  rcases exists_recorded started run node with ⟨committed, unsaved, stored, recorded⟩
  refine ⟨_, _, stored, recorded.before, recorded.since, ?_, ?_, recorded.stores⟩
  · rw [recorded.released, List.map_map]
    rfl
  · rw [recorded.pending, List.map_map]
    rfl

/-- A crash loses the calls since the last commit and nothing else. A restart finds the
state of the last commit, unless it holds two keys in one slot, and the host can commit
at any time. -/
theorem restarts_from_commit (total : P.TotalAead)
    (started : HostStarts aead keys contexts handshakes suites start)
    (run : Run (NetworkStep fun node =>
      RatchetState.component aead (keys node) (contexts node)) start transitions final)
    (node : Node) :
    ∃ committed unsaved stored,
      StandsOn aead (keys node) (contexts node)
        (RatchetState.fresh (handshakes node) (suites node)) (final node)
        committed unsaved stored ∧
      (∀ state, RatchetState.restoreState (keys node) (contexts node)
          (final node).record.floor (final node).record.blob = .ok state ↔
        state = stored ∧ stored.DistinctSlots) ∧
      ∀ entropy : Entropy, (entropy AeadSuite.xChaCha20Poly1305.nonceLen).isSome →
        RatchetState.ContextFits (contexts node) →
        ∃ blob, (final node).memory.sealState entropy (keys node) (contexts node) =
          .ok blob := by
  rcases exists_standsOn aead started run node with ⟨committed, unsaved, stored, stands⟩
  refine ⟨committed, unsaved, stored, stands, ?_, ?_⟩
  · intro state
    rcases stands.stores with ⟨⟨entropy, sealed⟩, floorEq⟩
    exact RatchetState.restoreState_sealed_iff aead sealed (UInt64.le_of_eq floorEq)
  · intro entropy available fits
    have bounded : (final node).memory.SkippedBounded :=
      RatchetCall.skippedBounded_of_run (stands.before.append stands.since)
        (Nat.zero_le _)
    exact exists_sealState aead total bounded (keys node) available fits

theorem floor_counts (started : HostStarts aead keys contexts handshakes suites start)
    (run : Run (NetworkStep fun node =>
      RatchetState.component aead (keys node) (contexts node)) start transitions final)
    (node : Node) :
    (final node).record.floor.toNat =
      min ((final node).released.countP succeeded) (UInt64.size - 1) := by
  rcases exists_standsOn aead started run node with ⟨committed, unsaved, stored, stands⟩
  rw [stands.stores.2, generation_of_run stands.before, stands.released]
  simp [RatchetState.fresh]

theorem restarts_from_commit_crashed :
    ∃ committed unsaved stored,
      StandsOn Primitives.lawfulAead_concrete hostKey []
        (RatchetState.fresh concreteHandshake .xChaCha20Poly1305) crashedHost
        committed unsaved stored ∧
      (∀ state, RatchetState.restoreState hostKey [] crashedHost.record.floor
          crashedHost.record.blob = .ok state ↔
        state = stored ∧ stored.DistinctSlots) ∧
      ∀ entropy : Entropy, (entropy AeadSuite.xChaCha20Poly1305.nonceLen).isSome →
        RatchetState.ContextFits [] →
        ∃ blob, crashedHost.memory.sealState entropy hostKey [] = .ok blob := by
  rcases exists_run_crashed with ⟨transitions, run⟩
  exact restarts_from_commit Primitives.lawfulAead_concrete Primitives.totalAead_concrete
    hostStarts_new run ()

/-! ## Snapshots put back -/

/-- A snapshot is outdated once a call that succeeded was handed out after it, as far as
the generation counts. -/
def Outdated (earlier later : DurableEndpoint P StoredSnapshot) : Prop :=
  earlier.released.countP succeeded < UInt64.size - 1 ∧
    ∃ answer ∈ later.released.drop earlier.released.length, succeeded answer = true

/-- If an earlier snapshot of the host is put back, the floor refuses it when it is
outdated, and otherwise it restores to what it restored to before. -/
theorem rollback_refused_iff
    (started : HostStarts aead keys contexts handshakes suites start)
    (earlier : Run (NetworkStep fun node =>
      RatchetState.component aead (keys node) (contexts node)) start transitions middle)
    (since : Run (NetworkStep fun node =>
      RatchetState.component aead (keys node) (contexts node)) middle later final)
    (node : Node) :
    (Outdated (middle node) (final node) →
      (RatchetState.restoreState (keys node) (contexts node) (final node).record.floor
        (middle node).record.blob : Result (RatchetState P)) =
          .err .stateRollbackDetected) ∧
    (¬Outdated (middle node) (final node) →
      (RatchetState.restoreState (keys node) (contexts node) (final node).record.floor
        (middle node).record.blob : Result (RatchetState P)) =
        RatchetState.restoreState (keys node) (contexts node) (middle node).record.floor
          (middle node).record.blob) := by
  have floorBefore := floor_counts aead started earlier node
  have floorAfter := floor_counts aead started (earlier.append since) node
  rcases released_prefix since node with ⟨fresh, handedOut⟩
  have dropped : (final node).released.drop (middle node).released.length = fresh := by
    rw [← handedOut, List.drop_left]
  rw [← handedOut, List.countP_append] at floorAfter
  rw [Outdated, dropped]
  constructor
  · intro outdated
    rcases outdated with ⟨room, grown⟩
    have positive : 0 < fresh.countP succeeded := List.countP_pos_iff.mpr grown
    rcases exists_standsOn aead started earlier node
      with ⟨committed, unsaved, stored, stands⟩
    rcases stands.stores with ⟨⟨entropy, sealed⟩, floorEq⟩
    have below : stored.generation < (final node).record.floor := by
      rw [UInt64.lt_iff_toNat_lt, ← floorEq, floorBefore, floorAfter]
      omega
    rcases RatchetState.sealState_eq_ok.mp sealed with ⟨_, _, ciphertext, encrypted, blobEq⟩
    have suiteEq := (sealCiphertext_eq_ok.mp encrypted).2.2.1
    rw [blobEq]
    exact RatchetState.restoreState_below_floor suiteEq (.inr rfl) below
  · intro current
    have same : (final node).record.floor = (middle node).record.floor := by
      apply UInt64.toNat_inj.mp
      rw [floorBefore, floorAfter]
      by_cases full : (middle node).released.countP succeeded < UInt64.size - 1
      · have none : fresh.countP succeeded = 0 := by
          by_contra some
          exact current ⟨full, List.countP_pos_iff.mp (Nat.pos_of_ne_zero some)⟩
        rw [none, Nat.add_zero]
      · omega
    rw [same]

theorem outdated_new : Outdated newHost crashedHost := by
  refine ⟨by decide, firstAnswer, List.mem_singleton.mpr rfl, ?_⟩
  decide +kernel

theorem rollback_refused_crashed :
    (RatchetState.restoreState hostKey [] crashedHost.record.floor newHost.record.blob :
      Result (RatchetState Primitives.concrete)) = .err .stateRollbackDetected := by
  rcases exists_run_crashed with ⟨transitions, run⟩
  exact (rollback_refused_iff Primitives.lawfulAead_concrete hostStarts_new (.nil _) run
    ()).1 outdated_new

end Host

end Mef26
