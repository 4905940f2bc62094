import Mathlib.Logic.Function.Basic
import Mef26.Crypto.Concrete
import Mef26.Crypto.Symbolic
import Mef26.Ratchet.OneTimeKeys

namespace Mef26

/-! # Sessions

Two endpoints and whatever their hosts call. The network has no part in the model:
it may hand any frame to either side at any time. -/

variable {Key : Type} {P : Primitives Key}

variable (P) in
abbrev Session := RatchetRole → RatchetState P

structure SessionEvent where
  side : RatchetRole
  call : RatchetCall

def Session.after (current : Session P) (event : SessionEvent) : Session P :=
  Function.update current event.side (event.call.after (current event.side))

def SessionStep (current : Session P) (event : SessionEvent) (next : Session P) : Prop :=
  next = current.after event

variable (P) in
abbrev SessionTransition := Transition (Session P) SessionEvent

theorem SessionStep.next_side {current next : Session P} {event : SessionEvent}
    (step : SessionStep current event next) :
    next event.side = event.call.after (current event.side) := by
  rw [step, Session.after, Function.update_self]

theorem SessionStep.next_other {current next : Session P} {event : SessionEvent}
    {side : RatchetRole} (step : SessionStep current event next)
    (other : side ≠ event.side) : next side = current side := by
  rw [step, Session.after, Function.update_of_ne other]

@[simp] theorem Session.after_side (current : Session P) (side : RatchetRole)
    (call : RatchetCall) :
    current.after ⟨side, call⟩ side = call.after (current side) :=
  Function.update_self ..

@[simp] theorem Session.after_peer (current : Session P) (side : RatchetRole)
    (call : RatchetCall) : current.after ⟨side, call⟩ side.peer = current side.peer :=
  Function.update_of_ne (RatchetRole.peer_ne side) _ _

def Session.trace (start : Session P) : List SessionEvent → List (SessionTransition P)
  | [] => []
  | event :: events => ⟨start, event, start.after event⟩ :: (start.after event).trace events

theorem Session.run_trace (start : Session P) (events : List SessionEvent) :
    Run SessionStep start (start.trace events) (events.foldl Session.after start) := by
  induction events generalizing start with
  | nil => exact .nil start
  | cons event events induction => exact .cons rfl (induction (start.after event))

namespace SessionTransition

def reply (transition : SessionTransition P) : Result RatchetReply :=
  transition.event.call.result (transition.current transition.event.side)

def UsesKey (transition : SessionTransition P) (key : Key) : Prop :=
  RatchetCall.UsesKey (transition.current transition.event.side) transition.event.call key

def returnedFrame (transition : SessionTransition P) : Option InnerFrame :=
  match transition.reply with
  | .ok (.frame frame) => some frame
  | _ => none

def acceptedFrame (transition : SessionTransition P) : Option InnerFrame :=
  match transition.event.call, transition.reply with
  | .decrypt _ frame, .ok _ => some frame
  | _, _ => none

/-- The step encrypted a plaintext into this frame under this key, whether or not it
returned the frame. -/
def Seals (transition : SessionTransition P) (key : Key) (frame : InnerFrame) : Prop :=
  ∃ entropy kind plaintext, transition.event.call = .encrypt entropy kind plaintext ∧
    (transition.current transition.event.side).sealNext entropy kind plaintext = .ok frame ∧
    key = messageKeyOf P (transition.current transition.event.side).sendingChain

end SessionTransition

/-! ## The two ends of a handshake -/

structure HandshakeEnds (ends : RatchetRole → AuthenticatedHandshake P) : Prop where
  role (side : RatchetRole) : (ends side).role = side
  sessionId (side : RatchetRole) : (ends side).sessionId = (ends .initiator).sessionId
  rootSecret (side : RatchetRole) : (ends side).rootSecret = (ends .initiator).rootSecret
  remoteRatchet (side : RatchetRole) :
    (ends side).remoteRatchet = (ends side.peer).localRatchet.publicKey
  derived : HandshakeRoot P (ends .initiator).rootSecret

def Session.Starts (ends : RatchetRole → AuthenticatedHandshake P) (suite : AeadSuite)
    (session : Session P) : Prop :=
  ∀ side, RatchetState.fromAuthenticatedHandshakeWithSuite (ends side) suite =
    .ok (session side)

theorem Session.Starts.eq_fresh {ends : RatchetRole → AuthenticatedHandshake P}
    {suite : AeadSuite} {session : Session P} (starts : Session.Starts ends suite session)
    (side : RatchetRole) : session side = RatchetState.fresh (ends side) suite := by
  have started := starts side
  rw [RatchetState.fromAuthenticatedHandshakeWithSuite_eq] at started
  exact (Outcome.ok.inj started).symm

variable (P) in
def sampleEnds (side : RatchetRole) : AuthenticatedHandshake P where
  sessionId := .replicate 32 0
  rootSecret := P.hkdfSha256 [] (domainLabel "kdf" Handshake.rootLabel) []
  role := side
  localRatchet := .fromSecret (secret side)
  remoteRatchet := P.x25519PublicKey (secret side.peer)
where
  secret : RatchetRole → DhSecretKey
    | .initiator => .replicate 32 1
    | .responder => .replicate 32 2

theorem handshakeEnds_sample : HandshakeEnds (sampleEnds P) where
  role _ := rfl
  sessionId _ := rfl
  rootSecret _ := rfl
  remoteRatchet _ := rfl
  derived := ⟨[], [], Handshake.rootLabel, List.mem_cons_self .., rfl⟩

variable (P) in
def sampleSession : Session P := fun side =>
  RatchetState.fresh (sampleEnds P side) .xChaCha20Poly1305

theorem starts_sampleSession :
    Session.Starts (sampleEnds P) .xChaCha20Poly1305 (sampleSession P) :=
  fun side => RatchetState.fromAuthenticatedHandshakeWithSuite_eq (sampleEnds P side) _

def symbolicSession : Session Primitives.symbolic := sampleSession Primitives.symbolic

def symbolicFrame : InnerFrame := .empty (.replicate 32 1) 0 0 0

theorem symbolicFrame_sealed :
    (symbolicSession .initiator).sealNext (constantEntropy 0) .message [] =
      .ok symbolicFrame := by
  decide +kernel

theorem generate_constant :
    (DhKeyPair.generate (constantEntropy 5) : Result (DhKeyPair Primitives.symbolic)) =
      .ok (.fromSecret (.replicate 32 5)) := rfl

def sampleCall : RatchetCall := .encrypt (constantEntropy 0) .message []

theorem result_sampleCall :
    sampleCall.result (symbolicSession .initiator) = .ok (.frame symbolicFrame) := by
  rw [sampleCall, RatchetCall.result,
    RatchetState.encrypt_of_sealed symbolicFrame_sealed (by decide)]
  rfl

def rotatedCalls : List RatchetCall :=
  [sampleCall, .rotateSendingRatchet (constantEntropy 5)]

/-- Every ratchet key drawn in a run is new. -/
structure FreshKeys (start : Session P) (transitions : List (SessionTransition P)) :
    Prop where
  initially : (start .initiator).dhPair.publicKey ≠ (start .responder).dhPair.publicKey
  drawn (before : List (SessionTransition P)) (transition : SessionTransition P)
    (after : List (SessionTransition P)) (pair : DhKeyPair P) :
    transitions = before ++ transition :: after →
    RatchetCall.DrawsPair (transition.current transition.event.side)
      transition.event.call pair →
    ∀ session ∈ Run.visited start before, ∀ side,
      (session side).dhPair.publicKey ≠ pair.publicKey

/-! ## Message keys over a session -/

theorem exists_run_onSide {start final : Session P}
    {transitions : List (SessionTransition P)}
    (run : Run SessionStep start transitions final) (side : RatchetRole) :
    ∃ calls, Run CallStep (start side) calls (final side) ∧
      ∀ transition ∈ transitions, transition.event.side = side →
        (⟨transition.current side, transition.event.call, transition.next side⟩ :
          Transition (RatchetState P) RatchetCall) ∈ calls := by
  induction run with
  | nil state => exact ⟨[], .nil _, by simp⟩
  | @cons current event middle rest final step _ induction =>
      rcases induction with ⟨calls, run, recorded⟩
      by_cases here : event.side = side
      · subst here
        have called : CallStep (current event.side) event.call (middle event.side) :=
          step.next_side.symm
        refine ⟨_, .cons called run, ?_⟩
        intro transition member same
        rcases List.mem_cons.mp member with rfl | later
        · exact List.mem_cons_self ..
        · exact List.mem_cons_of_mem _ (recorded transition later same)
      · rw [← step.next_other (Ne.symm here)]
        refine ⟨calls, run, ?_⟩
        intro transition member same
        rcases List.mem_cons.mp member with rfl | later
        · exact absurd same here
        · exact recorded transition later same

theorem HandshakeEnds.derived_side {ends : RatchetRole → AuthenticatedHandshake P}
    (mirrored : HandshakeEnds ends) (side : RatchetRole) :
    HandshakeRoot P (ends side).rootSecret := by
  rw [mirrored.rootSecret]
  exact mirrored.derived

theorem exists_standing_of_session (kdf : P.CollisionFreeKdf)
    {ends : RatchetRole → AuthenticatedHandshake P} (mirrored : HandshakeEnds ends)
    {suite : AeadSuite} {start session : Session P}
    (starts : Session.Starts ends suite start) {past : List (SessionTransition P)}
    (run : Run SessionStep start past session) (side : RatchetRole) :
    ∃ standing : Standing Key, standing.Locates P (ends .initiator).rootSecret
      (ends .initiator).sessionId (session side).keyStore := by
  rcases exists_run_onSide run side with ⟨calls, sideRun, _⟩
  rw [starts.eq_fresh] at sideRun
  rcases exists_standing_of_run kdf (mirrored.derived_side side) sideRun
      with ⟨standing, locates, _⟩
  rw [mirrored.rootSecret, mirrored.sessionId] at locates
  exact ⟨standing, locates⟩

theorem usesKey_once (kdf : P.CollisionFreeKdf)
    {ends : RatchetRole → AuthenticatedHandshake P} (mirrored : HandshakeEnds ends)
    {suite : AeadSuite} {start : Session P} (starts : Session.Starts ends suite start)
    {before : List (SessionTransition P)} {transition earlier : SessionTransition P}
    (run : Run SessionStep start before transition.current) (member : earlier ∈ before)
    (same : earlier.event.side = transition.event.side) {key : Key}
    (used : earlier.UsesKey key) : ¬transition.UsesKey key := by
  rcases exists_run_onSide run transition.event.side with ⟨calls, sideRun, recorded⟩
  rw [starts.eq_fresh] at sideRun
  rw [SessionTransition.UsesKey, same] at used
  exact usesKey_once_of_run kdf (mirrored.derived_side _) sideRun
    (recorded earlier member same) used

end Mef26
