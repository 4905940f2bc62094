import Mef26.Session.Link

namespace Mef26

/-! # Two endpoints over an ordered network

Each direction delivers the frames that the sender's `encrypt` returned in sending
order. It may lose frames. -/

variable {Key : Type} {P : Primitives Key}

variable (P) in
/-- Both endpoints, the messages on their way from each side, and how many messages of
each side were lost. -/
structure Channel where
  session : Session P
  inFlight : RatchetRole → List SentMessage
  dropped : RatchetRole → Nat

inductive ChannelEvent
  | encrypt (side : RatchetRole) (entropy : Entropy) (kind : FrameKind)
      (plaintext : List UInt8)
  | rotateSendingRatchet (side : RatchetRole) (entropy : Entropy)
  /-- The first message on its way to a side arrives. -/
  | deliver (side : RatchetRole) (entropy : Entropy)
  /-- The first message on its way from a side is lost. -/
  | drop (side : RatchetRole)

def emitted (plaintext : List UInt8) : Result InnerFrame → List SentMessage
  | .ok frame => [⟨frame, plaintext⟩]
  | .err _ | .panic => []

namespace Channel

def encrypted (current : Channel P) (side : RatchetRole) (entropy : Entropy)
    (kind : FrameKind) (plaintext : List UInt8) : Channel P :=
  { current with
    session := current.session.after ⟨side, .encrypt entropy kind plaintext⟩
    inFlight := Function.update current.inFlight side
      (current.inFlight side ++ emitted plaintext
        (RatchetState.encrypt entropy kind plaintext (current.session side)).1) }

def rotated (current : Channel P) (side : RatchetRole) (entropy : Entropy) : Channel P :=
  { current with session := current.session.after ⟨side, .rotateSendingRatchet entropy⟩ }

def delivered (current : Channel P) (side : RatchetRole) (entropy : Entropy)
    (sent : SentMessage) (rest : List SentMessage) : Channel P :=
  { current with
    session := current.session.after ⟨side, .decrypt entropy sent.frame⟩
    inFlight := Function.update current.inFlight side.peer rest }

def lost (current : Channel P) (side : RatchetRole) (rest : List SentMessage) : Channel P :=
  { current with
    inFlight := Function.update current.inFlight side rest
    dropped := Function.update current.dropped side (current.dropped side + 1) }

end Channel

inductive ChannelStep (current : Channel P) : ChannelEvent → Channel P → Prop
  | encrypt (side : RatchetRole) (entropy : Entropy) (kind : FrameKind)
      (plaintext : List UInt8) :
      ChannelStep current (.encrypt side entropy kind plaintext)
        (current.encrypted side entropy kind plaintext)
  | rotate (side : RatchetRole) (entropy : Entropy) :
      ChannelStep current (.rotateSendingRatchet side entropy) (current.rotated side entropy)
  | deliver (side : RatchetRole) (entropy : Entropy) (sent : SentMessage)
      (rest : List SentMessage) (head : current.inFlight side.peer = sent :: rest) :
      ChannelStep current (.deliver side entropy)
        (current.delivered side entropy sent rest)
  | drop (side : RatchetRole) (sent : SentMessage) (rest : List SentMessage)
      (head : current.inFlight side = sent :: rest) :
      ChannelStep current (.drop side) (current.lost side rest)

variable (P) in
abbrev ChannelTransition := Transition (Channel P) ChannelEvent

def Channel.initial (session : Session P) : Channel P where
  session := session
  inFlight _ := []
  dropped _ := 0

namespace ChannelTransition

def sessionEvent (transition : ChannelTransition P) : Option SessionEvent :=
  match transition.event with
  | .encrypt side entropy kind plaintext => some ⟨side, .encrypt entropy kind plaintext⟩
  | .rotateSendingRatchet side entropy => some ⟨side, .rotateSendingRatchet entropy⟩
  | .deliver side entropy =>
      (transition.current.inFlight side.peer).head?.map fun sent =>
        ⟨side, .decrypt entropy sent.frame⟩
  | .drop _ => none

def rotates (transition : ChannelTransition P) : Bool :=
  match transition.event with
  | .rotateSendingRatchet side entropy =>
      (RatchetState.rotateSendingRatchet entropy (transition.current.session side)).1 =
        .ok ⟨⟩
  | _ => false

end ChannelTransition

def rotations (transitions : List (ChannelTransition P)) : Nat :=
  transitions.countP ChannelTransition.rotates

def RandomnessAvailable (transitions : List (ChannelTransition P)) : Prop :=
  ∀ transition ∈ transitions, ∀ side entropy,
    transition.event = .deliver side entropy → (entropy 32).isSome

def RenewsKeys (transitions : List (ChannelTransition P)) : Prop :=
  ∀ transition ∈ transitions, ∀ event,
    ChannelTransition.sessionEvent transition = some event →
    ∀ pair, RatchetCall.DrawsPair (transition.current.session event.side) event.call pair →
      pair.publicKey ≠ (transition.current.session event.side).dhPair.publicKey

/-! ## How the two directions hang together -/

namespace Channel

def LevelFrom (channel : Channel P) (first : RatchetRole → Nat) (side : RatchetRole) :
    Prop :=
  Level (channel.session side) (channel.session side.peer) (channel.inFlight side)
    (first side)

def AheadFrom (channel : Channel P) (first : RatchetRole → Nat) (side : RatchetRole) :
    Prop :=
  Ahead (channel.session side) (channel.session side.peer) (channel.inFlight side)
    (first side)

/-- Before the first rotation: one root, and both directions level. -/
structure Quiet (channel : Channel P) (first : RatchetRole → Nat) : Prop where
  root (side : RatchetRole) :
    (channel.session side).rootKey = (channel.session side.peer).rootKey
  level (side : RatchetRole) : channel.LevelFrom first side

/-- After it: one side is ahead, and the other direction is level. -/
structure LedBy (channel : Channel P) (first : RatchetRole → Nat) (side : RatchetRole) :
    Prop where
  ahead : channel.AheadFrom first side
  level : channel.LevelFrom first side.peer

/-- The retained keys and the distance to the first message on its way account for the
lost messages, as long as these stay within the budget. -/
def Charged (dropped charge : Nat) : Prop :=
  (dropped ≤ maxSkippedKeys → charge = dropped) ∧
    (maxSkippedKeys < dropped → maxSkippedKeys < charge)

def ChargedFrom (channel : Channel P) (first : RatchetRole → Nat) (side : RatchetRole) :
    Prop :=
  Charged (channel.dropped side) ((channel.session side.peer).skipped.length + first side)

/-- The joint invariant of both endpoints and the network. -/
def InStep (past : List (ChannelTransition P)) (channel : Channel P) : Prop :=
  ∃ first : RatchetRole → Nat, (∀ side, channel.ChargedFrom first side) ∧
    (rotations past = 0 ∧ channel.Quiet first ∨
      rotations past = 1 ∧ ∃ side, channel.LedBy first side)

end Channel

end Mef26
