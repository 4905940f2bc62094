import Mef26.Frame
import Mef26.Handshake.Protocol
import Mef26.Ratchet.Schedule

namespace Mef26

/-! # The ratchet state machine

One endpoint of a two-party session. Every method below is the source's method
statement by statement: the assignments stand in the source's order, and an
early exit keeps the assignments made before it. -/

def initAToBLabel : String := "ratchet-init-a-to-b-v1"

def initBToALabel : String := "ratchet-init-b-to-a-v1"

def defaultSuite : AeadSuite := .xChaCha20Poly1305

variable {Key : Type}

@[ext]
structure SkippedMessageKey (Key : Type) where
  remoteDh : DhPublicKey
  messageNumber : UInt32
  key : Key

@[ext]
structure RatchetState (P : Primitives Key) where
  sessionId : FixedBytes 32
  rootKey : Key
  sendingChain : Key
  receivingChain : Key
  dhPair : DhKeyPair P
  remoteDh : DhPublicKey
  previousSendingChainLen : UInt32
  sendingCount : UInt32
  receivingCount : UInt32
  generation : UInt64
  suite : AeadSuite
  skipped : List (SkippedMessageKey Key)

namespace RatchetState

variable {P : Primitives Key}

def fromAuthenticatedHandshakeWithSuite (handshake : AuthenticatedHandshake P)
    (suite : AeadSuite) : Result (RatchetState P) := do
  let aToB ← deriveSecret P (.ofKey handshake.rootSecret) initAToBLabel
    (.ofBytes handshake.sessionId.bytes)
  let bToA ← deriveSecret P (.ofKey handshake.rootSecret) initBToALabel
    (.ofBytes handshake.sessionId.bytes)
  let (sendingChain, receivingChain) := match handshake.role with
    | .initiator => (aToB, bToA)
    | .responder => (bToA, aToB)
  return {
    sessionId := handshake.sessionId
    rootKey := handshake.rootSecret
    sendingChain, receivingChain
    dhPair := handshake.localRatchet
    remoteDh := handshake.remoteRatchet
    previousSendingChainLen := 0
    sendingCount := 0
    receivingCount := 0
    generation := 0
    suite
    skipped := [] }

def fromAuthenticatedHandshake (handshake : AuthenticatedHandshake P) :
    Result (RatchetState P) :=
  fromAuthenticatedHandshakeWithSuite handshake defaultSuite

def skippedEntries (remoteDh : DhPublicKey) (keys : SkippedKeys Key) :
    List (SkippedMessageKey Key) :=
  keys.map fun entry => { remoteDh, messageNumber := entry.1, key := entry.2 }

def addSkipped (remoteDh : DhPublicKey) (keys : SkippedKeys Key) :
    Update (RatchetState P) MefError PUnit :=
  Update.modify fun state =>
    { state with skipped := state.skipped ++ skippedEntries remoteDh keys }

def bumpGeneration : Update (RatchetState P) MefError PUnit :=
  Update.modify fun state =>
    { state with generation := saturatingAdd64 state.generation 1 }

def nextHeader (state : RatchetState P) (kind : FrameKind) : FrameHeader where
  kind := kind
  sessionId := state.sessionId
  ratchetPublic := state.dhPair.publicKey
  previousChainLen := state.previousSendingChainLen
  messageNumber := state.sendingCount

def encrypt (entropy : Entropy) (kind : FrameKind) (plaintext : List UInt8) :
    Update (RatchetState P) MefError InnerFrame := do
  let state ← Update.read
  let (nextChain, messageKey) ← chainStep P state.sendingChain
  let header := state.nextHeader kind
  let frame ← InnerFrame.sealFrame P entropy messageKey state.suite header plaintext
  Update.modify fun state => { state with sendingChain := nextChain }
  let sendingCount ← Outcome.okOr MefError.counterExhausted
    (checkedAdd32 state.sendingCount 1)
  Update.modify fun state => { state with sendingCount }
  bumpGeneration
  return frame

def decryptSkipped (remoteDh : DhPublicKey) (messageNumber : UInt32) (frame : InnerFrame) :
    Update (RatchetState P) MefError (List UInt8) := do
  let state ← Update.read
  let index ← Outcome.okOr MefError.messageKeyConsumed
    (state.skipped.findIdx? fun entry =>
      entry.remoteDh = remoteDh ∧ entry.messageNumber = messageNumber)
  let entry ← (elementAt state.skipped index : Result (SkippedMessageKey Key))
  let plaintext ← frame.openFrame P entry.key
  Update.modify fun state => { state with skipped := state.skipped.eraseIdx index }
  bumpGeneration
  return plaintext

def decryptSameRatchet (remoteDh : DhPublicKey) (frame : InnerFrame) :
    Update (RatchetState P) MefError (List UInt8) := do
  let state ← Update.read
  let target := frame.header.messageNumber
  if target < state.receivingCount then
    decryptSkipped remoteDh target frame
  else
    let (nextChain, messageKey, newlySkipped) ← deriveForMessage P state.receivingChain
      state.receivingCount target state.skipped.length
    let plaintext ← frame.openFrame P messageKey
    Update.modify fun state => { state with receivingChain := nextChain }
    let receivingCount ← Outcome.okOr MefError.counterExhausted (checkedAdd32 target 1)
    Update.modify fun state => { state with receivingCount }
    addSkipped remoteDh newlySkipped
    bumpGeneration
    return plaintext

def decryptNewRatchet (entropy : Entropy) (remoteDh : DhPublicKey) (frame : InnerFrame) :
    Update (RatchetState P) MefError (List UInt8) := do
  let state ← Update.read
  let (_, oldSkipped) ← deriveRange P state.receivingChain state.receivingCount
    frame.header.previousChainLen state.skipped.length
  let receiveOutput ← state.dhPair.diffieHellman remoteDh
  let (rootAfterReceive, nextReceivingChain) ← rootStep P state.rootKey receiveOutput
  let nextPair : DhKeyPair P ← DhKeyPair.generate entropy
  let sendOutput ← nextPair.diffieHellman remoteDh
  let (rootAfterSend, nextSendingChain) ← rootStep P rootAfterReceive sendOutput
  let extraCapacity ← Outcome.okOr MefError.skippedKeyLimitExceeded
    (checkedAddSize state.skipped.length oldSkipped.length)
  let (receivingChain, messageKey, newSkipped) ← deriveForMessage P nextReceivingChain 0
    frame.header.messageNumber extraCapacity
  let plaintext ← frame.openFrame P messageKey
  addSkipped state.remoteDh oldSkipped
  addSkipped remoteDh newSkipped
  Update.modify fun state => { state with rootKey := rootAfterSend }
  Update.modify fun state => { state with receivingChain := receivingChain }
  Update.modify fun state => { state with sendingChain := nextSendingChain }
  Update.modify fun state => { state with dhPair := nextPair }
  Update.modify fun state => { state with remoteDh := remoteDh }
  Update.modify fun state => { state with previousSendingChainLen := state.sendingCount }
  Update.modify fun state => { state with sendingCount := 0 }
  let receivingCount ← Outcome.okOr MefError.counterExhausted
    (checkedAdd32 frame.header.messageNumber 1)
  Update.modify fun state => { state with receivingCount }
  bumpGeneration
  return plaintext

/-- Decrypts an authenticated frame. The entropy feeds the key pair that a new
remote ratchet key calls for. -/
def decrypt (entropy : Entropy) (frame : InnerFrame) :
    Update (RatchetState P) MefError (List UInt8) := do
  let state ← Update.read
  let header := frame.header
  Outcome.rejectIf (header.sessionId ≠ state.sessionId ∨ frame.suite ≠ state.suite)
    MefError.ratchetStateMismatch
  let remoteDh := header.ratchetPublic
  if remoteDh = state.remoteDh then
    decryptSameRatchet remoteDh frame
  else
    decryptNewRatchet entropy remoteDh frame

def rotateSendingRatchet (entropy : Entropy) : Update (RatchetState P) MefError PUnit := do
  let state ← Update.read
  let nextPair : DhKeyPair P ← DhKeyPair.generate entropy
  let output ← nextPair.diffieHellman state.remoteDh
  let (nextRoot, nextSendingChain) ← rootStep P state.rootKey output
  Update.modify fun state => { state with rootKey := nextRoot }
  Update.modify fun state => { state with sendingChain := nextSendingChain }
  Update.modify fun state => { state with dhPair := nextPair }
  Update.modify fun state => { state with previousSendingChainLen := state.sendingCount }
  Update.modify fun state => { state with sendingCount := 0 }
  bumpGeneration

end RatchetState

end Mef26
