import Mef26.Ratchet.State

namespace Mef26

/-! # Encrypted persistence of ratchet states

The host supplies a sealing key and a storage context. Records live outside the
session, so the secrets they carry are byte arrays here. -/

def stateMagic : List UInt8 := utf8Bytes "MRS"

def stateVersion : UInt8 := 2

def legacyStateVersion : UInt8 := 1

def stateNonceLen : Nat := 24

def stateHeaderLen : Nat := 3 + 1 + 8 + 1 + 4

def plaintextFixedLenV1 : Nat := 32 + 32 + 32 + 32 + 32 + 32 + 4 + 4 + 4 + 2

def plaintextFixedLenV2 : Nat := plaintextFixedLenV1 + 1

def aadLabelV1 : List UInt8 := utf8Bytes "MEF-26/ratchet-state-v1" ++ [0]

def aadLabelV2 : List UInt8 := utf8Bytes "MEF-26/ratchet-state-v2" ++ [0]

abbrev StateSealKey := FixedBytes 32

namespace RatchetState

variable {P : Primitives (FixedBytes 32)}

def encodeEntry (entry : SkippedMessageKey (FixedBytes 32)) : List UInt8 :=
  entry.remoteDh.bytes ++ beBytes32 entry.messageNumber ++ entry.key.bytes

def encodeState (state : RatchetState P) : Result (List UInt8) := do
  Outcome.rejectIf (state.skipped.length > maxSkippedKeys) .invalidState
  Outcome.rejectIf (UInt16.size ≤ state.skipped.length) .invalidState
  let skippedLen := UInt16.ofNat state.skipped.length
  let entriesLen ← Outcome.okOr .invalidLength (checkedMulSize skippedLen.toNat 68)
  let _ ← Outcome.okOr .invalidLength (checkedAddSize plaintextFixedLenV2 entriesLen)
  return state.sessionId.bytes ++ state.rootKey.bytes ++ state.sendingChain.bytes ++
    state.receivingChain.bytes ++ state.dhPair.secret.bytes ++ state.remoteDh.bytes ++
    beBytes32 state.previousSendingChainLen ++ beBytes32 state.sendingCount ++
    beBytes32 state.receivingCount ++ [state.suite.id] ++ beBytes16 skippedLen ++
    state.skipped.flatMap encodeEntry

def stateAad (context : List UInt8) (version : UInt8) : Result (List UInt8) := do
  let label := if version = legacyStateVersion then aadLabelV1 else aadLabelV2
  let capacity ← Outcome.okOr .invalidLength (checkedAddSize label.length context.length)
  Outcome.rejectIf (capacity > maxAadLen) .invalidLength
  return label ++ context

def sealState (entropy : Entropy) (key : StateSealKey) (context : List UInt8)
    (state : RatchetState P) : Result (List UInt8) := do
  let aad ← stateAad context stateVersion
  let plaintext ← encodeState state
  let ciphertext ← sealCiphertext P entropy key .xChaCha20Poly1305 aad plaintext
  Outcome.rejectIf (UInt32.size ≤ ciphertext.body.length) .invalidLength
  Outcome.rejectIf (UInt8.size ≤ ciphertext.nonce.length) .invalidLength
  return stateMagic ++ [stateVersion] ++ beBytes64 state.generation ++
    [UInt8.ofNat ciphertext.nonce.length] ++
    beBytes32 (.ofNat ciphertext.body.length) ++ ciphertext.nonce ++ ciphertext.body

/-- The loop that reads the skipped entries and refuses a repeated slot. -/
def decodeEntries (bytes : List UInt8) (fixedLen : Nat) :
    (remaining index : Nat) → List (SkippedMessageKey (FixedBytes 32)) →
      Result (List (SkippedMessageKey (FixedBytes 32)))
  | 0, _, skipped => .ok skipped
  | remaining + 1, index, skipped => do
      let distance ← Outcome.okOr .invalidLength (checkedMulSize index 68)
      let offset ← addSize fixedLen distance
      let remoteDh ← copyArray .invalidFrame 32
        (← slice bytes offset (← addSize offset 32))
      let messageNumber ← copyArray .invalidFrame 4
        (← slice bytes (← addSize offset 32) (← addSize offset 36))
      Outcome.rejectIf (skipped.any fun entry =>
        entry.remoteDh = remoteDh ∧ entry.messageNumber = fromBeBytes32 messageNumber)
        .invalidState
      let key ← copyArray .invalidFrame 32
        (← slice bytes (← addSize offset 36) (← addSize offset 68))
      decodeEntries bytes fixedLen remaining (index + 1)
        (skipped ++ [{ remoteDh, messageNumber := fromBeBytes32 messageNumber, key }])

def plaintextFixedLen (version : UInt8) : Result Nat :=
  if version = legacyStateVersion then .ok plaintextFixedLenV1
  else if version = stateVersion then .ok plaintextFixedLenV2
  else .err .invalidFrame

/-- The suite of a snapshot and where its entry count stands. The legacy layout
has no suite byte. -/
def suiteAndCountOffset (bytes : List UInt8) (version : UInt8) :
    Result (AeadSuite × Nat) :=
  if version = legacyStateVersion then
    .ok (.xChaCha20Poly1305, 204)
  else do
    let suite ← AeadSuite.fromId (← elementAt bytes 204)
    return (suite, 205)

def decodeState (bytes : List UInt8) (generation : UInt64) (version : UInt8) :
    Result (RatchetState P) := do
  let fixedLen ← plaintextFixedLen version
  Outcome.rejectIf (bytes.length < fixedLen) .invalidFrame
  let (suite, countOffset) ← suiteAndCountOffset bytes version
  let count ← copyArray .invalidFrame 2
    (← slice bytes countOffset (← addSize countOffset 2))
  let skippedCount := (fromBeBytes16 count).toNat
  Outcome.rejectIf (skippedCount > maxSkippedKeys) .invalidState
  let entriesLen ← Outcome.okOr .invalidLength (checkedMulSize skippedCount 68)
  let expected ← Outcome.okOr .invalidLength (checkedAddSize fixedLen entriesLen)
  Outcome.rejectIf (bytes.length ≠ expected) .invalidFrame
  let sessionId ← copyArray .invalidFrame 32 (← slice bytes 0 32)
  let rootKey ← copyArray .invalidFrame 32 (← slice bytes 32 64)
  let sendingChain ← copyArray .invalidFrame 32 (← slice bytes 64 96)
  let receivingChain ← copyArray .invalidFrame 32 (← slice bytes 96 128)
  let secret ← copyArray .invalidFrame 32 (← slice bytes 128 160)
  let remoteDh ← copyArray .invalidFrame 32 (← slice bytes 160 192)
  let previousSendingChainLen ← copyArray .invalidFrame 4 (← slice bytes 192 196)
  let sendingCount ← copyArray .invalidFrame 4 (← slice bytes 196 200)
  let receivingCount ← copyArray .invalidFrame 4 (← slice bytes 200 204)
  let encodedCount ← copyArray .invalidFrame 2
    (← slice bytes countOffset (← addSize countOffset 2))
  Outcome.rejectIf ((fromBeBytes16 encodedCount).toNat ≠ skippedCount) .invalidFrame
  let skipped ← decodeEntries bytes fixedLen skippedCount 0 []
  return {
    sessionId, rootKey, sendingChain, receivingChain
    dhPair := DhKeyPair.fromSecret secret
    remoteDh
    previousSendingChainLen := fromBeBytes32 previousSendingChainLen
    sendingCount := fromBeBytes32 sendingCount
    receivingCount := fromBeBytes32 receivingCount
    generation, suite, skipped }

def restoreState (key : StateSealKey) (context : List UInt8)
    (minimumGeneration : UInt64) (blob : List UInt8) : Result (RatchetState P) := do
  Outcome.rejectIf (blob.length < stateHeaderLen + stateNonceLen + 16) .invalidFrame
  Outcome.rejectIf ((← slice blob 0 3) ≠ stateMagic) .invalidFrame
  let version ← elementAt blob 3
  Outcome.rejectIf (version ≠ legacyStateVersion ∧ version ≠ stateVersion) .invalidFrame
  let generation := fromBeBytes64 (← copyArray .invalidFrame 8 (← slice blob 4 12))
  Outcome.rejectIf (generation < minimumGeneration) .stateRollbackDetected
  let nonceLen := UInt8.toNat (← elementAt blob 12)
  let bodyLen := (fromBeBytes32 (← copyArray .invalidFrame 4 (← slice blob 13 17))).toNat
  let prefixLen ← Outcome.okOr .invalidLength (checkedAddSize stateHeaderLen nonceLen)
  let expected ← Outcome.okOr .invalidLength (checkedAddSize prefixLen bodyLen)
  Outcome.rejectIf (nonceLen ≠ stateNonceLen ∨ expected ≠ blob.length) .invalidFrame
  let ciphertext ← Ciphertext.fromParts .xChaCha20Poly1305
    (← slice blob stateHeaderLen (stateHeaderLen + stateNonceLen))
    (← slice blob (stateHeaderLen + stateNonceLen) blob.length)
  let aad ← stateAad context version
  let plaintext ← openCiphertext P key ciphertext aad
  decodeState plaintext generation version

end RatchetState

end Mef26
