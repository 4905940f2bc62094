import Mathlib.Algebra.GroupWithZero.Nat
import Mef26.Foundation.Outcome

namespace Mef26

/-! # Errors and limits shared by the whole crate -/

inductive MefError
  | authenticationFailed
  | invalidFrame
  | unsupportedSuite
  | invalidLength
  | nonContributoryKeyAgreement
  | keyDerivationFailed
  | randomnessUnavailable
  | counterExhausted
  | skippedKeyLimitExceeded
  | envelopeExpired
  | replayDetected
  | messageKeyConsumed
  | ratchetStateMismatch
  | stateRollbackDetected
  | invalidState
  deriving DecidableEq, Repr

abbrev Result (α : Type) := Outcome MefError α

def utf8Bytes (text : String) : List UInt8 := text.toUTF8.data.toList

theorem utf8Bytes_injective : Function.Injective utf8Bytes := by
  intro left right equal
  have arrays : left.toByteArray = right.toByteArray :=
    ByteArray.ext (Array.ext' equal)
  cases left
  cases right
  cases arrays
  rfl

def protocolId : String := "MEF-26"

def maxSkippedKeys : Nat := 1024

def maxCiphertextLen : Nat := 2 ^ 20

def maxAadLen : Nat := 2 ^ 16

end Mef26
