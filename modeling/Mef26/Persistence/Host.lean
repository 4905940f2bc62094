import Mef26.Crypto.Concrete
import Mef26.Persistence.Record

namespace Mef26

/-! # One endpoint over its whole life

A host drives a ratchet by calls, and after a restart it continues from whatever
state a stored record restores to. -/

variable {P : Primitives (FixedBytes 32)}

inductive HostEvent
  | call (call : RatchetCall)
  | restore (key : StateSealKey) (context : List UInt8) (floor : UInt64)
      (blob : List UInt8)

inductive HostStep : RatchetState P → HostEvent → RatchetState P → Prop
  | call (state next : RatchetState P) (call : RatchetCall)
      (ended : CallStep state call next) : HostStep state (.call call) next
  | restore (state next : RatchetState P) (key : StateSealKey) (context : List UInt8)
      (floor : UInt64) (blob : List UInt8)
      (accepted : RatchetState.restoreState key context floor blob = .ok next) :
      HostStep state (.restore key context floor blob) next

/-! ## Reaching the end of a counter -/

theorem exists_run_of_encrypts (aead : P.LawfulAead) (total : P.TotalAead)
    {entropy : Entropy} (available : ∀ size, (entropy size).isSome) (kind : FrameKind)
    {plaintext : List UInt8} (fits : plaintext.length ≤ InnerFrame.maxPlaintextLen)
    (start : RatchetState P) (count : Nat)
    (room : start.sendingCount.toNat + count < UInt32.size) :
    ∃ transitions final, Run CallStep start transitions final ∧
      final.sendingCount.toNat = start.sendingCount.toNat + count := by
  induction count with
  | zero => exact ⟨[], start, .nil _, rfl⟩
  | succ count induction =>
      rcases induction (by omega) with ⟨transitions, middle, run, counted⟩
      rcases Option.isSome_iff_exists.mp (available middle.suite.nonceLen)
          with ⟨nonce, drawn⟩
      rcases InnerFrame.exists_sealFrame aead total
        (messageKeyOf P middle.sendingChain) (middle.nextHeader kind) drawn fits
          with ⟨frame, sealed⟩
      have middleRoom : middle.sendingCount.toNat + 1 < UInt32.size := by omega
      have ended : CallStep middle (.encrypt entropy kind plaintext) middle.afterEncrypt :=
        congrArg Prod.snd (RatchetState.encrypt_of_sealed sealed middleRoom)
      refine ⟨_, _, run.snoc ended, ?_⟩
      rw [RatchetState.afterEncrypt, toNat_add_one middleRoom, counted]
      omega

def concreteHandshake : AuthenticatedHandshake Primitives.concrete where
  sessionId := .replicate 32 0
  rootSecret := .replicate 32 0
  role := .initiator
  localRatchet := .fromSecret (.replicate 32 3)
  remoteRatchet := .replicate 32 4

def concreteEndpoint : RatchetState Primitives.concrete where
  sessionId := .replicate 32 0
  rootKey := .replicate 32 0
  sendingChain := ⟨1 :: List.replicate 31 0, by simp⟩
  receivingChain := ⟨1 :: List.replicate 31 0, by simp⟩
  dhPair := .fromSecret (.replicate 32 3)
  remoteDh := .replicate 32 4
  previousSendingChainLen := 0
  sendingCount := 0
  receivingCount := 0
  generation := 0
  suite := .xChaCha20Poly1305
  skipped := []

theorem concreteEndpoint_fresh :
    RatchetState.fromAuthenticatedHandshake concreteHandshake = .ok concreteEndpoint := rfl

/-- The endpoint reads the second frame of its peer before the first, and sends a message in
between. -/
def delayedCalls : List RatchetCall :=
  [.decrypt (constantEntropy 7) (InnerFrame.empty (.replicate 32 4) 0 1 3),
    .encrypt (constantEntropy 0) .message [],
    .decrypt (constantEntropy 8) (InnerFrame.empty (.replicate 32 4) 0 0 2)]

theorem chainNext_concrete_ne (chainKey : FixedBytes 32) :
    chainNext Primitives.concrete chainKey ≠ chainKey := by
  intro fixed
  have heads := congrArg (fun key : FixedBytes 32 => key.bytes.headD 0) fixed
  have bytes : (chainNext Primitives.concrete chainKey).bytes.headD 0 =
      chainKey.bytes.headD 0 + 1 := rfl
  rw [bytes] at heads
  have impossible : ∀ byte : UInt8, byte + 1 ≠ byte := by
    intro byte equal
    have values := congrArg UInt8.toNat equal
    simp only [UInt8.toNat_add, UInt8.reduceToNat] at values
    omega
  exact impossible _ heads

end Mef26
