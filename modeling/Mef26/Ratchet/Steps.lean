import Mef26.Ratchet.State

namespace Mef26

/-! # What one ratchet call can do

Each method has a relation that lists its possible ends with the state it
leaves. Invariants are derived from these relations and never unfold the
methods again. -/

variable {Key : Type} {P : Primitives Key}

theorem checkedAdd32_one (value : UInt32) :
    checkedAdd32 value 1 =
      if value.toNat + 1 < UInt32.size then some (value + 1) else none := rfl

theorem toNat_add_one {value : UInt32} (room : value.toNat + 1 < UInt32.size) :
    (value + 1).toNat = value.toNat + 1 := by
  rw [UInt32.toNat_add]
  exact Nat.mod_eq_of_lt room

namespace RatchetState

/-! ## Starting -/

end RatchetState

variable (P) in
def initialChain (role : RatchetRole) (rootSecret : Key) (sessionId : FixedBytes 32) : Key :=
  P.hkdfSha256 (.ofKey rootSecret)
    (domainLabel "kdf" (match role with
      | .initiator => initAToBLabel
      | .responder => initBToALabel))
    (.ofBytes sessionId.bytes)

namespace RatchetState

def fresh (handshake : AuthenticatedHandshake P) (suite : AeadSuite) : RatchetState P where
  sessionId := handshake.sessionId
  rootKey := handshake.rootSecret
  sendingChain := initialChain P handshake.role handshake.rootSecret handshake.sessionId
  receivingChain :=
    initialChain P handshake.role.peer handshake.rootSecret handshake.sessionId
  dhPair := handshake.localRatchet
  remoteDh := handshake.remoteRatchet
  previousSendingChainLen := 0
  sendingCount := 0
  receivingCount := 0
  generation := 0
  suite := suite
  skipped := []

theorem fromAuthenticatedHandshakeWithSuite_eq (handshake : AuthenticatedHandshake P)
    (suite : AeadSuite) :
    fromAuthenticatedHandshakeWithSuite handshake suite = .ok (fresh handshake suite) := by
  have short : KeyMaterial.byteLength
      (KeyMaterial.ofBytes handshake.sessionId.bytes : KeyMaterial Key) ≤
        maxCiphertextLen := by
    rw [KeyMaterial.byteLength_ofBytes, FixedBytes.length_bytes]
    decide
  unfold fromAuthenticatedHandshakeWithSuite
  rw [deriveSecret_eq P (by decide) short, Outcome.ok_bind,
    deriveSecret_eq P (by decide) short, Outcome.ok_bind]
  unfold fresh initialChain
  cases handshake.role <;> rfl

/-! ## The states that successful calls leave -/

def afterEncrypt (state : RatchetState P) : RatchetState P :=
  { state with
    sendingChain := chainNext P state.sendingChain
    sendingCount := state.sendingCount + 1
    generation := saturatingAdd64 state.generation 1 }

def afterRotation (state : RatchetState P) (pair : DhKeyPair P) : RatchetState P :=
  let output := P.x25519 pair.secret state.remoteDh
  { state with
    rootKey := nextRoot P state.rootKey output
    sendingChain := rootChain P state.rootKey output
    dhPair := pair
    previousSendingChainLen := state.sendingCount
    sendingCount := 0
    generation := saturatingAdd64 state.generation 1 }

def afterSkipped (state : RatchetState P) (index : Nat) : RatchetState P :=
  { state with
    skipped := state.skipped.eraseIdx index
    generation := saturatingAdd64 state.generation 1 }

/-- How many messages of the current receiving chain lie before a number. -/
def gapTo (state : RatchetState P) (number : UInt32) : Nat :=
  number.toNat - state.receivingCount.toNat

def skippedTo (state : RatchetState P) (number : UInt32) : List (SkippedMessageKey Key) :=
  skippedEntries state.remoteDh
    (skippedRange P state.receivingChain state.receivingCount (state.gapTo number))

def afterCurrent (state : RatchetState P) (number : UInt32) : RatchetState P :=
  { state with
    receivingChain := chainAt P state.receivingChain (state.gapTo number + 1)
    receivingCount := number + 1
    generation := saturatingAdd64 state.generation 1
    skipped := state.skipped ++ state.skippedTo number }

def afterSendingExhausted (state : RatchetState P) : RatchetState P :=
  { state with sendingChain := chainNext P state.sendingChain }

def afterExhausted (state : RatchetState P) (number : UInt32) : RatchetState P :=
  { state with receivingChain := chainAt P state.receivingChain (state.gapTo number + 1) }

/-- The chain on which a new remote ratchet key sends. -/
def chainFrom (state : RatchetState P) (remoteDh : DhPublicKey) : Key :=
  rootChain P state.rootKey (P.x25519 state.dhPair.secret remoteDh)

/-- The root after the receiving half of a ratchet step. -/
def rootFrom (state : RatchetState P) (remoteDh : DhPublicKey) : Key :=
  nextRoot P state.rootKey (P.x25519 state.dhPair.secret remoteDh)

def afterNext (state : RatchetState P) (pair : DhKeyPair P) (header : FrameHeader) :
    RatchetState P :=
  let remoteDh := header.ratchetPublic
  let output := P.x25519 pair.secret remoteDh
  { state with
    rootKey := nextRoot P (state.rootFrom remoteDh) output
    sendingChain := rootChain P (state.rootFrom remoteDh) output
    receivingChain := chainAt P (state.chainFrom remoteDh) (header.messageNumber.toNat + 1)
    dhPair := pair
    remoteDh := remoteDh
    previousSendingChainLen := state.sendingCount
    sendingCount := 0
    receivingCount := header.messageNumber + 1
    generation := saturatingAdd64 state.generation 1
    skipped := state.skipped ++ state.skippedTo header.previousChainLen ++
      skippedEntries remoteDh
        (skippedRange P (state.chainFrom remoteDh) 0 header.messageNumber.toNat) }

@[simp] theorem length_skippedEntries (remoteDh : DhPublicKey) (keys : SkippedKeys Key) :
    (skippedEntries remoteDh keys).length = keys.length := by
  simp [skippedEntries]

@[simp] theorem length_skippedTo (state : RatchetState P) (number : UInt32) :
    (state.skippedTo number).length = state.gapTo number := by
  simp [skippedTo]

def FitsBudget (state : RatchetState P) (number : UInt32) : Prop :=
  WithinBudget state.receivingCount number state.skipped.length

theorem FitsBudget.length_le {state : RatchetState P} {number : UInt32}
    (fits : state.FitsBudget number) :
    state.skipped.length + state.gapTo number ≤ maxSkippedKeys := fits.2

/-! ## Sending -/

/-- The frame an `encrypt` call seals, whether or not it is returned. -/
def sealNext (state : RatchetState P) (entropy : Entropy) (kind : FrameKind)
    (plaintext : List UInt8) : Result InnerFrame :=
  InnerFrame.sealFrame P entropy (messageKeyOf P state.sendingChain) state.suite
    (state.nextHeader kind) plaintext

inductive Encrypts (entropy : Entropy) (kind : FrameKind) (plaintext : List UInt8)
    (state : RatchetState P) : Result InnerFrame → RatchetState P → Prop
  | sent (frame : InnerFrame)
      (sealed : state.sealNext entropy kind plaintext = .ok frame)
      (room : state.sendingCount.toNat + 1 < UInt32.size) :
      Encrypts entropy kind plaintext state (.ok frame) state.afterEncrypt
  | refused (error : MefError)
      (failed : state.sealNext entropy kind plaintext = .err error) :
      Encrypts entropy kind plaintext state (.err error) state
  /-- The counter check comes after the chain was advanced. -/
  | exhausted (frame : InnerFrame)
      (sealed : state.sealNext entropy kind plaintext = .ok frame)
      (full : state.sendingCount.toNat + 1 = UInt32.size) :
      Encrypts entropy kind plaintext state (.err .counterExhausted)
        state.afterSendingExhausted

theorem encrypt_apply (entropy : Entropy) (kind : FrameKind) (plaintext : List UInt8)
    (state : RatchetState P) :
    encrypt entropy kind plaintext state =
      match state.sealNext entropy kind plaintext with
      | .ok frame =>
          if state.sendingCount.toNat + 1 < UInt32.size then
            (.ok frame, state.afterEncrypt)
          else
            (.err .counterExhausted, state.afterSendingExhausted)
      | .err error => (.err error, state)
      | .panic => (.panic, state) := by
  simp only [encrypt, Update.read_bind_apply, Update.lift_bind_apply, chainStep_eq]
  rw [sealNext]
  cases InnerFrame.sealFrame P entropy (messageKeyOf P state.sendingChain) state.suite
      (state.nextHeader kind) plaintext with
  | err error => rfl
  | panic => rfl
  | ok frame =>
      simp only [Update.modify_bind_apply, Update.lift_bind_apply, checkedAdd32_one]
      by_cases room : state.sendingCount.toNat + 1 < UInt32.size
      · simp only [if_pos room]
        rfl
      · simp only [if_neg room]
        rfl

theorem encrypt_spec {entropy : Entropy} {kind : FrameKind} {plaintext : List UInt8}
    {state after : RatchetState P} {result : Result InnerFrame}
    (call : encrypt entropy kind plaintext state = (result, after)) :
    Encrypts entropy kind plaintext state result after := by
  rw [encrypt_apply] at call
  cases sealed : state.sealNext entropy kind plaintext with
  | panic => exact absurd sealed (InnerFrame.sealFrame_ne_panic _ _ _ _ _)
  | err error =>
      rw [sealed] at call
      cases call
      exact .refused error sealed
  | ok frame =>
      rw [sealed] at call
      simp only at call
      split at call
      · rename_i room
        cases call
        exact .sent frame sealed room
      · rename_i full
        cases call
        have bound := state.sendingCount.toNat_lt
        exact .exhausted frame sealed (by simp only [UInt32.size] at full ⊢; omega)

theorem encrypt_of_sealed {entropy : Entropy} {kind : FrameKind}
    {plaintext : List UInt8} {state : RatchetState P} {frame : InnerFrame}
    (sealed : state.sealNext entropy kind plaintext = .ok frame)
    (room : state.sendingCount.toNat + 1 < UInt32.size) :
    encrypt entropy kind plaintext state = (.ok frame, state.afterEncrypt) := by
  rw [encrypt_apply, sealed]
  exact if_pos room

theorem encrypt_of_exhausted {entropy : Entropy} {kind : FrameKind}
    {plaintext : List UInt8} {state : RatchetState P} {frame : InnerFrame}
    (sealed : state.sealNext entropy kind plaintext = .ok frame)
    (full : state.sendingCount.toNat + 1 = UInt32.size) :
    encrypt entropy kind plaintext state =
      (.err .counterExhausted, state.afterSendingExhausted) := by
  rw [encrypt_apply, sealed]
  exact if_neg (by omega)

theorem encrypt_result_of_sealed {entropy : Entropy} {kind : FrameKind}
    {plaintext : List UInt8} {state : RatchetState P} {frame : InnerFrame}
    (sealed : state.sealNext entropy kind plaintext = .ok frame) :
    (encrypt entropy kind plaintext state).1 =
      if state.sendingCount.toNat + 1 < UInt32.size then .ok frame
      else .err .counterExhausted := by
  rw [encrypt_apply, sealed]
  by_cases room : state.sendingCount.toNat + 1 < UInt32.size
  · simp only [if_pos room]
  · simp only [if_neg room]

/-! ## Rotation -/

inductive Rotates (entropy : Entropy) (state : RatchetState P) :
    Result PUnit → RatchetState P → Prop
  | rotated (pair : DhKeyPair P)
      (generated : DhKeyPair.generate entropy = .ok pair)
      (contributory : P.wasContributory (P.x25519 pair.secret state.remoteDh) = true) :
      Rotates entropy state (.ok ⟨⟩) (state.afterRotation pair)
  | refused (error : MefError) : Rotates entropy state (.err error) state

theorem rotate_of_agreed {entropy : Entropy} {state : RatchetState P}
    {pair : DhKeyPair P} (generated : DhKeyPair.generate entropy = .ok pair)
    (contributory : P.wasContributory (P.x25519 pair.secret state.remoteDh) = true) :
    rotateSendingRatchet entropy state = (.ok ⟨⟩, state.afterRotation pair) := by
  have agreed : pair.diffieHellman state.remoteDh =
      .ok (P.x25519 pair.secret state.remoteDh) :=
    DhKeyPair.diffieHellman_eq_ok.mpr ⟨contributory, rfl⟩
  simp only [rotateSendingRatchet, Update.read_bind_apply, Update.lift_bind_apply,
    generated, agreed, rootStep_eq, Update.modify_bind_apply]
  rfl

theorem rotate_spec {entropy : Entropy} {state after : RatchetState P}
    {result : Result PUnit}
    (call : rotateSendingRatchet entropy state = (result, after)) :
    Rotates entropy state result after := by
  cases generated : (DhKeyPair.generate entropy : Result (DhKeyPair P)) with
  | ok pair =>
      by_cases contributory : P.wasContributory (P.x25519 pair.secret state.remoteDh) = true
      · rw [rotate_of_agreed generated contributory] at call
        cases call
        exact .rotated pair generated contributory
      · have refused : pair.diffieHellman state.remoteDh =
            .err .nonContributoryKeyAgreement := by
          simp only [DhKeyPair.diffieHellman]
          rw [Outcome.rejectIf_of _ contributory, Outcome.err_bind]
        simp only [rotateSendingRatchet, Update.read_bind_apply, Update.lift_bind_apply,
          generated, refused] at call
        cases call
        exact .refused _
  | err error =>
      simp only [rotateSendingRatchet, Update.read_bind_apply, Update.lift_bind_apply,
        generated] at call
      cases call
      exact .refused _
  | panic =>
      exact absurd generated (DhKeyPair.generate_ne_panic _)

/-! ## Receiving -/

def Accepts (state : RatchetState P) (frame : InnerFrame) : Prop :=
  frame.header.sessionId = state.sessionId ∧ frame.suite = state.suite

theorem Accepts.not_mismatch {state : RatchetState P} {frame : InnerFrame}
    (native : state.Accepts frame) :
    ¬(frame.header.sessionId ≠ state.sessionId ∨ frame.suite ≠ state.suite) := by
  simpa [not_or, Accepts] using native

def findSkipped (state : RatchetState P) (remoteDh : DhPublicKey) (number : UInt32) :
    Option Nat :=
  state.skipped.findIdx? fun entry =>
    entry.remoteDh = remoteDh ∧ entry.messageNumber = number

theorem findIdx?_eq_findSkipped (state : RatchetState P) (remoteDh : DhPublicKey)
    (number : UInt32) :
    (state.skipped.findIdx? fun entry =>
      entry.remoteDh = remoteDh ∧ entry.messageNumber = number) =
      state.findSkipped remoteDh number := rfl

/-- What a root step needs before it looks at the ciphertext. -/
structure StepReady (entropy : Entropy) (header : FrameHeader) (state : RatchetState P)
    (pair : DhKeyPair P) : Prop where
  receives : P.wasContributory (P.x25519 state.dhPair.secret header.ratchetPublic) = true
  generated : DhKeyPair.generate entropy = .ok pair
  sends : P.wasContributory (P.x25519 pair.secret header.ratchetPublic) = true
  fitsOld : state.FitsBudget header.previousChainLen
  fitsNew : state.skipped.length + state.gapTo header.previousChainLen +
    header.messageNumber.toNat ≤ maxSkippedKeys

/-- The frame opens under a retained key of the current epoch. -/
structure OpensRetained (state : RatchetState P) (frame : InnerFrame) (index : Nat)
    (entry : SkippedMessageKey Key) (plaintext : List UInt8) : Prop where
  native : state.Accepts frame
  same : frame.header.ratchetPublic = state.remoteDh
  passed : frame.header.messageNumber.toNat < state.receivingCount.toNat
  found : state.findSkipped state.remoteDh frame.header.messageNumber = some index
  element : state.skipped[index]? = some entry
  opened : frame.openFrame P entry.key = .ok plaintext

/-- The frame opens under a key that the current receiving chain still holds. -/
structure OpensCurrent (state : RatchetState P) (frame : InnerFrame)
    (plaintext : List UInt8) : Prop where
  native : state.Accepts frame
  same : frame.header.ratchetPublic = state.remoteDh
  fits : state.FitsBudget frame.header.messageNumber
  opened : frame.openFrame P (messageKeyAt P state.receivingChain
    (state.gapTo frame.header.messageNumber)) = .ok plaintext

/-- The frame opens on the chain that its new ratchet key starts. -/
structure OpensNext (entropy : Entropy) (state : RatchetState P) (frame : InnerFrame)
    (pair : DhKeyPair P) (plaintext : List UInt8) : Prop where
  native : state.Accepts frame
  different : frame.header.ratchetPublic ≠ state.remoteDh
  ready : StepReady entropy frame.header state pair
  opened : frame.openFrame P (messageKeyAt P (state.chainFrom frame.header.ratchetPublic)
    frame.header.messageNumber.toNat) = .ok plaintext

inductive Decrypts (entropy : Entropy) (frame : InnerFrame) (state : RatchetState P) :
    Result (List UInt8) → RatchetState P → Prop
  | refused (error : MefError) : Decrypts entropy frame state (.err error) state
  | retained (index : Nat) (entry : SkippedMessageKey Key) (plaintext : List UInt8)
      (opens : state.OpensRetained frame index entry plaintext) :
      Decrypts entropy frame state (.ok plaintext) (state.afterSkipped index)
  | current (plaintext : List UInt8) (opens : state.OpensCurrent frame plaintext)
      (room : frame.header.messageNumber.toNat + 1 < UInt32.size) :
      Decrypts entropy frame state (.ok plaintext)
        (state.afterCurrent frame.header.messageNumber)
  /-- The counter check comes after the chain was advanced. -/
  | exhausted (plaintext : List UInt8) (opens : state.OpensCurrent frame plaintext)
      (full : frame.header.messageNumber.toNat + 1 = UInt32.size) :
      Decrypts entropy frame state (.err .counterExhausted)
        (state.afterExhausted frame.header.messageNumber)
  | next (pair : DhKeyPair P) (plaintext : List UInt8)
      (opens : OpensNext entropy state frame pair plaintext) :
      Decrypts entropy frame state (.ok plaintext) (state.afterNext pair frame.header)

/-- A number of the current epoch whose key was derived before: only the retained
keys can open it. -/
theorem decryptSkipped_of_found {frame : InnerFrame} {state : RatchetState P} {index : Nat}
    {entry : SkippedMessageKey Key}
    (found : state.findSkipped state.remoteDh frame.header.messageNumber = some index)
    (element : state.skipped[index]? = some entry) :
    decryptSkipped state.remoteDh frame.header.messageNumber frame state =
      match frame.openFrame P entry.key with
      | .ok plaintext => (.ok plaintext, state.afterSkipped index)
      | .err error => (.err error, state)
      | .panic => (.panic, state) := by
  simp only [decryptSkipped, Update.read_bind_apply, Update.lift_bind_apply,
    findIdx?_eq_findSkipped, found, Outcome.okOr_some, elementAt, element]
  cases frame.openFrame P entry.key <;> rfl

theorem decryptSkipped_of_none {frame : InnerFrame} {state : RatchetState P}
    (missing : state.findSkipped state.remoteDh frame.header.messageNumber = none) :
    decryptSkipped state.remoteDh frame.header.messageNumber frame state =
      (.err .messageKeyConsumed, state) := by
  simp only [decryptSkipped, Update.read_bind_apply, Update.lift_bind_apply,
    findIdx?_eq_findSkipped, missing, Outcome.okOr_none]

theorem decryptSameRatchet_of_fits {frame : InnerFrame} {state : RatchetState P}
    (fits : state.FitsBudget frame.header.messageNumber) :
    decryptSameRatchet state.remoteDh frame state =
      match frame.openFrame P (messageKeyAt P state.receivingChain
          (state.gapTo frame.header.messageNumber)) with
      | .ok plaintext =>
          if frame.header.messageNumber.toNat + 1 < UInt32.size then
            (.ok plaintext, state.afterCurrent frame.header.messageNumber)
          else
            (.err .counterExhausted, state.afterExhausted frame.header.messageNumber)
      | .err error => (.err error, state)
      | .panic => (.panic, state) := by
  have ahead : ¬frame.header.messageNumber < state.receivingCount :=
    UInt32.not_lt.mpr (UInt32.le_iff_toNat_le.mpr fits.1)
  have derived := deriveForMessage_of_fits (P := P) state.receivingChain fits
  simp only [decryptSameRatchet, Update.read_bind_apply, if_neg ahead,
    Update.lift_bind_apply, derived, gapTo]
  cases frame.openFrame P (messageKeyAt P state.receivingChain
      (frame.header.messageNumber.toNat - state.receivingCount.toNat)) with
  | err error => rfl
  | panic => rfl
  | ok plaintext =>
      simp only [Update.modify_bind_apply, Update.lift_bind_apply, checkedAdd32_one]
      by_cases room : frame.header.messageNumber.toNat + 1 < UInt32.size
      · simp only [if_pos room]
        rfl
      · simp only [if_neg room]
        rfl

/-- A gap past the budget is refused before the ciphertext is looked at. -/
theorem decryptSameRatchet_of_budget {frame : InnerFrame} {state : RatchetState P}
    (ahead : state.receivingCount.toNat ≤ frame.header.messageNumber.toNat)
    (exceeds : maxSkippedKeys <
      state.skipped.length + state.gapTo frame.header.messageNumber) :
    decryptSameRatchet state.remoteDh frame state =
      (.err .skippedKeyLimitExceeded, state) := by
  have notPassed : ¬frame.header.messageNumber < state.receivingCount :=
    UInt32.not_lt.mpr (UInt32.le_iff_toNat_le.mpr ahead)
  have derived := deriveForMessage_of_budget (P := P) state.receivingChain ahead exceeds
  simp only [decryptSameRatchet, Update.read_bind_apply, if_neg notPassed,
    Update.lift_bind_apply, derived]

theorem decryptSkipped_spec {entropy : Entropy} {frame : InnerFrame}
    {state after : RatchetState P} {result : Result (List UInt8)}
    (native : state.Accepts frame) (same : frame.header.ratchetPublic = state.remoteDh)
    (passed : frame.header.messageNumber.toNat < state.receivingCount.toNat)
    (call : decryptSkipped state.remoteDh frame.header.messageNumber frame state =
      (result, after)) :
    Decrypts entropy frame state result after := by
  cases found : state.findSkipped state.remoteDh frame.header.messageNumber with
  | none =>
      rw [decryptSkipped_of_none found] at call
      cases call
      exact .refused _
  | some index =>
      rcases List.findIdx?_eq_some_iff_getElem.mp found with ⟨inside, _⟩
      have element : state.skipped[index]? = some state.skipped[index] :=
        List.getElem?_eq_getElem inside
      rw [decryptSkipped_of_found found element] at call
      cases opened : frame.openFrame P state.skipped[index].key with
      | ok plaintext =>
          rw [opened] at call
          cases call
          exact .retained index _ plaintext ⟨native, same, passed, found, element, opened⟩
      | err error =>
          rw [opened] at call
          cases call
          exact .refused _
      | panic => exact absurd opened (InnerFrame.openFrame_ne_panic _ _)

theorem decryptSameRatchet_spec {entropy : Entropy} {frame : InnerFrame}
    {state after : RatchetState P} {result : Result (List UInt8)}
    (native : state.Accepts frame) (same : frame.header.ratchetPublic = state.remoteDh)
    (call : decryptSameRatchet state.remoteDh frame state = (result, after)) :
    Decrypts entropy frame state result after := by
  by_cases passed : frame.header.messageNumber.toNat < state.receivingCount.toNat
  · have passedWords := UInt32.lt_iff_toNat_lt.mpr passed
    simp only [decryptSameRatchet, Update.read_bind_apply, if_pos passedWords] at call
    exact decryptSkipped_spec native same passed call
  · have ahead := Nat.not_lt.mp passed
    by_cases budget : state.skipped.length + state.gapTo frame.header.messageNumber ≤
        maxSkippedKeys
    · have fits : state.FitsBudget frame.header.messageNumber := ⟨ahead, budget⟩
      rw [decryptSameRatchet_of_fits fits] at call
      cases opened : frame.openFrame P (messageKeyAt P state.receivingChain
          (state.gapTo frame.header.messageNumber)) with
      | err error =>
          rw [opened] at call
          cases call
          exact .refused _
      | panic => exact absurd opened (InnerFrame.openFrame_ne_panic _ _)
      | ok plaintext =>
          rw [opened] at call
          simp only at call
          split at call
          · rename_i room
            cases call
            exact .current plaintext ⟨native, same, fits, opened⟩ room
          · rename_i full
            have bound := frame.header.messageNumber.toNat_lt
            cases call
            exact .exhausted plaintext ⟨native, same, fits, opened⟩
              (by simp only [UInt32.size] at full ⊢; omega)
    · rw [decryptSameRatchet_of_budget ahead (Nat.not_le.mp budget)] at call
      cases call
      exact .refused _

/-- Past these checks only the ciphertext decides, and nothing fails after it. -/
theorem decryptNewRatchet_of_ready {entropy : Entropy} {frame : InnerFrame}
    {state : RatchetState P} {pair : DhKeyPair P}
    (ready : StepReady entropy frame.header state pair) :
    decryptNewRatchet entropy frame.header.ratchetPublic frame state =
      match frame.openFrame P (messageKeyAt P (state.chainFrom frame.header.ratchetPublic)
          frame.header.messageNumber.toNat) with
      | .ok plaintext => (.ok plaintext, state.afterNext pair frame.header)
      | .err error => (.err error, state)
      | .panic => (.panic, state) := by
  rcases ready with ⟨receives, generated, sends, fitsOld, fitsNew⟩
  have received := DhKeyPair.diffieHellman_eq_ok.mpr ⟨receives, rfl⟩
  have sent := DhKeyPair.diffieHellman_eq_ok.mpr ⟨sends, rfl⟩
  have total := checkedAddSize_of_le fitsOld.2
  have derived := deriveForMessage_from_zero (P := P)
    (state.chainFrom frame.header.ratchetPublic) fitsNew
  have room : frame.header.messageNumber.toNat + 1 < UInt32.size := by
    simp only [maxSkippedKeys, UInt32.size] at fitsNew ⊢
    omega
  simp only [gapTo, chainFrom] at total derived ⊢
  simp only [decryptNewRatchet, Update.read_bind_apply, Update.lift_bind_apply,
    deriveRange_of_le fitsOld, received, rootStep_eq, generated, sent, length_skippedRange,
    total, Outcome.okOr_some, derived]
  cases frame.openFrame P (messageKeyAt P (rootChain P state.rootKey
      (P.x25519 state.dhPair.secret frame.header.ratchetPublic))
      frame.header.messageNumber.toNat) with
  | err error => rfl
  | panic => rfl
  | ok plaintext =>
      simp only [addSkipped, bumpGeneration, Update.modify_bind_apply,
        Update.lift_bind_apply, checkedAdd32_one, if_pos room, Outcome.okOr_some]
      rfl

theorem decryptNewRatchet_of_budget {entropy : Entropy} {frame : InnerFrame}
    {state : RatchetState P} {pair : DhKeyPair P}
    (receives : P.wasContributory
      (P.x25519 state.dhPair.secret frame.header.ratchetPublic) = true)
    (generated : DhKeyPair.generate entropy = .ok pair)
    (sends : P.wasContributory
      (P.x25519 pair.secret frame.header.ratchetPublic) = true)
    (fitsOld : state.FitsBudget frame.header.previousChainLen)
    (exceeds : maxSkippedKeys < state.skipped.length +
      state.gapTo frame.header.previousChainLen + frame.header.messageNumber.toNat) :
    decryptNewRatchet entropy frame.header.ratchetPublic frame state =
      (.err .skippedKeyLimitExceeded, state) := by
  have received := DhKeyPair.diffieHellman_eq_ok.mpr ⟨receives, rfl⟩
  have sent := DhKeyPair.diffieHellman_eq_ok.mpr ⟨sends, rfl⟩
  have total := checkedAddSize_of_le fitsOld.2
  have derived := deriveForMessage_over_zero (P := P)
    (state.chainFrom frame.header.ratchetPublic) exceeds
  simp only [gapTo, chainFrom] at total derived
  simp only [decryptNewRatchet, Update.read_bind_apply, Update.lift_bind_apply,
    deriveRange_of_le fitsOld, received, rootStep_eq, generated, sent, length_skippedRange,
    total, Outcome.okOr_some, derived]

theorem decryptNewRatchet_of_oldBudget {entropy : Entropy} {frame : InnerFrame}
    {state : RatchetState P}
    (ordered : state.receivingCount.toNat ≤ frame.header.previousChainLen.toNat)
    (exceeds : maxSkippedKeys <
      state.skipped.length + state.gapTo frame.header.previousChainLen) :
    decryptNewRatchet entropy frame.header.ratchetPublic frame state =
      (.err .skippedKeyLimitExceeded, state) := by
  simp only [decryptNewRatchet, Update.read_bind_apply, Update.lift_bind_apply,
    deriveRange_of_budget ordered exceeds]

theorem decryptNewRatchet_spec {entropy : Entropy} {frame : InnerFrame}
    {state after : RatchetState P} {result : Result (List UInt8)}
    (native : state.Accepts frame) (different : frame.header.ratchetPublic ≠ state.remoteDh)
    (call : decryptNewRatchet entropy frame.header.ratchetPublic frame state =
      (result, after)) :
    Decrypts entropy frame state result after := by
  have original := call
  simp only [decryptNewRatchet, Update.read_bind_apply, Update.lift_bind_apply] at call
  cases range : deriveRange P state.receivingChain state.receivingCount
      frame.header.previousChainLen state.skipped.length with
  | err error =>
      rw [range] at call
      cases call
      exact .refused _
  | panic => exact absurd range (deriveRange_ne_panic _ _ _ _)
  | ok old =>
  rcases deriveRange_eq_ok.mp range with ⟨fitsOld, rfl⟩
  rw [range] at call
  simp only at call
  cases received : state.dhPair.diffieHellman frame.header.ratchetPublic with
  | err error =>
      rw [received] at call
      cases call
      exact .refused _
  | panic => exact absurd received (DhKeyPair.diffieHellman_ne_panic _ _)
  | ok receiveOutput =>
  rcases DhKeyPair.diffieHellman_eq_ok.mp received with ⟨receives, rfl⟩
  rw [received] at call
  simp only [rootStep_eq] at call
  cases generated : (DhKeyPair.generate entropy : Result (DhKeyPair P)) with
  | err error =>
      rw [generated] at call
      cases call
      exact .refused _
  | panic => exact absurd generated (DhKeyPair.generate_ne_panic _)
  | ok pair =>
  rw [generated] at call
  simp only at call
  cases sent : pair.diffieHellman frame.header.ratchetPublic with
  | err error =>
      rw [sent] at call
      cases call
      exact .refused _
  | panic => exact absurd sent (DhKeyPair.diffieHellman_ne_panic _ _)
  | ok sendOutput =>
  rcases DhKeyPair.diffieHellman_eq_ok.mp sent with ⟨sends, rfl⟩
  by_cases fitsNew : state.skipped.length + state.gapTo frame.header.previousChainLen +
      frame.header.messageNumber.toNat ≤ maxSkippedKeys
  · have ready : StepReady entropy frame.header state pair :=
      ⟨receives, generated, sends, fitsOld, fitsNew⟩
    rw [decryptNewRatchet_of_ready ready] at original
    cases opened : frame.openFrame P (messageKeyAt P
        (state.chainFrom frame.header.ratchetPublic)
        frame.header.messageNumber.toNat) with
    | ok plaintext =>
        rw [opened] at original
        cases original
        exact .next pair plaintext ⟨native, different, ready, opened⟩
    | err error =>
        rw [opened] at original
        cases original
        exact .refused _
    | panic => exact absurd opened (InnerFrame.openFrame_ne_panic _ _)
  · rw [decryptNewRatchet_of_budget receives generated sends fitsOld
      (Nat.not_le.mp fitsNew)] at original
    cases original
    exact .refused _

theorem decrypt_of_same {entropy : Entropy} {frame : InnerFrame} {state : RatchetState P}
    (native : state.Accepts frame) (same : frame.header.ratchetPublic = state.remoteDh) :
    decrypt entropy frame state = decryptSameRatchet state.remoteDh frame state := by
  simp only [decrypt, Update.read_bind_apply, Update.lift_bind_apply]
  rw [Outcome.rejectIf_of_not _ native.not_mismatch]
  simp only [if_pos same]
  rw [same]

theorem decrypt_of_different {entropy : Entropy} {frame : InnerFrame}
    {state : RatchetState P} (native : state.Accepts frame)
    (different : frame.header.ratchetPublic ≠ state.remoteDh) :
    decrypt entropy frame state =
      decryptNewRatchet entropy frame.header.ratchetPublic frame state := by
  simp only [decrypt, Update.read_bind_apply, Update.lift_bind_apply]
  rw [Outcome.rejectIf_of_not _ native.not_mismatch]
  simp only [if_neg different]

theorem decrypt_of_foreign {entropy : Entropy} {frame : InnerFrame}
    {state : RatchetState P} (foreign : ¬state.Accepts frame) :
    decrypt entropy frame state = (.err .ratchetStateMismatch, state) := by
  simp only [decrypt, Update.read_bind_apply, Update.lift_bind_apply]
  rw [Outcome.rejectIf_of _ (not_and_or.mp foreign)]

theorem decrypt_of_retained {entropy : Entropy} {frame : InnerFrame}
    {state : RatchetState P} {index : Nat} {entry : SkippedMessageKey Key}
    {plaintext : List UInt8} (opens : state.OpensRetained frame index entry plaintext) :
    decrypt entropy frame state = (.ok plaintext, state.afterSkipped index) := by
  have passed := UInt32.lt_iff_toNat_lt.mpr opens.passed
  rw [decrypt_of_same opens.native opens.same]
  simp only [decryptSameRatchet, Update.read_bind_apply, if_pos passed]
  rw [decryptSkipped_of_found opens.found opens.element, opens.opened]

theorem decrypt_of_current {entropy : Entropy} {frame : InnerFrame}
    {state : RatchetState P} {plaintext : List UInt8}
    (opens : state.OpensCurrent frame plaintext)
    (room : frame.header.messageNumber.toNat + 1 < UInt32.size) :
    decrypt entropy frame state =
      (.ok plaintext, state.afterCurrent frame.header.messageNumber) := by
  rw [decrypt_of_same opens.native opens.same, decryptSameRatchet_of_fits opens.fits,
    opens.opened]
  exact if_pos room

theorem decrypt_of_exhausted {entropy : Entropy} {frame : InnerFrame}
    {state : RatchetState P} {plaintext : List UInt8}
    (opens : state.OpensCurrent frame plaintext)
    (full : frame.header.messageNumber.toNat + 1 = UInt32.size) :
    decrypt entropy frame state =
      (.err .counterExhausted, state.afterExhausted frame.header.messageNumber) := by
  rw [decrypt_of_same opens.native opens.same, decryptSameRatchet_of_fits opens.fits,
    opens.opened]
  exact if_neg (by omega)

theorem decrypt_of_next {entropy : Entropy} {frame : InnerFrame}
    {state : RatchetState P} {pair : DhKeyPair P} {plaintext : List UInt8}
    (opens : OpensNext entropy state frame pair plaintext) :
    decrypt entropy frame state = (.ok plaintext, state.afterNext pair frame.header) := by
  rw [decrypt_of_different opens.native opens.different,
    decryptNewRatchet_of_ready opens.ready, opens.opened]

theorem decrypt_spec {entropy : Entropy} {frame : InnerFrame}
    {state after : RatchetState P} {result : Result (List UInt8)}
    (call : decrypt entropy frame state = (result, after)) :
    Decrypts entropy frame state result after := by
  by_cases native : state.Accepts frame
  · by_cases same : frame.header.ratchetPublic = state.remoteDh
    · rw [decrypt_of_same native same] at call
      exact decryptSameRatchet_spec native same call
    · rw [decrypt_of_different native same] at call
      exact decryptNewRatchet_spec native same call
  · rw [decrypt_of_foreign native] at call
    cases call
    exact .refused _

end RatchetState

end Mef26
