import Mef26.Crypto.Aead
import Mef26.Keys

namespace Mef26

/-! # Inner message frames

A frame is a header, authenticated as associated data, and a ciphertext. -/

inductive FrameKind
  | init
  | message
  | ack
  | control
  | reset
  deriving DecidableEq, Repr

namespace FrameKind

def fromId (value : UInt8) : Result FrameKind :=
  match value with
  | 1 => .ok .init
  | 2 => .ok .message
  | 3 => .ok .ack
  | 4 => .ok .control
  | 5 => .ok .reset
  | _ => .err .invalidFrame

def id : FrameKind → UInt8
  | .init => 1
  | .message => 2
  | .ack => 3
  | .control => 4
  | .reset => 5

@[simp] theorem fromId_id (kind : FrameKind) : fromId kind.id = .ok kind := by
  cases kind <;> rfl

theorem id_injective : Function.Injective id := by
  intro left right equal
  have parsed := congrArg fromId equal
  simpa using parsed

end FrameKind

abbrev sessionIdLen : Nat := 32

abbrev ratchetPublicLen : Nat := 32

@[ext]
structure FrameHeader where
  kind : FrameKind
  sessionId : FixedBytes sessionIdLen
  ratchetPublic : FixedBytes ratchetPublicLen
  previousChainLen : UInt32
  messageNumber : UInt32
  deriving DecidableEq, Repr

@[ext]
structure InnerFrame where
  header : FrameHeader
  ciphertext : Ciphertext
  deriving DecidableEq, Repr

namespace InnerFrame

def magic : List UInt8 := utf8Bytes "MEF"

def version : UInt8 := 1

def fixedHeaderLen : Nat := 3 + 1 + 1 + 1 + sessionIdLen + ratchetPublicLen + 4 + 4 + 1 + 4

def headerBytes (suite : AeadSuite) (header : FrameHeader) (bodyLen nonceLen : Nat) :
    List UInt8 :=
  magic ++ [version] ++ [suite.id] ++ [header.kind.id] ++ header.sessionId.bytes ++
    header.ratchetPublic.bytes ++ beBytes32 header.previousChainLen ++
    beBytes32 header.messageNumber ++ [UInt8.ofNat nonceLen] ++ toBigEndian 4 bodyLen

def encodeAad (suite : AeadSuite) (header : FrameHeader) (bodyLen : Nat) :
    Result (List UInt8) := do
  Outcome.rejectIf (UInt32.size ≤ bodyLen) .invalidLength
  Outcome.rejectIf (UInt8.size ≤ suite.nonceLen) .invalidLength
  let output := headerBytes suite header bodyLen suite.nonceLen
  Outcome.rejectIf (output.length ≠ fixedHeaderLen) .invalidFrame
  return output

def fromCiphertext (header : FrameHeader) (ciphertext : Ciphertext) : Result InnerFrame := do
  let aad ← encodeAad ciphertext.suite header ciphertext.body.length
  Outcome.rejectIf (aad.length ≠ fixedHeaderLen) .invalidFrame
  return { header, ciphertext }

def aad (frame : InnerFrame) : Result (List UInt8) :=
  encodeAad frame.ciphertext.suite frame.header frame.ciphertext.body.length

def suite (frame : InnerFrame) : AeadSuite := frame.ciphertext.suite

section Seal

variable {Key : Type} (P : Primitives Key)

/-- Encrypts a plaintext into a frame under a fresh nonce: the crate's
`InnerFrame::seal`. -/
def sealFrame (entropy : Entropy) (key : Key) (suite : AeadSuite) (header : FrameHeader)
    (plaintext : List UInt8) : Result InnerFrame := do
  let bodyLen ← Outcome.okOr .invalidLength (checkedAddSize plaintext.length aeadTagLen)
  let aad ← encodeAad suite header bodyLen
  let ciphertext ← sealCiphertext P entropy key suite aad plaintext
  fromCiphertext header ciphertext

/-- Authenticates and decrypts a frame with a message key: the crate's
`InnerFrame::open`. -/
def openFrame (frame : InnerFrame) (key : Key) : Result (List UInt8) := do
  let aad ← frame.aad
  openCiphertext P key frame.ciphertext aad

end Seal

@[simp] theorem length_headerBytes (suite : AeadSuite) (header : FrameHeader)
    (bodyLen nonceLen : Nat) :
    (headerBytes suite header bodyLen nonceLen).length = fixedHeaderLen := by
  have magicLength : magic.length = 3 := by decide
  simp only [headerBytes, List.length_append, magicLength, List.length_singleton,
    FixedBytes.length_bytes, length_beBytes32, length_toBigEndian, fixedHeaderLen]

theorem encodeAad_eq (suite : AeadSuite) (header : FrameHeader) {bodyLen : Nat}
    (fits : bodyLen < UInt32.size) :
    encodeAad suite header bodyLen =
      .ok (headerBytes suite header bodyLen suite.nonceLen) := by
  have nonceFits : suite.nonceLen < UInt8.size := by
    cases suite <;> decide
  unfold encodeAad
  rw [Outcome.rejectIf_of_not _ (Nat.not_le.mpr fits),
    Outcome.rejectIf_of_not _ (Nat.not_le.mpr nonceFits)]
  simp only [Outcome.ok_bind]
  rw [Outcome.rejectIf_of_not _ (by simp)]
  rfl

theorem headerBytes_injective {suite suite' : AeadSuite} {header header' : FrameHeader}
    {bodyLen bodyLen' : Nat} (fits : bodyLen < UInt32.size) (fits' : bodyLen' < UInt32.size)
    (equal : headerBytes suite header bodyLen suite.nonceLen =
      headerBytes suite' header' bodyLen' suite'.nonceLen) :
    suite = suite' ∧ header = header' ∧ bodyLen = bodyLen' := by
  simp only [headerBytes] at equal
  rcases List.append_inj' equal (by simp) with ⟨equal, bodies⟩
  rcases List.append_inj' equal rfl with ⟨equal, _⟩
  rcases List.append_inj' equal (by simp) with ⟨equal, numbers⟩
  rcases List.append_inj' equal (by simp) with ⟨equal, previous⟩
  rcases List.append_inj' equal (by simp) with ⟨equal, ratchets⟩
  rcases List.append_inj' equal (by simp) with ⟨equal, sessions⟩
  rcases List.append_inj' equal rfl with ⟨equal, kinds⟩
  rcases List.append_inj' equal rfl with ⟨_, suites⟩
  refine ⟨AeadSuite.id_injective (List.cons.inj suites).1, ?_,
    toBigEndian_injective fits fits' bodies⟩
  ext1
  · exact FrameKind.id_injective (List.cons.inj kinds).1
  · exact FixedBytes.ext sessions
  · exact FixedBytes.ext ratchets
  · exact beBytes32_injective previous
  · exact beBytes32_injective numbers

theorem body_length_lt (frame : InnerFrame) :
    frame.ciphertext.body.length < UInt32.size :=
  Nat.lt_of_le_of_lt frame.ciphertext.body_le_limit (by decide)

@[simp] theorem aad_eq (frame : InnerFrame) :
    frame.aad = .ok (headerBytes frame.suite frame.header frame.ciphertext.body.length
      frame.suite.nonceLen) :=
  encodeAad_eq _ _ frame.body_length_lt

@[simp] theorem fromCiphertext_eq (header : FrameHeader) (ciphertext : Ciphertext) :
    fromCiphertext header ciphertext = .ok { header, ciphertext } := by
  have fits : ciphertext.body.length < UInt32.size :=
    Nat.lt_of_le_of_lt ciphertext.body_le_limit (by decide)
  unfold fromCiphertext
  rw [encodeAad_eq _ _ fits, Outcome.ok_bind, Outcome.rejectIf_of_not _ (by simp)]
  rfl

variable {Key : Type} {P : Primitives Key}

theorem openFrame_eq_ok {frame : InnerFrame} {key : Key} {plaintext : List UInt8} :
    frame.openFrame P key = .ok plaintext ↔
      P.aeadDecrypt frame.suite key frame.ciphertext.nonce
        (headerBytes frame.suite frame.header frame.ciphertext.body.length
          frame.suite.nonceLen) frame.ciphertext.body = some plaintext := by
  have short : fixedHeaderLen ≤ maxAadLen := by decide
  simp [openFrame, openCiphertext_eq_ok, suite, short]

theorem openFrame_ne_panic (frame : InnerFrame) (key : Key) :
    frame.openFrame P key ≠ .panic := by
  simp only [openFrame, aad_eq, Outcome.ok_bind]
  exact openCiphertext_ne_panic _ _ _

theorem encodeAad_ne_panic (suite : AeadSuite) (header : FrameHeader) (bodyLen : Nat) :
    encodeAad suite header bodyLen ≠ .panic := by
  refine Outcome.bind_ne_panic (Outcome.rejectIf_ne_panic _ _) fun _ _ => ?_
  refine Outcome.bind_ne_panic (Outcome.rejectIf_ne_panic _ _) fun _ _ => ?_
  refine Outcome.bind_ne_panic (Outcome.rejectIf_ne_panic _ _) fun _ _ => ?_
  simp

theorem sealFrame_ne_panic (entropy : Entropy) (key : Key) (suite : AeadSuite)
    (header : FrameHeader) (plaintext : List UInt8) :
    sealFrame P entropy key suite header plaintext ≠ .panic := by
  refine Outcome.bind_ne_panic (Outcome.okOr_ne_panic _ _) fun bodyLen _ => ?_
  refine Outcome.bind_ne_panic (encodeAad_ne_panic _ _ _) fun aad _ => ?_
  refine Outcome.bind_ne_panic (sealCiphertext_ne_panic _ _ _ _ _) fun ciphertext _ => ?_
  simp

def maxPlaintextLen : Nat := maxCiphertextLen - aeadTagLen

theorem sealFrame_eq_ok {entropy : Entropy} {key : Key} {suite : AeadSuite}
    {header : FrameHeader} {plaintext : List UInt8} {frame : InnerFrame} :
    sealFrame P entropy key suite header plaintext = .ok frame ↔
      frame.header = header ∧
      sealCiphertext P entropy key suite
        (headerBytes suite header (plaintext.length + aeadTagLen) suite.nonceLen)
        plaintext = .ok frame.ciphertext := by
  simp only [sealFrame, Outcome.bind_eq_ok, Outcome.okOr_eq_ok, fromCiphertext_eq,
    Outcome.ok.injEq]
  have inRange {aad : List UInt8} {ciphertext : Ciphertext}
      (sealed : sealCiphertext P entropy key suite aad plaintext = .ok ciphertext) :
      checkedAddSize plaintext.length aeadTagLen = some (plaintext.length + aeadTagLen) ∧
        plaintext.length + aeadTagLen < UInt32.size := by
    rcases sealCiphertext_eq_ok.mp sealed with ⟨_, bound, _⟩
    simp only [aeadTagLen, maxCiphertextLen, UInt32.size] at bound ⊢
    exact ⟨if_pos (by omega), by omega⟩
  constructor
  · intro returned
    rcases returned with ⟨bodyLen, sum, aad, encoded, ciphertext, sealed, rfl⟩
    rcases inRange sealed with ⟨sumEq, fits⟩
    obtain rfl : bodyLen = plaintext.length + aeadTagLen := by
      rw [sumEq] at sum
      exact (Option.some.inj sum).symm
    rw [encodeAad_eq _ _ fits] at encoded
    cases encoded
    exact ⟨rfl, sealed⟩
  · intro holds
    rcases holds with ⟨rfl, sealed⟩
    rcases inRange sealed with ⟨sumEq, fits⟩
    exact ⟨_, sumEq, _, encodeAad_eq _ _ fits, _, sealed, rfl⟩

theorem exists_sealFrame (aead : P.LawfulAead) (total : P.TotalAead) {entropy : Entropy}
    {suite : AeadSuite} {plaintext : List UInt8} {nonce : FixedBytes suite.nonceLen}
    (key : Key) (header : FrameHeader) (drawn : entropy suite.nonceLen = some nonce)
    (fits : plaintext.length ≤ maxPlaintextLen) :
    ∃ frame, sealFrame P entropy key suite header plaintext = .ok frame := by
  have aadBound : (headerBytes suite header (plaintext.length + aeadTagLen)
      suite.nonceLen).length ≤ maxAadLen := by
    rw [length_headerBytes]
    decide
  rcases exists_sealCiphertext aead total key drawn aadBound fits with ⟨ciphertext, sealed⟩
  exact ⟨{ header, ciphertext }, sealFrame_eq_ok.mpr ⟨rfl, sealed⟩⟩

theorem suite_of_sealFrame {entropy : Entropy} {key : Key} {suite : AeadSuite}
    {header : FrameHeader} {plaintext : List UInt8} {frame : InnerFrame}
    (sealed : sealFrame P entropy key suite header plaintext = .ok frame) :
    frame.suite = suite :=
  (sealCiphertext_eq_ok.mp (sealFrame_eq_ok.mp sealed).2).2.2.1

theorem openFrame_of_sealFrame (aead : P.LawfulAead) {entropy : Entropy} {key : Key}
    {suite : AeadSuite} {header : FrameHeader} {plaintext : List UInt8} {frame : InnerFrame}
    (sealed : sealFrame P entropy key suite header plaintext = .ok frame) :
    frame.openFrame P key = .ok plaintext := by
  have suiteEq := suite_of_sealFrame sealed
  rcases sealFrame_eq_ok.mp sealed with ⟨headerEq, encrypted⟩
  have opened := openCiphertext_of_seal aead encrypted
  rw [← length_body_of_seal aead encrypted] at opened
  simpa [openFrame, suiteEq, headerEq] using opened

end InnerFrame

end Mef26
