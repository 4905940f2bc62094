import Mathlib.Algebra.GroupWithZero.Nat
import Mathlib.Data.List.Basic
import Mef26.Foundation.Outcome

namespace Mef26

/-! # Byte strings

Fixed-size arrays, big-endian integers, and slicing that panics out of range. -/

@[ext]
structure FixedBytes (size : Nat) where
  bytes : List UInt8
  size_eq : bytes.length = size
  deriving DecidableEq, Repr

namespace FixedBytes

@[simp] theorem length_bytes (value : FixedBytes size) :
    value.bytes.length = size := value.size_eq

def replicate (size : Nat) (byte : UInt8) : FixedBytes size where
  bytes := List.replicate size byte
  size_eq := List.length_replicate

theorem bytes_injective : Function.Injective (bytes : FixedBytes size → List UInt8) :=
  fun _ _ equal => FixedBytes.ext equal

@[simp] theorem bytes_inj {left right : FixedBytes size} :
    left.bytes = right.bytes ↔ left = right :=
  bytes_injective.eq_iff

end FixedBytes

/-! ## Big-endian integers -/

def toBigEndian : (width value : Nat) → List UInt8
  | 0, _ => []
  | width + 1, value =>
      UInt8.ofNat (value / 256 ^ width) :: toBigEndian width value

def fromBigEndian : List UInt8 → Nat
  | [] => 0
  | byte :: rest => byte.toNat * 256 ^ rest.length + fromBigEndian rest

@[simp] theorem length_toBigEndian (width value : Nat) :
    (toBigEndian width value).length = width := by
  induction width with
  | zero => rfl
  | succ width induction => simp [toBigEndian, induction]

theorem fromBigEndian_lt (bytes : List UInt8) :
    fromBigEndian bytes < 256 ^ bytes.length := by
  induction bytes with
  | nil => simp [fromBigEndian]
  | cons byte rest induction =>
      have byteBound : byte.toNat + 1 ≤ 256 := byte.toNat_lt
      have scaled := Nat.mul_le_mul_right (256 ^ rest.length) byteBound
      simp only [fromBigEndian, List.length_cons, Nat.pow_succ]
      rw [Nat.add_mul, Nat.mul_comm 256] at scaled
      omega

theorem fromBigEndian_toBigEndian (width value : Nat) :
    fromBigEndian (toBigEndian width value) = value % 256 ^ width := by
  induction width with
  | zero => simp [toBigEndian, fromBigEndian, Nat.mod_one]
  | succ width induction =>
      simp only [toBigEndian, fromBigEndian, length_toBigEndian, induction,
        UInt8.toNat_ofNat']
      rw [Nat.mul_comm, Nat.add_comm]
      exact Nat.mod_pow_succ.symm

theorem toBigEndian_mod (width value modulus : Nat) (wide : width ≤ modulus) :
    toBigEndian width (value % 256 ^ modulus) = toBigEndian width value := by
  induction width with
  | zero => rfl
  | succ width induction =>
      have digit : value % 256 ^ modulus / 256 ^ width % 256 =
          value / 256 ^ width % 256 := by
        rcases Nat.exists_eq_add_of_le wide with ⟨extra, rfl⟩
        rw [Nat.pow_add, Nat.pow_succ, Nat.mul_assoc, Nat.mod_mul_right_div_self,
          Nat.mod_mul_right_mod]
      rw [toBigEndian, toBigEndian, induction (by omega)]
      congr 1
      apply UInt8.toNat_inj.mp
      simpa using digit

theorem toBigEndian_fromBigEndian (bytes : List UInt8) :
    toBigEndian bytes.length (fromBigEndian bytes) = bytes := by
  induction bytes with
  | nil => rfl
  | cons byte rest induction =>
      have restBound := fromBigEndian_lt rest
      have head : (byte.toNat * 256 ^ rest.length + fromBigEndian rest) /
          256 ^ rest.length = byte.toNat := by
        rw [Nat.mul_comm, Nat.mul_add_div (Nat.pow_pos (by decide)),
          Nat.div_eq_of_lt restBound, Nat.add_zero]
      have low : (byte.toNat * 256 ^ rest.length + fromBigEndian rest) %
          256 ^ rest.length = fromBigEndian rest := by
        rw [Nat.mul_comm, Nat.mul_add_mod, Nat.mod_eq_of_lt restBound]
      have tail := toBigEndian_mod rest.length
        (byte.toNat * 256 ^ rest.length + fromBigEndian rest) rest.length (Nat.le_refl _)
      rw [low] at tail
      simp only [List.length_cons, toBigEndian, fromBigEndian, head, ← tail,
        induction, UInt8.ofNat_toNat]

theorem toBigEndian_injective {width left right : Nat}
    (leftBound : left < 256 ^ width) (rightBound : right < 256 ^ width)
    (equal : toBigEndian width left = toBigEndian width right) : left = right := by
  have values := congrArg fromBigEndian equal
  rwa [fromBigEndian_toBigEndian, fromBigEndian_toBigEndian,
    Nat.mod_eq_of_lt leftBound, Nat.mod_eq_of_lt rightBound] at values

theorem toBigEndian_add (high low value : Nat) :
    toBigEndian (high + low) value =
      toBigEndian high (value / 256 ^ low) ++ toBigEndian low value := by
  induction high with
  | zero => simp [toBigEndian]
  | succ high induction =>
      rw [Nat.add_right_comm, toBigEndian, toBigEndian, induction, Nat.div_div_eq_div_mul,
        ← Nat.pow_add, Nat.add_comm low high, List.cons_append]

theorem toBigEndian_zero (width : Nat) : toBigEndian width 0 = List.replicate width 0 := by
  induction width with
  | zero => rfl
  | succ width induction =>
      rw [toBigEndian, induction, Nat.zero_div, List.replicate_succ]
      rfl

theorem toBigEndian_of_lt {high low value : Nat} (small : value < 256 ^ low) :
    toBigEndian (high + low) value = List.replicate high 0 ++ toBigEndian low value := by
  rw [toBigEndian_add, Nat.div_eq_of_lt small, toBigEndian_zero]

theorem toBigEndian_mul (high low value : Nat) :
    toBigEndian (high + low) (value * 256 ^ low) =
      toBigEndian high value ++ List.replicate low 0 := by
  have shifted := toBigEndian_mod low (value * 256 ^ low) low (Nat.le_refl _)
  rw [Nat.mul_mod_left, toBigEndian_zero] at shifted
  rw [toBigEndian_add, Nat.mul_div_cancel _ (Nat.pow_pos (by decide)), ← shifted]

def beBytes16 (value : UInt16) : List UInt8 := toBigEndian 2 value.toNat

def beBytes32 (value : UInt32) : List UInt8 := toBigEndian 4 value.toNat

def beBytes64 (value : UInt64) : List UInt8 := toBigEndian 8 value.toNat

def fromBeBytes16 (array : FixedBytes 2) : UInt16 := .ofNat (fromBigEndian array.bytes)

def fromBeBytes32 (array : FixedBytes 4) : UInt32 := .ofNat (fromBigEndian array.bytes)

def fromBeBytes64 (array : FixedBytes 8) : UInt64 := .ofNat (fromBigEndian array.bytes)

@[simp] theorem length_beBytes16 (value : UInt16) : (beBytes16 value).length = 2 :=
  length_toBigEndian _ _

@[simp] theorem length_beBytes32 (value : UInt32) : (beBytes32 value).length = 4 :=
  length_toBigEndian _ _

@[simp] theorem length_beBytes64 (value : UInt64) : (beBytes64 value).length = 8 :=
  length_toBigEndian _ _

theorem fromBeBytes16_of_bytes {value : UInt16} {array : FixedBytes 2}
    (encoded : array.bytes = beBytes16 value) : fromBeBytes16 array = value := by
  apply UInt16.toNat_inj.mp
  have bound := value.toNat_lt
  simp only [fromBeBytes16, encoded, beBytes16, fromBigEndian_toBigEndian,
    UInt16.toNat_ofNat']
  omega

theorem fromBeBytes32_of_bytes {value : UInt32} {array : FixedBytes 4}
    (encoded : array.bytes = beBytes32 value) : fromBeBytes32 array = value := by
  apply UInt32.toNat_inj.mp
  have bound := value.toNat_lt
  simp only [fromBeBytes32, encoded, beBytes32, fromBigEndian_toBigEndian,
    UInt32.toNat_ofNat']
  omega

theorem fromBeBytes64_of_bytes {value : UInt64} {array : FixedBytes 8}
    (encoded : array.bytes = beBytes64 value) : fromBeBytes64 array = value := by
  apply UInt64.toNat_inj.mp
  have bound := value.toNat_lt
  simp only [fromBeBytes64, encoded, beBytes64, fromBigEndian_toBigEndian,
    UInt64.toNat_ofNat']
  omega

@[simp] theorem beBytes16_fromBeBytes16 (array : FixedBytes 2) :
    beBytes16 (fromBeBytes16 array) = array.bytes := by
  have bound := fromBigEndian_lt array.bytes
  have recovered := toBigEndian_fromBigEndian array.bytes
  rw [array.size_eq] at bound recovered
  simp only [beBytes16, fromBeBytes16, UInt16.toNat_ofNat']
  rwa [Nat.mod_eq_of_lt (by omega)]

@[simp] theorem beBytes32_fromBeBytes32 (array : FixedBytes 4) :
    beBytes32 (fromBeBytes32 array) = array.bytes := by
  have bound := fromBigEndian_lt array.bytes
  have recovered := toBigEndian_fromBigEndian array.bytes
  rw [array.size_eq] at bound recovered
  simp only [beBytes32, fromBeBytes32, UInt32.toNat_ofNat']
  rwa [Nat.mod_eq_of_lt (by omega)]

@[simp] theorem beBytes64_fromBeBytes64 (array : FixedBytes 8) :
    beBytes64 (fromBeBytes64 array) = array.bytes := by
  have bound := fromBigEndian_lt array.bytes
  have recovered := toBigEndian_fromBigEndian array.bytes
  rw [array.size_eq] at bound recovered
  simp only [beBytes64, fromBeBytes64, UInt64.toNat_ofNat']
  rwa [Nat.mod_eq_of_lt (by omega)]

theorem beBytes32_injective : Function.Injective beBytes32 := by
  intro left right equal
  apply UInt32.toNat_inj.mp
  exact toBigEndian_injective left.toNat_lt right.toNat_lt equal

theorem beBytes64_injective : Function.Injective beBytes64 := by
  intro left right equal
  apply UInt64.toNat_inj.mp
  exact toBigEndian_injective left.toNat_lt right.toNat_lt equal

/-! ## Checked and saturating arithmetic -/

def checkedAdd32 (left right : UInt32) : Option UInt32 :=
  if left.toNat + right.toNat < UInt32.size then some (left + right) else none

def saturatingAdd64 (left right : UInt64) : UInt64 :=
  if left.toNat + right.toNat < UInt64.size then left + right else .ofNat (UInt64.size - 1)

theorem lt_saturatingAdd64_one {value : UInt64} (room : value.toNat + 1 < UInt64.size) :
    value < saturatingAdd64 value 1 := by
  have sum : saturatingAdd64 value 1 = value + 1 := if_pos room
  rw [sum, UInt64.lt_iff_toNat_lt, UInt64.toNat_add]
  simp only [UInt64.size, UInt64.reduceToNat] at room ⊢
  omega

theorem saturatingAdd64_one_of_full {value : UInt64}
    (full : value.toNat + 1 = UInt64.size) : saturatingAdd64 value 1 = value := by
  have sum : saturatingAdd64 value 1 = .ofNat (UInt64.size - 1) :=
    if_neg (Nat.not_lt.mpr (Nat.le_of_eq full.symm))
  rw [sum, ← full, Nat.add_sub_cancel, UInt64.ofNat_toNat]

def subtract32 {Error : Type} (left right : UInt32) : Outcome Error UInt32 :=
  if right ≤ left then .ok (left - right) else .panic

def checkedAddSize (left right : Nat) : Option Nat :=
  if left + right < 2 ^ 64 then some (left + right) else none

def checkedMulSize (left right : Nat) : Option Nat :=
  if left * right < 2 ^ 64 then some (left * right) else none

def addSize {Error : Type} (left right : Nat) : Outcome Error Nat :=
  if left + right < 2 ^ 64 then .ok (left + right) else .panic

/-! ## Indexing and slicing -/

section Slices

variable {Error : Type}

/-- One element, or a panic out of range. -/
def elementAt {α : Type} (values : List α) (index : Nat) : Outcome Error α :=
  match values[index]? with
  | some value => .ok value
  | none => .panic

/-- The bytes from `start` up to `stop`, or a panic out of range. -/
def slice (bytes : List UInt8) (start stop : Nat) : Outcome Error (List UInt8) :=
  if start ≤ stop ∧ stop ≤ bytes.length then
    .ok ((bytes.drop start).take (stop - start))
  else
    .panic

def copyArray (error : Error) (size : Nat) (source : List UInt8) :
    Outcome Error (FixedBytes size) :=
  if size_eq : source.length = size then .ok ⟨source, size_eq⟩ else .err error

theorem slice_of_le {bytes : List UInt8} {start stop : Nat} (ordered : start ≤ stop)
    (inside : stop ≤ bytes.length) :
    (slice bytes start stop : Outcome Error _) =
      .ok ((bytes.drop start).take (stop - start)) := by
  simp [slice, ordered, inside]

theorem checkedAddSize_announced {offset : Nat} (short : offset < 2 ^ 16) (first : UInt8)
    (second : FixedBytes 4) :
    checkedAddSize offset first.toNat = some (offset + first.toNat) ∧
      checkedAddSize (offset + first.toNat) (fromBeBytes32 second).toNat =
        some (offset + first.toNat + (fromBeBytes32 second).toNat) := by
  have firstBound := first.toNat_lt
  have secondBound := (fromBeBytes32 second).toNat_lt
  exact ⟨if_pos (by omega), if_pos (by omega)⟩

theorem addSize_of_lt {left right : Nat} (fits : left + right < 2 ^ 64) :
    (addSize left right : Outcome Error Nat) = .ok (left + right) :=
  if_pos fits

theorem elementAt_ne_panic {α : Type} {values : List α} {index : Nat}
    (inside : index < values.length) : (elementAt values index : Outcome Error α) ≠ .panic := by
  simp [elementAt, List.getElem?_eq_getElem inside]

theorem slice_append (before middle after : List UInt8) {start stop : Nat}
    (startEq : start = before.length) (stopEq : stop = before.length + middle.length) :
    (slice (before ++ middle ++ after) start stop : Outcome Error _) = .ok middle := by
  subst startEq stopEq
  rw [slice_of_le (by omega) (by simp)]
  simp [List.append_assoc]

@[simp] theorem copyArray_bytes (error : Error) (array : FixedBytes size) :
    copyArray error size array.bytes = .ok array := by
  simp [copyArray]

theorem copyArray_ne_panic (error : Error) (size : Nat) (source : List UInt8) :
    copyArray error size source ≠ .panic := by
  unfold copyArray
  split <;> simp

theorem readArray_bind_ne_panic {α : Type} {bytes : List UInt8} {error : Error}
    {start stop size : Nat} {next : FixedBytes size → Outcome Error α}
    (ordered : start ≤ stop) (inside : stop ≤ bytes.length)
    (rest : ∀ array, next array ≠ .panic) :
    (do let part ← slice bytes start stop
        let array ← copyArray error size part
        next array) ≠ .panic := by
  rw [slice_of_le ordered inside, Outcome.ok_bind]
  exact Outcome.bind_ne_panic (copyArray_ne_panic _ _ _) fun array _ => rest array

theorem copyArray_eq_ok {error : Error} {size : Nat} {source : List UInt8}
    {array : FixedBytes size} :
    copyArray error size source = .ok array ↔ source = array.bytes := by
  unfold copyArray
  split
  · rename_i size_eq
    simp only [Outcome.ok.injEq]
    constructor
    · intro same
      subst same
      rfl
    · intro same
      subst same
      rfl
  · rename_i size_ne
    simp only [reduceCtorEq, false_iff]
    intro same
    subst same
    exact size_ne array.size_eq

theorem slice_eq_ok {bytes part : List UInt8} {start stop : Nat} :
    (slice bytes start stop : Outcome Error _) = .ok part ↔
      start ≤ stop ∧ stop ≤ bytes.length ∧ part = (bytes.drop start).take (stop - start) := by
  unfold slice
  split
  · simp_all [eq_comm]
  · rename_i outside
    simp only [reduceCtorEq, false_iff]
    intro holds
    rcases holds with ⟨ordered, inside, _⟩
    exact outside ⟨ordered, inside⟩

/-! ## Reading a concatenation field by field -/

theorem slice_skip {size : Nat} (field : FixedBytes size) (rest : List UInt8)
    {start stop : Nat} (behind : size ≤ start) (ordered : start ≤ stop) :
    (slice (field.bytes ++ rest) start stop : Outcome Error _) =
      slice rest (start - size) (stop - size) := by
  have length := field.length_bytes
  by_cases inside : stop ≤ size + rest.length
  · rw [slice_of_le ordered (by simpa using inside), slice_of_le (by omega) (by omega),
      List.drop_append, List.drop_eq_nil_of_le (by omega), List.nil_append, length]
    congr 2
    omega
  · unfold slice
    rw [if_neg (by simp; omega), if_neg (by omega)]

theorem slice_cons (byte : UInt8) (rest : List UInt8) {start stop : Nat}
    (behind : 1 ≤ start) (ordered : start ≤ stop) :
    (slice (byte :: rest) start stop : Outcome Error _) =
      slice rest (start - 1) (stop - 1) :=
  slice_skip ⟨[byte], rfl⟩ rest behind ordered

theorem slice_field {size : Nat} (field : FixedBytes size) (rest : List UInt8) :
    (slice (field.bytes ++ rest) 0 size : Outcome Error _) = .ok field.bytes := by
  rw [slice_of_le (Nat.zero_le _) (by simp), List.drop_zero, Nat.sub_zero,
    List.take_left' field.length_bytes]

theorem slice_all (rest : List UInt8) :
    (slice rest 0 rest.length : Outcome Error _) = .ok rest := by
  rw [slice_of_le (Nat.zero_le _) (Nat.le_refl _)]
  simp

theorem slice_bytes {size : Nat} (field : FixedBytes size) :
    (slice field.bytes 0 size : Outcome Error _) = .ok field.bytes := by
  have whole : (slice (field.bytes ++ []) 0 size : Outcome Error _) = _ := slice_field field []
  rwa [List.append_nil] at whole

theorem elementAt_skip {size : Nat} (field : FixedBytes size) (rest : List UInt8)
    {index : Nat} (behind : size ≤ index) :
    (elementAt (field.bytes ++ rest) index : Outcome Error _) =
      elementAt rest (index - size) := by
  unfold elementAt
  rw [List.getElem?_append_right (by simpa using behind), field.length_bytes]

theorem elementAt_cons {α : Type} (first : α) (rest : List α) {index : Nat}
    (behind : 1 ≤ index) :
    (elementAt (first :: rest) index : Outcome Error _) = elementAt rest (index - 1) := by
  rcases Nat.exists_eq_add_of_le' behind with ⟨index, rfl⟩
  rfl

@[simp] theorem elementAt_cons_zero {α : Type} (value : α) (rest : List α) :
    (elementAt (value :: rest) 0 : Outcome Error _) = .ok value := rfl

end Slices

theorem exists_field {bytes : List UInt8} {size : Nat} (long : size ≤ bytes.length) :
    ∃ (field : FixedBytes size) (rest : List UInt8),
      bytes = field.bytes ++ rest ∧ rest.length = bytes.length - size :=
  ⟨⟨bytes.take size, List.length_take_of_le long⟩, bytes.drop size,
    (List.take_append_drop size bytes).symm, List.length_drop⟩

theorem exists_byte {bytes : List UInt8} (long : 0 < bytes.length) :
    ∃ (byte : UInt8) (rest : List UInt8),
      bytes = byte :: rest ∧ rest.length = bytes.length - 1 := by
  rcases List.exists_cons_of_length_pos long with ⟨byte, rest, rfl⟩
  exact ⟨byte, rest, rfl, rfl⟩

/-! ## Machine integers as fields -/

def beArray16 (value : UInt16) : FixedBytes 2 := ⟨beBytes16 value, length_beBytes16 value⟩

def beArray32 (value : UInt32) : FixedBytes 4 := ⟨beBytes32 value, length_beBytes32 value⟩

def beArray64 (value : UInt64) : FixedBytes 8 := ⟨beBytes64 value, length_beBytes64 value⟩

@[simp] theorem fromBeBytes16_beArray16 (value : UInt16) :
    fromBeBytes16 (beArray16 value) = value := fromBeBytes16_of_bytes rfl

@[simp] theorem fromBeBytes32_beArray32 (value : UInt32) :
    fromBeBytes32 (beArray32 value) = value := fromBeBytes32_of_bytes rfl

@[simp] theorem fromBeBytes64_beArray64 (value : UInt64) :
    fromBeBytes64 (beArray64 value) = value := fromBeBytes64_of_bytes rfl

@[simp] theorem beArray16_fromBeBytes16 (array : FixedBytes 2) :
    beArray16 (fromBeBytes16 array) = array := FixedBytes.ext (beBytes16_fromBeBytes16 array)

@[simp] theorem beArray32_fromBeBytes32 (array : FixedBytes 4) :
    beArray32 (fromBeBytes32 array) = array := FixedBytes.ext (beBytes32_fromBeBytes32 array)

@[simp] theorem beArray64_fromBeBytes64 (array : FixedBytes 8) :
    beArray64 (fromBeBytes64 array) = array := FixedBytes.ext (beBytes64_fromBeBytes64 array)

theorem bytes_beArray16 (value : UInt16) : (beArray16 value).bytes = beBytes16 value := rfl

theorem beArray32_injective : Function.Injective beArray32 :=
  Function.LeftInverse.injective fromBeBytes32_beArray32

theorem beArray64_injective : Function.Injective beArray64 :=
  Function.LeftInverse.injective fromBeBytes64_beArray64

theorem bytes_beArray32 (value : UInt32) : (beArray32 value).bytes = beBytes32 value := rfl

theorem bytes_beArray64 (value : UInt64) : (beArray64 value).bytes = beBytes64 value := rfl

end Mef26
