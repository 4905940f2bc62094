import Mef26.Foundation.Bytes

namespace Mef26

/-! # Length-prefixed parts

A list of byte strings is written part by part, each behind its length in eight bytes. Some
bytes in front of one written list give another written list. Which bytes do is settled here
for every limit on the length of a part between 2 ^ 17 and 2 ^ 24. -/

namespace Framing

def frame (part : List UInt8) : List UInt8 := toBigEndian 8 part.length ++ part

def frames (parts : List (List UInt8)) : List UInt8 := parts.flatMap frame

def Within (limit : Nat) (parts : List (List UInt8)) : Prop :=
  ∀ part ∈ parts, part.length ≤ limit

@[simp] theorem frames_nil : frames [] = [] := rfl

@[simp] theorem frames_cons (part : List UInt8) (parts : List (List UInt8)) :
    frames (part :: parts) = frame part ++ frames parts := List.flatMap_cons

@[simp] theorem within_nil {limit : Nat} : Within limit [] := List.forall_mem_nil _

@[simp] theorem within_cons {limit : Nat} {part : List UInt8} {parts : List (List UInt8)} :
    Within limit (part :: parts) ↔ part.length ≤ limit ∧ Within limit parts :=
  List.forall_mem_cons

/-! ## Gaps -/

/-- Some frames start with the bytes and go on with frames. -/
def Absorbs (limit : Nat) (bytes : List UInt8) : Prop :=
  ∃ parts rest, Within limit parts ∧ Within limit rest ∧
    frames parts = bytes ++ frames rest

/-- A gap of three, four or five bytes is never closed by frames. -/
def Closable (missing : Nat) : Prop := missing < 3 ∨ 5 < missing

theorem header_eq {limit size : Nat} (small : limit < 2 ^ 24) (within : size ≤ limit) :
    toBigEndian 8 size = List.replicate 5 0 ++ toBigEndian 3 size :=
  @toBigEndian_of_lt 5 3 size (Nat.lt_of_le_of_lt within small)

theorem eq_zero_of_header {size : Nat} (small : size < 2 ^ 24)
    (zeros : toBigEndian 3 size = List.replicate 3 0) : size = 0 := by
  rw [← toBigEndian_zero] at zeros
  exact toBigEndian_injective small (by decide) zeros

section Stuck

variable {limit : Nat} (small : limit < 2 ^ 24)

include small

/-- Frames across a gap: the part in front is empty, and the rest of its length is a gap in
front of the other frames. -/
theorem exists_gap_swapped {parts rest : List (List UInt8)} {gap : List UInt8}
    (within : Within limit parts) (within' : Within limit rest)
    (least : 3 ≤ gap.length) (most : gap.length ≤ 5)
    (same : frames parts = gap ++ frames rest) :
    ∃ parts' gap', parts = [] :: parts' ∧ gap'.length = 8 - gap.length ∧
      frames rest = gap' ++ frames parts' := by
  cases parts with
  | nil =>
      have lengths := congrArg List.length same
      simp only [frames_nil, List.length_nil, List.length_append] at lengths
      omega
  | cons part parts =>
      rw [within_cons] at within
      have header := header_eq small within.1
      have split := List.take_append_drop gap.length (toBigEndian 8 part.length)
      rw [frames_cons, frame, ← split, List.append_assoc, List.append_assoc] at same
      rcases List.append_inj same (by simp; omega) with ⟨_, behind⟩
      have drop : (toBigEndian 8 part.length).drop gap.length =
          List.replicate (5 - gap.length) 0 ++ toBigEndian 3 part.length := by
        rw [header, List.drop_append_of_le_length (by simpa using most),
          List.drop_replicate]
      have empty : part.length = 0 := by
        cases rest with
        | nil =>
            have lengths := congrArg List.length behind
            simp only [frames_nil, List.length_nil, List.length_append, drop,
              length_toBigEndian] at lengths
            omega
        | cons other rest =>
            rw [within_cons] at within'
            have zeros : (List.replicate 5 0 : List UInt8) =
                List.replicate (5 - gap.length) 0 ++
                  (List.replicate 3 0 ++ List.replicate (gap.length - 3) 0) := by
              rw [← List.replicate_add, ← List.replicate_add]
              congr 1
              omega
            rw [frames_cons, frame, header_eq small within'.1, drop, zeros] at behind
            simp only [List.append_assoc] at behind
            have aligned := List.append_cancel_left behind
            exact eq_zero_of_header (Nat.lt_of_le_of_lt within.1 small)
              (List.append_inj_left aligned (by simp))
      refine ⟨parts, (toBigEndian 8 part.length).drop gap.length, ?_, by simp, ?_⟩
      · rw [List.length_eq_zero_iff.mp empty]
      · rw [← behind, List.length_eq_zero_iff.mp empty]
        rfl

/-- The gap moves back and forth between the two lists until one of them is used up. -/
theorem closable_of_frames {parts rest : List (List UInt8)} {gap : List UInt8}
    (within : Within limit parts) (within' : Within limit rest)
    (same : frames parts = gap ++ frames rest) : Closable gap.length := by
  induction parts generalizing rest gap with
  | nil =>
      have empty : gap = [] := (List.append_eq_nil_iff.mp same.symm).1
      simp [empty, Closable]
  | cons part parts induction =>
      by_contra stuck
      rw [Closable, not_or, Nat.not_lt, Nat.not_lt] at stuck
      rcases exists_gap_swapped small within within' stuck.1 stuck.2 same
        with ⟨parts', gap', front, length, same'⟩
      rcases List.cons.inj front with ⟨_, rfl⟩
      have remaining := (within_cons.mp within).2
      rcases exists_gap_swapped small within' remaining (by omega) (by omega) same'
        with ⟨rest', gap'', rfl, length', same''⟩
      have closable := induction remaining (within_cons.mp within').2 same''
      rw [Closable] at closable
      omega

end Stuck

/-! ## Closing a gap -/

def zeros (size : Nat) : List UInt8 := List.replicate size 0

@[simp] theorem length_zeros (size : Nat) : (zeros size).length = size :=
  List.length_replicate

theorem zeros_add (low high : Nat) : zeros (low + high) = zeros low ++ zeros high :=
  List.replicate_add ..

theorem header_of_lt {low high value : Nat} (width : low + high = 8)
    (small : value < 256 ^ high) :
    toBigEndian 8 value = zeros low ++ toBigEndian high value := by
  rw [← width, toBigEndian_of_lt small, zeros]

theorem header_mul {low high : Nat} (width : high + low = 8) (value : Nat) :
    toBigEndian 8 (value * 256 ^ low) = toBigEndian high value ++ zeros low := by
  rw [← width, toBigEndian_mul, zeros]

section Closing

variable {limit : Nat} (large : 2 ^ 17 ≤ limit)

include large

/-- A gap of one or two bytes. The part in front holds the last bytes of the length behind
it, and the part behind holds the rest. -/
theorem absorbs_zeros {low : Nat} (short : low = 1 ∨ low = 2) :
    Absorbs limit (zeros low) := by
  have bound : low * 256 ^ low ≤ 2 ^ 17 ∧ 8 ≤ low * 256 ^ low := by
    rcases short with rfl | rfl <;> decide
  refine ⟨[zeros low, zeros (low * 256 ^ low - 8)], [frame (zeros (low * 256 ^ low - 8))],
    ?_, ?_, ?_⟩
  · simp only [within_cons, within_nil, length_zeros, and_true]
    omega
  · simp only [within_cons, within_nil, frame, List.length_append, length_toBigEndian,
      length_zeros, and_true]
    omega
  · have behind : (frame (zeros (low * 256 ^ low - 8))).length = low * 256 ^ low := by
      simp only [frame, List.length_append, length_toBigEndian, length_zeros]
      omega
    have small : low < 256 ^ (8 - low) := by
      rcases short with rfl | rfl <;> decide
    have width : low + (8 - low) = 8 := by omega
    simp only [frames_cons, frames_nil, List.append_nil]
    rw [frame, length_zeros, header_of_lt width small, frame.eq_1 (frame _), behind,
      header_mul (Nat.sub_add_cancel (by omega))]
    simp only [List.append_assoc]

/-- The first bytes of a length that ends with one or two zeros. The part behind it holds the
last bytes of the other length. -/
theorem absorbs_shifted {value low : Nat} (small : limit < 2 ^ 24)
    (short : low = 1 ∨ low = 2) (nonzero : 0 < value) (within : value * 256 ^ low ≤ limit) :
    Absorbs limit (toBigEndian (8 - low) value) := by
  have scaled := Nat.mul_le_mul_right (256 ^ low) nonzero
  have room : 8 - low ≤ value * 256 ^ low := by
    rcases short with rfl | rfl <;> omega
  rcases Nat.exists_eq_add_of_le room with ⟨remaining, size⟩
  have bounded : remaining < 256 ^ (8 - low) := by
    rcases short with rfl | rfl <;> omega
  refine ⟨[toBigEndian (8 - low) remaining ++ zeros remaining], [zeros remaining], ?_, ?_, ?_⟩
  · simp only [within_cons, within_nil, List.length_append, length_toBigEndian,
      length_zeros, and_true]
    omega
  · simp only [within_cons, within_nil, length_zeros, and_true]
    omega
  · have width : 8 - low + low = 8 := by omega
    have width' : low + (8 - low) = 8 := by omega
    simp only [frames_cons, frames_nil, List.append_nil, frame, List.length_append,
      length_toBigEndian, length_zeros]
    rw [← size, header_mul width, header_of_lt width' bounded]
    simp only [List.append_assoc]

theorem absorbs_take {size low : Nat} (small : limit < 2 ^ 24) (within : size ≤ limit)
    (short : low = 1 ∨ low = 2) : Absorbs limit ((toBigEndian 8 size).take (8 - low)) := by
  have width : 8 - low + low = 8 := Nat.sub_add_cancel (by omega)
  have taken : (toBigEndian 8 size).take (8 - low) =
      toBigEndian (8 - low) (size / 256 ^ low) := by
    rw [← width, toBigEndian_add, width, List.take_left' (length_toBigEndian _ _)]
  rw [taken]
  rcases Nat.eq_zero_or_pos (size / 256 ^ low) with tiny | nonzero
  · -- The part behind it may be empty. The other bytes of its length are then a gap of one
    -- or two zeros.
    rcases absorbs_zeros large short with ⟨parts, rest, held, held', same⟩
    refine ⟨[] :: rest, parts, by simpa using held', held, ?_⟩
    have whole : toBigEndian 8 0 = zeros (8 - low) ++ zeros low := by
      rw [toBigEndian_zero, ← zeros_add, width, zeros]
    rw [tiny, toBigEndian_zero, frames_cons, same, frame, List.length_nil, whole]
    simp only [List.append_nil, List.append_assoc, zeros]
  · exact absorbs_shifted large small short nonzero
      (Nat.le_trans (Nat.div_mul_le_self _ _) within)

theorem absorbs_cutLength {size missing : Nat} (small : limit < 2 ^ 24) (within : size ≤ limit)
    (cut : 0 < missing ∧ missing < 8) (closable : Closable missing) :
    Absorbs limit ((toBigEndian 8 size).take (8 - missing)) := by
  rcases closable with low | high
  · exact absorbs_take large small within (by omega)
  · have taken : (toBigEndian 8 size).take (8 - missing) = zeros (8 - missing) := by
      rw [header_eq small within, List.take_append_of_le_length (by simp; omega),
        List.take_replicate, Nat.min_eq_left (by omega)]
      rfl
    rw [taken]
    exact absorbs_zeros large (by omega)

theorem exists_gap {missing : Nat} (small : limit < 2 ^ 24) (within : missing ≤ limit)
    (positive : 0 < missing) (closable : Closable missing) :
    ∃ gap, gap.length = missing ∧ Absorbs limit gap := by
  rcases Nat.lt_or_ge missing 8 with short | long
  · refine ⟨(toBigEndian 8 0).take (8 - (8 - missing)), by simp; omega,
      absorbs_cutLength large small (Nat.zero_le _) (by omega) ?_⟩
    rw [Closable] at closable ⊢
    omega
  · refine ⟨frame (zeros (missing - 8)), ?_, [zeros (missing - 8)], [], ?_, within_nil, ?_⟩
    · simp only [frame, List.length_append, length_toBigEndian, length_zeros]
      omega
    · simp only [within_cons, within_nil, length_zeros, and_true]
      omega
    · simp

end Closing

/-! ## Absorbed bytes -/

/-- The bytes that some frames absorb, read off the bytes. They are whole frames up to the
end or up to a frame that is cut short, inside its part or inside its length. -/
inductive Absorbed (limit : Nat) : List UInt8 → Prop
  | nil : Absorbed limit []
  | frame {part bytes : List UInt8} (within : part.length ≤ limit)
      (absorbed : Absorbed limit bytes) : Absorbed limit (frame part ++ bytes)
  | cutPart {size : Nat} {start : List UInt8} (within : size ≤ limit)
      (cut : start.length < size) (closable : Closable (size - start.length)) :
      Absorbed limit (toBigEndian 8 size ++ start)
  | cutLength {size missing : Nat} (within : size ≤ limit)
      (cut : 0 < missing ∧ missing < 8) (closable : Closable missing) :
      Absorbed limit ((toBigEndian 8 size).take (8 - missing))

variable {limit : Nat}

theorem Absorbed.absorbs (large : 2 ^ 17 ≤ limit) (small : limit < 2 ^ 24)
    {bytes : List UInt8} (absorbed : Absorbed limit bytes) : Absorbs limit bytes := by
  induction absorbed with
  | nil => exact ⟨[], [], within_nil, within_nil, rfl⟩
  | @frame part bytes within absorbed induction =>
      rcases induction with ⟨parts, rest, held, held', same⟩
      refine ⟨part :: parts, rest, within_cons.mpr ⟨within, held⟩, held', ?_⟩
      rw [frames_cons, same, List.append_assoc]
  | @cutPart size start within cut closable =>
      rcases exists_gap large small (by omega) (by omega) closable
        with ⟨gap, missing, parts, rest, held, held', same⟩
      have whole : (start ++ gap).length = size := by
        rw [List.length_append]
        omega
      refine ⟨(start ++ gap) :: rest, parts,
        within_cons.mpr ⟨Nat.le_trans (Nat.le_of_eq whole) within, held'⟩, held, ?_⟩
      rw [frames_cons, same, Framing.frame, whole]
      simp only [List.append_assoc]
  | cutLength within cut closable =>
      exact absorbs_cutLength large small within cut closable

theorem absorbed_of_short {size : Nat} {bytes : List UInt8} (within : size ≤ limit)
    (short : bytes.length < 8) (closable : Closable bytes.length)
    (leads : bytes <+: toBigEndian 8 size) : Absorbed limit bytes := by
  rcases eq_or_ne bytes [] with rfl | more
  · exact .nil
  · have positive := List.length_pos_iff.mpr more
    have cut : Absorbed limit ((toBigEndian 8 size).take (8 - (8 - bytes.length))) := by
      apply Absorbed.cutLength within (by omega)
      rw [Closable] at closable ⊢
      omega
    rwa [Nat.sub_sub_self (Nat.le_of_lt short), ← List.prefix_iff_eq_take.mp leads] at cut

theorem absorbed_of_frames (small : limit < 2 ^ 24) {parts rest : List (List UInt8)}
    {bytes : List UInt8} (within : Within limit parts) (within' : Within limit rest)
    (same : frames parts = bytes ++ frames rest) : Absorbed limit bytes := by
  induction parts generalizing bytes with
  | nil =>
      have empty : bytes = [] := (List.append_eq_nil_iff.mp same.symm).1
      rw [empty]
      exact .nil
  | cons part parts induction =>
      have held := within_cons.mp within
      have whole := same
      rw [frames_cons, frame, List.append_assoc] at same
      rcases Nat.lt_or_ge bytes.length 8 with short | long
      · exact absorbed_of_short held.1 short
          (closable_of_frames small within within' whole)
          (List.prefix_of_prefix_length_le ⟨_, same.symm⟩ ⟨_, rfl⟩
            (by simpa using Nat.le_of_lt short))
      · rcases List.prefix_of_prefix_length_le ⟨_, rfl⟩ ⟨_, same.symm⟩ (by simpa using long)
          with ⟨start, rfl⟩
        rw [List.append_assoc, List.append_cancel_left_eq, List.append_eq_append_iff] at same
        rcases same with ⟨behind, rfl, remaining⟩ | ⟨missing, rfl, remaining⟩
        · rw [← List.append_assoc]
          exact .frame held.1 (induction held.2 remaining)
        · rcases eq_or_ne missing [] with rfl | more
          · have last := Absorbed.frame held.1 .nil
            simp only [frame, List.append_nil] at last ⊢
            exact last
          · have gap := closable_of_frames small within' held.2 remaining
            refine .cutPart held.1 ?_ ?_
            · rw [List.length_append]
              exact Nat.lt_add_of_pos_right (List.length_pos_iff.mpr more)
            · rwa [List.length_append, Nat.add_sub_cancel_left]

theorem absorbs_iff (large : 2 ^ 17 ≤ limit) (small : limit < 2 ^ 24) {bytes : List UInt8} :
    Absorbs limit bytes ↔ Absorbed limit bytes := by
  constructor
  · intro absorbs
    rcases absorbs with ⟨parts, rest, within, within', same⟩
    exact absorbed_of_frames small within within' same
  · exact Absorbed.absorbs large small

end Framing

end Mef26
