import Mef26.Persistence.Snapshot
import Mef26.Ratchet.Slots

namespace Mef26

/-! # Exactness of the snapshot plaintext -/

namespace RatchetState

variable {P : Primitives (FixedBytes 32)}

def stateBytes (state : RatchetState P) : List UInt8 :=
  state.sessionId.bytes ++ (state.rootKey.bytes ++ (state.sendingChain.bytes ++
    (state.receivingChain.bytes ++ (state.dhPair.secret.bytes ++ (state.remoteDh.bytes ++
    (beBytes32 state.previousSendingChainLen ++ (beBytes32 state.sendingCount ++
    (beBytes32 state.receivingCount ++ (state.suite.id ::
    (beBytes16 (.ofNat state.skipped.length) ++
      state.skipped.flatMap encodeEntry))))))))))

@[simp] theorem length_encodeEntry (entry : SkippedMessageKey (FixedBytes 32)) :
    (encodeEntry entry).length = 68 := by
  simp [encodeEntry]

theorem length_flatMap_encodeEntry (entries : List (SkippedMessageKey (FixedBytes 32))) :
    (entries.flatMap encodeEntry).length = entries.length * 68 := by
  induction entries with
  | nil => rfl
  | cons entry entries induction =>
      simp only [List.flatMap_cons, List.length_append, length_encodeEntry, induction,
        List.length_cons]
      omega

theorem length_stateBytes (state : RatchetState P) :
    (stateBytes state).length = plaintextFixedLenV2 + state.skipped.length * 68 := by
  simp only [stateBytes, List.length_append, FixedBytes.length_bytes, length_beBytes32,
    List.length_cons, length_beBytes16, length_flatMap_encodeEntry, plaintextFixedLenV2,
    plaintextFixedLenV1]
  omega

theorem encodeState_eq_ok {state : RatchetState P} {bytes : List UInt8} :
    encodeState state = .ok bytes ↔
      state.skipped.length ≤ maxSkippedKeys ∧ bytes = stateBytes state := by
  by_cases bounded : state.skipped.length ≤ maxSkippedKeys
  · have small : state.skipped.length < UInt16.size :=
      Nat.lt_of_le_of_lt bounded (by decide)
    have lenEq : (UInt16.ofNat state.skipped.length).toNat = state.skipped.length :=
      UInt16.toNat_ofNat_of_lt' small
    have product : checkedMulSize state.skipped.length 68 =
        some (state.skipped.length * 68) :=
      if_pos (by simp only [UInt16.size] at small; omega)
    have total : checkedAddSize plaintextFixedLenV2 (state.skipped.length * 68) =
        some (plaintextFixedLenV2 + state.skipped.length * 68) :=
      if_pos (by simp only [UInt16.size, plaintextFixedLenV2, plaintextFixedLenV1] at *; omega)
    unfold encodeState
    rw [Outcome.rejectIf_of_not _ (Nat.not_lt.mpr bounded),
      Outcome.rejectIf_of_not _ (Nat.not_le.mpr small)]
    simp only [Outcome.ok_bind, lenEq, product, total, Outcome.okOr_some,
      Outcome.pure_eq_ok, Outcome.ok.injEq, bounded, true_and, stateBytes,
      List.append_assoc, List.singleton_append]
    exact eq_comm
  · unfold encodeState
    rw [Outcome.rejectIf_of _ (Nat.not_le.mp bounded)]
    simp [bounded]

/-! ## The entry loop -/

theorem decodeEntries_succ {fixedLen index remaining : Nat}
    (before : FixedBytes (fixedLen + index * 68)) (remoteDh : FixedBytes 32)
    (number : FixedBytes 4) (key : FixedBytes 32) (after : List UInt8)
    (skipped : List (SkippedMessageKey (FixedBytes 32)))
    (small : fixedLen + index * 68 + 68 < 2 ^ 64) :
    decodeEntries (before.bytes ++ (remoteDh.bytes ++ (number.bytes ++
        (key.bytes ++ after)))) fixedLen (remaining + 1) index skipped =
      if (remoteDh, fromBeBytes32 number) ∈ skipped.map SkippedMessageKey.slot then
        .err .invalidState
      else
        decodeEntries (before.bytes ++ (remoteDh.bytes ++ (number.bytes ++
          (key.bytes ++ after)))) fixedLen remaining (index + 1)
          (skipped ++ [{ remoteDh, messageNumber := fromBeBytes32 number, key }]) := by
  have product : checkedMulSize index 68 = some (index * 68) := if_pos (by omega)
  have sum (extra : Nat) (le : extra ≤ 68) :
      (addSize (fixedLen + index * 68) extra : Result Nat) =
        .ok (fixedLen + index * 68 + extra) := if_pos (by omega)
  have offset : (addSize fixedLen (index * 68) : Result Nat) =
      .ok (fixedLen + index * 68) := if_pos (by omega)
  rw [decodeEntries]
  simp only [product, Outcome.okOr_some, Outcome.ok_bind, offset, sum _ (by decide : 32 ≤ 68),
    sum _ (by decide : 36 ≤ 68), sum _ (by decide : 68 ≤ 68)]
  rw [slice_skip before _ (Nat.le_refl _) (by omega), Nat.sub_self, Nat.add_sub_cancel_left,
    slice_field, Outcome.ok_bind, copyArray_bytes, Outcome.ok_bind,
    slice_skip before _ (by omega) (by omega), Nat.add_sub_cancel_left,
    Nat.add_sub_cancel_left, slice_skip remoteDh _ (by decide) (by decide), slice_field,
    Outcome.ok_bind, copyArray_bytes, Outcome.ok_bind]
  by_cases repeated : (remoteDh, fromBeBytes32 number) ∈ skipped.map SkippedMessageKey.slot
  · rw [Outcome.rejectIf_of _ (SkippedMessageKey.any_slot_eq.mpr repeated), if_pos repeated]
    rfl
  · rw [Outcome.rejectIf_of_not _ (mt SkippedMessageKey.any_slot_eq.mp repeated),
      if_neg repeated, Outcome.ok_bind, slice_skip before _ (by omega) (by omega),
      Nat.add_sub_cancel_left, Nat.add_sub_cancel_left,
      slice_skip remoteDh _ (by decide) (by decide),
      slice_skip number _ (by decide) (by decide), slice_field, Outcome.ok_bind,
      copyArray_bytes, Outcome.ok_bind]

theorem encodeEntry_injective : Function.Injective encodeEntry := by
  intro left right equal
  simp only [encodeEntry] at equal
  rcases List.append_inj' equal (by simp) with ⟨equal, keys⟩
  rcases List.append_inj' equal (by simp) with ⟨remotes, numbers⟩
  ext1
  · exact FixedBytes.ext remotes
  · exact beBytes32_injective numbers
  · exact FixedBytes.ext keys

theorem flatMap_encodeEntry_eq_append {entries : List (SkippedMessageKey (FixedBytes 32))}
    {entry : SkippedMessageKey (FixedBytes 32)} {after : List UInt8} :
    entries.flatMap encodeEntry = encodeEntry entry ++ after ↔
      ∃ fresh, entries = entry :: fresh ∧ fresh.flatMap encodeEntry = after := by
  constructor
  · intro equal
    cases entries with
    | nil =>
        have lengths := congrArg List.length equal
        simp only [List.flatMap_nil, List.length_nil, List.length_append,
          length_encodeEntry] at lengths
        omega
    | cons first fresh =>
        rw [List.flatMap_cons] at equal
        rcases List.append_inj equal (by simp) with ⟨heads, tails⟩
        rw [encodeEntry_injective heads]
        exact ⟨fresh, rfl, tails⟩
  · intro holds
    rcases holds with ⟨fresh, rfl, rfl⟩
    exact List.flatMap_cons

theorem flatMap_encodeEntry_injective {left right : List (SkippedMessageKey (FixedBytes 32))}
    (equal : left.flatMap encodeEntry = right.flatMap encodeEntry) : left = right := by
  induction left generalizing right with
  | nil =>
      have lengths := length_flatMap_encodeEntry right
      rw [← equal, List.flatMap_nil, List.length_nil] at lengths
      exact (List.length_eq_zero_iff.mp (by omega)).symm
  | cons entry rest induction =>
      rw [List.flatMap_cons] at equal
      rcases flatMap_encodeEntry_eq_append.mp equal.symm with ⟨fresh, rfl, tails⟩
      rw [induction tails.symm]

/-- The plaintext of a snapshot determines every field but the generation. -/
theorem stateBytes_injective {left right : RatchetState P}
    (equal : stateBytes left = stateBytes right) :
    left = { right with generation := left.generation } := by
  simp only [stateBytes] at equal
  rcases List.append_inj equal (by simp) with ⟨sessions, equal⟩
  rcases List.append_inj equal (by simp) with ⟨roots, equal⟩
  rcases List.append_inj equal (by simp) with ⟨sendings, equal⟩
  rcases List.append_inj equal (by simp) with ⟨receivings, equal⟩
  rcases List.append_inj equal (by simp) with ⟨secrets, equal⟩
  rcases List.append_inj equal (by simp) with ⟨remotes, equal⟩
  rcases List.append_inj equal (by simp) with ⟨previous, equal⟩
  rcases List.append_inj equal (by simp) with ⟨sendingCounts, equal⟩
  rcases List.append_inj equal (by simp) with ⟨receivingCounts, equal⟩
  rcases List.cons.inj equal with ⟨suites, equal⟩
  rcases List.append_inj equal (by simp) with ⟨_, entries⟩
  ext1
  · exact FixedBytes.ext sessions
  · exact FixedBytes.ext roots
  · exact FixedBytes.ext sendings
  · exact FixedBytes.ext receivings
  · exact DhKeyPair.ext_secret (FixedBytes.ext secrets)
  · exact FixedBytes.ext remotes
  · exact beBytes32_injective previous
  · exact beBytes32_injective sendingCounts
  · exact beBytes32_injective receivingCounts
  · rfl
  · exact AeadSuite.id_injective suites
  · exact flatMap_encodeEntry_injective entries

theorem decodeEntries_eq_ok {fixedLen index : Nat} (remaining : Nat)
    (before : FixedBytes (fixedLen + index * 68)) (rest : List UInt8)
    (skipped result : List (SkippedMessageKey (FixedBytes 32)))
    (restLen : rest.length = remaining * 68)
    (small : fixedLen + (index + remaining) * 68 < 2 ^ 64)
    (distinct : (skipped.map SkippedMessageKey.slot).Nodup) :
    decodeEntries (before.bytes ++ rest) fixedLen remaining index skipped = .ok result ↔
      ∃ fresh, result = skipped ++ fresh ∧ fresh.flatMap encodeEntry = rest ∧
        (result.map SkippedMessageKey.slot).Nodup := by
  induction remaining generalizing index rest skipped with
  | zero =>
      have empty : rest = [] := List.length_eq_zero_iff.mp (by omega)
      subst empty
      rw [decodeEntries, Outcome.ok.injEq]
      constructor
      · intro same
        subst same
        exact ⟨[], by simp, rfl, distinct⟩
      · intro holds
        rcases holds with ⟨fresh, rfl, encoded, _⟩
        have lengths := length_flatMap_encodeEntry fresh
        rw [encoded, List.length_nil] at lengths
        rw [List.length_eq_zero_iff.mp (by omega : fresh.length = 0), List.append_nil]
  | succ remaining induction =>
      rcases exists_field (by omega : 32 ≤ rest.length) with ⟨remoteDh, rest, rfl, restLen⟩
      rcases exists_field (by omega : 4 ≤ rest.length) with ⟨number, rest, rfl, restLen⟩
      rcases exists_field (by omega : 32 ≤ rest.length) with ⟨key, after, rfl, afterLen⟩
      let entry : SkippedMessageKey (FixedBytes 32) :=
        { remoteDh, messageNumber := fromBeBytes32 number, key }
      have entryBytes : remoteDh.bytes ++ (number.bytes ++ (key.bytes ++ after)) =
          encodeEntry entry ++ after := by
        simp [encodeEntry, entry]
      rw [decodeEntries_succ before remoteDh number key after skipped (by omega)]
      split
      · rename_i repeated
        simp only [reduceCtorEq, false_iff, entryBytes, flatMap_encodeEntry_eq_append]
        intro holds
        rcases holds with ⟨_, rfl, ⟨fresh, rfl, _⟩, nodup⟩
        rw [List.map_append, List.nodup_append] at nodup
        exact nodup.2.2 _ repeated _ (List.mem_cons_self ..) rfl
      · rename_i new
        let extended : FixedBytes (fixedLen + (index + 1) * 68) :=
          ⟨before.bytes ++ encodeEntry entry, by simp; omega⟩
        have regroup : before.bytes ++ (remoteDh.bytes ++ (number.bytes ++
            (key.bytes ++ after))) = extended.bytes ++ after := by
          rw [entryBytes, List.append_assoc]
        have distinct' : ((skipped ++ [entry]).map SkippedMessageKey.slot).Nodup := by
          rw [List.map_append, List.nodup_append]
          refine ⟨distinct, by simp, ?_⟩
          intro position known _ either same
          rcases either with _ | ⟨_, ⟨⟩⟩
          subst same
          exact new known
        rw [regroup, induction extended after (skipped ++ [entry]) (by omega) (by omega)
          distinct', entryBytes]
        simp only [flatMap_encodeEntry_eq_append]
        constructor
        · intro holds
          rcases holds with ⟨fresh, rfl, encoded, nodup⟩
          exact ⟨entry :: fresh, by simp, ⟨fresh, rfl, encoded⟩, nodup⟩
        · intro holds
          rcases holds with ⟨_, rfl, ⟨fresh, rfl, encoded⟩, nodup⟩
          exact ⟨fresh, by simp, encoded, nodup⟩

theorem decodeEntries_all {fixedLen count : Nat} (before : FixedBytes fixedLen)
    {rest : List UInt8} {skipped : List (SkippedMessageKey (FixedBytes 32))}
    (sized : rest.length = count * 68) (small : fixedLen + count * 68 < 2 ^ 64) :
    decodeEntries (before.bytes ++ rest) fixedLen count 0 [] = .ok skipped ↔
      skipped.flatMap encodeEntry = rest ∧
        (skipped.map SkippedMessageKey.slot).Nodup := by
  have start : before.bytes.length = fixedLen + 0 * 68 := by simp
  rw [decodeEntries_eq_ok count ⟨before.bytes, start⟩ rest [] skipped sized
    (by omega) (by simp)]
  constructor
  · intro holds
    rcases holds with ⟨_, rfl, encoded, distinct⟩
    exact ⟨encoded, distinct⟩
  · intro holds
    rcases holds with ⟨encoded, distinct⟩
    exact ⟨skipped, rfl, encoded, distinct⟩

/-- Whatever the bytes, the loop never hands back two entries in one slot, and it
reads as many entries as it was asked for. -/
theorem distinct_of_decodeEntries {bytes : List UInt8} {fixedLen remaining index : Nat}
    {skipped result : List (SkippedMessageKey (FixedBytes 32))}
    (decoded : decodeEntries bytes fixedLen remaining index skipped = .ok result)
    (distinct : (skipped.map SkippedMessageKey.slot).Nodup) :
    (result.map SkippedMessageKey.slot).Nodup ∧
      result.length = skipped.length + remaining := by
  induction remaining generalizing index skipped with
  | zero =>
      cases decoded
      exact ⟨distinct, rfl⟩
  | succ remaining induction =>
      simp only [decodeEntries, Outcome.bind_eq_ok, Outcome.rejectIf_eq_ok] at decoded
      rcases decoded
          with ⟨_, _, _, _, _, _, _, _, remoteDh, _, _, _, _, _, _, _, number, _, _, new,
            _, _, _, _, _, _, key, _, rest⟩
      rw [SkippedMessageKey.any_slot_eq] at new
      have distinct' : ((skipped ++ [(⟨remoteDh, fromBeBytes32 number, key⟩ :
          SkippedMessageKey (FixedBytes 32))]).map SkippedMessageKey.slot).Nodup := by
        rw [List.map_append, List.nodup_append]
        refine ⟨distinct, by simp, ?_⟩
        intro position known _ either same
        rcases either with _ | ⟨_, ⟨⟩⟩
        subst same
        exact new known
      rcases induction rest distinct' with ⟨nodup, length⟩
      refine ⟨nodup, ?_⟩
      rw [length, List.length_append, List.length_singleton]
      omega

theorem distinct_of_decodeState {bytes : List UInt8} {generation : UInt64}
    {version : UInt8} {state : RatchetState P}
    (decoded : decodeState bytes generation version = .ok state) :
    (state.skipped.map SkippedMessageKey.slot).Nodup ∧
      state.skipped.length ≤ maxSkippedKeys := by
  unfold decodeState at decoded
  iterate 5 rcases Outcome.bind_eq_ok.mp decoded with ⟨_, _, decoded⟩
  rcases Outcome.bind_eq_ok.mp decoded with ⟨count, _, decoded⟩
  rcases Outcome.bind_eq_ok.mp decoded with ⟨_, bounded, decoded⟩
  -- the length checks and the fixed fields say nothing about the entries
  iterate 25 rcases Outcome.bind_eq_ok.mp decoded with ⟨_, _, decoded⟩
  rcases Outcome.bind_eq_ok.mp decoded with ⟨skipped, entries, decoded⟩
  cases decoded
  rcases distinct_of_decodeEntries entries List.nodup_nil with ⟨distinct, length⟩
  rw [Outcome.rejectIf_eq_ok] at bounded
  refine ⟨distinct, ?_⟩
  rw [length, List.length_nil, Nat.zero_add]
  exact Nat.not_lt.mp bounded

/-! ## The two layouts -/

structure SnapshotFields where
  sessionId : FixedBytes 32
  rootKey : FixedBytes 32
  sendingChain : FixedBytes 32
  receivingChain : FixedBytes 32
  secret : FixedBytes 32
  remoteDh : FixedBytes 32
  previous : FixedBytes 4
  sending : FixedBytes 4
  receiving : FixedBytes 4

namespace SnapshotFields

def bytes (fields : SnapshotFields) : List UInt8 :=
  fields.sessionId.bytes ++ (fields.rootKey.bytes ++ (fields.sendingChain.bytes ++
    (fields.receivingChain.bytes ++ (fields.secret.bytes ++ (fields.remoteDh.bytes ++
    (fields.previous.bytes ++ (fields.sending.bytes ++ fields.receiving.bytes)))))))

@[simp] theorem length_bytes (fields : SnapshotFields) : fields.bytes.length = 204 := by
  simp [bytes]

def state (P : Primitives (FixedBytes 32)) (fields : SnapshotFields) (generation : UInt64)
    (suite : AeadSuite) (skipped : List (SkippedMessageKey (FixedBytes 32))) :
    RatchetState P where
  sessionId := fields.sessionId
  rootKey := fields.rootKey
  sendingChain := fields.sendingChain
  receivingChain := fields.receivingChain
  dhPair := DhKeyPair.fromSecret fields.secret
  remoteDh := fields.remoteDh
  previousSendingChainLen := fromBeBytes32 fields.previous
  sendingCount := fromBeBytes32 fields.sending
  receivingCount := fromBeBytes32 fields.receiving
  generation := generation
  suite := suite
  skipped := skipped

def ofState (state : RatchetState P) : SnapshotFields where
  sessionId := state.sessionId
  rootKey := state.rootKey
  sendingChain := state.sendingChain
  receivingChain := state.receivingChain
  secret := state.dhPair.secret
  remoteDh := state.remoteDh
  previous := beArray32 state.previousSendingChainLen
  sending := beArray32 state.sendingCount
  receiving := beArray32 state.receivingCount

@[simp] theorem state_ofState (state : RatchetState P) :
    (ofState state).state P state.generation state.suite state.skipped = state := by
  simp [SnapshotFields.state, ofState]

theorem ofState_state (fields : SnapshotFields) (generation : UInt64) (suite : AeadSuite)
    (skipped : List (SkippedMessageKey (FixedBytes 32))) :
    ofState (fields.state P generation suite skipped) = fields := by
  rcases fields with ⟨_, _, _, _, _, _, previous, sending, receiving⟩
  simp [SnapshotFields.state, ofState, DhKeyPair.fromSecret]

theorem exists_fields {bytes : List UInt8} (long : 204 ≤ bytes.length) :
    ∃ (fields : SnapshotFields) (rest : List UInt8),
      bytes = fields.bytes ++ rest ∧ rest.length = bytes.length - 204 := by
  rcases exists_field (by omega : 32 ≤ bytes.length) with ⟨sessionId, rest, rfl, length⟩
  rcases exists_field (by omega : 32 ≤ rest.length) with ⟨rootKey, rest, rfl, length⟩
  rcases exists_field (by omega : 32 ≤ rest.length) with ⟨sendingChain, rest, rfl, length⟩
  rcases exists_field (by omega : 32 ≤ rest.length) with ⟨receivingChain, rest, rfl, length⟩
  rcases exists_field (by omega : 32 ≤ rest.length) with ⟨secret, rest, rfl, length⟩
  rcases exists_field (by omega : 32 ≤ rest.length) with ⟨remoteDh, rest, rfl, length⟩
  rcases exists_field (by omega : 4 ≤ rest.length) with ⟨previous, rest, rfl, length⟩
  rcases exists_field (by omega : 4 ≤ rest.length) with ⟨sending, rest, rfl, length⟩
  rcases exists_field (by omega : 4 ≤ rest.length) with ⟨receiving, rest, rfl, length⟩
  refine ⟨⟨sessionId, rootKey, sendingChain, receivingChain, secret, remoteDh, previous,
    sending, receiving⟩, rest, ?_, by omega⟩
  simp only [bytes, List.append_assoc]

end SnapshotFields

theorem stateBytes_eq (state : RatchetState P) :
    stateBytes state = (SnapshotFields.ofState state).bytes ++ (state.suite.id ::
      (beBytes16 (.ofNat state.skipped.length) ++ state.skipped.flatMap encodeEntry)) := by
  simp only [stateBytes, SnapshotFields.bytes, SnapshotFields.ofState, bytes_beArray32,
    List.append_assoc]

section Layout

variable (fields : SnapshotFields) {width : Nat} (tag : FixedBytes width)
  (count : FixedBytes 2) (rest : List UInt8) (generation : UInt64) {version : UInt8}
  {suite : Result AeadSuite} (single : width ≤ 1)
  (fixedLen : plaintextFixedLen version = .ok (plaintextFixedLenV1 + width))
  (selected : suiteAndCountOffset (fields.bytes ++ (tag.bytes ++ (count.bytes ++ rest)))
    version = suite >>= fun suite => .ok (suite, 204 + width))

include single fixedLen selected

/-- What decoding comes to once the fixed fields are known. The layouts differ in the bytes
between the counters and the entry count. -/
theorem decodeState_layout :
    (decodeState (fields.bytes ++ (tag.bytes ++ (count.bytes ++ rest))) generation version :
      Result (RatchetState P)) = do
      let suite ← suite
      Outcome.rejectIf ((fromBeBytes16 count).toNat > maxSkippedKeys) .invalidState
      Outcome.rejectIf (rest.length ≠ (fromBeBytes16 count).toNat * 68) .invalidFrame
      let skipped ← decodeEntries (fields.bytes ++ (tag.bytes ++ (count.bytes ++ rest)))
        (plaintextFixedLenV1 + width) (fromBeBytes16 count).toNat 0 []
      return fields.state P generation suite skipped := by
  have length : (fields.bytes ++ (tag.bytes ++ (count.bytes ++ rest))).length =
      plaintextFixedLenV1 + width + rest.length := by
    simp only [List.length_append, FixedBytes.length_bytes, SnapshotFields.length_bytes,
      plaintextFixedLenV1]
    omega
  unfold decodeState
  rw [fixedLen, Outcome.ok_bind, Outcome.rejectIf_of_not _ (by omega), Outcome.ok_bind,
    selected]
  cases suite with
  | err error => rfl
  | panic => rfl
  | ok suite =>
  have countSlice : (slice (fields.bytes ++ (tag.bytes ++ (count.bytes ++ rest)))
      (204 + width) (204 + width + 2) : Result _) = .ok count.bytes := by
    let front : FixedBytes (204 + width) := ⟨fields.bytes ++ tag.bytes, by simp⟩
    have skipped : (slice (front.bytes ++ (count.bytes ++ rest)) (204 + width)
        (204 + width + 2) : Result _) = _ := slice_skip front _ (Nat.le_refl _) (by omega)
    rw [Nat.sub_self, Nat.add_sub_cancel_left, slice_field] at skipped
    rwa [List.append_assoc] at skipped
  have sum : (addSize (204 + width) 2 : Result Nat) = .ok (204 + width + 2) := by
    simp only [addSize]
    rw [if_pos (by omega)]
  have countBound := (fromBeBytes16 count).toNat_lt
  have product : checkedMulSize (fromBeBytes16 count).toNat 68 =
      some ((fromBeBytes16 count).toNat * 68) := if_pos (by omega)
  have total : checkedAddSize (plaintextFixedLenV1 + width)
      ((fromBeBytes16 count).toNat * 68) =
      some (plaintextFixedLenV1 + width + (fromBeBytes16 count).toNat * 68) :=
    if_pos (by simp only [plaintextFixedLenV1]; omega)
  simp only [Outcome.ok_bind, Outcome.pure_eq_ok, sum, countSlice, copyArray_bytes,
    product, total, Outcome.okOr_some]
  congr 1
  funext _
  by_cases sized : rest.length = (fromBeBytes16 count).toNat * 68
  · have whole : (fields.bytes ++ (tag.bytes ++ (count.bytes ++ rest))).length =
        plaintextFixedLenV1 + width + (fromBeBytes16 count).toNat * 68 := by omega
    rw [Outcome.rejectIf_of_not _ (not_not.mpr whole),
      Outcome.rejectIf_of_not _ (not_not.mpr sized), Outcome.ok_bind, Outcome.ok_bind]
    have fixed (behind : List UInt8) :
        (slice (fields.bytes ++ behind) 0 32 : Result _) = .ok fields.sessionId.bytes ∧
        (slice (fields.bytes ++ behind) 32 64 : Result _) = .ok fields.rootKey.bytes ∧
        (slice (fields.bytes ++ behind) 64 96 : Result _) = .ok fields.sendingChain.bytes ∧
        (slice (fields.bytes ++ behind) 96 128 : Result _) =
          .ok fields.receivingChain.bytes ∧
        (slice (fields.bytes ++ behind) 128 160 : Result _) = .ok fields.secret.bytes ∧
        (slice (fields.bytes ++ behind) 160 192 : Result _) = .ok fields.remoteDh.bytes ∧
        (slice (fields.bytes ++ behind) 192 196 : Result _) = .ok fields.previous.bytes ∧
        (slice (fields.bytes ++ behind) 196 200 : Result _) = .ok fields.sending.bytes ∧
        (slice (fields.bytes ++ behind) 200 204 : Result _) =
          .ok fields.receiving.bytes := by
      simp only [SnapshotFields.bytes, List.append_assoc]
      simp (disch := decide) only [slice_skip, Nat.reduceSub, slice_field, and_self]
    rcases fixed (tag.bytes ++ (count.bytes ++ rest))
        with ⟨at0, at32, at64, at96, at128, at160, at192, at196, at200⟩
    simp only [at0, at32, at64, at96, at128, at160, at192, at196, at200, Outcome.ok_bind,
      copyArray_bytes]
    rw [Outcome.rejectIf_of_not _ (not_not.mpr rfl), Outcome.ok_bind]
    rfl
  · have cut : (fields.bytes ++ (tag.bytes ++ (count.bytes ++ rest))).length ≠
        plaintextFixedLenV1 + width + (fromBeBytes16 count).toNat * 68 := by omega
    rw [Outcome.rejectIf_of _ cut, Outcome.rejectIf_of _ sized]
    rfl

theorem decodeState_layout_eq_ok {state : RatchetState P} :
    decodeState (fields.bytes ++ (tag.bytes ++ (count.bytes ++ rest))) generation version =
        .ok state ↔
      ∃ known skipped, suite = .ok known ∧
        (fromBeBytes16 count).toNat ≤ maxSkippedKeys ∧
        skipped.length = (fromBeBytes16 count).toNat ∧
        skipped.flatMap encodeEntry = rest ∧
        (skipped.map SkippedMessageKey.slot).Nodup ∧
        state = fields.state P generation known skipped := by
  let before : FixedBytes (plaintextFixedLenV1 + width) :=
    ⟨fields.bytes ++ (tag.bytes ++ count.bytes), by simp [plaintextFixedLenV1]; omega⟩
  have regroup : fields.bytes ++ (tag.bytes ++ (count.bytes ++ rest)) =
      before.bytes ++ rest := by
    simp [before]
  have small : plaintextFixedLenV1 + width + (fromBeBytes16 count).toNat * 68 < 2 ^ 64 := by
    have bound := (fromBeBytes16 count).toNat_lt
    simp only [plaintextFixedLenV1]
    omega
  rw [decodeState_layout fields tag count rest generation single fixedLen selected, regroup]
  simp only [Outcome.bind_eq_ok, Outcome.rejectIf_eq_ok, Outcome.pure_eq_ok,
    Outcome.ok.injEq, not_not, gt_iff_lt, Nat.not_lt]
  constructor
  · intro returned
    rcases returned with ⟨known, suiteEq, _, bounded, _, sized, skipped, entries, rfl⟩
    rw [decodeEntries_all before sized small] at entries
    rcases entries with ⟨rfl, distinct⟩
    rw [length_flatMap_encodeEntry] at sized
    exact ⟨known, skipped, suiteEq, bounded, by omega, rfl, distinct, rfl⟩
  · intro holds
    rcases holds with ⟨known, skipped, suiteEq, bounded, length, rfl, distinct, rfl⟩
    have sized : (skipped.flatMap encodeEntry).length =
        (fromBeBytes16 count).toNat * 68 := by
      rw [length_flatMap_encodeEntry, length]
    exact ⟨known, suiteEq, ⟨⟩, bounded, ⟨⟩, sized, skipped,
      (decodeEntries_all before sized small).mpr ⟨rfl, distinct⟩, rfl⟩

end Layout

theorem length_of_decodeState {bytes : List UInt8} {generation : UInt64} {version : UInt8}
    {fixedLen : Nat} {state : RatchetState P}
    (fixed : plaintextFixedLen version = .ok fixedLen)
    (decoded : decodeState bytes generation version = .ok state) :
    fixedLen ≤ bytes.length := by
  by_contra short
  unfold decodeState at decoded
  rw [fixed, Outcome.ok_bind, Outcome.rejectIf_of _ (Nat.not_le.mp short)] at decoded
  cases decoded

/-! ## The current version -/

theorem decodeState_current_eq_ok {fields : SnapshotFields} {suiteId : UInt8}
    {count : FixedBytes 2} {rest : List UInt8} {generation : UInt64}
    {state : RatchetState P} :
    decodeState (fields.bytes ++ (suiteId :: (count.bytes ++ rest))) generation stateVersion =
        .ok state ↔
      ∃ suite skipped, suite.id = suiteId ∧
        (fromBeBytes16 count).toNat ≤ maxSkippedKeys ∧
        skipped.length = (fromBeBytes16 count).toNat ∧
        skipped.flatMap encodeEntry = rest ∧
        (skipped.map SkippedMessageKey.slot).Nodup ∧
        state = fields.state P generation suite skipped := by
  have selected : suiteAndCountOffset (fields.bytes ++ ([suiteId] ++ (count.bytes ++ rest)))
      stateVersion = AeadSuite.fromId suiteId >>= fun suite => .ok (suite, 204 + 1) := by
    have element : (elementAt (fields.bytes ++ (suiteId :: (count.bytes ++ rest))) 204 :
        Result _) = .ok suiteId :=
      elementAt_skip ⟨fields.bytes, fields.length_bytes⟩ _ (Nat.le_refl _)
    rw [suiteAndCountOffset, if_neg (by decide), List.singleton_append, element]
    rfl
  simpa only [AeadSuite.fromId_eq_ok, List.singleton_append] using
    decodeState_layout_eq_ok fields ⟨[suiteId], rfl⟩ count rest generation (Nat.le_refl 1) rfl
      selected

/-- A current-version plaintext decodes to a state exactly when it is the
encoding of that state and no slot occurs twice in it. -/
theorem decodeState_eq_ok {bytes : List UInt8} {generation : UInt64}
    {state : RatchetState P} :
    decodeState bytes generation stateVersion = .ok state ↔
      bytes = stateBytes state ∧ state.generation = generation ∧
      state.skipped.length ≤ maxSkippedKeys ∧
      (state.skipped.map SkippedMessageKey.slot).Nodup := by
  constructor
  · intro decoded
    have long : plaintextFixedLenV2 ≤ bytes.length := length_of_decodeState rfl decoded
    simp only [plaintextFixedLenV2, plaintextFixedLenV1] at long
    rcases SnapshotFields.exists_fields (by omega : 204 ≤ bytes.length)
        with ⟨fields, rest, rfl, length⟩
    rcases exists_byte (by omega : 0 < rest.length) with ⟨suiteId, rest, rfl, length⟩
    rcases exists_field (by omega : 2 ≤ rest.length) with ⟨count, rest, rfl, length⟩
    rcases decodeState_current_eq_ok.mp decoded
        with ⟨suite, skipped, rfl, bounded, countEq, rfl, distinct, rfl⟩
    refine ⟨?_, rfl, Nat.le_trans (Nat.le_of_eq countEq) bounded, distinct⟩
    rw [stateBytes_eq, SnapshotFields.ofState_state]
    simp only [SnapshotFields.state, countEq, UInt16.ofNat_toNat, beBytes16_fromBeBytes16]
  · intro holds
    rcases holds with ⟨rfl, rfl, bounded, distinct⟩
    have countEq : (UInt16.ofNat state.skipped.length).toNat = state.skipped.length :=
      UInt16.toNat_ofNat_of_lt' (Nat.lt_of_le_of_lt bounded (by decide))
    rw [stateBytes_eq, ← bytes_beArray16, decodeState_current_eq_ok,
      fromBeBytes16_beArray16, countEq]
    exact ⟨state.suite, state.skipped, rfl, bounded, rfl, rfl, distinct,
      (SnapshotFields.state_ofState state).symm⟩

end RatchetState

end Mef26
