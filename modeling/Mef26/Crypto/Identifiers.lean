import Mef26.Crypto.Concrete
import Mef26.Crypto.Kdf
import Mef26.Foundation.Framing

namespace Mef26

/-! # Identifier inputs

Inputs of `blake3_id` under one label never feed the same bytes to the hasher. The label
itself is neither terminated nor behind its length, so inputs under two labels can. -/

variable {Key : Type}

/-! ## One label -/

theorem KeyMaterial.eq_nil_of_byteLength {material : KeyMaterial Key}
    (empty : byteLength material = 0) : material = [] := by
  cases material with
  | nil => rfl
  | cons symbol rest =>
      cases symbol <;> simp [byteLength] at empty

theorem KeyMaterial.append_inj {left left' right right' : KeyMaterial Key}
    (lengths : byteLength left = byteLength left') (same : left ++ right = left' ++ right') :
    left = left' ∧ right = right' := by
  rcases List.append_eq_append_iff.mp same with ⟨more, rfl, rfl⟩ | ⟨more, rfl, rfl⟩
  · have empty : more = [] := eq_nil_of_byteLength (by rw [byteLength_append] at lengths; omega)
    simp [empty]
  · have empty : more = [] := eq_nil_of_byteLength (by rw [byteLength_append] at lengths; omega)
    simp [empty]

def identifierPart (part : KeyMaterial Key) : KeyMaterial Key :=
  KeyMaterial.ofBytes (toBigEndian 8 (KeyMaterial.byteLength part)) ++ part

def ShortParts (parts : List (KeyMaterial Key)) : Prop :=
  ∀ part ∈ parts, KeyMaterial.byteLength part ≤ maxCiphertextLen

theorem identifierPart_append_inj {left right : KeyMaterial Key}
    {rest rest' : KeyMaterial Key}
    (short : KeyMaterial.byteLength left ≤ maxCiphertextLen)
    (short' : KeyMaterial.byteLength right ≤ maxCiphertextLen)
    (same : identifierPart left ++ rest = identifierPart right ++ rest') :
    left = right ∧ rest = rest' := by
  unfold identifierPart at same
  rw [List.append_assoc, List.append_assoc] at same
  rcases KeyMaterial.append_inj (by simp) same with ⟨headers, behind⟩
  have limit : maxCiphertextLen < 256 ^ 8 := by decide
  have lengths := toBigEndian_injective (Nat.lt_of_le_of_lt short limit)
    (Nat.lt_of_le_of_lt short' limit) (KeyMaterial.ofBytes_injective headers)
  exact KeyMaterial.append_inj lengths behind

theorem identifierParts_injective {left right : List (KeyMaterial Key)}
    (short : ShortParts left) (short' : ShortParts right)
    (same : left.flatMap identifierPart = right.flatMap identifierPart) : left = right := by
  induction left generalizing right with
  | nil =>
      cases right with
      | nil => rfl
      | cons part right => cases same
  | cons part left induction =>
      cases right with
      | nil => cases same
      | cons part' right =>
          rw [List.flatMap_cons, List.flatMap_cons] at same
          rcases List.forall_mem_cons.mp short with ⟨within, rest⟩
          rcases List.forall_mem_cons.mp short' with ⟨within', rest'⟩
          rcases identifierPart_append_inj within within' same with ⟨rfl, behind⟩
          rw [induction rest rest' behind]

theorem blake3Input_eq (label : String) (parts : List (KeyMaterial Key)) :
    blake3Input label parts =
      .ofBytes (utf8Bytes protocolId ++ [0] ++ utf8Bytes "blake3-id" ++ [0]) ++
        (.ofBytes (utf8Bytes label) ++ parts.flatMap identifierPart) := by
  simp only [blake3Input, KeyMaterial.ofBytes, List.map_append, List.append_assoc]
  rfl

theorem blake3Input_injective {label : String} {left right : List (KeyMaterial Key)}
    (short : ShortParts left) (short' : ShortParts right)
    (same : blake3Input label left = blake3Input label right) : left = right := by
  rw [blake3Input_eq, blake3Input_eq] at same
  exact identifierParts_injective short short'
    (List.append_cancel_left (List.append_cancel_left same))

/-! ## Two labels -/

variable {P : Primitives Key}

theorem blake3Id_eq_ok {label : String} {parts : List (KeyMaterial Key)}
    {digest : FixedBytes 32} :
    blake3Id P label parts = .ok digest ↔
      ¬InvalidLabel label ∧ ShortParts parts ∧ digest = P.blake3 (blake3Input label parts) := by
  simp only [blake3Id, Outcome.bind_eq_ok, Outcome.rejectIf_eq_ok, Outcome.pure_eq_ok,
    Outcome.ok.injEq, exists_const, not_or, ShortParts, List.any_eq_true, decide_eq_true_eq,
    not_exists, not_and, Nat.not_lt, and_assoc, eq_comm (a := digest)]

def byteParts (parts : List (List UInt8)) : List (KeyMaterial Key) :=
  parts.map KeyMaterial.ofBytes

theorem byteParts_injective :
    Function.Injective (byteParts : List (List UInt8) → List (KeyMaterial Key)) :=
  List.map_injective_iff.mpr KeyMaterial.ofBytes_injective

theorem shortParts_byteParts {parts : List (List UInt8)} :
    ShortParts (byteParts parts : List (KeyMaterial Key)) ↔
      Framing.Within maxCiphertextLen parts := by
  simp [ShortParts, byteParts, Framing.Within]

theorem flatMap_byteParts (parts : List (List UInt8)) :
    (byteParts parts : List (KeyMaterial Key)).flatMap identifierPart =
      KeyMaterial.ofBytes (Framing.frames parts) := by
  induction parts with
  | nil => rfl
  | cons part parts induction =>
      rw [byteParts, List.map_cons, List.flatMap_cons, ← byteParts, induction,
        Framing.frames_cons]
      simp only [identifierPart, KeyMaterial.byteLength_ofBytes, Framing.frame]
      simp [KeyMaterial.ofBytes]

/-- Under both labels, inputs made of byte strings that feed the same bytes to the hasher are
equal. -/
def Unambiguous (P : Primitives Key) (label label' : String) : Prop :=
  ∀ (parts parts' : List (List UInt8)) (digest digest' : FixedBytes 32),
    blake3Id P label (byteParts parts) = .ok digest →
    blake3Id P label' (byteParts parts') = .ok digest' →
    (blake3Input label (byteParts parts) : KeyMaterial Key) =
      blake3Input label' (byteParts parts') →
    label = label' ∧ parts = parts'

/-- One label is the other one followed by bytes that parts absorb. -/
def Confusable (label label' : String) : Prop :=
  ∃ more, more ≠ [] ∧ Framing.Absorbed maxCiphertextLen more ∧
    (utf8Bytes label' = utf8Bytes label ++ more ∨ utf8Bytes label = utf8Bytes label' ++ more)

theorem blake3Input_byteParts (label : String) (parts : List (List UInt8)) :
    (blake3Input label (byteParts parts) : KeyMaterial Key) =
      .ofBytes (utf8Bytes protocolId ++ [0] ++ utf8Bytes "blake3-id" ++ [0]) ++
        KeyMaterial.ofBytes (utf8Bytes label ++ Framing.frames parts) := by
  rw [blake3Input_eq, flatMap_byteParts]
  simp only [KeyMaterial.ofBytes, List.map_append]

theorem blake3Input_byteParts_inj {label label' : String} {parts parts' : List (List UInt8)} :
    (blake3Input label (byteParts parts) : KeyMaterial Key) =
        blake3Input label' (byteParts parts') ↔
      utf8Bytes label ++ Framing.frames parts = utf8Bytes label' ++ Framing.frames parts' := by
  rw [blake3Input_byteParts, blake3Input_byteParts, List.append_cancel_left_eq,
    KeyMaterial.ofBytes_injective.eq_iff]

theorem absorbs_iff_absorbed {bytes : List UInt8} :
    Framing.Absorbs maxCiphertextLen bytes ↔ Framing.Absorbed maxCiphertextLen bytes :=
  Framing.absorbs_iff (by decide) (by decide)

theorem blake3Id_byteParts (P : Primitives Key) {label : String} {parts : List (List UInt8)}
    (valid : ¬InvalidLabel label) (within : Framing.Within maxCiphertextLen parts) :
    blake3Id P label (byteParts parts) = .ok (P.blake3 (blake3Input label (byteParts parts))) :=
  blake3Id_eq_ok.mpr ⟨valid, shortParts_byteParts.mpr within, rfl⟩

variable (Key) in
theorem exists_parts_of_absorbed {label label' : String} {more : List UInt8}
    (absorbed : Framing.Absorbed maxCiphertextLen more)
    (extended : utf8Bytes label' = utf8Bytes label ++ more) :
    ∃ parts parts', Framing.Within maxCiphertextLen parts ∧
      Framing.Within maxCiphertextLen parts' ∧
      (blake3Input label (byteParts parts) : KeyMaterial Key) =
        blake3Input label' (byteParts parts') := by
  rcases absorbs_iff_absorbed.mpr absorbed with ⟨parts, parts', within, within', same⟩
  refine ⟨parts, parts', within, within', blake3Input_byteParts_inj.mpr ?_⟩
  rw [extended, same, List.append_assoc]

theorem Unambiguous.symm {label label' : String} (unambiguous : Unambiguous P label label') :
    Unambiguous P label' label := by
  intro parts parts' digest digest' accepted accepted' same
  rcases unambiguous parts' parts digest' digest accepted' accepted same.symm
    with ⟨labels, parts⟩
  exact ⟨labels.symm, parts.symm⟩

theorem Confusable.symm {label label' : String} (confusable : Confusable label label') :
    Confusable label' label := by
  rcases confusable with ⟨more, some, absorbed, extended⟩
  exact ⟨more, some, absorbed, extended.symm⟩

section Labels

variable {label label' : String} {more : List UInt8}

theorem not_unambiguous_of_extended (valid : ¬InvalidLabel label)
    (valid' : ¬InvalidLabel label') (some : more ≠ [])
    (absorbed : Framing.Absorbed maxCiphertextLen more)
    (extended : utf8Bytes label' = utf8Bytes label ++ more) : ¬Unambiguous P label label' := by
  intro unambiguous
  rcases exists_parts_of_absorbed Key absorbed extended
    with ⟨parts, parts', within, within', same⟩
  have labels := (unambiguous parts parts' _ _ (blake3Id_byteParts P valid within)
    (blake3Id_byteParts P valid' within') same).1
  rw [labels] at extended
  exact some (List.self_eq_append_right.mp extended)

theorem labels_eq_of_extended (apart : ¬Confusable label label')
    {parts parts' : List (List UInt8)} (within : Framing.Within maxCiphertextLen parts)
    (within' : Framing.Within maxCiphertextLen parts')
    (extended : utf8Bytes label' = utf8Bytes label ++ more)
    (behind : Framing.frames parts = more ++ Framing.frames parts') : label = label' := by
  rcases eq_or_ne more [] with rfl | some
  · exact utf8Bytes_injective (by rw [extended, List.append_nil])
  · exact absurd ⟨more, some, absorbs_iff_absorbed.mp ⟨_, _, within, within', behind⟩,
      .inl extended⟩ apart

/-- Identifier inputs are unambiguous exactly if no label is the other one with bytes behind
it that parts absorb. -/
theorem unambiguous_iff (valid : ¬InvalidLabel label) (valid' : ¬InvalidLabel label') :
    Unambiguous P label label' ↔ ¬Confusable label label' := by
  constructor
  · intro unambiguous confusable
    rcases confusable with ⟨more, some, absorbed, extended | extended⟩
    · exact not_unambiguous_of_extended valid valid' some absorbed extended unambiguous
    · exact not_unambiguous_of_extended valid' valid some absorbed extended unambiguous.symm
  · intro apart parts parts' digest digest' accepted accepted' same
    have short := (blake3Id_eq_ok.mp accepted).2.1
    have short' := (blake3Id_eq_ok.mp accepted').2.1
    have within := shortParts_byteParts.mp short
    have within' := shortParts_byteParts.mp short'
    have labels : label = label' := by
      rcases List.append_eq_append_iff.mp (blake3Input_byteParts_inj.mp same)
        with ⟨more, extended, behind⟩ | ⟨more, extended, behind⟩
      · exact labels_eq_of_extended apart within within' extended behind
      · exact (labels_eq_of_extended (fun confusable => apart confusable.symm) within' within
          extended behind).symm
    subst labels
    exact ⟨rfl, byteParts_injective (blake3Input_injective short short' same)⟩

end Labels

theorem not_confusable {label label' : String} (apart : ¬utf8Bytes label <+: utf8Bytes label')
    (apart' : ¬utf8Bytes label' <+: utf8Bytes label) : ¬Confusable label label' := by
  intro confusable
  rcases confusable with ⟨more, _, _, extended | extended⟩
  · exact apart ⟨more, extended.symm⟩
  · exact apart' ⟨more, extended.symm⟩

/-- Labels that do not start with each other feed different bytes, whatever the parts. -/
theorem blake3Input_ne {label label' : String} (apart : ¬utf8Bytes label <+: utf8Bytes label')
    (apart' : ¬utf8Bytes label' <+: utf8Bytes label) (parts parts' : List (KeyMaterial Key)) :
    blake3Input label parts ≠ blake3Input label' parts' := by
  intro same
  rw [blake3Input_eq, blake3Input_eq, List.append_cancel_left_eq,
    List.append_eq_append_iff] at same
  rcases same with ⟨more, extended, _⟩ | ⟨more, extended, _⟩
  · rcases List.map_eq_append_iff.mp extended with ⟨front, rest, split, same, _⟩
    exact apart ⟨rest, by rw [split, KeyMaterial.ofBytes_injective same]⟩
  · rcases List.map_eq_append_iff.mp extended with ⟨front, rest, split, same, _⟩
    exact apart' ⟨rest, by rw [split, KeyMaterial.ofBytes_injective same]⟩

/-- An empty part behind a label reads like eight zero bytes at the end of the label. -/
theorem exists_inputs_ambiguous :
    ∃ (label label' : String) (parts parts' : List (List UInt8)) (digest digest' : FixedBytes 32),
      blake3Id Primitives.concrete label (byteParts parts) = .ok digest ∧
      blake3Id Primitives.concrete label' (byteParts parts') = .ok digest' ∧
      (blake3Input label (byteParts parts) : KeyMaterial (FixedBytes 32)) =
        blake3Input label' (byteParts parts') ∧
      ¬(label = label' ∧ parts = parts') :=
  ⟨"a", "a\x00\x00\x00\x00\x00\x00\x00\x00", [[]], [], _, _,
    blake3Id_byteParts _ (by decide) (by simp), blake3Id_byteParts _ (by decide) (by simp),
    blake3Input_byteParts_inj.mpr (by decide), by simp⟩

theorem unambiguous_iff_test :
    Unambiguous Primitives.concrete "sid" "other" ∧
      ¬Unambiguous Primitives.concrete "a" "a\x00\x00\x00\x00\x00\x00\x00\x00" := by
  constructor
  · exact (unambiguous_iff (by decide) (by decide)).mpr
      (not_confusable (by decide) (by decide))
  · rw [unambiguous_iff (by decide) (by decide), not_not]
    exact ⟨Framing.frame [] ++ [], by decide, .frame (Nat.zero_le _) .nil, .inl (by decide)⟩

end Mef26
