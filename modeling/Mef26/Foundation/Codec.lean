import Mathlib.Data.List.Basic
import Mef26.Foundation.Outcome

namespace Mef26

/-! # Exact codecs

A writer gives each value its bytes. A parser is exact when it takes the bytes of each
admitted value back to that value and accepts nothing else. -/

namespace Codec

variable {Byte Value Error : Type*} {write : Value → List Byte} {admits : Value → Prop}

/-! ## Parsers of whole byte strings -/

def Exact (write : Value → List Byte) (admits : Value → Prop)
    (parse : List Byte → Outcome Error Value) : Prop :=
  ∀ bytes value, parse bytes = .ok value ↔ bytes = write value ∧ admits value

namespace Exact

variable {parse : List Byte → Outcome Error Value} (exact : Exact write admits parse)

include exact

theorem parse_write {value : Value} (admitted : admits value) :
    parse (write value) = .ok value :=
  (exact _ _).mpr ⟨rfl, admitted⟩

theorem write_eq {bytes : List Byte} {value : Value} (parsed : parse bytes = .ok value) :
    write value = bytes :=
  ((exact _ _).mp parsed).1.symm

theorem write_injective {left right : Value} (leftAdmitted : admits left)
    (rightAdmitted : admits right) (same : write left = write right) : left = right := by
  have parsed := exact.parse_write leftAdmitted
  rw [same, exact.parse_write rightAdmitted] at parsed
  exact (Outcome.ok.inj parsed).symm

end Exact

/-! ## Prefix-free writers -/

/-- No written form is a proper prefix of another. -/
def PrefixFree (write : Value → List Byte) (admits : Value → Prop) : Prop :=
  ∀ left right, admits left → admits right → write left <+: write right → left = right

theorem Exact.prefixFree_of_length {parse : List Byte → Outcome Error Value}
    (exact : Exact write admits parse) {size : Nat}
    (sized : ∀ value, (write value).length = size) : PrefixFree write admits := by
  intro left right leftAdmitted rightAdmitted leads
  apply exact.write_injective leftAdmitted rightAdmitted
  apply leads.eq_of_length
  rw [sized, sized]

namespace PrefixFree

variable {parse : List Byte → Outcome Error Value} (exact : Exact write admits parse)
  (prefixFree : PrefixFree write admits) {value : Value} (admitted : admits value)

include exact prefixFree admitted

theorem parse_append_ne_ok {rest : List Byte} (more : rest ≠ []) (other : Value) :
    parse (write value ++ rest) ≠ .ok other := by
  intro parsed
  rcases (exact _ _).mp parsed with ⟨same, otherAdmitted⟩
  have equal := prefixFree value other admitted otherAdmitted ⟨rest, same⟩
  rw [equal] at same
  exact more (List.append_right_eq_self.mp same)

theorem parse_take_ne_ok {count : Nat} (cut : count < (write value).length) (other : Value) :
    parse ((write value).take count) ≠ .ok other := by
  intro parsed
  rcases (exact _ _).mp parsed with ⟨same, otherAdmitted⟩
  have leads : write other <+: write value := same ▸ List.take_prefix _ _
  have equal := prefixFree other value otherAdmitted admitted leads
  have lengths := congrArg List.length same
  rw [equal, List.length_take] at lengths
  omega

end PrefixFree

theorem PrefixFree.unique (prefixFree : PrefixFree write admits) {left right : Value}
    (leftAdmitted : admits left) (rightAdmitted : admits right) {bytes : List Byte}
    (leftLeads : write left <+: bytes) (rightLeads : write right <+: bytes) : left = right := by
  rcases List.prefix_or_prefix_of_prefix leftLeads rightLeads with leads | leads
  · exact prefixFree left right leftAdmitted rightAdmitted leads
  · exact (prefixFree right left rightAdmitted leftAdmitted leads).symm

/-! ## Canonical codecs -/

/-- Every admitted value comes back from its one written form, and what is longer or
shorter than a written form is refused. -/
structure Canonical (encode : Value → Outcome Error (List Byte)) (admits : Value → Prop)
    (decode : List Byte → Outcome Error Value) : Prop where
  roundTrip : ∀ value, admits value →
    ∃ bytes, encode value = .ok bytes ∧ decode bytes = .ok value
  reencoded : ∀ bytes value, decode bytes = .ok value → encode value = .ok bytes
  extended : ∀ value bytes, admits value → encode value = .ok bytes →
    ∀ rest, rest ≠ [] → (decode (bytes ++ rest)).Fails
  truncated : ∀ value bytes, admits value → encode value = .ok bytes →
    ∀ count < bytes.length, (decode (bytes.take count)).Fails

theorem Exact.canonical {decode : List Byte → Outcome Error Value}
    {encode : Value → Outcome Error (List Byte)} (exact : Exact write admits decode)
    (prefixFree : PrefixFree write admits) (encodes : ∀ value, encode value = .ok (write value))
    (total : ∀ bytes, decode bytes ≠ .panic) : Canonical encode admits decode where
  roundTrip value admitted := ⟨write value, encodes value, exact.parse_write admitted⟩
  reencoded bytes value decoded := by rw [encodes, exact.write_eq decoded]
  extended value bytes admitted encoded rest more := by
    rw [encodes] at encoded
    cases encoded
    exact Outcome.fails_of (prefixFree.parse_append_ne_ok exact admitted more) (total _)
  truncated value bytes admitted encoded count cut := by
    rw [encodes] at encoded
    cases encoded
    exact Outcome.fails_of (prefixFree.parse_take_ne_ok exact admitted cut) (total _)

/-! ## Parsers of a first part -/

/-- The parser takes the bytes of a value off the front of a byte string within a limit. -/
def ExactPrefix (limit : Nat) (write : Value → List Byte)
    (parse : List Byte → Outcome Error (Value × Nat)) : Prop :=
  ∀ bytes value count, parse bytes = .ok (value, count) ↔
    bytes.length ≤ limit ∧ count = (write value).length ∧ ∃ rest, bytes = write value ++ rest

namespace ExactPrefix

variable {limit : Nat} {parse : List Byte → Outcome Error (Value × Nat)}
  (exact : ExactPrefix limit write parse)

include exact

theorem parse_eq_ok {bytes : List Byte} {value : Value} {count : Nat} :
    parse bytes = .ok (value, count) ↔
      bytes.length ≤ limit ∧ count ≤ bytes.length ∧ bytes.take count = write value := by
  rw [exact]
  constructor
  · intro parsed
    rcases parsed with ⟨within, rfl, rest, rfl⟩
    exact ⟨within, by simp, List.take_left⟩
  · intro covered
    rcases covered with ⟨within, inside, written⟩
    refine ⟨within, ?_, bytes.drop count, ?_⟩
    · rw [← written, List.length_take, Nat.min_eq_left inside]
    · rw [← written, List.take_append_drop]

theorem prefixFree (sized : ∀ value, (write value).length ≤ limit) :
    PrefixFree write admits := by
  intro left right _ _ leads
  rcases leads with ⟨rest, same⟩
  have leftParsed := (exact (write right) left _).mpr ⟨sized right, rfl, rest, same.symm⟩
  have rightParsed := (exact (write right) right _).mpr
    ⟨sized right, rfl, [], (List.append_nil _).symm⟩
  rw [leftParsed] at rightParsed
  exact congrArg Prod.fst (Outcome.ok.inj rightParsed)

end ExactPrefix

end Codec

end Mef26
