import Mef26.Crypto.Symbolic
import Mef26.Foundation.Knowledge
import Mef26.Ratchet.KeyLineage

namespace Mef26

/-! # Deriving ratchet secrets

Key derivation and agreement as free symbols, and the derivations that are open to
whoever holds the secrets of an endpoint. -/

namespace Primitives

variable {Key : Type}

/-- Key derivation and agreement are free: each output comes from one application, up to
the two sides of an agreement. -/
structure FreeSymbols (P : Primitives Key) : Prop where
  kdf : P.CollisionFreeKdf
  agreement_ne_kdf (secret peer : FixedBytes 32) (salt : KeyMaterial Key)
    (info : List UInt8) (input : KeyMaterial Key) :
    P.x25519 secret peer ≠ P.hkdfSha256 salt info input
  agreement_eq (secret peer secret' peer' : FixedBytes 32) :
    P.x25519 secret peer = P.x25519 secret' peer' →
      P.x25519PublicKey secret = P.x25519PublicKey secret' ∨
        P.x25519PublicKey secret = peer'

theorem freeSymbols_symbolic : symbolic.FreeSymbols where
  kdf := collisionFreeKdf_symbolic
  agreement_ne_kdf _ _ _ _ _ same := nomatch same
  agreement_eq secret peer secret' peer' same := by
    rcases Sym2.eq_iff.mp (Term.agreement.inj same) with ⟨secrets, _⟩ | ⟨crossed, _⟩
    · exact .inl secrets
    · exact .inr crossed

end Primitives

section

variable {Key : Type} (P : Primitives Key)

/-- The second half of a root step: the chain of a root that is already the next one. -/
def chainOfRoot (root output : Key) : Key :=
  P.hkdfSha256 (.ofKey root) (domainLabel "kdf" rootChainLabel) (.ofKey output)

theorem rootChain_eq_chainOfRoot (root output : Key) :
    rootChain P root output = chainOfRoot P (nextRoot P root output) output := rfl

/-- The derivations that the code performs, each as a whole. -/
inductive CodeDerives (held : DhSecretKey → Prop) : DerivationRules Key
  | nextChain (chainKey : Key) : CodeDerives held [chainKey] (chainNext P chainKey)
  | messageKey (chainKey : Key) : CodeDerives held [chainKey] (messageKeyOf P chainKey)
  | nextRoot (root output : Key) : CodeDerives held [root, output] (nextRoot P root output)
  | rootChain (root output : Key) : CodeDerives held [root, output] (rootChain P root output)
  | initialChain (role : RatchetRole) (root : Key) (sessionId : FixedBytes 32) :
      CodeDerives held [root] (initialChain P role root sessionId)
  | agreement {secret : DhSecretKey} (peer : DhPublicKey) :
      held secret → CodeDerives held [] (P.x25519 secret peer)

/-- The two derivations of a root step may also be performed one without the other. -/
inductive PartsDerive (held : DhSecretKey → Prop) : DerivationRules Key
  | code {premises : List Key} {key : Key} :
      CodeDerives P held premises key → PartsDerive held premises key
  | chainOfRoot (root output : Key) :
      PartsDerive held [root, output] (chainOfRoot P root output)

end

variable {Key : Type} {P : Primitives Key}

inductive RatchetState.Holds (state : RatchetState P) : Key → Prop
  | rootKey : Holds state state.rootKey
  | sendingChain : Holds state state.sendingChain
  | receivingChain : Holds state state.receivingChain
  | skipped (entry : SkippedMessageKey Key) (member : entry ∈ state.skipped) :
      Holds state entry.key

namespace RatchetState

def CanDerive (state : RatchetState P) (key : Key) : Prop :=
  Derivable (CodeDerives P fun secret => secret = state.dhPair.secret) state.Holds key

/-- What follows when root steps can be taken apart. -/
def CanDeriveInParts (state : RatchetState P) (key : Key) : Prop :=
  Derivable (PartsDerive P fun secret => secret = state.dhPair.secret) state.Holds key

theorem CanDerive.inParts {state : RatchetState P} {key : Key}
    (derivable : state.CanDerive key) : state.CanDeriveInParts key :=
  derivable.mono fun _ _ applied => .code applied

end RatchetState

/-! ## Kinds of keys -/

def rootLabels : List String :=
  [Handshake.rootLabel, Handshake.hybridRootLabel, ratchetRootLabel]

def chainLabels : List String :=
  [initAToBLabel, initBToALabel, rootChainLabel, chainKeyLabel]

def DerivedUnder (P : Primitives Key) (labels : List String) (key : Key) : Prop :=
  ∃ label ∈ labels, ∃ salt input, key = P.hkdfSha256 salt (domainLabel "kdf" label) input

theorem derivedUnder_root {rootSecret root : Key} {depth : Nat}
    (derived : HandshakeRoot P rootSecret)
    (lineage : Lineage (RootParent P) rootSecret depth root) :
    DerivedUnder P rootLabels root := by
  cases lineage with
  | self =>
      rcases derived with ⟨salt, input, label, member, same⟩
      have listed : ∀ label ∈ [Handshake.rootLabel, Handshake.hybridRootLabel],
          label ∈ rootLabels := by decide
      exact ⟨label, listed label member, salt, input, same⟩
  | child above step =>
      rcases step with ⟨output, same⟩
      exact ⟨ratchetRootLabel, by decide, _, _, same⟩

theorem derivedUnder_chain {rootSecret start : Key} {sessionId : FixedBytes 32}
    {epoch : Nat} (started : ChainStart P rootSecret sessionId epoch start) (index : Nat) :
    DerivedUnder P chainLabels (chainAt P start index) := by
  cases index with
  | succ index =>
      rw [chainAt_succ]
      exact ⟨chainKeyLabel, by decide, _, _, rfl⟩
  | zero =>
      cases started with
      | initial role =>
          cases role
          · exact ⟨initAToBLabel, by decide, _, _, rfl⟩
          · exact ⟨initBToALabel, by decide, _, _, rfl⟩
      | stepped output lineage => exact ⟨rootChainLabel, by decide, _, _, rfl⟩

theorem derivedUnder_message (chainKey : Key) :
    DerivedUnder P [messageKeyLabel] (messageKeyOf P chainKey) :=
  ⟨messageKeyLabel, List.mem_cons_self .., _, _, rfl⟩

namespace Primitives

variable (kdf : P.CollisionFreeKdf)

include kdf

theorem CollisionFreeKdf.kinds_apart {labels labels' : List String} {key key' : Key}
    (apart : ∀ label ∈ labels, label ∉ labels') (first : DerivedUnder P labels key)
    (second : DerivedUnder P labels' key') : key ≠ key' := by
  intro same
  rcases first with ⟨label, member, salt, input, derivation⟩
  rcases second with ⟨label', member', salt', input', derivation'⟩
  rw [derivation, derivation'] at same
  rw [kdf.label_eq same] at member
  exact apart _ member member'

end Primitives

theorem Primitives.FreeSymbols.agreement_not_derivedUnder (free : P.FreeSymbols)
    {labels : List String} (secret peer : FixedBytes 32) :
    ¬DerivedUnder P labels (P.x25519 secret peer) := by
  intro derived
  rcases derived with ⟨label, _, salt, input, same⟩
  exact free.agreement_ne_kdf _ _ _ _ _ same

end Mef26
