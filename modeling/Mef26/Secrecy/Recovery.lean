import Mef26.Secrecy.Knowledge
import Mef26.Session.Session

namespace Mef26

/-! # Recovery after a compromise

The adversary learns the whole state of an endpoint. A ratchet step with a fresh pair
towards a key that the adversary does not hold puts everything the endpoint sends from
then on out of its reach. -/

section

variable {Key : Type}

def KeyMaterial.keys (material : KeyMaterial Key) : List Key :=
  material.filterMap Sum.getRight?

theorem KeyMaterial.mem_keys_ofKey (key : Key) : key ∈ (KeyMaterial.ofKey key).keys :=
  List.mem_singleton_self key

/-- Everything an adversary can do with secrets: derive keys in any context, and agree
with any peer under a secret it holds. -/
inductive AdversaryDerives (P : Primitives Key) (held : DhSecretKey → Prop) :
    DerivationRules Key
  | derivation (salt : KeyMaterial Key) (info : List UInt8) (input : KeyMaterial Key) :
      AdversaryDerives P held (salt.keys ++ input.keys) (P.hkdfSha256 salt info input)
  | agreement {secret : DhSecretKey} (peer : DhPublicKey) :
      held secret → AdversaryDerives P held [] (P.x25519 secret peer)

end

variable {Key : Type} {P : Primitives Key}

def RatchetState.HeldWith (exposed : RatchetState P) (own : DhSecretKey → Prop)
    (secret : DhSecretKey) : Prop :=
  secret = exposed.dhPair.secret ∨ own secret

/-- What an adversary with some agreement secrets of its own derives from a state. All
public data are byte strings, which need no premise. -/
def RatchetState.Reveals (exposed : RatchetState P) (own : DhSecretKey → Prop) (key : Key) :
    Prop :=
  Derivable (AdversaryDerives P (exposed.HeldWith own)) exposed.Holds key

/-! ## What lies below a root -/

def RootBelow (P : Primitives Key) (healed root : Key) : Prop :=
  ∃ depth, Lineage (RootParent P) healed depth root

def ChainBelow (P : Primitives Key) (healed chainKey : Key) : Prop :=
  ∃ root output index, RootBelow P healed (nextRoot P root output) ∧
    chainKey = chainAt P (rootChain P root output) index

theorem RootBelow.step {healed root : Key} (below : RootBelow P healed root)
    (output : Key) : RootBelow P healed (nextRoot P root output) := by
  rcases below with ⟨depth, lineage⟩
  exact ⟨depth + 1, .child lineage ⟨output, rfl⟩⟩

theorem RootBelow.trans {healed middle root : Key} (first : RootBelow P healed middle)
    (second : RootBelow P middle root) : RootBelow P healed root := by
  rcases first with ⟨_, lineage⟩
  rcases second with ⟨_, lineage'⟩
  exact ⟨_, lineage.append lineage'⟩

/-- The agreement of a root step and the keys that depend on it. -/
inductive Recovered (P : Primitives Key) (root output : Key) : Key → Prop
  | output : Recovered P root output output
  | root {below : Key} (isBelow : RootBelow P (nextRoot P root output) below) :
      Recovered P root output below
  | chain {chainKey : Key} (isBelow : ChainBelow P (nextRoot P root output) chainKey) :
      Recovered P root output chainKey
  | message {chainKey : Key} (isBelow : ChainBelow P (nextRoot P root output) chainKey) :
      Recovered P root output (messageKeyOf P chainKey)

structure KeyStore.Below (P : Primitives Key) (healed : Key) (store : KeyStore Key) :
    Prop where
  root : RootBelow P healed store.rootKey
  sending : ChainBelow P healed store.sendingChain

theorem KeyMove.below {healed : Key} {store after : KeyStore Key} {taken : Option Key}
    (move : KeyMove P store taken after) (below : store.Below P healed) :
    after.Below P healed := by
  cases move with
  | send =>
      rcases below.sending with ⟨root, output, index, opened, same⟩
      refine ⟨below.root, root, output, index + 1, opened, ?_⟩
      rw [chainAt_succ, ← same]
  | receive => exact ⟨below.root, below.sending⟩
  | release => exact ⟨below.root, below.sending⟩
  | skip => exact ⟨below.root, below.sending⟩
  | stepSending output =>
      have root := below.root.step output
      exact ⟨root, _, _, 0, root, rfl⟩
  | stepReceiving output => exact ⟨below.root.step output, below.sending⟩

theorem KeyMove.rootBelow {store after : KeyStore Key} {taken : Option Key}
    (move : KeyMove P store taken after) : RootBelow P store.rootKey after.rootKey := by
  have self : RootBelow P store.rootKey store.rootKey := ⟨0, .self⟩
  cases move with
  | send => exact self
  | receive => exact self
  | release => exact self
  | skip => exact self
  | stepSending output => exact self.step output
  | stepReceiving output => exact self.step output

section Calls

variable {start final : RatchetState P}
  {transitions : List (Transition (RatchetState P) RatchetCall)}

theorem rootBelow_of_run (run : Run CallStep start transitions final) :
    RootBelow P start.rootKey final.rootKey := by
  rcases RatchetCall.exists_keyMoves_of_run run with ⟨moves, moved, _⟩
  apply @Run.invariant _ _ _ _ _ _ (fun store => RootBelow P start.rootKey store.rootKey) moved
  · exact ⟨0, .self⟩
  · intro current taken next move below
    exact below.trans move.rootBelow

theorem below_of_run {healed : Key} (run : Run CallStep start transitions final)
    (below : start.keyStore.Below P healed) : final.keyStore.Below P healed := by
  rcases RatchetCall.exists_keyMoves_of_run run with ⟨moves, moved, _⟩
  exact moved.invariant below fun _ _ _ move => move.below

/-- A step with a new pair mixes its agreement with the remote key into a root below the
old one, and opens the sending chain from there. -/
theorem RatchetCall.DrawsPair.heals {state : RatchetState P} {call : RatchetCall}
    {pair : DhKeyPair P} (draws : RatchetCall.DrawsPair state call pair) :
    ∃ root, RootBelow P state.rootKey root ∧
      (call.after state).rootKey =
        nextRoot P root (P.x25519 pair.secret (call.after state).remoteDh) ∧
      (call.after state).sendingChain =
        rootChain P root (P.x25519 pair.secret (call.after state).remoteDh) := by
  have self : RootBelow P state.rootKey state.rootKey := ⟨0, .self⟩
  cases draws with
  | rotate generated contributory =>
      rw [RatchetCall.after_of_commits (.rotate pair generated contributory)]
      exact ⟨state.rootKey, self, rfl, rfl⟩
  | @next _ frame _ plaintext opens =>
      rw [RatchetCall.after_of_commits (.next pair plaintext opens)]
      exact ⟨state.rootFrom frame.header.ratchetPublic, self.step _, rfl, rfl⟩

end Calls

/-! ## The adversary stays outside -/

theorem RootBelow.derivedUnder {root output below : Key}
    (isBelow : RootBelow P (nextRoot P root output) below) : DerivedUnder P rootLabels below := by
  rcases isBelow with ⟨_, lineage⟩
  cases lineage with
  | self => exact ⟨ratchetRootLabel, by decide, _, _, rfl⟩
  | child _ step =>
      rcases step with ⟨_, rfl⟩
      exact ⟨ratchetRootLabel, by decide, _, _, rfl⟩

theorem ChainBelow.derivedUnder {healed chainKey : Key}
    (isBelow : ChainBelow P healed chainKey) : DerivedUnder P chainLabels chainKey := by
  rcases isBelow with ⟨_, _, index, _, rfl⟩
  cases index with
  | zero => exact ⟨rootChainLabel, by decide, _, _, rfl⟩
  | succ index =>
      rw [chainAt_succ]
      exact ⟨chainKeyLabel, by decide, _, _, rfl⟩

section Outside

variable (free : P.FreeSymbols)

include free

/-- Whoever derives a key that depends on the healing step has such a key already. -/
theorem Recovered.guarded {root : Key} {secret : DhSecretKey} {peer : DhPublicKey}
    {held : DhSecretKey → Prop}
    (fresh : ∀ other, held other → P.x25519PublicKey other ≠ P.x25519PublicKey secret)
    (unheld : ∀ other, held other → P.x25519PublicKey other ≠ peer)
    {premises : List Key} {key : Key} (applied : AdversaryDerives P held premises key)
    (recovered : Recovered P root (P.x25519 secret peer) key) :
    ∃ premise ∈ premises, Recovered P root (P.x25519 secret peer) premise := by
  cases applied with
  | derivation salt info input =>
      -- The salt of each such derivation is the key above it. Only the root of the
      -- healing step has its agreement above it as well.
      have above {key info' input'} (inSalt : Recovered P root (P.x25519 secret peer) key)
          (same : P.hkdfSha256 salt info input = P.hkdfSha256 (.ofKey key) info' input') :
          ∃ premise ∈ salt.keys ++ input.keys,
            Recovered P root (P.x25519 secret peer) premise := by
        have salts := (free.kdf _ _ _ _ _ _ same).1
        rw [salts]
        exact ⟨key, List.mem_append_left _ (KeyMaterial.mem_keys_ofKey key), inSalt⟩
      generalize same : P.hkdfSha256 salt info input = key at recovered
      cases recovered with
      | output => exact absurd same.symm (free.agreement_ne_kdf _ _ _ _ _)
      | message below => exact above (.chain below) same
      | chain below =>
          rcases below with ⟨root', output, index, opened, rfl⟩
          cases index with
          | zero => exact above (.root opened) same
          | succ index =>
              rw [chainAt_succ] at same
              exact above (.chain ⟨root', output, index, opened, rfl⟩) same
      | root below =>
          rcases below with ⟨depth, lineage⟩
          cases lineage with
          | child lineage step =>
              rcases step with ⟨output, rfl⟩
              exact above (.root ⟨_, lineage⟩) same
          | self =>
              have inputs := (free.kdf _ _ _ _ _ _ same).2.2
              rw [inputs]
              exact ⟨_, List.mem_append_right _ (KeyMaterial.mem_keys_ofKey _), .output⟩
  | @agreement other peer' isHeld =>
      generalize same : P.x25519 other peer' = key at recovered
      have notDerived {labels : List String} : ¬DerivedUnder P labels key :=
        same ▸ free.agreement_not_derivedUnder other peer'
      cases recovered with
      | output =>
          rcases free.agreement_eq _ _ _ _ same with secrets | crossed
          · exact absurd secrets (fresh other isHeld)
          · exact absurd crossed (unheld other isHeld)
      | message below => exact absurd (derivedUnder_message _) notDerived
      | chain below => exact absurd below.derivedUnder notDerived
      | root below => exact absurd below.derivedUnder notDerived

variable {rootSecret : Key} {sessionId : FixedBytes 32} {standing : Standing Key}
  {root output : Key} {depth : Nat}

/-! ### One kind of key at a time -/

section Kinds

variable {secret : DhSecretKey} {peer : DhPublicKey} {key : Key}

theorem Recovered.of_root (recovered : Recovered P root (P.x25519 secret peer) key)
    (isRoot : DerivedUnder P rootLabels key) :
    RootBelow P (nextRoot P root (P.x25519 secret peer)) key := by
  cases recovered with
  | output => exact absurd isRoot (free.agreement_not_derivedUnder secret peer)
  | root isBelow => exact isBelow
  | chain isBelow =>
      exact absurd rfl (free.kdf.kinds_apart (by decide) isRoot isBelow.derivedUnder)
  | message isBelow =>
      exact absurd rfl (free.kdf.kinds_apart (by decide) isRoot (derivedUnder_message _))

theorem Recovered.of_chain (recovered : Recovered P root (P.x25519 secret peer) key)
    (isChain : DerivedUnder P chainLabels key) :
    ChainBelow P (nextRoot P root (P.x25519 secret peer)) key := by
  cases recovered with
  | output => exact absurd isChain (free.agreement_not_derivedUnder secret peer)
  | root isBelow =>
      exact absurd rfl (free.kdf.kinds_apart (by decide) isChain isBelow.derivedUnder)
  | chain isBelow => exact isBelow
  | message isBelow =>
      exact absurd rfl (free.kdf.kinds_apart (by decide) isChain (derivedUnder_message _))

theorem Recovered.of_message {chainKey : Key}
    (recovered : Recovered P root (P.x25519 secret peer) (messageKeyOf P chainKey)) :
    ChainBelow P (nextRoot P root (P.x25519 secret peer)) chainKey := by
  have isMessage := @derivedUnder_message _ P chainKey
  generalize same : messageKeyOf P chainKey = key at recovered isMessage
  cases recovered with
  | output => exact absurd isMessage (free.agreement_not_derivedUnder secret peer)
  | root isBelow =>
      exact absurd rfl (free.kdf.kinds_apart (by decide) isMessage isBelow.derivedUnder)
  | chain isBelow =>
      exact absurd rfl (free.kdf.kinds_apart (by decide) isMessage isBelow.derivedUnder)
  | message isBelow =>
      rw [free.kdf.messageKeyOf_injective same]
      exact isBelow

end Kinds

variable (derived : HandshakeRoot P rootSecret)

include derived

theorem chainStart_of_lineage
    (lineage : Lineage (RootParent P) rootSecret depth (nextRoot P root output)) :
    ChainStart P rootSecret sessionId depth (rootChain P root output) := by
  generalize same : nextRoot P root output = next at lineage
  cases lineage with
  | self =>
      rw [← same] at derived
      exact absurd ⟨output, rfl⟩ (free.kdf.isOrigin_handshakeRoot derived root)
  | child lineage step =>
      rcases step with ⟨output', rfl⟩
      rw [← (free.kdf.nextRoot_eq same).1] at lineage
      exact .stepped output lineage

variable (deep : Lineage (RootParent P) rootSecret depth (nextRoot P root output))
  (deeper : standing.depth < depth)

include deep deeper

theorem Standing.not_rootBelow {known : Key}
    (lineage : Lineage (RootParent P) rootSecret standing.depth known) :
    ¬RootBelow P (nextRoot P root output) known := by
  intro isBelow
  rcases isBelow with ⟨more, lineage'⟩
  have origin := free.kdf.isOrigin_handshakeRoot derived
  have depths := (Lineage.unique free.kdf.uniqueParents_root origin origin lineage
    (deep.append lineage')).2
  omega

theorem Standing.not_chainBelow {start : Key} {index : Nat}
    (started : StartedBy P rootSecret sessionId standing.depth start) :
    ¬ChainBelow P (nextRoot P root output) (chainAt P start index) := by
  intro isBelow
  rcases isBelow with ⟨root', output', index', ⟨more, lineage⟩, same⟩
  have later : ChainStart P rootSecret sessionId (depth + more) (rootChain P root' output') :=
    chainStart_of_lineage free derived (deep.append lineage)
  rcases started with ⟨epoch, bound, begun⟩
  have starts := (free.kdf.chainAt_eq begun later same).1
  have apart := free.kdf.ne_of_startedBy derived ⟨epoch, bound, begun⟩ later (by omega)
  exact apart starts

/-- A state from before the healing step holds nothing that depends on it. -/
theorem Standing.not_recovered_of_holds {state : RatchetState P} {secret : DhSecretKey}
    {peer : DhPublicKey} (agreed : output = P.x25519 secret peer)
    (locates : standing.Locates P rootSecret sessionId state.keyStore) {key : Key}
    (holds : state.Holds key) : ¬Recovered P root output key := by
  intro recovered
  subst agreed
  cases holds with
  | rootKey =>
      have isBelow := recovered.of_root free (derivedUnder_root derived locates.root)
      exact Standing.not_rootBelow free derived deep deeper locates.root isBelow
  | sendingChain =>
      have sending : state.sendingChain = standing.sending.chain P := locates.sending
      rcases locates.sendingStarted with ⟨epoch, bound, here⟩
      rw [sending] at recovered
      have isBelow := recovered.of_chain free (derivedUnder_chain here _)
      exact Standing.not_chainBelow free derived deep deeper ⟨epoch, bound, here⟩ isBelow
  | receivingChain =>
      have receiving : state.receivingChain = standing.receiving.chain P := locates.receiving
      rcases locates.receivingStarted with ⟨epoch, bound, here⟩
      rw [receiving] at recovered
      have isBelow := recovered.of_chain free (derivedUnder_chain here _)
      exact Standing.not_chainBelow free derived deep deeper ⟨epoch, bound, here⟩ isBelow
  | skipped entry member =>
      rcases locates.passed _ (List.mem_map_of_mem member)
        with ⟨start, index, started, same, _, _⟩
      rw [same] at recovered
      exact Standing.not_chainBelow free derived deep deeper started
        (recovered.of_message free)

end Outside

def EncryptsUnder (transition : Transition (RatchetState P) RatchetCall) (key : Key) : Prop :=
  (∃ entropy kind plaintext, transition.event = .encrypt entropy kind plaintext) ∧
    RatchetCall.UsesKey transition.current transition.event key

theorem EncryptsUnder.key_eq {transition : Transition (RatchetState P) RatchetCall} {key : Key}
    (encrypts : EncryptsUnder transition key) :
    key = messageKeyOf P transition.current.sendingChain := by
  rcases encrypts with ⟨⟨entropy, kind, plaintext, isEncrypt⟩, uses⟩
  rw [isEncrypt] at uses
  cases uses
  rfl

/-- Recovery: once an endpoint whose state was exposed has made a ratchet step with a
fresh pair towards a key that the adversary does not hold, no key that it encrypts under
is in the adversary's reach, whatever it goes through. -/
theorem run_recovers (free : P.FreeSymbols) {handshake : AuthenticatedHandshake P}
    (derived : HandshakeRoot P handshake.rootSecret) {suite : AeadSuite}
    {start exposed final : RatchetState P}
    (started : RatchetState.fromAuthenticatedHandshakeWithSuite handshake suite = .ok start)
    {past before after : List (Transition (RatchetState P) RatchetCall)}
    {healing : Transition (RatchetState P) RatchetCall}
    (exposure : Run CallStep start past exposed)
    (run : Run CallStep exposed (before ++ healing :: after) final)
    {pair : DhKeyPair P}
    (draws : RatchetCall.DrawsPair healing.current healing.event pair)
    {own : DhSecretKey → Prop}
    (fresh : ∀ secret, exposed.HeldWith own secret →
      P.x25519PublicKey secret ≠ P.x25519PublicKey pair.secret)
    (unheld : ∀ secret, exposed.HeldWith own secret →
      P.x25519PublicKey secret ≠ healing.next.remoteDh) :
    ∀ transition ∈ after, ∀ key, EncryptsUnder transition key →
      ¬exposed.Reveals own key := by
  intro transition member key encrypts
  rcases run.around with ⟨waiting, healed, remaining⟩
  have next : healing.event.after healing.current = healing.next := healed
  rcases draws.heals with ⟨root, above, rootEq, sendingEq⟩
  rw [next] at rootEq sendingEq
  -- The exposed store stands above the healed root.
  rw [RatchetState.fromAuthenticatedHandshakeWithSuite_eq] at started
  rw [← Outcome.ok.inj started] at exposure
  rcases exists_standing_of_run free.kdf derived exposure with ⟨standing, locates, _⟩
  rcases (rootBelow_of_run waiting).trans above with ⟨more, lineage⟩
  have deep : Lineage (RootParent P) handshake.rootSecret (standing.depth + more + 1)
      (nextRoot P root (P.x25519 pair.secret healing.next.remoteDh)) :=
    .child (locates.root.append lineage) ⟨_, rfl⟩
  -- Everything it sends afterwards lies below the healed root.
  have below : healing.next.keyStore.Below P
      (nextRoot P root (P.x25519 pair.secret healing.next.remoteDh)) :=
    ⟨⟨0, rootEq ▸ .self⟩, root, _, 0, ⟨0, .self⟩, sendingEq⟩
  rcases List.append_of_mem member with ⟨earlier, later, split⟩
  rw [split] at remaining
  have sending := (below_of_run remaining.around.1 below).sending
  rw [encrypts.key_eq]
  refine Guards.not_derivable ⟨?_, ?_⟩ (Recovered.message sending)
  · intro known holds
    exact Standing.not_recovered_of_holds free derived deep (by omega) rfl locates holds
  · intro premises conclusion applied recovered
    exact recovered.guarded free fresh unheld applied

def healedState : RatchetState Primitives.symbolic :=
  (symbolicSession .initiator).afterRotation (.fromSecret (.replicate 32 5))

/-- It is exposed at once, rotates and sends a message. -/
theorem run_recovers_rotated :
    ¬(symbolicSession .initiator).Reveals (fun _ => False)
      (messageKeyOf Primitives.symbolic healedState.sendingChain) := by
  have rotated : CallStep (symbolicSession .initiator)
      (.rotateSendingRatchet (constantEntropy 5)) healedState :=
    congrArg Prod.snd (RatchetState.rotate_of_agreed generate_constant rfl)
  have sent : CallStep healedState (.encrypt (constantEntropy 0) .message []) _ := rfl
  have sealed : ∃ frame,
      healedState.sealNext (constantEntropy 0) .message [] = .ok frame :=
    InnerFrame.exists_sealFrame Primitives.lawfulAead_symbolic Primitives.totalAead_symbolic
      _ _ rfl (Nat.zero_le _)
  rcases sealed with ⟨frame, sealed⟩
  have apart (other : DhSecretKey)
      (held : (symbolicSession .initiator).HeldWith (fun _ => False) other) :
      other ≠ .replicate 32 5 ∧ other ≠ .replicate 32 2 := by
    rw [held.resolve_right id]
    decide
  have run : Run CallStep (symbolicSession .initiator)
      ([] ++ ⟨_, _, healedState⟩ :: [⟨healedState, _, _⟩]) _ :=
    .cons rotated (.cons sent (.nil _))
  exact run_recovers Primitives.freeSymbols_symbolic handshakeEnds_sample.derived
    (starts_sampleSession .initiator) (.nil _) run (.rotate generate_constant rfl)
    (fun other held => (apart other held).1) (fun other held => (apart other held).2)
    _ (List.mem_singleton_self _) _ ⟨⟨_, _, _, rfl⟩, .encrypt frame sealed⟩

end Mef26
