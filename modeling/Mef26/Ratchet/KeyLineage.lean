import Mef26.Foundation.Lineage
import Mef26.Ratchet.Steps

namespace Mef26

/-! # Where keys come from

With key derivation that never collides, every chain key and message key of an
endpoint has one place: the root its chain was started from, and its index on that
chain. -/

variable {Key : Type} {P : Primitives Key}

def HandshakeRoot (P : Primitives Key) (rootSecret : Key) : Prop :=
  ∃ salt input, ∃ label ∈ [Handshake.rootLabel, Handshake.hybridRootLabel],
    rootSecret = P.hkdfSha256 salt (domainLabel "kdf" label) input

/-- One root step, as the relation between the two roots. -/
def RootParent (P : Primitives Key) (root next : Key) : Prop :=
  ∃ output, next = nextRoot P root output

/-- The first keys of the chains below a handshake's root. The two initial chains
form epoch 0, and the root step at depth `n` opens epoch `n + 1`. -/
inductive ChainStart (P : Primitives Key) (rootSecret : Key) (sessionId : FixedBytes 32) :
    Nat → Key → Prop
  | initial (role : RatchetRole) :
      ChainStart P rootSecret sessionId 0 (initialChain P role rootSecret sessionId)
  | stepped {depth : Nat} {root : Key} (output : Key) :
      Lineage (RootParent P) rootSecret depth root →
      ChainStart P rootSecret sessionId (depth + 1) (rootChain P root output)

def StartedBy (P : Primitives Key) (rootSecret : Key) (sessionId : FixedBytes 32)
    (depth : Nat) (start : Key) : Prop :=
  ∃ epoch ≤ depth, ChainStart P rootSecret sessionId epoch start

theorem StartedBy.mono {rootSecret start : Key} {sessionId : FixedBytes 32}
    {depth depth' : Nat} (ordered : depth ≤ depth')
    (started : StartedBy P rootSecret sessionId depth start) :
    StartedBy P rootSecret sessionId depth' start := by
  rcases started with ⟨epoch, bound, origin⟩
  exact ⟨epoch, Nat.le_trans bound ordered, origin⟩

namespace Primitives.CollisionFreeKdf

variable (kdf : P.CollisionFreeKdf)

include kdf

theorem label_eq {salt salt' input input' : KeyMaterial Key} {label label' : String}
    (same : P.hkdfSha256 salt (domainLabel "kdf" label) input =
      P.hkdfSha256 salt' (domainLabel "kdf" label') input') : label = label' :=
  domainLabel_injective "kdf" (kdf _ _ _ _ _ _ same).2.1

theorem chainNext_injective : Function.Injective (chainNext P) := by
  intro left right same
  exact KeyMaterial.ofKey_injective (kdf _ _ _ _ _ _ same).1

theorem messageKeyOf_injective : Function.Injective (messageKeyOf P) := by
  intro left right same
  exact KeyMaterial.ofKey_injective (kdf _ _ _ _ _ _ same).1

theorem nextRoot_eq {root root' output output' : Key}
    (same : nextRoot P root output = nextRoot P root' output') :
    root = root' ∧ output = output' := by
  rcases kdf _ _ _ _ _ _ same with ⟨salts, _, inputs⟩
  exact ⟨KeyMaterial.ofKey_injective salts, KeyMaterial.ofKey_injective inputs⟩

theorem rootChain_eq {root root' output output' : Key}
    (same : rootChain P root output = rootChain P root' output') :
    root = root' ∧ output = output' :=
  kdf.nextRoot_eq (KeyMaterial.ofKey_injective (kdf _ _ _ _ _ _ same).1)

theorem initialChain_eq {role role' : RatchetRole} {rootSecret rootSecret' : Key}
    {sessionId sessionId' : FixedBytes 32}
    (same : initialChain P role rootSecret sessionId =
      initialChain P role' rootSecret' sessionId') : role = role' := by
  have labels := kdf.label_eq same
  revert labels
  cases role <;> cases role' <;> decide

theorem uniqueParents_root : UniqueParents (RootParent P) := by
  intro first second _ parent parent'
  rcases parent with ⟨output, rfl⟩
  rcases parent' with ⟨output', same⟩
  exact (kdf.nextRoot_eq same).1

theorem isOrigin_handshakeRoot {rootSecret : Key} (derived : HandshakeRoot P rootSecret) :
    IsOrigin (RootParent P) rootSecret := by
  intro above parent
  rcases parent with ⟨output, same⟩
  rcases derived with ⟨salt, input, label, member, rfl⟩
  rw [← kdf.label_eq same.symm] at member
  revert member
  decide

theorem uniqueParents_chain :
    UniqueParents (fun above below => chainNext P above = below) := by
  intro first second _ equal same
  subst equal
  exact kdf.chainNext_injective same.symm

theorem isOrigin_chainStart {rootSecret start : Key} {sessionId : FixedBytes 32}
    {epoch : Nat}
    (started : ChainStart P rootSecret sessionId epoch start) :
    IsOrigin (fun above below => chainNext P above = below) start := by
  intro above same
  cases started with
  | initial role =>
      have labels := kdf.label_eq same
      revert labels
      cases role <;> decide
  | stepped output _ =>
      have labels := kdf.label_eq same
      revert labels
      decide

theorem initialChain_ne_rootChain {role : RatchetRole} {rootSecret root output : Key}
    {sessionId : FixedBytes 32} :
    initialChain P role rootSecret sessionId ≠ rootChain P root output := by
  intro same
  have labels := kdf.label_eq same
  revert labels
  cases role <;> decide

theorem chainStart_unique {rootSecret start : Key} {sessionId : FixedBytes 32}
    {epoch epoch' : Nat}
    (derived : HandshakeRoot P rootSecret) (first : ChainStart P rootSecret sessionId epoch start)
    (second : ChainStart P rootSecret sessionId epoch' start) : epoch = epoch' := by
  have origin := kdf.isOrigin_handshakeRoot derived
  generalize same : start = start' at second
  cases first with
  | initial =>
      cases second with
      | initial => rfl
      | stepped => exact absurd same kdf.initialChain_ne_rootChain
  | stepped _ root =>
      cases second with
      | initial => exact absurd same.symm kdf.initialChain_ne_rootChain
      | stepped _ root' =>
          rw [← (kdf.rootChain_eq same).1] at root'
          exact congrArg (· + 1)
            (Lineage.unique kdf.uniqueParents_root origin origin root root').2

/-- A chain that is still to come is none of the chains there are. -/
theorem ne_of_startedBy {rootSecret start start' : Key} {sessionId : FixedBytes 32}
    {depth epoch : Nat} (derived : HandshakeRoot P rootSecret)
    (started : StartedBy P rootSecret sessionId depth start)
    (later : ChainStart P rootSecret sessionId epoch start') (deeper : depth < epoch) :
    start ≠ start' := by
  intro same
  subst same
  rcases started with ⟨earlier, bound, origin⟩
  have epochs := kdf.chainStart_unique derived origin later
  omega

/-- A chain key has one place. -/
theorem chainAt_eq {rootSecret start start' : Key} {sessionId : FixedBytes 32}
    {epoch epoch' index index' : Nat}
    (started : ChainStart P rootSecret sessionId epoch start)
    (started' : ChainStart P rootSecret sessionId epoch' start')
    (same : chainAt P start index = chainAt P start' index') :
    start = start' ∧ index = index' := by
  have first := Lineage.iterate (chainNext P) start index
  have second := Lineage.iterate (chainNext P) start' index'
  rw [← chainAt] at first second
  rw [← same] at second
  exact Lineage.unique kdf.uniqueParents_chain (kdf.isOrigin_chainStart started)
    (kdf.isOrigin_chainStart started') first second

theorem messageKeyAt_eq {rootSecret start start' : Key} {sessionId : FixedBytes 32}
    {epoch epoch' index index' : Nat}
    (started : ChainStart P rootSecret sessionId epoch start)
    (started' : ChainStart P rootSecret sessionId epoch' start')
    (same : messageKeyAt P start index = messageKeyAt P start' index') :
    start = start' ∧ index = index' :=
  kdf.chainAt_eq started started' (kdf.messageKeyOf_injective same)

end Primitives.CollisionFreeKdf

end Mef26
