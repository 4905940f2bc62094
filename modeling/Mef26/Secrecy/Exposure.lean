import Mef26.Secrecy.Compromise

namespace Mef26

/-! # Which message keys are exposed

An adversary knows some keys, of whatever kind, and holds the secrets of some public keys.
A message key of an endpoint is in its reach exactly if it knows the key, an earlier key of
the chain, or an earlier root and one side of every agreement that was mixed in since. -/

variable {Key : Type} {P : Primitives Key}

def RatchetCall.agreements (call : RatchetCall) (state : RatchetState P) : List AgreementOf :=
  match call, call.result state with
  | .rotateSendingRatchet _, .ok _ => [((call.after state).dhPair.secret, state.remoteDh)]
  | .decrypt _ frame, .ok _ =>
      if frame.header.ratchetPublic = state.remoteDh then []
      else [(state.dhPair.secret, frame.header.ratchetPublic),
        ((call.after state).dhPair.secret, frame.header.ratchetPublic)]
  | _, _ => []

def agreementsOf (transitions : List (Transition (RatchetState P) RatchetCall)) :
    List AgreementOf :=
  transitions.flatMap fun transition => transition.event.agreements transition.current

variable (P) in
/-- A root step, as what it makes of a root and the chain that was opened with it. -/
def mixRoot (keys : Key × Key) (agreement : AgreementOf) : Key × Key :=
  (nextRoot P keys.1 (agreement.output P), rootChain P keys.1 (agreement.output P))

/-- The root and the first key of the sending chain after some root steps. -/
def AuthenticatedHandshake.opened (handshake : AuthenticatedHandshake P)
    (agreements : List AgreementOf) : Key × Key :=
  agreements.foldl (mixRoot P)
    (handshake.rootSecret, initialChain P handshake.role handshake.rootSecret
      handshake.sessionId)

theorem AuthenticatedHandshake.opened_fst (handshake : AuthenticatedHandshake P)
    (agreements : List AgreementOf) :
    (handshake.opened agreements).1 =
      agreements.foldl (fun root agreement => nextRoot P root (agreement.output P))
        handshake.rootSecret := by
  unfold opened
  induction agreements using List.reverseRecOn with
  | nil => rfl
  | append_singleton agreements last induction =>
      rw [List.foldl_append, List.foldl_append, ← induction]
      rfl

/-! ## Where an endpoint sends -/

namespace RatchetCall

/-- A call moves along the sending chain, or mixes agreements into the root and opens a new
chain with the last of them. -/
theorem agreements_spec (call : RatchetCall) (state : RatchetState P) :
    ∃ more, ((call.after state).rootKey, (call.after state).sendingChain) =
      ((call.agreements state).foldl (mixRoot P) (state.rootKey, chainAt P state.sendingChain
        more)) := by
  have still (kept : (call.after state).rootKey = state.rootKey)
      (sent : (call.after state).sendingChain = state.sendingChain)
      (none : call.agreements state = []) :
      ∃ more, ((call.after state).rootKey, (call.after state).sendingChain) =
        ((call.agreements state).foldl (mixRoot P)
          (state.rootKey, chainAt P state.sendingChain more)) := by
    refine ⟨0, ?_⟩
    rw [none, kept, sent]
    rfl
  cases call.ends state with
  | refused error failed unchanged =>
      apply still
      · rw [unchanged]
      · rw [unchanged]
      · unfold agreements
        rw [failed]
        cases call <;> rfl
  | exhausts failed moved =>
      have none : call.agreements state = [] := by
        unfold agreements
        rw [failed]
        cases call <;> rfl
      generalize call.after state = after at moved still
      cases moved with
      | encrypt frame sealed full =>
          rw [none]
          exact ⟨1, rfl⟩
      | decrypt plaintext opens full => exact still rfl rfl none
  | commits reply replied committed =>
      generalize reached : call.after state = after at committed still
      cases committed with
      | encrypt frame sealed room =>
          refine ⟨1, ?_⟩
          unfold agreements
          rw [replied]
          rfl
      | rotate pair generated contributory =>
          refine ⟨0, ?_⟩
          unfold agreements
          rw [replied, reached]
          rfl
      | retained index entry plaintext opens =>
          apply still rfl rfl
          unfold agreements
          rw [replied]
          exact if_pos opens.same
      | current plaintext opens room =>
          apply still rfl rfl
          unfold agreements
          rw [replied]
          exact if_pos opens.same
      | next pair plaintext opens =>
          refine ⟨0, ?_⟩
          unfold agreements
          rw [replied, reached]
          simp only
          rw [if_neg opens.different]
          rfl

end RatchetCall

theorem foldl_mixRoot {agreements : List AgreementOf} (some : agreements ≠ []) (root chain : Key)
    (chain' : Key) :
    agreements.foldl (mixRoot P) (root, chain) = agreements.foldl (mixRoot P) (root, chain') := by
  cases agreements with
  | nil => exact absurd rfl some
  | cons first rest => rfl

theorem agreementsOf_append {first second : List (Transition (RatchetState P) RatchetCall)} :
    agreementsOf (first ++ second) = agreementsOf first ++ agreementsOf second :=
  List.flatMap_append

theorem exists_opened_of_run {handshake : AuthenticatedHandshake P} {suite : AeadSuite}
    {transitions : List (Transition (RatchetState P) RatchetCall)} {final : RatchetState P}
    (run : Run CallStep (RatchetState.fresh handshake suite) transitions final) :
    final.rootKey = (handshake.opened (agreementsOf transitions)).1 ∧
      ∃ count, final.sendingChain =
        chainAt P (handshake.opened (agreementsOf transitions)).2 count := by
  apply @Run.history _ _ _ _ _ _ (fun past state =>
    state.rootKey = (handshake.opened (agreementsOf past)).1 ∧
      ∃ count, state.sendingChain = chainAt P (handshake.opened (agreementsOf past)).2 count) run
  · exact ⟨rfl, 0, rfl⟩
  · intro before transition after split prior step held
    rcases held with ⟨root, count, chain⟩
    have reached : transition.event.after transition.current = transition.next := step
    rcases transition.event.agreements_spec transition.current with ⟨more, moved⟩
    rw [reached, root, chain, ← chainAt_add] at moved
    have mixed : handshake.opened (agreementsOf (before ++ [transition])) =
        (transition.event.agreements transition.current).foldl (mixRoot P)
          (handshake.opened (agreementsOf before)) := by
      have single : agreementsOf [transition] =
          transition.event.agreements transition.current := List.append_nil _
      rw [agreementsOf_append, single, AuthenticatedHandshake.opened, List.foldl_append]
      rfl
    rw [mixed]
    by_cases idle : transition.event.agreements transition.current = []
    · rw [idle] at moved ⊢
      exact ⟨congrArg Prod.fst moved, _, congrArg Prod.snd moved⟩
    · rw [foldl_mixRoot idle _ _ (handshake.opened (agreementsOf before)).2] at moved
      exact ⟨congrArg Prod.fst moved, 0, congrArg Prod.snd moved⟩

/-! ## Ways to a message key -/

namespace Corruption

variable (corruption : Corruption P) (known : Key → Prop)

/-- The output of an agreement is known or one of its sides is corrupted. -/
def Reaches (agreement : AgreementOf) : Prop :=
  known (agreement.output P) ∨ corruption.Breaks agreement

/-- A way to the root after some agreements: a root on the way is known, or the first one
derived, and all agreements after it are reached. -/
def EntersRoot (handshake : AuthenticatedHandshake P) (agreements : List AgreementOf) : Prop :=
  ∃ before after, agreements = before ++ after ∧
    (known (handshake.opened before).1 ∨
      before = [] ∧ corruption.Derives known handshake.rootSecret) ∧
    ∀ agreement ∈ after, corruption.Reaches known agreement

def EntersChain (handshake : AuthenticatedHandshake P) (agreements : List AgreementOf)
    (count : Nat) : Prop :=
  (∃ index ≤ count, known (chainAt P (handshake.opened agreements).2 index)) ∨
    corruption.EntersRoot known handshake agreements ∧
      ∀ agreement ∈ agreements.getLast?, corruption.Reaches known agreement

end Corruption

section Free

variable (free : P.FreeSymbols) {held : DhSecretKey → Prop}

include free

namespace Primitives.FreeSymbols

theorem takes_chainNext (chainKey : Key) :
    Takes (AdversaryDerives P held) [chainKey] (chainNext P chainKey) := by
  have takes : Takes (AdversaryDerives P held) _ (chainNext P chainKey) := free.takes_kdf _ _ _
  rwa [KeyMaterial.keys_ofKey, KeyMaterial.keys_ofBytes] at takes

theorem takes_messageKeyOf (chainKey : Key) :
    Takes (AdversaryDerives P held) [chainKey] (messageKeyOf P chainKey) := by
  have takes : Takes (AdversaryDerives P held) _ (messageKeyOf P chainKey) :=
    free.takes_kdf _ _ _
  rwa [KeyMaterial.keys_ofKey, KeyMaterial.keys_ofBytes] at takes

theorem takes_initialChain (role : RatchetRole) (root : Key) (sessionId : FixedBytes 32) :
    Takes (AdversaryDerives P held) [root] (initialChain P role root sessionId) := by
  have takes : Takes (AdversaryDerives P held) _ (initialChain P role root sessionId) :=
    free.takes_kdf _ _ _
  rwa [KeyMaterial.keys_ofKey, KeyMaterial.keys_ofBytes] at takes

theorem takes_nextRoot (root output : Key) :
    Takes (AdversaryDerives P held) [root, output] (nextRoot P root output) :=
  free.takes_kdf (.ofKey root) _ (.ofKey output)

theorem takes_rootChain (root output : Key) :
    Takes (AdversaryDerives P held) [nextRoot P root output, output]
      (rootChain P root output) :=
  free.takes_kdf (.ofKey (nextRoot P root output)) _ (.ofKey output)

end Primitives.FreeSymbols

namespace Corruption

variable (lawful : P.LawfulX25519) {corruption : Corruption P} {known : Key → Prop}
  {handshake : AuthenticatedHandshake P} {agreements : List AgreementOf}

include lawful

theorem derives_root_iff : corruption.Derives known (handshake.opened agreements).1 ↔
    corruption.EntersRoot known handshake agreements := by
  rw [handshake.opened_fst, Derives,
    derivable_foldl_iff fun root agreement => free.takes_nextRoot root (agreement.output P)]
  unfold EntersFold EntersRoot Reaches
  simp only [corruption.derives_agreement_iff free lawful, handshake.opened_fst]

theorem derives_start_iff : corruption.Derives known (handshake.opened agreements).2 ↔
    known (handshake.opened agreements).2 ∨
      corruption.EntersRoot known handshake agreements ∧
        ∀ agreement ∈ agreements.getLast?, corruption.Reaches known agreement := by
  rw [← derives_root_iff free lawful]
  rcases List.eq_nil_or_concat agreements with rfl | ⟨earlier, last, rfl⟩
  · have takes : Takes (AdversaryDerives P corruption.Holds) [(handshake.opened []).1]
        (handshake.opened []).2 :=
      free.takes_initialChain handshake.role handshake.rootSecret handshake.sessionId
    rw [Derives, takes.derivable_iff, List.forall_mem_singleton]
    simp only [List.getLast?_nil, Option.mem_def, reduceCtorEq, false_implies, implies_true,
      and_true]
  · have opened : handshake.opened (earlier.concat last) =
        mixRoot P (handshake.opened earlier) last := by
      unfold AuthenticatedHandshake.opened
      rw [List.concat_eq_append, List.foldl_append]
      rfl
    rw [opened, mixRoot, Derives, (free.takes_rootChain _ _).derivable_iff,
      List.forall_mem_cons, List.forall_mem_singleton, List.concat_eq_append,
      List.getLast?_concat]
    refine or_congr Iff.rfl (and_congr Iff.rfl ?_)
    refine (corruption.derives_agreement_iff free lawful last).trans ?_
    simp only [Option.mem_def, Option.some.injEq, forall_eq', Reaches]

theorem derives_chain_iff {count : Nat} :
    corruption.Derives known (chainAt P (handshake.opened agreements).2 count) ↔
      corruption.EntersChain known handshake agreements count := by
  rw [chainAt, Derives, derivable_iterate_iff free.takes_chainNext]
  refine (or_congr Iff.rfl (derives_start_iff free lawful)).trans ?_
  unfold EntersChain
  constructor
  · intro either
    rcases either with isKnown | isKnown | enters
    · exact .inl isKnown
    · exact .inl ⟨0, Nat.zero_le _, isKnown⟩
    · exact .inr enters
  · intro either
    rcases either with isKnown | enters
    · exact .inl isKnown
    · exact .inr (.inr enters)

end Corruption

end Free

/-- Which message keys are exposed, over every run of an endpoint: the key of an encryption
is derived exactly if it is known, or there is a way to its place on the chain that was
opened with the last agreement before it. -/
theorem derives_encryptionKey_iff (free : P.FreeSymbols) (lawful : P.LawfulX25519)
    {handshake : AuthenticatedHandshake P} {suite : AeadSuite} {start final : RatchetState P}
    (started : RatchetState.fromAuthenticatedHandshakeWithSuite handshake suite = .ok start)
    {before after : List (Transition (RatchetState P) RatchetCall)}
    {transition : Transition (RatchetState P) RatchetCall}
    (run : Run CallStep start (before ++ transition :: after) final) {key : Key}
    (encrypts : EncryptsUnder transition key) :
    ∃ count, transition.current.sendingChain =
        chainAt P (handshake.opened (agreementsOf before)).2 count ∧
      ∀ (corruption : Corruption P) (known : Key → Prop), corruption.Derives known key ↔
        known key ∨ corruption.EntersChain known handshake (agreementsOf before) count := by
  rw [RatchetState.fromAuthenticatedHandshakeWithSuite_eq, Outcome.ok.injEq] at started
  subst started
  rcases (exists_opened_of_run run.around.1).2 with ⟨count, chain⟩
  refine ⟨count, chain, ?_⟩
  intro corruption known
  rw [encrypts.key_eq, Corruption.Derives, (free.takes_messageKeyOf _).derivable_iff,
    List.forall_mem_singleton, chain]
  exact or_congr Iff.rfl (Corruption.derives_chain_iff free lawful)

/-! ## From the handshake to the messages -/

namespace Corruption

/-- An adversary with some foreign secrets derives the root of a session exactly under a
condition, and a key that the session encrypts under exactly if moreover it breaks every
agreement before. -/
structure Settles (corruption : Corruption P) (known : Key → Prop)
    (handshake : AuthenticatedHandshake P) (condition : Prop) : Prop where
  root : corruption.Derives known handshake.rootSecret ↔ condition
  messages {suite : AeadSuite} {start final : RatchetState P} :
    RatchetState.fromAuthenticatedHandshakeWithSuite handshake suite = .ok start →
    ∀ {before after transition}, Run CallStep start (before ++ transition :: after) final →
    ∀ {key}, EncryptsUnder transition key →
      (corruption.Derives known key ↔ condition ∧
        ∀ agreement ∈ agreementsOf before, corruption.Breaks agreement)

variable {corruption : Corruption P} {known : Key → Prop} (foreign : P.Foreign known)
  {handshake : AuthenticatedHandshake P}

include foreign

theorem reaches_iff {agreement : AgreementOf} :
    corruption.Reaches known agreement ↔ corruption.Breaks agreement :=
  or_iff_right fun isKnown => (foreign _ isKnown).2 _ _ rfl

/-- Where the root is not known, there is one way to a chain: from the handshake down. -/
theorem entersChain_iff (root : ¬known handshake.rootSecret)
    {agreements : List AgreementOf} {count : Nat} :
    corruption.EntersChain known handshake agreements count ↔
      corruption.Derives known handshake.rootSecret ∧
        ∀ agreement ∈ agreements, corruption.Breaks agreement := by
  have noRoot (before : List AgreementOf) : ¬known (handshake.opened before).1 := by
    intro isKnown
    rcases List.eq_nil_or_concat before with rfl | ⟨earlier, last, rfl⟩
    · exact root isKnown
    · rw [AuthenticatedHandshake.opened, List.concat_eq_append, List.foldl_append] at isKnown
      exact (foreign _ isKnown).1 _ _ _ rfl
  have noChain (index : Nat) : ¬known (chainAt P (handshake.opened agreements).2 index) := by
    intro isKnown
    cases index with
    | succ index =>
        rw [chainAt_succ] at isKnown
        exact (foreign _ isKnown).1 _ _ _ rfl
    | zero =>
        rcases List.eq_nil_or_concat agreements with rfl | ⟨earlier, last, rfl⟩
        · exact (foreign _ isKnown).1 _ _ _ rfl
        · rw [AuthenticatedHandshake.opened, List.concat_eq_append, List.foldl_append] at isKnown
          exact (foreign _ isKnown).1 _ _ _ rfl
  unfold EntersChain EntersRoot
  simp only [noRoot, noChain, false_or, and_false, exists_false, reaches_iff foreign]
  constructor
  · intro enters
    rcases enters with ⟨⟨before, after, rfl, ⟨rfl, derives⟩, broken⟩, _⟩
    exact ⟨derives, broken⟩
  · intro computes
    rcases computes with ⟨derives, broken⟩
    refine ⟨⟨[], agreements, rfl, ⟨rfl, derives⟩, broken⟩, ?_⟩
    intro last isLast
    exact broken last (List.mem_of_getLast? isLast)

theorem settles_of_root (free : P.FreeSymbols) (lawful : P.LawfulX25519) {condition : Prop}
    (unknown : ¬known handshake.rootSecret)
    (root : corruption.Derives known handshake.rootSecret ↔ condition) :
    corruption.Settles known handshake condition where
  root := root
  messages := by
    intro suite start final started before after transition run key encrypts
    rw [RatchetState.fromAuthenticatedHandshakeWithSuite_eq, Outcome.ok.injEq] at started
    subst started
    rcases (exists_opened_of_run run.around.1).2 with ⟨count, chain⟩
    have notKey : ¬known (messageKeyOf P transition.current.sendingChain) := fun isKnown =>
      (foreign _ isKnown).1 _ _ _ rfl
    rw [encrypts.key_eq, Derives, (free.takes_messageKeyOf _).derivable_iff,
      List.forall_mem_singleton, or_iff_right notKey, chain, ← root,
      ← @entersChain_iff _ _ _ _ foreign _ unknown _ count]
    exact derives_chain_iff free lawful

end Corruption

/-- Who computes what of a session, from its handshake on, on either side: the root exactly
those that hold one key of each handshake agreement, and the key of a message exactly those
that hold as well one key of each agreement that the ratchet mixed in before it. -/
theorem computes_session_iff (free : P.FreeSymbols) (lawful : P.LawfulX25519)
    (corruption : Corruption P) :
    (∀ {ephemeralEntropy ratchetEntropy : Entropy} {identity : LocalIdentity P}
      {bundle : ResponderPrekeyBundle} {nowUnix : UInt64} {message : InitiatorHandshake}
      {handshake : AuthenticatedHandshake P},
      initiate ephemeralEntropy ratchetEntropy identity bundle nowUnix =
        .ok (message, handshake) →
      corruption.Settles (fun _ => False) handshake
        ((message.keysFor bundle).Broken corruption.keys)) ∧
    ∀ {message : InitiatorHandshake} {material next : ResponderPrekeyMaterial P}
      {handshake : AuthenticatedHandshake P},
      accept message material = (.ok handshake, next) →
      ∃ signed oneTime, Accepts material message signed oneTime ∧
        corruption.Settles (fun _ => False) handshake
          ((message.keysWith material.identity.dh signed oneTime).Broken corruption.keys) := by
  constructor
  · intro ephemeralEntropy ratchetEntropy identity bundle nowUnix message handshake initiated
    exact Corruption.settles_of_root Primitives.foreign_none free lawful not_false
      (derives_initiated_iff free lawful corruption Primitives.foreign_none initiated)
  · intro message material next handshake accepted
    rcases derives_accepted_iff free lawful corruption Primitives.foreign_none accepted
      with ⟨signed, oneTime, accepts, root⟩
    exact ⟨signed, oneTime, accepts,
      Corruption.settles_of_root Primitives.foreign_none free lawful not_false root⟩

/-! ## A sample session -/

def sampleInitiated : AuthenticatedHandshake Primitives.symbolic :=
  initiatorHandshake (sampleInitiator _) (samplePublished Primitives.symbolic).bundle
    (.fromSecret (.replicate 32 11)) (.fromSecret (.replicate 32 12))

def sampleAnswered : AuthenticatedHandshake Primitives.symbolic :=
  responderHandshake (sampleMaterial _).identity (sampleMessage 11 12)
    (.fromSecret (.replicate 32 3)) (some (.fromSecret (.replicate 32 4)))

def sampleEncryption (state : RatchetState Primitives.symbolic) :
    Transition (RatchetState Primitives.symbolic) RatchetCall :=
  ⟨state, sampleCall, sampleCall.after state⟩

theorem encryptsUnder_sample (state : RatchetState Primitives.symbolic) :
    EncryptsUnder (sampleEncryption state)
      (messageKeyOf Primitives.symbolic state.sendingChain) := by
  have sealed : ∃ frame, state.sealNext (constantEntropy 0) .message [] = .ok frame :=
    InnerFrame.exists_sealFrame Primitives.lawfulAead_symbolic Primitives.totalAead_symbolic
      _ _ rfl (Nat.zero_le _)
  rcases sealed with ⟨frame, sealed⟩
  exact ⟨⟨_, _, _, rfl⟩, .encrypt frame sealed⟩

def sampleRotated : RatchetState Primitives.symbolic :=
  (RatchetState.fresh sampleInitiated .aes256Gcm).afterRotation (.fromSecret (.replicate 32 5))

def sampleRotation : Transition (RatchetState Primitives.symbolic) RatchetCall :=
  ⟨.fresh sampleInitiated .aes256Gcm, .rotateSendingRatchet (constantEntropy 5), sampleRotated⟩

theorem rotate_sampleRotation :
    RatchetState.rotateSendingRatchet (constantEntropy 5)
      (RatchetState.fresh sampleInitiated .aes256Gcm) = (.ok ⟨⟩, sampleRotated) :=
  RatchetState.rotate_of_agreed generate_constant rfl

theorem agreementsOf_sampleRotation :
    agreementsOf [sampleRotation] = [(.replicate 32 5, .replicate 32 3)] := by
  simp only [agreementsOf, sampleRotation, RatchetCall.agreements, RatchetCall.result,
    RatchetCall.after]
  rfl

/-- All secrets of the sample responder suffice, also after the initiator rotated towards its
signed prekey. Both identities and the signed prekey do not, because of the one-time
prekey. -/
theorem computes_session_sample :
    (Corruption.ofKeys [.replicate 32 2, .replicate 32 3, .replicate 32 4]).Computes
        (messageKeyOf Primitives.symbolic sampleRotated.sendingChain) ∧
      ¬(Corruption.ofKeys [.replicate 32 2, .replicate 32 3, .replicate 32 10]).Computes
        (messageKeyOf Primitives.symbolic
          (RatchetState.fresh sampleAnswered .aes256Gcm).sendingChain) := by
  have table (keys : List DhPublicKey) := computes_session_iff
    Primitives.freeSymbols_symbolic Primitives.lawfulX25519_symbolic (Corruption.ofKeys keys)
  constructor
  · have run : Run CallStep (RatchetState.fresh sampleInitiated .aes256Gcm)
        ([sampleRotation] ++ sampleEncryption sampleRotated :: [])
        (sampleCall.after sampleRotated) :=
      .cons (congrArg Prod.snd rotate_sampleRotation) (.cons rfl (.nil _))
    refine (((table _).1 initiate_sample).messages
      (RatchetState.fromAuthenticatedHandshakeWithSuite_eq _ _) run
      (encryptsUnder_sample sampleRotated)).mpr ⟨⟨?_, ?_, ?_, ?_⟩, ?_⟩
    · exact .inr (by decide)
    · exact .inr (by decide)
    · exact .inr (by decide)
    · intro oneTime offered
      cases offered
      exact .inr (by decide)
    · rw [agreementsOf_sampleRotation, List.forall_mem_singleton]
      exact .inr (by decide)
  · rcases (table [.replicate 32 2, .replicate 32 3, .replicate 32 10]).2
      (accept_sample (.fromSecret (.replicate 32 4)) 11 12)
      with ⟨signed, oneTime, accepts, settles⟩
    have signedFound := accepts.signedFound
    have oneTimeFound := accepts.oneTimeFound
    cases signedFound
    cases oneTimeFound
    have run : Run CallStep (RatchetState.fresh sampleAnswered .aes256Gcm)
        ([] ++ sampleEncryption _ :: []) _ := .cons rfl (.nil _)
    intro computes
    have broken := (settles.messages (RatchetState.fromAuthenticatedHandshakeWithSuite_eq _ _)
      run (encryptsUnder_sample _)).mp computes
    rcases broken.1.2.2.2 _ rfl with ephemeral | offered
    · exact absurd ephemeral (by decide)
    · exact absurd offered (by decide)

/-- The root of the session and the secret of the signed prekey open the chain that the
rotation opened. -/
theorem derives_encryptionKey_rotated :
    (Corruption.ofKeys [.replicate 32 3]).Derives (fun key => key = sampleInitiated.rootSecret)
      (messageKeyOf Primitives.symbolic sampleRotated.sendingChain) := by
  have run : Run CallStep (RatchetState.fresh sampleInitiated .aes256Gcm)
      ([sampleRotation] ++ sampleEncryption sampleRotated :: [])
      (sampleCall.after sampleRotated) :=
    .cons (congrArg Prod.snd rotate_sampleRotation) (.cons rfl (.nil _))
  rcases derives_encryptionKey_iff Primitives.freeSymbols_symbolic
    Primitives.lawfulX25519_symbolic
    (RatchetState.fromAuthenticatedHandshakeWithSuite_eq sampleInitiated .aes256Gcm) run
    (encryptsUnder_sample sampleRotated) with ⟨count, _, derives⟩
  rw [derives, agreementsOf_sampleRotation]
  have reached : (Corruption.ofKeys [.replicate 32 3]).Reaches
      (fun key => key = sampleInitiated.rootSecret) (.replicate 32 5, .replicate 32 3) :=
    .inr (.inr (by decide))
  refine .inr (.inr ⟨⟨[], _, rfl, .inl rfl, List.forall_mem_singleton.mpr reached⟩, ?_⟩)
  intro last isLast
  cases isLast
  exact reached

end Mef26
