import Mathlib.Data.Fintype.Card
import Mef26.Handshake.Honest

namespace Mef26

/-! # Initiators that share a pool of one-time prekeys

Publishing a bundle reads the first one-time prekey of the pool, only accepting a message
takes it out. In between other initiators are handed the same one. -/

variable {Key : Type} {P : Primitives Key} {Party : Type}

structure PrekeyService (P : Primitives Key) (Party : Type) where
  material : ResponderPrekeyMaterial P
  fetched : Party → Option ResponderPrekeyBundle
  sent : Party → Option InitiatorHandshake

inductive ServiceCall (P : Primitives Key) (Party : Type)
  | fetch (party : Party)
  | initiate (party : Party) (identity : LocalIdentity P)
      (ephemeralEntropy ratchetEntropy : Entropy) (nowUnix : UInt64)
  | accept (party : Party)
  | rotateSignedPrekey (entropy : Entropy) (id : UInt32) (expiresAtUnix : UInt64)

/-- Every initiator fetches one bundle and answers it once. Messages are delivered in any
order and any number of times. -/
inductive ServiceStep [DecidableEq Party] :
    PrekeyService P Party → ServiceCall P Party → PrekeyService P Party → Prop
  | fetch {service : PrekeyService P Party} {party : Party}
      (first : service.fetched party = none) :
      ServiceStep service (.fetch party)
        { service with
          fetched := Function.update service.fetched party (some service.material.bundle) }
  | initiate {service : PrekeyService P Party} {party : Party} {identity : LocalIdentity P}
      {ephemeralEntropy ratchetEntropy : Entropy} {nowUnix : UInt64}
      {bundle : ResponderPrekeyBundle} {message : InitiatorHandshake}
      {handshake : AuthenticatedHandshake P}
      (fetched : service.fetched party = some bundle) (first : service.sent party = none)
      (initiated : initiate ephemeralEntropy ratchetEntropy identity bundle nowUnix =
        .ok (message, handshake)) :
      ServiceStep service
        (.initiate party identity ephemeralEntropy ratchetEntropy nowUnix)
        { service with sent := Function.update service.sent party (some message) }
  | accept {service : PrekeyService P Party} {party : Party} {message : InitiatorHandshake}
      (sent : service.sent party = some message) :
      ServiceStep service (.accept party)
        { service with material := service.material.after (.accept message) }
  | rotateSignedPrekey {service : PrekeyService P Party} (entropy : Entropy) (id : UInt32)
      (expiresAtUnix : UInt64) :
      ServiceStep service (.rotateSignedPrekey entropy id expiresAtUnix)
        { service with
          material := service.material.after (.rotateSignedPrekey entropy id expiresAtUnix) }

def PrekeyService.start (material : ResponderPrekeyMaterial P) : PrekeyService P Party where
  material := material
  fetched _ := none
  sent _ := none

variable (P Party) in
abbrev ServiceTransition := Transition (PrekeyService P Party) (ServiceCall P Party)

theorem update_eq_some [DecidableEq Party] {α : Type} {entries : Party → Option α}
    {party other : Party} {value found : α} :
    Function.update entries party (some value) other = some found ↔
      (party = other ∧ value = found) ∨ (party ≠ other ∧ entries other = some found) := by
  by_cases same : party = other
  · subst same
    simp
  · rw [Function.update_of_ne (Ne.symm same)]
    simp [same]

/-! ## What happened so far -/

namespace ServiceTransition

def Fetches (transition : ServiceTransition P Party) (party : Party) : Prop :=
  transition.event = .fetch party

def Accepts (transition : ServiceTransition P Party) (party : Party) : Prop :=
  transition.event = .accept party ∧
    ∃ message answer, transition.current.sent party = some message ∧
      (accept message transition.current.material).1 = .ok answer

end ServiceTransition

/-- The party has fetched, and no message was accepted since. -/
def IsOpen (past : List (ServiceTransition P Party)) (party : Party) : Prop :=
  Run.Since (fun transition => ServiceTransition.Fetches transition party)
    (fun transition => ∀ other, ¬ServiceTransition.Accepts transition other) past

def IsAccepted (past : List (ServiceTransition P Party)) (party : Party) : Prop :=
  ∃ transition ∈ past, ServiceTransition.Accepts transition party

theorem isOpen_concat {past : List (ServiceTransition P Party)}
    {last : ServiceTransition P Party} {party : Party} :
    IsOpen (past ++ [last]) party ↔
      (IsOpen past party ∧ ∀ other, ¬ServiceTransition.Accepts last other) ∨
        ServiceTransition.Fetches last party :=
  Run.since_snoc

theorem isAccepted_concat {past : List (ServiceTransition P Party)}
    {last : ServiceTransition P Party} {party : Party} :
    IsAccepted (past ++ [last]) party ↔
      IsAccepted past party ∨ ServiceTransition.Accepts last party := by
  simp only [IsAccepted, List.mem_append, List.mem_singleton]
  constructor
  · intro accepted
    rcases accepted with ⟨transition, earlier | rfl, accepts⟩
    · exact .inl ⟨transition, earlier, accepts⟩
    · exact .inr accepts
  · intro accepted
    rcases accepted with ⟨transition, earlier, accepts⟩ | accepts
    · exact ⟨transition, .inl earlier, accepts⟩
    · exact ⟨last, .inr rfl, accepts⟩

/-- No bundle is fetched while a party is open. -/
def FetchesInTurn (transitions : List (ServiceTransition P Party)) : Prop :=
  ∀ before transition after, transitions = before ++ transition :: after →
    ∀ party, ServiceTransition.Fetches transition party → ∀ other, ¬IsOpen before other

/-- A step that neither hands out a bundle nor accepts a message. -/
def IsNeutral (last : ServiceTransition P Party) : Prop :=
  (∀ party, ¬ServiceTransition.Fetches last party) ∧
    ∀ party, ¬ServiceTransition.Accepts last party

theorem IsNeutral.isOpen {past : List (ServiceTransition P Party)}
    {last : ServiceTransition P Party} (neutral : IsNeutral last) {party : Party} :
    IsOpen (past ++ [last]) party ↔ IsOpen past party := by
  rw [isOpen_concat]
  simp [neutral.1 party, neutral.2]

theorem IsNeutral.isAccepted {past : List (ServiceTransition P Party)}
    {last : ServiceTransition P Party} (neutral : IsNeutral last) {party : Party} :
    IsAccepted (past ++ [last]) party ↔ IsAccepted past party := by
  rw [isAccepted_concat]
  simp [neutral.2 party]

/-! ## The pool over a run -/

namespace PrekeyService

/-- What became of the one-time prekey that a party's bundle offers. It is first in the pool
while the party is open. Then an accepted message has taken it. -/
def Fate (service : PrekeyService P Party) (past : List (ServiceTransition P Party))
    (party : Party) (entry : OneTimePrekey P) : Prop :=
  (IsOpen past party ∧ service.material.oneTimePrekeys.head? = some entry) ∨
    (¬IsOpen past party ∧ service.material.oneTimeEntry entry.publicPart.id = none ∧
      ∃ other bundle, IsAccepted past other ∧ service.fetched other = some bundle ∧
        bundle.oneTimePrekey = some entry.publicPart)

/-- What holds between the steps of a service that started with a pool. -/
structure Consistent (initial : ResponderPrekeyMaterial P)
    (past : List (ServiceTransition P Party)) (service : PrekeyService P Party) : Prop where
  wellFormed : service.material.WellFormed
  pool : ∀ entry ∈ service.material.oneTimePrekeys, entry ∈ initial.oneTimePrekeys
  counted : ∃ spent : Finset Party, (∀ party ∈ spent, IsAccepted past party) ∧
    spent.card + service.material.oneTimePrekeys.length = initial.oneTimePrekeys.length
  idle : ∀ party, service.fetched party = none →
    ¬IsOpen past party ∧ ¬IsAccepted past party
  committed : ∀ party bundle, service.fetched party = some bundle →
    ∃ entry ∈ initial.oneTimePrekeys,
      bundle.oneTimePrekey = some entry.publicPart ∧ service.Fate past party entry
  signed : ∀ party bundle, service.fetched party = some bundle →
    ∃ pair, (bundle.signedPrekey, pair) ∈ service.material.signedPrekeys
  honest : ∀ party message, service.sent party = some message →
    ∃ identity bundle, ∃ ephemeral ratchet : DhKeyPair P,
      service.fetched party = some bundle ∧
      message = initiatorMessage identity bundle ephemeral ratchet
  closed : ∀ party, IsAccepted past party → ¬IsOpen past party
  distinct : ∀ party other bundle bundle', party ≠ other → IsAccepted past party →
    IsAccepted past other → service.fetched party = some bundle →
    service.fetched other = some bundle' → bundle.oneTimePrekey ≠ bundle'.oneTimePrekey

variable {initial : ResponderPrekeyMaterial P} {past : List (ServiceTransition P Party)}
  {service next : PrekeyService P Party} {last : ServiceTransition P Party} {party : Party}

theorem consistent_start (wellFormed : initial.WellFormed) :
    Consistent initial ([] : List (ServiceTransition P Party)) (start initial) where
  wellFormed := wellFormed
  pool _ member := member
  counted := ⟨∅, by simp, by simp [start]⟩
  idle _ _ := ⟨Run.since_nil, by simp [IsAccepted]⟩
  committed := by simp [start]
  signed := by simp [start]
  honest := by simp [start]
  closed := by simp [IsAccepted]
  distinct := by simp [IsAccepted]

theorem Consistent.neutral (consistent : service.Consistent initial past)
    (neutral : IsNeutral last) (wellFormed : next.material.WellFormed)
    (oneTime : next.material.oneTimePrekeys = service.material.oneTimePrekeys)
    (signed : ∀ entry ∈ service.material.signedPrekeys, entry ∈ next.material.signedPrekeys)
    (fetched : next.fetched = service.fetched)
    (honest : ∀ party message, next.sent party = some message →
      ∃ identity bundle, ∃ ephemeral ratchet : DhKeyPair P,
        service.fetched party = some bundle ∧
        message = initiatorMessage identity bundle ephemeral ratchet) :
    next.Consistent initial (past ++ [last]) := by
  have fate (party : Party) (entry : OneTimePrekey P) :
      next.Fate (past ++ [last]) party entry ↔ service.Fate past party entry := by
    simp only [Fate, neutral.isOpen, neutral.isAccepted, fetched, oneTime,
      ResponderPrekeyMaterial.oneTimeEntry]
  constructor
  · exact wellFormed
  · rw [oneTime]
    exact consistent.pool
  · simp only [neutral.isAccepted, oneTime]
    exact consistent.counted
  · simp only [neutral.isOpen, neutral.isAccepted, fetched]
    exact consistent.idle
  · simp only [fate, fetched]
    exact consistent.committed
  · intro party bundle isFetched
    rcases consistent.signed party bundle (fetched ▸ isFetched) with ⟨pair, held⟩
    exact ⟨pair, signed _ held⟩
  · rw [fetched]
    exact honest
  · simp only [neutral.isOpen, neutral.isAccepted]
    exact consistent.closed
  · simp only [neutral.isAccepted, fetched]
    exact consistent.distinct

/-! ## Accepting in a consistent service -/

theorem Consistent.accept_open (agreement : P.LawfulX25519) (signatures : P.LawfulEd25519)
    (consistent : service.Consistent initial past) {message : InitiatorHandshake}
    (sent : service.sent party = some message) (isOpen : IsOpen past party) :
    ∃ entry rest answer bundle, service.material.oneTimePrekeys = entry :: rest ∧
      service.fetched party = some bundle ∧ bundle.oneTimePrekey = some entry.publicPart ∧
      accept message service.material =
        (.ok answer, service.material.consume (some entry.publicPart.id)) := by
  rcases consistent.honest party message sent
    with ⟨identity, bundle, ephemeral, ratchet, fetched, rfl⟩
  rcases consistent.committed party bundle fetched
    with ⟨entry, _, offered, ⟨_, isFirst⟩ | ⟨isClosed, _⟩⟩
  · rcases consistent.signed party bundle fetched with ⟨signed, held⟩
    rcases List.head?_eq_some_iff.mp isFirst with ⟨rest, pool⟩
    have found := consistent.wellFormed.oneTimeEntry_eq (List.mem_of_mem_head? isFirst)
    have accepts : Accepts service.material (initiatorMessage identity bundle ephemeral ratchet)
        signed (some entry.key) := {
      verified := identity.verify_publicRecord signatures
      signedFound := consistent.wellFormed.signedPair_eq held
      oneTimeFound := by
        rw [initiatorMessage, offered]
        exact congrArg (Option.map fun entry => some entry.key) found
      agrees1 := signed.agrees_honest agreement identity.dh
      agrees2 := service.material.identity.dh.agrees_honest agreement ephemeral
      agrees3 := signed.agrees_honest agreement ephemeral
      agrees4 := fun pair _ => pair.agrees_honest agreement ephemeral }
    refine ⟨entry, rest, _, bundle, pool, fetched, offered,
      accept_eq_ok.mpr ⟨⟨_, _, accepts, rfl⟩, ?_⟩⟩
    rw [initiatorMessage, offered]
    rfl
  · exact absurd isOpen isClosed

theorem Consistent.accept_closed (signatures : P.LawfulEd25519)
    (consistent : service.Consistent initial past) {message : InitiatorHandshake}
    (sent : service.sent party = some message) (isClosed : ¬IsOpen past party) :
    accept message service.material = (.err .ratchetStateMismatch, service.material) := by
  rcases consistent.honest party message sent
    with ⟨identity, bundle, ephemeral, ratchet, fetched, rfl⟩
  rcases consistent.committed party bundle fetched
    with ⟨entry, _, offered, ⟨isOpen, _⟩ | ⟨_, absent, _⟩⟩
  · exact absurd isOpen isClosed
  · rcases consistent.signed party bundle fetched with ⟨signed, held⟩
    have requested : service.material.requestedPair
        (initiatorMessage identity bundle ephemeral ratchet).oneTimePrekeyId = none := by
      rw [initiatorMessage, offered]
      exact congrArg (Option.map fun entry => some entry.key) absent
    have refused := acceptValue_of_absent (identity.verify_publicRecord signatures)
      (consistent.wellFormed.signedPair_eq held) requested
    rw [accept_eq, refused]
    rfl

/-! ## Each step keeps the service consistent -/

theorem Consistent.exists_first [Fintype Party] (consistent : service.Consistent initial past)
    (enough : Fintype.card Party ≤ initial.oneTimePrekeys.length)
    (first : service.fetched party = none) :
    ∃ entry, service.material.oneTimePrekeys.head? = some entry := by
  rcases consistent.counted with ⟨spent, accepted, counted⟩
  have absent : party ∉ spent := fun member =>
    (consistent.idle party first).2 (accepted party member)
  have fewer := Finset.card_lt_univ_of_notMem absent
  cases pool : service.material.oneTimePrekeys with
  | nil =>
      rw [pool, List.length_nil] at counted
      omega
  | cons entry rest => exact ⟨entry, rfl⟩

theorem Consistent.fetch [Fintype Party] [DecidableEq Party]
    (consistent : service.Consistent initial past)
    (enough : Fintype.card Party ≤ initial.oneTimePrekeys.length)
    (first : service.fetched party = none) (isLast : last.event = .fetch party) :
    Consistent initial (past ++ [last])
      { service with
        fetched := Function.update service.fetched party (some service.material.bundle) } := by
  have accepts (other : Party) : ¬ServiceTransition.Accepts last other := by
    intro accepts
    cases isLast.symm.trans accepts.1
  have fetches (other : Party) : ServiceTransition.Fetches last other ↔ party = other := by
    rw [ServiceTransition.Fetches, isLast, ServiceCall.fetch.injEq]
  have isOpen (other : Party) :
      IsOpen (past ++ [last]) other ↔ IsOpen past other ∨ party = other := by
    simp [isOpen_concat, accepts, fetches]
  have isAccepted (other : Party) : IsAccepted (past ++ [last]) other ↔ IsAccepted past other := by
    simp [isAccepted_concat, accepts]
  rcases consistent.exists_first enough first with ⟨entry, isFirst⟩
  have offered : service.material.bundle.oneTimePrekey = some entry.publicPart := by
    rw [ResponderPrekeyMaterial.bundle, isFirst]
    rfl
  have kept (other : Party) (bundle : ResponderPrekeyBundle)
      (fetched : service.fetched other = some bundle) :
      Function.update service.fetched party (some service.material.bundle) other =
        some bundle := by
    refine update_eq_some.mpr (.inr ⟨?_, fetched⟩)
    intro same
    rw [← same, first] at fetched
    cases fetched
  constructor
  · exact consistent.wellFormed
  · exact consistent.pool
  · simp only [isAccepted]
    exact consistent.counted
  · intro other idle
    have different : party ≠ other := by
      intro same
      simp [same] at idle
    dsimp only at idle
    rw [Function.update_of_ne (Ne.symm different)] at idle
    rw [isOpen, isAccepted]
    have idle := consistent.idle other idle
    exact ⟨not_or.mpr ⟨idle.1, different⟩, idle.2⟩
  · intro other bundle fetched
    rcases update_eq_some.mp fetched with ⟨rfl, rfl⟩ | ⟨different, fetched⟩
    · exact ⟨entry, consistent.pool _ (List.mem_of_mem_head? isFirst), offered,
        .inl ⟨(isOpen _).mpr (.inr rfl), isFirst⟩⟩
    · rcases consistent.committed other bundle fetched
        with ⟨entry', member, offered', ⟨wasOpen, isFirst'⟩ | ⟨wasClosed, absent, taken⟩⟩
      · exact ⟨entry', member, offered', .inl ⟨(isOpen _).mpr (.inl wasOpen), isFirst'⟩⟩
      · rcases taken with ⟨taker, takerBundle, accepted, takerFetched, same⟩
        refine ⟨entry', member, offered', .inr ⟨?_, absent, taker, takerBundle,
          (isAccepted _).mpr accepted, kept _ _ takerFetched, same⟩⟩
        rw [isOpen]
        exact not_or.mpr ⟨wasClosed, different⟩
  · intro other bundle fetched
    rcases update_eq_some.mp fetched with ⟨rfl, rfl⟩ | ⟨_, fetched⟩
    · exact ⟨service.material.signedPrekey, List.mem_cons_self ..⟩
    · exact consistent.signed other bundle fetched
  · intro other message sent
    rcases consistent.honest other message sent
      with ⟨identity, bundle, ephemeral, ratchet, fetched, rfl⟩
    exact ⟨identity, bundle, ephemeral, ratchet, kept _ _ fetched, rfl⟩
  · intro other accepted
    rw [isAccepted] at accepted
    rw [isOpen]
    refine not_or.mpr ⟨consistent.closed other accepted, ?_⟩
    intro equal
    subst equal
    exact (consistent.idle party first).2 accepted
  · intro left right bundle bundle' different accepted accepted' fetched fetched'
    rw [isAccepted] at accepted accepted'
    rcases update_eq_some.mp fetched with ⟨rfl, _⟩ | ⟨_, fetched⟩
    · exact absurd accepted (consistent.idle party first).2
    · rcases update_eq_some.mp fetched' with ⟨rfl, _⟩ | ⟨_, fetched'⟩
      · exact absurd accepted' (consistent.idle party first).2
      · exact consistent.distinct left right bundle bundle' different accepted accepted' fetched
          fetched'

theorem Consistent.taken_ne (consistent : service.Consistent initial past)
    (accepted : IsAccepted past party) {bundle : ResponderPrekeyBundle}
    (fetched : service.fetched party = some bundle) {entry : OneTimePrekey P}
    (found : service.material.oneTimeEntry entry.publicPart.id = some entry) :
    bundle.oneTimePrekey ≠ some entry.publicPart := by
  rcases consistent.committed party bundle fetched
    with ⟨entry', _, offered, ⟨isOpen, _⟩ | ⟨_, absent, _⟩⟩
  · exact absurd isOpen (consistent.closed party accepted)
  · intro same
    rw [Option.some.inj (offered.symm.trans same), found] at absent
    cases absent

theorem Consistent.accepted [DecidableEq Party] (consistent : service.Consistent initial past)
    {entry : OneTimePrekey P} {rest : List (OneTimePrekey P)} {bundle : ResponderPrekeyBundle}
    (wellFormed : (service.material.consume (some entry.publicPart.id)).WellFormed)
    (accepts : ServiceTransition.Accepts last party) (isOpen : IsOpen past party)
    (pool : service.material.oneTimePrekeys = entry :: rest)
    (fetched : service.fetched party = some bundle)
    (offered : bundle.oneTimePrekey = some entry.publicPart) :
    Consistent initial (past ++ [last])
      { service with material := service.material.consume (some entry.publicPart.id) } := by
  have fetches (other : Party) : ¬ServiceTransition.Fetches last other := by
    intro fetches
    cases accepts.1.symm.trans fetches
  have sole (other : Party) : ServiceTransition.Accepts last other ↔ party = other := by
    constructor
    · intro accepts'
      exact ServiceCall.accept.inj (accepts.1.symm.trans accepts'.1)
    · intro same
      exact same ▸ accepts
  have isClosed (other : Party) : ¬IsOpen (past ++ [last]) other := by
    rw [isOpen_concat]
    exact not_or.mpr ⟨fun wasOpen => wasOpen.2 party accepts, fetches other⟩
  have isAccepted (other : Party) :
      IsAccepted (past ++ [last]) other ↔ IsAccepted past other ∨ party = other := by
    rw [isAccepted_concat, sole]
  have remaining : (service.material.consume (some entry.publicPart.id)).oneTimePrekeys = rest := by
    show Keyed.remove _ service.material.oneTimePrekeys _ = rest
    rw [pool]
    exact List.eraseP_cons_of_pos (decide_eq_true rfl)
  have found : service.material.oneTimeEntry entry.publicPart.id = some entry := by
    apply consistent.wellFormed.oneTimeEntry_eq
    rw [pool]
    exact List.mem_cons_self ..
  constructor
  · exact wellFormed
  · intro entry' member
    rw [remaining] at member
    apply consistent.pool
    rw [pool]
    exact List.mem_cons_of_mem _ member
  · rcases consistent.counted with ⟨spent, accepted, counted⟩
    have absent : party ∉ spent := fun member =>
      consistent.closed party (accepted party member) isOpen
    refine ⟨spent.cons party absent, ?_, ?_⟩
    · intro other member
      rw [isAccepted]
      rcases Finset.mem_cons.mp member with same | earlier
      · exact .inr same.symm
      · exact .inl (accepted other earlier)
    · rw [pool, List.length_cons] at counted
      rw [remaining, Finset.card_cons]
      omega
  · intro other idle
    refine ⟨isClosed other, ?_⟩
    rw [isAccepted]
    refine not_or.mpr ⟨(consistent.idle other idle).2, ?_⟩
    intro same
    cases fetched.symm.trans (same ▸ idle)
  · intro other bundle' fetched'
    rcases consistent.committed other bundle' fetched'
      with ⟨entry', member, offered', ⟨_, isFirst⟩ | ⟨_, absent, taken⟩⟩
    · rw [pool] at isFirst
      cases isFirst
      exact ⟨entry, member, offered', .inr ⟨isClosed other,
        consistent.wellFormed.oneTimeEntry_consume _, party, bundle,
        (isAccepted _).mpr (.inr rfl), fetched, offered⟩⟩
    · rcases taken with ⟨taker, takerBundle, accepted, takerFetched, same⟩
      exact ⟨entry', member, offered', .inr ⟨isClosed other,
        ResponderPrekeyMaterial.oneTimeEntry_consume_of_none absent _, taker, takerBundle,
        (isAccepted _).mpr (.inl accepted), takerFetched, same⟩⟩
  · intro other bundle' fetched'
    rw [ResponderPrekeyMaterial.signedPrekeys_consume]
    exact consistent.signed other bundle' fetched'
  · exact consistent.honest
  · intro other _
    exact isClosed other
  · intro left right leftBundle rightBundle different accepted accepted' fetchedLeft fetchedRight
    rcases (isAccepted left).mp accepted with before | rfl
    · rcases (isAccepted right).mp accepted' with before' | rfl
      · exact consistent.distinct left right _ _ different before before' fetchedLeft fetchedRight
      · rw [Option.some.inj (fetchedRight.symm.trans fetched), offered]
        exact consistent.taken_ne before fetchedLeft found
    · rcases (isAccepted right).mp accepted' with before' | rfl
      · rw [Option.some.inj (fetchedLeft.symm.trans fetched), offered]
        exact (consistent.taken_ne before' fetchedRight found).symm
      · exact absurd rfl different

theorem Consistent.step [Fintype Party] [DecidableEq Party] (agreement : P.LawfulX25519)
    (signatures : P.LawfulEd25519)
    (enough : Fintype.card Party ≤ initial.oneTimePrekeys.length)
    (consistent : Consistent initial past last.current)
    (taken : ServiceStep last.current last.event last.next) :
    Consistent initial (past ++ [last]) last.next := by
  rcases last with ⟨current, call, next⟩
  dsimp only at consistent taken ⊢
  cases taken with
  | fetch first => exact consistent.fetch enough first rfl
  | @initiate party identity _ _ _ bundle message _ fetched first initiated =>
      refine consistent.neutral ⟨?_, ?_⟩ consistent.wellFormed rfl (fun _ held => held) rfl ?_
      · intro other fetches
        cases fetches
      · intro other accepts
        cases accepts.1
      · intro other message' sent
        rcases update_eq_some.mp sent with ⟨rfl, rfl⟩ | ⟨_, sent⟩
        · rcases initiate_eq_ok.mp initiated with ⟨_, ephemeral, ratchet, _, _, _, _, _, _, rfl, _⟩
          exact ⟨identity, bundle, ephemeral, ratchet, fetched, rfl⟩
        · exact consistent.honest other message' sent
  | @accept party message sent =>
      by_cases isOpen : IsOpen past party
      · rcases consistent.accept_open agreement signatures sent isOpen
          with ⟨entry, rest, answer, bundle, pool, fetched, offered, accepted⟩
        have after : current.material.after (.accept message) =
            current.material.consume (some entry.publicPart.id) := congrArg Prod.snd accepted
        have wellFormed := consistent.wellFormed.kept
          (current.material.changes_after (.accept message))
        rw [after] at wellFormed ⊢
        exact consistent.accepted wellFormed
          ⟨rfl, message, answer, sent, congrArg Prod.fst accepted⟩ isOpen pool fetched offered
      · have refused := consistent.accept_closed signatures sent isOpen
        have after : current.material.after (.accept message) = current.material :=
          congrArg Prod.snd refused
        rw [after]
        refine consistent.neutral ⟨?_, ?_⟩ consistent.wellFormed rfl (fun _ held => held) rfl
          consistent.honest
        · intro other fetches
          cases fetches
        · intro other accepts
          rcases accepts with ⟨isParty, message', answer, sent', accepted⟩
          cases isParty
          cases sent.symm.trans sent'
          cases (congrArg Prod.fst refused).symm.trans accepted
  | rotateSignedPrekey entropy id expiresAtUnix =>
      have changes := current.material.changes_after (.rotateSignedPrekey entropy id expiresAtUnix)
      refine consistent.neutral ⟨?_, ?_⟩ (consistent.wellFormed.kept changes)
        changes.of_rotate.1 changes.of_rotate.2 rfl consistent.honest
      · intro other fetches
        cases fetches
      · intro other accepts
        cases accepts.1

end PrekeyService

/-! ## Runs -/

section Service

variable [DecidableEq Party] {initial : ResponderPrekeyMaterial P}
  {start final : PrekeyService P Party} {transitions : List (ServiceTransition P Party)}

theorem ServiceStep.fetched_kept {service next : PrekeyService P Party}
    {call : ServiceCall P Party} (taken : ServiceStep service call next) {party : Party}
    {bundle : ResponderPrekeyBundle} (fetched : service.fetched party = some bundle) :
    next.fetched party = some bundle := by
  cases taken with
  | fetch first =>
      refine update_eq_some.mpr (.inr ⟨?_, fetched⟩)
      intro same
      subst same
      cases first.symm.trans fetched
  | initiate | accept | rotateSignedPrekey => exact fetched

theorem fetched_of_run (run : Run ServiceStep start transitions final) {party : Party}
    {bundle : ResponderPrekeyBundle} (fetched : start.fetched party = some bundle) :
    final.fetched party = some bundle := by
  induction run with
  | nil => exact fetched
  | cons taken _ induction => exact induction (taken.fetched_kept fetched)

theorem ServiceStep.fetches {transition : ServiceTransition P Party} {party : Party}
    (taken : ServiceStep transition.current transition.event transition.next)
    (fetches : ServiceTransition.Fetches transition party) :
    transition.current.fetched party = none ∧
      transition.next.fetched party = some transition.current.material.bundle := by
  rcases transition with ⟨current, call, next⟩
  cases fetches
  dsimp only at taken ⊢
  cases taken with
  | fetch first => exact ⟨first, Function.update_self ..⟩

theorem ServiceStep.fetched_cases {transition : ServiceTransition P Party} {party : Party}
    {bundle : ResponderPrekeyBundle}
    (taken : ServiceStep transition.current transition.event transition.next)
    (fetched : transition.next.fetched party = some bundle) :
    transition.current.fetched party = some bundle ∨
      ServiceTransition.Fetches transition party ∧
        bundle = transition.current.material.bundle := by
  rcases transition with ⟨current, call, next⟩
  dsimp only at taken fetched ⊢
  cases taken with
  | fetch first =>
      rcases update_eq_some.mp fetched with ⟨rfl, rfl⟩ | ⟨_, earlier⟩
      · exact .inr ⟨rfl, rfl⟩
      · exact .inl earlier
  | initiate | accept | rotateSignedPrekey => exact .inl fetched

theorem ServiceStep.delivers {transition : ServiceTransition P Party} {party : Party}
    (taken : ServiceStep transition.current transition.event transition.next)
    (event : transition.event = .accept party) :
    ∃ message, transition.current.sent party = some message := by
  rcases transition with ⟨current, call, next⟩
  cases event
  dsimp only at taken ⊢
  cases taken with
  | accept sent => exact ⟨_, sent⟩

def PrekeyService.OffersApart (service : PrekeyService P Party) : Prop :=
  ∀ party other bundle bundle', party ≠ other → service.fetched party = some bundle →
    service.fetched other = some bundle' → bundle.oneTimePrekey ≠ bundle'.oneTimePrekey

variable [Fintype Party] (agreement : P.LawfulX25519) (signatures : P.LawfulEd25519)
  (wellFormed : initial.WellFormed)
  (enough : Fintype.card Party ≤ initial.oneTimePrekeys.length)
  (run : Run ServiceStep (PrekeyService.start initial) transitions final)

include agreement signatures wellFormed enough

include run in
theorem consistent_of_run : final.Consistent initial transitions := by
  refine run.history (PrekeyService.consistent_start wellFormed) ?_
  intro before transition after _ _ taken consistent
  exact consistent.step agreement signatures enough taken

/-- A bundle offers what an earlier one offered exactly if the earlier party is still open. -/
theorem offers_same_iff {party other : Party} {transition : ServiceTransition P Party}
    {before : List (ServiceTransition P Party)} {bundle : ResponderPrekeyBundle}
    (prior : Run ServiceStep (PrekeyService.start initial) before transition.current)
    (taken : ServiceStep transition.current transition.event transition.next)
    (fetches : ServiceTransition.Fetches transition party)
    (fetched : transition.current.fetched other = some bundle) :
    transition.current.material.bundle.oneTimePrekey = bundle.oneTimePrekey ↔
      IsOpen before other := by
  have consistent := consistent_of_run agreement signatures wellFormed enough prior
  rcases consistent.exists_first enough (taken.fetches fetches).1 with ⟨entry, isFirst⟩
  have offered : transition.current.material.bundle.oneTimePrekey = some entry.publicPart := by
    rw [ResponderPrekeyMaterial.bundle, isFirst]
    rfl
  rw [offered]
  rcases consistent.committed other bundle fetched
    with ⟨entry', _, offered', ⟨isOpen, isFirst'⟩ | ⟨isClosed, absent, _⟩⟩
  · rw [offered', Option.some.inj (isFirst.symm.trans isFirst')]
    exact iff_of_true rfl isOpen
  · refine iff_of_false ?_ isClosed
    intro same
    rw [offered', Option.some.injEq] at same
    rw [← same, consistent.wellFormed.oneTimeEntry_eq (List.mem_of_mem_head? isFirst)] at absent
    cases absent

include run in
theorem fetchesInTurn_of_accepted (accepted : ∀ party, IsAccepted transitions party) :
    FetchesInTurn transitions := by
  intro before transition after split party fetches other isOpen
  have consistent := consistent_of_run agreement signatures wellFormed enough run
  rw [split] at run
  have prior := run.around.1
  have taken := run.around.2.1
  have rest := run.around.2.2
  have first := taken.fetches fetches
  have earlier := consistent_of_run agreement signatures wellFormed enough prior
  have different : party ≠ other := by
    intro equal
    subst equal
    exact (earlier.idle party first.1).1 isOpen
  cases fetched : transition.current.fetched other with
  | none => exact (earlier.idle other fetched).1 isOpen
  | some bundle =>
      have same := (offers_same_iff agreement signatures wellFormed enough prior taken fetches
        fetched).mpr isOpen
      exact consistent.distinct party other _ _ different (accepted party) (accepted other)
        (fetched_of_run rest first.2) (fetched_of_run rest (taken.fetched_kept fetched)) same

include run in
theorem offersApart_of_fetchesInTurn (inTurn : FetchesInTurn transitions) :
    final.OffersApart := by
  apply run.invariant_of_mem
  · intro party other bundle bundle' _ fetched
    cases fetched
  · intro transition member taken apart
    rcases List.append_of_mem member with ⟨before, after, split⟩
    rw [split] at run
    have differs {party other : Party} {bundle : ResponderPrekeyBundle}
        (fetches : ServiceTransition.Fetches transition party)
        (fetched : transition.current.fetched other = some bundle) :
        transition.current.material.bundle.oneTimePrekey ≠ bundle.oneTimePrekey := by
      intro same
      exact inTurn before transition after split party fetches other
        ((offers_same_iff agreement signatures wellFormed enough run.around.1 taken fetches
          fetched).mp same)
    intro left right bundle bundle' different fetched fetched'
    rcases taken.fetched_cases fetched with earlier | ⟨fetches, rfl⟩
    · rcases taken.fetched_cases fetched' with earlier' | ⟨fetches', rfl⟩
      · exact apart left right bundle bundle' different earlier earlier'
      · exact (differs fetches' earlier).symm
    · rcases taken.fetched_cases fetched' with earlier' | ⟨fetches', _⟩
      · exact differs fetches earlier'
      · exact absurd (ServiceCall.fetch.inj (fetches.symm.trans fetches')) different

include run in
theorem accepted_of_fetchesInTurn (inTurn : FetchesInTurn transitions) {party : Party}
    (delivered : ∃ transition ∈ transitions, transition.event = .accept party) :
    IsAccepted transitions party := by
  rcases delivered with ⟨transition, member, event⟩
  rcases List.append_of_mem member with ⟨before, after, split⟩
  rw [split] at run
  have prior := run.around.1
  have consistent := consistent_of_run agreement signatures wellFormed enough prior
  have inTurn' : FetchesInTurn before := by
    intro first middle last split'
    apply inTurn first middle (last ++ transition :: after)
    rw [split, split', List.append_assoc, List.cons_append]
  have apart := offersApart_of_fetchesInTurn agreement signatures wellFormed enough prior inTurn'
  rcases run.around.2.1.delivers event with ⟨message, sent⟩
  by_cases isOpen : IsOpen before party
  · rcases consistent.accept_open agreement signatures sent isOpen
      with ⟨_, _, answer, _, _, _, _, accepted⟩
    exact ⟨transition, member, event, message, answer, sent, congrArg Prod.fst accepted⟩
  · rcases consistent.honest party message sent with ⟨_, bundle, _, _, fetched, _⟩
    rcases consistent.committed party bundle fetched
      with ⟨entry, _, offered, ⟨wasOpen, _⟩ | ⟨_, _, taker, bundle', accepted, fetched', taken⟩⟩
    · exact absurd wasOpen isOpen
    · have same : party = taker := by
        by_contra different
        exact apart party taker bundle bundle' different fetched fetched'
          (offered.trans taken.symm)
      rcases accepted with ⟨source, earlier, accepts⟩
      refine ⟨source, ?_, same ▸ accepts⟩
      rw [split]
      exact List.mem_append_left _ earlier

end Service

/-! ## How a pool is shared -/

/-- What becomes of the initiators that share a pool of one-time prekeys. -/
structure SharesPool (initial : ResponderPrekeyMaterial P)
    (transitions : List (ServiceTransition P Party)) : Prop where
  /-- Every bundle offers a one-time prekey of the pool. -/
  offered : ∀ transition ∈ transitions, ∀ party, ServiceTransition.Fetches transition party →
    ∃ entry ∈ initial.oneTimePrekeys,
      transition.current.material.bundle.oneTimePrekey = some entry.publicPart
  /-- It is the one of an earlier bundle exactly if no message was accepted in between. -/
  shared : ∀ before transition after, transitions = before ++ transition :: after →
    ∀ party, ServiceTransition.Fetches transition party →
      ∀ other bundle, transition.current.fetched other = some bundle →
        (transition.current.material.bundle.oneTimePrekey = bundle.oneTimePrekey ↔
          IsOpen before other)
  /-- A message is accepted exactly if none was accepted since its bundle was fetched. -/
  accepted : ∀ before transition after, transitions = before ++ transition :: after →
    ∀ party message, transition.event = .accept party →
      transition.current.sent party = some message →
      ((∃ answer, (accept message transition.current.material).1 = .ok answer) ↔
        IsOpen before party) ∧
      (¬IsOpen before party → accept message transition.current.material =
        (.err .ratchetStateMismatch, transition.current.material))
  /-- Once all messages are delivered, all are accepted exactly if the bundles were fetched in
  turn. -/
  complete : (∀ party, ∃ transition ∈ transitions, transition.event = .accept party) →
    ((∀ party, IsAccepted transitions party) ↔ FetchesInTurn transitions)

/-- At most as many initiators as there are one-time prekeys, in any interleaving. -/
theorem sharesPool [Fintype Party] [DecidableEq Party] (agreement : P.LawfulX25519)
    (signatures : P.LawfulEd25519) {signingEntropy dhEntropy prekeyEntropy : Entropy}
    {id : UInt32} {expiresAtUnix : UInt64} {start material : ResponderPrekeyMaterial P}
    {earlier : List (PrekeyTransition P)}
    (generated : ResponderPrekeyMaterial.generate signingEntropy dhEntropy prekeyEntropy id
      expiresAtUnix = .ok start) (reached : Run PrekeyStep start earlier material)
    (enough : Fintype.card Party ≤ material.oneTimePrekeys.length)
    {transitions : List (ServiceTransition P Party)} {final : PrekeyService P Party}
    (run : Run ServiceStep (PrekeyService.start material) transitions final) :
    SharesPool material transitions := by
  have wellFormed := wellFormed_of_run reached
    (ResponderPrekeyMaterial.wellFormed_generate generated)
  constructor
  · intro transition member party fetches
    rcases List.append_of_mem member with ⟨before, after, rfl⟩
    have consistent := consistent_of_run agreement signatures wellFormed enough run.around.1
    rcases consistent.exists_first enough (run.around.2.1.fetches fetches).1
      with ⟨entry, isFirst⟩
    refine ⟨entry, consistent.pool _ (List.mem_of_mem_head? isFirst), ?_⟩
    rw [ResponderPrekeyMaterial.bundle, isFirst]
    rfl
  · intro before transition after split party fetches other bundle fetched
    rw [split] at run
    exact offers_same_iff agreement signatures wellFormed enough run.around.1 run.around.2.1
      fetches fetched
  · intro before transition after split party message event sent
    rw [split] at run
    have consistent := consistent_of_run agreement signatures wellFormed enough run.around.1
    refine ⟨⟨?_, ?_⟩, consistent.accept_closed signatures sent⟩
    · intro accepted
      rcases accepted with ⟨answer, accepted⟩
      by_contra isClosed
      rw [consistent.accept_closed signatures sent isClosed] at accepted
      cases accepted
    · intro isOpen
      rcases consistent.accept_open agreement signatures sent isOpen
        with ⟨_, _, answer, _, _, _, _, accepted⟩
      exact ⟨answer, congrArg Prod.fst accepted⟩
  · intro delivered
    constructor
    · exact fetchesInTurn_of_accepted agreement signatures wellFormed enough run
    · intro inTurn party
      exact accepted_of_fetchesInTurn agreement signatures wellFormed enough run inTurn
        (delivered party)

/-! ## Two initiators, in turn and at once -/

def sampleAnswer (published : ResponderPrekeyMaterial Primitives.concrete) :
    InitiatorHandshake :=
  initiatorMessage (sampleInitiator Primitives.concrete) published.bundle
    (.fromSecret (.replicate 32 6)) (.fromSecret (.replicate 32 7))

theorem initiate_constant {published : ResponderPrekeyMaterial Primitives.concrete}
    (wellFormed : published.WellFormed) (fresh : 2000 ≤ published.signedRecord.expiresAtUnix) :
    ∃ handshake, initiate (constantEntropy 6) (constantEntropy 7)
      (sampleInitiator Primitives.concrete) published.bundle 2000 =
        .ok (sampleAnswer published, handshake) :=
  ⟨_, initiate_published Primitives.lawfulX25519_concrete Primitives.lawfulEd25519_concrete
    wellFormed rfl rfl (sampleInitiator _) fresh⟩

section Exchange

variable (service : PrekeyService Primitives.concrete Bool) (party : Bool)

def afterFetch : PrekeyService Primitives.concrete Bool :=
  { service with
    fetched := Function.update service.fetched party (some service.material.bundle) }

def afterAnswer : PrekeyService Primitives.concrete Bool :=
  { afterFetch service party with
    sent := Function.update service.sent party (some (sampleAnswer service.material)) }

def afterExchange : PrekeyService Primitives.concrete Bool :=
  { afterAnswer service party with
    material := service.material.after (.accept (sampleAnswer service.material)) }

def exchange : List (ServiceTransition Primitives.concrete Bool) :=
  [⟨service, .fetch party, afterFetch service party⟩,
    ⟨afterFetch service party, .initiate party (sampleInitiator _) (constantEntropy 6)
      (constantEntropy 7) 2000, afterAnswer service party⟩,
    ⟨afterAnswer service party, .accept party, afterExchange service party⟩]

variable {service party}

theorem run_exchange (first : service.fetched party = none) (unsent : service.sent party = none)
    (wellFormed : service.material.WellFormed)
    (fresh : 2000 ≤ service.material.signedRecord.expiresAtUnix) :
    Run ServiceStep service (exchange service party) (afterExchange service party) := by
  rcases initiate_constant wellFormed fresh with ⟨handshake, initiated⟩
  have fetched : (afterFetch service party).fetched party = some service.material.bundle :=
    Function.update_self ..
  have sent : (afterAnswer service party).sent party =
      some (sampleAnswer service.material) := Function.update_self ..
  exact .cons (.fetch first) (.cons (.initiate fetched unsent initiated)
    (.cons (.accept sent) (.nil _)))

theorem wellFormed_afterExchange (wellFormed : service.material.WellFormed) :
    (afterExchange service party).material.WellFormed :=
  wellFormed.kept (service.material.changes_after (.accept (sampleAnswer service.material)))

/-- The message of an exchange is accepted, so the next party fetches in turn. -/
theorem fetchesInTurn_exchange {service' : PrekeyService Primitives.concrete Bool}
    {party' : Bool} (wellFormed : service.material.WellFormed) :
    FetchesInTurn (exchange service party ++ exchange service' party') := by
  rcases accept_published Primitives.lawfulX25519_concrete Primitives.lawfulEd25519_concrete
    wellFormed wellFormed rfl (.refl _) (sampleInitiator _) (.fromSecret (.replicate 32 6))
    (.fromSecret (.replicate 32 7)) with ⟨answer, next, accepted, _⟩
  intro before transition after split fetcher fetches other isOpen
  match before with
  | [] => exact Run.since_nil isOpen
  | [fetching, sending, accepting] =>
      cases split
      have recent : IsOpen ([_, _] ++ [_]) other := isOpen
      rcases isOpen_concat.mp recent with ⟨_, none⟩ | fetched
      · exact none party ⟨rfl, _, answer, Function.update_self .., congrArg Prod.fst accepted⟩
      · cases fetched
  | [_] | [_, _] | [_, _, _, _] | [_, _, _, _, _] =>
      cases split
      cases fetches
  | _ :: _ :: _ :: _ :: _ :: _ :: rest => simp [exchange] at split

end Exchange

def sampleShared : ResponderPrekeyMaterial Primitives.concrete :=
  (samplePublished Primitives.concrete).withOneTime 20 (.fromSecret (.replicate 32 5))

def sharedTransitions : List (PrekeyTransition Primitives.concrete) :=
  [⟨sampleMaterial _, .addOneTimePrekey (constantEntropy 4) 19, samplePublished _⟩,
    ⟨samplePublished _, .addOneTimePrekey (constantEntropy 5) 20, sampleShared⟩]

theorem run_sampleShared :
    Run PrekeyStep (sampleMaterial Primitives.concrete) sharedTransitions sampleShared :=
  .cons (samplePublished_eq _) (.cons rfl (.nil _))

theorem wellFormed_sampleShared : sampleShared.WellFormed :=
  wellFormed_of_run run_sampleShared
    (ResponderPrekeyMaterial.wellFormed_generate (generate_sampleMaterial _))

/-- The second initiator fetches once the first one was accepted, and both are accepted. -/
theorem sharesPool_sample :
    ∃ (transitions : List (ServiceTransition Primitives.concrete Bool))
      (final : PrekeyService Primitives.concrete Bool),
      Run ServiceStep (.start sampleShared) transitions final ∧
        ∀ party, IsAccepted transitions party := by
  have first : Run ServiceStep (.start sampleShared) (exchange _ false) _ :=
    run_exchange rfl rfl wellFormed_sampleShared (by decide)
  have fresh : 2000 ≤ (afterExchange (.start sampleShared)
      false).material.signedRecord.expiresAtUnix := by
    decide +kernel
  have second : Run ServiceStep _ (exchange _ true) _ :=
    run_exchange rfl rfl (wellFormed_afterExchange wellFormed_sampleShared) fresh
  have shares := sharesPool Primitives.lawfulX25519_concrete Primitives.lawfulEd25519_concrete
    (generate_sampleMaterial _) run_sampleShared (by decide) (first.append second)
  refine ⟨_, _, first.append second, (shares.complete ?_).mpr ?_⟩
  · intro party
    cases party <;> simp [exchange]
  · exact fetchesInTurn_exchange wellFormed_sampleShared

/-- Two initiators share two one-time prekeys. Both fetch before one is accepted, and not both
are accepted. -/
theorem exists_run_not_accepted :
    ∃ (transitions : List (ServiceTransition Primitives.concrete Bool))
      (final : PrekeyService Primitives.concrete Bool),
      sampleShared.oneTimePrekeys.length = Fintype.card Bool ∧
      Run ServiceStep (.start sampleShared) transitions final ∧
      (∀ party, ∃ transition ∈ transitions, transition.event = .accept party) ∧
      ¬∀ party, IsAccepted transitions party := by
  rcases initiate_constant wellFormed_sampleShared (by decide) with ⟨handshake, initiated⟩
  have run : Run ServiceStep (.start sampleShared)
      [⟨_, .fetch false, _⟩, ⟨_, .fetch true, _⟩, ⟨_, .initiate false _ _ _ _, _⟩,
        ⟨_, .initiate true _ _ _ _, _⟩, ⟨_, .accept false, _⟩, ⟨_, .accept true, _⟩] _ :=
    .cons (.fetch rfl) (.cons (.fetch rfl) (.cons (.initiate rfl rfl initiated)
      (.cons (.initiate rfl rfl initiated) (.cons (.accept rfl) (.cons (.accept rfl) (.nil _))))))
  refine ⟨_, _, rfl, run, ?_, ?_⟩
  · intro party
    cases party <;> simp
  · intro accepted
    have inTurn := fetchesInTurn_of_accepted Primitives.lawfulX25519_concrete
      Primitives.lawfulEd25519_concrete wellFormed_sampleShared (by decide) run accepted
    exact inTurn [_] _ _ rfl true rfl false ⟨[], _, [], rfl, rfl, by simp⟩

end Mef26
