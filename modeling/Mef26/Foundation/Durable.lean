import Mathlib.Logic.Function.Basic
import Mef26.Foundation.Family

namespace Mef26

/-! # Components that survive crashes

A component answers calls in memory. It commits its state together with the answers it
has given since the last commit, and these are released then and not before. After a
crash it continues from the state it committed last. -/

/-- Storage that gives back what was stored, if it gives back anything. -/
structure Storage (State Record : Type*) where
  saves : State → Record → Prop
  loads : Record → State → Prop
  faithful {state loaded : State} {record : Record} :
    saves state record → loads record loaded → loaded = state

structure Component (State Call Reply Record : Type*) extends Storage State Record where
  after : Call → State → State
  reply : Call → State → Reply

structure Durable (State Call Reply Record : Type*) where
  memory : State
  /-- The calls answered since the last commit. -/
  pending : List (Call × Reply)
  record : Record
  released : List (Call × Reply)

inductive DurableEvent (Call : Type*)
  | call (call : Call)
  | commit
  | crash

structure LogEntry (Node State Call : Type*) where
  node : Node
  current : State
  call : Call
  saved : Bool

variable {Node State Call Reply Record : Type*}

namespace Component

def Step (component : Component State Call Reply Record) (current : State) (call : Call)
    (next : State) : Prop :=
  component.after call current = next

def answer (component : Component State Call Reply Record)
    (transition : Transition State Call) : Call × Reply :=
  (transition.event, component.reply transition.event transition.current)

inductive DurableStep (component : Component State Call Reply Record)
    (current : Durable State Call Reply Record) :
    DurableEvent Call → Durable State Call Reply Record → Prop
  | call (call : Call) :
      DurableStep component current (.call call)
        { current with
          memory := component.after call current.memory
          pending := current.pending ++ [(call, component.reply call current.memory)] }
  | commit (record : Record) (saved : component.saves current.memory record) :
      DurableStep component current .commit
        { current with
          pending := []
          record := record
          released := current.released ++ current.pending }
  | crash (state : State) (loaded : component.loads current.record state) :
      DurableStep component current .crash { current with memory := state, pending := [] }

theorem DurableStep.released {component : Component State Call Reply Record}
    {current next : Durable State Call Reply Record} {event : DurableEvent Call}
    (step : component.DurableStep current event next) :
    next.released = current.released ∨
      next.released = current.released ++ current.pending := by
  cases step with
  | call | crash => exact .inl rfl
  | commit record saved => exact .inr rfl

def transition (component : Component State Call Reply Record)
    (entry : LogEntry Node State Call) : Transition State Call where
  current := entry.current
  event := entry.call
  next := component.after entry.call entry.current

end Component

abbrev NetworkStep (components : Node → Component State Call Reply Record) :
    (Node → Durable State Call Reply Record) → NodeEvent Node (DurableEvent Call) →
      (Node → Durable State Call Reply Record) → Prop :=
  FamilyStep fun node => (components node).DurableStep

theorem released_prefix {components : Node → Component State Call Reply Record}
    {start final : Node → Durable State Call Reply Record}
    {transitions : List (FamilyTransition Node (Durable State Call Reply Record)
      (DurableEvent Call))}
    (run : Run (NetworkStep components) start transitions final) (node : Node) :
    (start node).released <+: (final node).released := by
  classical
  refine @Run.invariant _ _ _ start final transitions
    (fun devices => (start node).released <+: (devices node).released) run
    List.prefix_rfl ?_
  intro current event next step kept
  refine kept.trans ?_
  by_cases here : node = event.node
  · subst here
    rcases step.taken.released with same | grown
    · exact same ▸ List.prefix_rfl
    · exact ⟨_, grown.symm⟩
  · exact step.others node here ▸ List.prefix_rfl

/-! ## The calls that survive -/

section Survivors

variable [DecidableEq Node]

def entriesOf (node : Node) (log : List (LogEntry Node State Call)) :
    List (LogEntry Node State Call) :=
  log.filter fun entry => entry.node = node

def LogEntry.save (node : Node) (entry : LogEntry Node State Call) :
    LogEntry Node State Call :=
  if entry.node = node then { entry with saved := true } else entry

@[simp] theorem LogEntry.node_save (node : Node) (entry : LogEntry Node State Call) :
    (entry.save node).node = entry.node := by
  unfold LogEntry.save
  split <;> rfl

def LogEntry.outlives (node : Node) (entry : LogEntry Node State Call) : Bool :=
  entry.node ≠ node ∨ entry.saved

/-- A crash undoes the calls since the last commit. -/
def logAfter (log : List (LogEntry Node State Call))
    (transition : FamilyTransition Node (Durable State Call Reply Record)
      (DurableEvent Call)) : List (LogEntry Node State Call) :=
  let node := transition.event.node
  match transition.event.event with
  | .call call => log ++ [⟨node, (transition.current node).memory, call, false⟩]
  | .commit => log.map (LogEntry.save node)
  | .crash => log.filter (LogEntry.outlives node)

def survivors (transitions : List (FamilyTransition Node (Durable State Call Reply Record)
    (DurableEvent Call))) : List (LogEntry Node State Call) :=
  transitions.foldl logAfter []

theorem survivors_snoc (before : List (FamilyTransition Node (Durable State Call Reply Record)
    (DurableEvent Call))) (last : Transition _ _) :
    survivors (before ++ [last]) = logAfter (survivors before) last := by
  rw [survivors, List.foldl_append]
  rfl

variable {log : List (LogEntry Node State Call)}
  {transition : FamilyTransition Node (Durable State Call Reply Record) (DurableEvent Call)}

def entriesAfter (memory : State) (node : Node)
    (entries : List (LogEntry Node State Call)) :
    DurableEvent Call → List (LogEntry Node State Call)
  | .call call => entries ++ [⟨node, memory, call, false⟩]
  | .commit => entries.map fun entry => { entry with saved := true }
  | .crash => entries.filter fun entry => entry.saved

theorem entriesOf_logAfter_self :
    entriesOf transition.event.node (logAfter log transition) =
      entriesAfter (transition.current transition.event.node).memory transition.event.node
        (entriesOf transition.event.node log) transition.event.event := by
  rcases transition with ⟨current, ⟨node, event⟩, next⟩
  cases event with
  | call call => simp [logAfter, entriesAfter, entriesOf]
  | commit =>
      simp only [logAfter, entriesAfter, entriesOf, List.filter_map, Function.comp_def,
        LogEntry.node_save]
      refine List.map_congr_left fun entry member => ?_
      exact if_pos (of_decide_eq_true (List.mem_filter.mp member).2)
  | crash =>
      simp only [logAfter, entriesAfter, entriesOf, List.filter_filter]
      refine List.filter_congr fun entry _ => ?_
      by_cases here : entry.node = node <;> simp [LogEntry.outlives, here]

theorem entriesOf_logAfter_other {node : Node} (other : node ≠ transition.event.node) :
    entriesOf node (logAfter log transition) = entriesOf node log := by
  rcases transition with ⟨current, ⟨acting, event⟩, next⟩
  cases event with
  | call call => simp [logAfter, entriesOf, Ne.symm other]
  | commit =>
      simp only [logAfter, entriesOf, List.filter_map, Function.comp_def,
        LogEntry.node_save]
      refine (List.map_congr_left fun entry member => ?_).trans (List.map_id _)
      have here := of_decide_eq_true (List.mem_filter.mp member).2
      exact if_neg fun same => other (here.symm.trans same)
  | crash =>
      simp only [logAfter, entriesOf, List.filter_filter]
      refine List.filter_congr fun entry _ => ?_
      by_cases here : entry.node = node
      · simp [LogEntry.outlives, here, other]
      · simp [here]

end Survivors

/-! ## What a component has on record -/

/-- The calls of a component, as far as they survive, lead from its first state over the
committed one to the one in memory. -/
structure Recorded (component : Component State Call Reply Record) (start : State)
    (entries : List (LogEntry Node State Call))
    (device : Durable State Call Reply Record)
    (committed unsaved : List (LogEntry Node State Call)) (stored : State) : Prop where
  entries : entries = committed ++ unsaved
  saved : ∀ entry ∈ committed, entry.saved = true
  notSaved : ∀ entry ∈ unsaved, entry.saved = false
  stores : component.saves stored device.record
  before : Run component.Step start (committed.map component.transition) stored
  since : Run component.Step stored (unsaved.map component.transition) device.memory
  released : device.released = committed.map (component.answer ∘ component.transition)
  pending : device.pending = unsaved.map (component.answer ∘ component.transition)

section Recorded

variable {component : Component State Call Reply Record} {start stored : State}
  {device next : Durable State Call Reply Record}
  {entries committed unsaved : List (LogEntry Node State Call)}
  (recorded : Recorded component start entries device committed unsaved stored)

include recorded

theorem Recorded.call (node : Node) (call : Call) :
    Recorded component start (entriesAfter device.memory node entries (.call call))
      { device with
        memory := component.after call device.memory
        pending := device.pending ++ [(call, component.reply call device.memory)] }
      committed (unsaved ++ [⟨node, device.memory, call, false⟩]) stored where
  entries := by rw [entriesAfter, recorded.entries, List.append_assoc]
  saved := recorded.saved
  notSaved := by
    intro entry member
    rcases List.mem_append.mp member with earlier | last
    · exact recorded.notSaved entry earlier
    · rw [List.mem_singleton.mp last]
  stores := recorded.stores
  before := recorded.before
  since := by
    rw [List.map_append]
    exact recorded.since.snoc rfl
  released := recorded.released
  pending := by
    rw [recorded.pending, List.map_append]
    rfl

theorem Recorded.commit (node : Node) {record : Record}
    (saves : component.saves device.memory record) :
    Recorded component start (entriesAfter device.memory node entries .commit)
      { device with
        pending := []
        record := record
        released := device.released ++ device.pending }
      (entriesAfter device.memory node entries .commit) [] device.memory where
  entries := (List.append_nil _).symm
  saved := by
    intro entry member
    rcases List.mem_map.mp member with ⟨_, _, rfl⟩
    rfl
  notSaved := by simp
  stores := saves
  before := by
    have all := recorded.before.append recorded.since
    rw [← List.map_append, ← recorded.entries] at all
    rw [entriesAfter, List.map_map]
    exact all
  since := .nil _
  released := by
    rw [recorded.released, recorded.pending, ← List.map_append, ← recorded.entries,
      entriesAfter, List.map_map]
    rfl
  pending := rfl

theorem Recorded.crash (node : Node) {state : State}
    (loaded : component.loads device.record state) :
    Recorded component start (entriesAfter device.memory node entries .crash)
      { device with memory := state, pending := [] } committed [] stored where
  entries := by
    rw [entriesAfter, recorded.entries, List.filter_append,
      List.filter_eq_self.mpr recorded.saved, List.filter_eq_nil_iff.mpr]
    intro entry member
    rw [recorded.notSaved entry member]
    exact Bool.false_ne_true
  saved := recorded.saved
  notSaved := by simp
  stores := recorded.stores
  before := recorded.before
  since := by
    rw [component.faithful recorded.stores loaded]
    exact .nil _
  released := recorded.released
  pending := rfl

theorem Recorded.step (node : Node) {event : DurableEvent Call}
    (taken : component.DurableStep device event next) :
    ∃ committed unsaved stored, Recorded component start
      (entriesAfter device.memory node entries event) next committed unsaved stored := by
  cases taken with
  | call call => exact ⟨_, _, _, recorded.call node call⟩
  | commit record saves => exact ⟨_, _, _, recorded.commit node saves⟩
  | crash state loaded => exact ⟨_, _, _, recorded.crash node loaded⟩

end Recorded

structure Component.Starts (component : Component State Call Reply Record) (start : State)
    (device : Durable State Call Reply Record) : Prop where
  memory : device.memory = start
  stores : component.saves start device.record
  pending : device.pending = []
  released : device.released = []

theorem exists_recorded [DecidableEq Node]
    {components : Node → Component State Call Reply Record}
    {starts : Node → State} {start final : Node → Durable State Call Reply Record}
    (started : ∀ node, (components node).Starts (starts node) (start node))
    {transitions : List (FamilyTransition Node (Durable State Call Reply Record)
      (DurableEvent Call))}
    (run : Run (NetworkStep components) start transitions final) (node : Node) :
    ∃ committed unsaved stored, Recorded (components node) (starts node)
      (entriesOf node (survivors transitions)) (final node) committed unsaved stored := by
  refine @Run.history _ _ _ start final transitions
    (fun past devices => ∀ node, ∃ committed unsaved stored, Recorded (components node)
      (starts node) (entriesOf node (survivors past)) (devices node) committed unsaved stored)
    run ?_ ?_ node
  · intro node
    refine ⟨[], [], starts node, rfl, by simp, by simp, (started node).stores, .nil _, ?_,
      (started node).released, (started node).pending⟩
    rw [(started node).memory]
    exact .nil _
  · intro before transition after _ _ taken invariant node
    rw [survivors_snoc]
    by_cases here : node = transition.event.node
    · subst here
      rcases invariant transition.event.node with ⟨committed, unsaved, stored, recorded⟩
      rw [entriesOf_logAfter_self]
      exact recorded.step _ taken.taken
    · rw [entriesOf_logAfter_other here, taken.others node here]
      exact invariant node

/-! ## Calls that rest on committed ones -/

section Backed

variable {Need : Type*} (needs gives : Node → State → Call → Need → Prop)

/-- What a call needs was given by a call that is committed. -/
def Backed (log : List (LogEntry Node State Call)) (node : Node) (current : State)
    (call : Call) : Prop :=
  ∀ need, needs node current call need →
    ∃ entry ∈ log, entry.saved = true ∧ gives entry.node entry.current entry.call need

variable {needs gives}

theorem Backed.save [DecidableEq Node] {log : List (LogEntry Node State Call)}
    {node : Node} {current : State} {call : Call}
    (backed : Backed needs gives log node current call) (saving : Node) :
    Backed needs gives (log.map (LogEntry.save saving)) node current call := by
  intro need needed
  rcases backed need needed with ⟨entry, member, saved, given⟩
  refine ⟨entry.save saving, List.mem_map_of_mem member, ?_⟩
  unfold LogEntry.save
  split
  · exact ⟨rfl, given⟩
  · exact ⟨saved, given⟩

theorem Backed.crash [DecidableEq Node] {log : List (LogEntry Node State Call)}
    {node : Node} {current : State} {call : Call}
    (backed : Backed needs gives log node current call) (crashing : Node) :
    Backed needs gives (log.filter (LogEntry.outlives crashing)) node current call := by
  intro need needed
  rcases backed need needed with ⟨entry, member, saved, given⟩
  have outlives : entry.outlives crashing = true := decide_eq_true (.inr saved)
  exact ⟨entry, List.mem_filter.mpr ⟨member, outlives⟩, saved, given⟩

/-- If every call is backed when it is made, the surviving ones are backed by surviving
ones before them. -/
theorem backed_of_survivors [DecidableEq Node]
    {transitions : List (FamilyTransition Node (Durable State Call Reply Record)
      (DurableEvent Call))}
    (made : ∀ before transition after, transitions = before ++ transition :: after →
      ∀ call, transition.event.event = .call call →
        Backed needs gives (survivors before) transition.event.node
          (transition.current transition.event.node).memory call)
    {earlier later : List (LogEntry Node State Call)} {entry : LogEntry Node State Call}
    (split : survivors transitions = earlier ++ entry :: later) :
    Backed needs gives earlier entry.node entry.current entry.call := by
  induction transitions using List.reverseRecOn generalizing earlier entry later with
  | nil => simp [survivors] at split
  | append_singleton before last induction =>
      have prior {earlier later : List (LogEntry Node State Call)}
          {entry : LogEntry Node State Call}
          (split : survivors before = earlier ++ entry :: later) :
          Backed needs gives earlier entry.node entry.current entry.call := by
        refine induction (fun first transition rest same => ?_) split
        exact made first transition (rest ++ [last]) (by simp [same])
      rw [survivors_snoc] at split
      have here := made before last [] rfl
      rcases last with ⟨current, ⟨node, event⟩, next⟩
      cases event with
      | call call =>
          rcases List.eq_nil_or_concat later with rfl | ⟨rest, last, rfl⟩
          · rcases List.append_inj' split rfl with ⟨rfl, same⟩
            rw [← (List.cons.inj same).1]
            exact here call rfl
          · rw [List.concat_eq_append, ← List.cons_append, ← List.append_assoc] at split
            exact prior (List.append_inj' split rfl).1
      | commit =>
          rcases List.map_eq_append_iff.mp split with ⟨first, rest, same, rfl, tail⟩
          rcases List.map_eq_cons_iff.mp tail with ⟨original, others, rfl, rfl, rfl⟩
          have backed := (prior same).save node
          unfold LogEntry.save at backed ⊢
          split <;> exact backed
      | crash =>
          rcases List.filter_eq_append_iff.mp split with ⟨first, rest, same, rfl, tail⟩
          rcases List.filter_eq_cons_iff.mp tail with ⟨skipped, others, rfl, dropped, _, rfl⟩
          rw [← List.append_assoc] at same
          have backed := (prior same).crash node
          rw [List.filter_append, List.filter_eq_nil_iff.mpr dropped, List.append_nil]
            at backed
          exact backed

end Backed

/-! ## One run of all components -/

structure Interleaved [DecidableEq Node]
    (components : Node → Component State Call Reply Record) (current : Node → State)
    (entry : LogEntry Node State Call) (next : Node → State) : Prop where
  called : entry.current = current entry.node
  moved : next = Function.update current entry.node
    ((components entry.node).after entry.call (current entry.node))

theorem Run.eq_of_nil {step : State → Call → State → Prop} {start final : State}
    (run : Run step start [] final) : start = final := by
  cases run
  rfl

theorem entriesOf_cons_self [DecidableEq Node] (entry : LogEntry Node State Call)
    (log : List (LogEntry Node State Call)) :
    entriesOf entry.node (entry :: log) = entry :: entriesOf entry.node log :=
  List.filter_cons_of_pos (decide_eq_true rfl)

theorem entriesOf_cons_other [DecidableEq Node] {node : Node}
    {entry : LogEntry Node State Call} (other : node ≠ entry.node)
    (log : List (LogEntry Node State Call)) :
    entriesOf node (entry :: log) = entriesOf node log :=
  List.filter_cons_of_neg fun same => other (of_decide_eq_true same).symm

theorem exists_interleaved [DecidableEq Node]
    {components : Node → Component State Call Reply Record}
    (log : List (LogEntry Node State Call)) {start final : Node → State}
    (runs : ∀ node, Run (components node).Step (start node)
      ((entriesOf node log).map (components node).transition) (final node)) :
    ∃ transitions, transitions.map Transition.event = log ∧
      Run (Interleaved components) start transitions final := by
  induction log generalizing start with
  | nil =>
      have same : start = final := by
        funext node
        exact (runs node).eq_of_nil
      subst same
      exact ⟨[], rfl, .nil _⟩
  | cons entry log induction =>
      have own := runs entry.node
      rw [entriesOf_cons_self, List.map_cons, ← List.nil_append (_ :: _)] at own
      rcases own.around with ⟨before, _, rest⟩
      have called : entry.current = start entry.node := before.eq_of_nil.symm
      have remaining : ∀ node, Run (components node).Step
          (Function.update start entry.node
            ((components entry.node).after entry.call entry.current) node)
          ((entriesOf node log).map (components node).transition) (final node) := by
        intro node
        by_cases here : node = entry.node
        · subst here
          rw [Function.update_self]
          exact rest
        · have other := runs node
          rw [entriesOf_cons_other here] at other
          rw [Function.update_of_ne here]
          exact other
      rcases induction remaining with ⟨transitions, labelled, run⟩
      refine ⟨⟨start, entry, _⟩ :: transitions, by simp [labelled], .cons ?_ run⟩
      exact ⟨called, by rw [called]⟩

end Mef26
