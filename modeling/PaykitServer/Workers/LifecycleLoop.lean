import PaykitServer.Collections.SortedSet
import PaykitServer.Persistence.Database
import PaykitServer.Relational.Transaction
import PaykitServer.Workers.CreatorTasks

/-!
# The lifecycle reconciliation loop

`lifecycle_reconciliation_loop` as the sequence of what its `select!` takes: a
finished pass, a tick with its discovery, or a batch of hints. After each the
free slots are handed out over the queued, running and last discovered Creators.
`LifecycleReadiness` waits for every Creator of one enumeration and then tells
the runtime that the lifecycle rail is available.

A queued Creator stays queued until its pass starts, and a Creator that readiness
waits for is queued or running. The order of turns is fair as long as no round
forgets a turn: `order` keeps the turns of the Creators it is given, and a
Creator that completed its pass is given to it only if it is queued again or the
last discovery listed it.
-/

namespace PaykitServer.Workers

open Relational Persistence Collections

/-- The runtime as the loop uses it: the values `set_paykit_lifecycle_available` was given. -/
structure Runtime where
  published : List Bool
  deriving DecidableEq

def Runtime.setPaykitLifecycleAvailable (runtime : Runtime) (available : Bool) : Runtime :=
  ⟨runtime.published ++ [available]⟩

/-- `LifecycleReadiness`: the Creators of an enumeration that are still waited for. -/
structure LifecycleReadiness where
  checking : Option (SortedSet Uuid)
  deriving DecidableEq

namespace LifecycleReadiness

def publishIfComplete (self : LifecycleReadiness) (runtime : Runtime) :
    LifecycleReadiness × Runtime :=
  if self.checking.any SortedSet.isEmpty then
    (⟨none⟩, runtime.setPaykitLifecycleAvailable true)
  else (self, runtime)

/-- An enumeration is waited for only when none is yet. -/
def fullPass (self : LifecycleReadiness) (creators : List Uuid) (runtime : Runtime) :
    LifecycleReadiness × Runtime :=
  publishIfComplete ⟨some (self.checking.getD (.ofList creators))⟩ runtime

def failed (runtime : Runtime) : LifecycleReadiness × Runtime :=
  (⟨none⟩, runtime.setPaykitLifecycleAvailable false)

def completed (self : LifecycleReadiness) (creator : Uuid) (available : Bool)
    (runtime : Runtime) : LifecycleReadiness × Runtime :=
  if !available then failed runtime
  else match self.checking with
    | some checking => publishIfComplete ⟨some (checking.remove creator)⟩ runtime
    | none => (self, runtime)

end LifecycleReadiness

structure LifecycleLoop where
  tasks : CreatorTasks
  turns : IntakeTurns
  pending : SortedSet Uuid
  knownCreators : List Uuid
  readiness : LifecycleReadiness
  runtime : Runtime

def LifecycleLoop.new (limit : Nat) : LifecycleLoop where
  tasks := .new limit
  turns := .default
  pending := .empty
  knownCreators := []
  readiness := ⟨none⟩
  runtime := ⟨[]⟩

/-- What the `select!` of the loop takes. -/
inductive LifecycleTaken where
  /-- `join_next` returns this Creator's pass; it is not `available` if it panicked. -/
  | completed (creator : Uuid) (available : Bool)
  /-- A tick, with the answer of `creator_ids`. -/
  | discovered (found : Except PersistenceError (List Uuid))
  /-- `wait_for_lifecycle_reconciliation` returns hints. -/
  | hinted (creators : List Uuid)

inductive LifecycleEvent where
  /-- A turn of the loop; `admitted` as in `startPasses`. -/
  | turned (taken : LifecycleTaken) (admitted : Nat)
  /-- `finish_lifecycle_passes` joins a pass after the loop. -/
  | drained (creator : Uuid) (available : Bool)

namespace LifecycleLoop

/-- A joined pass frees its slot and counts for readiness. -/
def join (loop : LifecycleLoop) (creator : Uuid) (available : Bool) :
    Except Unit LifecycleLoop := do
  let tasks ← demand () (loop.tasks.joinNext creator)
  let (readiness, runtime) := loop.readiness.completed creator available loop.runtime
  .ok { loop with tasks, readiness, runtime }

/-- The branch of the `select!` that was taken. -/
def take (loop : LifecycleLoop) : LifecycleTaken → Except Unit LifecycleLoop
  | .completed creator available => loop.join creator available
  | .discovered (.ok creators) =>
    let (readiness, runtime) := loop.readiness.fullPass creators loop.runtime
    .ok { loop with
      readiness, runtime
      pending := loop.pending.extend creators
      knownCreators := creators }
  | .discovered (.error _) =>
    let (readiness, runtime) := LifecycleReadiness.failed loop.runtime
    .ok { loop with readiness, runtime }
  | .hinted creators => .ok { loop with pending := loop.pending.extend creators }

/-- The Creators a round puts in order: the queued, the running and the last discovered. -/
def ordering (loop : LifecycleLoop) : SortedSet Uuid :=
  (loop.pending.union (.ofList loop.tasks.active)).extend loop.knownCreators

/-- `start_lifecycle_passes`, returned with the Creators started. -/
def startLifecyclePasses (loop : LifecycleLoop) (admitted : Nat) : LifecycleLoop × List Uuid :=
  let running := SortedSet.ofList loop.tasks.active
  let (turns, ordered) := loop.turns.order loop.ordering.elements
  let (slots, started) := startPasses
    (fun pending creator => creator ∉ running && creator ∈ pending) SortedSet.remove admitted
    ordered ⟨loop.tasks, turns, loop.pending⟩
  ({ loop with tasks := slots.tasks, turns := slots.turns, pending := slots.queue }, started)

/-- The state in which the round of an event starts. -/
def round (loop : LifecycleLoop) : LifecycleEvent → Option LifecycleLoop
  | .turned taken _ => (loop.take taken).toOption
  | .drained _ _ => none

/-- The Creators whose passes an event starts, in order. -/
def starts (loop : LifecycleLoop) : LifecycleEvent → List Uuid
  | .turned taken admitted =>
    match loop.take taken with
    | .ok loop => (loop.startLifecyclePasses admitted).2
    | .error _ => []
  | .drained _ _ => []

end LifecycleLoop

def lifecycleTurn (loop : LifecycleLoop) : LifecycleEvent → Except Unit LifecycleLoop
  | .turned taken admitted => do
    let loop ← loop.take taken
    .ok (loop.startLifecyclePasses admitted).1
  | .drained creator available => loop.join creator available

def lifecycles : System LifecycleLoop LifecycleEvent Unit LifecycleEvent := .ofEvents lifecycleTurn

section Rounds

variable {loop loop' : LifecycleLoop} {creator : Uuid} {available : Bool} {admitted : Nat}
  {event : LifecycleEvent} {taken : LifecycleTaken}

@[simp] theorem mem_ordering :
    creator ∈ loop.ordering ↔
      (creator ∈ loop.pending ∨ creator ∈ loop.tasks.active) ∨ creator ∈ loop.knownCreators := by
  simp [LifecycleLoop.ordering]

theorem mem_pending_of_round :
    creator ∈ (loop.startLifecyclePasses admitted).1.pending ↔
      creator ∈ loop.pending ∧ creator ∉ (loop.startLifecyclePasses admitted).2 := by
  refine startPasses_rule
    (s := ⟨loop.tasks, loop.turns.retain loop.ordering.elements, loop.pending⟩)
    (fun past slots => ∀ creator, creator ∈ slots.queue ↔ creator ∈ loop.pending ∧ creator ∉ past)
    ?_ (by simp) creator
  intro past slots started tasks holds _ _ _ creator
  simp only [SortedSet.mem_remove, holds, List.mem_append, List.mem_singleton, not_or]
  tauto

theorem round_active :
    (loop.startLifecyclePasses admitted).1.tasks.active =
      loop.tasks.active ++ (loop.startLifecyclePasses admitted).2 :=
  startPasses_started.active

theorem round_limit :
    (loop.startLifecyclePasses admitted).1.tasks.limit = loop.tasks.limit :=
  startPasses_started.limit

/-- What a joined pass leaves: its slot is free, and the queue and the turns are as before. -/
theorem join_eq_ok (joined : loop.join creator available = .ok loop') :
    ∃ tasks, loop.tasks.joinNext creator = some tasks ∧
      loop' = { loop with
        tasks := tasks
        readiness := (loop.readiness.completed creator available loop.runtime).1
        runtime := (loop.readiness.completed creator available loop.runtime).2 } := by
  obtain ⟨tasks, found, done⟩ := bind_eq_ok.mp joined
  cases done
  exact ⟨tasks, demand_eq_ok.mp found, rfl⟩

/-- What any branch of the `select!` leaves of the queue, the slots and the turns. -/
structure TookIn (loop loop' : LifecycleLoop) : Prop where
  turns : loop'.turns = loop.turns
  limit : loop'.tasks.limit = loop.tasks.limit
  pending : ∀ creator ∈ loop.pending, creator ∈ loop'.pending

theorem join_tookIn (joined : loop.join creator available = .ok loop') : TookIn loop loop' := by
  obtain ⟨tasks, found, rfl⟩ := join_eq_ok joined
  exact ⟨rfl, (CreatorTasks.joinNext_eq_some found).2.2, fun _ member => member⟩

theorem take_tookIn (took : loop.take taken = .ok loop') : TookIn loop loop' := by
  cases taken with
  | completed creator available => exact join_tookIn took
  | discovered found =>
    cases found with
    | error e =>
      cases took
      exact ⟨rfl, rfl, fun _ member => member⟩
    | ok creators =>
      cases took
      exact ⟨rfl, rfl, fun _ member => SortedSet.mem_extend.mpr (.inl member)⟩
  | hinted creators =>
    cases took
    exact ⟨rfl, rfl, fun _ member => SortedSet.mem_extend.mpr (.inl member)⟩

/-- What an event can be: a turn, with the state its round starts from, or a drained pass. -/
theorem lifecycleTurn_cases (turned : lifecycleTurn loop event = .ok loop') :
    (∃ taken admitted mid, event = .turned taken admitted ∧ loop.take taken = .ok mid ∧
      loop' = (mid.startLifecyclePasses admitted).1 ∧
      loop.starts event = (mid.startLifecyclePasses admitted).2) ∨
    ∃ creator available, event = .drained creator available ∧
      loop.join creator available = .ok loop' ∧ loop.starts event = [] := by
  cases event with
  | turned taken admitted =>
    obtain ⟨mid, took, done⟩ := bind_eq_ok.mp turned
    cases done
    refine .inl ⟨taken, admitted, mid, rfl, took, rfl, ?_⟩
    simp only [LifecycleLoop.starts, took]
  | drained creator available => exact .inr ⟨creator, available, rfl, turned, rfl⟩

theorem lifecycleTurn_limit (turned : lifecycleTurn loop event = .ok loop') :
    loop'.tasks.limit = loop.tasks.limit := by
  obtain ⟨_, _, mid, -, took, rfl, -⟩ | ⟨_, _, -, joined, -⟩ := lifecycleTurn_cases turned
  · rw [round_limit, (take_tookIn took).limit]
  · exact (join_tookIn joined).limit

theorem lifecycleTurn_pending (turned : lifecycleTurn loop event = .ok loop')
    (queued : creator ∈ loop.pending) :
    creator ∈ loop'.pending ∨ creator ∈ loop.starts event := by
  obtain ⟨_, _, mid, -, took, rfl, started⟩ | ⟨_, _, -, joined, -⟩ := lifecycleTurn_cases turned
  · by_cases starts : creator ∈ loop.starts event
    · exact .inr starts
    · rw [started] at starts
      exact .inl (mem_pending_of_round.mpr ⟨(take_tookIn took).pending creator queued, starts⟩)
  · exact .inl ((join_tookIn joined).pending creator queued)

/-- A round forgets no turn: each Creator that has one is queued, running or in the last
discovery. -/
def KeepsTurns (loop : LifecycleLoop) : Prop :=
  ∀ creator, loop.turns.lastStarted creator ≠ none → creator ∈ loop.ordering

/-- The Creator is queued and has no pass. -/
def Waits (creator : Uuid) (loop : LifecycleLoop) : Prop :=
  creator ∈ loop.pending ∧ creator ∉ loop.tasks.tasks

instance : Decidable (Waits creator loop) := inferInstanceAs (Decidable (_ ∧ _))

theorem lifecycleTurn_bypassed {c d : Uuid} {starts : List Uuid}
    (past : Bypassed c d starts loop.turns) (waits : ∀ mid ∈ loop.round event, Waits c mid)
    (keeps : ∀ mid ∈ loop.round event, KeepsTurns mid)
    (turned : lifecycleTurn loop event = .ok loop') :
    Bypassed c d (starts ++ loop.starts event) loop'.turns := by
  obtain ⟨taken, admitted, mid, rfl, took, rfl, started⟩ | ⟨_, _, -, joined, started⟩ :=
    lifecycleTurn_cases turned
  · have here : mid ∈ loop.round (.turned taken admitted) := by
      simp [LifecycleLoop.round, took, Except.toOption]
    obtain ⟨queued, idle⟩ := waits mid here
    have resting : c ∉ mid.tasks.active := mid.tasks.owned ▸ idle
    rw [← (take_tookIn took).turns] at past
    rw [started]
    refine past.round (mem_ordering.mpr (.inl (.inl queued))) ?_ resting ?_ ?_
    · intro bypassed waiting
      refine keeps mid here d ?_
      have behind := past.behind waiting bypassed
      intro none
      simp [IntakeTurns.rank, none] at behind
    · simp [resting, queued]
    · intro pending creator ne want
      simp only [Bool.and_eq_true, decide_eq_true_eq, SortedSet.mem_remove] at want ⊢
      exact ⟨want.1, want.2, Ne.symm ne⟩
  · rw [started, List.append_nil, (join_tookIn joined).turns]
    exact past

end Rounds

def lifecycleStarts (stretch : List (Transition LifecycleLoop LifecycleEvent)) : List Uuid :=
  stretch.flatMap fun turn => turn.before.starts turn.action

theorem run_pending {loop : LifecycleLoop} {creator : Uuid} (queued : creator ∈ loop.pending)
    (events : List LifecycleEvent) :
    creator ∈ (lifecycles.run loop events).pending ∨
      creator ∈ lifecycleStarts (lifecycles.history loop events) := by
  refine System.history_rule
    (fun history loop => creator ∈ loop.pending ∨ creator ∈ lifecycleStarts history) ?_
    (.inl queued)
  intro history loop event loop' kept turned
  have extended : lifecycleStarts (history ++ [⟨loop, event, loop'⟩]) =
      lifecycleStarts history ++ loop.starts event := by
    simp [lifecycleStarts]
  rw [extended, List.mem_append]
  rcases kept with queued | started
  · rcases lifecycleTurn_pending turned queued with queued | started
    · exact .inl queued
    · exact .inr (.inr started)
  · exact .inr (.inl started)

theorem hint_pending {loop : LifecycleLoop} {creator : Uuid} {creators : List Uuid}
    (admitted : Nat) (events : List LifecycleEvent) (hinted : creator ∈ creators) :
    creator ∈ (lifecycles.run loop (.turned (.hinted creators) admitted :: events)).pending ∨
      creator ∈ lifecycleStarts
        (lifecycles.history loop (.turned (.hinted creators) admitted :: events)) := by
  let hint : LifecycleEvent := .turned (.hinted creators) admitted
  let mid : LifecycleLoop := { loop with pending := loop.pending.extend creators }
  have turned : lifecycleTurn loop hint = .ok (mid.startLifecyclePasses admitted).1 := rfl
  have starts : lifecycleStarts (lifecycles.history loop (hint :: events)) =
      loop.starts hint ++ lifecycleStarts
        (lifecycles.history (mid.startLifecyclePasses admitted).1 events) := by
    rw [lifecycles, System.ofEvents_history turned]
    simp [lifecycleStarts]
  have run : lifecycles.run loop (hint :: events) =
      lifecycles.run (mid.startLifecyclePasses admitted).1 events := by
    rw [lifecycles, System.run_cons, System.ofEvents_commit turned]
  change creator ∈ (lifecycles.run loop (hint :: events)).pending ∨
    creator ∈ lifecycleStarts (lifecycles.history loop (hint :: events))
  rw [starts, run, List.mem_append]
  by_cases started : creator ∈ (mid.startLifecyclePasses admitted).2
  · exact .inr (.inl started)
  · have queued : creator ∈ (mid.startLifecyclePasses admitted).1.pending :=
      mem_pending_of_round.mpr ⟨SortedSet.mem_extend.mpr (.inr hinted), started⟩
    rcases run_pending queued events with queued | started
    · exact .inl queued
    · exact .inr (.inr started)

/-- In every run no Creator has two passes, no more passes run than there are slots, and a
hint for a Creator whose pass is running stays queued until a further pass of it starts.
While a Creator waits, and no round forgets a turn, no other is started twice before it. -/
theorem lifecycle_fair_when_turns_kept (limit : Nat) (events : List LifecycleEvent) :
    ((lifecycles.run (.new limit) events).tasks.tasks.Nodup ∧
      (lifecycles.run (.new limit) events).tasks.tasks.length ≤ limit) ∧
    (∀ before creators admitted after creator,
      events = before ++ .turned (.hinted creators) admitted :: after → creator ∈ creators →
      creator ∈ (lifecycles.run (.new limit) before).tasks.tasks →
      creator ∈ (lifecycles.run (.new limit) events).pending ∨
        creator ∈ lifecycleStarts (lifecycles.history (lifecycles.run (.new limit) before)
          (.turned (.hinted creators) admitted :: after))) ∧
    ∀ earlier stretch later c d,
      lifecycles.history (.new limit) events = earlier ++ stretch ++ later →
      (∀ turn ∈ stretch, ∀ mid ∈ turn.before.round turn.action, Waits c mid) →
      (∀ turn ∈ stretch, ∀ mid ∈ turn.before.round turn.action, KeepsTurns mid) →
      ((lifecycleStarts stretch).takeWhile (· ≠ c)).count d ≤ 1 := by
  refine ⟨⟨?_, ?_⟩, ?_, ?_⟩
  · rw [CreatorTasks.owned]
    exact CreatorTasks.distinct _
  · have same : (lifecycles.run (.new limit) events).tasks.limit = limit := by
      refine System.run_invariant (P := fun loop : LifecycleLoop => loop.tasks.limit = limit) ?_ rfl
      intro loop event loop' same turned
      rw [lifecycleTurn_limit turned, same]
    rw [CreatorTasks.owned]
    exact (CreatorTasks.bounded _).trans (Nat.le_of_eq same)
  · rintro before creators admitted after creator rfl hinted -
    rw [System.run_append]
    exact hint_pending admitted after hinted
  · intro earlier stretch later c d split waits keeps
    suffices bypassed : ∃ loop : LifecycleLoop, Bypassed c d (lifecycleStarts stretch) loop.turns from
      bypassed.choose_spec.once
    refine System.segment_rule (P := fun _ => True)
      (H := fun turn => (∀ mid ∈ turn.before.round turn.action, Waits c mid) ∧
        ∀ mid ∈ turn.before.round turn.action, KeepsTurns mid)
      (fun stretch loop => Bypassed c d (lifecycleStarts stretch) loop.turns)
      (fun _ _ _ _ _ => trivial) (fun _ _ => .empty) ?_ trivial split
      (fun turn member => ⟨waits turn member, keeps turn member⟩)
    intro stretch loop event loop' _ past meets turned
    have next := lifecycleTurn_bypassed past meets.1 meets.2 turned
    simpa [lifecycleStarts] using next

namespace Sample

/-- The first discovery lists nobody, and the only slot goes to `1`. The hints for all three
come during its pass. -/
def queueing : List LifecycleEvent :=
  [.turned (.discovered (.ok [])) 9, .turned (.hinted [1]) 9, .turned (.hinted [1, 2, 3]) 9]

/-- While `1` waits: `2` starts, ends and is forgotten; a hint for it during the pass of
`3` puts it before `1` again. -/
def jumping : List LifecycleEvent :=
  [.turned (.completed 1 true) 9, .turned (.completed 2 true) 9, .turned (.hinted [2]) 9,
    .turned (.completed 3 true) 9]

end Sample

/-- A Creator that no discovery has listed is started twice while another waits. -/
theorem lifecycle_hint_jumps_the_queue :
    lifecycles.history (.new 1) (Sample.queueing ++ Sample.jumping) =
      lifecycles.history (.new 1) Sample.queueing ++
        lifecycles.history (lifecycles.run (.new 1) Sample.queueing) Sample.jumping ∧
    (∀ turn ∈ lifecycles.history (lifecycles.run (.new 1) Sample.queueing) Sample.jumping,
      ∀ mid ∈ turn.before.round turn.action, Waits 1 mid) ∧
    ((lifecycleStarts (lifecycles.history (lifecycles.run (.new 1) Sample.queueing)
      Sample.jumping)).takeWhile (· ≠ 1)).count 2 = 2 := by
  refine ⟨System.history_append, ?_, ?_⟩
  · decide +kernel
  · decide +kernel

end PaykitServer.Workers
