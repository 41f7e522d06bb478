import PaykitServer.Relational.Transaction
import PaykitServer.Workers.CreatorTasks
import PaykitServer.Persistence.Database

/-!
# The Allowance intake loop

`allowance_intake_loop` as the sequence of what its `select!` takes: a finished
pass, or a tick that reads the ready Creators and hands out the free slots. A
pass that panics ends as any other, since `contain_panic` catches it, so passes
of any length and outcome are the joins of any order.
-/

namespace PaykitServer.Workers

open Relational Persistence

structure IntakeLoop where
  tasks : CreatorTasks
  turns : IntakeTurns

def IntakeLoop.new (limit : Nat) : IntakeLoop := ⟨.new limit, .default⟩

/-- `start_intake_passes`: the Creators whose pass was running at the start of the round
are passed over. Returned with the Creators started. -/
def startIntakePasses (loop : IntakeLoop) (creators : List Uuid) (admitted : Nat) :
    IntakeLoop × List Uuid :=
  let running := loop.tasks.active
  let (turns, ordered) := loop.turns.order creators
  let (slots, started) := startPasses (fun _ creator => creator ∉ running)
    (fun queue _ => queue) admitted ordered ⟨loop.tasks, turns, ()⟩
  (⟨slots.tasks, slots.turns⟩, started)

/-- What the loop takes next. -/
inductive IntakeEvent where
  /-- `join_next` returns the pass of this Creator. -/
  | joined (creator : Uuid)
  /-- A tick, with the answer of `ready_ids` should the round read it. -/
  | ticked (ready : Except PersistenceError (List Uuid)) (admitted : Nat)
  /-- `finish_intake_passes` cancels the passes that outlast its grace. -/
  | aborted

def IntakeLoop.round (loop : IntakeLoop) : IntakeEvent → Option (List Uuid × Nat)
  | .joined _ => none
  | .ticked ready admitted =>
    if loop.tasks.availableSlots = 0 then none
    else match ready with
      | .ok creators => some (creators, admitted)
      | .error _ => none
  | .aborted => none

def IntakeLoop.starts (loop : IntakeLoop) (event : IntakeEvent) : List Uuid :=
  match loop.round event with
  | some (creators, admitted) => (startIntakePasses loop creators admitted).2
  | none => []

def intakeTurn (loop : IntakeLoop) : IntakeEvent → Except Unit IntakeLoop
  | .joined creator => do
    let tasks ← demand () (loop.tasks.joinNext creator)
    .ok { loop with tasks }
  | .ticked ready admitted =>
    match loop.round (.ticked ready admitted) with
    | some (creators, admitted) => .ok (startIntakePasses loop creators admitted).1
    | none => .ok loop
  | .aborted => .ok { loop with tasks := loop.tasks.abortAndJoin }

def intakes : System IntakeLoop IntakeEvent Unit IntakeEvent := .ofEvents intakeTurn

section Turns

variable {loop loop' : IntakeLoop} {event : IntakeEvent}

theorem intakeTurn_cases (turned : intakeTurn loop event = .ok loop') :
    (loop.round event = none ∧ loop.starts event = [] ∧ loop'.turns = loop.turns ∧
      loop'.tasks.limit = loop.tasks.limit) ∨
    ∃ creators admitted, loop.round event = some (creators, admitted) ∧
      loop' = (startIntakePasses loop creators admitted).1 ∧
      loop.starts event = (startIntakePasses loop creators admitted).2 := by
  cases event with
  | joined creator =>
    obtain ⟨tasks, joined, turned⟩ := bind_eq_ok.mp turned
    cases turned
    have limit := (CreatorTasks.joinNext_eq_some (demand_eq_ok.mp joined)).2.2
    exact .inl ⟨rfl, rfl, rfl, limit⟩
  | ticked ready admitted =>
    rw [intakeTurn] at turned
    cases round : loop.round (.ticked ready admitted) with
    | none =>
      simp only [round] at turned
      cases turned
      exact .inl ⟨rfl, by rw [IntakeLoop.starts, round], rfl, rfl⟩
    | some read =>
      simp only [round] at turned
      cases turned
      exact .inr ⟨read.1, read.2, rfl, rfl, by rw [IntakeLoop.starts, round]⟩
  | aborted =>
    cases turned
    exact .inl ⟨rfl, rfl, rfl, rfl⟩

theorem intakeTurn_limit (turned : intakeTurn loop event = .ok loop') :
    loop'.tasks.limit = loop.tasks.limit := by
  obtain ⟨-, -, -, limit⟩ | ⟨creators, admitted, -, rfl, -⟩ := intakeTurn_cases turned
  · exact limit
  · exact startPasses_started.limit

theorem intakeTurn_bypassed {c d : Uuid} {starts : List Uuid}
    (past : Bypassed c d starts loop.turns) (idle : c ∉ loop.tasks.active)
    (ready : ∀ creators admitted, loop.round event = some (creators, admitted) →
      c ∈ creators ∧ d ∈ creators)
    (turned : intakeTurn loop event = .ok loop') :
    Bypassed c d (starts ++ loop.starts event) loop'.turns := by
  obtain ⟨-, started, turns, -⟩ | ⟨creators, admitted, round, rfl, started⟩ :=
    intakeTurn_cases turned
  · rw [started, turns, List.append_nil]
    exact past
  · obtain ⟨present, listed⟩ := ready creators admitted round
    rw [started]
    exact past.round present (fun _ _ => listed) idle (by simpa using idle)
      (fun _ _ _ want => want)

end Turns

def intakeStarts (stretch : List (Transition IntakeLoop IntakeEvent)) : List Uuid :=
  stretch.flatMap fun turn => turn.before.starts turn.action

/-- However long the passes take, whether or not they panic and whatever is listed, no
Creator has two passes and no more passes run than there are slots. While `c` and `d` are
listed in every round and `c` has no pass, `d` starts at most once before `c` does. -/
theorem intake_bypasses_once (limit : Nat) (events : List IntakeEvent) :
    ((intakes.run (.new limit) events).tasks.tasks.Nodup ∧
      (intakes.run (.new limit) events).tasks.tasks.length ≤ limit) ∧
    ∀ earlier stretch later c d,
      intakes.history (.new limit) events = earlier ++ stretch ++ later →
      (∀ turn ∈ stretch, c ∉ turn.before.tasks.tasks) →
      (∀ turn ∈ stretch, ∀ creators admitted,
        turn.before.round turn.action = some (creators, admitted) →
          c ∈ creators ∧ d ∈ creators) →
      ((intakeStarts stretch).takeWhile (· ≠ c)).count d ≤ 1 := by
  refine ⟨⟨?_, ?_⟩, ?_⟩
  · rw [CreatorTasks.owned]
    exact CreatorTasks.distinct _
  · have same : (intakes.run (.new limit) events).tasks.limit = limit := by
      refine System.run_invariant (P := fun loop : IntakeLoop => loop.tasks.limit = limit) ?_ rfl
      intro loop event loop' same turned
      rw [intakeTurn_limit turned, same]
    rw [CreatorTasks.owned]
    exact (CreatorTasks.bounded _).trans (Nat.le_of_eq same)
  · intro earlier stretch later c d split idle ready
    suffices bypassed : ∃ loop : IntakeLoop, Bypassed c d (intakeStarts stretch) loop.turns from
      bypassed.choose_spec.once
    refine System.segment_rule (P := fun _ => True)
      (H := fun turn => c ∉ turn.before.tasks.tasks ∧ ∀ creators admitted,
        turn.before.round turn.action = some (creators, admitted) → c ∈ creators ∧ d ∈ creators)
      (fun stretch loop => Bypassed c d (intakeStarts stretch) loop.turns)
      (fun _ _ _ _ _ => trivial) (fun _ _ => .empty) ?_ trivial split
      (fun turn member => ⟨idle turn member, ready turn member⟩)
    intro stretch loop event loop' _ past meets turned
    have next := intakeTurn_bypassed past (loop.tasks.owned ▸ meets.1) meets.2 turned
    simpa [intakeStarts] using next

end PaykitServer.Workers
