import PaykitServer.Workers.LifecycleLoop

/-!
# When the lifecycle rail is reported available

Readiness keeps the Creators of the enumeration it waits for. `Awaited` says what
the history tells about them: the enumeration succeeded, nothing failed since, and
each listed Creator has completed a pass since or is still waited for. Publishing
`true` empties the set, so then every one of them has completed. A Creator that is
still waited for is queued or has a pass, so the wait cannot outlive its reasons.
-/

namespace PaykitServer.Workers

open Relational Persistence Collections

namespace LifecycleEvent

/-- A failed enumeration, or a pass that panicked. -/
def Fails : LifecycleEvent → Prop
  | .turned (.completed _ available) _ => available = false
  | .turned (.discovered (.error _)) _ => True
  | .turned (.discovered (.ok _)) _ => False
  | .turned (.hinted _) _ => False
  | .drained _ available => available = false

/-- A pass of this Creator completed without a panic. -/
def Completes (creator : Uuid) : LifecycleEvent → Prop
  | .turned (.completed done available) _ => done = creator ∧ available = true
  | .turned (.discovered _) _ => False
  | .turned (.hinted _) _ => False
  | .drained done available => done = creator ∧ available = true

def tell (event : LifecycleEvent) (readiness : LifecycleReadiness) (runtime : Runtime) :
    LifecycleReadiness × Runtime :=
  match event with
  | .turned (.completed creator available) _ => readiness.completed creator available runtime
  | .turned (.discovered (.ok creators)) _ => readiness.fullPass creators runtime
  | .turned (.discovered (.error _)) _ => LifecycleReadiness.failed runtime
  | .turned (.hinted _) _ => (readiness, runtime)
  | .drained creator available => readiness.completed creator available runtime

end LifecycleEvent

open LifecycleEvent

section Steps

variable {loop loop' : LifecycleLoop} {event : LifecycleEvent} {taken : LifecycleTaken}
  {creator : Uuid} {available : Bool}

/-- Readiness changes by what an event tells it; the round after it does not touch it. -/
theorem lifecycleTurn_tell (turned : lifecycleTurn loop event = .ok loop') :
    loop'.readiness = (event.tell loop.readiness loop.runtime).1 ∧
      loop'.runtime = (event.tell loop.readiness loop.runtime).2 := by
  obtain ⟨taken, admitted, mid, rfl, took, rfl, -⟩ | ⟨creator, available, rfl, joined, -⟩ :=
    lifecycleTurn_cases turned
  · cases taken with
    | completed creator available =>
      obtain ⟨tasks, -, rfl⟩ := join_eq_ok took
      exact ⟨rfl, rfl⟩
    | discovered found =>
      cases found with
      | error e =>
        cases took
        exact ⟨rfl, rfl⟩
      | ok creators =>
        cases took
        exact ⟨rfl, rfl⟩
    | hinted creators =>
      cases took
      exact ⟨rfl, rfl⟩
  · obtain ⟨tasks, -, rfl⟩ := join_eq_ok joined
    exact ⟨rfl, rfl⟩

end Steps

section Awaited

variable {history : List (Transition LifecycleLoop LifecycleEvent)}
  {turn : Transition LifecycleLoop LifecycleEvent} {checking : SortedSet Uuid} {runtime : Runtime}

/-- The history holds a successful enumeration with no failure since, and every Creator it
listed has completed a pass since then or is still waited for. -/
def Awaited (history : List (Transition LifecycleLoop LifecycleEvent))
    (checking : SortedSet Uuid) : Prop :=
  ∃ before enumeration after listed admitted,
    history = before ++ enumeration :: after ∧
    enumeration.action = .turned (.discovered (.ok listed)) admitted ∧
    (∀ turn ∈ after, ¬ turn.action.Fails) ∧
    ∀ creator ∈ listed, creator ∈ checking ∨ ∃ turn ∈ after, turn.action.Completes creator

theorem Awaited.enumerated {listed : List Uuid} {admitted : Nat}
    (action : turn.action = .turned (.discovered (.ok listed)) admitted) :
    Awaited (history ++ [turn]) (.ofList listed) := by
  refine ⟨history, turn, [], listed, admitted, rfl, action, by simp, ?_⟩
  intro creator member
  exact .inl (SortedSet.mem_ofList.mpr member)

theorem Awaited.extend (awaited : Awaited history checking) (fine : ¬ turn.action.Fails)
    {rest : SortedSet Uuid}
    (left : ∀ creator ∈ checking, creator ∈ rest ∨ turn.action.Completes creator) :
    Awaited (history ++ [turn]) rest := by
  obtain ⟨before, enumeration, after, listed, admitted, rfl, action, clean, done⟩ := awaited
  refine ⟨before, enumeration, after ++ [turn], listed, admitted, by simp, action, ?_, ?_⟩
  · intro later member
    rcases List.mem_append.mp member with member | member
    · exact clean later member
    · rw [List.mem_singleton.mp member]
      exact fine
  · intro creator member
    rcases done creator member with waiting | ⟨completed, here, completes⟩
    · rcases left creator waiting with waiting | completes
      · exact .inl waiting
      · exact .inr ⟨turn, by simp, completes⟩
    · exact .inr ⟨completed, by simp [here], completes⟩

/-- What readiness waits for is awaited, and `true` is published only when nothing is. -/
structure Honest (history : List (Transition LifecycleLoop LifecycleEvent))
    (runtime : Runtime) (told : LifecycleReadiness × Runtime) : Prop where
  awaited : ∀ checking, told.1.checking = some checking → Awaited history checking
  published : ∀ news, told.2.published = runtime.published ++ news → true ∈ news →
    Awaited history .empty

variable {readiness : LifecycleReadiness}

theorem Honest.unchanged
    (awaited : ∀ checking, readiness.checking = some checking → Awaited history checking) :
    Honest history runtime (readiness, runtime) := by
  refine ⟨awaited, ?_⟩
  intro news published member
  rw [List.self_eq_append_right.mp published] at member
  cases member

theorem Honest.failed : Honest history runtime (LifecycleReadiness.failed runtime) := by
  refine ⟨by simp [LifecycleReadiness.failed], ?_⟩
  intro news published member
  have one : [false] = news := List.append_cancel_left published
  simp [← one] at member

theorem Honest.publishIfComplete (awaited : Awaited history checking) :
    Honest history runtime (LifecycleReadiness.publishIfComplete ⟨some checking⟩ runtime) := by
  rw [LifecycleReadiness.publishIfComplete]
  split
  · rename_i complete
    have nobody := SortedSet.isEmpty_iff.mp (show checking.isEmpty = true from complete)
    refine ⟨by simp, fun _ _ _ => ?_⟩
    obtain ⟨before, enumeration, after, listed, admitted, split, action, clean, done⟩ := awaited
    refine ⟨before, enumeration, after, listed, admitted, split, action, clean, ?_⟩
    intro creator member
    exact .inr ((done creator member).resolve_left (nobody creator))
  · refine Honest.unchanged ?_
    intro _ same
    cases same
    exact awaited

theorem Honest.completed {creator : Uuid} {available : Bool}
    (awaited : ∀ checking, readiness.checking = some checking → Awaited history checking)
    (fails : turn.action.Fails ↔ available = false)
    (completes : available = true → turn.action.Completes creator) :
    Honest (history ++ [turn]) runtime (readiness.completed creator available runtime) := by
  cases available with
  | false => exact Honest.failed
  | true =>
    have fine : ¬ turn.action.Fails := by simp [fails]
    rw [LifecycleReadiness.completed, if_neg (by simp)]
    cases found : readiness.checking with
    | none =>
      refine Honest.unchanged ?_
      simp [found]
    | some checking =>
      refine Honest.publishIfComplete ((awaited checking found).extend fine ?_)
      intro other waiting
      by_cases same : other = creator
      · exact .inr (same ▸ completes rfl)
      · exact .inl (SortedSet.mem_remove.mpr ⟨waiting, same⟩)

theorem Honest.tell
    (awaited : ∀ checking, readiness.checking = some checking → Awaited history checking) :
    Honest (history ++ [turn]) runtime (turn.action.tell readiness runtime) := by
  cases taken : turn.action with
  | turned what admitted =>
    cases what with
    | completed creator available =>
      refine Honest.completed awaited ?_ ?_
      · simp [taken, Fails]
      · simp [taken, Completes]
    | discovered found =>
      cases found with
      | error e => exact Honest.failed
      | ok creators =>
        refine Honest.publishIfComplete ?_
        cases found : readiness.checking with
        | none => exact Awaited.enumerated taken
        | some checking =>
          refine (awaited checking found).extend (by simp [taken, Fails]) ?_
          exact fun _ waiting => .inl waiting
    | hinted creators =>
      refine Honest.unchanged ?_
      intro checking found
      refine (awaited checking found).extend (by simp [taken, Fails]) ?_
      exact fun _ waiting => .inl waiting
  | drained creator available =>
    refine Honest.completed awaited ?_ ?_
    · simp [taken, Fails]
    · simp [taken, Completes]

end Awaited

section Attended

variable {loop loop' : LifecycleLoop} {event : LifecycleEvent} {taken : LifecycleTaken}
  {creator : Uuid} {available : Bool}

/-- Every Creator that is waited for is queued or has a pass. -/
def Attended (loop : LifecycleLoop) : Prop :=
  ∀ checking, loop.readiness.checking = some checking → ∀ creator ∈ checking,
    creator ∈ loop.pending ∨ creator ∈ loop.tasks.active

variable {readiness : LifecycleReadiness}

theorem publishIfComplete_checking {runtime : Runtime} {checking : SortedSet Uuid}
    (found : (readiness.publishIfComplete runtime).1.checking = some checking) :
    readiness.checking = some checking := by
  rw [LifecycleReadiness.publishIfComplete] at found
  split at found
  · cases found
  · exact found

theorem completed_checking {runtime : Runtime} {checking : SortedSet Uuid}
    (found : (readiness.completed creator available runtime).1.checking = some checking) :
    ∃ earlier, readiness.checking = some earlier ∧ checking = earlier.remove creator := by
  rw [LifecycleReadiness.completed] at found
  split at found
  · cases found
  · cases earlier : readiness.checking with
    | none =>
      simp only [earlier] at found
      cases found
    | some set =>
      simp only [earlier] at found
      have same := publishIfComplete_checking found
      cases same
      exact ⟨set, rfl, rfl⟩

theorem join_attended (attended : Attended loop)
    (joined : loop.join creator available = .ok loop') : Attended loop' := by
  obtain ⟨tasks, freed, rfl⟩ := join_eq_ok joined
  intro checking found other waiting
  obtain ⟨earlier, before, rfl⟩ := completed_checking found
  obtain ⟨member, ne⟩ := SortedSet.mem_remove.mp waiting
  rcases attended earlier before other member with queued | active
  · exact .inl queued
  · exact .inr ((CreatorTasks.mem_of_joinNext freed).mpr ⟨ne, active⟩)

theorem take_attended (attended : Attended loop) (took : loop.take taken = .ok loop') :
    Attended loop' := by
  cases taken with
  | completed creator available => exact join_attended attended took
  | discovered found =>
    cases found with
    | error e =>
      cases took
      intro checking none
      cases none
    | ok creators =>
      cases took
      intro checking found creator waiting
      have set := publishIfComplete_checking found
      cases earlier : loop.readiness.checking with
      | none =>
        rw [earlier] at set
        cases set
        exact .inl (SortedSet.mem_extend.mpr (.inr (SortedSet.mem_ofList.mp waiting)))
      | some before =>
        rw [earlier] at set
        cases set
        rcases attended before earlier creator waiting with queued | active
        · exact .inl (SortedSet.mem_extend.mpr (.inl queued))
        · exact .inr active
  | hinted creators =>
    cases took
    intro checking found creator waiting
    rcases attended checking found creator waiting with queued | active
    · exact .inl (SortedSet.mem_extend.mpr (.inl queued))
    · exact .inr active

theorem round_attended (attended : Attended loop) (admitted : Nat) :
    Attended (loop.startLifecyclePasses admitted).1 := by
  intro checking found creator waiting
  rw [round_active, mem_pending_of_round, List.mem_append]
  rcases attended checking found creator waiting with queued | active
  · by_cases started : creator ∈ (loop.startLifecyclePasses admitted).2
    · exact .inr (.inr started)
    · exact .inl ⟨queued, started⟩
  · exact .inr (.inl active)

theorem lifecycleTurn_attended (attended : Attended loop)
    (turned : lifecycleTurn loop event = .ok loop') : Attended loop' := by
  obtain ⟨taken, admitted, mid, -, took, rfl, -⟩ | ⟨_, _, -, joined, -⟩ :=
    lifecycleTurn_cases turned
  · exact round_attended (take_attended attended took) admitted
  · exact join_attended attended joined

end Attended

/-- In every run `true` is published only after an enumeration that succeeded with no failed
enumeration and no panicked pass since, every Creator of which has completed a pass since;
and at all times every Creator still waited for is queued or has a running pass. -/
theorem lifecycle_available_honest (limit : Nat) (events : List LifecycleEvent) :
    (∀ earlier turn later news,
      lifecycles.history (.new limit) events = earlier ++ turn :: later →
      turn.after.runtime.published = turn.before.runtime.published ++ news → true ∈ news →
      ∃ before enumeration after listed admitted,
        earlier ++ [turn] = before ++ enumeration :: after ∧
        enumeration.action = .turned (.discovered (.ok listed)) admitted ∧
        (∀ turn ∈ after, ¬ turn.action.Fails) ∧
        ∀ creator ∈ listed, ∃ turn ∈ after, turn.action.Completes creator) ∧
    ∀ checking, (lifecycles.run (.new limit) events).readiness.checking = some checking →
      ∀ creator ∈ checking, creator ∈ (lifecycles.run (.new limit) events).pending ∨
        creator ∈ (lifecycles.run (.new limit) events).tasks.tasks := by
  refine ⟨?_, ?_⟩
  · intro earlier turn later news split published member
    have emptied : Awaited (earlier ++ [turn]) .empty := by
      refine System.history_split_rule
        (fun history (loop : LifecycleLoop) =>
          ∀ checking, loop.readiness.checking = some checking → Awaited history checking)
        (fun history turn => ∀ news,
          turn.after.runtime.published = turn.before.runtime.published ++ news → true ∈ news →
            Awaited (history ++ [turn]) .empty)
        ?_ (by simp [LifecycleLoop.new]) split news published member
      intro history loop event loop' awaited turned
      obtain ⟨readiness, runtime⟩ := lifecycleTurn_tell turned
      have honest : Honest (history ++ [⟨loop, event, loop'⟩]) loop.runtime
          (event.tell loop.readiness loop.runtime) := Honest.tell awaited
      refine ⟨?_, ?_⟩
      · rw [readiness]
        exact honest.awaited
      · rw [runtime]
        exact honest.published
    obtain ⟨before, enumeration, after, listed, admitted, split, action, clean, done⟩ := emptied
    refine ⟨before, enumeration, after, listed, admitted, split, action, clean, ?_⟩
    intro creator member
    exact (done creator member).resolve_left SortedSet.not_mem_empty
  · rw [CreatorTasks.owned]
    refine System.run_invariant (P := Attended) ?_ ?_
    · exact fun _ _ _ attended turned => lifecycleTurn_attended attended turned
    · intro checking found
      cases found

end PaykitServer.Workers
