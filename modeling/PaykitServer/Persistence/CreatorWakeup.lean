import PaykitServer.Collections.SortedSet
import PaykitServer.Concurrency.Notify
import PaykitServer.Domain.Payment
import PaykitServer.Relational.Transaction

/-!
# Coalesced Creator hints

`CreatorWakeup` collects the notified Creators in a set and wakes one waiter. A
`notify` first inserts its Creator and then notifies; a `wait` first awaits the
notification and then takes the whole set. Both are two steps between which any
other call may run, and a `wait` may be dropped while it awaits, which the
`select!` of its workers does whenever another branch is taken.

No Creator is lost: it leaves the set only in a completed `wait`. No wake-up is
lost either: while the set is non-empty, some call is still on its way to the
notification or to the set, or the notification is pending.
-/

namespace PaykitServer.Persistence

open Relational Collections Concurrency

/-- `CreatorWakeup` with the calls that are inside it; `wait` calls are numbered. -/
structure CreatorWakeup where
  creators : SortedSet Uuid
  notified : Notify Nat
  /-- The `notify` calls that have inserted their Creator and not notified yet. -/
  notifying : List Uuid
  /-- The `wait` calls that are past their wake-up and have not taken the set yet. -/
  taking : List Nat

def CreatorWakeup.new : CreatorWakeup := ⟨.empty, .new, [], []⟩

inductive WakeupEvent where
  /-- The first step of `notify`. -/
  | inserted (creator : Uuid)
  /-- Its second step, `notify_one`. -/
  | signalled (creator : Uuid)
  /-- A `wait` call is polled for the first time. -/
  | awaited (call : Nat)
  /-- A woken `wait` call runs on. -/
  | resumed (call : Nat)
  /-- The second step of `wait`: it takes the set and returns it. -/
  | took (call : Nat)
  /-- A `wait` call that awaits the notification is dropped. -/
  | cancelled (call : Nat)

namespace CreatorWakeup

/-- The call is inside `wait`. -/
def inWait (self : CreatorWakeup) (call : Nat) : Prop :=
  call ∈ self.notified.waiting ∨ call ∈ self.notified.woken ∨ call ∈ self.taking

instance (self : CreatorWakeup) (call : Nat) : Decidable (self.inWait call) :=
  inferInstanceAs (Decidable (_ ∨ _))

/-- The Creators an event returns from `wait`. -/
def returned (self : CreatorWakeup) : WakeupEvent → List Uuid
  | .took _ => self.creators.elements
  | _ => []

def step (self : CreatorWakeup) : WakeupEvent → Except Unit CreatorWakeup
  | .inserted creator =>
    .ok { self with
      creators := self.creators.extend [creator]
      notifying := self.notifying ++ [creator] }
  | .signalled creator => do
    ensure (creator ∈ self.notifying) ()
    .ok { self with
      notifying := self.notifying.erase creator
      notified := self.notified.notifyOne }
  | .awaited call => do
    ensure (¬ self.inWait call) ()
    let (notified, ready) := self.notified.poll call
    .ok { self with notified, taking := if ready then self.taking ++ [call] else self.taking }
  | .resumed call => do
    ensure (call ∈ self.notified.woken) ()
    .ok { self with notified := self.notified.resume call, taking := self.taking ++ [call] }
  | .took call => do
    ensure (call ∈ self.taking) ()
    .ok { self with creators := .empty, taking := self.taking.erase call }
  | .cancelled call => do
    ensure (call ∈ self.notified.waiting ∨ call ∈ self.notified.woken) ()
    .ok { self with notified := self.notified.cancel call }

end CreatorWakeup

def wakeups : System CreatorWakeup WakeupEvent Unit WakeupEvent := .ofEvents CreatorWakeup.step

section Steps

variable {wakeup wakeup' : CreatorWakeup} {event : WakeupEvent} {creator : Uuid}

/-- A Creator leaves the set only as part of what a `wait` returns. -/
theorem step_creators (stepped : wakeup.step event = .ok wakeup')
    (member : creator ∈ wakeup.creators) :
    creator ∈ wakeup'.creators ∨ creator ∈ wakeup.returned event := by
  cases event with
  | inserted other =>
    cases stepped
    exact .inl (SortedSet.mem_extend.mpr (.inl member))
  | signalled other =>
    obtain ⟨_, -, stepped⟩ := bind_eq_ok.mp stepped
    cases stepped
    exact .inl member
  | awaited call =>
    obtain ⟨_, -, stepped⟩ := bind_eq_ok.mp stepped
    cases stepped
    exact .inl member
  | resumed call =>
    obtain ⟨_, -, stepped⟩ := bind_eq_ok.mp stepped
    cases stepped
    exact .inl member
  | took call => exact .inr member
  | cancelled call =>
    obtain ⟨_, -, stepped⟩ := bind_eq_ok.mp stepped
    cases stepped
    exact .inl member

/-- A non-empty set has somebody coming for it: a call on its way, or a notification. -/
def Attended (wakeup : CreatorWakeup) : Prop :=
  wakeup.creators.isEmpty = false →
    wakeup.notifying ≠ [] ∨ wakeup.taking ≠ [] ∨ wakeup.notified.Signalled

theorem step_attended (attended : Attended wakeup) (stepped : wakeup.step event = .ok wakeup') :
    Attended wakeup' := by
  cases event with
  | inserted other =>
    cases stepped
    exact fun _ => .inl (by simp)
  | signalled other =>
    obtain ⟨_, -, stepped⟩ := bind_eq_ok.mp stepped
    cases stepped
    exact fun _ => .inr (.inr (Notify.signalled_notifyOne _))
  | awaited call =>
    obtain ⟨_, -, stepped⟩ := bind_eq_ok.mp stepped
    cases stepped
    intro nonempty
    rcases attended nonempty with notifying | taking | signalled
    · exact .inl notifying
    · refine .inr (.inl ?_)
      show (if (wakeup.notified.poll call).2 then wakeup.taking ++ [call] else wakeup.taking) ≠ []
      split
      · simp
      · exact taking
    · rcases Notify.signalled_poll signalled call with ready | signalled
      · refine .inr (.inl ?_)
        show (if (wakeup.notified.poll call).2 then wakeup.taking ++ [call]
          else wakeup.taking) ≠ []
        rw [if_pos ready]
        simp
      · exact .inr (.inr signalled)
  | resumed call =>
    obtain ⟨_, -, stepped⟩ := bind_eq_ok.mp stepped
    cases stepped
    exact fun _ => .inr (.inl (by simp))
  | took call =>
    obtain ⟨_, -, stepped⟩ := bind_eq_ok.mp stepped
    cases stepped
    intro nonempty
    cases nonempty
  | cancelled call =>
    obtain ⟨_, -, stepped⟩ := bind_eq_ok.mp stepped
    cases stepped
    intro nonempty
    rcases attended nonempty with notifying | taking | signalled
    · exact .inl notifying
    · exact .inr (.inl taking)
    · exact .inr (.inr (Notify.signalled_cancel signalled call))

end Steps

/-- What `wait` calls returned over a stretch of events. -/
def returnedIn (stretch : List (Transition CreatorWakeup WakeupEvent)) : List Uuid :=
  stretch.flatMap fun turn => turn.before.returned turn.action

/-- A Creator in the set stays there until a completed `wait` returns it. -/
theorem run_creators {wakeup : CreatorWakeup} {creator : Uuid}
    (member : creator ∈ wakeup.creators) (events : List WakeupEvent) :
    creator ∈ (wakeups.run wakeup events).creators ∨
      creator ∈ returnedIn (wakeups.history wakeup events) := by
  refine System.history_rule
    (fun history wakeup => creator ∈ wakeup.creators ∨ creator ∈ returnedIn history) ?_
    (.inl member)
  intro history wakeup event wakeup' kept stepped
  have extended : returnedIn (history ++ [⟨wakeup, event, wakeup'⟩]) =
      returnedIn history ++ wakeup.returned event := by
    simp [returnedIn]
  rw [extended, List.mem_append]
  rcases kept with member | returned
  · rcases step_creators stepped member with member | returned
    · exact .inl member
    · exact .inr (.inr returned)
  · exact .inr (.inl returned)

/-- Over every interleaving of `notify` calls with completed and dropped `wait` calls, a
notified Creator is in the set until a completed `wait` has returned it, and while the set is
non-empty, no `notify` is between its steps and no `wait` is past its wake-up, a permit is
stored or a waiter has been woken. -/
theorem wakeup_loses_nothing (events : List WakeupEvent) :
    (∀ before creator after, events = before ++ .inserted creator :: after →
      creator ∈ (wakeups.run .new events).creators ∨
        creator ∈ returnedIn (wakeups.history (wakeups.run .new before)
          (.inserted creator :: after))) ∧
    ((wakeups.run .new events).creators.isEmpty = false →
      (wakeups.run .new events).notifying = [] → (wakeups.run .new events).taking = [] →
      (wakeups.run .new events).notified.permit = true ∨
        (wakeups.run .new events).notified.woken ≠ []) := by
  refine ⟨?_, ?_⟩
  · rintro before creator after rfl
    rw [System.run_append]
    generalize wakeups.run .new before = wakeup
    let inserted : CreatorWakeup := { wakeup with
      creators := wakeup.creators.extend [creator]
      notifying := wakeup.notifying ++ [creator] }
    have stepped : wakeup.step (.inserted creator) = .ok inserted := rfl
    have member : creator ∈ inserted.creators := SortedSet.mem_extend.mpr (.inr (by simp))
    rw [wakeups, System.run_cons, System.ofEvents_commit stepped, System.ofEvents_history stepped]
    exact run_creators member after
  · intro nonempty steady none
    have attended : Attended (wakeups.run .new events) :=
      System.run_invariant (P := Attended) (fun _ _ _ => step_attended) (by
        intro nonempty
        cases nonempty)
    rcases attended nonempty with notifying | taking | signalled
    · exact absurd steady notifying
    · exact absurd none taking
    · exact signalled

end PaykitServer.Persistence
