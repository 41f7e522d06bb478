import Mathlib.Data.List.Basic

/-!
# Single-permit notification

`notify_one` wakes the waiter that came first, or stores one permit for the next
to come when nobody waits. A waiter that was woken and is dropped before it ran
on passes its permit on, so no notification is lost with it.
-/

namespace Concurrency

variable {ω : Type} [DecidableEq ω]

structure Notify (ω : Type) where
  permit : Bool
  /-- The waiters without a permit, in the order they came. -/
  waiting : List ω
  /-- The waiters that were given a permit and have not run on. -/
  woken : List ω

namespace Notify

def new : Notify ω := ⟨false, [], []⟩

def notifyOne (self : Notify ω) : Notify ω :=
  match self.waiting with
  | waiter :: rest => { self with waiting := rest, woken := self.woken ++ [waiter] }
  | [] => { self with permit := true }

/-- The first poll of a waiter: it runs on with a stored permit, and queues without. -/
def poll (self : Notify ω) (waiter : ω) : Notify ω × Bool :=
  if self.permit then ({ self with permit := false }, true)
  else ({ self with waiting := self.waiting ++ [waiter] }, false)

def resume (self : Notify ω) (waiter : ω) : Notify ω :=
  { self with woken := self.woken.erase waiter }

/-- A waiter is dropped; a permit it was given is passed on. -/
def cancel (self : Notify ω) (waiter : ω) : Notify ω :=
  if waiter ∈ self.woken then (self.resume waiter).notifyOne
  else { self with waiting := self.waiting.erase waiter }

def Signalled (self : Notify ω) : Prop := self.permit = true ∨ self.woken ≠ []

omit [DecidableEq ω] in
theorem signalled_notifyOne (self : Notify ω) : self.notifyOne.Signalled := by
  rw [notifyOne]
  split
  · exact .inr (by simp)
  · exact .inl rfl

omit [DecidableEq ω] in
theorem signalled_poll {self : Notify ω} (signalled : self.Signalled) (waiter : ω) :
    (self.poll waiter).2 = true ∨ (self.poll waiter).1.Signalled := by
  rw [poll]
  split
  · exact .inl rfl
  · exact .inr signalled

theorem signalled_cancel {self : Notify ω} (signalled : self.Signalled) (waiter : ω) :
    (self.cancel waiter).Signalled := by
  rw [cancel]
  split
  · exact signalled_notifyOne _
  · exact signalled

end Notify

end Concurrency
