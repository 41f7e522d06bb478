import PaykitServer.Domain.Payment
import Mathlib.Data.List.Sort

/-!
# Bounded Creator tasks and the order of their turns

`CreatorTasks` owns at most one task per Creator and at most a fixed number of
them; `IntakeTurns` puts the Creators that may run in the order of their last
start. The lifecycle worker and the Allowance intake both hand their free slots
out with one loop over that order, `startPasses`.

The main fact about one round of it is `startPasses_bypass`: what is started
before a Creator that could have started comes before it in the order. A Creator
started since then is behind (`order_bypass`), so no round can start it again
first; `Bypassed.round` carries this from round to round.
-/

namespace PaykitServer.Workers

/-- `CreatorTasks`: the owned tasks, named by their Creators, and the Creators that hold
a slot. A task is owned, and its pass is running, until `join_next` has returned it. -/
structure CreatorTasks where
  tasks : List Uuid
  active : List Uuid
  limit : Nat
  /-- Every slot is held by the Creator of an owned task. -/
  owned : tasks = active
  distinct : active.Nodup
  bounded : active.length ≤ limit

namespace CreatorTasks

/-- The source asserts that the limit is nonzero; with none, no task is ever started. -/
def new (limit : Nat) : CreatorTasks where
  tasks := []
  active := []
  limit := limit
  owned := rfl
  distinct := .nil
  bounded := Nat.zero_le limit

def availableSlots (self : CreatorTasks) : Nat := self.limit - self.active.length

/-- `try_spawn`, which returns `false` where this has no value. `mayStart` is the
runtime's answer to `may_start_worker_claim`. -/
def trySpawn (self : CreatorTasks) (mayStart : Bool) (creator : Uuid) : Option CreatorTasks :=
  if open_ : mayStart = true ∧ self.availableSlots ≠ 0 ∧ creator ∉ self.active then
    some {
      tasks := self.tasks ++ [creator]
      active := self.active ++ [creator]
      limit := self.limit
      owned := by rw [self.owned]
      distinct := List.nodup_append.mpr ⟨self.distinct, List.nodup_singleton creator, by
        intro a member b same
        rw [List.mem_singleton.mp same]
        exact ne_of_mem_of_not_mem member open_.2.2⟩
      bounded := by
        have free := open_.2.1
        rw [availableSlots] at free
        rw [List.length_append, List.length_singleton]
        omega }
  else none

/-- `join_next` when it returns this Creator's task. -/
def joinNext (self : CreatorTasks) (creator : Uuid) : Option CreatorTasks :=
  if creator ∈ self.tasks then
    some {
      tasks := self.tasks.erase creator
      active := self.active.erase creator
      limit := self.limit
      owned := by rw [self.owned]
      distinct := self.distinct.erase creator
      bounded := (List.length_erase_le).trans self.bounded }
  else none

/-- `abort_and_join`: every task is cancelled and has ended. -/
def abortAndJoin (self : CreatorTasks) : CreatorTasks := new self.limit

section Facts

variable {self next : CreatorTasks} {mayStart : Bool} {creator other : Uuid}

theorem trySpawn_eq_some (spawned : self.trySpawn mayStart creator = some next) :
    mayStart = true ∧ self.availableSlots ≠ 0 ∧ creator ∉ self.active ∧
      next.active = self.active ++ [creator] ∧ next.limit = self.limit := by
  rw [trySpawn] at spawned
  split at spawned
  · rename_i free
    cases spawned
    exact ⟨free.1, free.2.1, free.2.2, rfl, rfl⟩
  · cases spawned

theorem trySpawn_eq_none (refused : self.trySpawn mayStart creator = none)
    (free : self.availableSlots ≠ 0) (idle : creator ∉ self.active) : mayStart = false := by
  rw [trySpawn] at refused
  split at refused
  · cases refused
  · rename_i closed
    by_contra may
    exact closed ⟨by simpa using may, free, idle⟩

theorem joinNext_eq_some (joined : self.joinNext creator = some next) :
    creator ∈ self.active ∧ next.active = self.active.erase creator ∧ next.limit = self.limit := by
  rw [joinNext] at joined
  split at joined
  · rename_i member
    cases joined
    exact ⟨self.owned ▸ member, rfl, rfl⟩
  · cases joined

theorem mem_of_joinNext (joined : self.joinNext creator = some next) :
    other ∈ next.active ↔ other ≠ creator ∧ other ∈ self.active := by
  rw [(joinNext_eq_some joined).2.1]
  exact self.distinct.mem_erase_iff

end Facts

end CreatorTasks

/-- `IntakeTurns`: when each Creator's last pass started, counted in starts. -/
structure IntakeTurns where
  lastStarted : Uuid → Option Nat
  next : Nat
  /-- Stamps are taken from the counter before it moves on. -/
  stamped : ∀ creator stamp, lastStarted creator = some stamp → stamp < next

namespace IntakeTurns

def default : IntakeTurns where
  lastStarted := fun _ => none
  next := 0
  stamped := by simp

/-- A Creator's place in `sort_by_key`: without a start first, then by age of the start. -/
def rank (self : IntakeTurns) (creator : Uuid) : Nat :=
  match self.lastStarted creator with
  | none => 0
  | some stamp => stamp + 1

/-- `retain`: the Creators that are no longer ready are forgotten. -/
def retain (self : IntakeTurns) (current : List Uuid) : IntakeTurns where
  lastStarted := fun creator => if creator ∈ current then self.lastStarted creator else none
  next := self.next
  stamped := by
    intro creator stamp found
    split at found
    · exact self.stamped creator stamp found
    · cases found

def order (self : IntakeTurns) (ready : List Uuid) : IntakeTurns × List Uuid :=
  let kept := self.retain ready
  (kept, ready.insertionSort fun a b => kept.rank a ≤ kept.rank b)

def started (self : IntakeTurns) (creator : Uuid) : IntakeTurns where
  lastStarted := Function.update self.lastStarted creator (some self.next)
  next := self.next + 1
  stamped := by
    intro other stamp found
    by_cases same : other = creator
    · subst same
      rw [Function.update_self] at found
      cases found
      exact Nat.lt_succ_self _
    · rw [Function.update_of_ne same] at found
      exact Nat.lt_succ_of_lt (self.stamped other stamp found)

section Facts

variable {self : IntakeTurns} {creator other : Uuid} {ready : List Uuid}

theorem rank_le_next (self : IntakeTurns) (creator : Uuid) : self.rank creator ≤ self.next := by
  rw [rank]
  cases found : self.lastStarted creator with
  | none => exact Nat.zero_le _
  | some stamp => exact self.stamped creator stamp found

@[simp] theorem rank_started_self : (self.started creator).rank creator = self.next + 1 := by
  simp [rank, started]

theorem rank_started_of_ne (ne : other ≠ creator) :
    (self.started creator).rank other = self.rank other := by
  simp [rank, started, Function.update_of_ne ne]

theorem rank_retain (member : creator ∈ ready) :
    (self.retain ready).rank creator = self.rank creator := by
  simp [rank, retain, member]

@[simp] theorem mem_order : creator ∈ (self.order ready).2 ↔ creator ∈ ready :=
  List.mem_insertionSort _

theorem order_sorted :
    (self.order ready).2.Pairwise
      fun a b => (self.retain ready).rank a ≤ (self.retain ready).rank b := by
  refine @List.pairwise_insertionSort _ _ _ ⟨?_⟩ ⟨?_⟩ ready
  · intro a b
    omega
  · intro a b c first second
    omega

end Facts

end IntakeTurns

/-- What a member before the first `last` comes before it in every sorted list. -/
theorem le_of_mem_takeWhile {r : Uuid → Uuid → Prop} {list : List Uuid} {first last : Uuid}
    (sorted : list.Pairwise r) (present : last ∈ list)
    (before : first ∈ list.takeWhile (· ≠ last)) : r first last := by
  induction list with
  | nil => cases present
  | cons head rest ih =>
    obtain ⟨least, tail⟩ := List.pairwise_cons.mp sorted
    rw [List.takeWhile_cons] at before
    split at before
    · rename_i other
      have later : last ∈ rest := by
        cases present with
        | head => simp at other
        | tail _ later => exact later
      cases before with
      | head => exact least last later
      | tail _ before => exact ih tail later before
    · cases before

variable {turns : IntakeTurns} {c : Uuid}

theorem order_bypass {ready : List Uuid} {d : Uuid} (present : c ∈ ready)
    (older : turns.rank c < turns.rank d) :
    d ∉ (turns.order ready).2.takeWhile (· ≠ c) := by
  intro before
  have listed : d ∈ ready := IntakeTurns.mem_order.mp (List.takeWhile_subset _ before)
  have earlier := le_of_mem_takeWhile IntakeTurns.order_sorted (IntakeTurns.mem_order.mpr present)
    before
  rw [IntakeTurns.rank_retain present, IntakeTurns.rank_retain listed] at earlier
  omega

/-- The state of the loop that hands out free slots: `queue` is what the caller's own
part of the loop body reads and writes. -/
structure Slots (σ : Type) where
  tasks : CreatorTasks
  turns : IntakeTurns
  queue : σ

/-- The loop over the ordered Creators: it stops when no slot is free, passes over the
Creators that the caller does not want to start, and records each start. `admitted` is
the number of attempts made before the runtime stops admitting work, which it never
takes back. Returned with the Creators started, in order. -/
def startPasses {σ : Type} (wanted : σ → Uuid → Bool) (record : σ → Uuid → σ) :
    Nat → List Uuid → Slots σ → Slots σ × List Uuid
  | _, [], s => (s, [])
  | admitted, creator :: rest, s =>
    if s.tasks.availableSlots = 0 then (s, [])
    else if wanted s.queue creator then
      match s.tasks.trySpawn (0 < admitted) creator with
      | some tasks =>
        let next := ⟨tasks, s.turns.started creator, record s.queue creator⟩
        let (final, started) := startPasses wanted record (admitted - 1) rest next
        (final, creator :: started)
      | none => startPasses wanted record (admitted - 1) rest s
    else startPasses wanted record admitted rest s

section StartPasses

variable {σ : Type} {wanted : σ → Uuid → Bool} {record : σ → Uuid → σ} {admitted : Nat}
  {list : List Uuid} {s : Slots σ}

private theorem startPasses_rule_from (Q : List Uuid → Slots σ → Prop)
    (step : ∀ past s creator tasks, Q past s → creator ∈ list → wanted s.queue creator = true →
      s.tasks.trySpawn true creator = some tasks →
      Q (past ++ [creator]) ⟨tasks, s.turns.started creator, record s.queue creator⟩)
    {past : List Uuid} (init : Q past s) :
    Q (past ++ (startPasses wanted record admitted list s).2)
      (startPasses wanted record admitted list s).1 := by
  induction list generalizing admitted past s with
  | nil => simpa [startPasses] using init
  | cons creator rest ih =>
    have later : ∀ past s creator tasks, Q past s → creator ∈ rest →
        wanted s.queue creator = true → s.tasks.trySpawn true creator = some tasks →
        Q (past ++ [creator]) ⟨tasks, s.turns.started creator, record s.queue creator⟩ :=
      fun past s creator tasks holds member => step past s creator tasks holds (.tail _ member)
    rw [startPasses]
    split
    · simpa using init
    · split
      · rename_i want
        split
        · rename_i tasks spawned
          have may := (CreatorTasks.trySpawn_eq_some spawned).1
          rw [may] at spawned
          have next := step past s creator tasks init (.head _) want spawned
          simpa using ih later next
        · exact ih later init
      · exact ih later init

theorem startPasses_rule (Q : List Uuid → Slots σ → Prop)
    (step : ∀ past s creator tasks, Q past s → creator ∈ list → wanted s.queue creator = true →
      s.tasks.trySpawn true creator = some tasks →
      Q (past ++ [creator]) ⟨tasks, s.turns.started creator, record s.queue creator⟩)
    (init : Q [] s) :
    Q (startPasses wanted record admitted list s).2
      (startPasses wanted record admitted list s).1 := by
  simpa only [List.nil_append] using startPasses_rule_from Q step init

structure Started (list : List Uuid) (s s' : Slots σ) (started : List Uuid) : Prop where
  listed : ∀ creator ∈ started, creator ∈ list
  distinct : started.Nodup
  active : s'.tasks.active = s.tasks.active ++ started
  limit : s'.tasks.limit = s.tasks.limit
  /-- The Creators started have newer turns than any before the round. -/
  newer : ∀ creator ∈ started, s.turns.next < s'.turns.rank creator
  others : ∀ creator, creator ∉ started → s'.turns.rank creator = s.turns.rank creator
  counted : s.turns.next ≤ s'.turns.next

theorem startPasses_started :
    Started list s (startPasses wanted record admitted list s).1
      (startPasses wanted record admitted list s).2 := by
  have init : Started list s s [] :=
    ⟨by simp, .nil, by simp, rfl, by simp, fun _ _ => rfl, Nat.le_refl _⟩
  refine startPasses_rule (fun past s' => Started list s s' past) ?_ init
  intro past s' creator tasks round listed _ spawned
  obtain ⟨-, -, idle, active, limit⟩ := CreatorTasks.trySpawn_eq_some spawned
  have fresh : creator ∉ past := fun member => idle (by simp [round.active, member])
  refine ⟨?_, ?_, ?_, ?_, ?_, ?_, ?_⟩
  · intro other member
    rcases List.mem_append.mp member with member | member
    · exact round.listed other member
    · exact List.mem_singleton.mp member ▸ listed
  · exact List.nodup_append.mpr ⟨round.distinct, List.nodup_singleton creator, by
      intro a member b same
      rw [List.mem_singleton.mp same]
      exact ne_of_mem_of_not_mem member fresh⟩
  · rw [active, round.active, List.append_assoc]
  · rw [limit, round.limit]
  · intro other member
    by_cases same : other = creator
    · subst same
      have counted := round.counted
      simp only [IntakeTurns.rank_started_self]
      omega
    · rw [IntakeTurns.rank_started_of_ne same]
      refine round.newer other ?_
      simpa [same] using member
  · intro other member
    simp only [List.mem_append, List.mem_singleton, not_or] at member
    rw [IntakeTurns.rank_started_of_ne member.2]
    exact round.others other member.1
  · have counted := round.counted
    simp only [IntakeTurns.started]
    omega

theorem startPasses_of_closed : (startPasses wanted record 0 list s).2 = [] := by
  induction list with
  | nil => rfl
  | cons creator rest ih =>
    rw [startPasses]
    split
    · rfl
    · split
      · split
        · rename_i tasks spawned
          simpa using (CreatorTasks.trySpawn_eq_some spawned).1
        · exact ih
      · exact ih

theorem startPasses_bypass {c : Uuid} (idle : c ∉ s.tasks.active) (want : wanted s.queue c = true)
    (stays : ∀ queue creator, creator ≠ c → wanted queue c = true →
      wanted (record queue creator) c = true) :
    (startPasses wanted record admitted list s).2.takeWhile (· ≠ c) ⊆
      list.takeWhile (· ≠ c) := by
  induction list generalizing admitted s with
  | nil => simp [startPasses]
  | cons creator rest ih =>
    by_cases same : creator = c
    · -- at `c` itself: it starts here, or nothing starts any more
      subst same
      rw [startPasses]
      split
      · simp
      · rename_i free
        split
        · simp
        · rename_i refused
          have closed := CreatorTasks.trySpawn_eq_none refused free idle
          have none : admitted - 1 = 0 := by
            simp only [decide_eq_false_iff_not] at closed
            omega
          rw [none, startPasses_of_closed]
          simp
    · have kept : (creator :: rest).takeWhile (· ≠ c) = creator :: rest.takeWhile (· ≠ c) := by
        simp [same]
      rw [startPasses, kept]
      split
      · simp
      · split
        · split
          · rename_i tasks spawned
            have active := (CreatorTasks.trySpawn_eq_some spawned).2.2.2.1
            simp only [ne_eq, same, not_false_eq_true, decide_true, List.takeWhile_cons_of_pos]
            refine List.cons_subset_cons creator (ih ?_ (stays _ creator same want))
            simp only [active, List.mem_append, List.mem_singleton, not_or]
            exact ⟨idle, Ne.symm same⟩
          · exact List.Subset.trans (ih idle want) (List.subset_cons_self creator _)
        · exact List.Subset.trans (ih idle want) (List.subset_cons_self creator _)

end StartPasses

/-- How often `d` may have been started while `c` was waiting: at most once before `c`,
and once `d` has started and `c` has not, `d` is behind. -/
structure Bypassed (c d : Uuid) (starts : List Uuid) (turns : IntakeTurns) : Prop where
  once : (starts.takeWhile (· ≠ c)).count d ≤ 1
  behind : c ∉ starts → d ∈ starts → turns.rank c < turns.rank d

theorem Bypassed.empty {d : Uuid} : Bypassed c d [] turns :=
  ⟨by simp, by simp⟩

theorem takeWhile_append_of_not_mem {first : List Uuid} (rest : List Uuid) (absent : c ∉ first) :
    (first ++ rest).takeWhile (· ≠ c) = first ++ rest.takeWhile (· ≠ c) := by
  refine List.takeWhile_append_of_pos ?_
  intro a member
  simpa using ne_of_mem_of_not_mem member absent

theorem takeWhile_append_of_mem {first rest : List Uuid} (present : c ∈ first) :
    (first ++ rest).takeWhile (· ≠ c) = first.takeWhile (· ≠ c) := by
  induction first with
  | nil => cases present
  | cons a first ih =>
    by_cases same : a = c
    · simp [same]
    · have later : c ∈ first := by
        cases present with
        | head => exact absurd rfl same
        | tail _ later => exact later
      have skip : ∀ list : List Uuid,
          (a :: list).takeWhile (· ≠ c) = a :: list.takeWhile (· ≠ c) := by
        simp [same]
      rw [List.cons_append, skip, skip, ih later]

/-- A round over an ordering that still lists both Creators, and in which `c` could be
started, keeps the bound. -/
theorem Bypassed.round {σ : Type} {wanted : σ → Uuid → Bool} {record : σ → Uuid → σ}
    {admitted : Nat} {d : Uuid} {starts ready : List Uuid} {tasks : CreatorTasks}
    {queue : σ} (past : Bypassed c d starts turns)
    (present : c ∈ ready) (listed : d ∈ starts → c ∉ starts → d ∈ ready)
    (idle : c ∉ tasks.active) (want : wanted queue c = true)
    (stays : ∀ queue creator, creator ≠ c → wanted queue c = true →
      wanted (record queue creator) c = true) :
    Bypassed c d
      (starts ++ (startPasses wanted record admitted (turns.order ready).2
        ⟨tasks, turns.retain ready, queue⟩).2)
      (startPasses wanted record admitted (turns.order ready).2
        ⟨tasks, turns.retain ready, queue⟩).1.turns := by
  generalize sharp : startPasses wanted record admitted (turns.order ready).2
    ⟨tasks, turns.retain ready, queue⟩ = result
  have round : Started (turns.order ready).2 ⟨tasks, turns.retain ready, queue⟩ result.1
      result.2 := sharp ▸ startPasses_started
  have inOrder : result.2.takeWhile (· ≠ c) ⊆ (turns.order ready).2.takeWhile (· ≠ c) :=
    sharp ▸ startPasses_bypass idle want stays
  by_cases served : c ∈ starts
  · -- `c` has started: nothing later counts
    refine ⟨?_, fun waiting => absurd (List.mem_append_left _ served) waiting⟩
    rw [takeWhile_append_of_mem served]
    exact past.once
  · have split := takeWhile_append_of_not_mem result.2 served
    by_cases bypassed : d ∈ starts
    · have older := past.behind served bypassed
      have again : d ∉ result.2.takeWhile (· ≠ c) := fun member =>
        order_bypass present older (inOrder member)
      refine ⟨?_, ?_⟩
      · rw [split, List.count_append, List.count_eq_zero_of_not_mem again]
        have whole := takeWhile_append_of_not_mem [] served
        simp only [List.append_nil, List.takeWhile_nil] at whole
        rw [← whole]
        exact past.once
      · intro waiting _
        simp only [List.mem_append, not_or] at waiting
        have unchanged := round.others c waiting.2
        rw [unchanged]
        by_cases started : d ∈ result.2
        · have newer := round.newer d started
          have bound := (turns.retain ready).rank_le_next c
          simp only at newer ⊢
          omega
        · rw [round.others d started]
          simp only [IntakeTurns.rank_retain present,
            IntakeTurns.rank_retain (listed bypassed served)]
          exact older
    · refine ⟨?_, ?_⟩
      · rw [split, List.count_append, List.count_eq_zero_of_not_mem bypassed, Nat.zero_add]
        exact List.nodup_iff_count_le_one.mp
          (round.distinct.sublist (List.takeWhile_sublist _)) d
      · intro waiting started
        simp only [List.mem_append, not_or] at waiting
        have here : d ∈ result.2 := (List.mem_append.mp started).resolve_left bypassed
        have newer := round.newer d here
        have bound := (turns.retain ready).rank_le_next c
        rw [round.others c waiting.2]
        simp only at newer ⊢
        omega

end PaykitServer.Workers
