import PaykitServer.Relational.Transaction
import Mathlib.Logic.Function.Basic
import Mathlib.Data.List.Nodup

/-!
# Reads that overlapping callers share

`ConnectionStatusService` (keyed by Creator and Reader) and
`PaymentRequestRefreshes` (keyed by App and bundle) share a read the same way. A
caller takes the lock of the map, drops the entries whose cell is gone or has a
result, takes the cell of its key or puts a new one there, and asks the cell for
its result: one caller at a time runs the read, the others wait for it. The map
holds weak references, so a cell lives as long as a caller holds it.

The steps in which a caller can be overtaken are separate events: the checks of
the entries one by one, the lookup after them, and everything that happens
outside the lock, where a caller may be dropped at any point. Each event has its
number for a time, and calls, results and prunings carry the times they need for
the statements; the code does not read them.
-/

namespace PaykitServer.Application

open Relational

variable {κ ρ : Type}

inductive SharedCall (κ : Type) where
  | idle
  /-- The call began and has not taken the lock. -/
  | begun (began : Nat)
  /-- It holds the lock and has the entries of these keys to check. -/
  | pruning (began locked : Nat) (key : κ) (left : List κ)
  /-- It holds the cell of its key, and runs the read or waits for the result. -/
  | holding (began : Nat) (key : κ) (cell : Nat) (running : Bool)
  deriving DecidableEq

namespace SharedCall

def holds (cell : Nat) : SharedCall κ → Bool
  | .holding _ _ held _ => held = cell
  | _ => false

def runs (cell : Nat) : SharedCall κ → Bool
  | .holding _ _ held running => running && held = cell
  | _ => false

end SharedCall

/-- The map with its weak references, the cells with their results and the time these came,
and the callers. -/
structure SharedReads (κ ρ : Type) where
  now : Nat
  pending : List (κ × Nat)
  cells : Nat → Option (Nat × ρ)
  /-- The next cell to be allocated. -/
  fresh : Nat
  calls : Nat → SharedCall κ
  /-- The callers there have been. -/
  callers : List Nat
  lock : Option Nat
  /-- When the last finished pruning began. -/
  pruned : Nat

namespace SharedReads

def new : SharedReads κ ρ := ⟨0, [], fun _ => none, 0, fun _ => .idle, [], none, 0⟩

/-- `Weak::upgrade` succeeds: some caller holds the cell. -/
def alive (self : SharedReads κ ρ) (cell : Nat) : Bool :=
  self.callers.any fun caller => (self.calls caller).holds cell

def free (self : SharedReads κ ρ) (cell : Nat) : Bool :=
  self.callers.all fun caller => !(self.calls caller).runs cell

/-- The caller moves on, and an event has passed. -/
def move (self : SharedReads κ ρ) (caller : Nat) (call : SharedCall κ) : SharedReads κ ρ :=
  { self with now := self.now + 1, calls := Function.update self.calls caller call }

@[simp] theorem move_calls (self : SharedReads κ ρ) (caller : Nat) (call : SharedCall κ) :
    (self.move caller call).calls = Function.update self.calls caller call := rfl

/-- The entry is kept by `retain`: its cell lives and has no result. -/
def kept (self : SharedReads κ ρ) (entry : κ × Nat) : Bool :=
  self.alive entry.2 && (self.cells entry.2).isNone

/-- The lookup after the pruning: the living cell of the key, or a new one put there. -/
def lookup [DecidableEq κ] (self : SharedReads κ ρ) (key : κ) : SharedReads κ ρ × Nat :=
  match self.pending.find? (·.1 = key) with
  | some (_, cell) =>
    if self.alive cell then (self, cell) else
      ({ self with
        pending := (key, self.fresh) :: self.pending.filter (·.1 ≠ key)
        fresh := self.fresh + 1 }, self.fresh)
  | none =>
    ({ self with
      pending := (key, self.fresh) :: self.pending.filter (·.1 ≠ key)
      fresh := self.fresh + 1 }, self.fresh)

end SharedReads

inductive SharedEvent (κ ρ : Type) where
  | began (caller : Nat)
  /-- The caller takes the lock and starts `retain`. -/
  | locked (caller : Nat) (key : κ)
  /-- `retain` checks one entry. -/
  | checked (caller : Nat)
  /-- The caller takes or makes its cell and gives the lock back. -/
  | looked (caller : Nat)
  /-- `get_or_init` gets the permit of the cell and starts the read. -/
  | started (caller : Nat)
  /-- The read ends and its result is put in the cell. -/
  | completed (caller : Nat) (value : ρ)
  /-- The caller returns the result of its cell. -/
  | returned (caller : Nat)
  /-- The caller is dropped at an await point. -/
  | cancelled (caller : Nat)

namespace SharedReads

def step [DecidableEq κ] (self : SharedReads κ ρ) : SharedEvent κ ρ → Except Unit (SharedReads κ ρ)
  | .began caller => do
    ensure (self.calls caller = .idle) ()
    .ok { self.move caller (.begun self.now) with callers := caller :: self.callers }
  | .locked caller key =>
    match self.calls caller with
    | .begun began => do
      ensure (self.lock = none) ()
      .ok { self.move caller (.pruning began self.now key (self.pending.map Prod.fst)) with
        lock := some caller }
    | _ => .error ()
  | .checked caller =>
    match self.calls caller with
    | .pruning began locked key (first :: left) =>
      .ok { self.move caller (.pruning began locked key left) with
        pending := self.pending.filter fun entry => entry.1 ≠ first || self.kept entry }
    | _ => .error ()
  | .looked caller =>
    match self.calls caller with
    | .pruning began locked key [] =>
      let (self, cell) := self.lookup key
      .ok { self.move caller (.holding began key cell false) with
        lock := none
        pruned := locked }
    | _ => .error ()
  | .started caller =>
    match self.calls caller with
    | .holding began key cell false => do
      ensure ((self.cells cell).isNone ∧ self.free cell) ()
      .ok (self.move caller (.holding began key cell true))
    | _ => .error ()
  | .completed caller value =>
    match self.calls caller with
    | .holding began key cell true =>
      .ok { self.move caller (.holding began key cell false) with
        cells := Function.update self.cells cell (some (self.now, value)) }
    | _ => .error ()
  | .returned caller =>
    match self.calls caller with
    | .holding _ _ cell false => do
      ensure ((self.cells cell).isSome) ()
      .ok (self.move caller .idle)
    | _ => .error ()
  | .cancelled caller =>
    match self.calls caller with
    | .begun _ => .ok (self.move caller .idle)
    | .holding _ _ _ _ => .ok (self.move caller .idle)
    | _ => .error ()

end SharedReads

def sharedReads [DecidableEq κ] : System (SharedReads κ ρ) (SharedEvent κ ρ) Unit (SharedEvent κ ρ) :=
  .ofEvents SharedReads.step

section Coherence

variable {s s' : SharedReads κ ρ}

def Fits (s : SharedReads κ ρ) (caller : Nat) : SharedCall κ → Prop
  | .idle => True
  | .begun began => began < s.now
  | .pruning began locked _ left =>
    s.lock = some caller ∧ began < locked ∧ locked < s.now ∧
      ∀ entry ∈ s.pending, entry.1 ∉ left → ∀ result, s.cells entry.2 = some result →
        locked < result.1
  | .holding began key cell running =>
    began < s.now ∧ cell < s.fresh ∧ (s.cells cell = none → (key, cell) ∈ s.pending) ∧
      (running = true → s.cells cell = none) ∧
      ∀ result, s.cells cell = some result → began < result.1

/-- What every state reached satisfies. -/
structure Coherent (s : SharedReads κ ρ) : Prop where
  fits : ∀ caller, Fits s caller (s.calls caller)
  listed : ∀ caller, s.calls caller ≠ .idle → caller ∈ s.callers
  sole : ∀ a b cell, (s.calls a).runs cell = true → (s.calls b).runs cell = true → a = b
  keys : (s.pending.map Prod.fst).Nodup
  allocated : ∀ entry ∈ s.pending, entry.2 < s.fresh
  past : ∀ cell result, s.cells cell = some result → cell < s.fresh
  /-- A result still in the map came after the last finished pruning began. -/
  recent : ∀ entry ∈ s.pending, ∀ result, s.cells entry.2 = some result → s.pruned ≤ result.1
  pruned : s.pruned ≤ s.now

theorem Coherent.new : Coherent (.new : SharedReads κ ρ) where
  fits _ := trivial
  listed _ busy := absurd rfl busy
  sole _ _ _ runs := by simp [SharedReads.new, SharedCall.runs] at runs
  keys := .nil
  allocated _ member := by cases member
  past _ _ found := by cases found
  recent _ member := by cases member
  pruned := Nat.le_refl 0

variable {caller : Nat} {call : SharedCall κ}

theorem Coherent.alive (coherent : Coherent s) {cell : Nat}
    (holds : (s.calls caller).holds cell = true) : s.alive cell = true := by
  refine List.any_eq_true.mpr ⟨caller, coherent.listed caller ?_, holds⟩
  intro idle
  simp [idle, SharedCall.holds] at holds

theorem Coherent.entry_unique (coherent : Coherent s) {key : κ} {cell cell' : Nat}
    (first : (key, cell) ∈ s.pending) (second : (key, cell') ∈ s.pending) : cell = cell' := by
  have same := List.inj_on_of_nodup_map coherent.keys first second rfl
  exact congrArg Prod.snd same

/-- The invariant after one caller has moved on: what is left to show is that it fits where
it is now, and that the others still do. -/
theorem Coherent.moved (coherent : Coherent s)
    (calls : s'.calls = Function.update s.calls caller call) (fits : Fits s' caller call)
    (others : ∀ other, other ≠ caller → Fits s other (s.calls other) →
      Fits s' other (s.calls other))
    (listed : ∀ other ∈ s.callers, other ∈ s'.callers) (here : caller ∈ s'.callers)
    (sole : ∀ cell, call.runs cell = true → ∀ other, other ≠ caller →
      (s.calls other).runs cell = false)
    (keys : (s'.pending.map Prod.fst).Nodup)
    (allocated : ∀ entry ∈ s'.pending, entry.2 < s'.fresh)
    (past : ∀ cell result, s'.cells cell = some result → cell < s'.fresh)
    (recent : ∀ entry ∈ s'.pending, ∀ result, s'.cells entry.2 = some result →
      s'.pruned ≤ result.1)
    (pruned : s'.pruned ≤ s'.now) : Coherent s' where
  fits other := by
    rw [calls]
    by_cases same : other = caller
    · rw [same, Function.update_self]
      exact fits
    · rw [Function.update_of_ne same]
      exact others other same (coherent.fits other)
  listed other busy := by
    rw [calls] at busy
    by_cases same : other = caller
    · exact same ▸ here
    · rw [Function.update_of_ne same] at busy
      exact listed other (coherent.listed other busy)
  sole a b cell first second := by
    rw [calls] at first second
    by_cases isA : a = caller
    · by_cases isB : b = caller
      · rw [isA, isB]
      · subst isA
        rw [Function.update_self] at first
        rw [Function.update_of_ne isB, sole cell first b isB] at second
        cases second
    · rw [Function.update_of_ne isA] at first
      by_cases isB : b = caller
      · subst isB
        rw [Function.update_self] at second
        rw [sole cell second a isA] at first
        cases first
      · rw [Function.update_of_ne isB] at second
        exact coherent.sole a b cell first second
  keys := keys
  allocated := allocated
  past := past
  recent := recent
  pruned := pruned

theorem Fits.later (fits : Fits s caller call)
    (now : s.now ≤ s'.now) (pending : s'.pending = s.pending) (cells : s'.cells = s.cells)
    (fresh : s'.fresh = s.fresh) (lock : s.lock = some caller → s'.lock = some caller) :
    Fits s' caller call := by
  cases call with
  | idle => trivial
  | begun began => exact Nat.lt_of_lt_of_le fits now
  | pruning began locked key left =>
    obtain ⟨held, before, started, checked⟩ := fits
    refine ⟨lock held, before, Nat.lt_of_lt_of_le started now, ?_⟩
    rw [pending, cells]
    exact checked
  | holding began key cell running =>
    obtain ⟨started, allocated, entry, incomplete, late⟩ := fits
    simp only [Fits]
    rw [pending, cells, fresh]
    exact ⟨Nat.lt_of_lt_of_le started now, allocated, entry, incomplete, late⟩

theorem Coherent.moved_only (coherent : Coherent s)
    (calls : s'.calls = Function.update s.calls caller call) (now : s'.now = s.now + 1)
    (pending : s'.pending = s.pending) (cells : s'.cells = s.cells) (fresh : s'.fresh = s.fresh)
    (pruned : s'.pruned = s.pruned)
    (lock : ∀ other, other ≠ caller → s.lock = some other → s'.lock = some other)
    (listed : ∀ other ∈ s.callers, other ∈ s'.callers) (here : caller ∈ s'.callers)
    (sole : ∀ cell, call.runs cell = true → ∀ other, other ≠ caller →
      (s.calls other).runs cell = false)
    (fits : Fits s' caller call) : Coherent s' := by
  have later : s.now ≤ s'.now := by omega
  refine coherent.moved calls fits ?_ listed here sole ?_ ?_ ?_ ?_ ?_
  · exact fun other ne fits => fits.later later pending cells fresh (lock other ne)
  · rw [pending]
    exact coherent.keys
  · rw [pending, fresh]
    exact coherent.allocated
  · rw [cells, fresh]
    exact coherent.past
  · rw [pending, cells, pruned]
    exact coherent.recent
  · rw [pruned]
    exact Nat.le_trans coherent.pruned later

theorem Coherent.here (coherent : Coherent s)
    (at_ : s.calls caller = call) (busy : call ≠ .idle) : caller ∈ s.callers :=
  coherent.listed caller (at_ ▸ busy)

theorem Coherent.leave (coherent : Coherent s) (here : caller ∈ s.callers) :
    Coherent (s.move caller .idle) := by
  refine coherent.moved_only rfl rfl rfl rfl rfl rfl (fun _ _ held => held) (fun _ member => member)
    here ?_ trivial
  intro cell runs
  cases runs

theorem Coherent.not_pruning (coherent : Coherent s) {other : Nat}
    (held : s.lock = some caller) (ne : other ≠ caller) {began locked : Nat} {key : κ}
    {left : List κ} : s.calls other ≠ .pruning began locked key left := by
  intro pruning
  have fits := coherent.fits other
  rw [pruning] at fits
  have both := fits.1.symm.trans held
  cases both
  exact ne rfl

theorem Coherent.cells_fresh (coherent : Coherent s) : s.cells s.fresh = none := by
  cases found : s.cells s.fresh with
  | none => rfl
  | some result => exact absurd (coherent.past s.fresh result found) (Nat.lt_irrefl _)

theorem Coherent.sole_of_key (coherent : Coherent s) {a b began began' cell cell' : Nat} {key : κ}
    (first : s.calls a = .holding began key cell true)
    (second : s.calls b = .holding began' key cell' true) : a = b := by
  have fitsA := coherent.fits a
  have fitsB := coherent.fits b
  rw [first] at fitsA
  rw [second] at fitsB
  obtain ⟨-, -, entryA, incompleteA, -⟩ := fitsA
  obtain ⟨-, -, entryB, incompleteB, -⟩ := fitsB
  have same := coherent.entry_unique (entryA (incompleteA rfl)) (entryB (incompleteB rfl))
  subst same
  exact coherent.sole a b cell (by simp [first, SharedCall.runs]) (by simp [second, SharedCall.runs])

end Coherence

section Steps

variable [DecidableEq κ] {s s' : SharedReads κ ρ}

variable {caller : Nat}

theorem Coherent.step_began (coherent : Coherent s)
    (stepped : s.step (.began caller) = .ok s') : Coherent s' := by
  obtain ⟨_, -, stepped⟩ := bind_eq_ok.mp stepped
  cases stepped
  refine coherent.moved_only rfl rfl rfl rfl rfl rfl (fun _ _ held => held)
    (fun _ member => .tail _ member) (.head _) ?_ ?_
  · intro cell runs
    cases runs
  · exact Nat.lt_succ_self s.now

theorem Coherent.step_locked (coherent : Coherent s) {key : κ}
    (stepped : s.step (.locked caller key) = .ok s') : Coherent s' := by
  rw [SharedReads.step] at stepped
  split at stepped
  · rename_i began begun
    obtain ⟨_, free, stepped⟩ := bind_eq_ok.mp stepped
    have unlocked := ensure_eq_ok.mp free
    cases stepped
    have fits := coherent.fits caller
    rw [begun] at fits
    refine coherent.moved_only rfl rfl rfl rfl rfl rfl ?_ (fun _ member => member)
      (coherent.here begun (by simp)) ?_ ?_
    · intro other _ held
      rw [unlocked] at held
      cases held
    · intro cell runs
      cases runs
    · refine ⟨rfl, fits, Nat.lt_succ_self s.now, ?_⟩
      intro entry member unchecked
      exact absurd (List.mem_map_of_mem member) unchecked
  · cases stepped

theorem Coherent.step_checked (coherent : Coherent s)
    (stepped : s.step (.checked caller) = .ok s') : Coherent s' := by
  rw [SharedReads.step] at stepped
  split at stepped
  · rename_i began locked key first left pruning
    cases stepped
    have fits := coherent.fits caller
    rw [pruning] at fits
    obtain ⟨held, before, started, checked⟩ := fits
    refine coherent.moved rfl ?_ ?_ (fun _ member => member) (coherent.here pruning (by simp)) ?_
      ?_ ?_ coherent.past ?_ ?_
    · refine ⟨held, before, Nat.lt_succ_of_lt started, ?_⟩
      intro entry member unchecked result found
      obtain ⟨member, stays⟩ := List.mem_filter.mp member
      by_cases same : entry.1 = first
      · -- the entry just checked was kept, so it has no result
        simp only [same, ne_eq, not_true_eq_false, decide_false, Bool.false_or,
          SharedReads.kept, Bool.and_eq_true, Option.isNone_iff_eq_none] at stays
        have none : s.cells entry.2 = some result := found
        rw [stays.2] at none
        cases none
      · refine checked entry member ?_ result found
        simp [same, unchecked]
    · intro other ne fits
      cases call : s.calls other with
      | idle => trivial
      | begun began => exact Nat.lt_succ_of_lt (call ▸ fits : Fits s other (.begun began))
      | pruning began locked key left => exact absurd call (coherent.not_pruning held ne)
      | holding began key cell running =>
        rw [call] at fits
        obtain ⟨started, allocated, entry, incomplete, late⟩ := fits
        refine ⟨Nat.lt_succ_of_lt started, allocated, ?_, incomplete, late⟩
        intro unfinished
        -- a cell that is held and has no result is kept
        have holds : (s.calls other).holds cell = true := by simp [call, SharedCall.holds]
        have alive := coherent.alive holds
        refine List.mem_filter.mpr ⟨entry unfinished, ?_⟩
        have unfinished' : s.cells cell = none := unfinished
        simp [SharedReads.kept, alive, unfinished']
    · intro cell runs
      cases runs
    · exact coherent.keys.sublist (List.filter_sublist.map Prod.fst)
    · exact fun entry member => coherent.allocated entry (List.mem_of_mem_filter member)
    · exact fun entry member => coherent.recent entry (List.mem_of_mem_filter member)
    · exact Nat.le_succ_of_le coherent.pruned
  · cases stepped

theorem lookup_cases (coherent : Coherent s) (key : κ) :
    (∃ cell, s.lookup key = (s, cell) ∧ (key, cell) ∈ s.pending) ∨
    (s.lookup key = ({ s with
        pending := (key, s.fresh) :: s.pending.filter (·.1 ≠ key)
        fresh := s.fresh + 1 }, s.fresh) ∧
      ∀ cell, (key, cell) ∈ s.pending → s.alive cell = false) := by
  rw [SharedReads.lookup]
  cases found : s.pending.find? (·.1 = key) with
  | none =>
    refine .inr ⟨rfl, ?_⟩
    intro cell member
    simpa using List.find?_eq_none.mp found (key, cell) member
  | some entry =>
    have sameKey : entry.1 = key := by simpa using List.find?_some found
    have member := List.mem_of_find?_eq_some found
    obtain ⟨other, cell⟩ := entry
    cases sameKey
    dsimp only
    split
    · exact .inl ⟨cell, rfl, member⟩
    · rename_i dead
      refine .inr ⟨rfl, ?_⟩
      intro cell' member'
      rw [coherent.entry_unique member' member]
      simpa using dead

theorem Coherent.step_looked (coherent : Coherent s)
    (stepped : s.step (.looked caller) = .ok s') : Coherent s' := by
  rw [SharedReads.step] at stepped
  split at stepped
  · rename_i began locked key pruning
    have fits := coherent.fits caller
    rw [pruning] at fits
    obtain ⟨held, before, started, checked⟩ := fits
    have soon : began < s.now + 1 := by omega
    have late : ∀ entry ∈ s.pending, ∀ result, s.cells entry.2 = some result →
        locked < result.1 := fun entry member => checked entry member (by simp)
    have here := coherent.here pruning (by simp)
    have lock : ∀ other, other ≠ caller → s.lock = some other → none = some other := by
      intro other ne other_held
      rw [held] at other_held
      cases other_held
      exact absurd rfl ne
    rcases lookup_cases coherent key with ⟨cell, looked, entry⟩ | ⟨looked, dead⟩
    · rw [looked] at stepped
      cases stepped
      refine coherent.moved rfl ?_ ?_ (fun _ member => member) here ?_ coherent.keys
        coherent.allocated coherent.past ?_ ?_
      · refine ⟨soon, coherent.allocated _ entry, fun _ => entry, by simp, ?_⟩
        intro result found
        have after := late _ entry result found
        omega
      · exact fun other ne fits =>
          fits.later (Nat.le_succ s.now) rfl rfl rfl (lock other ne)
      · intro cell' runs
        simp [SharedCall.runs] at runs
      · exact fun entry member result found => Nat.le_of_lt (late entry member result found)
      · exact Nat.le_of_lt (Nat.lt_succ_of_lt started)
    · rw [looked] at stepped
      cases stepped
      refine coherent.moved rfl ?_ ?_ (fun _ member => member) here ?_ ?_ ?_ ?_ ?_ ?_
      · refine ⟨soon, Nat.lt_succ_self s.fresh, fun _ => .head _, by simp, ?_⟩
        intro result found
        have none : s.cells s.fresh = some result := found
        rw [coherent.cells_fresh] at none
        cases none
      · intro other ne fits
        cases call : s.calls other with
        | idle => trivial
        | begun began => exact Nat.lt_succ_of_lt (call ▸ fits : Fits s other (.begun began))
        | pruning began locked key left => exact absurd call (coherent.not_pruning held ne)
        | holding began key' cell running =>
          rw [call] at fits
          obtain ⟨started, allocated, entry, incomplete, late⟩ := fits
          refine ⟨Nat.lt_succ_of_lt started, Nat.lt_succ_of_lt allocated, ?_, incomplete, late⟩
          intro unfinished
          refine .tail _ (List.mem_filter.mpr ⟨entry unfinished, ?_⟩)
          -- a cell that is held and has no result is still alive
          have holds : (s.calls other).holds cell = true := by simp [call, SharedCall.holds]
          have alive := coherent.alive holds
          have other_key : key' ≠ key := by
            rintro rfl
            rw [dead cell (entry unfinished)] at alive
            cases alive
          simpa using other_key
      · intro cell' runs
        simp [SharedCall.runs] at runs
      · refine List.nodup_cons.mpr ⟨?_, coherent.keys.sublist (List.filter_sublist.map Prod.fst)⟩
        intro member
        obtain ⟨entry, member, same⟩ := List.mem_map.mp member
        simp [same] at member
      · intro entry member
        cases member with
        | head => exact Nat.lt_succ_self s.fresh
        | tail _ member =>
          exact Nat.lt_succ_of_lt (coherent.allocated entry (List.mem_of_mem_filter member))
      · exact fun cell result found => Nat.lt_succ_of_lt (coherent.past cell result found)
      · intro entry member result found
        cases member with
        | head =>
          have none : s.cells s.fresh = some result := found
          rw [coherent.cells_fresh] at none
          cases none
        | tail _ member =>
          exact Nat.le_of_lt (late entry (List.mem_of_mem_filter member) result found)
      · exact Nat.le_of_lt (Nat.lt_succ_of_lt started)
  · cases stepped

theorem Coherent.step_started (coherent : Coherent s)
    (stepped : s.step (.started caller) = .ok s') : Coherent s' := by
  rw [SharedReads.step] at stepped
  split at stepped
  · rename_i began key cell holding
    obtain ⟨_, open_, stepped⟩ := bind_eq_ok.mp stepped
    obtain ⟨incomplete, free⟩ := ensure_eq_ok.mp open_
    cases stepped
    have fits := coherent.fits caller
    rw [holding] at fits
    obtain ⟨started, allocated, entry, -, late⟩ := fits
    refine coherent.moved_only rfl rfl rfl rfl rfl rfl (fun _ _ held => held)
      (fun _ member => member) (coherent.here holding (by simp)) ?_ ?_
    · intro cell' runs other _
      simp only [SharedCall.runs, Bool.true_and, decide_eq_true_eq] at runs
      subst runs
      by_cases listed : other ∈ s.callers
      · simpa using List.all_eq_true.mp free other listed
      · cases idle : s.calls other with
        | idle => rfl
        | begun began => exact absurd (coherent.here idle (by simp)) listed
        | pruning began locked key left => exact absurd (coherent.here idle (by simp)) listed
        | holding began key cell running => exact absurd (coherent.here idle (by simp)) listed
    · exact ⟨Nat.lt_succ_of_lt started, allocated, entry,
        fun _ => Option.isNone_iff_eq_none.mp incomplete, late⟩
  · cases stepped

theorem Coherent.step_completed (coherent : Coherent s) {value : ρ}
    (stepped : s.step (.completed caller value) = .ok s') : Coherent s' := by
  rw [SharedReads.step] at stepped
  split at stepped
  · rename_i began key cell holding
    cases stepped
    have fits := coherent.fits caller
    rw [holding] at fits
    obtain ⟨started, allocated, entry, -, -⟩ := fits
    -- a result is the old one, or the new one, which comes now
    have result_cases : ∀ other result,
        Function.update s.cells cell (some (s.now, value)) other = some result →
        s.cells other = some result ∨ other = cell ∧ result.1 = s.now := by
      intro other result found
      by_cases same : other = cell
      · subst same
        rw [Function.update_self] at found
        cases found
        exact .inr ⟨rfl, rfl⟩
      · rw [Function.update_of_ne same] at found
        exact .inl found
    refine coherent.moved rfl ?_ ?_ (fun _ member => member) (coherent.here holding (by simp)) ?_
      coherent.keys coherent.allocated ?_ ?_ (Nat.le_succ_of_le coherent.pruned)
    · refine ⟨Nat.lt_succ_of_lt started, allocated, ?_, by simp, ?_⟩
      · intro unfinished
        simp at unfinished
      · intro result found
        simp only [Function.update_self, Option.some.injEq] at found
        rw [← found]
        exact started
    · intro other ne fits
      cases call : s.calls other with
      | idle => trivial
      | begun began => exact Nat.lt_succ_of_lt (call ▸ fits : Fits s other (.begun began))
      | pruning began locked key left =>
        rw [call] at fits
        obtain ⟨held, before, started, checked⟩ := fits
        refine ⟨held, before, Nat.lt_succ_of_lt started, ?_⟩
        intro entry member unchecked result found
        rcases result_cases entry.2 result found with found | ⟨-, now⟩
        · exact checked entry member unchecked result found
        · omega
      | holding began key' cell' running =>
        rw [call] at fits
        obtain ⟨started', allocated', entry', incomplete, late⟩ := fits
        refine ⟨Nat.lt_succ_of_lt started', allocated', ?_, ?_, ?_⟩
        · intro unfinished
          refine entry' ?_
          by_cases same : cell' = cell
          · subst same
            simp at unfinished
          · simpa [Function.update_of_ne same] using unfinished
        · intro runs
          have other_cell : cell' ≠ cell := by
            rintro rfl
            refine ne (coherent.sole other caller cell' ?_ ?_)
            · simp [call, SharedCall.runs, runs]
            · simp [holding, SharedCall.runs]
          simpa [Function.update_of_ne other_cell] using incomplete runs
        · intro result found
          rcases result_cases cell' result found with found | ⟨-, now⟩
          · exact late result found
          · omega
    · intro cell' runs
      simp [SharedCall.runs] at runs
    · intro other result found
      rcases result_cases other result found with found | ⟨rfl, -⟩
      · exact coherent.past other result found
      · exact allocated
    · intro entry member result found
      rcases result_cases entry.2 result found with found | ⟨-, now⟩
      · exact coherent.recent entry member result found
      · rw [now]
        exact coherent.pruned
  · cases stepped

theorem Coherent.step_returned (coherent : Coherent s)
    (stepped : s.step (.returned caller) = .ok s') : Coherent s' := by
  rw [SharedReads.step] at stepped
  split at stepped
  · rename_i began key cell holding
    obtain ⟨_, -, stepped⟩ := bind_eq_ok.mp stepped
    cases stepped
    exact coherent.leave (coherent.here holding (by simp))
  · cases stepped

theorem Coherent.step_cancelled (coherent : Coherent s)
    (stepped : s.step (.cancelled caller) = .ok s') : Coherent s' := by
  rw [SharedReads.step] at stepped
  split at stepped
  · rename_i began begun
    cases stepped
    exact coherent.leave (coherent.here begun (by simp))
  · rename_i began key cell running holding
    cases stepped
    exact coherent.leave (coherent.here holding (by simp))
  · cases stepped

theorem Coherent.step (coherent : Coherent s) {event : SharedEvent κ ρ}
    (stepped : s.step event = .ok s') : Coherent s' := by
  cases event with
  | began caller => exact coherent.step_began stepped
  | locked caller key => exact coherent.step_locked stepped
  | checked caller => exact coherent.step_checked stepped
  | looked caller => exact coherent.step_looked stepped
  | started caller => exact coherent.step_started stepped
  | completed caller value => exact coherent.step_completed stepped
  | returned caller => exact coherent.step_returned stepped
  | cancelled caller => exact coherent.step_cancelled stepped

theorem Coherent.run (events : List (SharedEvent κ ρ)) :
    Coherent (sharedReads.run (.new : SharedReads κ ρ) events) :=
  System.run_invariant (P := Coherent) (fun _ _ _ coherent => coherent.step) Coherent.new

theorem Coherent.rerun (coherent : Coherent s) {a b began began' cell : Nat} {key key' : κ}
    (running : s.calls a = .holding began key cell true)
    (waiting : s.calls b = .holding began' key' cell false) :
    ∃ s' s'', s.step (.cancelled a) = .ok s' ∧ s'.step (.started b) = .ok s'' ∧
      s''.calls b = .holding began' key' cell true := by
  have fits := coherent.fits a
  rw [running] at fits
  have incomplete : s.cells cell = none := fits.2.2.2.1 rfl
  have ne : b ≠ a := by
    rintro rfl
    rw [running] at waiting
    cases waiting
  have dropped : s.step (.cancelled a) = .ok (s.move a .idle) := by
    simp [SharedReads.step, running]
  have stays : (s.move a .idle).calls b = .holding began' key' cell false := by
    rw [SharedReads.move_calls, Function.update_of_ne ne, waiting]
  have free : (s.move a .idle).free cell = true := by
    refine List.all_eq_true.mpr ?_
    intro other _
    by_cases same : other = a
    · simp [same, SharedCall.runs]
    · cases runs : (s.calls other).runs cell with
      | false => simp [Function.update_of_ne same, runs]
      | true =>
        exact absurd (coherent.sole other a cell runs (by simp [running, SharedCall.runs])) same
  have still : (s.move a .idle).cells cell = none := incomplete
  have restarted : (s.move a .idle).step (.started b) =
      .ok ((s.move a .idle).move b (.holding began' key' cell true)) := by
    simp [SharedReads.step, stays, still, free, ensure]
  exact ⟨_, _, dropped, restarted, by simp⟩

end Steps

/-- Over every interleaving of callers, completions and drops: one read per key at most is
in flight; a caller never returns a result that came before its call began; when the caller
that runs a read is dropped, any caller that waits for it can run it; and a result in the map
came no earlier than the beginning of the last pruning that has finished. -/
theorem overlapping_reads_are_shared [DecidableEq κ] (events : List (SharedEvent κ ρ)) :
    (∀ a b key began began' cell cell',
      (sharedReads.run (.new : SharedReads κ ρ) events).calls a = .holding began key cell true →
      (sharedReads.run (.new : SharedReads κ ρ) events).calls b = .holding began' key cell' true →
      a = b) ∧
    (∀ turn ∈ sharedReads.history (.new : SharedReads κ ρ) events,
      ∀ caller began key cell running result, turn.action = .returned caller →
        turn.before.calls caller = .holding began key cell running →
        turn.before.cells cell = some result → began < result.1) ∧
    (∀ a b key key' began began' cell,
      (sharedReads.run (.new : SharedReads κ ρ) events).calls a = .holding began key cell true →
      (sharedReads.run (.new : SharedReads κ ρ) events).calls b = .holding began' key' cell false →
      ∃ s' s'', (sharedReads.run (.new : SharedReads κ ρ) events).step (.cancelled a) = .ok s' ∧
        s'.step (.started b) = .ok s'' ∧ s''.calls b = .holding began' key' cell true) ∧
    ∀ entry ∈ (sharedReads.run (.new : SharedReads κ ρ) events).pending, ∀ result,
      (sharedReads.run (.new : SharedReads κ ρ) events).cells entry.2 = some result →
        (sharedReads.run (.new : SharedReads κ ρ) events).pruned ≤ result.1 := by
  have coherent := Coherent.run (κ := κ) (ρ := ρ) events
  refine ⟨?_, ?_, ?_, coherent.recent⟩
  · exact fun a b key began began' cell cell' first second => coherent.sole_of_key first second
  · intro turn member caller began key cell running result _ holding found
    have before := (System.history_invariant (P := Coherent)
      (fun _ _ _ coherent => coherent.step) Coherent.new member).1
    have fits := before.fits caller
    rw [holding] at fits
    exact fits.2.2.2.2 result found
  · exact fun a b key key' began began' cell running waiting => coherent.rerun running waiting

end PaykitServer.Application
