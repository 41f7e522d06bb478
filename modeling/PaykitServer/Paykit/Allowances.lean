import PaykitServer.Domain.Payment
import PaykitServer.Relational.Transaction
import Mathlib.Data.List.Sort
import Mathlib.Logic.Function.Basic

/-!
# Allowance intake

`AllowanceIntake` decides when a reader's Allowances are read, and an intake pass
of a Creator reads the due readers one after the other. A pass is taken apart at
every point where it waits: after it has noted the time, after it has listed the
due readers, at the head of each turn of its loop, after the scan of a read and
after each acceptance. Between these, other Creators' passes run and items arrive
on the streams, and the pass may be dropped, by its deadline, by a panic or at
shutdown.

The log of a reader's reads, newest first, is kept beside the state the code has,
with what each read found and did. Times are in nanoseconds.
-/

namespace PaykitServer.Paykit

open Relational

def nanosPerSecond : Nat := 1000000000

def maxAllowanceAcceptancesPerRead : Nat := 4

def allowanceIntakeSpacingFactor : Nat := 10

def allowanceIntakePassDeadline : Nat := 600 * nanosPerSecond

def allowanceIntakeReadBudget : Nat := 5 * nanosPerSecond

/-- A Creator and one of its readers. -/
abbrev IntakeKey := Uuid × String

structure ReaderIntake where
  /-- Newest stream item an earlier read covered completely. -/
  coveredThrough : Option Nat
  lastStarted : Option Nat
  lastScan : Nat

/-- `AllowanceIntake`; a reader not seen before has the default entry. -/
structure AllowanceIntake where
  cooldown : Nat
  readers : IntakeKey → ReaderIntake

structure IntakeTicket where
  key : IntakeKey
  newestStreamItemId : Nat

namespace AllowanceIntake

def new (cooldown : Nat) : AllowanceIntake := ⟨cooldown, fun _ => ⟨none, none, 0⟩⟩

/-- `with_reader` with a change of the entry. -/
def withReader (self : AllowanceIntake) (key : IntakeKey) (f : ReaderIntake → ReaderIntake) :
    AllowanceIntake :=
  { self with readers := Function.update self.readers key (f (self.readers key)) }

def isDue (self : AllowanceIntake) (key : IntakeKey) (newest : Option Nat) (now : Nat) : Bool :=
  match newest with
  | none => false
  | some newest =>
    let state := self.readers key
    let spacing := max self.cooldown (state.lastScan * allowanceIntakeSpacingFactor)
    (state.coveredThrough.all fun covered => covered < newest) &&
      (state.lastStarted.all fun started => spacing ≤ now - started)

/-- `begin`: until it is finished, a read counts as a scan of the whole pass deadline. -/
def begin_ (self : AllowanceIntake) (key : IntakeKey) (newest : Nat) (now : Nat) :
    Option (AllowanceIntake × IntakeTicket) :=
  if self.isDue key (some newest) now then
    some (self.withReader key fun state =>
      { state with lastStarted := some now, lastScan := allowanceIntakePassDeadline },
      ⟨key, newest⟩)
  else none

def finish (self : AllowanceIntake) (ticket : IntakeTicket) (drained : Bool) (scan : Nat) :
    AllowanceIntake :=
  self.withReader ticket.key fun state =>
    { state with
      lastScan := scan
      coveredThrough := if drained then some ticket.newestStreamItemId else state.coveredThrough }

end AllowanceIntake

/-- A proposal awaiting acceptance, with the stream item that carried it. -/
abbrev Proposal := String × Nat

/-- How one acceptance ends. -/
inductive Acceptance where
  | queued
  | lockTimeout
  | failed (error : String)

/-- Where `accept_proposals` is. -/
inductive Reading where
  | scanning (ticket : IntakeTicket)
  /-- The scan took this long and returned `pending`; `left` is still to be accepted. -/
  | accepting (ticket : IntakeTicket) (scan : Nat) (pending left : List Proposal)

def Reading.ticket : Reading → IntakeTicket
  | .scanning ticket => ticket
  | .accepting ticket _ _ _ => ticket

inductive IntakePass where
  | idle
  /-- It has noted the time. -/
  | entered (now : Nat)
  /-- The loop of `read_readers`: the readers left, when the first read started, the read in
  progress and the acceptances queued so far. -/
  | reading (queue : List (String × Nat)) (since : Option Nat) (current : Option Reading)
      (queued : Nat)

/-- What is known of a read: when it started and which items its reader's stream held then,
the newest item it is to cover, what the scan returned, how many proposals were accepted, and
its scan and result once it has finished. -/
structure ReadLog where
  started : Nat
  present : List Nat
  newest : Nat
  pending : Option (List Proposal)
  accepted : Nat
  finished : Option (Nat × Except String Bool)

/-- The scan a read counts with: the whole pass deadline until it has finished. -/
def ReadLog.scan (read : ReadLog) : Nat :=
  match read.finished with
  | some (scan, _) => scan
  | none => allowanceIntakePassDeadline

structure IntakeWorld where
  clock : Nat
  /-- The items of each reader's stream. -/
  streams : IntakeKey → List Nat
  intake : AllowanceIntake
  passes : Uuid → IntakePass
  reads : IntakeKey → List ReadLog

def IntakeWorld.new (cooldown : Nat) : IntakeWorld :=
  ⟨0, fun _ => [], .new cooldown, fun _ => .idle, fun _ => []⟩

inductive AllowanceEvent where
  | waited (elapsed : Nat)
  /-- A stream item arrives; its id is above those the stream has. -/
  | arrived (key : IntakeKey) (item : Nat)
  /-- A pass of the Creator begins and notes the time. -/
  | entered (creator : Uuid)
  /-- It has found these linked and invoiced readers and reads their newest stream items. -/
  | listed (creator : Uuid) (eligible : List String)
  /-- The head of the loop, with the answer of `keep_reading`. -/
  | looped (creator : Uuid) (keepReading : Bool)
  /-- `pending_proposals` returns. -/
  | scanned (creator : Uuid) (pending : Except String (List Proposal)) (scan : Nat)
  /-- The next acceptance ends. -/
  | answered (creator : Uuid) (answer : Acceptance)
  /-- Every acceptance of the read is done. -/
  | accepted (creator : Uuid)
  /-- The pass is dropped. -/
  | aborted (creator : Uuid)

namespace IntakeWorld

def setPass (self : IntakeWorld) (creator : Uuid) (pass : IntakePass) : IntakeWorld :=
  { self with passes := Function.update self.passes creator pass }

def setReads (self : IntakeWorld) (key : IntakeKey) (reads : List ReadLog) : IntakeWorld :=
  { self with reads := Function.update self.reads key reads }

/-- Change what is known of the read in progress, the newest of its reader. -/
def noteRead (self : IntakeWorld) (key : IntakeKey) (note : ReadLog → ReadLog) : IntakeWorld :=
  match self.reads key with
  | [] => self
  | current :: earlier => self.setReads key (note current :: earlier)

/-- `newest_stream_items` for one reader. -/
def newestStreamItem (self : IntakeWorld) (key : IntakeKey) : Option Nat := (self.streams key).max?

def dueReaders (self : IntakeWorld) (creator : Uuid) (eligible : List String) (now : Nat) :
    List (String × Nat) :=
  let due := eligible.filterMap fun peer =>
    let newest := self.newestStreamItem (creator, peer)
    if self.intake.isDue (creator, peer) newest now then newest.map fun item => (peer, item)
    else none
  -- `sort_by_key` on the time of the last start; a reader never read comes first
  due.insertionSort fun a b =>
    ((self.intake.readers (creator, a.1)).lastStarted.elim 0 (· + 1)) ≤
      ((self.intake.readers (creator, b.1)).lastStarted.elim 0 (· + 1))

/-- Start the read of the next due reader, or pass over it when it is no longer due. -/
def beginRead (self : IntakeWorld) (creator : Uuid) (peer : String) (newest : Nat)
    (rest : List (String × Nat)) (since : Option Nat) (queued : Nat) : IntakeWorld :=
  match self.intake.begin_ (creator, peer) newest self.clock with
  | none => self.setPass creator (.reading rest since none queued)
  | some (intake, ticket) =>
    let log := ⟨self.clock, self.streams (creator, peer), newest, none, 0, none⟩
    { self.setReads (creator, peer) (log :: self.reads (creator, peer)) with
      intake
      passes := Function.update self.passes creator
        (.reading rest (some (since.getD self.clock)) (some (.scanning ticket)) queued) }

/-- A failed read has drained nothing. -/
def drained : Except String Bool → Bool
  | .ok drained => drained
  | .error _ => false

/-- The end of a read: its result is recorded and `finish` is told. -/
def endRead (self : IntakeWorld) (creator : Uuid) (ticket : IntakeTicket) (scan : Nat)
    (result : Except String Bool) (queue : List (String × Nat)) (since : Option Nat)
    (queued : Nat) : IntakeWorld :=
  let accepted := ((self.reads ticket.key).head?.map ReadLog.accepted).getD 0
  { self.noteRead ticket.key (fun read => { read with finished := some (scan, result) }) with
    intake := self.intake.finish ticket (drained result) scan
    passes := Function.update self.passes creator (.reading queue since none (queued + accepted)) }

def step (self : IntakeWorld) : AllowanceEvent → Except Unit IntakeWorld
  | .waited elapsed => .ok { self with clock := self.clock + elapsed }
  | .arrived key item => do
    ensure (∀ earlier ∈ self.streams key, earlier < item) ()
    .ok { self with streams := Function.update self.streams key (self.streams key ++ [item]) }
  | .entered creator =>
    match self.passes creator with
    | .idle => .ok (self.setPass creator (.entered self.clock))
    | _ => .error ()
  | .listed creator eligible =>
    match self.passes creator with
    | .entered now =>
      .ok (self.setPass creator
        (.reading (self.dueReaders creator eligible now) none none 0))
    | _ => .error ()
  | .looped creator keepReading =>
    match self.passes creator with
    | .reading [] _ none _ => .ok (self.setPass creator .idle)
    | .reading ((peer, newest) :: rest) since none queued =>
      if !keepReading || since.any fun since => allowanceIntakeReadBudget ≤ self.clock - since
      then .ok (self.setPass creator .idle)
      else .ok (self.beginRead creator peer newest rest since queued)
    | _ => .error ()
  | .scanned creator pending scan =>
    match self.passes creator with
    | .reading queue since (some (.scanning ticket)) queued =>
      match pending with
      | .error error =>
        .ok (self.endRead creator ticket scan (.error error) queue since queued)
      | .ok pending =>
        let left := pending.take maxAllowanceAcceptancesPerRead
        .ok ((self.noteRead ticket.key fun read =>
          { read with pending := some pending }).setPass creator
            (.reading queue since (some (.accepting ticket scan pending left)) queued))
    | _ => .error ()
  | .answered creator answer =>
    match self.passes creator with
    | .reading queue since (some (.accepting ticket scan pending (_ :: left))) queued =>
      match answer with
      | .queued =>
        .ok ((self.noteRead ticket.key fun read =>
          { read with accepted := read.accepted + 1 }).setPass creator
            (.reading queue since (some (.accepting ticket scan pending left)) queued))
      | .lockTimeout =>
        .ok (self.endRead creator ticket scan (.error "Creator lock wait timed out")
          queue since queued)
      | .failed error =>
        .ok (self.endRead creator ticket scan (.error error) queue since queued)
    | _ => .error ()
  | .accepted creator =>
    match self.passes creator with
    | .reading queue since (some (.accepting ticket scan pending [])) queued =>
      .ok (self.endRead creator ticket scan
        (.ok (pending.length ≤ maxAllowanceAcceptancesPerRead)) queue since queued)
    | _ => .error ()
  | .aborted creator => .ok (self.setPass creator .idle)

end IntakeWorld

def allowances : System IntakeWorld AllowanceEvent Unit AllowanceEvent := .ofEvents IntakeWorld.step

/-- A read finished without error and accepted every pending proposal it returned. -/
def ReadLog.Drained (read : ReadLog) : Prop :=
  ∃ scan pending, read.finished = some (scan, .ok true) ∧ read.pending = some pending ∧
    read.accepted = pending.length

/-- The later of two reads starts no sooner than the earlier one's spacing allows. -/
def Spaced (cooldown : Nat) (later earlier : ReadLog) : Prop :=
  earlier.started + max cooldown (earlier.scan * allowanceIntakeSpacingFactor) ≤ later.started

section Logs

variable {cooldown clock : Nat} {stream : List Nat} {state : ReaderIntake} {reads : List ReadLog}

/-- What the entry of a reader, its stream and the log of its reads have to do with each other. -/
structure LogSound (cooldown clock : Nat) (stream : List Nat) (state : ReaderIntake)
    (reads : List ReadLog) : Prop where
  never : reads = [] → state.lastStarted = none
  last : ∀ read ∈ reads.head?, state.lastStarted = some read.started ∧ state.lastScan = read.scan
  started : ∀ read ∈ reads, read.started ≤ clock
  spaced : reads.Pairwise (Spaced cooldown)
  limited : ∀ read ∈ reads, read.accepted ≤ maxAllowanceAcceptancesPerRead
  arrived : ∀ read ∈ reads, read.newest ∈ stream
  present : ∀ read ∈ reads, ∀ item ∈ stream, item ≤ read.newest → item ∈ read.present
  covered : ∀ item, state.coveredThrough = some item →
    ∃ read ∈ reads, read.Drained ∧ read.newest = item

theorem LogSound.new : LogSound cooldown clock [] ⟨none, none, 0⟩ [] :=
  ⟨fun _ => rfl, by simp, by simp, .nil, by simp, by simp, by simp, by simp⟩

theorem LogSound.later (sound : LogSound cooldown clock stream state reads) (elapsed : Nat) :
    LogSound cooldown (clock + elapsed) stream state reads :=
  { sound with
    started := fun read member => Nat.le_add_right_of_le (sound.started read member) }

theorem LogSound.arrive (sound : LogSound cooldown clock stream state reads) {item : Nat}
    (above : ∀ earlier ∈ stream, earlier < item) :
    LogSound cooldown clock (stream ++ [item]) state reads := by
  refine { sound with arrived := ?_, present := ?_ }
  · exact fun read member => List.mem_append_left _ (sound.arrived read member)
  · intro read member old within covers
    rcases List.mem_append.mp within with within | new
    · exact sound.present read member old within covers
    · have below := above read.newest (sound.arrived read member)
      rw [List.mem_singleton.mp new] at covers
      omega

theorem LogSound.begin_ (sound : LogSound cooldown clock stream state reads) {newest : Nat}
    (held : newest ∈ stream) (due : ∀ started, state.lastStarted = some started →
      max cooldown (state.lastScan * allowanceIntakeSpacingFactor) ≤ clock - started) :
    LogSound cooldown clock stream
      { state with lastStarted := some clock, lastScan := allowanceIntakePassDeadline }
      (⟨clock, stream, newest, none, 0, none⟩ :: reads) where
  never := by simp
  last := by simp [ReadLog.scan]
  started := by
    intro read member
    cases member with
    | head => exact Nat.le_refl clock
    | tail _ member => exact sound.started read member
  spaced := by
    refine List.pairwise_cons.mpr ⟨?_, sound.spaced⟩
    intro earlier member
    cases reads with
    | nil => cases member
    | cons last rest =>
      -- the last read is spaced by `due`, and those before it by the log
      obtain ⟨lastStarted, lastScan⟩ := sound.last last rfl
      have ready := due last.started lastStarted
      have before := sound.started last (.head _)
      have lastSpaced : last.started +
          max cooldown (last.scan * allowanceIntakeSpacingFactor) ≤ clock := by
        rw [← lastScan]
        omega
      cases member with
      | head => exact lastSpaced
      | tail _ member =>
        have between : Spaced cooldown last earlier :=
          (List.pairwise_cons.mp sound.spaced).1 earlier member
        exact Nat.le_trans between before
  limited := by
    intro read member
    cases member with
    | head => exact Nat.zero_le _
    | tail _ member => exact sound.limited read member
  arrived := by
    intro read member
    cases member with
    | head => exact held
    | tail _ member => exact sound.arrived read member
  present := by
    intro read member item within covers
    cases member with
    | head => exact within
    | tail _ member => exact sound.present read member item within covers
  covered := by
    intro item found
    obtain ⟨read, member, drained, newest⟩ := sound.covered item found
    exact ⟨read, .tail _ member, drained, newest⟩

theorem LogSound.replace {current next : ReadLog} {earlier : List ReadLog} {state' : ReaderIntake}
    (sound : LogSound cooldown clock stream state (current :: earlier))
    (running : current.finished = none) (started : next.started = current.started)
    (newest : next.newest = current.newest) (present : next.present = current.present)
    (limited : next.accepted ≤ maxAllowanceAcceptancesPerRead)
    (lastStarted : state'.lastStarted = state.lastStarted) (lastScan : state'.lastScan = next.scan)
    (covered : state'.coveredThrough = state.coveredThrough ∨
      state'.coveredThrough = some next.newest ∧ next.Drained) :
    LogSound cooldown clock stream state' (next :: earlier) where
  never := by simp
  last := by
    intro read head
    cases head
    rw [lastStarted, started]
    exact ⟨(sound.last current rfl).1, lastScan⟩
  started := by
    intro read member
    cases member with
    | head => exact started ▸ sound.started current (.head _)
    | tail _ member => exact sound.started read (.tail _ member)
  spaced := by
    obtain ⟨before, rest⟩ := List.pairwise_cons.mp sound.spaced
    refine List.pairwise_cons.mpr ⟨?_, rest⟩
    intro read member
    have spaced := before read member
    rw [Spaced] at spaced ⊢
    rw [started]
    exact spaced
  limited := by
    intro read member
    cases member with
    | head => exact limited
    | tail _ member => exact sound.limited read (.tail _ member)
  arrived := by
    intro read member
    cases member with
    | head => exact newest ▸ sound.arrived current (.head _)
    | tail _ member => exact sound.arrived read (.tail _ member)
  present := by
    intro read member item within covers
    cases member with
    | head =>
      rw [newest] at covers
      rw [present]
      exact sound.present current (.head _) item within covers
    | tail _ member => exact sound.present read (.tail _ member) item within covers
  covered := by
    intro item found
    rcases covered with same | ⟨now, drained⟩
    · -- an item covered before was not covered by the read in progress
      rw [same] at found
      obtain ⟨read, member, drained, covers⟩ := sound.covered item found
      cases member with
      | head =>
        obtain ⟨scan, pending, finished, -⟩ := drained
        rw [running] at finished
        cases finished
      | tail _ member => exact ⟨read, .tail _ member, drained, covers⟩
    · rw [now] at found
      cases found
      exact ⟨next, .head _, drained, rfl⟩

end Logs

/-- The acceptances of a read so far and those left are what the limit allows. -/
def Reading.Agrees (reading : Reading) (read : ReadLog) : Prop :=
  match reading with
  | .scanning _ => read.accepted = 0
  | .accepting _ _ pending left => read.pending = some pending ∧
      read.accepted + left.length = min maxAllowanceAcceptancesPerRead pending.length

/-- What holds of a read in progress: it is the newest of its reader, and it is to cover more
than what is covered. -/
def ReadingSound (state : ReaderIntake) (reads : List ReadLog) (reading : Reading) : Prop :=
  ∃ current earlier, reads = current :: earlier ∧ current.finished = none ∧
    current.newest = reading.ticket.newestStreamItemId ∧
    (∀ item, state.coveredThrough = some item → item < reading.ticket.newestStreamItemId) ∧
    reading.Agrees current

def PassSound (w : IntakeWorld) (creator : Uuid) : IntakePass → Prop
  | .idle => True
  | .entered _ => True
  | .reading queue _ current _ =>
    (∀ due ∈ queue, due.2 ∈ w.streams (creator, due.1)) ∧
    ∀ reading, current = some reading → reading.ticket.key.1 = creator ∧
      ReadingSound (w.intake.readers reading.ticket.key) (w.reads reading.ticket.key) reading

/-- What every state reached satisfies. -/
structure WorldSound (cooldown : Nat) (w : IntakeWorld) : Prop where
  cooling : w.intake.cooldown = cooldown
  logs : ∀ key, LogSound cooldown w.clock (w.streams key) (w.intake.readers key) (w.reads key)
  passes : ∀ creator, PassSound w creator (w.passes creator)

section Worlds

variable {cooldown : Nat} {w w' : IntakeWorld} {creator : Uuid}

theorem WorldSound.new (cooldown : Nat) : WorldSound cooldown (.new cooldown) :=
  ⟨rfl, fun _ => LogSound.new, fun _ => trivial⟩

theorem WorldSound.setPass (sound : WorldSound cooldown w) {pass : IntakePass}
    (fits : PassSound w creator pass) : WorldSound cooldown (w.setPass creator pass) := by
  refine ⟨sound.cooling, sound.logs, ?_⟩
  intro other
  show PassSound w other (Function.update w.passes creator pass other)
  by_cases same : other = creator
  · subst same
    rw [Function.update_self]
    exact fits
  · rw [Function.update_of_ne same]
    exact sound.passes other

theorem WorldSound.at_reader (sound : WorldSound cooldown w) (key : IntakeKey) {pass : IntakePass}
    {state : ReaderIntake} {reads : List ReadLog} (own : key.1 = creator)
    (clock : w'.clock = w.clock) (streams : w'.streams = w.streams)
    (cooling : w'.intake.cooldown = w.intake.cooldown)
    (readers : w'.intake.readers = Function.update w.intake.readers key state)
    (logs : w'.reads = Function.update w.reads key reads)
    (passes : w'.passes = Function.update w.passes creator pass)
    (log : LogSound cooldown w.clock (w.streams key) state reads)
    (fits : PassSound w' creator pass) : WorldSound cooldown w' := by
  refine ⟨cooling.trans sound.cooling, ?_, ?_⟩
  · intro other
    rw [clock, streams, readers, logs]
    by_cases same : other = key
    · subst same
      rw [Function.update_self, Function.update_self]
      exact log
    · rw [Function.update_of_ne same, Function.update_of_ne same]
      exact sound.logs other
  · intro other
    rw [passes]
    by_cases same : other = creator
    · subst same
      rw [Function.update_self]
      exact fits
    · rw [Function.update_of_ne same]
      have before := sound.passes other
      cases pass : w.passes other with
      | idle => trivial
      | entered now => trivial
      | reading queue since current queued =>
        rw [pass] at before
        refine ⟨streams ▸ before.1, ?_⟩
        intro reading running
        obtain ⟨theirs, holds⟩ := before.2 reading running
        have apart : reading.ticket.key ≠ key := by
          rintro here
          rw [here, own] at theirs
          exact same theirs.symm
        rw [readers, logs, Function.update_of_ne apart, Function.update_of_ne apart]
        exact ⟨theirs, holds⟩

variable {key : IntakeKey} {newest queued : Nat} {rest queue : List (String × Nat)}
  {since : Option Nat} {reading : Reading} {result : Except String Bool}

theorem isDue_eq_true {intake : AllowanceIntake} {now : Nat}
    (due : intake.isDue key (some newest) now = true) :
    (∀ item, (intake.readers key).coveredThrough = some item → item < newest) ∧
    ∀ started, (intake.readers key).lastStarted = some started →
      max intake.cooldown ((intake.readers key).lastScan * allowanceIntakeSpacingFactor) ≤
        now - started := by
  simp only [AllowanceIntake.isDue, Bool.and_eq_true] at due
  refine ⟨?_, ?_⟩
  · intro item found
    simpa [found] using due.1
  · intro started found
    have spaced := due.2
    rw [found] at spaced
    exact of_decide_eq_true spaced

theorem mem_dueReaders {eligible : List String} {now : Nat} {due : String × Nat}
    (member : due ∈ w.dueReaders creator eligible now) : due.2 ∈ w.streams (creator, due.1) := by
  rw [IntakeWorld.dueReaders, List.mem_insertionSort] at member
  obtain ⟨peer, -, found⟩ := List.mem_filterMap.mp member
  dsimp only at found
  split at found
  · cases newest : w.newestStreamItem (creator, peer) with
    | none =>
      rw [newest] at found
      cases found
    | some item =>
      rw [newest] at found
      cases found
      exact List.max?_mem newest
  · cases found

theorem WorldSound.beginRead (sound : WorldSound cooldown w) {peer : String}
    (queue : ∀ due ∈ (peer, newest) :: rest, due.2 ∈ w.streams (creator, due.1)) :
    WorldSound cooldown (w.beginRead creator peer newest rest since queued) := by
  have later : ∀ due ∈ rest, due.2 ∈ w.streams (creator, due.1) :=
    fun due member => queue due (.tail _ member)
  have log := sound.logs (creator, peer)
  rw [IntakeWorld.beginRead]
  cases begun : w.intake.begin_ (creator, peer) newest w.clock with
  | none => exact sound.setPass ⟨later, by simp⟩
  | some started =>
    rw [AllowanceIntake.begin_] at begun
    split at begun
    · rename_i due
      cases begun
      obtain ⟨uncovered, spaced⟩ := isDue_eq_true due
      rw [sound.cooling] at spaced
      have next := log.begin_ (queue (peer, newest) (.head _)) spaced
      refine sound.at_reader (creator, peer) rfl rfl rfl rfl rfl rfl rfl next ?_
      refine ⟨later, ?_⟩
      intro reading running
      cases running
      refine ⟨rfl, ?_⟩
      show ReadingSound _ (Function.update w.reads (creator, peer) _ (creator, peer)) _
      rw [Function.update_self]
      refine ⟨_, _, rfl, rfl, rfl, ?_, rfl⟩
      intro item found
      simp only [AllowanceIntake.withReader, Function.update_self, Reading.ticket] at found
      exact uncovered item found
    · cases begun

theorem WorldSound.note (sound : WorldSound cooldown w) {next : Reading} {note : ReadLog → ReadLog}
    (pass : w.passes creator = .reading queue since (some reading) queued)
    (ticket : next.ticket = reading.ticket)
    (keeps : ∀ read, (note read).started = read.started ∧ (note read).newest = read.newest ∧
      (note read).present = read.present ∧ (note read).finished = read.finished)
    (agrees : ∀ read, reading.Agrees read →
      (note read).accepted ≤ maxAllowanceAcceptancesPerRead ∧ next.Agrees (note read)) :
    WorldSound cooldown ((w.noteRead reading.ticket.key note).setPass creator
      (.reading queue since (some next) queued)) := by
  have fits := sound.passes creator
  rw [pass] at fits
  obtain ⟨own, holds⟩ := fits.2 reading rfl
  obtain ⟨current, earlier, log, running, newest, uncovered, agreed⟩ := holds
  obtain ⟨started, newest', present, finished⟩ := keeps current
  obtain ⟨bound, left⟩ := agrees current agreed
  have before := sound.logs reading.ticket.key
  rw [log] at before
  have scan : (note current).scan = current.scan := by
    simp only [ReadLog.scan, finished]
  have after : LogSound cooldown w.clock (w.streams reading.ticket.key)
      (w.intake.readers reading.ticket.key) (note current :: earlier) :=
    before.replace running started newest' present bound rfl
      (scan ▸ (before.last current rfl).2) (.inl rfl)
  have noted : w.noteRead reading.ticket.key note =
      w.setReads reading.ticket.key (note current :: earlier) := by
    rw [IntakeWorld.noteRead, log]
  rw [noted]
  refine sound.at_reader _ own rfl rfl rfl (Function.update_eq_self _ _).symm rfl rfl after ?_
  refine ⟨fits.1, ?_⟩
  intro other same
  cases same
  rw [ticket]
  refine ⟨own, note current, earlier, ?_, finished ▸ running, ?_, ?_, left⟩
  · exact Function.update_self _ _ _
  · rw [newest', newest, ticket]
  · rw [ticket]
    exact uncovered

theorem WorldSound.endRead (sound : WorldSound cooldown w) {scan : Nat}
    (pass : w.passes creator = .reading queue since (some reading) queued)
    (complete : result = .ok true → ∃ ticket pending, reading = .accepting ticket scan pending [] ∧
      pending.length ≤ maxAllowanceAcceptancesPerRead) :
    WorldSound cooldown (w.endRead creator reading.ticket scan result queue since queued) := by
  have fits := sound.passes creator
  rw [pass] at fits
  obtain ⟨own, holds⟩ := fits.2 reading rfl
  obtain ⟨current, earlier, log, running, newest, uncovered, agreed⟩ := holds
  have before := sound.logs reading.ticket.key
  rw [log] at before
  let next : ReadLog := { current with finished := some (scan, result) }
  let state := w.intake.readers reading.ticket.key
  let state' : ReaderIntake := { state with
    lastScan := scan
    coveredThrough := if IntakeWorld.drained result then some reading.ticket.newestStreamItemId
      else state.coveredThrough }
  have covered : state'.coveredThrough = state.coveredThrough ∨
      state'.coveredThrough = some next.newest ∧ next.Drained := by
    cases result with
    | error e => exact .inl rfl
    | ok whole =>
      cases whole with
      | false => exact .inl rfl
      | true =>
        obtain ⟨ticket, pending, rfl, few⟩ := complete rfl
        refine .inr ⟨congrArg some newest.symm, scan, pending, rfl, agreed.1, ?_⟩
        have all := agreed.2
        rw [List.length_nil, Nat.add_zero, Nat.min_eq_right few] at all
        exact all
  have after : LogSound cooldown w.clock (w.streams reading.ticket.key) state'
      (next :: earlier) :=
    before.replace running rfl rfl rfl (before.limited current (.head _)) rfl rfl covered
  have noted : w.noteRead reading.ticket.key
      (fun read => { read with finished := some (scan, result) }) =
        w.setReads reading.ticket.key (next :: earlier) := by
    rw [IntakeWorld.noteRead, log]
  unfold IntakeWorld.endRead
  rw [noted]
  exact sound.at_reader _ own rfl rfl rfl rfl rfl rfl after ⟨fits.1, by simp⟩

/-- Covered positions only move forward. -/
def CoveredGrows (w w' : IntakeWorld) : Prop :=
  ∀ key item, (w.intake.readers key).coveredThrough = some item →
    ∃ later, (w'.intake.readers key).coveredThrough = some later ∧ item ≤ later

theorem CoveredGrows.of_eq (same : ∀ key, (w'.intake.readers key).coveredThrough =
    (w.intake.readers key).coveredThrough) : CoveredGrows w w' :=
  fun key item found => ⟨item, (same key).trans found, Nat.le_refl item⟩

theorem CoveredGrows.endRead (sound : WorldSound cooldown w) {scan : Nat}
    (pass : w.passes creator = .reading queue since (some reading) queued) :
    CoveredGrows w (w.endRead creator reading.ticket scan result queue since queued) := by
  intro key item covered
  have fits := sound.passes creator
  rw [pass] at fits
  obtain ⟨-, -, -, -, -, -, uncovered, -⟩ := fits.2 reading rfl
  simp only [IntakeWorld.endRead, AllowanceIntake.finish, AllowanceIntake.withReader]
  by_cases same : key = reading.ticket.key
  · subst same
    rw [Function.update_self]
    dsimp only
    split
    · exact ⟨_, rfl, Nat.le_of_lt (uncovered item covered)⟩
    · exact ⟨item, covered, Nat.le_refl item⟩
  · rw [Function.update_of_ne same]
    exact ⟨item, covered, Nat.le_refl item⟩

theorem CoveredGrows.beginRead {peer : String} :
    CoveredGrows w (w.beginRead creator peer newest rest since queued) := by
  refine .of_eq fun key => ?_
  rw [IntakeWorld.beginRead]
  cases begun : w.intake.begin_ (creator, peer) newest w.clock with
  | none => rfl
  | some started =>
    rw [AllowanceIntake.begin_] at begun
    split at begun
    · cases begun
      show (Function.update w.intake.readers (creator, peer) _ key).coveredThrough = _
      by_cases same : key = (creator, peer)
      · rw [same, Function.update_self]
      · rw [Function.update_of_ne same]
    · cases begun

theorem CoveredGrows.note {note : ReadLog → ReadLog} {pass : IntakePass} :
    CoveredGrows w ((w.noteRead key note).setPass creator pass) := by
  have same : (w.noteRead key note).intake = w.intake := by
    rw [IntakeWorld.noteRead]
    split <;> rfl
  refine .of_eq fun key' => ?_
  show ((w.noteRead key note).intake.readers key').coveredThrough = _
  rw [same]

theorem WorldSound.arrived (sound : WorldSound cooldown w) {item : Nat}
    (stepped : w.step (.arrived key item) = .ok w') :
    WorldSound cooldown w' ∧ CoveredGrows w w' := by
  obtain ⟨_, above, stepped⟩ := bind_eq_ok.mp stepped
  have above := ensure_eq_ok.mp above
  cases stepped
  refine ⟨⟨sound.cooling, ?_, ?_⟩, .of_eq fun _ => rfl⟩
  · intro other
    show LogSound _ _ (Function.update w.streams key _ other) _ _
    by_cases here : other = key
    · subst here
      rw [Function.update_self]
      exact (sound.logs other).arrive above
    · rw [Function.update_of_ne here]
      exact sound.logs other
  · intro creator
    have fits := sound.passes creator
    show PassSound _ creator (w.passes creator)
    cases pass : w.passes creator with
    | idle => trivial
    | entered now => trivial
    | reading queue since current queued =>
      rw [pass] at fits
      refine ⟨?_, fits.2⟩
      intro due member
      show due.2 ∈ Function.update w.streams key _ (creator, due.1)
      have held := fits.1 due member
      by_cases here : (creator, due.1) = key
      · rw [here, Function.update_self, ← here]
        exact List.mem_append_left _ held
      · rw [Function.update_of_ne here]
        exact held

theorem WorldSound.looped (sound : WorldSound cooldown w) {keepReading : Bool}
    (stepped : w.step (.looped creator keepReading) = .ok w') :
    WorldSound cooldown w' ∧ CoveredGrows w w' := by
  rw [IntakeWorld.step] at stepped
  split at stepped
  · cases stepped
    exact ⟨sound.setPass trivial, .of_eq fun _ => rfl⟩
  · rename_i peer newest rest since queued pass
    have fits := sound.passes creator
    rw [pass] at fits
    split at stepped
    · cases stepped
      exact ⟨sound.setPass trivial, .of_eq fun _ => rfl⟩
    · cases stepped
      exact ⟨sound.beginRead fits.1, .beginRead⟩
  · cases stepped

theorem WorldSound.scanned (sound : WorldSound cooldown w)
    {pending : Except String (List Proposal)} {scan : Nat}
    (stepped : w.step (.scanned creator pending scan) = .ok w') :
    WorldSound cooldown w' ∧ CoveredGrows w w' := by
  rw [IntakeWorld.step] at stepped
  split at stepped
  · rename_i queue since ticket queued pass
    cases pending with
    | error error =>
      cases stepped
      exact ⟨sound.endRead pass (by simp), .endRead sound pass⟩
    | ok pending =>
      cases stepped
      refine ⟨sound.note pass rfl (fun _ => ⟨rfl, rfl, rfl, rfl⟩) ?_, .note⟩
      intro read none
      have zero : read.accepted = 0 := none
      refine ⟨?_, rfl, ?_⟩
      · show read.accepted ≤ _
        omega
      · show read.accepted + _ = _
        rw [zero, List.length_take, Nat.zero_add]
  · cases stepped

theorem WorldSound.answered (sound : WorldSound cooldown w) {answer : Acceptance}
    (stepped : w.step (.answered creator answer) = .ok w') :
    WorldSound cooldown w' ∧ CoveredGrows w w' := by
  rw [IntakeWorld.step] at stepped
  split at stepped
  · rename_i queue since ticket scan pending first left queued pass
    cases answer with
    | queued =>
      cases stepped
      refine ⟨sound.note pass rfl (fun _ => ⟨rfl, rfl, rfl, rfl⟩) ?_, .note⟩
      intro read agreed
      have total : read.accepted + (left.length + 1) =
          min maxAllowanceAcceptancesPerRead pending.length := agreed.2
      refine ⟨?_, agreed.1, ?_⟩
      · show read.accepted + 1 ≤ _
        have bound := Nat.min_le_left maxAllowanceAcceptancesPerRead pending.length
        omega
      · show read.accepted + 1 + left.length = _
        omega
    | lockTimeout | failed =>
      cases stepped
      exact ⟨sound.endRead pass (by simp), .endRead sound pass⟩
  · cases stepped

theorem WorldSound.step (sound : WorldSound cooldown w) {event : AllowanceEvent}
    (stepped : w.step event = .ok w') : WorldSound cooldown w' ∧ CoveredGrows w w' := by
  cases event with
  | waited elapsed =>
    cases stepped
    exact ⟨⟨sound.cooling, fun key => (sound.logs key).later elapsed, sound.passes⟩,
      .of_eq fun _ => rfl⟩
  | arrived => exact sound.arrived stepped
  | entered creator =>
    rw [IntakeWorld.step] at stepped
    split at stepped
    · cases stepped
      exact ⟨sound.setPass trivial, .of_eq fun _ => rfl⟩
    · cases stepped
  | listed creator eligible =>
    rw [IntakeWorld.step] at stepped
    split at stepped
    · cases stepped
      exact ⟨sound.setPass ⟨fun _ member => mem_dueReaders member, by simp⟩, .of_eq fun _ => rfl⟩
    · cases stepped
  | looped => exact sound.looped stepped
  | scanned => exact sound.scanned stepped
  | answered => exact sound.answered stepped
  | accepted creator =>
    rw [IntakeWorld.step] at stepped
    split at stepped
    · rename_i queue since ticket scan pending queued pass
      cases stepped
      refine ⟨sound.endRead pass ?_, .endRead sound pass⟩
      intro whole
      exact ⟨ticket, pending, rfl, by simpa using whole⟩
    · cases stepped
  | aborted creator =>
    cases stepped
    exact ⟨sound.setPass trivial, .of_eq fun _ => rfl⟩

end Worlds

/-- Over all passes of all Creators, however long their scans take and wherever they fail or are
dropped: any two reads of one reader are spaced, each read accepts at most four proposals, the
covered position never decreases, and an item is covered only by a read that started when the
item was there, finished without error and accepted every pending proposal it returned. -/
theorem allowance_reads_sound (cooldown : Nat) (events : List AllowanceEvent) :
    (∀ key, ((allowances.run (.new cooldown) events).reads key).Pairwise fun later earlier =>
      earlier.started + max cooldown (earlier.scan * allowanceIntakeSpacingFactor) ≤
        later.started) ∧
    (∀ key, ∀ read ∈ (allowances.run (.new cooldown) events).reads key,
      read.accepted ≤ maxAllowanceAcceptancesPerRead) ∧
    (∀ turn ∈ allowances.history (.new cooldown) events, ∀ key item,
      (turn.before.intake.readers key).coveredThrough = some item →
      ∃ later, (turn.after.intake.readers key).coveredThrough = some later ∧ item ≤ later) ∧
    ∀ key covered,
      ((allowances.run (.new cooldown) events).intake.readers key).coveredThrough = some covered →
      ∀ item ∈ (allowances.run (.new cooldown) events).streams key, item ≤ covered →
        ∃ read ∈ (allowances.run (.new cooldown) events).reads key,
          item ∈ read.present ∧ read.Drained := by
  have keeps : ∀ w event w', WorldSound cooldown w → allowances.perform w event = .ok w' →
      WorldSound cooldown w' := fun w event w' sound stepped => (sound.step stepped).1
  have sound : WorldSound cooldown (allowances.run (.new cooldown) events) :=
    System.run_invariant keeps (WorldSound.new cooldown)
  refine ⟨fun key => (sound.logs key).spaced, fun key => (sound.logs key).limited, ?_, ?_⟩
  · intro turn member
    obtain ⟨before, stepped⟩ := System.history_invariant keeps (WorldSound.new cooldown) member
    exact (before.step stepped).2
  · intro key covered found item held below
    obtain ⟨read, member, drained, newest⟩ := (sound.logs key).covered covered found
    exact ⟨read, member, (sound.logs key).present read member item held (newest ▸ below), drained⟩

end PaykitServer.Paykit
