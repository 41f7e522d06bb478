import PaykitServer.Persistence.MarketplaceStatus
import PaykitServer.ProofPasses
import PaykitServer.Settlement.Rails

/-!
# One owner per transfer

Proof passes of different requests race for the same transfer. What decides the
race is the unique transfer key: the first insert owns the receipt, and no later
statement of another owner changes it. The only read a pass acts on later is the
locking read of its apply, and that read stays current until the insert. An
interleaved run of passes therefore does to the database what the server does
when it performs their statements one after the other.
-/

namespace PaykitServer.Settlement

open Domain Persistence Workers
open Relational

section Owners

variable {owner owner' : ReceiptOwner} {row row' : UsdtObservationRow}

theorem owner_unique (checks : row.Checks) (owned : owner.owns row = true)
    (owned' : owner'.owns row = true) : owner' = owner := by
  have single := checks.2
  cases owner <;> cases owner' <;> simp_all [ReceiptOwner.owns]

theorem owns_of_same (same : SameReceipt row row') : owner.owns row' = owner.owns row := by
  cases owner <;> simp [ReceiptOwner.owns, same.invoiceId, same.marketplacePreparationId]

end Owners

section Writes

variable {crypto : Crypto} {db db' : Database} {owner : ReceiptOwner}
variable {transferHash : LookupHash} {row row' : UsdtObservationRow}

theorem usdtByTransfer_eq_some_iff : db.usdtByTransfer transferHash = some row ↔
    row ∈ db.usdtObservations.rows ∧ row.transferLookupHash = transferHash := by
  rw [Database.usdtByTransfer, lookup_eq_some_iff db.usdtObservations.valid.2.1,
    Option.some_inj]

/-- What a write leaves of a stored receipt: the receipt itself, or a new version of
one that its owner wrote and that was not final. -/
theorem kept_of_write {rows rows' : List UsdtObservationRow}
    (write : ReceiptsWrite crypto owner rows rows') (stored : row ∈ rows) :
    ∃ row' ∈ rows', SameReceipt row row' ∧
      (row' = row ∨ owner.owns row = true ∧ row.finalized = false) := by
  cases write with
  | rewrite f keeps =>
    refine ⟨f row, List.mem_map_of_mem stored, ?_⟩
    rcases keeps row stored with same | ⟨own, receipt, -⟩
    · rw [same]
      exact ⟨⟨rfl, rfl, rfl, rfl⟩, .inl rfl⟩
    · exact ⟨receipt, .inr own⟩
  | insert new fresh owned intact =>
    exact ⟨row, List.mem_append_left _ stored, ⟨rfl, rfl, rfl, rfl⟩, .inl rfl⟩

theorem found_of_write
    (write : ReceiptsWrite crypto owner db.usdtObservations.rows db'.usdtObservations.rows)
    (found : db.usdtByTransfer transferHash = some row) :
    ∃ row', db'.usdtByTransfer transferHash = some row' ∧ SameReceipt row row' ∧
      (row' = row ∨ owner.owns row = true ∧ row.finalized = false) := by
  obtain ⟨stored, key⟩ := usdtByTransfer_eq_some_iff.mp found
  obtain ⟨row', stored', same, change⟩ := kept_of_write write stored
  exact ⟨row', usdtByTransfer_eq_some_iff.mpr
    ⟨stored', same.transferLookupHash.trans key⟩, same, change⟩

theorem owns_of_inserted
    (write : ReceiptsWrite crypto owner db.usdtObservations.rows db'.usdtObservations.rows)
    (free : db.usdtByTransfer transferHash = none)
    (found : db'.usdtByTransfer transferHash = some row) : owner.owns row = true := by
  obtain ⟨stored, key⟩ := usdtByTransfer_eq_some_iff.mp found
  have absent : ∀ row ∈ db.usdtObservations.rows, row.transferLookupHash ≠ transferHash := by
    intro row stored same
    exact lookup_eq_none_iff.mp free row stored (congrArg some same)
  generalize db'.usdtObservations.rows = rows' at write stored
  cases write with
  | rewrite f keeps =>
    obtain ⟨old, member, rfl⟩ := List.mem_map.mp stored
    rcases keeps old member with same | ⟨-, receipt, -⟩
    · exact absurd (same ▸ key) (absent old member)
    · exact absurd (receipt.transferLookupHash ▸ key) (absent old member)
  | insert new fresh owned intact =>
    rcases List.mem_append.mp stored with old | added
    · exact absurd key (absent row old)
    · rwa [List.mem_singleton.mp added]

end Writes

/-- What a locking read is still good for: it describes the receipt as it is now, or
the receipt belongs to somebody else. -/
def ReadCurrent (db : Database) (owner : ReceiptOwner) (transferHash : LookupHash)
    (receipt : Option LockedReceipt) : Prop :=
  receipt = lockReceipt db owner transferHash ∨
    ∃ row, db.usdtByTransfer transferHash = some row ∧ owner.owns row = false

namespace ReadCurrent

variable {crypto : Crypto} {db db' : Database} {owner owner' : ReceiptOwner}
variable {transferHash : LookupHash} {receipt : Option LockedReceipt}

theorem of_write (current : ReadCurrent db owner transferHash receipt)
    (write : ReceiptsWrite crypto owner' db.usdtObservations.rows db'.usdtObservations.rows)
    (other : owner' ≠ owner) : ReadCurrent db' owner transferHash receipt := by
  have unowned : ∀ row, db'.usdtByTransfer transferHash = some row → owner'.owns row = true →
      owner.owns row = false := by
    intro row found owned'
    have checks := db'.usdtObservations.valid.2.2 row (usdtByTransfer_eq_some_iff.mp found).1
    cases owned : owner.owns row with
    | false => rfl
    | true => exact absurd (owner_unique checks owned owned') other
  rcases current with rfl | ⟨row, found, foreign⟩
  · cases found : db.usdtByTransfer transferHash with
    | none =>
      cases found' : db'.usdtByTransfer transferHash with
      | none =>
        left
        simp [lockReceipt, found, found']
      | some row =>
        exact .inr ⟨row, found', unowned row found' (owns_of_inserted write found found')⟩
    | some row =>
      obtain ⟨row', found', same, rfl | ⟨owned', -⟩⟩ := found_of_write write found
      · left
        simp [lockReceipt, found, found']
      · exact .inr ⟨row', found', unowned row' found' ((owns_of_same same).trans owned')⟩
  · obtain ⟨row', found', same, -⟩ := found_of_write write found
    exact .inr ⟨row', found', (owns_of_same same).trans foreign⟩

theorem of_reserve {force reserved : Bool} {reservedHash : LookupHash} {now : OffsetDateTime}
    (current : ReadCurrent db owner transferHash receipt)
    (done : reserveReceipt db owner' reservedHash force now = .ok (reserved, db')) :
    ReadCurrent db' owner transferHash receipt := by
  have unmoved : lockReceipt db' owner transferHash = lockReceipt db owner transferHash := by
    obtain ⟨receipts, rfl, rows⟩ := reserveReceipt_ok done
    change (lookup _ _ receipts.rows).map _ = (db.usdtByTransfer transferHash).map _
    rw [rows, lookup_updateWhere (by intros; rfl), Option.map_map]
    refine congrArg (Option.map · _) (funext fun row => ?_)
    dsimp only [Function.comp]
    split <;> cases owner <;> rfl
  rcases current with rfl | ⟨row, found, foreign⟩
  · exact .inl unmoved.symm
  · obtain ⟨row', found', columns⟩ := Option.map_eq_some_iff.mp
      (unmoved.trans (congrArg (Option.map _) found))
    exact .inr ⟨row', found', (congrArg LockedReceipt.owned columns).trans foreign⟩

end ReadCurrent

section Complete

variable {env : Environment} {db db' : Database} {owner : ReceiptOwner}
variable {receipt : Option LockedReceipt} {transfer : VerifiedTransfer}
variable {transferHash : LookupHash} {dbNow now : OffsetDateTime} {observed : Bool}
variable {row : UsdtObservationRow}

/-- A transfer that is recorded for somebody else is not stored, whatever the locking
read showed: the insert runs into the unique key. -/
theorem storeTransfer_foreign {result : Option Database}
    (found : db.usdtByTransfer transferHash = some row) (foreign : owner.owns row = false)
    (done : storeTransfer db owner receipt transfer transferHash now = .ok (observed, result)) :
    result = none := by
  rcases storeTransfer_ok done with none | ⟨id, receipts, next, -, -, rows, owned, -⟩
  · exact none
  · exfalso
    obtain ⟨stored, key⟩ := usdtByTransfer_eq_some_iff.mp found
    have kept : row ∈ receipts.rows := by
      rw [rows, upsert_of_conflict (List.any_eq_true.mpr ⟨row, stored, decide_eq_true key⟩)]
      exact List.mem_map.mpr ⟨row, stored, by simp [key, refreshReceipt, foreign]⟩
    have found' := (lookup_eq_some_iff receipts.valid.2.1).mpr ⟨kept, congrArg some key⟩
    rw [found', Option.any_some, foreign] at owned
    cases owned

theorem completeUsdtTransfer_foreign
    (found : db.usdtByTransfer (env.crypto.usdtTransferLookupHash transfer.identity) = some row)
    (foreign : owner.owns row = false)
    (done : completeUsdtTransfer env.crypto db owner receipt transfer dbNow now =
      .ok (observed, db')) : db' = db := by
  cases owner with
  | invoice invoice =>
    simp only [completeUsdtTransfer] at done
    split at done
    · cases done
      rfl
    · rcases Invoices.completeUsdtTransfer_ok done with ⟨-, same⟩ | ⟨mid, stored, -⟩
      · exact same
      · cases storeTransfer_foreign found foreign stored
  | preparation preparation =>
    rcases MarketplacePreparations.completeUsdtTransfer_ok done with same | stored
    · exact same
    · cases storeTransfer_foreign found foreign stored

/-- An apply that follows its locking read at once is the server's own. -/
theorem completeUsdtTransfer_performs (done : completeUsdtTransfer env.crypto db owner
      (lockReceipt db owner (env.crypto.usdtTransferLookupHash transfer.identity)) transfer
      dbNow now = .ok (observed, db')) :
    ∃ action : Action, action.writer = some owner ∧ perform env db action = .ok db' := by
  cases owner with
  | invoice invoice =>
    refine ⟨.applyUsdt invoice transfer dbNow now, rfl, ?_⟩
    simp only [completeUsdtTransfer] at done
    simp only [perform]
    cases accepts : (db.invoice invoice).filter (·.payment.usdt.isSome) with
    | none =>
      rw [accepts] at done
      cases done
      rfl
    | some row =>
      rw [accepts] at done
      exact map_eq_ok.mpr ⟨_, done, rfl⟩
  | preparation preparation =>
    exact ⟨.applyMarketplaceUsdt preparation transfer dbNow, rfl, map_eq_ok.mpr ⟨_, done, rfl⟩⟩

theorem clearUsdtTransfer_performs
    (done : clearUsdtTransfer env.crypto db owner transferHash dbNow now = .ok db') :
    ∃ action : Action, action.writer = some owner ∧ perform env db action = .ok db' := by
  cases owner with
  | invoice invoice => exact ⟨.clearUsdt invoice transferHash dbNow now, rfl, done⟩
  | preparation preparation =>
    exact ⟨.clearMarketplaceUsdt preparation transferHash dbNow, rfl, done⟩

end Complete

def RecordedFor (db : Database) (owner : ReceiptOwner) (transferHash : LookupHash) : Prop :=
  ∃ row, db.usdtByTransfer transferHash = some row ∧ owner.owns row = true

/-- What a pass relies on between its statements. -/
def PassSound (crypto : Crypto) (db : Database) (pass : CandidatePass) : Prop :=
  match pass.phase with
  | .found _ | .ready (some _) | .clearing => RecordedFor db pass.owner (pass.transferHash crypto)
  | .verified transfer => transfer.identity = pass.identity
  | .locked transfer receipt => transfer.identity = pass.identity ∧
      ReadCurrent db pass.owner (pass.transferHash crypto) receipt
  | _ => True

/-- What one statement of a pass does: it moves the pass and leaves the database alone,
it reserves the receipt of its own candidate, or it performs an action of the server
for the owner, whose lock nobody else holds, and is done. -/
inductive PassMove (env : Environment) (db : Database) (pass : CandidatePass) (free : Bool) :
    Phase → Database → Prop
  | quiet {phase : Phase} (sound : PassSound env.crypto db { pass with phase := phase })
      (locks : ({ pass with phase := phase } : CandidatePass).holdsLock = true → free = true) :
      PassMove env db pass free phase db
  | reserve {phase : Phase} {db' : Database} {now : OffsetDateTime} {reserved : Bool}
      (recorded : RecordedFor db pass.owner (pass.transferHash env.crypto))
      (next : phase = .finished ∨ ∃ existing, phase = .ready (some existing))
      (done : reserveReceipt db pass.owner (pass.transferHash env.crypto) pass.force now =
        .ok (reserved, db')) : PassMove env db pass free phase db'
  | write {db' : Database} (action : Action) (exclusive : free = true ∨ pass.holdsLock = true)
      (owned : ∀ row, db.usdtByTransfer (pass.transferHash env.crypto) = some row →
        pass.owner.owns row = true)
      (writer : action.writer = some pass.owner) (done : perform env db action = .ok db') :
      PassMove env db pass free .finished db'

section Step

variable {env : Environment} {db db' : Database} {pass : CandidatePass} {free : Bool}
variable {event : PassEvent} {phase : Phase}

theorem RecordedFor.owned {owner : ReceiptOwner} {transferHash : LookupHash}
    (recorded : RecordedFor db owner transferHash) :
    ∀ row, db.usdtByTransfer transferHash = some row → owner.owns row = true := by
  intro row found
  obtain ⟨own, found', owned⟩ := recorded
  rw [found] at found'
  cases found'
  exact owned

theorem passStep_move (sound : PassSound env.crypto db pass)
    (done : passStep env.crypto db pass free event = .ok (phase, db')) :
    PassMove env db pass free phase db' := by
  have finished : PassMove env db pass free .finished db :=
    .quiet trivial fun locks => by cases locks
  unfold passStep at done
  dsimp only at done
  split at done
  · split at done
    · cases done
      exact .quiet trivial fun locks => by cases locks
    · rename_i existing read
      split at done
      · rename_i due
        cases done
        obtain ⟨row, found, rfl⟩ := Option.map_eq_some_iff.mp read
        refine .quiet ⟨row, found, ?_⟩ fun locks => by cases locks
        exact (Bool.and_eq_true_iff.mp due).1
      · cases done
        exact finished
  · split at done
    · rename_i legacy
      cases done
      obtain ⟨row, found, owned⟩ := (Option.any_eq_true _ _).mp legacy
      refine .quiet ⟨row, found, ?_⟩ fun locks => by cases locks
      exact (Bool.and_eq_true_iff.mp (Bool.and_eq_true_iff.mp owned).1).1
    · cases done
      exact finished
  · rename_i existing now found
    obtain ⟨⟨reserved, _⟩, hreserved, done⟩ := bind_eq_ok.mp done
    cases done
    simp only [PassSound, found] at sound
    refine .reserve sound ?_ hreserved
    split
    · exact .inr ⟨_, rfl⟩
    · exact .inl rfl
  · cases done
    exact .quiet rfl fun locks => by cases locks
  · rename_i existing ready
    split at done
    · rename_i credited
      cases done
      cases existing with
      | none => cases credited
      | some receipt =>
        simp only [PassSound, ready] at sound
        exact .quiet sound fun locks => by cases locks
    · cases done
      exact finished
  · rename_i transfer verified
    obtain ⟨_, unlocked, done⟩ := bind_eq_ok.mp done
    cases done
    simp only [PassSound, verified] at sound
    exact .quiet ⟨sound, .inl rfl⟩ fun _ => ensure_eq_ok.mp unlocked
  · rename_i transfer receipt dbNow now locked
    obtain ⟨⟨observed, _⟩, completed, done⟩ := bind_eq_ok.mp done
    cases done
    simp only [PassSound, locked] at sound
    obtain ⟨identity, current⟩ := sound
    have hash : pass.transferHash env.crypto =
        env.crypto.usdtTransferLookupHash transfer.identity := by
      rw [identity]
      rfl
    by_cases elsewhere : ∃ row, db.usdtByTransfer (pass.transferHash env.crypto) = some row ∧
        pass.owner.owns row = false
    · obtain ⟨row, found, foreign⟩ := elsewhere
      rw [completeUsdtTransfer_foreign (hash ▸ found) foreign completed]
      exact finished
    · rw [current.resolve_right elsewhere, hash] at completed
      obtain ⟨action, writer, performed⟩ := completeUsdtTransfer_performs completed
      refine .write action (.inr (by simp [CandidatePass.holdsLock, locked])) ?_ writer performed
      intro row found
      cases owned : pass.owner.owns row with
      | true => rfl
      | false => exact absurd ⟨row, found, owned⟩ elsewhere
  · rename_i dbNow now clearing
    obtain ⟨_, unlocked, _, cleared, done⟩ := bind₂_eq_ok.mp done
    cases done
    obtain ⟨action, writer, performed⟩ := clearUsdtTransfer_performs cleared
    simp only [PassSound, clearing] at sound
    exact .write action (.inl (ensure_eq_ok.mp unlocked)) sound.owned writer performed
  · cases done
    exact finished
  · cases done

theorem PassMove.writes (move : PassMove env db pass free phase db') :
    ReceiptsWrite env.crypto pass.owner db.usdtObservations.rows db'.usdtObservations.rows := by
  cases move with
  | quiet => exact .refl
  | reserve recorded next done => exact reserveReceipt_writes done
  | write action exclusive owned writer done =>
    rcases perform_receipts done with same | ⟨owner, own, write⟩
    · rw [same]
      exact .refl
    · rw [writer] at own
      cases own
      exact write

theorem PassMove.free_of_locks (move : PassMove env db pass free phase db')
    (locks : ({ pass with phase := phase } : CandidatePass).holdsLock = true) : free = true := by
  cases move with
  | quiet sound taken => exact taken locks
  | reserve recorded next done => rcases next with rfl | ⟨existing, rfl⟩ <;> cases locks
  | write => cases locks

theorem RecordedFor.of_write {crypto : Crypto} {owner owner' : ReceiptOwner}
    {transferHash : LookupHash} (recorded : RecordedFor db owner transferHash)
    (write : ReceiptsWrite crypto owner' db.usdtObservations.rows db'.usdtObservations.rows) :
    RecordedFor db' owner transferHash := by
  obtain ⟨row, found, owned⟩ := recorded
  obtain ⟨row', found', same, -⟩ := found_of_write write found
  exact ⟨row', found', (owns_of_same same).trans owned⟩

/-- What a pass relies on survives a change of the database that keeps its receipt
recorded and, if the pass holds a lock, its locking read current. -/
theorem PassSound.mono {crypto : Crypto} (sound : PassSound crypto db pass)
    (recorded : RecordedFor db pass.owner (pass.transferHash crypto) →
      RecordedFor db' pass.owner (pass.transferHash crypto))
    (current : pass.holdsLock = true → ∀ receipt,
      ReadCurrent db pass.owner (pass.transferHash crypto) receipt →
      ReadCurrent db' pass.owner (pass.transferHash crypto) receipt) :
    PassSound crypto db' pass := by
  unfold PassSound at sound ⊢
  split at sound
  · exact recorded sound
  · exact recorded sound
  · exact recorded sound
  · exact sound
  · rename_i transfer receipt locked
    exact ⟨sound.1, current (by simp [CandidatePass.holdsLock, locked]) receipt sound.2⟩
  · trivial

end Step

/-- The state of the passes in flight between any two statements. -/
structure Consistent (env : Environment) (s : ProofState) : Prop where
  sound : ∀ (k : Nat) (pass : CandidatePass), s.passes[k]? = some pass →
    PassSound env.crypto s.db pass
  /-- At most one pass holds the lock of an owner. -/
  exclusive : ∀ (j k : Nat) (first second : CandidatePass), s.passes[j]? = some first →
    s.passes[k]? = some second → first.holdsLock = true → second.holdsLock = true →
    first.owner = second.owner → j = k
  intact : ReceiptsIntact env.crypto s.db.usdtObservations.rows

section Consistency

variable {env : Environment} {s s' : ProofState} {index : Nat} {event : PassEvent}

theorem holdsLock_of_free {passes : List CandidatePass} {other : CandidatePass}
    (free : ownerFree passes other.owner = true) {k : Nat} (found : passes[k]? = some other) :
    other.holdsLock = false := by
  have unlocked := List.all_eq_true.mp free other (List.mem_of_getElem? found)
  simpa using unlocked

theorem proofStep_pass (consistent : Consistent env s)
    (done : proofStep env s (.pass index event) = .ok s') :
    ∃ pass phase, s.passes[index]? = some pass ∧
      s'.passes = s.passes.set index { pass with phase := phase } ∧
      PassMove env s.db pass (ownerFree s.passes pass.owner) phase s'.db := by
  obtain ⟨pass, found, ⟨phase, db⟩, stepped, done⟩ := bind₂_eq_ok.mp done
  cases done
  have found := demand_eq_ok.mp found
  exact ⟨pass, phase, found, rfl, passStep_move (consistent.sound index pass found) stepped⟩

theorem Consistent.pass (consistent : Consistent env s)
    (done : proofStep env s (.pass index event) = .ok s') : Consistent env s' := by
  obtain ⟨pass, phase, found, passes, move⟩ := proofStep_pass consistent done
  obtain ⟨db', passes'⟩ := s'
  dsimp only at passes move
  subst passes
  have write := move.writes
  have position : ∀ (k : Nat) (other : CandidatePass),
      (s.passes.set index { pass with phase := phase })[k]? = some other →
      (k = index ∧ other = { pass with phase := phase }) ∨
        (k ≠ index ∧ s.passes[k]? = some other) := by
    intro k other at'
    rw [List.getElem?_set] at at'
    split at at'
    · rename_i same
      split at at'
      · cases at'
        exact .inl ⟨same.symm, rfl⟩
      · cases at'
    · rename_i different
      exact .inr ⟨Ne.symm different, at'⟩
  have unlocked : ∀ (k : Nat) (other : CandidatePass), k ≠ index → s.passes[k]? = some other →
      other.owner = pass.owner → ownerFree s.passes pass.owner = true ∨ pass.holdsLock = true →
      other.holdsLock = false := by
    intro k other different at' same exclusive
    rcases exclusive with free | holds
    · exact holdsLock_of_free (same ▸ free) at'
    · cases locked : other.holdsLock with
      | false => rfl
      | true =>
        exact absurd (consistent.exclusive k index other pass at' found locked holds same)
          different
  refine ⟨?_, ?_, intact_of_write write consistent.intact⟩
  · intro k other at'
    rcases position k other at' with ⟨-, rfl⟩ | ⟨different, before⟩
    · cases move with
      | quiet sound locks => exact sound
      | reserve recorded next reserved =>
        rcases next with rfl | ⟨existing, rfl⟩
        · trivial
        · exact recorded.of_write write
      | write => trivial
    · refine (consistent.sound k other before).mono (·.of_write write) ?_
      intro locked receipt current
      cases move with
      | quiet => exact current
      | reserve recorded next reserved => exact current.of_reserve reserved
      | write action exclusive owned writer performed =>
        refine current.of_write write fun same => ?_
        rw [unlocked k other different before same.symm exclusive] at locked
        cases locked
  · intro j k first second atFirst atSecond locksFirst locksSecond same
    rcases position j first atFirst with ⟨rfl, rfl⟩ | ⟨differs, first'⟩
    · rcases position k second atSecond with ⟨rfl, -⟩ | ⟨differs, second'⟩
      · rfl
      · have free := unlocked k second differs second' same.symm (.inl (move.free_of_locks locksFirst))
        rw [free] at locksSecond
        cases locksSecond
    · rcases position k second atSecond with ⟨rfl, rfl⟩ | ⟨-, second'⟩
      · have free := unlocked j first differs first' same (.inl (move.free_of_locks locksSecond))
        rw [free] at locksFirst
        cases locksFirst
      · exact consistent.exclusive j k first second first' second' locksFirst locksSecond same

theorem Consistent.start (consistent : Consistent env s) (owner : ReceiptOwner)
    (identity : String) (bundle scan : Bool) :
    Consistent env
      { s with passes := s.passes ++ [⟨owner, identity, bundle, scan, .started⟩] } := by
  have position : ∀ (k : Nat) (other : CandidatePass),
      (s.passes ++ [⟨owner, identity, bundle, scan, .started⟩])[k]? = some other →
      s.passes[k]? = some other ∨ other = ⟨owner, identity, bundle, scan, .started⟩ := by
    intro k other found
    rw [List.getElem?_append] at found
    split at found
    · exact .inl found
    · exact .inr (List.mem_singleton.mp (List.mem_of_getElem? found))
  refine ⟨?_, ?_, consistent.intact⟩
  · intro k other found
    rcases position k other found with old | rfl
    · exact consistent.sound k other old
    · trivial
  · intro j k first second atFirst atSecond locksFirst locksSecond same
    rcases position j first atFirst with first' | rfl
    · rcases position k second atSecond with second' | rfl
      · exact consistent.exclusive j k first second first' second' locksFirst locksSecond same
      · cases locksSecond
    · cases locksFirst

theorem commit_receipts {db : Database} {request : Request} (quiet : request.isUsdt env = false) :
    ((server env).commit db request).usdtObservations.rows = db.usdtObservations.rows := by
  unfold System.commit
  split
  · rename_i db' done
    refine execute_rule (P := fun after => after.usdtObservations.rows =
      db.usdtObservations.rows) ?_ rfl done
    intro action member before after same performed
    have silent : action.writer = none := by
      simpa using List.any_eq_false.mp quiet action member
    rw [(perform_quiet performed silent).1]
    exact same
  · rfl

theorem Consistent.serve (consistent : Consistent env s) {request : Request}
    (quiet : request.isUsdt env = false) :
    Consistent env { s with db := (server env).commit s.db request } := by
  have rows : ((server env).commit s.db request).usdtObservations.rows = _ :=
    commit_receipts quiet
  have lookups : ∀ transferHash, ((server env).commit s.db request).usdtByTransfer transferHash =
      s.db.usdtByTransfer transferHash := by
    intro transferHash
    unfold Database.usdtByTransfer
    rw [rows]
  refine ⟨?_, consistent.exclusive, ?_⟩
  · intro k pass found
    refine (consistent.sound k pass found).mono ?_ ?_
    · rintro ⟨row, stored, owned⟩
      exact ⟨row, (lookups _).trans stored, owned⟩
    · intro _ receipt current
      unfold ReadCurrent lockReceipt at current ⊢
      rwa [lookups]
  · unfold ReceiptsIntact
    rw [rows]
    exact consistent.intact

theorem Consistent.step {event : ProofEvent} (consistent : Consistent env s)
    (done : proofStep env s event = .ok s') : Consistent env s' := by
  cases event with
  | start owner identity bundle scan =>
    cases done
    exact consistent.start owner identity bundle scan
  | pass index event => exact consistent.pass done
  | serve request =>
    obtain ⟨_, quiet, done⟩ := bind_eq_ok.mp done
    cases done
    exact consistent.serve (ensure_eq_ok.mp quiet)

theorem Consistent.initial {db : Database}
    (intact : ReceiptsIntact env.crypto db.usdtObservations.rows) : Consistent env ⟨db, []⟩ := by
  refine ⟨?_, ?_, intact⟩
  · intro k pass found
    simp at found
  · intro j k first second found
    simp at found

theorem proofStep_receipts {event : ProofEvent} (consistent : Consistent env s)
    (done : proofStep env s event = .ok s') :
    s'.db.usdtObservations.rows = s.db.usdtObservations.rows ∨
      ∃ index passEvent pass, event = .pass index passEvent ∧ s.passes[index]? = some pass ∧
        ReceiptsWrite env.crypto pass.owner s.db.usdtObservations.rows
          s'.db.usdtObservations.rows := by
  cases event with
  | start owner identity bundle scan =>
    cases done
    exact .inl rfl
  | pass index event =>
    obtain ⟨pass, phase, found, -, move⟩ := proofStep_pass consistent done
    exact .inr ⟨index, event, pass, rfl, found, move.writes⟩
  | serve request =>
    obtain ⟨_, quiet, done⟩ := bind_eq_ok.mp done
    cases done
    exact .inl (commit_receipts (ensure_eq_ok.mp quiet))

theorem proofStep_keeps {event : ProofEvent} {row : UsdtObservationRow}
    (consistent : Consistent env s) (done : proofStep env s event = .ok s')
    (stored : row ∈ s.db.usdtObservations.rows) :
    ∃ row' ∈ s'.db.usdtObservations.rows, SameReceipt row row' ∧
      (row' = row ∨ row.finalized = false) := by
  rcases proofStep_receipts consistent done with same | ⟨_, _, _, -, -, write⟩
  · exact ⟨row, same ▸ stored, ⟨rfl, rfl, rfl, rfl⟩, .inl rfl⟩
  · obtain ⟨row', stored', same, change⟩ := kept_of_write write stored
    exact ⟨row', stored', same, change.imp_right And.right⟩

theorem proofStep_foreign {pass : CandidatePass} {row : UsdtObservationRow}
    (consistent : Consistent env s) (done : proofStep env s (.pass index event) = .ok s')
    (at' : s.passes[index]? = some pass)
    (found : s.db.usdtByTransfer (pass.transferHash env.crypto) = some row)
    (foreign : pass.owner.owns row = false) : s'.db = s.db := by
  obtain ⟨mover, phase, found', -, move⟩ := proofStep_pass consistent done
  obtain ⟨db', passes'⟩ := s'
  dsimp only at move ⊢
  rw [at'] at found'
  cases found'
  have unrecorded : ¬ pass.owner.owns row = true := by simp [foreign]
  cases move with
  | quiet => rfl
  | reserve recorded => exact absurd (recorded.owned row found) unrecorded
  | write action exclusive owned => exact absurd (owned row found) unrecorded

end Consistency

section Run

variable {env : Environment} {s : ProofState}

theorem run_keeps (consistent : Consistent env s) (events : List ProofEvent)
    {row : UsdtObservationRow} (stored : row ∈ s.db.usdtObservations.rows) :
    ∃ row' ∈ ((proofPasses env).run s events).db.usdtObservations.rows, SameReceipt row row' ∧
      (row.finalized = true → row' = row) := by
  suffices kept : Consistent env ((proofPasses env).run s events) ∧
      ∃ row' ∈ ((proofPasses env).run s events).db.usdtObservations.rows, SameReceipt row row' ∧
        (row.finalized = true → row' = row) from kept.2
  refine System.run_invariant (P := fun s' => Consistent env s' ∧
    ∃ row' ∈ s'.db.usdtObservations.rows, SameReceipt row row' ∧
      (row.finalized = true → row' = row)) ?_
    ⟨consistent, row, stored, ⟨rfl, rfl, rfl, rfl⟩, fun _ => rfl⟩
  rintro s event s' ⟨consistent, mid, member, same, final⟩ done
  have stepped : proofStep env s event = .ok s' := done
  obtain ⟨row', member', same', change⟩ := proofStep_keeps consistent stepped member
  refine ⟨consistent.step stepped, row', member', same.trans same', fun finalized => ?_⟩
  rcases change with rfl | unfinished
  · exact final finalized
  · rw [final finalized, finalized] at unfinished
    cases unfinished

theorem request_of_writer (env : Environment) {action : Action} {owner : ReceiptOwner}
    (writer : action.writer = some owner) : ∃ request, requestActions env request = [action] := by
  cases action with
  | reserveUsdt owner transferHash force dbNow =>
    exact ⟨.reserveUsdt owner transferHash force dbNow, rfl⟩
  | applyUsdt invoice transfer dbNow now => exact ⟨.applyUsdt invoice transfer dbNow now, rfl⟩
  | clearUsdt invoice transferHash dbNow now =>
    exact ⟨.clearUsdt invoice transferHash dbNow now, rfl⟩
  | applyMarketplaceUsdt preparation transfer dbNow =>
    exact ⟨.applyMarketplaceUsdt preparation transfer dbNow, rfl⟩
  | clearMarketplaceUsdt preparation transferHash dbNow =>
    exact ⟨.clearMarketplaceUsdt preparation transferHash dbNow, rfl⟩
  | _ => cases writer

theorem commit_of_performed {db db' : Database} {action : Action} {request : Request}
    (single : requestActions env request = [action]) (done : perform env db action = .ok db') :
    (server env).commit db request = db' := by
  refine System.commit_of_ok ?_
  change execute (perform env) db (requestActions env request) = .ok db'
  rw [single, execute_cons, done]
  rfl

/-- An interleaved run of passes does to the database what the server does when it
performs their statements one after the other. -/
theorem passes_serializable (env : Environment) (db : Database)
    (intact : ReceiptsIntact env.crypto db.usdtObservations.rows) (events : List ProofEvent) :
    ∃ requests, (passesReached env db events).db = (server env).run db requests := by
  suffices serial : Consistent env (passesReached env db events) ∧
      ∃ requests, (passesReached env db events).db = (server env).run db requests from serial.2
  refine System.run_invariant (P := fun s => Consistent env s ∧
    ∃ requests, s.db = (server env).run db requests) ?_ ⟨.initial intact, [], rfl⟩
  rintro s event s' ⟨consistent, requests, reached⟩ done
  have stepped : proofStep env s event = .ok s' := done
  refine ⟨consistent.step stepped, ?_⟩
  have extended : ∀ request, s'.db = (server env).commit s.db request →
      ∃ requests, s'.db = (server env).run db requests := by
    intro request next
    exact ⟨requests ++ [request], by rw [next, reached, System.run_append]; rfl⟩
  cases event with
  | start owner identity bundle scan =>
    cases stepped
    exact ⟨requests, reached⟩
  | pass index event =>
    obtain ⟨pass, phase, -, -, move⟩ := proofStep_pass consistent stepped
    obtain ⟨db', passes'⟩ := s'
    dsimp only at move extended ⊢
    cases move with
    | quiet => exact ⟨requests, reached⟩
    | @reserve _ _ now _ _ _ reserved =>
      refine extended (.reserveUsdt pass.owner (pass.transferHash env.crypto) pass.force now) ?_
      exact (commit_of_performed rfl (map_eq_ok.mpr ⟨_, reserved, rfl⟩)).symm
    | write action _ _ writer performed =>
      obtain ⟨request, single⟩ := request_of_writer env writer
      exact extended request (commit_of_performed single performed).symm
  | serve request =>
    obtain ⟨_, -, stepped⟩ := bind_eq_ok.mp stepped
    cases stepped
    exact extended request rfl

end Run

/-- A transfer settles one request, in every interleaving of proof passes. A recorded
receipt is never lost, no other request ever holds its transfer, and a final receipt
never changes. What counts toward an invoice or a Marketplace request is recorded for it.
A pass for a transfer that somebody else holds changes nothing, and a receipt that is not
final changes only through a pass of its owner. -/
theorem transfer_settles_one_request (env : Environment) (db : Database)
    (intact : ReceiptsIntact env.crypto db.usdtObservations.rows) (events more : List ProofEvent) :
    (∀ row ∈ (passesReached env db events).db.usdtObservations.rows,
      (∃ row' ∈ (passesReached env db (events ++ more)).db.usdtObservations.rows,
        SameReceipt row row') ∧
      (∀ row' ∈ (passesReached env db (events ++ more)).db.usdtObservations.rows,
        row'.facts.identity = row.facts.identity → SameReceipt row row') ∧
      (row.finalized = true →
        row ∈ (passesReached env db (events ++ more)).db.usdtObservations.rows)) ∧
    (∀ invoice required identity payment,
      usdtPayment env.crypto (passesReached env db events).db invoice required =
        .ok (some (identity, payment)) →
      ∃ receipt ∈ (passesReached env db events).db.usdtObservations.rows,
        receipt.facts.identity = identity ∧ receipt.invoiceId = some invoice.id ∧
        receipt.present = true) ∧
    (∀ preparation payment activatedAt deadline usdt first,
      MarketplacePreparations.statusUsdt env.crypto (passesReached env db events).db preparation
        payment activatedAt deadline = .ok (usdt, first) →
      (∀ status ∈ usdt, ∃ receipt ∈ (passesReached env db events).db.usdtObservations.rows,
        receipt.marketplacePreparationId = some preparation ∧ receipt.present = true ∧
        MarketplacePreparations.transactionHash receipt.facts.identity = .ok status.txHash ∧
        receipt.facts.amount = status.observedAmount) ∧
      ∀ time ∈ first, ∃ receipt ∈ (passesReached env db events).db.usdtObservations.rows,
        receipt.marketplacePreparationId = some preparation ∧ receipt.present = true ∧
        receipt.facts.timestamp = time) ∧
    ∀ t ∈ (proofPasses env).history ⟨db, []⟩ events,
      (∀ index event pass row, t.action = .pass index event →
        t.before.passes[index]? = some pass →
        t.before.db.usdtByTransfer (pass.transferHash env.crypto) = some row →
        pass.owner.owns row = false → t.after.db = t.before.db) ∧
      ∀ row ∈ t.before.db.usdtObservations.rows, row ∉ t.after.db.usdtObservations.rows →
        ∃ index event pass, t.action = .pass index event ∧
          t.before.passes[index]? = some pass ∧ pass.owner.owns row = true ∧
          row.finalized = false := by
  have stays : ∀ {s event s'}, Consistent env s → (proofPasses env).perform s event = .ok s' →
      Consistent env s' := fun consistent done => consistent.step done
  have consistent : ∀ events, Consistent env (passesReached env db events) := fun events =>
    System.run_invariant (fun _ _ _ => stays) (.initial intact)
  refine ⟨?_, ?_, ?_, ?_⟩
  · intro row stored
    have continued : passesReached env db (events ++ more) =
        (proofPasses env).run (passesReached env db events) more := System.run_append
    obtain ⟨kept, member, same, final⟩ := run_keeps (consistent events) more stored
    rw [← continued] at member
    refine ⟨⟨kept, member, same⟩, ?_, fun finalized => final finalized ▸ member⟩
    intro row' member' identity
    have key : row'.transferLookupHash = kept.transferLookupHash := by
      rw [(consistent _).intact row' member', identity, same.transferLookupHash,
        (consistent _).intact row stored]
    have only := (passesReached env db (events ++ more)).db.usdtObservations.valid.2.1.eq_of_key
      member' member rfl (congrArg some key.symm)
    rwa [only]
  · intro invoice required identity payment selected
    obtain ⟨row, stored, owner, present, candidate⟩ := usdtPayment_mem selected
    exact ⟨row, stored, congrArg Prod.fst candidate, owner, present⟩
  · intro preparation payment activatedAt deadline usdt first read
    exact MarketplacePreparations.statusUsdt_mem read
  · intro t member
    obtain ⟨before, done⟩ := System.history_invariant (fun _ _ _ => stays) (.initial intact) member
    have stepped : proofStep env t.before t.action = .ok t.after := done
    constructor
    · intro index event pass row action at' found foreign
      rw [action] at stepped
      exact proofStep_foreign before stepped at' found foreign
    · intro row stored gone
      rcases proofStep_receipts before stepped with same | ⟨index, event, pass, action, at', write⟩
      · exact absurd (same ▸ stored) gone
      · obtain ⟨row', member', -, rfl | ⟨owned, pending⟩⟩ := kept_of_write write stored
        · exact absurd member' gone
        · exact ⟨index, event, pass, action, at', owned, pending⟩

/-- Two invoices race for one final transfer: both passes read and lock before either
inserts, and the second one inserts first. -/
def race : List ProofEvent :=
  let invoice := Request.createInvoice ⟨0, 0, 0, 0, none, some ⟨"u", 5⟩⟩ 0 100
  let verify := PassEvent.verify (some ⟨"transfer", 5, 10, 1, true, 0⟩)
  [.serve invoice, .serve invoice, .start (.invoice 0) "transfer" false true,
    .start (.invoice 1) "transfer" false true, .pass 0 (.read 10), .pass 1 (.read 10),
    .pass 0 verify, .pass 1 verify, .pass 0 .lock, .pass 1 .lock, .pass 1 (.apply 10 10)]

theorem transfer_settles_race_winner :
    ∃ row ∈ (passesReached Sample.environment Database.empty race).db.usdtObservations.rows,
      row.invoiceId = some 1 ∧ row.finalized = true ∧
      row ∈ (passesReached Sample.environment Database.empty
        (race ++ [.pass 0 (.apply 20 20)])).db.usdtObservations.rows := by
  obtain ⟨row, found, columns⟩ := Option.map_eq_some_iff.mp
    (show ((passesReached Sample.environment Database.empty race).db.usdtByTransfer
        (Sample.environment.crypto.usdtTransferLookupHash "transfer")).map
        (fun row => (row.invoiceId, row.finalized)) = some (some 1, true) by decide +kernel)
  obtain ⟨owner, final⟩ := Prod.mk.inj columns
  obtain ⟨receipts, -⟩ := transfer_settles_one_request Sample.environment Database.empty
    (fun row stored => by cases stored) race [.pass 0 (.apply 20 20)]
  have stored := lookup_mem found
  exact ⟨row, stored, owner, final, (receipts row stored).2.2 final⟩

theorem passes_serializable_race :
    ∃ requests, (passesReached Sample.environment Database.empty race).db =
      (server Sample.environment).run Database.empty requests :=
  passes_serializable _ _ (fun row stored => by cases stored) race

end PaykitServer.Settlement
