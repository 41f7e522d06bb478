import PaykitServer.Persistence.Database

/-!
# Statements on USDT receipts

Locks invoices and Marketplace settlements keep their receipts in one table and
write it with the same statements; only the owner column differs. Each
statement below takes the owner as a parameter, and the two stores name it.

A receipt has exactly one owner for its whole life, and a finalized receipt is
never rewritten. The statements carry both in their conditions: an update
applies to rows of the acting owner only, and the insert keeps every column of
a conflicting row that belongs to somebody else.
-/

namespace PaykitServer.Persistence

open Relational

/-- The request a receipt is recorded for. -/
inductive ReceiptOwner where
  | invoice (id : Uuid)
  | preparation (id : Uuid)
deriving DecidableEq, Repr

namespace ReceiptOwner

def owns : ReceiptOwner → UsdtObservationRow → Bool
  | .invoice id, row => row.invoiceId = some id
  | .preparation id, row => row.marketplacePreparationId = some id

def invoiceId : ReceiptOwner → Option Uuid
  | .invoice id => some id
  | .preparation _ => none

def marketplacePreparationId : ReceiptOwner → Option Uuid
  | .invoice _ => none
  | .preparation id => some id

end ReceiptOwner

/-- A transfer confirmed on chain for one proof candidate. -/
structure VerifiedTransfer where
  identity : String
  amount : Nat
  timestamp : OffsetDateTime
  confirmations : Nat
  finalized : Bool
  sender : BitVec 160
deriving DecidableEq

def minute : Int := 60000000
def fifteenSeconds : Int := 15000000

/-- What a pass reads about a candidate before any network call. -/
structure ExistingReceipt where
  skip : Bool
  present : Bool
  owned : Bool
deriving DecidableEq, Repr

/-- The first read of a pass: a receipt is skipped when it is final or, in a
background scan, was checked within the last minute. -/
def readExisting (db : Database) (owner : ReceiptOwner) (transferHash : LookupHash)
    (background : Bool) (now : OffsetDateTime) : Option ExistingReceipt :=
  (db.usdtByTransfer transferHash).map fun row =>
    { skip := row.finalized || (background && owner.owns row && row.present &&
        decide (row.checkedAt ≤ now) && decide (now - minute < row.checkedAt))
      present := row.present
      owned := owner.owns row }

def dueForCheck (force : Bool) (now : OffsetDateTime) (row : UsdtObservationRow) : Bool :=
  force || decide (now < row.checkedAt) ||
    decide (row.checkedAt ≤ now - if row.present then minute else fifteenSeconds)

/-- Reserve a receipt before the network call, so that failures and restarts
retain the refresh interval. The flag says whether a row was reserved. -/
def reserveReceipt (db : Database) (owner : ReceiptOwner) (transferHash : LookupHash)
    (force : Bool) (now : OffsetDateTime) : Except PersistenceError (Bool × Database) := do
  let reserved := fun row : UsdtObservationRow =>
    owner.owns row && decide (row.transferLookupHash = transferHash) && !row.finalized &&
      dueForCheck force now row
  let receipts ← Table.write .unavailable
    (updateWhere reserved (fun row => { row with checkedAt := now }) db.usdtObservations.rows)
  return (db.usdtObservations.rows.any reserved, { db with usdtObservations := receipts })

def withdrawReceipt (db : Database) (owner : ReceiptOwner) (transferHash : LookupHash)
    (now : OffsetDateTime) : Except PersistenceError Database := do
  let receipts ← Table.write .unavailable
    (updateWhere
      (fun row => owner.owns row && decide (row.transferLookupHash = transferHash) &&
        !row.finalized)
      (fun row => { row with present := false, confirmations := 0, checkedAt := now })
      db.usdtObservations.rows)
  return { db with usdtObservations := receipts }

/-- What the locking read of an apply returns about the receipt's row. -/
structure LockedReceipt where
  id : Uuid
  owned : Bool
  finalized : Bool
deriving DecidableEq, Repr

def lockReceipt (db : Database) (owner : ReceiptOwner) (transferHash : LookupHash) :
    Option LockedReceipt :=
  (db.usdtByTransfer transferHash).map fun row => ⟨row.id, owner.owns row, row.finalized⟩

def newReceiptRow (id : Uuid) (owner : ReceiptOwner) (transfer : VerifiedTransfer)
    (transferHash : LookupHash) (now : OffsetDateTime) : UsdtObservationRow where
  id := id
  invoiceId := owner.invoiceId
  marketplacePreparationId := owner.marketplacePreparationId
  transferLookupHash := transferHash
  facts := ⟨transfer.identity, transfer.amount, transfer.timestamp⟩
  sender := some transfer.sender
  confirmations := transfer.confirmations
  present := true
  finalized := transfer.finalized
  checkedAt := now

/-- Refresh a conflicting row, column by column, when it belongs to the owner. -/
def refreshReceipt (owner : ReceiptOwner) (new row : UsdtObservationRow) : UsdtObservationRow :=
  if owner.owns row then
    { row with
      facts := new.facts
      sender := new.sender
      confirmations := new.confirmations
      present := true
      checkedAt := new.checkedAt
      finalized := new.finalized }
  else row

/-- Insert or refresh the receipt of a transfer. The flag says whether the row
that now carries the transfer belongs to the owner. -/
def upsertReceipt (db : Database) (owner : ReceiptOwner) (locked : Option LockedReceipt)
    (transfer : VerifiedTransfer) (transferHash : LookupHash) (now : OffsetDateTime) :
    Except PersistenceError (Bool × Database) := do
  let (id, db) := db.identityFor (locked.map (·.id))
  ensure (transfer.confirmations < 2 ^ 31) .invalidInput
  let new := newReceiptRow id owner transfer transferHash now
  let receipts ← Table.write .unavailable
    (upsert (fun row => row.transferLookupHash = transferHash) new (refreshReceipt owner new)
      db.usdtObservations.rows)
  let db := { db with usdtObservations := receipts }
  return ((db.usdtByTransfer transferHash).any owner.owns, db)

/-- The part of an apply after the locking read. A receipt owned elsewhere and a
final receipt are left alone; the state is returned only when it is to be
committed. -/
def storeTransfer (db : Database) (owner : ReceiptOwner) (locked : Option LockedReceipt)
    (transfer : VerifiedTransfer) (transferHash : LookupHash) (now : OffsetDateTime) :
    Except PersistenceError (Bool × Option Database) :=
  match locked with
  | some ⟨_, false, _⟩ => .ok (false, none)
  | some ⟨_, true, true⟩ => .ok (true, none)
  | _ => do
    let (owned, db) ← upsertReceipt db owner locked transfer transferHash now
    return if owned then (true, some db) else (false, none)

section Inversion

variable {db db' : Database} {owner : ReceiptOwner} {locked : Option LockedReceipt}
variable {transfer : VerifiedTransfer} {transferHash : LookupHash} {now : OffsetDateTime}

theorem reserveReceipt_ok {force reserved : Bool}
    (done : reserveReceipt db owner transferHash force now = .ok (reserved, db')) :
    ∃ receipts, db' = { db with usdtObservations := receipts } ∧
      receipts.rows = updateWhere
        (fun row => owner.owns row && decide (row.transferLookupHash = transferHash) &&
          !row.finalized && dueForCheck force now row)
        (fun row => { row with checkedAt := now }) db.usdtObservations.rows := by
  unfold reserveReceipt at done
  obtain ⟨receipts, written, done⟩ := bind_eq_ok.mp done
  cases done
  exact ⟨receipts, rfl, Table.write_eq_ok.mp written⟩

theorem withdrawReceipt_ok (done : withdrawReceipt db owner transferHash now = .ok db') :
    ∃ receipts, db' = { db with usdtObservations := receipts } ∧
      receipts.rows = updateWhere
        (fun row => owner.owns row && decide (row.transferLookupHash = transferHash) &&
          !row.finalized)
        (fun row => { row with present := false, confirmations := 0, checkedAt := now })
        db.usdtObservations.rows := by
  unfold withdrawReceipt at done
  obtain ⟨receipts, written, done⟩ := bind_eq_ok.mp done
  cases done
  exact ⟨receipts, rfl, Table.write_eq_ok.mp written⟩

/-- What an upsert wrote: one inserted or refreshed row. -/
theorem upsertReceipt_ok {owned : Bool}
    (done : upsertReceipt db owner locked transfer transferHash now = .ok (owned, db')) :
    ∃ id receipts nextUuid,
      db' = { db with usdtObservations := receipts, nextUuid := nextUuid } ∧
      receipts.rows = upsert (fun row => row.transferLookupHash = transferHash)
        (newReceiptRow id owner transfer transferHash now)
        (refreshReceipt owner (newReceiptRow id owner transfer transferHash now))
        db.usdtObservations.rows ∧
      owned = (lookup (fun row => some row.transferLookupHash) transferHash receipts.rows).any
        owner.owns ∧
      db.nextUuid ≤ nextUuid := by
  unfold upsertReceipt at done
  obtain ⟨-, next, drawn, order⟩ := db.identityFor_eq (locked.map (·.id))
  dsimp only at done
  rw [drawn] at done
  obtain ⟨_, _, receipts, written, done⟩ := bind₂_eq_ok.mp done
  cases done
  exact ⟨_, receipts, next, rfl, Table.write_eq_ok.mp written, rfl, order⟩

/-- What a stored transfer wrote: nothing, or one inserted or refreshed row, which
the locking read did not show as final or owned elsewhere. The row that carries
the transfer then belongs to the owner. -/
theorem storeTransfer_ok {observed : Bool} {result : Option Database}
    (done : storeTransfer db owner locked transfer transferHash now = .ok (observed, result)) :
    result = none ∨ ∃ id receipts nextUuid,
      result = some { db with usdtObservations := receipts, nextUuid := nextUuid } ∧
        (∀ row ∈ locked, row.owned = true ∧ row.finalized = false) ∧
        receipts.rows = upsert (fun row => row.transferLookupHash = transferHash)
          (newReceiptRow id owner transfer transferHash now)
          (refreshReceipt owner (newReceiptRow id owner transfer transferHash now))
          db.usdtObservations.rows ∧
        (lookup (fun row => some row.transferLookupHash) transferHash receipts.rows).any
          owner.owns = true ∧
        db.nextUuid ≤ nextUuid := by
  unfold storeTransfer at done
  split at done
  · cases done
    exact .inl rfl
  · cases done
    exact .inl rfl
  · rename_i notElsewhere notFinal
    obtain ⟨⟨owned, stored⟩, hstored, done⟩ := bind_eq_ok.mp done
    obtain ⟨id, receipts, next, rfl, rows, owns, order⟩ := upsertReceipt_ok hstored
    cases owned with
    | false =>
      cases done
      exact .inl rfl
    | true =>
      cases done
      refine .inr ⟨id, receipts, next, rfl, ?_, rows, owns.symm, order⟩
      rintro ⟨id, owned, finalized⟩ found
      cases owned with
      | false => exact absurd found (notElsewhere id finalized)
      | true =>
        cases finalized with
        | true => exact absurd found (notFinal id)
        | false => exact ⟨rfl, rfl⟩

end Inversion

/-- The columns that make a row the receipt of one transfer for one request. -/
structure SameReceipt (row row' : UsdtObservationRow) : Prop where
  id : row'.id = row.id
  invoiceId : row'.invoiceId = row.invoiceId
  marketplacePreparationId : row'.marketplacePreparationId = row.marketplacePreparationId
  transferLookupHash : row'.transferLookupHash = row.transferLookupHash

theorem SameReceipt.trans {first second third : UsdtObservationRow}
    (before : SameReceipt first second) (after : SameReceipt second third) :
    SameReceipt first third :=
  ⟨after.id.trans before.id, after.invoiceId.trans before.invoiceId,
    after.marketplacePreparationId.trans before.marketplacePreparationId,
    after.transferLookupHash.trans before.transferLookupHash⟩

/-- What the statements of one owner can do to the receipts: rewrite some of the
owner's rows that are not final, or insert a row for a transfer that has none. -/
inductive ReceiptsWrite (crypto : Crypto) (owner : ReceiptOwner)
    (rows : List UsdtObservationRow) : List UsdtObservationRow → Prop
  | rewrite (f : UsdtObservationRow → UsdtObservationRow)
      (keeps : ∀ row ∈ rows, f row = row ∨
        (owner.owns row = true ∧ row.finalized = false) ∧ SameReceipt row (f row) ∧
          ((f row).facts = row.facts ∨
            row.transferLookupHash = crypto.usdtTransferLookupHash (f row).facts.identity)) :
      ReceiptsWrite crypto owner rows (rows.map f)
  | insert (new : UsdtObservationRow)
      (fresh : ∀ row ∈ rows, row.transferLookupHash ≠ new.transferLookupHash)
      (owned : owner.owns new = true)
      (intact : new.transferLookupHash = crypto.usdtTransferLookupHash new.facts.identity) :
      ReceiptsWrite crypto owner rows (rows ++ [new])

section Writes

variable {crypto : Crypto} {db db' : Database} {owner : ReceiptOwner}
variable {transferHash : LookupHash} {now : OffsetDateTime}

variable {rows : List UsdtObservationRow} {transfer : VerifiedTransfer}

theorem ReceiptsWrite.refl :
    ReceiptsWrite crypto owner rows rows := by
  have kept : ReceiptsWrite crypto owner rows (rows.map id) := .rewrite id fun _ _ => .inl rfl
  rwa [List.map_id] at kept

theorem reserveReceipt_writes {force reserved : Bool}
    (done : reserveReceipt db owner transferHash force now = .ok (reserved, db')) :
    ReceiptsWrite crypto owner db.usdtObservations.rows db'.usdtObservations.rows := by
  obtain ⟨receipts, rfl, rows⟩ := reserveReceipt_ok done
  change ReceiptsWrite _ _ _ receipts.rows
  rw [rows]
  refine .rewrite _ fun row _ => ?_
  split
  · rename_i due
    simp only [Bool.and_eq_true, Bool.not_eq_true'] at due
    exact .inr ⟨⟨due.1.1.1, due.1.2⟩, ⟨rfl, rfl, rfl, rfl⟩, .inl rfl⟩
  · exact .inl rfl

theorem withdrawReceipt_writes (done : withdrawReceipt db owner transferHash now = .ok db') :
    ReceiptsWrite crypto owner db.usdtObservations.rows db'.usdtObservations.rows := by
  obtain ⟨receipts, rfl, rows⟩ := withdrawReceipt_ok done
  change ReceiptsWrite _ _ _ receipts.rows
  rw [rows]
  refine .rewrite _ fun row _ => ?_
  split
  · rename_i pending
    simp only [Bool.and_eq_true, Bool.not_eq_true'] at pending
    exact .inr ⟨⟨pending.1.1, pending.2⟩, ⟨rfl, rfl, rfl, rfl⟩, .inl rfl⟩
  · exact .inl rfl

theorem owns_newReceiptRow (id : Uuid) (transfer : VerifiedTransfer) :
    owner.owns (newReceiptRow id owner transfer transferHash now) = true := by
  cases owner <;> simp [ReceiptOwner.owns, newReceiptRow, ReceiptOwner.invoiceId,
    ReceiptOwner.marketplacePreparationId]

theorem lookup_upsertReceipt {new : UsdtObservationRow}
    (hashed : new.transferLookupHash = transferHash) (own : owner.owns new = true)
    (present : new.present = true)
    (pending : ∀ row ∈ lookup (fun row => some row.transferLookupHash) transferHash rows,
      owner.owns row = true) :
    ∃ row', lookup (fun row => some row.transferLookupHash) transferHash
        (upsert (fun row => row.transferLookupHash = transferHash) new (refreshReceipt owner new)
          rows) = some row' ∧ owner.owns row' = true ∧ row'.present = true ∧
      row'.facts = new.facts ∧ row'.confirmations = new.confirmations ∧
      row'.finalized = new.finalized := by
  cases taken : rows.any fun row => row.transferLookupHash = transferHash with
  | false =>
    have fresh : lookup (fun row : UsdtObservationRow => some row.transferLookupHash)
        transferHash rows = none := by
      refine lookup_eq_none_iff.mpr fun row stored same => ?_
      have free := List.any_eq_false.mp taken row stored
      exact free (decide_eq_true (Option.some.inj same))
    rw [upsert_of_fresh taken, lookup_append, fresh, if_pos (congrArg some hashed)]
    exact ⟨new, rfl, own, present, rfl, rfl, rfl⟩
  | true =>
    rw [upsert_of_conflict taken, lookup_updateWhere]
    · obtain ⟨stored, member, same⟩ := List.any_eq_true.mp taken
      obtain ⟨row, found⟩ : ∃ row, lookup (fun row : UsdtObservationRow =>
          some row.transferLookupHash) transferHash rows = some row := by
        refine Option.ne_none_iff_exists'.mp fun missing => ?_
        exact lookup_eq_none_iff.mp missing stored member
          (congrArg some (of_decide_eq_true same))
      have owned := pending row found
      have key := lookup_key found
      have hash : row.transferLookupHash = transferHash := Option.some.inj key
      rw [found, Option.map_some, if_pos (decide_eq_true hash)]
      refine ⟨_, rfl, ?_⟩
      simp only [refreshReceipt, owned, if_true, and_true]
      cases owner <;> exact owned
    · intro row _
      unfold refreshReceipt
      split <;> rfl

theorem storeTransfer_pending {observed : Bool} {result : Option Database}
    (pending : ∀ row ∈ db.usdtByTransfer transferHash,
      owner.owns row = true ∧ row.finalized = false)
    (done : storeTransfer db owner (lockReceipt db owner transferHash) transfer transferHash now =
      .ok (observed, result)) : result.isSome = true := by
  generalize hlocked : lockReceipt db owner transferHash = locked at done
  have open' : ∀ receipt ∈ locked, receipt.owned = true ∧ receipt.finalized = false := by
    subst hlocked
    intro receipt member
    obtain ⟨row, found, rfl⟩ := Option.map_eq_some_iff.mp member
    exact pending row found
  unfold storeTransfer at done
  split at done
  · cases (open' _ rfl).1
  · cases (open' _ rfl).2
  · obtain ⟨⟨owned, stored⟩, hstored, done⟩ := bind_eq_ok.mp done
    obtain ⟨id, receipts, next, -, rows, owns, -⟩ := upsertReceipt_ok hstored
    obtain ⟨row, found, own, -⟩ := lookup_upsertReceipt
      (show (newReceiptRow id owner transfer transferHash now).transferLookupHash = transferHash
        from rfl) (owns_newReceiptRow id transfer) rfl fun row stored => (pending row stored).1
    rw [rows, found, Option.any_some, own] at owns
    subst owns
    cases done
    rfl

theorem storeTransfer_writes {locked : Option LockedReceipt}
    {observed : Bool} (hashed : transferHash = crypto.usdtTransferLookupHash transfer.identity)
    (current : ∀ row ∈ db.usdtByTransfer transferHash, owner.owns row = true →
      ∃ receipt ∈ locked, receipt.finalized = row.finalized)
    (done : storeTransfer db owner locked transfer transferHash now = .ok (observed, some db')) :
    ReceiptsWrite crypto owner db.usdtObservations.rows db'.usdtObservations.rows := by
  obtain ⟨id, receipts, next, stored, pending, rows, -⟩ :=
    (storeTransfer_ok done).resolve_left (by simp)
  cases stored
  change ReceiptsWrite _ _ _ receipts.rows
  rw [rows]
  cases taken : db.usdtObservations.rows.any fun row => row.transferLookupHash = transferHash with
  | false =>
    rw [upsert_of_fresh taken]
    refine .insert _ ?_ (owns_newReceiptRow id transfer) hashed
    intro row stored same
    have free := List.any_eq_false.mp taken row stored
    exact free (decide_eq_true same)
  | true =>
    rw [upsert_of_conflict taken]
    refine .rewrite _ fun row stored => ?_
    split
    · rename_i same
      unfold refreshReceipt
      split
      · rename_i owned
        have found : db.usdtByTransfer transferHash = some row :=
          (lookup_eq_some_iff db.usdtObservations.valid.2.1).mpr
            ⟨stored, congrArg some (of_decide_eq_true same)⟩
        obtain ⟨receipt, read, final⟩ := current row found owned
        refine .inr ⟨⟨owned, final ▸ (pending receipt read).2⟩, ⟨rfl, rfl, rfl, rfl⟩, .inr ?_⟩
        exact (of_decide_eq_true same).trans hashed
      · exact .inl rfl
    · exact .inl rfl

theorem lockReceipt_current :
    ∀ row ∈ db.usdtByTransfer transferHash, owner.owns row = true →
      ∃ receipt ∈ lockReceipt db owner transferHash, receipt.finalized = row.finalized := by
  intro row found _
  exact ⟨_, congrArg (Option.map _) found, rfl⟩

end Writes

end PaykitServer.Persistence
