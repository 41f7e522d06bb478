import Mathlib.Data.List.MinMax
import Mathlib.Data.Prod.Lex
import Mathlib.Data.String.Basic
import PaykitServer.Persistence.Database

/-!
# Stored USDT receipts of an invoice

An invoice may have several receipts; one of them is selected for status and
settlement. The loop over the stored rows keeps a running best by rank and
identity. `usdtPayment_eq` says that the loop computes the rank maximum of the
present receipts, which is how the rest of the development uses it.
-/

namespace PaykitServer.Persistence

open Relational

/-- What one rail currently shows for an invoice. -/
structure ObservedPayment where
  present : Bool
  matched : Bool
  timely : Bool
  confirmations : Int
  finalized : Bool
  receivedAt : Option OffsetDateTime
deriving DecidableEq

namespace ObservedPayment

def eligible (payment : ObservedPayment) : Bool :=
  payment.present && payment.matched && payment.timely

def absent : ObservedPayment := ⟨false, false, false, 0, false, none⟩

end ObservedPayment

/-- Open a stored receipt and check its identity against the lookup column. -/
def transferFacts (crypto : Crypto) (row : UsdtObservationRow) :
    Except PersistenceError (TransferFacts × Option (BitVec 160)) := do
  ensure (row.transferLookupHash = crypto.usdtTransferLookupHash row.facts.identity)
    .corruptOrMissing
  return (row.facts, row.sender)

def receiptPayment (invoice : InvoiceRow) (required : Nat) (facts : TransferFacts)
    (confirmations : Int) (finalized : Bool) : ObservedPayment where
  present := true
  matched := decide (required ≤ facts.amount)
  timely :=
    decide (invoice.invoiceCreatedAt.replaceNanosecondZero ≤ facts.timestamp) &&
      decide (facts.timestamp ≤ invoice.paymentDeadline)
  confirmations := confirmations
  finalized := finalized
  receivedAt := some (max facts.timestamp invoice.invoiceCreatedAt)

/-- Selection order of receipts: eligibility, finality, amount match and depth,
with the transfer identity as the tie break. -/
abbrev ReceiptRank := Bool ×ₗ Bool ×ₗ Bool ×ₗ Int ×ₗ String

/-- Named down to the integers, whose order is found in more than one way. -/
instance receiptOrder : LinearOrder ReceiptRank :=
  @Prod.Lex.instLinearOrder Bool _ Bool.linearOrder
    (@Prod.Lex.instLinearOrder Bool _ Bool.linearOrder
      (@Prod.Lex.instLinearOrder Bool _ Bool.linearOrder
        (@Prod.Lex.instLinearOrder Int String Int.instLinearOrder String.instLinearOrder)))

instance (priority := 2000) : Preorder ReceiptRank := receiptOrder.toPartialOrder.toPreorder

def receiptRank (candidate : String × ObservedPayment) : ReceiptRank :=
  let payment := candidate.2
  toLex (payment.eligible, toLex (payment.finalized, toLex (payment.matched,
    toLex (payment.confirmations, candidate.1))))

/-- One turn of the selection loop: open the receipt and keep the better of it
and the running choice. Partial transfers are never combined. -/
def selectReceipt (crypto : Crypto) (invoice : InvoiceRow) (required : Nat)
    (selected : Option (String × ObservedPayment)) (observation : UsdtObservationRow) :
    Except PersistenceError (Option (String × ObservedPayment)) := do
  let (facts, _) ← transferFacts crypto observation
  let candidate := (facts.identity,
    receiptPayment invoice required facts observation.confirmations observation.finalized)
  return if selected.all fun current => receiptRank current < receiptRank candidate then
    some candidate
  else selected

def usdtPayment (crypto : Crypto) (db : Database) (invoice : InvoiceRow) (required : Nat) :
    Except PersistenceError (Option (String × ObservedPayment)) :=
  ((db.receipts invoice.id).filter (·.present)).foldlM (selectReceipt crypto invoice required) none

/-- The receipt facts reported with an invoice's status. -/
structure UsdtPaymentStatus where
  confirmations : Nat
  amountMatched : Bool
  paidOnTime : Bool
  finalized : Bool
deriving DecidableEq

def usdtPaymentStatus (crypto : Crypto) (db : Database) (invoice : Uuid) :
    Except PersistenceError (Option UsdtPaymentStatus) :=
  match (db.invoice invoice).filter fun _ => (db.receipts invoice).any (·.present) with
  | none => .ok none
  | some row => do
    let destination ← demand .corruptOrMissing row.payment.usdt
    match ← usdtPayment crypto db row destination.requiredAmount with
    | none => return none
    | some (_, payment) =>
      ensure (0 ≤ payment.confirmations) .corruptOrMissing
      return some {
        confirmations := payment.confirmations.toNat
        amountMatched := payment.matched
        paidOnTime := payment.eligible
        finalized := payment.finalized }

def receiptCandidate (invoice : InvoiceRow) (required : Nat) (row : UsdtObservationRow) :
    String × ObservedPayment :=
  (row.facts.identity, receiptPayment invoice required row.facts row.confirmations row.finalized)

/-- Every opened receipt carries the identity its lookup column names. -/
def ReceiptsIntact (crypto : Crypto) (rows : List UsdtObservationRow) : Prop :=
  ∀ row ∈ rows, row.transferLookupHash = crypto.usdtTransferLookupHash row.facts.identity

instance (crypto : Crypto) (rows : List UsdtObservationRow) :
    Decidable (ReceiptsIntact crypto rows) :=
  inferInstanceAs (Decidable (∀ row ∈ rows, _))

section Selection

variable {crypto : Crypto} {invoice : InvoiceRow} {required : Nat}

private theorem selectReceipt_eq (selected : Option (String × ObservedPayment))
    (row : UsdtObservationRow) :
    selectReceipt crypto invoice required selected row =
      if row.transferLookupHash = crypto.usdtTransferLookupHash row.facts.identity then
        .ok (List.argAux (fun b c => receiptRank c < receiptRank b) selected
          (receiptCandidate invoice required row))
      else .error .corruptOrMissing := by
  unfold selectReceipt transferFacts ensure
  split
  · cases selected with
    | none => rfl
    | some current =>
      simp only [List.argAux, Option.all_some, decide_eq_true_eq]
      exact congrArg Except.ok (by congr)
  · rfl

private theorem selection_fold (rows : List UsdtObservationRow)
    (selected : Option (String × ObservedPayment)) :
    rows.foldlM (selectReceipt crypto invoice required) selected =
      if ReceiptsIntact crypto rows then
        .ok ((rows.map (receiptCandidate invoice required)).foldl
          (List.argAux fun b c => receiptRank c < receiptRank b) selected)
      else .error .corruptOrMissing := by
  induction rows generalizing selected with
  | nil => simp [ReceiptsIntact, pure, Except.pure]
  | cons row rows ih =>
    rw [List.foldlM_cons, selectReceipt_eq]
    by_cases intact : row.transferLookupHash = crypto.usdtTransferLookupHash row.facts.identity
    · have tail : ReceiptsIntact crypto (row :: rows) ↔ ReceiptsIntact crypto rows := by
        simp [ReceiptsIntact, intact]
      rw [if_pos intact]
      simp only [tail, List.map_cons, List.foldl_cons]
      exact ih _
    · have head : ¬ ReceiptsIntact crypto (row :: rows) := fun all => intact (all row (.head _))
      rw [if_neg intact, if_neg head]
      rfl

theorem selectReceipts_eq (rows : List UsdtObservationRow) :
    rows.foldlM (selectReceipt crypto invoice required) none =
      if ReceiptsIntact crypto rows then
        .ok ((rows.map (receiptCandidate invoice required)).argmax receiptRank)
      else .error .corruptOrMissing :=
  selection_fold rows none

theorem usdtPayment_eq (db : Database) :
    usdtPayment crypto db invoice required =
      let rows := (db.receipts invoice.id).filter (·.present)
      if ReceiptsIntact crypto rows then
        .ok ((rows.map (receiptCandidate invoice required)).argmax receiptRank)
      else .error .corruptOrMissing :=
  selectReceipts_eq _

theorem usdtPayment_mem {db : Database} {selected : String × ObservedPayment}
    (read : usdtPayment crypto db invoice required = .ok (some selected)) :
    ∃ row ∈ db.usdtObservations.rows, row.invoiceId = some invoice.id ∧ row.present = true ∧
      receiptCandidate invoice required row = selected := by
  rw [usdtPayment_eq] at read
  dsimp only at read
  split at read
  · have chosen := List.argmax_mem (Except.ok.inj read)
    obtain ⟨row, member, same⟩ := List.mem_map.mp chosen
    obtain ⟨own, present⟩ := List.mem_filter.mp member
    obtain ⟨stored, owner⟩ := List.mem_filter.mp own
    exact ⟨row, stored, of_decide_eq_true owner, present, same⟩
  · cases read

end Selection

end PaykitServer.Persistence
