import PaykitServer.Persistence.Invoices.Receipts

/-!
# The selected receipt

The selection loop is a running maximum. Its rank begins with eligibility and
finality, so an eligible receipt is never hidden by another one, and it ends with
the transfer identity, which no two stored receipts share. The maximum is
therefore unique, and the order of the rows plays no part.
-/

namespace PaykitServer.Settlement

open Persistence Relational

/-- A receipt that pays an invoice: present, large enough and inside the window. -/
def ReceiptEligible (invoice : InvoiceRow) (required : Nat) (row : UsdtObservationRow) : Prop :=
  row.present = true ∧ required ≤ row.facts.amount ∧
    invoice.invoiceCreatedAt.replaceNanosecondZero ≤ row.facts.timestamp ∧
    row.facts.timestamp ≤ invoice.paymentDeadline

section Rank

variable {invoice : InvoiceRow} {required : Nat} {row : UsdtObservationRow}
variable {first second : String × ObservedPayment}

theorem eligible_receiptCandidate_iff (present : row.present = true) :
    (receiptCandidate invoice required row).2.eligible = true ↔
      ReceiptEligible invoice required row := by
  simp [receiptCandidate, receiptPayment, ObservedPayment.eligible, ReceiptEligible, present]

theorem eligible_of_rank_le (le : receiptRank first ≤ receiptRank second)
    (eligible : first.2.eligible = true) : second.2.eligible = true := by
  rcases Prod.Lex.toLex_le_toLex.mp le with less | ⟨same, -⟩
  · rw [eligible] at less
    exact absurd less (by simp)
  · exact same.symm.trans eligible

theorem finalized_of_rank_le (le : receiptRank first ≤ receiptRank second)
    (eligible : first.2.eligible = true) (finalized : first.2.finalized = true) :
    second.2.finalized = true := by
  rcases Prod.Lex.toLex_le_toLex.mp le with less | ⟨-, rest⟩
  · rw [eligible] at less
    exact absurd less (by simp)
  · rcases Prod.Lex.toLex_le_toLex.mp rest with less | ⟨same, -⟩
    · rw [finalized] at less
      exact absurd less (by simp)
    · exact same.symm.trans finalized

theorem identity_of_rank_eq (same : receiptRank first = receiptRank second) :
    first.1 = second.1 := by
  let identity (rank : ReceiptRank) : String := (ofLex (ofLex (ofLex (ofLex rank).2).2).2).2
  exact congrArg identity same

end Rank

/-- A maximum that no two elements share does not depend on the order. -/
theorem argmax_perm {α β : Type} [LinearOrder β] {f : α → β} {l l' : List α}
    (injective : ∀ a ∈ l, ∀ b ∈ l, f a = f b → a = b) (perm : l.Perm l') :
    l.argmax f = l'.argmax f := by
  cases first : l.argmax f with
  | none =>
    rw [List.argmax_eq_none] at first
    subst first
    obtain rfl := perm.nil_eq
    rfl
  | some a =>
    have mem := List.argmax_mem first
    cases second : l'.argmax f with
    | none =>
      rw [List.argmax_eq_none] at second
      subst second
      cases perm.mem_iff.mp mem
    | some b =>
      have mem' := perm.mem_iff.mpr (List.argmax_mem second)
      have above : f b ≤ f a := List.le_of_mem_argmax mem' first
      have below : f a ≤ f b := List.le_of_mem_argmax (perm.mem_iff.mp mem) second
      rw [injective a mem b mem' (le_antisymm below above)]

section Selection

variable {crypto : Crypto} {db : Database} {invoice : InvoiceRow} {required : Nat}
variable {rows : List UsdtObservationRow} {row : UsdtObservationRow}

theorem receiptRank_injective {i : Uuid}
    (intact : ReceiptsIntact crypto ((db.receipts i).filter (·.present))) :
    ∀ first ∈ ((db.receipts i).filter (·.present)).map (receiptCandidate invoice required),
      ∀ second ∈ ((db.receipts i).filter (·.present)).map (receiptCandidate invoice required),
        receiptRank first = receiptRank second → first = second := by
  intro first member second member' same
  obtain ⟨row, stored, rfl⟩ := List.mem_map.mp member
  obtain ⟨row', stored', rfl⟩ := List.mem_map.mp member'
  have identity : row.facts.identity = row'.facts.identity := identity_of_rank_eq same
  have key : row'.transferLookupHash = row.transferLookupHash := by
    rw [intact row stored, intact row' stored', identity]
  have saved := List.mem_of_mem_filter (List.mem_of_mem_filter stored)
  have saved' := List.mem_of_mem_filter (List.mem_of_mem_filter stored')
  rw [db.usdtObservations.valid.2.1.eq_of_key saved saved' rfl (congrArg some key)]

theorem selectReceipts_perm {i : Uuid} (perm : rows.Perm ((db.receipts i).filter (·.present))) :
    rows.foldlM (selectReceipt crypto invoice required) none =
      ((db.receipts i).filter (·.present)).foldlM (selectReceipt crypto invoice required) none := by
  have intact : ReceiptsIntact crypto rows ↔
      ReceiptsIntact crypto ((db.receipts i).filter (·.present)) := by
    constructor
    · intro open' row member
      exact open' row (perm.mem_iff.mpr member)
    · intro open' row member
      exact open' row (perm.mem_iff.mp member)
  rw [selectReceipts_eq, selectReceipts_eq]
  by_cases opens : ReceiptsIntact crypto ((db.receipts i).filter (·.present))
  · rw [if_pos (intact.mpr opens), if_pos opens]
    exact congrArg Except.ok (argmax_perm (receiptRank_injective opens) (perm.symm.map _)).symm
  · rw [if_neg (fun open' => opens (intact.mp open')), if_neg opens]

theorem rank_le_selected {selected : Option (String × ObservedPayment)}
    (read : usdtPayment crypto db invoice required = .ok selected)
    (stored : row ∈ db.receipts invoice.id) (present : row.present = true) :
    ∃ best, selected = some best ∧
      receiptRank (receiptCandidate invoice required row) ≤ receiptRank best := by
  rw [usdtPayment_eq] at read
  dsimp only at read
  split at read
  · have candidate := List.mem_map_of_mem (f := receiptCandidate invoice required)
      (List.mem_filter.mpr ⟨stored, present⟩)
    cases selected with
    | none =>
      rw [List.argmax_eq_none.mp (Except.ok.inj read)] at candidate
      cases candidate
    | some best => exact ⟨best, rfl, List.le_of_mem_argmax candidate (Except.ok.inj read)⟩
  · cases read

/-- A selection that could be read reports a depth that fits its type. -/
theorem confirmations_nonneg {identity : String} {payment : ObservedPayment}
    (read : usdtPayment crypto db invoice required = .ok (some (identity, payment))) :
    0 ≤ payment.confirmations := by
  obtain ⟨row, stored, -, -, candidate⟩ := usdtPayment_mem read
  have checks := (db.usdtObservations.valid.2.2 row stored).1
  have same : row.confirmations = payment.confirmations :=
    congrArg (fun candidate => candidate.2.confirmations) candidate
  exact same ▸ checks

theorem usdtPaymentStatus_eq {destination : PaymentDestination}
    (opened : db.invoice invoice.id = some invoice)
    (quoted : invoice.payment.usdt = some destination) :
    usdtPaymentStatus crypto db invoice.id =
      (usdtPayment crypto db invoice destination.requiredAmount).map (Option.map fun selected =>
        ⟨selected.2.confirmations.toNat, selected.2.matched, selected.2.eligible,
          selected.2.finalized⟩) := by
  unfold usdtPaymentStatus
  rw [opened]
  cases any : (db.receipts invoice.id).any (·.present) with
  | false =>
    have empty : (db.receipts invoice.id).filter (·.present) = [] := by simpa using any
    simp [usdtPayment, empty, pure, Except.pure, Except.map]
  | true =>
    simp only [Option.filter_some, if_true, quoted, demand]
    change (usdtPayment crypto db invoice destination.requiredAmount >>= _) = _
    cases read : usdtPayment crypto db invoice destination.requiredAmount with
    | error e => rfl
    | ok selected =>
      cases selected with
      | none => rfl
      | some best =>
        obtain ⟨identity, payment⟩ := best
        have fits := confirmations_nonneg read
        change (ensure (0 ≤ payment.confirmations) _ >>= _) = _
        rw [ensure, if_pos fits]
        rfl

end Selection

/-- The receipt selected for an invoice is one stored receipt, counted by itself. It is
eligible if any receipt is, and final too if any eligible one is. Neither the order in
which the rows are read nor the order in which they are stored matters, and status
reports the same receipt. -/
theorem selected_receipt_is_best (crypto : Crypto) (db : Database) (invoice : InvoiceRow)
    (required : Nat) :
    ((∃ selected, usdtPayment crypto db invoice required = .ok selected) ↔
      ReceiptsIntact crypto ((db.receipts invoice.id).filter (·.present))) ∧
    (∀ selected, usdtPayment crypto db invoice required = .ok selected →
      (∀ best, selected = some best → ∃ row ∈ db.receipts invoice.id, row.present = true ∧
        best = (row.facts.identity, receiptPayment invoice required row.facts row.confirmations
          row.finalized)) ∧
      ∀ row ∈ db.receipts invoice.id, ReceiptEligible invoice required row →
        ∃ best, selected = some best ∧ best.2.eligible = true ∧
          (row.finalized = true → best.2.finalized = true)) ∧
    (∀ rows : List UsdtObservationRow, rows.Perm ((db.receipts invoice.id).filter (·.present)) →
      rows.foldlM (selectReceipt crypto invoice required) none =
        usdtPayment crypto db invoice required) ∧
    (∀ db' : Database, (db'.receipts invoice.id).Perm (db.receipts invoice.id) →
      usdtPayment crypto db' invoice required = usdtPayment crypto db invoice required) ∧
    ∀ destination, db.invoice invoice.id = some invoice →
      invoice.payment.usdt = some destination →
      usdtPaymentStatus crypto db invoice.id =
        (usdtPayment crypto db invoice destination.requiredAmount).map
          (Option.map fun selected => ⟨selected.2.confirmations.toNat, selected.2.matched,
            selected.2.eligible, selected.2.finalized⟩) := by
  refine ⟨?_, ?_, fun rows perm => selectReceipts_perm perm,
    fun db' perm => selectReceipts_perm (perm.filter _),
    fun destination opened quoted => usdtPaymentStatus_eq opened quoted⟩
  · rw [usdtPayment_eq]
    dsimp only
    split
    · rename_i intact
      exact ⟨fun _ => intact, fun _ => ⟨_, rfl⟩⟩
    · rename_i broken
      refine ⟨?_, fun intact => absurd intact broken⟩
      rintro ⟨selected, read⟩
      cases read
  · intro selected read
    constructor
    · rintro best rfl
      obtain ⟨row, stored, owner, present, candidate⟩ := usdtPayment_mem read
      exact ⟨row, List.mem_filter.mpr ⟨stored, decide_eq_true owner⟩, present, candidate.symm⟩
    · intro row stored eligible
      obtain ⟨best, chosen, below⟩ := rank_le_selected read stored eligible.1
      have counts := (eligible_receiptCandidate_iff eligible.1).mpr eligible
      exact ⟨best, chosen, eligible_of_rank_le below counts, finalized_of_rank_le below counts⟩

end PaykitServer.Settlement
