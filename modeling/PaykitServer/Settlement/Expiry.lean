import PaykitServer.Settlement.Rails
import PaykitServer.Settlement.Reports

/-!
# Expiry after the deadline

A target pass expires the v1 invoices that never had a match, and every projection
after the deadline expires an invoice that has no eligible payment. An invoice
with an earlier match is left to the projection, and the projection only runs when
something is stored. So an invoice whose match was withdrawn before the deadline,
and for which the next batch stores nothing, is neither paid nor expired.
`expiry_complete_iff` says that this is the only case.
-/

namespace PaykitServer.Settlement

open Domain Bitcoin Persistence Workers
open Relational

namespace Account

def Decided (a : Account) : Prop :=
  a.eligible = true ∨ ∀ row ∈ a.invoice, row.paymentExpiredAt.isSome = true

variable {a : Account} {crypto : Crypto} {input : BitcoinObservationInput} {row : InvoiceRow}
variable {observedAt : OffsetDateTime} {batch : List BitcoinObservationInput}

theorem decided_project (overdue : ∀ row ∈ a.invoice, row.paymentDeadline < observedAt) :
    (a.project observedAt).Decided := by
  cases eligible : a.eligible with
  | true => exact .inl ((eligible_project observedAt).trans eligible)
  | false =>
    refine .inr fun row member => ?_
    obtain ⟨old, opened, rfl⟩ := Option.map_eq_some_iff.mp member
    have unpaid : anyEligible a.bitcoin a.usdt = false := eligible
    simp [InvoiceRow.project, unpaid, overdue old opened]

variable {destination : PaymentDestination}

theorem decided_receive_of_stores
    (opened : a.invoice = some row) (overdue : row.paymentDeadline < observedAt)
    (stores : a.Stores destination input) : (a.receive crypto input observedAt).Decided := by
  rw [receive_of_stores stores]
  refine decided_project fun held member => ?_
  obtain ⟨old, opened', terms, -, -⟩ := hold_invoice member
  rw [opened] at opened'
  cases opened'
  rw [terms.deadline]
  exact overdue

theorem decided_afterReports_iff (opened : a.invoice = some row)
    (overdue : row.paymentDeadline < observedAt) :
    (a.afterReports crypto batch observedAt).Decided ↔
      a.Decided ∨ ∃ input ∈ batch, ∃ destination, a.Stores destination input := by
  induction batch generalizing a row with
  | nil => simp [afterReports]
  | cons input batch ih =>
    obtain ⟨row', opened', terms⟩ : ∃ row', (a.receive crypto input observedAt).invoice =
        some row' ∧ SameTerms row row' := invoice_receive opened
    rw [afterReports_cons, ih opened' (terms.deadline ▸ overdue)]
    by_cases stores : ∃ destination, a.Stores destination input
    · have decided : (a.receive crypto input observedAt).Decided := by
        obtain ⟨destination, stores⟩ := stores
        exact decided_receive_of_stores opened overdue stores
      simp [decided, stores]
    · rw [receive_of_not_stores (not_exists.mp stores)]
      simp [stores]

theorem afterDeadlines_of_overdue (opened : a.invoice = some row)
    (overdue : row.paymentDeadline < observedAt) :
    a.afterDeadlines crypto batch observedAt = a := by
  induction batch with
  | nil => rfl
  | cons input batch ih =>
    have unchanged : a.expireUnmatched (crypto.bitcoinAddressLookupHash input.address)
        observedAt = a := by
      have other : row.paymentDeadline ≠ observedAt := ne_of_lt overdue
      refine Account.ext ?_ rfl rfl rfl rfl rfl rfl
      simp [expireUnmatched, expireIf, opened, other]
    rw [afterDeadlines_cons, unchanged]
    exact ih

/-- A target pass after the deadline decides a v1 account unless it had a match. -/
theorem decided_expireOverdue_iff (v1 : a.provider = none) (opened : a.invoice = some row)
    (overdue : row.paymentDeadline < observedAt) :
    (a.expireOverdue observedAt).Decided ↔
      a.eligible = true ∨ row.paymentExpiredAt.isSome = true ∨
        row.firstAmountMatchedObservedAt = none := by
  unfold Decided expireOverdue
  rw [eligible_expireIf]
  refine or_congr_right ?_
  simp only [expireIf, opened, v1, Option.map_some, Option.mem_def, Option.some.injEq,
    forall_eq', overdue]
  cases expired : row.paymentExpiredAt <;> cases first : row.firstAmountMatchedObservedAt <;>
    simp [expired]

theorem stores_expireOverdue :
    (a.expireOverdue observedAt).Stores destination input ↔ a.Stores destination input := by
  have quoted : (a.expireOverdue observedAt).destination = a.destination :=
    destination_expireIf _ observedAt
  constructor
  · rintro ⟨pays, own, written⟩
    exact ⟨quoted ▸ pays, own, written⟩
  · rintro ⟨pays, own, written⟩
    exact ⟨quoted.trans pays, own, written⟩

end Account

section Cycle

variable {env : Environment} {requests : List Request} {passAt batchAt : OffsetDateTime}
variable {targets : List ObservationTarget} {outputs : List ObservedOutput}
variable {batch : List BitcoinObservationInput} {mid db' : Database} {applied : Nat}

theorem pass_expires {db : Database}
    (pass : observationTargetsWithTime env.crypto db passAt = (.ok targets, mid)) :
    perform env db (.expireOverdue passAt) = .ok mid := by
  unfold observationTargetsWithTime at pass
  split at pass
  · cases pass
  · rename_i expired
    obtain ⟨-, rfl⟩ := Prod.mk.inj pass
    exact expired

theorem reached_cycle (pass : observationTargetsWithTime env.crypto (reached env requests) passAt =
      (.ok targets, mid))
    (valid : validateBatch env outputs targets = .ok batch)
    (done : applyBitcoinObservationBatch env.crypto mid batch batchAt = .ok (applied, db')) :
    reached env (requests ++ [.observationTargets passAt,
      .observeOnce targets outputs batchAt]) = db' := by
  have expired : (server env).commit (reached env requests) (.observationTargets passAt) = mid := by
    refine System.commit_of_ok ?_
    change (perform env _ (.expireOverdue passAt) >>= fun db => .ok db) = _
    rw [pass_expires pass]
    rfl
  have observed : (server env).commit mid (.observeOnce targets outputs batchAt) = db' := by
    refine System.commit_of_ok ?_
    have performed : Prod.snd <$> applyBitcoinObservationBatch env.crypto mid batch batchAt =
        execute (perform env) mid (batchActions batch batchAt) :=
      applyBitcoinObservationBatch_eq mid batch
    rw [done] at performed
    have actions : requestActions env (.observeOnce targets outputs batchAt) =
        batchActions batch batchAt := by
      simp only [requestActions, valid]
    change execute (perform env) mid
      (requestActions env (.observeOnce targets outputs batchAt)) = _
    rw [actions]
    exact performed.symm
  have split : reached env (requests ++ [.observationTargets passAt,
      .observeOnce targets outputs batchAt]) = (server env).run (reached env requests)
        [.observationTargets passAt, .observeOnce targets outputs batchAt] := System.run_append
  rw [split, System.run_cons, expired, System.run_cons, observed, System.run_nil]

theorem account_cycle {i : Uuid} {row : InvoiceRow}
    (opened : (reached env requests).invoice i = some row) (overdue : row.paymentDeadline < batchAt)
    (pass : observationTargetsWithTime env.crypto (reached env requests) passAt =
      (.ok targets, mid))
    (done : applyBitcoinObservationBatch env.crypto mid batch batchAt = .ok (applied, db')) :
    account db' i = ((account (reached env requests) i).expireOverdue passAt).afterReports
      env.crypto batch batchAt := by
  have coherent := reached_coherent env requests
  have expired : account mid i = (account (reached env requests) i).expireOverdue passAt :=
    coherent.evolves (pass_expires pass) i
  obtain ⟨stage, observed, checked⟩ := batch_stages done
  obtain ⟨coherent', reports⟩ :=
    account_reports (i := i) (coherent.perform (pass_expires pass)) observed
  obtain ⟨-, checks⟩ := account_deadlines (i := i) coherent' checked
  obtain ⟨first, opened', terms⟩ : ∃ row', ((account (reached env requests) i).expireOverdue
      passAt).invoice = some row' ∧ SameTerms row row' := Account.invoice_expireIf opened
  obtain ⟨second, opened'', terms'⟩ : ∃ row', (account stage i).invoice = some row' ∧
      SameTerms first row' := by
    rw [reports, expired]
    exact Account.invoice_afterReports opened'
  have late : second.paymentDeadline < batchAt := by
    rw [terms'.deadline, terms.deadline]
    exact overdue
  rw [checks, Account.afterDeadlines_of_overdue opened'' late, reports, expired]

end Cycle

/-- After a target pass later than the deadline of a v1 invoice and a batch for its
targets, the invoice has an eligible payment or is expired, unless it had a match
before, was not expired, has no eligible payment, and ignores every report of the
batch. -/
theorem expiry_complete_iff (env : Environment) (requests : List Request) (i : Uuid)
    (row : InvoiceRow) (passAt batchAt : OffsetDateTime) (targets : List ObservationTarget)
    (outputs : List ObservedOutput) (batch : List BitcoinObservationInput)
    (mid db' : Database) (applied : Nat) (opened : (reached env requests).invoice i = some row)
    (v1 : (reached env requests).providerBinding i = none)
    (overdue : row.paymentDeadline < passAt) (later : passAt ≤ batchAt)
    (pass : observationTargetsWithTime env.crypto (reached env requests) passAt =
      (.ok targets, mid))
    (valid : validateBatch env outputs targets = .ok batch)
    (done : applyBitcoinObservationBatch env.crypto mid batch batchAt = .ok (applied, db')) :
    ∃ row' bitcoin usdt before receipt, db'.invoice i = some row' ∧
      bitcoinPayment env.crypto db' i row'.payment = .ok bitcoin ∧
      usdtRail env.crypto db' row' row'.payment = .ok usdt ∧
      bitcoinPayment env.crypto (reached env requests) i row.payment = .ok before ∧
      usdtRail env.crypto (reached env requests) row row.payment = .ok receipt ∧
      ((anyEligible bitcoin usdt = true ∨ row'.paymentExpiredAt.isSome = true) ↔
        ¬ (row.firstAmountMatchedObservedAt.isSome = true ∧ row.paymentExpiredAt = none ∧
          anyEligible before receipt = false ∧
          ∀ input ∈ batch, ∀ destination ∈ row.payment.bitcoin,
            destination.address = input.address →
            disposition false destination.requiredAmount
              (((reached env requests).activeObservation i).map (·.binding)) input = .skip)) := by
  have late : row.paymentDeadline < batchAt := lt_of_lt_of_le overdue later
  have coherent := reached_coherent env requests i
  have cycle := reached_cycle pass valid done
  have coherent' := reached_coherent env
    (requests ++ [.observationTargets passAt, .observeOnce targets outputs batchAt]) i
  have intact' := reached_intact env
    (requests ++ [.observationTargets passAt, .observeOnce targets outputs batchAt])
  rw [cycle] at coherent' intact'
  have after := account_cycle opened late pass done
  obtain ⟨first, expired, terms⟩ : ∃ row', ((account (reached env requests) i).expireOverdue
      passAt).invoice = some row' ∧ SameTerms row row' := Account.invoice_expireIf opened
  have late' : first.paymentDeadline < batchAt := terms.deadline ▸ late
  obtain ⟨row', opened', -⟩ : ∃ row', (account db' i).invoice = some row' ∧
      SameTerms first row' := by
    rw [after]
    exact Account.invoice_afterReports expired
  refine ⟨row', _, _, _, _, opened', coherent'.bitcoinPayment_eq opened',
    usdtRail_eq opened' intact', coherent.bitcoinPayment_eq opened,
    usdtRail_eq opened (reached_intact env requests), ?_⟩
  have decided : (anyEligible (account db' i).bitcoin (account db' i).usdt = true ∨
      row'.paymentExpiredAt.isSome = true) ↔ (account db' i).Decided := by
    simp only [Account.Decided, opened', Option.mem_def, Option.some.injEq, forall_eq']
    rfl
  rw [decided, after, Account.decided_afterReports_iff expired late',
    Account.decided_expireOverdue_iff v1 opened overdue]
  simp only [Account.stores_expireOverdue, stores_iff opened, v1, Option.isSome_none]
  constructor
  · rintro ((paid | expired | unmatched) | ⟨input, member, destination, quoted, own, written⟩)
      ⟨matched, running, unpaid, ignored⟩
    · exact Bool.false_ne_true (unpaid.symm.trans paid)
    · rw [running] at expired
      cases expired
    · rw [unmatched] at matched
      cases matched
    · exact written (ignored input member destination quoted own)
  · intro notStuck
    by_contra undecided
    simp only [not_or, not_exists, not_and] at undecided
    obtain ⟨⟨unpaid, running, matched⟩, ignored⟩ := undecided
    refine notStuck ⟨Option.isSome_iff_ne_none.mpr matched, by simpa using running,
      eq_false_of_ne_true unpaid, ?_⟩
    intro input member destination quoted own
    exact not_not.mp (ignored input member destination quoted own)

/-- The pass alone expires an invoice that was never paid. -/
theorem expiry_complete_unpaid :
    ∃ mid row' bitcoin usdt,
      observationTargetsWithTime Sample.environment.crypto
        (reached Sample.environment [Sample.invoice]) 200000000 = (.ok [⟨"a", none⟩], mid) ∧
      mid.invoice 0 = some row' ∧
      bitcoinPayment Sample.environment.crypto mid 0 row'.payment = .ok bitcoin ∧
      usdtRail Sample.environment.crypto mid row' row'.payment = .ok usdt ∧
      (anyEligible bitcoin usdt = true ∨ row'.paymentExpiredAt.isSome = true) := by
  obtain ⟨row, opened, columns⟩ := Option.map_eq_some_iff.mp
    (show ((reached Sample.environment [Sample.invoice]).invoice 0).map
        (fun row => (row.paymentDeadline, row.firstAmountMatchedObservedAt)) =
      some (100000000, none) by decide +kernel)
  obtain ⟨deadline, unmatched⟩ := Prod.mk.inj columns
  have targets : (observationTargetsWithTime Sample.environment.crypto
      (reached Sample.environment [Sample.invoice]) 200000000).1 = .ok [⟨"a", none⟩] :=
    eq_ok_of_toOption (by decide +kernel)
  generalize pass : observationTargetsWithTime Sample.environment.crypto
    (reached Sample.environment [Sample.invoice]) 200000000 = result at targets
  obtain ⟨_, mid⟩ := result
  obtain rfl := targets
  have valid : validateBatch Sample.environment [] [⟨"a", none⟩] = .ok [] :=
    eq_ok_of_toOption (by decide +kernel)
  obtain ⟨row', bitcoin, usdt, before, receipt, opened', first, second, -, -, decided⟩ :=
    expiry_complete_iff Sample.environment [Sample.invoice] 0 row 200000000 200000000 _ [] []
      mid mid 0 opened (by decide +kernel) (by rw [deadline]; decide) le_rfl pass valid rfl
  refine ⟨mid, row', bitcoin, usdt, rfl, opened', first, second, decided.mpr fun stuck => ?_⟩
  rw [unmatched] at stuck
  cases stuck.1

/-- An invoice for both rails whose receipt qualified and was cleared before the
deadline. -/
def clearedReceipt : List Request :=
  [.createInvoice (Sample.payment (some ⟨"u", 5⟩)) 0 100,
    .applyUsdt 0 ⟨"transfer", 5, 10, 1, false, 0⟩ 10 10,
    .clearUsdt 0 (Sample.environment.crypto.usdtTransferLookupHash "transfer") 20 20]

/-- The state after a target pass and an empty batch at one later time. -/
def emptyCycle (requests : List Request) (now : OffsetDateTime) : Option Database := do
  let (targets, db) := observationTargetsWithTime Sample.environment.crypto
    (reached Sample.environment requests) now
  let targets ← targets.toOption
  let batch ← (validateBatch Sample.environment [] targets).toOption
  let (_, db) ← (applyBitcoinObservationBatch Sample.environment.crypto db batch now).toOption
  return db

/-- The invoice with the cleared receipt has no eligible payment and is not expired
after the pass and the batch. -/
theorem cleared_receipt_never_expires :
    ((reached Sample.environment clearedReceipt).invoice 0).map
        (fun row => (row.paymentDeadline, row.paymentExpiredAt)) = some (100000000, none) ∧
    (reached Sample.environment clearedReceipt).providerBinding 0 = none ∧
    ((emptyCycle clearedReceipt 200000000).bind fun db => (db.invoice 0).bind fun row => do
      let bitcoin ← (bitcoinPayment Sample.environment.crypto db 0 row.payment).toOption
      let usdt ← (usdtRail Sample.environment.crypto db row row.payment).toOption
      return (anyEligible bitcoin usdt, row.paymentExpiredAt)) = some (false, none) := by
  decide +kernel

end PaykitServer.Settlement
