import PaykitServer.Ledger.Invoices
import PaykitServer.Settlement.ReceiptSelection
import PaykitServer.Settlement.Reports

/-!
# The clock that expires an invoice

Target passes and batches decide on expiry by the database time of their transaction.
The projection after a USDT transfer is stored or withdrawn uses the process clock
instead, so it may expire a v1 invoice whose deadline the database has not reached.
`expires_by_database_time_iff` says that nothing else does: an invoice expires on time
exactly when no such projection, with a process clock past the deadline, happens while
the database clock is before it and the transfer leaves no payment that counts.
-/

namespace PaykitServer

open Domain Persistence Application
open Settlement Workers MarketplacePreparations Relational

def Action.decidesAt : Action → Option OffsetDateTime
  | .observe _ now | .expireUnmatched _ now | .expireOverdue now | .applyUsdt _ _ _ now
  | .clearUsdt _ _ _ now => some now
  | _ => none

/-- A transfer that pays an invoice: large enough and inside the window. -/
def Persistence.TransferFacts.pays (row : InvoiceRow) (required : Nat) (facts : TransferFacts) :
    Bool :=
  required ≤ facts.amount && (row.invoiceCreatedAt.replaceNanosecondZero ≤ facts.timestamp &&
    facts.timestamp ≤ row.paymentDeadline)

namespace Settlement

variable {env : Environment} {a a' : Account} {action : Action} {row' : InvoiceRow}
variable {now : OffsetDateTime}

theorem Account.expired_project (opened : row' ∈ (a.project now).invoice)
    (expired : row'.paymentExpiredAt.isSome = true) :
    ∃ row ∈ a.invoice, row'.paymentDeadline = row.paymentDeadline ∧
      (row.paymentExpiredAt.isSome = true ∨ row.paymentDeadline < now) := by
  obtain ⟨row, member, rfl⟩ := Option.map_eq_some_iff.mp opened
  refine ⟨row, member, rfl, ?_⟩
  simp only [InvoiceRow.project] at expired
  split at expired
  · cases expired
  · split at expired
    · rename_i overdue
      exact .inr overdue
    · exact .inl expired

theorem Account.expired_expireIf {condition : InvoiceRow → Bool}
    (opened : row' ∈ (a.expireIf condition now).invoice)
    (expired : row'.paymentExpiredAt.isSome = true) :
    ∃ row ∈ a.invoice, row'.paymentDeadline = row.paymentDeadline ∧
      (row.paymentExpiredAt.isSome = true ∨ condition row = true) := by
  obtain ⟨row, member, rfl⟩ := Option.map_eq_some_iff.mp opened
  split at expired
  · rename_i holds
    rw [if_pos holds]
    exact ⟨row, member, rfl, .inr holds⟩
  · rename_i fails
    rw [if_neg fails]
    exact ⟨row, member, rfl, .inl expired⟩

theorem Account.expired_hold {required : Nat} {input : BitcoinObservationInput}
    {key : LookupHash} (opened : row' ∈ (a.hold required input key now).invoice) :
    ∃ row ∈ a.invoice, row'.paymentDeadline = row.paymentDeadline ∧
      row'.paymentExpiredAt = row.paymentExpiredAt := by
  simp only [Account.hold] at opened
  split at opened
  · obtain ⟨row, member, rfl⟩ := Option.map_eq_some_iff.mp opened
    exact ⟨row, member, rfl, rfl⟩
  · exact ⟨row', opened, rfl, rfl⟩

/-- An invoice is expired after a step only if it was before or the step's time has
reached its deadline; a provider-v2 invoice expires past the deadline only. -/
theorem Evolves.expired (evolves : Evolves env a action a') (opened : row' ∈ a'.invoice)
    (expired : row'.paymentExpiredAt.isSome = true) :
    ∃ row ∈ a.invoice, row'.paymentDeadline = row.paymentDeadline ∧
      (row.paymentExpiredAt.isSome = true ∨ ∃ now ∈ action.decidesAt,
        row.paymentDeadline ≤ now ∧ (a.provider ≠ none → row.paymentDeadline < now)) := by
  cases evolves.change with
  | same => exact ⟨row', opened, rfl, .inl expired⟩
  | opened _ _ _ _ fresh =>
    cases opened
    rw [fresh] at expired
    cases expired
  | received stores =>
    rw [Account.receive_of_stores stores] at opened
    obtain ⟨held, member, same, before⟩ := Account.expired_project opened expired
    obtain ⟨row, member', terms, unexpired⟩ := Account.expired_hold member
    refine ⟨row, member', same.trans terms, ?_⟩
    rw [unexpired, terms] at before
    exact before.imp_right fun late => ⟨_, rfl, late.le, fun _ => late⟩
  | unmatched =>
    obtain ⟨row, member, same, before⟩ := Account.expired_expireIf opened expired
    refine ⟨row, member, same, before.imp_right fun holds => ?_⟩
    simp only [Bool.and_eq_true, decide_eq_true_eq, Option.isNone_iff_eq_none] at holds
    exact ⟨_, rfl, holds.1.2.1.le, fun provider => absurd holds.2 provider⟩
  | overdue =>
    obtain ⟨row, member, same, before⟩ := Account.expired_expireIf opened expired
    refine ⟨row, member, same, before.imp_right fun holds => ?_⟩
    simp only [Bool.and_eq_true, decide_eq_true_eq] at holds
    exact ⟨_, rfl, holds.1.2.le, fun _ => holds.1.2⟩
  | applied | cleared =>
    obtain ⟨row, member, same, before⟩ := Account.expired_project opened expired
    exact ⟨row, member, same, before.imp_right fun late => ⟨_, rfl, late.le, fun _ => late⟩⟩

theorem Account.eligible_usdt_iff {row : InvoiceRow} (opened : a.invoice = some row) :
    a.usdt.any (·.eligible) = true ↔ ∃ destination ∈ row.payment.usdt,
      ∃ receipt ∈ a.receipts, receipt.facts.pays row destination.requiredAmount = true := by
  have eligible : ∀ (required : Nat) (receipt : Receipt), (receiptPayment row required
      receipt.facts receipt.confirmations receipt.finalized).eligible =
        receipt.facts.pays row required := by
    intro required receipt
    simp [receiptPayment, ObservedPayment.eligible, TransferFacts.pays]
  rw [Account.usdt, opened, Option.bind_some, Option.any_eq_true]
  constructor
  · rintro ⟨payment, selected, paid⟩
    obtain ⟨destination, quoted, selected⟩ := Option.bind_eq_some_iff.mp selected
    obtain ⟨candidate, best, rfl⟩ := Option.map_eq_some_iff.mp selected
    obtain ⟨receipt, stored, rfl⟩ := List.mem_map.mp (List.argmax_mem best)
    exact ⟨destination, quoted, receipt, stored, (eligible _ receipt).symm.trans paid⟩
  · rintro ⟨destination, quoted, receipt, stored, pays⟩
    have offered := List.mem_map_of_mem (f := fun receipt : Receipt => (receipt.facts.identity,
      receiptPayment row destination.requiredAmount receipt.facts receipt.confirmations
        receipt.finalized)) stored
    -- the selected receipt ranks at least as high, and eligibility comes first
    cases best : (a.receipts.map fun receipt => (receipt.facts.identity,
        receiptPayment row destination.requiredAmount receipt.facts receipt.confirmations
          receipt.finalized)).argmax receiptRank with
    | none =>
      rw [List.argmax_eq_none.mp best] at offered
      cases offered
    | some candidate =>
      refine ⟨candidate.2, ?_, eligible_of_rank_le (List.le_of_mem_argmax offered best)
        ((eligible _ receipt).trans pays)⟩
      rw [Option.mem_def.mp quoted, Option.bind_some, best]
      rfl

end Settlement

def Observation.processTime : Observation → Option OffsetDateTime
  | .applyUsdt _ _ now | .clearUsdt _ _ now => some now
  | _ => none

/-- Whether an observation rebuilds an invoice after a USDT transfer was stored or
withdrawn; a transfer of another request and a final one are not stored. -/
def Observation.projects (crypto : Crypto) (db : Database) (i : Uuid) : Observation → Bool
  | .applyUsdt j log _ =>
    j = i && (db.invoice i).any (·.payment.usdt.isSome) &&
      (db.usdtByTransfer (crypto.usdtTransferLookupHash log.transfer.identity)).all
        fun row => (ReceiptOwner.invoice i).owns row && !row.finalized
  | .clearUsdt j _ _ => j = i && (db.invoice i).any (·.payment.usdt.isSome)
  | _ => false

/-- The transfers an invoice counts after a USDT pass rebuilt it: a submitted transfer takes
the place of the receipt of its log, and a withdrawn one is gone unless it is final. -/
def Observation.transfersLeft (crypto : Crypto) (db : Database) (i : Uuid) :
    Observation → List TransferFacts
  | .applyUsdt _ log _ =>
    ⟨log.transfer.identity, log.transfer.amount, log.transfer.timestamp⟩ ::
      ((db.receipts i).filter fun row => row.present &&
        row.transferLookupHash ≠ crypto.usdtTransferLookupHash log.transfer.identity).map (·.facts)
  | .clearUsdt _ hash _ =>
    ((db.receipts i).filter fun row => row.present &&
      (row.finalized || row.transferLookupHash ≠ hash)).map (·.facts)
  | _ => []

/-- Whether an invoice has a payment that counts after a USDT pass rebuilt it: its active
output pays enough and was marked on time, or one of the transfers that are left pays it. -/
def Observation.leavesPaid (crypto : Crypto) (db : Database) (i : Uuid) (row : InvoiceRow)
    (observation : Observation) : Bool :=
  (row.payment.bitcoin.any fun destination => (db.activeObservation i).any fun active =>
    active.present && destination.requiredAmount ≤ active.observation.observedSats &&
      db.timely i active.outpointLookupHash) ||
  row.payment.usdt.any fun destination =>
    (observation.transfersLeft crypto db i).any (·.pays row destination.requiredAmount)

theorem Observation.accepts_of_projects {crypto : Crypto} {db : Database} {i : Uuid}
    (observation : Observation) (projects : observation.projects crypto db i = true)
    (row : InvoiceRow) (opened : db.invoice i = some row) : row.payment.usdt.isSome = true := by
  cases observation with
  | applyUsdt | clearUsdt =>
    simp only [Observation.projects, Bool.and_eq_true, opened, Option.any_some] at projects
    grind
  | _ => cases projects

/-- An operation that expires a v1 invoice commits once the database clock has reached
the payment deadline. -/
def ExpiresByDatabaseTime (transition : Transition Store Operation) (i : Uuid) : Prop :=
  transition.after.db.providerBinding i = none →
    ∀ row, transition.after.db.invoice i = some row → row.paymentExpiredAt.isSome = true →
      (∀ before, transition.before.db.invoice i = some before → before.paymentExpiredAt = none) →
      row.paymentDeadline ≤ transition.before.clock

/-- A USDT projection by a process clock that is past the deadline of an unexpired
invoice, while the database clock is before it, leaves the invoice paid. -/
def ProjectsInTime (d : Deployment) (transition : Transition Store Operation) (i : Uuid) : Prop :=
  ∀ observation now, transition.action = .observe observation →
    observation.processTime = some now →
    observation.projects d.crypto transition.before.db i = true →
    ∀ row, transition.before.db.invoice i = some row → row.paymentExpiredAt = none →
      transition.before.clock < row.paymentDeadline → row.paymentDeadline < now →
      observation.leavesPaid d.crypto transition.before.db i row = true

section Step

variable {d : Deployment} {store : Store} {db : Database} {observation : Observation} {i : Uuid}
variable {now : OffsetDateTime}

/-- A USDT pass that finds no accepting invoice does not project. -/
private theorem any_of_filter_eq_none {α : Type} {found : Option α} {p : α → Bool}
    (declines : found.filter p = none) : found.any p = false := by
  cases found with
  | none => rfl
  | some value =>
    cases holds : p value with
    | false => exact holds
    | true => simp [Option.filter, holds] at declines

section Receipts

variable {receipts : Table UsdtObservationRow UsdtObservationConstraints} {hash : LookupHash}
variable {facts : TransferFacts} {clock : OffsetDateTime}

theorem mem_account_receipts :
    facts ∈ (account { db with usdtObservations := receipts } i).receipts.map (·.facts) ↔
      ∃ row ∈ receipts.rows, row.present = true ∧ row.invoiceId = some i ∧ row.facts = facts := by
  simp [account, Database.receipts, receiptOf, and_assoc]

theorem facts_of_upsert {id : Uuid} {transfer : VerifiedTransfer}
    (owned : ∀ row ∈ db.usdtByTransfer hash, (ReceiptOwner.invoice i).owns row = true)
    (rows : receipts.rows = upsert (fun row => row.transferLookupHash = hash)
      (newReceiptRow id (.invoice i) transfer hash clock)
      (refreshReceipt (.invoice i) (newReceiptRow id (.invoice i) transfer hash clock))
      db.usdtObservations.rows) :
    facts ∈ (account { db with usdtObservations := receipts } i).receipts.map (·.facts) ↔
      facts ∈ (⟨transfer.identity, transfer.amount, transfer.timestamp⟩ : TransferFacts) ::
        ((db.receipts i).filter fun row =>
          row.present && row.transferLookupHash ≠ hash).map (·.facts) := by
  have owns : ∀ row ∈ db.usdtObservations.rows, row.transferLookupHash = hash →
      (ReceiptOwner.invoice i).owns row = true := fun row stored same =>
    owned row ((lookup_eq_some_iff db.usdtObservations.valid.2.1).mpr
      ⟨stored, congrArg some same⟩)
  rw [mem_account_receipts, rows]
  simp only [mem_upsert, List.mem_cons, List.mem_map, List.mem_filter, Database.receipts,
    Bool.and_eq_true, decide_eq_true_eq, decide_eq_false_iff_not]
  constructor
  · rintro ⟨row, ⟨stored, other⟩ | ⟨old, stored, same, rfl⟩ | ⟨-, rfl⟩, present, own, rfl⟩
    · exact .inr ⟨row, ⟨⟨stored, own⟩, present, other⟩, rfl⟩
    · rw [refreshReceipt, if_pos (owns old stored same)]
      exact .inl rfl
    · exact .inl rfl
  · rintro (rfl | ⟨row, ⟨⟨stored, own⟩, present, other⟩, rfl⟩)
    · by_cases taken : ∃ old ∈ db.usdtObservations.rows, old.transferLookupHash = hash
      · obtain ⟨old, stored, same⟩ := taken
        have own := owns old stored same
        refine ⟨_, .inr (.inl ⟨old, stored, same, rfl⟩), ?_⟩
        rw [refreshReceipt, if_pos own]
        exact ⟨rfl, of_decide_eq_true own, rfl⟩
      · refine ⟨_, .inr (.inr ⟨?_, rfl⟩), rfl, rfl, rfl⟩
        simpa using taken
    · exact ⟨row, .inl ⟨stored, other⟩, present, own, rfl⟩

theorem facts_of_withdraw
    (rows : receipts.rows = updateWhere (fun row => (ReceiptOwner.invoice i).owns row &&
        decide (row.transferLookupHash = hash) && !row.finalized)
      (fun row => { row with present := false, confirmations := 0, checkedAt := clock })
      db.usdtObservations.rows) :
    facts ∈ (account { db with usdtObservations := receipts } i).receipts.map (·.facts) ↔
      facts ∈ ((db.receipts i).filter fun row =>
        row.present && (row.finalized || row.transferLookupHash ≠ hash)).map (·.facts) := by
  rw [mem_account_receipts, rows]
  simp only [mem_updateWhere, List.mem_map, List.mem_filter, Database.receipts,
    ReceiptOwner.owns]
  constructor
  · rintro ⟨row, ⟨stored, kept⟩ | ⟨old, -, -, rfl⟩, present, own, rfl⟩
    · exact ⟨row, by grind, rfl⟩
    · cases present
  · rintro ⟨row, ⟨⟨stored, own⟩, left⟩, rfl⟩
    exact ⟨row, by grind⟩

end Receipts

/-- What a USDT pass does to the account of an invoice: exactly when it projects, it settles
the account by the process clock with the transfers that are left. -/
def SettledBy (d : Deployment) (store : Store) (observation : Observation) (now : OffsetDateTime)
    (i : Uuid) (a : Account) : Prop :=
  if observation.projects d.crypto store.db i then
    ∃ receipts, a = (account store.db i).settleReceipts receipts now ∧
      ∀ facts, facts ∈ receipts.map (·.facts) ↔
        facts ∈ observation.transfersLeft d.crypto store.db i
  else a = account store.db i

theorem SettledBy.of_idle (idle : ¬ observation.projects d.crypto store.db i = true) :
    SettledBy d store observation now i (account store.db i) := by
  rw [SettledBy, if_neg idle]

theorem SettledBy.of_settle {j : Uuid} {a : Account} {receipts : List Receipt}
    (settles : a = if i = j then (account store.db i).settleReceipts receipts now
      else account store.db i)
    (own : j = i → observation.projects d.crypto store.db i = true ∧ ∀ facts,
      facts ∈ receipts.map (·.facts) ↔ facts ∈ observation.transfersLeft d.crypto store.db i)
    (other : j ≠ i → observation.projects d.crypto store.db i = false) :
    SettledBy d store observation now i a := by
  by_cases same : j = i
  · rw [SettledBy, (own same).1, settles, if_pos same.symm]
    exact ⟨receipts, rfl, (own same).2⟩
  · rw [settles, if_neg (Ne.symm same)]
    exact .of_idle (by simp [other same])

theorem applyUsdt_settles {j : Uuid} {log : VerifiedLog}
    (performed : perform d.toEnvironment store.db (.applyUsdt j log.transfer store.clock now) =
      .ok db) : SettledBy d store (.applyUsdt j log now) now i (account db i) := by
  simp only [perform] at performed
  split at performed
  · rename_i declines
    cases performed
    refine .of_idle ?_
    simp only [Observation.projects, Bool.and_eq_true, decide_eq_true_eq]
    rintro ⟨⟨rfl, accepts⟩, -⟩
    rw [any_of_filter_eq_none declines] at accepts
    cases accepts
  · rename_i row found
    obtain ⟨opened, accepts⟩ := Option.filter_eq_some_iff.mp found
    obtain ⟨observed, applied⟩ := snd_eq_ok.mp performed
    rcases Invoices.completeUsdtTransfer_ok applied with ⟨skipped, rfl⟩ | ⟨mid, stored, projected⟩
    · refine .of_idle ?_
      simp only [Observation.projects, Bool.and_eq_true, decide_eq_true_eq]
      rintro ⟨⟨rfl, -⟩, pending⟩
      have stored := storeTransfer_pending (fun row found => ?_) skipped
      · cases stored
      · rw [found, Option.all_some, Bool.and_eq_true, Bool.not_eq_true'] at pending
        exact pending
    · have write := storeTransfer_writes rfl lockReceipt_current stored
      obtain ⟨_, _, _, same, pending, rows, -⟩ := (storeTransfer_ok stored).resolve_left (by simp)
      cases same
      have pending : ∀ row ∈ store.db.usdtByTransfer
          (d.crypto.usdtTransferLookupHash log.transfer.identity),
          (ReceiptOwner.invoice j).owns row = true ∧ row.finalized = false := fun row found' =>
        pending ⟨row.id, _, row.finalized⟩ (congrArg (Option.map _) found')
      refine .of_settle (account_settle opened write projected) ?_ ?_
      · rintro rfl
        refine ⟨?_, fun facts => facts_of_upsert (fun row found => (pending row found).1) rows⟩
        simp only [Observation.projects, opened, accepts, Option.any_some, decide_true,
          Bool.true_and]
        rw [Option.all_eq_true]
        intro receipt found'
        simp [pending receipt found']
      · intro different
        simp [Observation.projects, different]

theorem clearUsdt_settles {j : Uuid} {hash : LookupHash}
    (performed : perform d.toEnvironment store.db (.clearUsdt j hash store.clock now) = .ok db) :
    SettledBy d store (.clearUsdt j hash now) now i (account db i) := by
  simp only [perform] at performed
  split at performed
  · rename_i declines
    cases performed
    refine .of_idle ?_
    simp only [Observation.projects, Bool.and_eq_true, decide_eq_true_eq]
    rintro ⟨rfl, accepts⟩
    rw [any_of_filter_eq_none declines] at accepts
    cases accepts
  · rename_i row found
    obtain ⟨opened, accepts⟩ := Option.filter_eq_some_iff.mp found
    obtain ⟨mid, withdrawn, projected⟩ := bind_eq_ok.mp performed
    have write : ReceiptsWrite d.crypto _ _ mid.usdtObservations.rows :=
      withdrawReceipt_writes withdrawn
    obtain ⟨_, rfl, rows⟩ := withdrawReceipt_ok withdrawn
    refine .of_settle (account_settle opened write projected) ?_ ?_
    · rintro rfl
      exact ⟨by simp [Observation.projects, opened, accepts], fun facts => facts_of_withdraw rows⟩
    · intro different
      simp [Observation.projects, different]

theorem observe_usdt (process : observation.processTime = some now)
    (done : execute (perform d.toEnvironment) store.db
      (observation.actions d.toEnvironment store) = .ok db) :
    SettledBy d store observation now i (account db i) := by
  cases observation with
  | applyUsdt j log process =>
    cases process
    exact applyUsdt_settles (execute_singleton.symm.trans done)
  | clearUsdt j hash process =>
    cases process
    exact clearUsdt_settles (execute_singleton.symm.trans done)
  | _ => cases process

theorem eligible_settleReceipts_iff {row : InvoiceRow} {receipts : List Receipt}
    (now : OffsetDateTime) (opened : store.db.invoice i = some row)
    (left : ∀ facts, facts ∈ receipts.map (·.facts) ↔
      facts ∈ observation.transfersLeft d.crypto store.db i) :
    ((account store.db i).settleReceipts receipts now).eligible = true ↔
      observation.leavesPaid d.crypto store.db i row = true := by
  rw [Account.settleReceipts, Account.eligible_project, Account.eligible, anyEligible,
    Observation.leavesPaid, Bool.or_eq_true, Bool.or_eq_true]
  refine or_congr ?_ ?_
  · change (account store.db i).bitcoin.eligible = true ↔ _
    cases quoted : row.payment.bitcoin with
    | none =>
      have silent := (account_destination opened).trans quoted
      simp [Account.bitcoin, silent, ObservedPayment.eligible, ObservedPayment.absent]
    | some destination =>
      rw [eligible_bitcoin_iff ((account_destination opened).trans quoted)]
      simp [account, heldOutput, Database.timely, Option.any_eq_true, and_assoc]
  · rw [@Account.eligible_usdt_iff _ row opened]
    simp only [Option.any_eq_true, List.any_eq_true, ← left, List.mem_map]
    refine exists_congr fun destination => and_congr_right fun _ => ?_
    constructor
    · rintro ⟨receipt, stored, pays⟩
      exact ⟨_, ⟨receipt, stored, rfl⟩, pays⟩
    · rintro ⟨_, ⟨receipt, stored, rfl⟩, pays⟩
      exact ⟨receipt, stored, pays⟩

theorem Observation.actions_timed (observation : Observation) :
    ∀ action ∈ observation.actions d.toEnvironment store, ∀ now ∈ action.decidesAt,
      now = store.clock ∨ observation.processTime = some now := by
  intro action member now decides
  unfold Observation.actions at member
  split at member
  · cases observation with
    | observeOnce | observeMarketplaceOnce =>
      simp only [Observation.request, requestActions] at member
      split at member
      · simp only [batchActions, List.mem_append, List.mem_map] at member
        grind [Action.decidesAt]
      · cases member
    | observationTargets =>
      obtain rfl := List.mem_singleton.mp member
      exact .inl (Option.some.inj decides).symm
    | applyUsdt | clearUsdt =>
      obtain rfl := List.mem_singleton.mp member
      exact .inr decides
    | marketplaceTargets | reserveUsdt | applyMarketplaceUsdt | clearMarketplaceUsdt =>
      obtain rfl := List.mem_singleton.mp member
      cases decides
  · cases member

theorem observe_expires {row : InvoiceRow} (coherent : AllCoherent d.crypto store.db)
    (done : execute (perform d.toEnvironment) store.db
      (observation.actions d.toEnvironment store) = .ok db)
    (opened : db.invoice i = some row) (expired : row.paymentExpiredAt.isSome = true)
    (running : ∀ before, store.db.invoice i = some before → before.paymentExpiredAt = none)
    (database : observation.processTime = none) : row.paymentDeadline ≤ store.clock := by
  refine coherent.execute_rule (P := fun a => ∀ row ∈ a.invoice,
    row.paymentExpiredAt.isSome = true → row.paymentDeadline ≤ store.clock) ?_ ?_ done row opened
    expired
  · intro action member a a' _ evolves before row' opened' expired'
    obtain ⟨row, opened, same, expired | ⟨now, decides, due, -⟩⟩ := evolves.expired opened' expired'
    · exact same ▸ before row opened expired
    · rcases observation.actions_timed action member now decides with rfl | process
      · exact same ▸ due
      · rw [database] at process
        cases process
  · intro row opened expired
    rw [running row opened] at expired
    cases expired

theorem operate_observe {store' : Store}
    (done : operate d store (.observe observation) = .ok store') :
    execute (perform d.toEnvironment) store.db (observation.actions d.toEnvironment store) =
      .ok store'.db := by
  obtain ⟨db, performed, done⟩ := bind_eq_ok.mp (persist_eq_ok.mp done)
  cases done
  exact performed

theorem v1_of_projects (coherent : AllCoherent d.crypto store.db)
    (projects : observation.projects d.crypto store.db i = true) :
    (account store.db i).provider = none := by
  by_contra bound
  obtain ⟨provider, bound⟩ := Option.ne_none_iff_exists'.mp bound
  cases opened : store.db.invoice i with
  | none =>
    rw [(coherent i).unopened opened] at bound
    cases bound
  | some row =>
    have direct := ((coherent i).providerTerms provider bound row opened).1
    exact absurd (observation.accepts_of_projects projects row opened) (by simp [direct])

/-- A projection past the deadline that leaves the invoice unpaid expires it. -/
theorem SettledBy.expires {row : InvoiceRow}
    (settled : SettledBy d store observation now i (account db i))
    (projects : observation.projects d.crypto store.db i = true)
    (opened : store.db.invoice i = some row) (late : row.paymentDeadline < now)
    (unpaid : ¬ observation.leavesPaid d.crypto store.db i row = true) :
    db.providerBinding i = store.db.providerBinding i ∧ ∃ row', db.invoice i = some row' ∧
      row'.paymentDeadline = row.paymentDeadline ∧ row'.paymentExpiredAt.isSome = true := by
  rw [SettledBy, if_pos projects] at settled
  obtain ⟨receipts, after, left⟩ := settled
  rw [← eligible_settleReceipts_iff now opened left, Account.settleReceipts,
    Account.eligible_project] at unpaid
  have ineligible : anyEligible _ _ = false := eq_false_of_ne_true unpaid
  refine ⟨congrArg Account.provider after, _,
    (congrArg Account.invoice after).trans (congrArg (Option.map _) opened), rfl, ?_⟩
  simp [InvoiceRow.project, ineligible, late]

/-- An invoice that a USDT pass expired was projected, past its deadline and unpaid. -/
theorem SettledBy.unpaid_of_expired {row : InvoiceRow}
    (settled : SettledBy d store observation now i (account db i))
    (opened : db.invoice i = some row) (expired : row.paymentExpiredAt.isSome = true)
    (ineligible : (account db i).eligible = false)
    (running : ∀ before, store.db.invoice i = some before → before.paymentExpiredAt = none) :
    observation.projects d.crypto store.db i = true ∧ ∃ before,
      store.db.invoice i = some before ∧ before.paymentDeadline = row.paymentDeadline ∧
      before.paymentDeadline < now ∧
      observation.leavesPaid d.crypto store.db i before = false := by
  unfold SettledBy at settled
  split at settled
  · rename_i projected
    obtain ⟨receipts, after, left⟩ := settled
    have member : row ∈ ((account store.db i).settleReceipts receipts now).invoice :=
      (congrArg Account.invoice after).symm.trans opened
    obtain ⟨before, stored, same, already | late⟩ := Account.expired_project member expired
    · rw [running before stored] at already
      cases already
    · refine ⟨projected, before, stored, same.symm, late, eq_false_of_ne_true fun paid => ?_⟩
      rw [← eligible_settleReceipts_iff now stored left, ← after, ineligible] at paid
      cases paid
  · rw [running row ((congrArg Account.invoice settled).symm.trans opened)] at expired
    cases expired

theorem expiresByDatabaseTime_iff {transition : Transition Store Operation}
    (coherent : AllCoherent d.crypto transition.before.db)
    (done : operate d transition.before transition.action = .ok transition.after) :
    ExpiresByDatabaseTime transition i ↔ ProjectsInTime d transition i := by
  obtain ⟨store, operation, store'⟩ := transition
  dsimp only at coherent done
  have coherent' := operate_coherent coherent (operate_effect done) i
  constructor
  · rintro onTime observation now rfl process projects row opened running early late
    by_contra unpaid
    have v1 : store.db.providerBinding i = none := v1_of_projects coherent projects
    obtain ⟨same, row', opened', deadline, expired⟩ :=
      (observe_usdt process (operate_observe done)).expires projects opened late unpaid
    refine absurd (onTime (same.trans v1) row' opened' expired ?_) (deadline ▸ not_le.mpr early)
    intro before stored
    rw [show store.db.invoice i = some row from opened] at stored
    cases stored
    exact running
  · intro projects v1 row opened expired running
    cases operate_account coherent (operate_effect done) (i := i) with
    | kept _ same =>
      rw [running row ((congrArg Account.invoice same).symm.trans opened)] at expired
      cases expired
    | opened _ _ new createdAt deadline provider _ _ admitted =>
      have same := (congrArg Account.invoice admitted).symm.trans opened
      cases same
      cases expired
    | observed observation performed =>
      cases process : observation.processTime with
      | none => exact observe_expires coherent performed opened expired running process
      | some now =>
        obtain ⟨projected, before, stored, same, late, unpaid⟩ :=
          (observe_usdt process performed).unpaid_of_expired opened expired
            (coherent'.expired v1 row opened expired) running
        by_contra early
        rw [projects observation now rfl process projected before stored (running before stored)
          (same.symm ▸ not_le.mp early) late] at unpaid
        cases unpaid

end Step

/-- Every v1 invoice expires by database time exactly when no USDT projection by a process
clock past its deadline leaves it unpaid while the database clock is before the deadline. -/
theorem expires_by_database_time_iff (d : Deployment) (start : OffsetDateTime)
    (operations : List Operation) :
    (∀ transition ∈ committedOperations d start operations, ∀ i,
      ExpiresByDatabaseTime transition i) ↔
      ∀ transition ∈ committedOperations d start operations, ∀ i, ProjectsInTime d transition i :=
  forall₂_congr fun _ member => forall_congr' fun _ =>
    expiresByDatabaseTime_iff (committed_coherent member).1 (committed_coherent member).2

namespace Sample

/-- A v1 invoice that is payable in bitcoin and in USDT. -/
def twoRails : Invoices.AtomicInvoiceInput :=
  { bundle with invoicePayloads := ⟨some 0, fun _ => .ok (intent { terms none none with
      paymentEndpoints := [⟨.btc, "a"⟩, ⟨.usdt, "u"⟩] })⟩ }

end Sample

/-- A cleared USDT transfer expires an invoice at database time zero, a hundred seconds
before its deadline: the process clock is ahead. -/
theorem process_clock_expires_early :
    let admitted := storeAfter Sample.deployment 0
      [.createCreator (Sample.credentials "xpub"), .createInvoice Sample.twoRails]
    let cleared := storeAfter Sample.deployment 0
      [.createCreator (Sample.credentials "xpub"), .createInvoice Sample.twoRails,
        .observe (.clearUsdt 2 0 (seconds 101))]
    cleared.clock = 0 ∧ cleared.db.providerBinding 2 = none ∧
      (admitted.db.invoice 2).map (fun row => (row.paymentDeadline, row.paymentExpiredAt)) =
        some (seconds 100, none) ∧
      (cleared.db.invoice 2).map (fun row => (row.paymentDeadline, row.paymentExpiredAt)) =
        some (seconds 100, some (seconds 101)) := by
  decide +kernel

end PaykitServer
