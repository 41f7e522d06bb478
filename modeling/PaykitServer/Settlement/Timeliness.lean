import PaykitServer.Settlement.Rails
import PaykitServer.Settlement.Reports

/-!
# Paid on time

An output counts as paid on time when a report of it that paid enough was stored
no later than the deadline. `mem_timely_iff` says that of the stored table, for
every reachable state: an output is marked on time exactly when the run stored
such a report of that very output. Timeliness therefore never passes from one
output to another, and a report that the invoice ignored, because another output
was confirmed or final when it came, proves nothing.
-/

namespace PaykitServer.Settlement

open Domain Bitcoin Persistence Workers
open Relational

/-- The action reports an output as paying the destination, at or before the
deadline. -/
def paidReport (destination : PaymentDestination) (deadline : OffsetDateTime)
    (outpoint : BitcoinOutpoint) : Action → Bool
  | .observe input observedAt =>
    decide (input.address = destination.address) && decide (input.outpoint = outpoint) &&
      input.matched destination.requiredAmount && decide (observedAt ≤ deadline)
  | _ => false

/-- The bound output keeps a present report from being stored: it is final, or it
is another paying output with at least one confirmation. -/
def blocks (required : Nat) (outpoint : BitcoinOutpoint) (active : Option DirectBinding) : Bool :=
  active.any fun binding =>
    binding.isFinal required || (binding.secured required && decide (binding.outpoint ≠ outpoint))

theorem paidReport_iff {destination : PaymentDestination} {deadline : OffsetDateTime}
    {outpoint : BitcoinOutpoint} {action : Action} :
    paidReport destination deadline outpoint action = true ↔
      ∃ input observedAt, action = .observe input observedAt ∧
        input.address = destination.address ∧ input.outpoint = outpoint ∧
        input.matched destination.requiredAmount = true ∧ observedAt ≤ deadline := by
  constructor
  · intro paid
    cases action with
    | observe input observedAt =>
      simp only [paidReport, Bool.and_eq_true, decide_eq_true_eq] at paid
      exact ⟨input, observedAt, rfl, paid.1.1.1, paid.1.1.2, paid.1.2, paid.2⟩
    | _ => cases paid
  · rintro ⟨input, observedAt, rfl, own, output, matched, early⟩
    simp [paidReport, own, output, matched, early]

theorem disposition_eq_skip_iff {required : Nat} {active : Option DirectBinding}
    {input : BitcoinObservationInput} (present : input.present = true) :
    disposition false required active input = .skip ↔
      blocks required input.outpoint active = true := by
  cases active with
  | none => simp [disposition, blocks, present]
  | some binding =>
    simp only [blocks, Option.any_some, Bool.or_eq_true, Bool.and_eq_true, decide_eq_true_eq]
    constructor
    · intro skipped
      cases secured : binding.secured required with
      | false =>
        obtain ⟨replace, written⟩ := disposition_of_unsecured secured present
        rw [written] at skipped
        cases skipped
      | true =>
        by_cases same : binding.outpoint = input.outpoint
        · cases final : binding.isFinal required with
          | true => exact .inl rfl
          | false =>
            rw [disposition_of_same final same] at skipped
            cases skipped
        · exact .inr ⟨rfl, same⟩
    · rintro (final | ⟨secured, other⟩)
      · exact disposition_of_final final
      · exact disposition_of_secured secured other

section History

variable {env : Environment} {requests : List Request} {i : Uuid} {row : InvoiceRow}

structure StoresOnTime (i : Uuid) (destination : PaymentDestination) (deadline : OffsetDateTime)
    (t : Transition Database Action) (input : BitcoinObservationInput)
    (observedAt : OffsetDateTime) : Prop where
  action : t.action = .observe input observedAt
  stores : (account t.before i).Stores destination input
  matched : input.matched destination.requiredAmount = true
  early : observedAt ≤ deadline

theorem Account.timely_receive {a : Account} {crypto : Crypto} {input : BitcoinObservationInput}
    {observedAt : OffsetDateTime} {destination : PaymentDestination}
    (opened : a.invoice = some row) (stores : a.Stores destination input) (key : LookupHash) :
    key ∈ (a.receive crypto input observedAt).timely ↔ key ∈ a.timely ∨
      (input.matched destination.requiredAmount = true ∧ observedAt ≤ row.paymentDeadline) ∧
        crypto.bitcoinOutpointLookupHash input.outpoint.canonicalText = key := by
  rw [Account.receive_of_stores stores]
  simp only [Account.project, Account.hold, opened, Option.any_some, decide_eq_true_eq]
  split
  · rename_i onTime
    rw [Set.mem_insert_iff, or_comm, eq_comm, and_iff_right onTime]
  · rename_i late
    simp only [late, false_and, or_false]

theorem mem_timely_iff {destination : PaymentDestination}
    (opened : (reached env requests).invoice i = some row)
    (quoted : row.payment.bitcoin = some destination) (key : LookupHash) :
    key ∈ (account (reached env requests) i).timely ↔
      ∃ t ∈ appliedActions env requests, ∃ input observedAt,
        StoresOnTime i destination row.paymentDeadline t input observedAt ∧
          env.crypto.bitcoinOutpointLookupHash input.outpoint.canonicalText = key := by
  suffices tracked : ∀ row ∈ (account (reached env requests) i).invoice,
      ∀ destination ∈ row.payment.bitcoin, ∀ key,
        key ∈ (account (reached env requests) i).timely ↔
          ∃ t ∈ appliedActions env requests, ∃ input observedAt,
            StoresOnTime i destination row.paymentDeadline t input observedAt ∧
              env.crypto.bitcoinOutpointLookupHash input.outpoint.canonicalText = key from
    tracked row opened destination quoted key
  refine opened_rule i (Q := fun history a => ∀ row ∈ a.invoice,
    ∀ destination ∈ row.payment.bitcoin, ∀ key, key ∈ a.timely ↔
      ∃ t ∈ history, ∃ input observedAt,
        StoresOnTime i destination row.paymentDeadline t input observedAt ∧
          env.crypto.bitcoinOutpointLookupHash input.outpoint.canonicalText = key) ?_ ?_ opened
  · -- nothing is on time at admission, and nothing was stored before it
    intro history row provider closed _ _ destination _ key
    refine ⟨fun marked => ?_, ?_⟩
    · cases marked
    · rintro ⟨t, member, input, observedAt, stored, -⟩
      exact absurd (closed t member) stored.stores.opened
  · intro history db action db' row opened coherent evolves tracked row' opened' destination
      quoted key
    obtain ⟨-, after, hafter, terms⟩ := evolves.terms opened
    obtain rfl : after = row' := Option.some.inj (hafter.symm.trans opened')
    rw [terms.payment] at quoted
    rw [terms.deadline]
    have before := tracked row opened destination quoted key
    simp only [List.mem_append, List.mem_singleton, or_and_right, exists_or, exists_eq_left]
    rw [← before]
    rcases evolves.report opened with ⟨same, ignored⟩ |
      ⟨input, observedAt, destination', performed, stores, received, -⟩
    · rw [same.timely]
      refine (or_iff_left ?_).symm
      rintro ⟨input, observedAt, stored, -⟩
      exact ignored input observedAt stored.action destination stored.stores
    · have same : destination' = destination := by
        have pays : (account db i).destination = some destination := by
          rw [Account.destination, opened, Option.bind_some, quoted]
        exact Option.some.inj (stores.quoted.symm.trans pays)
      subst same
      rw [received, Account.timely_receive opened stores]
      refine or_congr_right ⟨?_, ?_⟩
      · rintro ⟨⟨matched, early⟩, hashed⟩
        exact ⟨input, observedAt, ⟨performed, stores, matched, early⟩, hashed⟩
      · rintro ⟨input', observedAt', stored, hashed⟩
        obtain ⟨rfl, rfl⟩ := Action.observe.inj (performed.symm.trans stored.action)
        exact ⟨⟨stored.matched, stored.early⟩, hashed⟩

end History

theorem account_active {db : Database} {i : Uuid} {active : BitcoinObservationRow}
    (bound : db.activeObservation i = some active) :
    (account db i).active = some (heldOutput active) :=
  congrArg (Option.map heldOutput) bound

section Claims

variable (env : Environment) (requests : List Request) (i : Uuid) (row : InvoiceRow)
variable (destination : PaymentDestination)

/-- Whenever the projection treats the active output of an invoice as eligible,
that very output was reported at its address and stored as present and paying at or
before the deadline. -/
theorem eligible_output_was_stored_on_time (payment : ObservedPayment)
    (opened : (reached env requests).invoice i = some row)
    (quoted : row.payment.bitcoin = some destination)
    (read : bitcoinPayment env.crypto (reached env requests) i row.payment = .ok payment)
    (eligible : payment.eligible = true) :
    ∃ active, (reached env requests).activeObservation i = some active ∧
      ∃ t ∈ appliedActions env requests, ∃ input observedAt,
        t.action = .observe input observedAt ∧ observedAt ≤ row.paymentDeadline ∧
        input.address = destination.address ∧ input.outpoint = active.binding.outpoint ∧
        ∃ stored, t.after.activeObservation i = some stored ∧
          stored.binding.outpoint = active.binding.outpoint ∧ stored.present = true ∧
          destination.requiredAmount ≤ stored.binding.sats := by
  have coherent := reached_coherent env requests i
  have pays := (account_destination opened).trans quoted
  obtain rfl := bitcoinPayment_account opened read
  obtain ⟨held, bound, -, -, timely⟩ := (eligible_bitcoin_iff pays).mp eligible
  obtain ⟨active, found, rfl⟩ := Option.map_eq_some_iff.mp bound
  obtain ⟨t, member, input, observedAt, report, hashed⟩ :=
    (mem_timely_iff opened quoted _).mp timely
  -- one key records one output, so the stored report is one of the active output
  have record := recorded_of_stored opened member report.action report.stores
  rw [hashed, coherent.activeRecorded _ bound] at record
  obtain ⟨stored, after, observation, present⟩ :=
    active_of_stored member report.action report.stores
  have matched := report.matched
  simp only [BitcoinObservationInput.matched, Bool.and_eq_true, decide_eq_true_eq] at matched
  have reported : input.outpoint = active.binding.outpoint :=
    congrArg (·.outpoint) (Option.some.inj record).symm
  refine ⟨active, found, t, member, input, observedAt, report.action, report.early,
    report.stores.own.symm, reported, stored, after, ?_, present.trans matched.1, ?_⟩
  · exact (congrArg (·.outpoint) observation).trans reported
  · simp only [BitcoinObservationRow.binding, observation]
    exact matched.2

theorem stores_iff_not_blocks {db : Database} {i : Uuid} {row : InvoiceRow}
    {input : BitcoinObservationInput} (opened : db.invoice i = some row)
    (v1 : db.providerBinding i = none) (present : input.present = true) :
    (account db i).Stores destination input ↔
      row.payment.bitcoin = some destination ∧ destination.address = input.address ∧
        blocks destination.requiredAmount input.outpoint
          ((db.activeObservation i).map (·.binding)) = false := by
  rw [stores_iff opened, v1, Option.isSome_none, ne_eq, disposition_eq_skip_iff present,
    Bool.not_eq_true]

/-- A present active output of a v1 invoice counts as paid on time, and keeps the
invoice from being expired, exactly when some on-time report that paid enough for
it came while no other output was confirmed and none was final. -/
theorem on_time_payment_counts_iff (active : BitcoinObservationRow)
    (opened : (reached env requests).invoice i = some row)
    (v1 : (reached env requests).providerBinding i = none)
    (quoted : row.payment.bitcoin = some destination)
    (bound : (reached env requests).activeObservation i = some active)
    (present : active.present = true) :
    ((∃ payment, bitcoinPayment env.crypto (reached env requests) i row.payment = .ok payment ∧
        payment.eligible = true) ∧ row.paymentExpiredAt = none) ↔
      ∃ t ∈ appliedActions env requests,
        paidReport destination row.paymentDeadline active.binding.outpoint t.action = true ∧
        (t.before.invoice i).isSome = true ∧
        blocks destination.requiredAmount active.binding.outpoint
          ((t.before.activeObservation i).map (·.binding)) = false := by
  have coherent := reached_coherent env requests i
  have pays := (account_destination opened).trans quoted
  have held := account_active bound
  have key := (coherent.keyed _ _ (coherent.activeRecorded _ held)).2
  constructor
  · rintro ⟨⟨payment, read, eligible⟩, -⟩
    obtain rfl := bitcoinPayment_account opened read
    obtain ⟨_, same, -, -, timely⟩ := (eligible_bitcoin_iff pays).mp eligible
    obtain rfl := Option.some.inj (held.symm.trans same)
    obtain ⟨t, member, input, observedAt, report, hashed⟩ :=
      (mem_timely_iff opened quoted _).mp timely
    have record := recorded_of_stored opened member report.action report.stores
    rw [hashed, coherent.activeRecorded _ held] at record
    have output : input.outpoint = active.binding.outpoint :=
      congrArg BitcoinObservationV1.outpoint (Option.some.inj record).symm
    obtain ⟨before, stored⟩ := Option.ne_none_iff_exists'.mp report.stores.opened
    have v1' := (terms_of_applied opened member stored).1.symm.trans v1
    obtain ⟨-, own, free⟩ := (stores_iff_not_blocks destination stored v1'
      (Bool.and_eq_true_iff.mp report.matched).1).mp report.stores
    refine ⟨t, member, ?_, Option.isSome_of_mem stored, output ▸ free⟩
    exact paidReport_iff.mpr ⟨input, observedAt, report.action, own.symm, output, report.matched,
      report.early⟩
  · rintro ⟨t, member, paid, opened', free⟩
    obtain ⟨input, observedAt, performed, own, output, matched, early⟩ := paidReport_iff.mp paid
    obtain ⟨before, stored⟩ := Option.isSome_iff_exists.mp opened'
    obtain ⟨provider, terms⟩ := terms_of_applied opened member stored
    have stores : (account t.before i).Stores destination input :=
      (stores_iff_not_blocks destination stored (provider.symm.trans v1)
        (Bool.and_eq_true_iff.mp matched).1).mpr
        ⟨terms.payment ▸ quoted, own.symm, output ▸ free⟩
    have timely : (heldOutput active).key ∈ (account (reached env requests) i).timely := by
      refine (mem_timely_iff opened quoted _).mpr
        ⟨t, member, input, observedAt, ⟨performed, stores, matched, early⟩, ?_⟩
      rw [key, output]
      rfl
    have enough : destination.requiredAmount ≤ (heldOutput active).record.observedSats := by
      obtain ⟨record, recorded, enough⟩ := coherent.timelyRecorded _ timely
      rw [coherent.activeRecorded _ held] at recorded
      cases recorded
      exact enough destination pays
    have eligible := (eligible_bitcoin_iff pays).mpr ⟨_, held, present, enough, timely⟩
    refine ⟨⟨_, coherent.bitcoinPayment_eq opened, eligible⟩, ?_⟩
    by_contra expired
    have unpaid := coherent.expired v1 row opened (Option.isSome_iff_ne_none.mpr expired)
    rw [Account.eligible, anyEligible, eligible] at unpaid
    cases unpaid

end Claims

def paidInvoice : List Request :=
  [Sample.invoice, .observeOnce [⟨"a", none⟩] [Sample.output 0 10 1] 5]

theorem paidInvoice_terms : ∃ row, (reached Sample.environment paidInvoice).invoice 0 = some row ∧
    row.payment.bitcoin = some ⟨"a", 10⟩ ∧ row.paymentDeadline = 100000000 ∧
    bitcoinPayment Sample.environment.crypto (reached Sample.environment paidInvoice) 0
      row.payment = .ok ⟨true, true, true, 1, false, none⟩ := by
  obtain ⟨row, opened, columns⟩ := Option.map_eq_some_iff.mp
    (show ((reached Sample.environment paidInvoice).invoice 0).map (fun row =>
        (row.payment.bitcoin, row.paymentDeadline,
          (bitcoinPayment Sample.environment.crypto (reached Sample.environment paidInvoice) 0
            row.payment).toOption)) =
      some (some ⟨"a", 10⟩, 100000000, some ⟨true, true, true, 1, false, none⟩) by decide +kernel)
  obtain ⟨quoted, rest⟩ := Prod.mk.inj columns
  obtain ⟨deadline, read⟩ := Prod.mk.inj rest
  exact ⟨row, opened, quoted, deadline, eq_ok_of_toOption read⟩

theorem eligible_output_was_stored_on_time_paid :
    ∃ active, (reached Sample.environment paidInvoice).activeObservation 0 = some active ∧
      ∃ t ∈ appliedActions Sample.environment paidInvoice, ∃ input observedAt,
        t.action = .observe input observedAt ∧ observedAt ≤ 100000000 ∧
        input.address = "a" ∧ input.outpoint = active.binding.outpoint ∧
        ∃ stored, t.after.activeObservation 0 = some stored ∧
          stored.binding.outpoint = active.binding.outpoint ∧ stored.present = true ∧
          10 ≤ stored.binding.sats := by
  obtain ⟨row, opened, quoted, deadline, read⟩ := paidInvoice_terms
  rw [← deadline]
  exact eligible_output_was_stored_on_time Sample.environment paidInvoice 0 row ⟨"a", 10⟩ _
    opened quoted read rfl

theorem on_time_payment_counts_paid :
    ∃ row payment, (reached Sample.environment paidInvoice).invoice 0 = some row ∧
      bitcoinPayment Sample.environment.crypto (reached Sample.environment paidInvoice) 0
        row.payment = .ok payment ∧ payment.eligible = true ∧ row.paymentExpiredAt = none := by
  obtain ⟨row, opened, quoted, deadline, -⟩ := paidInvoice_terms
  obtain ⟨active, bound, facts⟩ := Option.map_eq_some_iff.mp
    (show ((reached Sample.environment paidInvoice).activeObservation 0).map
        (fun active => (active.binding.outpoint, active.present)) =
      some (Sample.outpoint 0, true) by decide +kernel)
  obtain ⟨output, present⟩ := Prod.mk.inj facts
  obtain ⟨t, member, report⟩ := List.any_eq_true.mp
    (show ((appliedActions Sample.environment paidInvoice).any fun t =>
        paidReport ⟨"a", 10⟩ 100000000 (Sample.outpoint 0) t.action &&
          (t.before.invoice 0).isSome && !blocks 10 (Sample.outpoint 0)
            ((t.before.activeObservation 0).map (·.binding))) = true by decide +kernel)
  simp only [Bool.and_eq_true, Bool.not_eq_true'] at report
  obtain ⟨⟨payment, read, eligible⟩, kept⟩ :=
    (on_time_payment_counts_iff Sample.environment paidInvoice 0 row ⟨"a", 10⟩ active opened
      (by decide +kernel) quoted bound present).mpr
      ⟨t, member, by rw [deadline, output]; exact report.1.1, report.1.2, output ▸ report.2⟩
  exact ⟨row, payment, opened, read, eligible, kept⟩

/-- An invoice bound to one output while another one is reported on time; after the
deadline the first one disappears and the other one is bound. -/
def displacedAfterDeadline : List Request :=
  [Sample.invoice,
    .observeOnce [⟨"a", none⟩] [Sample.output 0 10 1] 5,
    .observeOnce [⟨"a", some ⟨Sample.outpoint 0, 10⟩⟩]
      [Sample.output 0 10 1, Sample.output 1 10 1] 6,
    .observeOnce [⟨"a", some ⟨Sample.outpoint 0, 10⟩⟩]
      [Sample.absence 0 10, Sample.output 1 10 2] 200000000]

/-- The second output was reported on time, pays enough and is bound, but is treated
as late, and the invoice is expired. -/
theorem ignored_report_is_lost :
    ((appliedActions Sample.environment displacedAfterDeadline).any fun t =>
      paidReport ⟨"a", 10⟩ 100000000 (Sample.outpoint 1) t.action) = true ∧
    ((reached Sample.environment displacedAfterDeadline).invoice 0).map
        (fun row => (row.payment.bitcoin, row.paymentDeadline, row.paymentExpiredAt)) =
      some (some ⟨"a", 10⟩, 100000000, some 200000000) ∧
    (reached Sample.environment displacedAfterDeadline).providerBinding 0 = none ∧
    ((reached Sample.environment displacedAfterDeadline).activeObservation 0).map (·.binding) =
      some ⟨Sample.outpoint 1, 10, 2, true⟩ ∧
    (((reached Sample.environment displacedAfterDeadline).invoice 0).bind fun row =>
      (bitcoinPayment Sample.environment.crypto
        (reached Sample.environment displacedAfterDeadline) 0 row.payment).toOption).map
          (·.eligible) = some false := by
  decide +kernel

end PaykitServer.Settlement
