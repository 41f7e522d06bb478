import PaykitServer.Settlement.Expiry
import PaykitServer.Settlement.Threshold

/-!
# Evidence and expiry

A target pass never expires a provider-v2 invoice that has first-threshold
evidence, but the projection knows nothing of evidence: a batch committed after
the deadline expires the invoice whenever it leaves it without an eligible
payment. Everything up to the deadline is harmless, because an observation that
adds evidence also makes its output eligible. `evidence_unexpired_iff` puts this
together: the evidence of an invoice is honoured throughout a run exactly when no
batch committed after the deadline takes the eligible output away.
-/

namespace PaykitServer.Settlement

open Domain Bitcoin Persistence Workers
open Relational

def Account.Honoured (a : Account) : Prop :=
  a.evidence.isSome = true → ∀ row ∈ a.invoice, row.paymentExpiredAt = none

section Steps

variable {env : Environment} {crypto : Crypto} {a a' : Account} {action : Action}
variable {destination : PaymentDestination} {input : BitcoinObservationInput}
variable {observedAt : OffsetDateTime} {row : InvoiceRow} {provider : ProviderV2Row}

theorem Coherent.provider_of_evidence (coherent : Coherent crypto a)
    (evidence : a.evidence.isSome = true) : ∃ provider, a.provider = some provider := by
  cases bound : a.provider with
  | some provider => exact ⟨provider, rfl⟩
  | none =>
    rw [coherent.evidenceProvider bound] at evidence
    cases evidence

theorem Account.invoice_hold_of_v2 (bound : a.provider = some provider) (required : Nat)
    (key : LookupHash) : (a.hold required input key observedAt).invoice = a.invoice := by
  simp [Account.hold, bound]

theorem Account.expiredAt_receive (bound : a.provider = some provider)
    (opened : a.invoice = some row) (stores : a.Stores destination input) :
    ∃ row', (a.receive crypto input observedAt).invoice = some row' ∧
      row'.paymentExpiredAt =
        if (a.hold destination.requiredAmount input
            (crypto.bitcoinOutpointLookupHash input.outpoint.canonicalText) observedAt).eligible
        then none
        else if row.paymentDeadline < observedAt then row.paymentExpiredAt.or (some observedAt)
        else row.paymentExpiredAt := by
  rw [Account.receive_of_stores stores]
  simp only [Account.project, Account.invoice_hold_of_v2 bound, opened, Option.map_some]
  exact ⟨_, rfl, rfl⟩

theorem Account.eligible_hold_of_sampled (bound : a.provider = some provider)
    (opened : a.invoice = some row) (terms : row.paymentDeadline = provider.deadline)
    (quoted : a.destination = some destination) {key : LookupHash} (missing : a.evidence = none)
    (sampled : (a.sampled destination.requiredAmount input observedAt).isSome = true) :
    (a.hold destination.requiredAmount input key observedAt).eligible = true := by
  obtain ⟨matched, -, early⟩ : input.matched destination.requiredAmount = true ∧
      provider.minimumConfirmations ≤ min input.confirmations 6 ∧
      observedAt ≤ provider.deadline := by
    by_contra unqualified
    rw [Account.sampled, bound] at sampled
    simp only [if_neg unqualified, missing] at sampled
    cases sampled
  have onTime : input.matched destination.requiredAmount = true ∧
      a.invoice.any (fun row => observedAt ≤ row.paymentDeadline) = true := by
    refine ⟨matched, ?_⟩
    rw [opened, Option.any_some, terms]
    exact decide_eq_true early
  simp only [BitcoinObservationInput.matched, Bool.and_eq_true, decide_eq_true_eq] at matched
  refine Bool.or_eq_true_iff.mpr (.inl ((eligible_bitcoin_iff
    ((Account.destination_hold _ input key observedAt).trans quoted)).mpr
      ⟨_, rfl, matched.1, matched.2, ?_⟩))
  simp only [Account.hold, if_pos onTime]
  exact Set.mem_insert ..

theorem Account.terms_of_receive {row' : InvoiceRow}
    (opened' : (a.receive crypto input observedAt).invoice = some row') :
    ∃ row, a.invoice = some row ∧ SameTerms row row' := by
  cases opened : a.invoice with
  | none =>
    have silent : a.receive crypto input observedAt = a := by
      refine Account.receive_of_silent ?_
      rw [Account.destination, opened]
      intro destination quoted
      cases quoted
    rw [silent, opened] at opened'
    cases opened'
  | some row =>
    obtain ⟨after, hafter, terms⟩ : ∃ row', (a.receive crypto input observedAt).invoice =
        some row' ∧ SameTerms row row' := Account.invoice_receive opened
    obtain rfl := Option.some.inj (hafter.symm.trans opened')
    exact ⟨row, rfl, terms⟩

/-- Every step honours evidence, except for reports after the deadline. -/
theorem Evolves.honoured (evolves : Evolves env a action a') (coherent : Coherent env.crypto a)
    (early : ∀ input observedAt, action = .observe input observedAt →
      ∀ row ∈ a.invoice, observedAt ≤ row.paymentDeadline)
    (honoured : a.Honoured) : a'.Honoured := by
  cases evolves.change with
  | same => exact honoured
  | opened =>
    intro evidence
    cases evidence
  | @received input observedAt destination stores =>
    obtain ⟨row, opened⟩ := Option.ne_none_iff_exists'.mp stores.opened
    intro evidence row' opened'
    have sampled : (a.sampled destination.requiredAmount input observedAt).isSome = true := by
      rw [Account.receive_of_stores stores] at evidence
      exact evidence
    cases bound : a.provider with
    | none =>
      rw [Account.sampled_of_v1 bound, coherent.evidenceProvider bound] at sampled
      cases sampled
    | some provider =>
      obtain ⟨_, hrow, expired⟩ := Account.expiredAt_receive bound opened stores
      obtain rfl := Option.some.inj (hrow.symm.trans opened')
      rw [expired, if_neg (not_lt.mpr (early input observedAt rfl row opened))]
      split
      · rfl
      · rename_i unpaid
        cases missing : a.evidence with
        | some kept => exact honoured (by rw [missing]; rfl) row opened
        | none =>
          exact absurd (Account.eligible_hold_of_sampled bound opened
            (coherent.providerTerms provider bound row opened).2 stores.quoted missing
            sampled) unpaid
  | unmatched | overdue =>
    intro evidence row' opened'
    obtain ⟨provider, bound⟩ := coherent.provider_of_evidence evidence
    obtain ⟨row, opened, rfl⟩ := Option.map_eq_some_iff.mp opened'
    have found : a.evidence.isNone = false := Option.isNone_eq_false_iff.mpr evidence
    simp only [bound, found, Option.isSome_some, if_true, Option.isNone_some, Bool.and_false,
      Bool.false_eq_true, if_false]
    exact honoured evidence row opened
  | applied accepts | cleared accepts =>
    obtain ⟨row, opened, accepts⟩ := accepts
    intro evidence
    obtain ⟨provider, bound⟩ := coherent.provider_of_evidence evidence
    rw [(coherent.providerTerms provider bound row opened).1] at accepts
    cases accepts

end Steps

section Batches

variable {env : Environment} {db db' : Database} {i : Uuid}

theorem honoured_execute {actions : List Action} (coherent : AllCoherent env.crypto db)
    (silent : ∀ action ∈ actions, ∀ input observedAt, action ≠ .observe input observedAt)
    (honoured : (account db i).Honoured)
    (done : execute (perform env) db actions = .ok db') : (account db' i).Honoured := by
  refine coherent.execute_rule ?_ honoured done
  intro action member a a' coherent evolves honoured
  refine evolves.honoured coherent ?_ honoured
  exact fun input observedAt same => absurd same (silent action member input observedAt)

theorem honoured_reports {batch : List BitcoinObservationInput} {observedAt : OffsetDateTime}
    (coherent : AllCoherent env.crypto db)
    (early : ∀ row ∈ (account db i).invoice, observedAt ≤ row.paymentDeadline)
    (honoured : (account db i).Honoured)
    (done : execute (perform env) db (batch.map (.observe · observedAt)) = .ok db') :
    (account db' i).Honoured := by
  refine (coherent.execute_rule (P := fun a => (∀ row ∈ a.invoice,
    observedAt ≤ row.paymentDeadline) ∧ a.Honoured) ?_ ⟨early, honoured⟩ done).2
  rintro action member a a' coherent evolves ⟨early, honoured⟩
  obtain ⟨input, -, rfl⟩ := List.mem_map.mp member
  constructor
  · intro row' opened'
    rw [evolves.2] at opened'
    obtain ⟨row, opened, terms⟩ := Account.terms_of_receive opened'
    rw [terms.deadline]
    exact early row opened
  · refine evolves.honoured coherent ?_ honoured
    rintro _ _ ⟨⟩
    exact early

end Batches

section Overdue

variable {crypto : Crypto} {a : Account} {destination : PaymentDestination}
variable {input : BitcoinObservationInput} {batch : List BitcoinObservationInput}
variable {observedAt : OffsetDateTime} {row : InvoiceRow} {provider : ProviderV2Row}

variable {active : Option DirectBinding}

theorem disposition_v2_of_present {required : Nat}
    (present : input.present = true) : disposition true required active input ≠ .skip := by
  cases active with
  | none => simp [disposition, present]
  | some binding =>
    by_cases same : binding.outpoint = input.outpoint <;>
      simp [disposition, actionFor, present, same]

theorem disposition_v2_of_absent {required : Nat} (absent : input.present = false) :
    disposition true required active input ≠ .skip ↔
      ∃ binding ∈ active, binding.outpoint = input.outpoint := by
  cases active with
  | none => simp [disposition, absent]
  | some binding =>
    by_cases same : binding.outpoint = input.outpoint <;>
      simp [disposition, actionFor, absent, same]

/-- What reports after the deadline leave of a provider-v2 account. -/
structure Overdue (observedAt : OffsetDateTime) (provider : ProviderV2Row) (row : InvoiceRow)
    (a : Account) : Prop where
  bound : a.provider = some provider
  opened : ∃ row', a.invoice = some row' ∧ SameTerms row row'
  usdt : row.payment.usdt = none
  deadline : row.paymentDeadline = provider.deadline
  late : row.paymentDeadline < observedAt

theorem Overdue.receive (overdue : Overdue observedAt provider row a) (crypto : Crypto)
    (input : BitcoinObservationInput) :
    Overdue observedAt provider row (a.receive crypto input observedAt) ∧
      (a.receive crypto input observedAt).timely = a.timely ∧
      (a.receive crypto input observedAt).evidence = a.evidence := by
  obtain ⟨current, opened, terms⟩ := overdue.opened
  refine ⟨{ overdue with
    bound := Account.provider_receive.trans overdue.bound
    opened := ?_ }, ?_⟩
  · obtain ⟨row', opened', terms'⟩ : ∃ row', (a.receive crypto input observedAt).invoice =
        some row' ∧ SameTerms current row' := Account.invoice_receive opened
    exact ⟨row', opened', terms.trans terms'⟩
  by_cases stores : ∃ destination, a.Stores destination input
  · obtain ⟨destination, stores⟩ := stores
    rw [Account.receive_of_stores stores]
    have late : ¬ observedAt ≤ current.paymentDeadline := by
      rw [terms.deadline]
      exact not_le.mpr overdue.late
    constructor
    · simp [Account.project, Account.hold, opened, late]
    · rw [terms.deadline, overdue.deadline] at late
      simp [Account.sampled, overdue.bound, late]
  · rw [Account.receive_of_not_stores (not_exists.mp stores)]
    exact ⟨rfl, rfl⟩

theorem Overdue.afterReports (overdue : Overdue observedAt provider row a) (crypto : Crypto)
    (batch : List BitcoinObservationInput) :
    Overdue observedAt provider row (a.afterReports crypto batch observedAt) ∧
      (a.afterReports crypto batch observedAt).timely = a.timely ∧
      (a.afterReports crypto batch observedAt).evidence = a.evidence := by
  induction batch generalizing a with
  | nil => exact ⟨overdue, rfl, rfl⟩
  | cons input batch ih =>
    obtain ⟨first, timely, evidence⟩ := overdue.receive crypto input
    obtain ⟨rest, timely', evidence'⟩ := ih first
    exact ⟨rest, timely'.trans timely, evidence'.trans evidence⟩

/-- A report stored after the deadline leaves the invoice unexpired exactly when it
reports an output that pays enough and is already marked on time. -/
theorem Overdue.unexpired_receive_iff (overdue : Overdue observedAt provider row a)
    (stores : a.Stores destination input) :
    (∀ row' ∈ (a.receive crypto input observedAt).invoice, row'.paymentExpiredAt = none) ↔
      input.matched destination.requiredAmount = true ∧
        crypto.bitcoinOutpointLookupHash input.outpoint.canonicalText ∈ a.timely := by
  obtain ⟨current, opened, terms⟩ := overdue.opened
  have late : current.paymentDeadline < observedAt := terms.deadline ▸ overdue.late
  obtain ⟨row', opened', expired⟩ : ∃ row', (a.receive crypto input observedAt).invoice =
      some row' ∧ _ := Account.expiredAt_receive overdue.bound opened stores
  have noReceipt : a.usdt = none := by
    rw [Account.usdt, opened, Option.bind_some, terms.payment, overdue.usdt, Option.bind_none]
  have unmarked : ¬ observedAt ≤ current.paymentDeadline := not_le.mpr late
  have paid := eligible_bitcoin_iff ((Account.destination_hold destination.requiredAmount input
    (crypto.bitcoinOutpointLookupHash input.outpoint.canonicalText) observedAt).trans
      stores.quoted)
  rw [opened']
  simp only [Option.mem_def, Option.some.injEq, forall_eq']
  rw [expired, if_pos late, Account.eligible, Account.usdt_hold, noReceipt, anyEligible,
    Option.any_none, Bool.or_false]
  have chosen : ∀ eligible : Bool, (if eligible = true then none
      else current.paymentExpiredAt.or (some observedAt)) = none ↔ eligible = true := by
    intro eligible
    cases eligible <;> cases current.paymentExpiredAt <;> simp
  rw [chosen, paid]
  constructor
  · rintro ⟨_, ⟨⟩, present, enough, timely⟩
    refine ⟨Bool.and_eq_true_iff.mpr ⟨present, decide_eq_true enough⟩, ?_⟩
    simpa [Account.hold, opened, unmarked] using timely
  · rintro ⟨matched, timely⟩
    obtain ⟨present, enough⟩ := Bool.and_eq_true_iff.mp matched
    refine ⟨_, rfl, present, of_decide_eq_true enough, ?_⟩
    simpa [Account.hold, opened, unmarked] using timely

theorem Overdue.dispositionFor_eq (overdue : Overdue observedAt provider row a)
    (required : Nat) (input : BitcoinObservationInput) :
    a.dispositionFor required input = disposition true required a.binding input := by
  rw [Account.dispositionFor, overdue.bound]
  rfl

theorem Overdue.outpoint_receive (overdue : Overdue observedAt provider row a)
    (quoted : a.destination = some destination)
    (absent : input.address = destination.address → input.present = false) :
    (a.receive crypto input observedAt).binding.map (·.outpoint) =
      a.binding.map (·.outpoint) := by
  by_cases stores : ∃ destination, a.Stores destination input
  · obtain ⟨destination', stores⟩ := stores
    obtain rfl := Option.some.inj (quoted.symm.trans stores.quoted)
    obtain ⟨binding, held, same⟩ := (disposition_v2_of_absent (absent stores.own.symm)).mp
      (overdue.dispositionFor_eq _ input ▸ stores.written)
    rw [Account.receive_of_stores stores, Option.mem_def.mp held, Option.map_some, same]
    rfl
  · rw [Account.receive_of_not_stores (not_exists.mp stores)]

theorem Overdue.outpoint_afterReports (overdue : Overdue observedAt provider row a)
    (quoted : a.destination = some destination)
    (absent : ∀ input ∈ reportsFor destination.address batch, input.present = false) :
    (a.afterReports crypto batch observedAt).binding.map (·.outpoint) =
      a.binding.map (·.outpoint) := by
  induction batch generalizing a with
  | nil => rfl
  | cons input batch ih =>
    rw [Account.afterReports_cons, ih (overdue.receive crypto input).1
      (Account.destination_receive.trans quoted)]
    · refine overdue.outpoint_receive quoted fun own => absent input ?_
      rw [reportsFor_cons_own own]
      exact .head _
    · intro report member
      obtain ⟨stored, own⟩ := List.mem_filter.mp member
      exact absent report (List.mem_filter.mpr ⟨.tail _ stored, own⟩)

theorem Account.afterReports_concat : a.afterReports crypto (batch ++ [input]) observedAt =
    (a.afterReports crypto batch observedAt).receive crypto input observedAt := by
  simp [Account.afterReports]

/-- A batch after the deadline leaves an eligible output: the last present output
pays enough and is already on time, or nothing replaces the active one. -/
def Account.KeepsEligible (crypto : Crypto) (a : Account) (destination : PaymentDestination)
    (batch : List BitcoinObservationInput) : Prop :=
  match ((reportsFor destination.address batch).filter (·.present)).getLast? with
  | some last => last.matched destination.requiredAmount = true ∧
      crypto.bitcoinOutpointLookupHash last.outpoint.canonicalText ∈ a.timely
  | none => ∀ input ∈ reportsFor destination.address batch, ∀ binding ∈ a.binding,
      binding.outpoint ≠ input.outpoint

theorem Account.keepsEligible_of_absent
    (absent : ∀ input ∈ reportsFor destination.address batch, input.present = false) :
    a.KeepsEligible crypto destination batch ↔
      ∀ input ∈ reportsFor destination.address batch, ∀ binding ∈ a.binding,
        binding.outpoint ≠ input.outpoint := by
  have nothing : (reportsFor destination.address batch).filter (·.present) = [] := by
    simpa using absent
  rw [Account.KeepsEligible, nothing]
  rfl

section Last

variable (overdue : Overdue observedAt provider row a) (quoted : a.destination = some destination)

include overdue quoted

/-- A batch whose last report shows an output of the address. -/
theorem Overdue.unexpired_of_present (own : input.address = destination.address)
    (present : input.present = true) :
    (∀ row' ∈ (a.afterReports crypto (batch ++ [input]) observedAt).invoice,
        row'.paymentExpiredAt = none) ↔
      a.KeepsEligible crypto destination (batch ++ [input]) := by
  obtain ⟨before, timely, -⟩ := overdue.afterReports crypto batch
  have stores : (a.afterReports crypto batch observedAt).Stores destination input := by
    refine ⟨Account.destination_afterReports.trans quoted, own.symm, ?_⟩
    rw [before.dispositionFor_eq]
    exact disposition_v2_of_present present
  rw [Account.afterReports_concat, before.unexpired_receive_iff stores, timely,
    Account.KeepsEligible]
  simp [reportsFor, own, present]

/-- A batch of absences: only that of the active output is stored. -/
theorem Overdue.unexpired_of_absent (own : input.address = destination.address)
    (last : input.present = false)
    (absent : ∀ report ∈ reportsFor destination.address batch, report.present = false) :
    (∀ row' ∈ (a.afterReports crypto (batch ++ [input]) observedAt).invoice,
        row'.paymentExpiredAt = none) ↔
      (∀ row' ∈ (a.afterReports crypto batch observedAt).invoice, row'.paymentExpiredAt = none) ∧
        ∀ binding ∈ a.binding, binding.outpoint ≠ input.outpoint := by
  obtain ⟨before, -, -⟩ := overdue.afterReports crypto batch
  have quoted' : (a.afterReports crypto batch observedAt).destination = some destination :=
    Account.destination_afterReports.trans quoted
  have outputs : (a.afterReports crypto batch observedAt).binding.map (·.outpoint) =
      a.binding.map (·.outpoint) := overdue.outpoint_afterReports quoted absent
  have stores : (a.afterReports crypto batch observedAt).Stores destination input ↔
      ∃ binding ∈ a.binding, binding.outpoint = input.outpoint := by
    have written : (∃ binding ∈ (a.afterReports crypto batch observedAt).binding,
        binding.outpoint = input.outpoint) ↔
        ∃ binding ∈ a.binding, binding.outpoint = input.outpoint := by
      simp only [Option.mem_def, ← Option.map_eq_some_iff, outputs]
    rw [← written, ← disposition_v2_of_absent last, ← before.dispositionFor_eq]
    exact ⟨fun stores => stores.written, fun written => ⟨quoted', own.symm, written⟩⟩
  rw [Account.afterReports_concat]
  by_cases active : ∃ binding ∈ a.binding, binding.outpoint = input.outpoint
  · -- the active output disappears
    rw [before.unexpired_receive_iff (stores.mpr active)]
    obtain ⟨binding, bound, same⟩ := active
    refine iff_of_false (fun paid => ?_) fun kept => kept.2 binding bound same
    rw [BitcoinObservationInput.matched, last] at paid
    cases paid.1
  · rw [Account.receive_of_not_stores fun other stored => active (stores.mp
      (Option.some.inj (quoted'.symm.trans stored.quoted) ▸ stored))]
    exact (and_iff_left fun binding bound same => active ⟨binding, bound, same⟩).symm

/-- A batch after the deadline leaves a provider-v2 invoice unexpired exactly when it
leaves an eligible output and, if it shows no output, the invoice was not expired. -/
theorem Overdue.unexpired_afterReports_iff
    (ordered : (reportsFor destination.address batch).Pairwise fun first second =>
      first.present = true → second.present = true) :
    (∀ row' ∈ (a.afterReports crypto batch observedAt).invoice, row'.paymentExpiredAt = none) ↔
      a.KeepsEligible crypto destination batch ∧
        ((reportsFor destination.address batch).any (·.present) = false →
          ∀ row' ∈ a.invoice, row'.paymentExpiredAt = none) := by
  induction batch using List.reverseRecOn with
  | nil => simp [Account.afterReports, Account.KeepsEligible, reportsFor]
  | append_singleton batch input ih =>
    by_cases own : input.address = destination.address
    · have reports : reportsFor destination.address (batch ++ [input]) =
          reportsFor destination.address batch ++ [input] := by
        simp [reportsFor, own]
      cases present : input.present with
      | true =>
        rw [overdue.unexpired_of_present quoted own present, reports]
        simp [present]
      | false =>
        rw [reports] at ordered
        obtain ⟨ordered, -, last⟩ := List.pairwise_append.mp ordered
        have absent : ∀ report ∈ reportsFor destination.address batch,
            report.present = false := by
          intro report member
          refine eq_false_of_ne_true fun shown => ?_
          rw [last report member input (.head _) shown] at present
          cases present
        have absent' : ∀ report ∈ reportsFor destination.address (batch ++ [input]),
            report.present = false := by
          rw [reports]
          simpa [or_imp, forall_and, present] using absent
        rw [overdue.unexpired_of_absent quoted own present absent, ih ordered,
          Account.keepsEligible_of_absent absent, Account.keepsEligible_of_absent absent', reports]
        simp only [List.any_append, List.mem_append, List.mem_singleton, or_imp, forall_and,
          forall_eq, List.any_cons, present, List.any_nil, Bool.or_false]
        exact and_right_comm
    · have reports : reportsFor destination.address (batch ++ [input]) =
          reportsFor destination.address batch := by
        simp [reportsFor, own]
      have silent : (a.afterReports crypto batch observedAt).receive crypto input observedAt =
          a.afterReports crypto batch observedAt := by
        refine Account.receive_of_silent ?_
        rintro other quoted' same
        obtain rfl := Option.some.inj
          ((Account.destination_afterReports.trans quoted).symm.trans quoted')
        exact own same.symm
      rw [reports] at ordered
      rw [Account.afterReports_concat, silent, ih ordered, Account.KeepsEligible,
        Account.KeepsEligible, reports]

end Last

theorem Account.evidence_afterReports_of_v1 (v1 : a.provider = none) :
    (a.afterReports crypto batch observedAt).evidence = a.evidence := by
  induction batch generalizing a with
  | nil => rfl
  | cons input batch ih =>
    rw [Account.afterReports_cons, ih (Account.provider_receive.trans v1)]
    by_cases stores : ∃ destination, a.Stores destination input
    · obtain ⟨destination, stores⟩ := stores
      rw [Account.receive_of_stores stores]
      exact Account.sampled_of_v1 v1
    · rw [Account.receive_of_not_stores (not_exists.mp stores)]

theorem Coherent.honoured_overdue_iff (coherent : Coherent crypto a) (honoured : a.Honoured)
    (opened : a.invoice = some row) (late : row.paymentDeadline < observedAt)
    (ordered : ∀ address, (reportsFor address batch).Pairwise fun first second =>
      first.present = true → second.present = true) :
    (a.afterReports crypto batch observedAt).Honoured ↔
      ∀ destination, row.payment.bitcoin = some destination → a.evidence.isSome = true →
        a.KeepsEligible crypto destination batch := by
  have unaffected : a.evidence.isSome = false →
      (a.afterReports crypto batch observedAt).evidence = a.evidence →
      ((a.afterReports crypto batch observedAt).Honoured ↔
        ∀ destination, row.payment.bitcoin = some destination → a.evidence.isSome = true →
          a.KeepsEligible crypto destination batch) := by
    intro none kept
    refine iff_of_true (fun evidence => ?_) (fun _ _ evidence => ?_)
    · rw [kept, none] at evidence
      cases evidence
    · rw [none] at evidence
      cases evidence
  cases bound : a.provider with
  | none =>
    refine unaffected ?_ (Account.evidence_afterReports_of_v1 bound)
    rw [coherent.evidenceProvider bound]
    rfl
  | some provider =>
    obtain ⟨usdt, deadline⟩ := coherent.providerTerms provider bound row opened
    have overdue : Overdue observedAt provider row a :=
      ⟨bound, ⟨row, opened, SameTerms.refl row⟩, usdt, deadline, late⟩
    obtain ⟨-, -, kept⟩ := overdue.afterReports crypto batch
    cases evidence : a.evidence.isSome with
    | false => exact evidence ▸ unaffected evidence kept
    | true =>
      have unexpired := honoured evidence
      simp only [Account.Honoured, kept, evidence, forall_const]
      cases quoted : row.payment.bitcoin with
      | none =>
        have silent : a.destination = none := by
          rw [Account.destination, opened, Option.bind_some, quoted]
        rw [Account.afterReports_of_silent silent]
        refine iff_of_true unexpired fun destination quoted => ?_
        cases quoted
      | some destination =>
        have pays : a.destination = some destination := by
          rw [Account.destination, opened, Option.bind_some, quoted]
        rw [overdue.unexpired_afterReports_iff pays (ordered destination.address)]
        simpa using fun _ _ => unexpired

end Overdue

/-- Whether a batch leaves an invoice with an eligible output after the deadline: the
last present output pays enough and was marked on time, or no output is present and
the active one is not reported absent. -/
def keepsEligible (crypto : Crypto) (db : Database) (i : Uuid) (destination : PaymentDestination)
    (batch : List BitcoinObservationInput) : Bool :=
  let own := reportsFor destination.address batch
  match (own.filter (·.present)).getLast? with
  | some last => last.matched destination.requiredAmount &&
      db.timely i (crypto.bitcoinOutpointLookupHash last.outpoint.canonicalText)
  | none => own.all fun input => (db.activeObservation i).all fun active =>
    decide (active.binding.outpoint ≠ input.outpoint)

/-- What a request must not do to an invoice with evidence: commit a batch after the
deadline that leaves it without an eligible output. -/
def KeepsEvidence (env : Environment) (i : Uuid) (db : Database) : Request → Prop
  | .observeOnce targets outputs observedAt =>
    ∀ batch applied db' row destination, validateBatch env outputs targets = .ok batch →
      applyBitcoinObservationBatch env.crypto db batch observedAt = .ok (applied, db') →
      db.invoice i = some row → row.payment.bitcoin = some destination →
      (db.evidence i).isSome = true → row.paymentDeadline < observedAt →
      keepsEligible env.crypto db i destination batch = true
  | _ => True

theorem keepsEligible_iff {crypto : Crypto} {db : Database} {i : Uuid}
    {destination : PaymentDestination} {batch : List BitcoinObservationInput} :
    keepsEligible crypto db i destination batch = true ↔
      (account db i).KeepsEligible crypto destination batch := by
  unfold keepsEligible Account.KeepsEligible
  dsimp only
  split
  · rw [Bool.and_eq_true]
    refine and_congr_right fun _ => ?_
    exact List.contains_iff_mem
  · rw [binding_account]
    cases db.activeObservation i <;> simp

section Runs

variable {env : Environment} {db db' : Database} {i : Uuid}

theorem evidence_account (db : Database) (i : Uuid) :
    (account db i).evidence.isSome = (db.evidence i).isSome := by
  simp [account]

theorem account_batch_of_overdue (coherent : AllCoherent env.crypto db)
    {batch : List BitcoinObservationInput} {observedAt : OffsetDateTime} {row : InvoiceRow}
    (opened : db.invoice i = some row) (overdue : row.paymentDeadline < observedAt)
    (done : execute (perform env) db (batchActions batch observedAt) = .ok db') :
    account db' i = (account db i).afterReports env.crypto batch observedAt := by
  rw [batchActions, execute_append] at done
  obtain ⟨mid, observed, checked⟩ := bind_eq_ok.mp done
  obtain ⟨coherent', reports⟩ := account_reports (i := i) coherent observed
  obtain ⟨-, checks⟩ := account_deadlines (i := i) coherent' checked
  obtain ⟨after, opened', terms⟩ : ∃ row', (account mid i).invoice = some row' ∧
      SameTerms row row' := by
    rw [reports]
    exact Account.invoice_afterReports opened
  rw [checks, Account.afterDeadlines_of_overdue opened' (terms.deadline ▸ overdue), reports]

theorem honoured_batch_iff (coherent : AllCoherent env.crypto db)
    (honoured : (account db i).Honoured) {batch : List BitcoinObservationInput}
    {observedAt : OffsetDateTime} (order : BatchOrder batch)
    (done : execute (perform env) db (batchActions batch observedAt) = .ok db') :
    (account db' i).Honoured ↔ ∀ row destination, db.invoice i = some row →
      row.payment.bitcoin = some destination → (db.evidence i).isSome = true →
      row.paymentDeadline < observedAt →
      keepsEligible env.crypto db i destination batch = true := by
  by_cases late : ∃ row, db.invoice i = some row ∧ row.paymentDeadline < observedAt
  · obtain ⟨row, opened, overdue⟩ := late
    rw [account_batch_of_overdue coherent opened overdue done,
      (coherent i).honoured_overdue_iff honoured opened overdue
        fun address => (reportsFor_order order address).2, evidence_account]
    constructor
    · intro keeps row' destination opened' quoted evidence _
      obtain rfl := Option.some.inj (opened'.symm.trans opened)
      exact keepsEligible_iff.mpr (keeps destination quoted evidence)
    · intro keeps destination quoted evidence
      exact keepsEligible_iff.mp (keeps row destination opened quoted evidence overdue)
  · have early : ∀ row ∈ (account db i).invoice, observedAt ≤ row.paymentDeadline :=
      fun row opened => not_lt.mp fun overdue => late ⟨row, opened, overdue⟩
    rw [batchActions, execute_append] at done
    obtain ⟨mid, observed, checked⟩ := bind_eq_ok.mp done
    obtain ⟨coherent', -⟩ := account_reports (i := i) coherent observed
    have during := honoured_reports coherent early honoured observed
    refine iff_of_true (honoured_execute coherent' ?_ during checked) ?_
    · intro action member input observedAt
      obtain ⟨_, -, rfl⟩ := List.mem_map.mp member
      intro same
      cases same
    · intro row destination opened _ _ overdue
      exact absurd ⟨row, opened, overdue⟩ late

theorem honoured_commit (coherent : AllCoherent env.crypto db)
    (honoured : (account db i).Honoured) {request : Request}
    (silent : ∀ action ∈ requestActions env request, ∀ input observedAt,
      action ≠ .observe input observedAt) :
    (account ((server env).commit db request) i).Honoured := by
  unfold System.commit
  split
  · rename_i done
    exact honoured_execute coherent silent honoured done
  · exact honoured

/-- A batch request commits its batch, if it is valid and succeeds. -/
theorem honoured_observeOnce_iff (coherent : AllCoherent env.crypto db)
    (honoured : (account db i).Honoured) (targets : List ObservationTarget)
    (outputs : List ObservedOutput) (observedAt : OffsetDateTime) :
    (account ((server env).commit db (.observeOnce targets outputs observedAt)) i).Honoured ↔
      KeepsEvidence env i db (.observeOnce targets outputs observedAt) := by
  cases valid : validateBatch env outputs targets with
  | error e =>
    have actions : requestActions env (.observeOnce targets outputs observedAt) = [] := by
      simp only [requestActions, valid]
    refine iff_of_true (honoured_commit coherent honoured (by simp [actions])) ?_
    intro batch _ _ _ _ valid'
    rw [valid] at valid'
    cases valid'
  | ok batch =>
    have actions : (server env).actions (.observeOnce targets outputs observedAt) =
        batchActions batch observedAt := by
      change requestActions env (.observeOnce targets outputs observedAt) = _
      simp only [requestActions, valid]
    have performed : Prod.snd <$> applyBitcoinObservationBatch env.crypto db batch observedAt =
        execute (perform env) db (batchActions batch observedAt) :=
      applyBitcoinObservationBatch_eq db batch
    have same : ∀ batch', validateBatch env outputs targets = .ok batch' → batch' = batch :=
      fun batch' valid' => Except.ok.inj (valid'.symm.trans valid)
    cases done : execute (perform env) db (batchActions batch observedAt) with
    | error e =>
      have stays : (server env).commit db (.observeOnce targets outputs observedAt) = db := by
        refine System.commit_of_error (e := e) ?_
        rw [actions]
        exact done
      rw [stays]
      refine iff_of_true honoured ?_
      intro batch' applied db' _ _ valid' committed
      rw [same batch' valid'] at committed
      rw [committed, done] at performed
      cases performed
    | ok db' =>
      have commits : (server env).commit db (.observeOnce targets outputs observedAt) =
          db' := by
        refine System.commit_of_ok ?_
        rw [actions]
        exact done
      rw [commits]
      rw [done] at performed
      obtain ⟨applied, committed⟩ := snd_eq_ok.mp performed
      rw [honoured_batch_iff coherent honoured (validateBatch_order valid) done]
      constructor
      · intro keeps batch' _ _ row destination valid' _
        rw [same batch' valid']
        exact keeps row destination
      · intro keeps row destination
        exact keeps batch applied _ row destination valid committed

theorem honoured_commit_iff (coherent : AllCoherent env.crypto db)
    (honoured : (account db i).Honoured) (request : Request) :
    (account ((server env).commit db request) i).Honoured ↔ KeepsEvidence env i db request := by
  cases request with
  | observeOnce targets outputs observedAt =>
    exact honoured_observeOnce_iff coherent honoured targets outputs observedAt
  | observeMarketplaceOnce targets outputs observedAt =>
    refine iff_of_true (honoured_commit coherent honoured ?_) trivial
    intro action member
    simp only [requestActions] at member
    split at member
    · obtain ⟨_, -, rfl⟩ := List.mem_map.mp member
      intro input observedAt same
      cases same
    · cases member
  | fenceObservationTargets targets observedAt =>
    refine iff_of_true (honoured_commit coherent honoured ?_) trivial
    intro action member
    cases member
  | _ =>
    refine iff_of_true (honoured_commit coherent honoured ?_) trivial
    intro action member
    obtain rfl := List.mem_singleton.mp member
    intro input observedAt same
    cases same

end Runs

theorem status_expired {crypto : Crypto} {db : Database} {i : Uuid} {status : ProviderV2Status}
    (read : providerV2Status crypto db i = .ok (some status))
    (expired : status.paymentState = .expired)
    (satisfied : status.firstThresholdSatisfied.isSome = true) :
    ∃ row, db.invoice i = some row ∧ row.paymentExpiredAt.isSome = true ∧
      (db.evidence i).isSome = true := by
  unfold providerV2Status at read
  split at read
  · rename_i row provider opened _
    obtain ⟨current, _, first, evidence, read⟩ := bind₂_eq_ok.mp read
    cases read
    refine ⟨row, opened, ?_, ?_⟩
    · dsimp only at expired
      split at expired
      · assumption
      · cases expired
    · unfold firstThresholdSatisfied at evidence
      split at evidence
      · cases evidence
        cases satisfied
      · rename_i found
        rw [found]
        rfl
  · cases read

/-- The evidence of a provider-v2 invoice keeps it from being expired in every state
of a run exactly when no batch committed after the deadline leaves the invoice without
an eligible output. Status then never reports evidence together with expiry. -/
theorem evidence_unexpired_iff (env : Environment) (requests : List Request) (i : Uuid) :
    ((∀ n row, (reached env (requests.take n)).invoice i = some row →
        ((reached env (requests.take n)).evidence i).isSome = true →
        row.paymentExpiredAt = none) ↔
      ∀ n request, requests[n]? = some request →
        KeepsEvidence env i (reached env (requests.take n)) request) ∧
    ∀ n status, (∀ row, (reached env (requests.take n)).invoice i = some row →
        ((reached env (requests.take n)).evidence i).isSome = true →
        row.paymentExpiredAt = none) →
      providerV2Status env.crypto (reached env (requests.take n)) i = .ok (some status) →
      ¬ (status.paymentState = .expired ∧ status.firstThresholdSatisfied.isSome = true) := by
  constructor
  · have runs : (∀ n, (account ((server env).run Database.empty (requests.take n)) i).Honoured) ↔
        ∀ n request, requests[n]? = some request →
          KeepsEvidence env i ((server env).run Database.empty (requests.take n)) request := by
      refine System.prefixes_iff (I := AllCoherent env.crypto)
        (P := fun db => (account db i).Honoured) ?_
        (fun db request coherent honoured => honoured_commit_iff coherent honoured request)
        (AllCoherent.empty env.crypto) ?_
      · intro db request coherent
        have committed : AllCoherent env.crypto ((server env).run db [request]) :=
          System.run_invariant (fun _ _ _ coherent done => coherent.perform done) coherent
        exact committed
      · rw [account_empty]
        intro evidence
        cases evidence
    refine Iff.trans ?_ runs
    refine forall_congr' fun n => ?_
    unfold Account.Honoured
    rw [evidence_account]
    exact ⟨fun holds evidence row opened => holds row opened evidence,
      fun holds row opened evidence => holds evidence row opened⟩
  · rintro n status unexpired read ⟨expired, satisfied⟩
    obtain ⟨row, opened, expiredAt, evidence⟩ := status_expired read expired satisfied
    rw [unexpired row opened evidence] at expiredAt
    cases expiredAt

/-- A batch that was fenced before the deadline and is committed after it, and reports
the paying output of a provider-v2 invoice as absent. -/
def fencedDisappearance : List Request :=
  [.createProviderV2 (Sample.payment none) ⟨"a", 10⟩ 0 100000000 1,
    .observeOnce [⟨"a", none⟩] [Sample.output 0 10 1] 5,
    .observationTargets 98000000,
    .fenceObservationTargets [⟨"a", some ⟨Sample.outpoint 0, 10⟩⟩] 99000000,
    .observeOnce [⟨"a", some ⟨Sample.outpoint 0, 10⟩⟩] [Sample.absence 0 10] 200000000]

/-- Status then reports expiry together with first-threshold evidence. -/
theorem expired_with_evidence :
    fenceObservationTargets Sample.environment.crypto
        (reached Sample.environment (fencedDisappearance.take 3))
        [⟨"a", some ⟨Sample.outpoint 0, 10⟩⟩] 99000000 =
      [⟨"a", some ⟨Sample.outpoint 0, 10⟩⟩] ∧
    ((reached Sample.environment fencedDisappearance).evidence 0).isSome = true ∧
    ((reached Sample.environment fencedDisappearance).invoice 0).map (·.paymentExpiredAt) =
      some (some 200000000) ∧
    ((providerV2Status Sample.environment.crypto
        (reached Sample.environment fencedDisappearance) 0).toOption.bind id).map
        (fun status => (status.paymentState, status.firstThresholdSatisfied)) =
      some (.expired, some (paidSample ⟨"a", Sample.outpoint 0, 10, 1, true⟩ 5)) := by
  decide +kernel

end PaykitServer.Settlement
