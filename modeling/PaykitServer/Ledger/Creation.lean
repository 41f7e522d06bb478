import PaykitServer.Ledger.Requests

/-!
# What invoice creation commits

Both versions of the API admit an invoice in one transaction that takes its times from
the database clock and its child index from the creator's row. A v1 invoice gets whole
seconds from its configuration; a provider-v2 invoice is due when its caller says, with
a proposal that expires one microsecond earlier at the latest.
-/

namespace PaykitServer

open Domain Persistence Application
open MarketplacePreparations Relational

def Persistence.AdmissionRow.InOrder (row : AdmissionRow) : Prop :=
  row.invoiceCreatedAt < row.proposalExpiresAt ∧ row.proposalExpiresAt < row.paymentDeadline

inductive Admits (d : Deployment) (store : Store) (new : Invoices.NewInvoice) :
    Operation → Prop where
  | createInvoice (input : Invoices.AtomicInvoiceInput)
      (found : store.creatorByHash (textHash d.crypto input.creator) = some new.creator)
      (drawn : Invoices.DrawnFrom d.sdk input.invoicePayloads new)
      (expires : new.proposalExpiresAt = store.clock + seconds input.proposalAcceptanceSeconds)
      (due : new.paymentDeadline = store.clock + seconds input.paymentWindowSeconds)
      (acceptance : input.proposalAcceptanceSeconds ≠ 0)
      (window : input.proposalAcceptanceSeconds < input.paymentWindowSeconds) :
      Admits d store new (.createInvoice input)
  | createProviderV2 (input : Invoices.ProviderV2AtomicInvoiceInput)
      (found : store.creatorByHash (textHash d.crypto input.creator) = some new.creator)
      (drawn : Invoices.DrawnFrom d.sdk input.invoicePayloads new)
      (expires : new.proposalExpiresAt =
        min (store.clock + seconds input.proposalAcceptanceSeconds) (input.deadline + -1))
      (due : new.paymentDeadline = input.deadline) (running : store.clock < input.deadline)
      (acceptance : input.proposalAcceptanceSeconds ≠ 0) :
      Admits d store new (.createProviderV2 input)

section Admission

variable {d : Deployment} {store store' : Store} {operation : Operation}
variable {new : Invoices.NewInvoice}

theorem insertNewInvoice_admissions {locked : Store} {ids : Invoices.NewIds}
    (admissible : Invoices.Admissible d.sdk store locked new)
    (inserted : Invoices.insertNewInvoice d.crypto locked new = .ok (ids, store')) :
    store'.admissions.rows = store.admissions.rows ++ [new.admissionRow d.crypto ids.invoice] := by
  obtain ⟨lock, hlock, -, -⟩ := admissible.locked
  obtain ⟨generations, same, -, -⟩ := Invoices.lockGenerationForUpdate_ok hlock
  obtain ⟨_, _, _, admissions, _, _, _, same', -, -, -, rows, -⟩ :=
    Invoices.insertNewInvoice_ok inserted
  rw [same', rows, same]

theorem operate_admits (done : operate d store operation = .ok store') :
    store'.admissions.rows = store.admissions.rows ∨
      ∃ new id, store'.admissions.rows =
          store.admissions.rows ++ [new.admissionRow d.crypto id] ∧
        (∃ locked, Invoices.Admissible d.sdk store locked new) ∧ Admits d store new operation := by
  cases admits : operation.isAdmission with
  | false =>
    cases operate_effect done with
    | admitted _ isAdmission =>
      rw [admits] at isAdmission
      cases isAdmission
    | _ => exact .inl rfl
  | true =>
    cases operation with
    | createInvoice input =>
      obtain ⟨result, created⟩ := snd_eq_ok.mp (persist_eq_ok.mp done)
      obtain ⟨creator, found, ⟨_, -, -, rfl⟩ |
        ⟨_, _, ⟨accepted, window, acceptance, order⟩, free, admitted⟩⟩ :=
        Invoices.createAtomic_ok created
      · exact .inl rfl
      · obtain ⟨locked, new, ids, rfl, -, -, -, ⟨due, expires⟩, -, ⟨-, drawn⟩, admissible,
          inserted, -⟩ := Invoices.admitInvoice_ok free admitted
        refine .inr ⟨new, _, insertNewInvoice_admissions admissible inserted,
          ⟨locked, admissible⟩, ?_⟩
        exact .createInvoice input found drawn
          (expires.trans (OffsetDateTime.checkedAdd_eq_some.mp accepted).2)
          (due.trans (OffsetDateTime.checkedAdd_eq_some.mp window).2) acceptance order
    | createProviderV2 input =>
      obtain ⟨result, created⟩ := snd_eq_ok.mp (persist_eq_ok.mp done)
      obtain ⟨creator, found, ⟨_, -, -, rfl⟩ | ⟨free, admitted⟩⟩ :=
        Invoices.createProviderV2Atomic_ok created
      · exact .inl rfl
      · obtain ⟨locked, new, ids, rfl, -, -, -, ⟨due, running, expires⟩, -, -, drawn,
          admissible, inserted, -⟩ := Invoices.admitProviderV2_ok free admitted
        refine .inr ⟨new, _, insertNewInvoice_admissions admissible inserted,
          ⟨locked, admissible⟩, ?_⟩
        exact .createProviderV2 input found drawn expires due running
          (Invoices.createProviderV2Atomic_checked created)
    | _ => cases admits

theorem providerV2_admits_iff {input : Invoices.ProviderV2AtomicInvoiceInput}
    (done : operate d store (.createProviderV2 input) = .ok store') :
    store'.admissions.rows ≠ store.admissions.rows ↔
      Invoices.storedInvoice d.crypto store input.creator input.bundleBinding = none := by
  obtain ⟨result, created⟩ := snd_eq_ok.mp (persist_eq_ok.mp done)
  obtain ⟨creator, found, ⟨_, stored, -, rfl⟩ | ⟨free, admitted⟩⟩ :=
    Invoices.createProviderV2Atomic_ok created
  · simp [Invoices.storedInvoice, found, stored]
  · obtain ⟨locked, new, ids, rfl, -, -, -, -, -, -, -, admissible, inserted, -⟩ :=
      Invoices.admitProviderV2_ok free admitted
    simp [Invoices.storedInvoice, found, free, insertNewInvoice_admissions admissible inserted]

/-- Only a provider-v2 invoice that is due in one microsecond is out of order: its
proposal expires as it is created. -/
theorem Admits.inOrder_iff (admits : Admits d store new operation)
    (created : new.createdAt = store.clock) (id : Uuid) :
    (new.admissionRow d.crypto id).InOrder ↔
      ∀ input, operation = .createProviderV2 input → input.deadline ≠ store.clock + 1 := by
  show new.createdAt < new.proposalExpiresAt ∧ new.proposalExpiresAt < new.paymentDeadline ↔ _
  cases admits with
  | createInvoice input _ _ expires due acceptance window =>
    refine iff_of_true ?_ fun _ other => by cases other
    have positive := seconds_pos acceptance
    rw [created, expires, due]
    exact ⟨Int.lt_add_of_pos_right _ (by omega),
      Int.add_lt_add_left (seconds_lt_seconds window) _⟩
  | createProviderV2 input _ _ expires due running acceptance =>
    have positive := seconds_pos acceptance
    have later : store.clock < store.clock + seconds input.proposalAcceptanceSeconds :=
      Int.lt_add_of_pos_right _ (by omega)
    rw [created, due, expires, lt_min_iff]
    constructor
    · rintro ⟨⟨-, early⟩, -⟩ _ ⟨⟩ soon
      rw [soon, Int.add_neg_cancel_right] at early
      exact lt_irrefl _ early
    · intro apart
      have different := apart input rfl
      refine ⟨⟨later, ?_⟩, min_lt_of_right_lt ?_⟩
      · exact lt_of_le_of_ne (Int.le_sub_one_of_lt running) fun same =>
          different (by rw [same, Int.neg_add_cancel_right])
      · exact Int.sub_one_lt_of_le le_rfl

end Admission

/-- The deadlines of every invoice are in order exactly when no provider-v2 invoice of a new
bundle was created one microsecond before its caller's deadline. -/
theorem deadlines_in_order_iff (d : Deployment) (start : OffsetDateTime)
    (operations : List Operation) :
    (∀ row ∈ (storeAfter d start operations).admissions.rows, row.InOrder) ↔
      ∀ transition ∈ committedOperations d start operations, ∀ input,
        transition.action = .createProviderV2 input →
        Invoices.storedInvoice d.crypto transition.before input.creator input.bundleBinding =
          none → input.deadline ≠ transition.before.clock + 1 := by
  refine System.history_rule (s := Store.empty start) (fun history store =>
    (∀ row ∈ store.admissions.rows, row.InOrder) ↔ ∀ transition ∈ history, ∀ input,
      transition.action = Operation.createProviderV2 input →
      Invoices.storedInvoice d.crypto transition.before input.creator input.bundleBinding =
        none → input.deadline ≠ transition.before.clock + 1) ?_ ?_
  · intro history store operation store' before done
    simp only [List.forall_mem_append, List.forall_mem_singleton, ← before]
    rcases operate_admits done with same | ⟨new, id, rows, ⟨_, admissible⟩, admits⟩
    · rw [same]
      refine ⟨fun ordered => ⟨ordered, ?_⟩, And.left⟩
      rintro input rfl free
      exact absurd same ((providerV2_admits_iff done).mpr free)
    · rw [rows, List.forall_mem_append, List.forall_mem_singleton,
        admits.inOrder_iff admissible.createdAt]
      refine and_congr_right fun _ => forall₂_congr fun input isV2 => ?_
      subst isV2
      have free := (providerV2_admits_iff done).mp (by simp [rows])
      exact ⟨fun apart _ => apart, fun apart => apart free⟩
  · exact iff_of_true (fun _ member => by cases member) fun _ member => by cases member

namespace Sample

/-- A provider-v2 invoice that is due one microsecond after time zero. -/
def dueAtOnce : Invoices.ProviderV2AtomicInvoiceInput :=
  ⟨"creator", "reader", utf8 "bundle", utf8 "lock", 0, 1, 1, payloads, 60⟩

end Sample

/-- A proposal that expires at the time its invoice is created. -/
theorem proposal_expires_at_creation :
    ∃ row ∈ (storeAfter Sample.deployment 0
        [.createCreator (Sample.credentials "xpub"), .createProviderV2 Sample.dueAtOnce]
        ).admissions.rows,
      row.invoiceCreatedAt = 0 ∧ row.proposalExpiresAt = 0 ∧ row.paymentDeadline = 1 := by
  decide +kernel

section Bundles

open Invoices

variable {d : Deployment} {store store' : Store} {operation : Operation} {creator : String}
variable {bundle : List UInt8} {row : AdmissionRow}

theorem storedInvoice_step (effect : Effect d store operation store')
    (stored : storedInvoice d.crypto store creator bundle = some row) :
    storedInvoice d.crypto store' creator bundle = some row := by
  obtain ⟨owner, found, stored⟩ := Option.bind_eq_some_iff.mp stored
  obtain ⟨owner', found', moves⟩ := ((operate_creators effect).lookup
    fun _ _ moves => by cases moves <;> rfl).1 owner found
  obtain ⟨_, stored', rfl⟩ := ((operate_admissions effect).lookup
    fun _ _ same => by rw [same]).1 row stored
  refine Option.bind_eq_some_iff.mpr ⟨owner', found', ?_⟩
  cases moves <;> exact stored'

/-- A bundle is invoiced once. Whatever runs after its invoice is stored, a create of
either version that succeeds for the bundle is of the same version and binding, changes
nothing and answers with that invoice. -/
theorem bundle_invoiced_once (d : Deployment) (store : Store) (rest : List Operation) :
    let later := (ledger d).run store rest
    (∀ creator bundle row, storedInvoice d.crypto store creator bundle = some row →
      storedInvoice d.crypto later creator bundle = some row) ∧
    (∀ input result store' row,
      storedInvoice d.crypto store input.creator input.bundleBinding = some row →
      createAtomic d.crypto d.sdk later input = .ok (result, store') →
      store' = later ∧ row.providerV2 = none ∧
        row.paymentRequestLookupHash = d.crypto.lookupHash input.paymentRequestBinding ∧
        result.invoiceId = row.id ∧ result.invoiceCreatedAt = row.invoiceCreatedAt ∧
        result.paymentDeadline = row.paymentDeadline) ∧
    ∀ input result store' row,
      storedInvoice d.crypto store input.creator input.bundleBinding = some row →
      createProviderV2Atomic d.crypto d.sdk later input = .ok (result, store') →
      store' = later ∧ ∃ binding ∈ row.providerV2, binding.requestHash = input.requestHash ∧
        result = ⟨row.id, row.invoiceCreatedAt, binding.proposalExpiresAt, binding.deadline,
          true⟩ := by
  have kept : ∀ creator bundle row, storedInvoice d.crypto store creator bundle = some row →
      storedInvoice d.crypto ((ledger d).run store rest) creator bundle = some row :=
    fun _ _ _ => ledger_invariant fun _ _ _ stored done =>
      storedInvoice_step (operate_effect done) stored
  refine ⟨kept, ?_, ?_⟩
  · intro input result store' row stored done
    obtain ⟨owner, found, held⟩ := Option.bind_eq_some_iff.mp (kept _ _ row stored)
    obtain ⟨_, found', outcome⟩ := createAtomic_ok done
    cases found.symm.trans found'
    rcases outcome with ⟨_, stored', replayed, rfl⟩ | ⟨_, _, -, free, -⟩
    · cases held.symm.trans stored'
      obtain ⟨v1, bound, _, _, -, -, rfl⟩ := replayInvoice_ok replayed
      exact ⟨rfl, v1, bound, rfl, rfl, rfl⟩
    · cases held.symm.trans free
  · intro input result store' row stored done
    obtain ⟨owner, found, held⟩ := Option.bind_eq_some_iff.mp (kept _ _ row stored)
    obtain ⟨_, found', outcome⟩ := createProviderV2Atomic_ok done
    cases found.symm.trans found'
    rcases outcome with ⟨_, stored', replayed, rfl⟩ | ⟨free, -⟩
    · cases held.symm.trans stored'
      exact ⟨rfl, replayProviderV2_ok replayed⟩
    · cases held.symm.trans free

end Bundles

end PaykitServer
