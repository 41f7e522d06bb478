import PaykitServer.Ledger.Deliveries
import PaykitServer.Ledger.Requests

/-!
# The proposal of an invoice

Admission enqueues the proposal of an invoice in the transaction that stores it, and
nothing else enqueues one. The proposals of the outbox and the admitted invoices are
therefore the same list, which makes the proposal of an invoice unique.
-/

namespace PaykitServer

open Domain Persistence Application
open MarketplacePreparations Relational

def Persistence.OutboxRow.proposes (row : OutboxRow) : Option (Uuid × Uuid) :=
  if row.intentKind = .paymentRequestProposal then row.invoiceId.map (·, row.creatorId) else none

/-- Every invoice is proposed once, in the order of admission. -/
def Proposed (store : Store) : Prop :=
  store.outbox.rows.filterMap OutboxRow.proposes =
    store.admissions.rows.map fun row => (row.id, row.creatorId)

theorem Persistence.OutboxRow.proposes_eq_some {row : OutboxRow} {invoiceId creatorId : Uuid} :
    row.proposes = some (invoiceId, creatorId) ↔ row.intentKind = .paymentRequestProposal ∧
      row.invoiceId = some invoiceId ∧ row.creatorId = creatorId := by
  unfold OutboxRow.proposes
  split
  · rename_i proposal
    simp [proposal]
  · rename_i other
    simp [other]

section Step

variable {d : Deployment} {store store' : Store} {operation : Operation} {row row' : OutboxRow}

theorem SameDelivery.proposes (same : SameDelivery row row') : row'.proposes = row.proposes := by
  simp only [OutboxRow.proposes, same.intentKind, same.invoiceId, same.creatorId]

theorem Enqueued.proposes_none (enqueued : Enqueued store operation row)
    (idle : operation.isAdmission = false) : row.proposes = none := by
  cases enqueued with
  | invoiceProposal _ admission =>
    rw [admission] at idle
    cases idle
  | marketplaceProposal | rotationCancellation | drainCancellation => rfl

theorem proposals_kept (effect : Effect d store operation store')
    (idle : operation.isAdmission = false) :
    store'.outbox.rows.filterMap OutboxRow.proposes =
      store.outbox.rows.filterMap OutboxRow.proposes :=
  (operate_outbox effect).filterMap_eq (fun _ _ rewrites => rewrites.delivery.proposes)
    fun _ enqueued => enqueued.proposes_none idle

theorem Proposed.step (proposed : Proposed store) (effect : Effect d store operation store') :
    Proposed store' := by
  have kept := proposals_kept effect
  cases effect with
  | unchanged | drainRead => exact proposed
  | admitted _ _ new _ _ _ _ _ _ _ _ _ _ _ _ _ _ rows enqueued =>
    unfold Proposed at proposed ⊢
    simp only [rows, enqueued, List.filterMap_append, List.map_append, proposed]
    rfl
  | _ => exact (kept rfl).trans proposed

end Step

section Runs

variable {d : Deployment} {start : OffsetDateTime} {operations : List Operation} {store : Store}

theorem storeAfter_proposed : Proposed (storeAfter d start operations) :=
  storeAfter_invariant rfl fun _ _ _ proposed done => proposed.step (operate_effect done)

theorem Proposed.unique (proposed : Proposed store) {row row' : OutboxRow} {invoiceId : Uuid}
    (stored : row ∈ store.outbox.rows) (stored' : row' ∈ store.outbox.rows)
    (proposal : row.intentKind = .paymentRequestProposal)
    (proposal' : row'.intentKind = .paymentRequestProposal)
    (owned : row.invoiceId = some invoiceId) (owned' : row'.invoiceId = some invoiceId) :
    row = row' := by
  have once : UniqueIndex (fun row : OutboxRow => row.proposes.map Prod.fst) store.outbox.rows := by
    have ids := congrArg (List.map Prod.fst) proposed
    rw [List.map_filterMap, List.map_map] at ids
    have nodup := store.admissions.valid.1
    unfold UniqueIndex at nodup ⊢
    rw [ids]
    simpa [Function.comp_def] using nodup
  refine once.eq_of_key stored stored' (k := invoiceId) ?_ ?_
  · rw [OutboxRow.proposes_eq_some.mpr ⟨proposal, owned, rfl⟩]
    rfl
  · rw [OutboxRow.proposes_eq_some.mpr ⟨proposal', owned', rfl⟩]
    rfl

end Runs

end PaykitServer
