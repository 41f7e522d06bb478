import PaykitServer.Domain.ProviderV2
import PaykitServer.Persistence.Observations

/-!
# Provider-v2 samples and first-threshold evidence

Every stored observation of a provider-v2 invoice refreshes its current sample.
The first observation that meets the threshold before the deadline is kept as
evidence: the insert does nothing when evidence exists, and no statement
rewrites it. A stored sample names its output through the observation row, and
decoding resolves it.
-/

namespace PaykitServer.Persistence

open Domain Bitcoin Relational

/-- Refresh the current sample and, when the threshold is met on time, record
first-threshold evidence. Invoices without a provider-v2 binding have neither. -/
def projectProviderV2Sample (db : Database) (invoice observationId : Uuid)
    (observedAt : OffsetDateTime) (present : Bool) (confirmations : Nat) (amountMatched : Bool) :
    Except PersistenceError Database :=
  match db.providerBinding invoice with
  | none => .ok db
  | some provider => do
    let bounded := min confirmations 6
    let status : PaymentStatus :=
      if present = false then .undetected else if bounded = 0 then .detected else .confirmed
    let sample : CurrentSampleRow :=
      { invoiceId := invoice
        observationId := if present then some observationId else none
        observedAt := observedAt
        status := status
        confirmations := if present then bounded else 0
        amountMatched := present && amountMatched }
    let samples ← Table.write .unavailable
      (upsert (fun row => row.invoiceId = invoice) sample (fun _ => sample)
        db.currentSamples.rows)
    if present ∧ amountMatched ∧ provider.minimumConfirmations ≤ bounded ∧
        observedAt ≤ provider.deadline then
      let evidence : ThresholdEvidenceRow :=
        ⟨invoice, observationId, observedAt, status, bounded, true⟩
      let evidences ← Table.write .unavailable
        (insertNew (fun row => row.invoiceId = invoice) evidence db.thresholdEvidence.rows)
      return { db with currentSamples := samples, thresholdEvidence := evidences }
    else
      return { db with currentSamples := samples }

/-- Decode a stored sample: its output is read through the observation row. -/
def decodeProviderSample (crypto : Crypto) (db : Database) (invoice : Uuid)
    (observedAt : OffsetDateTime) (status : PaymentStatus) (observationId : Option Uuid)
    (confirmations : Nat) (amountMatched : Bool) : Except PersistenceError ProviderV2Sample := do
  let outpoint ← match observationId with
    | none => pure none
    | some id => do
      let row ← demand .corruptOrMissing
        ((db.observationById id).filter fun row => row.invoiceId = some invoice)
      let record ← decryptObservation crypto row
      pure (some record.outpoint)
  match ProviderV2Sample.new observedAt status outpoint confirmations amountMatched with
  | .ok sample => return sample
  | .error _ => throw .corruptOrMissing

def firstThresholdSatisfied (crypto : Crypto) (db : Database) (invoice : Uuid) :
    Except PersistenceError (Option ProviderV2Sample) :=
  match db.evidence invoice with
  | none => .ok none
  | some row => some <$> decodeProviderSample crypto db invoice row.observedAt row.status
      (some row.observationId) row.confirmations row.amountMatched

def currentSample (crypto : Crypto) (db : Database) (invoice : Uuid) :
    Except PersistenceError (Option ProviderV2Sample) :=
  match lookup (fun row : CurrentSampleRow => some row.invoiceId) invoice db.currentSamples.rows with
  | none => .ok none
  | some row => some <$> decodeProviderSample crypto db invoice row.observedAt row.status
      row.observationId row.confirmations row.amountMatched

inductive ProviderPaymentState where
  | expired
  | sampled (status : PaymentStatus)
deriving DecidableEq, Repr

structure ProviderV2Status where
  paymentState : ProviderPaymentState
  invoiceCreatedAt : OffsetDateTime
  deadline : OffsetDateTime
  minimumConfirmations : Nat
  currentSample : Option ProviderV2Sample
  firstThresholdSatisfied : Option ProviderV2Sample

def providerV2Status (crypto : Crypto) (db : Database) (invoice : Uuid) :
    Except PersistenceError (Option ProviderV2Status) :=
  match db.invoice invoice, db.providerBinding invoice with
  | some row, some provider => do
    let current ← currentSample crypto db invoice
    let first ← firstThresholdSatisfied crypto db invoice
    return some {
      paymentState :=
        if row.paymentExpiredAt.isSome then .expired
        else .sampled ((current.map (·.status)).getD .undetected)
      invoiceCreatedAt := row.invoiceCreatedAt
      deadline := provider.deadline
      minimumConfirmations := provider.minimumConfirmations
      currentSample := current
      firstThresholdSatisfied := first }
  | _, _ => .ok none

theorem projectProviderV2Sample_ok {db db' : Database} {invoice observationId : Uuid}
    {observedAt : OffsetDateTime} {present amountMatched : Bool} {confirmations : Nat}
    (done : projectProviderV2Sample db invoice observationId observedAt present confirmations
      amountMatched = .ok db') :
    ∃ samples evidences, db' = { db with currentSamples := samples, thresholdEvidence := evidences } ∧
      evidences.rows =
        match db.providerBinding invoice with
        | none => db.thresholdEvidence.rows
        | some provider =>
          if present ∧ amountMatched ∧ provider.minimumConfirmations ≤ min confirmations 6 ∧
              observedAt ≤ provider.deadline then
            insertNew (fun row => row.invoiceId = invoice)
              ⟨invoice, observationId, observedAt,
                if min confirmations 6 = 0 then .detected else .confirmed,
                min confirmations 6, true⟩ db.thresholdEvidence.rows
          else db.thresholdEvidence.rows := by
  unfold projectProviderV2Sample at done
  split at done
  · cases done
    exact ⟨db.currentSamples, db.thresholdEvidence, rfl, by simp_all⟩
  · rename_i provider found
    obtain ⟨samples, -, done⟩ := bind_eq_ok.mp done
    split at done
    · rename_i holds
      obtain ⟨evidences, written, done⟩ := bind_eq_ok.mp done
      cases done
      refine ⟨samples, evidences, rfl, ?_⟩
      rw [Table.write_eq_ok.mp written]
      simp [holds]
    · rename_i fails
      cases done
      exact ⟨samples, db.thresholdEvidence, rfl, (if_neg fails).symm⟩

end PaykitServer.Persistence
