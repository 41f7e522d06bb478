import PaykitServer.Persistence.Invoices.ProviderV2
import PaykitServer.Persistence.Invoices.Settlement

/-!
# Applying Bitcoin observations to invoices

One observation resolves the invoice by its address, authenticates the stored
rows it is about to touch, decides whether to store the output, and rebuilds
the invoice. A batch applies its observations in order under one timestamp and
then expires the invoices it left unmatched exactly at their deadline, all in
one transaction.

Two further operations belong to the same cycle. The target pass expires
invoices whose deadline has passed and lists what is to be observed next; the
fence re-reads provider-v2 deadlines right before the network call.
-/

namespace PaykitServer.Persistence

open Domain Bitcoin Relational

/-- A row already stored for the reported outpoint must belong to the invoice and
record the same output. -/
def checkExistingOutpoint (crypto : Crypto) (invoice : Uuid) (input : BitcoinObservationInput)
    (existing : Option BitcoinObservationRow) : Except PersistenceError Unit :=
  match existing with
  | none => .ok ()
  | some row => do
    ensure (row.invoiceId = some invoice ∧ row.marketplacePreparationId = none) .conflict
    let record ← decryptObservation crypto row
    ensure (record.outpoint = input.outpoint ∧ record.observedSats = input.observedSats) .conflict

/-- The active row must open before anything is decided from it. -/
def checkActive (crypto : Crypto) (active : Option BitcoinObservationRow) :
    Except PersistenceError Unit :=
  match active with
  | none => .ok ()
  | some row => do
    let _ ← decryptObservation crypto row
    return

def InvoiceRow.recordFirstMatch (row : InvoiceRow) (observedAt : OffsetDateTime)
    (outpointHash : LookupHash) : InvoiceRow :=
  { row with
    firstAmountMatchedObservedAt := row.firstAmountMatchedObservedAt.or (some observedAt)
    firstAmountMatchedOutpointLookupHash :=
      row.firstAmountMatchedOutpointLookupHash.or (some outpointHash) }

def newObservationRow (id : Uuid) (invoice : Uuid) (input : BitcoinObservationInput)
    (outpointHash : LookupHash) (observedAt : OffsetDateTime) : BitcoinObservationRow where
  id := id
  invoiceId := some invoice
  marketplacePreparationId := none
  observation := ⟨1, input.outpoint, input.observedSats⟩
  outpointLookupHash := outpointHash
  confirmations := input.confirmations
  present := input.present
  active := true
  firstObservedAt := observedAt

/-- The writes of an observation that is not ignored, up to the projections. -/
def storeInvoiceObservation (db : Database) (invoice : InvoiceRow) (required : Nat)
    (input : BitcoinObservationInput) (outpointHash : LookupHash) (observedAt : OffsetDateTime)
    (replace : Bool) : Except PersistenceError (Uuid × Database) := do
  let existing := db.observationByOutpoint outpointHash
  let (observationId, db) := db.identityFor (existing.map (·.id))
  -- the refreshed row must be the invoice's own, or no row is affected
  ensure (∀ row ∈ existing, row.invoiceId = some invoice.id) .conflict
  let observations ← Table.write .conflict
    (storeObservation (fun row => row.invoiceId = some invoice.id) replace
      (newObservationRow observationId invoice.id input outpointHash observedAt)
      db.bitcoinObservations.rows)
  let matched := input.matched required
  let timely :=
    if matched ∧ observedAt ≤ invoice.paymentDeadline then
      insertNew (· = (invoice.id, outpointHash)) (invoice.id, outpointHash) db.invoiceTimely
    else db.invoiceTimely
  let invoices ←
    if matched ∧ db.providerBinding invoice.id = none then
      Table.write .unavailable
        (updateWhere (fun row => row.id = invoice.id) (·.recordFirstMatch observedAt outpointHash)
          db.invoices.rows)
    else pure db.invoices
  return (observationId,
    { db with bitcoinObservations := observations, invoiceTimely := timely, invoices := invoices })

def recordObservation (crypto : Crypto) (db : Database) (invoice : InvoiceRow) (required : Nat)
    (input : BitcoinObservationInput) (outpointHash : LookupHash) (observedAt : OffsetDateTime)
    (replace : Bool) : Except PersistenceError Database := do
  let (observationId, db) ←
    storeInvoiceObservation db invoice required input outpointHash observedAt replace
  let db ← projectPayments crypto db invoice.id invoice.payment observedAt
  projectProviderV2Sample db invoice.id observationId observedAt input.present
    input.confirmations (input.matched required)

/-- Apply one observation inside an open transaction. The flag says whether an
invoice owns the address. -/
def applyBitcoinObservationInTx (crypto : Crypto) (db : Database)
    (input : BitcoinObservationInput) (observedAt : OffsetDateTime) :
    Except PersistenceError (Bool × Database) := do
  ensure (input.confirmations < 2 ^ 31) .corruptOrMissing
  let addressHash := crypto.bitcoinAddressLookupHash input.address
  match db.invoiceByAddress addressHash with
  | none => return (false, db)
  | some invoice =>
    let destination ← demand .corruptOrMissing invoice.payment.bitcoin
    ensure (invoice.payment.version = 1 ∧ destination.address = input.address ∧
      invoice.bitcoinAddressLookupHash = some addressHash) .corruptOrMissing
    let outpointHash := crypto.bitcoinOutpointLookupHash input.outpoint.canonicalText
    checkExistingOutpoint crypto invoice.id input (db.observationByOutpoint outpointHash)
    let active := db.activeObservation invoice.id
    checkActive crypto active
    match disposition (db.providerBinding invoice.id).isSome destination.requiredAmount
        (active.map (·.binding)) input with
    | .skip => return (true, db)
    | .write replace =>
      let db ← recordObservation crypto db invoice destination.requiredAmount input
        outpointHash observedAt replace
      return (true, db)

def expireUnmatchedAtDeadlineInTx (crypto : Crypto) (db : Database) (address : String)
    (observedAt : OffsetDateTime) : Except PersistenceError Database := do
  let invoices ← Table.write .unavailable
    (updateWhere
      (fun row => row.bitcoinAddressLookupHash = some (crypto.bitcoinAddressLookupHash address) ∧
        row.paymentDeadline = observedAt ∧ row.firstAmountMatchedObservedAt = none ∧
        row.paymentExpiredAt = none ∧ db.providerBinding row.id = none)
      (fun row => { row with paymentExpiredAt := some observedAt })
      db.invoices.rows)
  return { db with invoices := invoices }

/-- Apply a batch under one timestamp; the count is the number of observations
whose address belongs to an invoice. -/
def applyBitcoinObservationBatch (crypto : Crypto) (db : Database)
    (observations : List BitcoinObservationInput) (observedAt : OffsetDateTime) :
    Except PersistenceError (Nat × Database) :=
  if observations.isEmpty then .ok (0, db)
  else do
    let (applied, db) ← observations.foldlM
      (fun (applied, db) observation => do
        let (hit, db) ← applyBitcoinObservationInTx crypto db observation observedAt
        return (if hit then applied + 1 else applied, db))
      (0, db)
    let db ← observations.foldlM
      (fun db observation =>
        expireUnmatchedAtDeadlineInTx crypto db observation.address observedAt)
      db
    return (applied, db)

/-- The transaction of the target pass: durably expire invoices whose inclusive
deadline has passed without a match (v1) or without threshold evidence (v2). -/
def expireOverdue (db : Database) (observedAt : OffsetDateTime) :
    Except PersistenceError Database := do
  let unmatched := updateWhere
    (fun row => row.paymentExpiredAt = none ∧ row.firstAmountMatchedObservedAt = none ∧
      row.paymentDeadline < observedAt ∧ db.providerBinding row.id = none)
    (fun row => { row with paymentExpiredAt := some observedAt })
    db.invoices.rows
  let invoices ← Table.write .unavailable
    (updateWhere
      (fun row => row.paymentExpiredAt = none ∧ row.paymentDeadline < observedAt ∧
        (db.providerBinding row.id).isSome ∧ db.evidence row.id = none)
      (fun row => { row with paymentExpiredAt := some observedAt })
      unmatched)
  return { db with invoices := invoices }

/-- The tracked output of an active row, authenticated against its columns. -/
def trackedOutput (crypto : Crypto) (row : BitcoinObservationRow) :
    Except PersistenceError TrackedOutput := do
  ensure (row.observation.version = 1 ∧ row.outpointLookupHash =
    crypto.bitcoinOutpointLookupHash row.observation.outpoint.canonicalText) .corruptOrMissing
  return ⟨row.observation.outpoint, row.observation.observedSats⟩

/-- Decode one selected invoice into a target; a final one is left out. -/
def observationTarget (crypto : Crypto) (db : Database) (row : InvoiceRow) :
    Except PersistenceError (Option ObservationTarget) := do
  let destination ← demand .corruptOrMissing row.payment.bitcoin
  ensure (row.payment.version = 1 ∧
    row.bitcoinAddressLookupHash = some (crypto.bitcoinAddressLookupHash destination.address) ∧
    row.derivationIndexLookupHash = crypto.bitcoinDerivationIndexLookupHash row.creatorLookupHash
      row.payment.derivationIndex) .corruptOrMissing
  match db.activeObservation row.id with
  | none => return some ⟨destination.address, none⟩
  | some active =>
    let current ← trackedOutput crypto active
    if active.present ∧ 6 ≤ active.confirmations ∧
        destination.requiredAmount ≤ current.sats then
      return none
    else return some ⟨destination.address, some current⟩

def selectsTarget (db : Database) (observedAt : OffsetDateTime) (row : InvoiceRow) : Bool :=
  row.bitcoinAddressLookupHash.isSome &&
    ((db.providerBinding row.id).isNone || decide (observedAt < row.paymentDeadline)) &&
    !(db.activeObservation row.id).any fun active =>
      db.timely row.id active.outpointLookupHash && active.present &&
        decide (6 ≤ active.confirmations)

def readTargets (crypto : Crypto) (db : Database) (observedAt : OffsetDateTime) :
    Except PersistenceError (List ObservationTarget) := do
  let rows := (db.invoices.rows.filter (selectsTarget db observedAt)).insertionSort (·.id ≤ ·.id)
  let targets ← rows.mapM (observationTarget crypto db)
  return targets.filterMap id

/-- The target pass. Its expiry commits even when decoding a target fails. -/
def observationTargetsWithTime (crypto : Crypto) (db : Database) (observedAt : OffsetDateTime) :
    Except PersistenceError (List ObservationTarget) × Database :=
  match expireOverdue db observedAt with
  | .error e => (.error e, db)
  | .ok db' => (readTargets crypto db' observedAt, db')

/-- Keep the targets that may still be observed at call start: all but the
provider-v2 ones whose deadline has been reached. Nothing is written. -/
def fenceObservationTargets (crypto : Crypto) (db : Database) (targets : List ObservationTarget)
    (observedAt : OffsetDateTime) : List ObservationTarget :=
  targets.filter fun target =>
    match db.invoiceByAddress (crypto.bitcoinAddressLookupHash target.address) with
    | none => true
    | some invoice =>
      (db.providerBinding invoice.id).isNone || decide (observedAt < invoice.paymentDeadline)

section Inversion

variable {crypto : Crypto} {db db' : Database} {input : BitcoinObservationInput}
variable {observedAt : OffsetDateTime} {hit : Bool}

theorem decryptObservation_ok {row : BitcoinObservationRow} {record : BitcoinObservationV1}
    (opened : decryptObservation crypto row = .ok record) :
    record = row.observation ∧ row.observation.version = 1 ∧
      row.outpointLookupHash =
        crypto.bitcoinOutpointLookupHash row.observation.outpoint.canonicalText := by
  unfold decryptObservation at opened
  obtain ⟨_, _, _, checked, opened⟩ := bind₂_eq_ok.mp opened
  cases opened
  exact ⟨rfl, ensure_eq_ok.mp checked⟩

theorem checkExistingOutpoint_ok {invoice : Uuid} {existing : Option BitcoinObservationRow}
    {u : Unit} (checked : checkExistingOutpoint crypto invoice input existing = .ok u) :
    ∀ row ∈ existing, row.invoiceId = some invoice ∧
      row.observation = ⟨1, input.outpoint, input.observedSats⟩ := by
  intro row stored
  obtain rfl : existing = some row := stored
  obtain ⟨_, owner, record, opened, checked⟩ := bind₂_eq_ok.mp checked
  obtain ⟨rfl, version, -⟩ := decryptObservation_ok opened
  obtain ⟨houtpoint, hsats⟩ := ensure_eq_ok.mp checked
  refine ⟨(ensure_eq_ok.mp owner).1, ?_⟩
  rw [← version, ← houtpoint, ← hsats]

/-- What a committed observation did: nothing when no invoice owns the address
or the output is ignored, and a recorded observation otherwise. -/
theorem applyBitcoinObservationInTx_ok
    (done : applyBitcoinObservationInTx crypto db input observedAt = .ok (hit, db')) :
    (db.invoiceByAddress (crypto.bitcoinAddressLookupHash input.address) = none ∧ db' = db) ∨
      ∃ invoice destination,
        db.invoiceByAddress (crypto.bitcoinAddressLookupHash input.address) = some invoice ∧
          invoice.payment.bitcoin = some destination ∧ destination.address = input.address ∧
          (∀ row ∈ db.observationByOutpoint
              (crypto.bitcoinOutpointLookupHash input.outpoint.canonicalText),
            row.invoiceId = some invoice.id ∧
              row.observation = ⟨1, input.outpoint, input.observedSats⟩) ∧
          match disposition (db.providerBinding invoice.id).isSome destination.requiredAmount
              ((db.activeObservation invoice.id).map (·.binding)) input with
          | .skip => db' = db
          | .write replace => recordObservation crypto db invoice destination.requiredAmount input
              (crypto.bitcoinOutpointLookupHash input.outpoint.canonicalText) observedAt replace =
                .ok db' := by
  unfold applyBitcoinObservationInTx at done
  obtain ⟨_, _, done⟩ := bind_eq_ok.mp done
  dsimp only at done
  split at done
  · rename_i missing
    cases done
    exact .inl ⟨missing, rfl⟩
  · rename_i invoice found
    obtain ⟨destination, hdestination, _, record, _, existing, done⟩ := bind₃_eq_ok.mp done
    obtain ⟨_, _, done⟩ := bind_eq_ok.mp done
    refine .inr ⟨invoice, destination, found, demand_eq_ok.mp hdestination,
      (ensure_eq_ok.mp record).2.1, checkExistingOutpoint_ok existing, ?_⟩
    split at done
    · cases done
      rfl
    · obtain ⟨db'', recorded, done⟩ := bind_eq_ok.mp done
      cases done
      exact recorded

theorem storeInvoiceObservation_ok {invoice : InvoiceRow} {required : Nat}
    {outpointHash : LookupHash} {replace : Bool} {observationId : Uuid}
    (done : storeInvoiceObservation db invoice required input outpointHash observedAt replace =
      .ok (observationId, db')) :
    ∃ observations timely invoices nextUuid,
      db' = { db with bitcoinObservations := observations, invoiceTimely := timely,
                      invoices := invoices, nextUuid := nextUuid } ∧
        (∀ row ∈ db.observationByOutpoint outpointHash, row.id = observationId) ∧
        observations.rows = storeObservation (fun row => row.invoiceId = some invoice.id) replace
          (newObservationRow observationId invoice.id input outpointHash observedAt)
          db.bitcoinObservations.rows ∧
        timely = (if input.matched required ∧ observedAt ≤ invoice.paymentDeadline then
          insertNew (· = (invoice.id, outpointHash)) (invoice.id, outpointHash) db.invoiceTimely
        else db.invoiceTimely) ∧
        invoices.rows = (if input.matched required ∧ db.providerBinding invoice.id = none then
          updateWhere (fun row => row.id = invoice.id) (·.recordFirstMatch observedAt outpointHash)
            db.invoices.rows
        else db.invoices.rows) ∧
        db.nextUuid ≤ nextUuid := by
  unfold storeInvoiceObservation at done
  obtain ⟨stored, next, drawn, order⟩ :=
    db.identityFor_eq ((db.observationByOutpoint outpointHash).map (·.id))
  dsimp only at done
  rw [drawn] at done
  obtain ⟨_, _, observations, hobservations, done⟩ := bind₂_eq_ok.mp done
  have same : ∀ row ∈ db.observationByOutpoint outpointHash,
      row.id = (db.identityFor ((db.observationByOutpoint outpointHash).map (·.id))).1 :=
    fun row member => (stored row.id (by simp [Option.mem_def.mp member])).symm
  have rows := Table.write_eq_ok.mp hobservations
  split at done
  · rename_i holds
    obtain ⟨invoices, hinvoices, done⟩ := bind_eq_ok.mp done
    cases done
    exact ⟨observations, _, invoices, next, rfl, same, rows, rfl,
      (Table.write_eq_ok.mp hinvoices).trans (if_pos holds).symm, order⟩
  · rename_i fails
    cases done
    exact ⟨observations, _, db.invoices, next, rfl, same, rows, rfl, (if_neg fails).symm, order⟩

/-- The observation rows after a recorded observation; settlements, preparations
and receipts are untouched. -/
theorem recordObservation_ok {invoice : InvoiceRow} {required : Nat}
    {outpointHash : LookupHash} {replace : Bool}
    (done : recordObservation crypto db invoice required input outpointHash observedAt replace =
      .ok db') :
    db'.settlements = db.settlements ∧ db'.preparations = db.preparations ∧
      db'.usdtObservations = db.usdtObservations ∧ db.nextUuid ≤ db'.nextUuid ∧
      ∃ id, db'.bitcoinObservations.rows =
        storeObservation (fun row => row.invoiceId = some invoice.id) replace
          (newObservationRow id invoice.id input outpointHash observedAt)
          db.bitcoinObservations.rows := by
  unfold recordObservation at done
  obtain ⟨⟨id, stored⟩, hstored, done⟩ := bind_eq_ok.mp done
  obtain ⟨projected, hprojected, done⟩ := bind_eq_ok.mp done
  obtain ⟨observations, _, _, _, rfl, -, rows, -, -, order⟩ := storeInvoiceObservation_ok hstored
  obtain ⟨_, _, _, _, _, -, -, -, -, rfl⟩ := projectPayments_ok hprojected
  obtain ⟨_, _, rfl, -⟩ := projectProviderV2Sample_ok done
  exact ⟨rfl, rfl, rfl, order, id, rows⟩

end Inversion

end PaykitServer.Persistence
