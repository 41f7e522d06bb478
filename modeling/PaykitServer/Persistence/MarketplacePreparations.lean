import PaykitServer.Persistence.Observations
import PaykitServer.Persistence.Transfers

/-!
# Marketplace settlements

An activated Marketplace preparation owns a settlement with its own Bitcoin
observations, timely outputs and USDT receipts. Observation follows the same
decision as Locks invoices, with two differences: timeliness is judged by the
first observation of an output instead of the current one, and the projected
columns come from the observation being applied instead of the active row.
-/

namespace PaykitServer.Persistence.MarketplacePreparations

open Domain Bitcoin Relational

structure ActiveSettlement where
  settlement : SettlementRow
  activatedAt : OffsetDateTime
  paymentDeadline : OffsetDateTime

def joinActive (db : Database) (settlement : SettlementRow) : Option ActiveSettlement :=
  match lookup (fun row : PreparationRow => some row.id) settlement.preparationId
      db.preparations.rows with
  | some ⟨_, creatorId, .active, some activatedAt, some paymentDeadline⟩ =>
    if creatorId = settlement.creatorId then some ⟨settlement, activatedAt, paymentDeadline⟩
    else none
  | _ => none

def settlement (db : Database) (preparation : Uuid) : Option SettlementRow :=
  lookup (fun row => some row.preparationId) preparation db.settlements.rows

def activeByAddress (db : Database) (addressHash : LookupHash) : Option ActiveSettlement :=
  (lookup SettlementRow.bitcoinAddressLookupHash addressHash db.settlements.rows).bind
    (joinActive db)

def activeObservation (db : Database) (preparation : Uuid) : Option BitcoinObservationRow :=
  lookup BitcoinObservationRow.activePreparation preparation db.bitcoinObservations.rows

/-- The required amount; a request without Bitcoin has none. -/
def bitcoinRequiredAmount (payment : InvoicePaymentRecordV1) : Except PersistenceError Nat := do
  ensure (payment.version = 1) .corruptOrMissing
  let destination ← demand .invalidInput payment.bitcoin
  return destination.requiredAmount

def bitcoinAddress (payment : InvoicePaymentRecordV1) : Except PersistenceError String := do
  let destination ← demand .invalidInput payment.bitcoin
  return destination.address

def decryptMarketplaceObservation (row : BitcoinObservationRow) :
    Except PersistenceError BitcoinObservationV1 := do
  ensure (row.observation.version = 1) .corruptOrMissing
  return row.observation

/-- A row already stored for the reported outpoint must belong to the settlement
and record the same output. -/
def checkExistingOutpoint (preparation : Uuid) (input : BitcoinObservationInput)
    (existing : Option BitcoinObservationRow) : Except PersistenceError Unit :=
  match existing with
  | none => .ok ()
  | some row => do
    ensure (row.invoiceId = none ∧ row.marketplacePreparationId = some preparation) .conflict
    let record ← decryptMarketplaceObservation row
    ensure (record.outpoint = input.outpoint ∧ record.observedSats = input.observedSats) .conflict

def checkActive (active : Option BitcoinObservationRow) : Except PersistenceError Unit :=
  match active with
  | none => .ok ()
  | some row => do
    let _ ← decryptMarketplaceObservation row
    return

def newObservationRow (id preparation : Uuid) (input : BitcoinObservationInput)
    (outpointHash : LookupHash) (firstObservedAt : OffsetDateTime) : BitcoinObservationRow where
  id := id
  invoiceId := none
  marketplacePreparationId := some preparation
  observation := ⟨1, input.outpoint, input.observedSats⟩
  outpointLookupHash := outpointHash
  confirmations := input.confirmations
  present := input.present
  active := true
  firstObservedAt := firstObservedAt

def recordFirstMatch (row : SettlementRow) (firstObservedAt : OffsetDateTime)
    (outpointHash : LookupHash) : SettlementRow :=
  { row with
    firstAmountMatchedObservedAt := row.firstAmountMatchedObservedAt.or (some firstObservedAt)
    firstAmountMatchedOutpointLookupHash :=
      row.firstAmountMatchedOutpointLookupHash.or (some outpointHash) }

def project (row : SettlementRow) (input : BitcoinObservationInput) (matched timely : Bool)
    (observedAt deadline : OffsetDateTime) : SettlementRow :=
  let confirmations : Int :=
    if input.present = false then 0
    else if matched then min input.confirmations 6
    else input.confirmations
  { row with
    paymentStatus :=
      if input.present = false then .undetected
      else if confirmations = 0 then .detected
      else .confirmed
    confirmationCount := confirmations
    amountMatched := matched
    paymentExpiredAt :=
      if timely then none
      else if deadline < observedAt then row.paymentExpiredAt.or (some observedAt)
      else row.paymentExpiredAt }

def recordObservation (db : Database) (active : ActiveSettlement) (required : Nat)
    (input : BitcoinObservationInput) (outpointHash : LookupHash) (observedAt : OffsetDateTime)
    (replace : Bool) : Except PersistenceError Database := do
  let preparation := active.settlement.preparationId
  ensure (input.confirmations < 2 ^ 31) .corruptOrMissing
  let existing := db.observationByOutpoint outpointHash
  let (observationId, db) := db.identityFor (existing.map (·.id))
  let firstObservedAt := (existing.map (·.firstObservedAt)).getD observedAt
  ensure (∀ row ∈ existing, row.marketplacePreparationId = some preparation) .conflict
  let observations ← Table.write .conflict
    (storeObservation (fun row => row.marketplacePreparationId = some preparation) replace
      (newObservationRow observationId preparation input outpointHash firstObservedAt)
      db.bitcoinObservations.rows)
  let matched := input.matched required
  let timely := matched && decide (firstObservedAt ≤ active.paymentDeadline)
  let outputs :=
    if timely then
      insertNew (· = (preparation, outpointHash)) (preparation, outpointHash) db.marketplaceTimely
    else db.marketplaceTimely
  let settlements ← Table.write .unavailable
    (updateWhere (fun row => row.preparationId = preparation)
      (fun row =>
        project (if matched then recordFirstMatch row firstObservedAt outpointHash else row)
          input matched timely observedAt active.paymentDeadline)
      db.settlements.rows)
  return { db with bitcoinObservations := observations, marketplaceTimely := outputs,
                   settlements := settlements }

/-- Apply one observation inside an open transaction. -/
def applyMarketplaceObservation (crypto : Crypto) (db : Database)
    (input : BitcoinObservationInput) (observedAt : OffsetDateTime) :
    Except PersistenceError (Bool × Database) :=
  let addressHash := crypto.bitcoinAddressLookupHash input.address
  match activeByAddress db addressHash with
  | none => .ok (false, db)
  | some active => do
    let payment := active.settlement.payment
    let required ← bitcoinRequiredAmount payment
    let address ← bitcoinAddress payment
    ensure (address = input.address ∧
      active.settlement.bitcoinAddressLookupHash = some addressHash ∧
      active.settlement.derivationIndexLookupHash = crypto.bitcoinDerivationIndexLookupHash
        active.settlement.creatorLookupHash payment.derivationIndex ∧
      active.activatedAt ≤ observedAt) .corruptOrMissing
    let outpointHash := crypto.bitcoinOutpointLookupHash input.outpoint.canonicalText
    checkExistingOutpoint active.settlement.preparationId input
      (db.observationByOutpoint outpointHash)
    let current := activeObservation db active.settlement.preparationId
    checkActive current
    match disposition false required (current.map (·.binding)) input with
    | .skip => return (true, db)
    | .write replace =>
      let db ← recordObservation db active required input outpointHash observedAt replace
      return (true, db)

def applyBitcoinObservationBatch (crypto : Crypto) (db : Database)
    (observations : List BitcoinObservationInput) (observedAt : OffsetDateTime) :
    Except PersistenceError (Nat × Database) :=
  if observations.isEmpty then .ok (0, db)
  else
    (sortForBatch observations).foldlM
      (fun (applied, db) observation => do
        let (hit, db) ← applyMarketplaceObservation crypto db observation observedAt
        return (if hit then applied + 1 else applied, db))
      (0, db)

def hasTimelyOutput (db : Database) (preparation : Uuid) : Bool :=
  (activeObservation db preparation).any fun row =>
    row.present && db.marketplaceTimely.contains (preparation, row.outpointLookupHash)

/-- The transaction of the target pass: expire settlements whose deadline has
passed without a timely output. -/
def expireOverdue (db : Database) (observedAt : OffsetDateTime) :
    Except PersistenceError Database := do
  let settlements ← Table.write .unavailable
    (updateWhere
      (fun row => (joinActive db row).any (fun active => active.paymentDeadline < observedAt) &&
        row.bitcoinAddressLookupHash.isSome && row.paymentExpiredAt.isNone &&
        !hasTimelyOutput db row.preparationId)
      (fun row => { row with paymentExpiredAt := some observedAt })
      db.settlements.rows)
  return { db with settlements := settlements }

/-- The settlement of an active preparation must exist before its receipts are
written. -/
def lockActiveSettlement (db : Database) (preparation : Uuid) : Except PersistenceError Unit :=
  ensure ((settlement db preparation).any fun row => (joinActive db row).isSome) .corruptOrMissing

/-- Withdraw a receipt whose proof no longer verifies. -/
def clearUsdtTransfer (db : Database) (preparation : Uuid) (transferHash : LookupHash)
    (now : OffsetDateTime) : Except PersistenceError Database := do
  lockActiveSettlement db preparation
  withdrawReceipt db (.preparation preparation) transferHash now

/-- The part of an apply after its locking read. -/
def completeUsdtTransfer (crypto : Crypto) (db : Database) (preparation : Uuid)
    (locked : Option LockedReceipt) (transfer : VerifiedTransfer) (now : OffsetDateTime) :
    Except PersistenceError (Bool × Database) := do
  lockActiveSettlement db preparation
  let transferHash := crypto.usdtTransferLookupHash transfer.identity
  match ← storeTransfer db (.preparation preparation) locked transfer transferHash now with
  | (observed, none) => return (observed, db)
  | (observed, some db) => return (observed, db)

def applyUsdtTransfer (crypto : Crypto) (db : Database) (preparation : Uuid)
    (transfer : VerifiedTransfer) (now : OffsetDateTime) :
    Except PersistenceError (Bool × Database) :=
  completeUsdtTransfer crypto db preparation
    (lockReceipt db (.preparation preparation) (crypto.usdtTransferLookupHash transfer.identity))
    transfer now

section Inversion

variable {crypto : Crypto} {db db' : Database} {input : BitcoinObservationInput}
variable {observedAt : OffsetDateTime} {hit : Bool}

theorem joinActive_settlement {row : SettlementRow} {active : ActiveSettlement}
    (joined : joinActive db row = some active) : active.settlement = row := by
  unfold joinActive at joined
  split at joined
  · split at joined
    · cases joined
      rfl
    · cases joined
  · cases joined

theorem checkExistingOutpoint_ok {preparation : Uuid} {existing : Option BitcoinObservationRow}
    {u : Unit} (checked : checkExistingOutpoint preparation input existing = .ok u) :
    ∀ row ∈ existing, row.invoiceId = none ∧ row.marketplacePreparationId = some preparation ∧
      row.observation = ⟨1, input.outpoint, input.observedSats⟩ := by
  intro row stored
  obtain rfl : existing = some row := stored
  obtain ⟨_, owner, record, opened, checked⟩ := bind₂_eq_ok.mp checked
  obtain ⟨_, version, opened⟩ := bind_eq_ok.mp opened
  cases opened
  obtain ⟨houtpoint, hsats⟩ := ensure_eq_ok.mp checked
  obtain ⟨invoice, preparation⟩ := ensure_eq_ok.mp owner
  refine ⟨invoice, preparation, ?_⟩
  rw [← ensure_eq_ok.mp version, ← houtpoint, ← hsats]

/-- What a committed observation did: nothing when no active settlement owns the
address or the output is ignored, and a recorded observation otherwise. -/
theorem applyMarketplaceObservation_ok
    (done : applyMarketplaceObservation crypto db input observedAt = .ok (hit, db')) :
    (activeByAddress db (crypto.bitcoinAddressLookupHash input.address) = none ∧ db' = db) ∨
      ∃ active destination,
        activeByAddress db (crypto.bitcoinAddressLookupHash input.address) = some active ∧
          active.settlement.payment.bitcoin = some destination ∧
          destination.address = input.address ∧ active.activatedAt ≤ observedAt ∧
          (∀ row ∈ db.observationByOutpoint
              (crypto.bitcoinOutpointLookupHash input.outpoint.canonicalText),
            row.invoiceId = none ∧
              row.marketplacePreparationId = some active.settlement.preparationId ∧
              row.observation = ⟨1, input.outpoint, input.observedSats⟩) ∧
          match disposition false destination.requiredAmount
              ((activeObservation db active.settlement.preparationId).map (·.binding)) input with
          | .skip => db' = db
          | .write replace => recordObservation db active destination.requiredAmount input
              (crypto.bitcoinOutpointLookupHash input.outpoint.canonicalText) observedAt replace =
                .ok db' := by
  unfold applyMarketplaceObservation at done
  dsimp only at done
  split at done
  · rename_i missing
    cases done
    exact .inl ⟨missing, rfl⟩
  · rename_i active found
    obtain ⟨required, hrequired, done⟩ := bind_eq_ok.mp done
    obtain ⟨_, _, destination, hdestination, hrequired⟩ := bind₂_eq_ok.mp hrequired
    cases hrequired
    obtain ⟨address, haddress, done⟩ := bind_eq_ok.mp done
    obtain ⟨destination', hdestination', haddress⟩ := bind_eq_ok.mp haddress
    cases haddress
    obtain rfl : destination' = destination := Option.some.inj
      ((demand_eq_ok.mp hdestination').symm.trans (demand_eq_ok.mp hdestination))
    obtain ⟨_, record, _, existing, _, _, done⟩ := bind₃_eq_ok.mp done
    refine .inr ⟨active, destination', found, demand_eq_ok.mp hdestination,
      (ensure_eq_ok.mp record).1, (ensure_eq_ok.mp record).2.2.2, checkExistingOutpoint_ok existing,
      ?_⟩
    split at done
    · cases done
      rfl
    · obtain ⟨db'', recorded, done⟩ := bind_eq_ok.mp done
      cases done
      exact recorded

theorem recordObservation_ok {active : ActiveSettlement} {required : Nat}
    {outpointHash : LookupHash} {replace : Bool}
    (done : recordObservation db active required input outpointHash observedAt replace = .ok db') :
    ∃ observations timely settlements nextUuid id firstObservedAt,
      db' = { db with bitcoinObservations := observations, marketplaceTimely := timely,
                      settlements := settlements, nextUuid := nextUuid } ∧
        (∀ row ∈ db.observationByOutpoint outpointHash, row.id = id) ∧
        observations.rows = storeObservation
          (fun row => row.marketplacePreparationId = some active.settlement.preparationId) replace
          (newObservationRow id active.settlement.preparationId input outpointHash
            firstObservedAt) db.bitcoinObservations.rows ∧
        settlements.rows = updateWhere
          (fun row => row.preparationId = active.settlement.preparationId)
          (fun row =>
            project (if input.matched required then
                recordFirstMatch row firstObservedAt outpointHash else row)
              input (input.matched required)
              (input.matched required && decide (firstObservedAt ≤ active.paymentDeadline))
              observedAt active.paymentDeadline)
          db.settlements.rows ∧
        input.confirmations < 2 ^ 31 ∧
        firstObservedAt =
          ((db.observationByOutpoint outpointHash).map (·.firstObservedAt)).getD observedAt ∧
        db.nextUuid ≤ nextUuid := by
  unfold recordObservation at done
  obtain ⟨stored, next, drawn, order⟩ :=
    db.identityFor_eq ((db.observationByOutpoint outpointHash).map (·.id))
  dsimp only at done
  rw [drawn] at done
  obtain ⟨_, bounded, _, _, observations, hobservations, done⟩ := bind₃_eq_ok.mp done
  obtain ⟨settlements, hsettlements, done⟩ := bind_eq_ok.mp done
  cases done
  refine ⟨observations, _, settlements, next, _, _, rfl, ?_, Table.write_eq_ok.mp hobservations,
    Table.write_eq_ok.mp hsettlements, ensure_eq_ok.mp bounded, rfl, order⟩
  exact fun row member => (stored row.id (by simp [Option.mem_def.mp member])).symm

/-- What a committed apply did: nothing, or a stored transfer. -/
theorem completeUsdtTransfer_ok {preparation : Uuid} {locked : Option LockedReceipt}
    {transfer : VerifiedTransfer} {now : OffsetDateTime} {observed : Bool}
    (done : completeUsdtTransfer crypto db preparation locked transfer now = .ok (observed, db')) :
    db' = db ∨ storeTransfer db (.preparation preparation) locked transfer
      (crypto.usdtTransferLookupHash transfer.identity) now = .ok (observed, some db') := by
  unfold completeUsdtTransfer at done
  obtain ⟨_, _, ⟨_, stored⟩, hstored, done⟩ := bind₂_eq_ok.mp done
  cases stored with
  | none =>
    cases done
    exact .inl rfl
  | some mid =>
    cases done
    exact .inr hstored

end Inversion

end PaykitServer.Persistence.MarketplacePreparations
