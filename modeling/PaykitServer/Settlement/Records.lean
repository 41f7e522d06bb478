import PaykitServer.Relational.Growth
import PaykitServer.Settlement.Marketplace
import PaykitServer.Settlement.Rails

/-!
# What observation records for Marketplace requests

Observation writes three things for a Marketplace request: rows for the outputs
seen at its address, rows for its USDT transfers, and the projected columns of its
settlement. `ObservationStep` says once what a performed action did to them; an
action for somebody else did nothing.
-/

namespace PaykitServer.Settlement

open Domain Bitcoin Persistence Workers
open Relational

def outputs (db : Database) (p : Uuid) : List BitcoinObservationRow :=
  db.bitcoinObservations.rows.filter fun row => row.marketplacePreparationId = some p

def transfers (db : Database) (p : Uuid) : List UsdtObservationRow :=
  db.usdtObservations.rows.filter fun row => row.marketplacePreparationId = some p

inductive SettlementsWrite (crypto : Crypto) (db : Database) : Action → Database → Prop where
  | untouched (action : Action) (db' : Database) (settlements : db'.settlements = db.settlements)
      (same : ∀ p, outputs db' p = outputs db p) : SettlementsWrite crypto db action db'
  | expired (observedAt : OffsetDateTime) (condition : SettlementRow → Bool)
      (settlements : Table SettlementRow SettlementConstraints)
      (rows : settlements.rows = updateWhere condition
        (fun row => { row with paymentExpiredAt := some observedAt }) db.settlements.rows) :
      SettlementsWrite crypto db (.expireOverdueMarketplace observedAt)
        { db with settlements := settlements }
  | observed (input : BitcoinObservationInput) (observedAt : OffsetDateTime)
      (active : MarketplacePreparations.ActiveSettlement) (destination : PaymentDestination)
      (replace : Bool) (db' : Database)
      (found : MarketplacePreparations.activeByAddress db
        (crypto.bitcoinAddressLookupHash input.address) = some active)
      (quoted : active.settlement.payment.bitcoin = some destination)
      (inTime : active.activatedAt ≤ observedAt)
      (existing : ∀ row ∈ db.observationByOutpoint
          (crypto.bitcoinOutpointLookupHash input.outpoint.canonicalText),
        row.invoiceId = none ∧
          row.marketplacePreparationId = some active.settlement.preparationId ∧
          row.observation = ⟨1, input.outpoint, input.observedSats⟩)
      (recorded : MarketplacePreparations.recordObservation db active destination.requiredAmount
        input (crypto.bitcoinOutpointLookupHash input.outpoint.canonicalText) observedAt replace =
          .ok db') :
      SettlementsWrite crypto db (.observeMarketplace input observedAt) db'

def Transferred (crypto : Crypto) (db : Database) (action : Action) (p : Uuid)
    (row : UsdtObservationRow) : Prop :=
  (∃ old ∈ transfers db p, row.facts = old.facts ∧
      row.transferLookupHash = old.transferLookupHash) ∨
    ∃ transfer dbNow, action = .applyMarketplaceUsdt p transfer dbNow ∧
      row.facts.identity = transfer.identity ∧
      row.transferLookupHash = crypto.usdtTransferLookupHash transfer.identity ∧
      MarketplacePreparations.lockActiveSettlement db p = .ok ()

/-- Everything a performed observation did, as far as Marketplace requests see it. -/
structure ObservationStep (crypto : Crypto) (db : Database) (action : Action) (db' : Database) :
    Prop where
  order : db.nextUuid ≤ db'.nextUuid
  preparations : db'.preparations = db.preparations
  settlements : SettlementsWrite crypto db action db'
  transfers : ∀ p, ∀ row ∈ transfers db' p, Transferred crypto db action p row

section Step

variable {env : Environment} {crypto : Crypto} {db db' : Database} {action : Action} {p : Uuid}

theorem transferred_of_map {f : UsdtObservationRow → UsdtObservationRow}
    (rows : db'.usdtObservations.rows = db.usdtObservations.rows.map f)
    (keeps : ∀ row ∈ db.usdtObservations.rows, (f row).marketplacePreparationId =
        row.marketplacePreparationId ∧ (row.marketplacePreparationId = some p →
          (f row).facts = row.facts ∧ (f row).transferLookupHash = row.transferLookupHash)) :
    ∀ row ∈ transfers db' p, Transferred crypto db action p row := by
  intro row' member
  obtain ⟨stored, owned⟩ := List.mem_filter.mp member
  rw [rows] at stored
  obtain ⟨row, old, rfl⟩ := List.mem_map.mp stored
  obtain ⟨owner, same⟩ := keeps row old
  rw [owner] at owned
  obtain ⟨facts, hash⟩ := same (of_decide_eq_true owned)
  exact .inl ⟨row, List.mem_filter.mpr ⟨old, owned⟩, facts, hash⟩

theorem transferred_of_same (same : db'.usdtObservations = db.usdtObservations) :
    ∀ row ∈ transfers db' p, Transferred crypto db action p row :=
  transferred_of_map (f := id) (by rw [same, List.map_id]) fun _ _ => ⟨rfl, fun _ => ⟨rfl, rfl⟩⟩

theorem transferred_of_invoice {invoice : Uuid}
    (write : ReceiptsWrite crypto (.invoice invoice) db.usdtObservations.rows
      db'.usdtObservations.rows) :
    ∀ row ∈ transfers db' p, Transferred crypto db action p row := by
  have foreign : ∀ {row : UsdtObservationRow}, row.Checks → row.invoiceId = some invoice →
      row.marketplacePreparationId ≠ some p := by
    intro row checks owner prepared
    simpa [owner, prepared] using checks.2
  generalize rows : db'.usdtObservations.rows = rows' at write
  cases write with
  | rewrite f keeps =>
    refine transferred_of_map rows fun row stored => ?_
    rcases keeps row stored with same | ⟨⟨owned, -⟩, receipt, -⟩
    · rw [same]
      exact ⟨rfl, fun _ => ⟨rfl, rfl⟩⟩
    · refine ⟨receipt.marketplacePreparationId, fun prepared => absurd prepared ?_⟩
      exact foreign (db.usdtObservations.valid.2.2 row stored) (by simpa [ReceiptOwner.owns] using owned)
  | insert new fresh owned =>
    intro row member
    obtain ⟨stored, prepared⟩ := List.mem_filter.mp member
    have checks := db'.usdtObservations.valid.2.2 row stored
    rw [rows] at stored
    rcases List.mem_append.mp stored with old | added
    · exact .inl ⟨row, List.mem_filter.mpr ⟨old, prepared⟩, rfl, rfl⟩
    · obtain rfl := List.mem_singleton.mp added
      exact absurd (of_decide_eq_true prepared)
        (foreign checks (by simpa [ReceiptOwner.owns] using owned))

theorem transferred_of_apply {q : Uuid} {transfer : VerifiedTransfer} {now : OffsetDateTime}
    {locked : Option LockedReceipt} {observed : Bool}
    (live : MarketplacePreparations.lockActiveSettlement db q = .ok ())
    (stored : storeTransfer db (.preparation q) locked transfer
      (crypto.usdtTransferLookupHash transfer.identity) now = .ok (observed, some db')) :
    ∀ row ∈ transfers db' p,
      Transferred crypto db (.applyMarketplaceUsdt q transfer now) p row := by
  obtain ⟨id, receipts, next, same, -, rows, -, -⟩ := (storeTransfer_ok stored).resolve_left (by simp)
  cases same
  intro row member
  obtain ⟨stored, prepared⟩ := List.mem_filter.mp member
  have kept : ∀ {old : UsdtObservationRow}, old ∈ db.usdtObservations.rows →
      old.marketplacePreparationId = some p → old.facts = row.facts →
      old.transferLookupHash = row.transferLookupHash →
      Transferred crypto db (.applyMarketplaceUsdt q transfer now) p row := by
    intro old member owner facts hash
    exact .inl ⟨old, List.mem_filter.mpr ⟨member, by simpa using owner⟩, facts.symm, hash.symm⟩
  have owner : row.marketplacePreparationId = some p := of_decide_eq_true prepared
  change row ∈ receipts.rows at stored
  rw [rows] at stored
  cases taken : db.usdtObservations.rows.any
      fun row => row.transferLookupHash = crypto.usdtTransferLookupHash transfer.identity with
  | false =>
    rw [upsert_of_fresh taken] at stored
    rcases List.mem_append.mp stored with old | added
    · exact kept old owner rfl rfl
    · obtain rfl := List.mem_singleton.mp added
      cases owner
      exact .inr ⟨transfer, now, rfl, rfl, rfl, live⟩
  | true =>
    rw [upsert_of_conflict taken] at stored
    rcases mem_updateWhere.mp stored with ⟨old, -⟩ | ⟨old, found, met, rfl⟩
    · exact kept old owner rfl rfl
    · unfold refreshReceipt at owner ⊢
      split at owner
      · rename_i owned
        rw [if_pos owned]
        obtain rfl : q = p := by
          have same : old.marketplacePreparationId = some q := by
            simpa [ReceiptOwner.owns] using owned
          exact Option.some.inj (same.symm.trans owner)
        exact .inr ⟨transfer, now, rfl, rfl, of_decide_eq_true met, live⟩
      · rename_i foreign
        rw [if_neg foreign]
        exact .inl ⟨old, List.mem_filter.mpr ⟨found, by simpa using owner⟩, rfl, rfl⟩

theorem outputs_of_invoice {invoice : Uuid} {replace : Bool} {new : BitcoinObservationRow}
    (rows : db'.bitcoinObservations.rows = storeObservation
      (fun row => row.invoiceId = some invoice) replace new db.bitcoinObservations.rows)
    (existing : ∀ row ∈ db.observationByOutpoint new.outpointLookupHash,
      row.invoiceId = some invoice)
    (own : new.marketplacePreparationId = none) : outputs db' p = outputs db p := by
  have foreign : ∀ row ∈ db.bitcoinObservations.rows, row.invoiceId = some invoice →
      decide (row.marketplacePreparationId = some p) = false := by
    intro row stored owner
    have checks := (db.bitcoinObservations.valid.2.2.2.2 row stored).2
    refine decide_eq_false fun prepared => ?_
    simp [owner, prepared] at checks
  unfold outputs
  rw [rows]
  refine filter_storeObservation (fun _ _ _ _ => rfl) ?_ ?_ (by simp [own])
  · exact fun row stored owns => foreign row stored (of_decide_eq_true owns)
  · intro row stored same
    exact foreign row stored (existing row ((lookup_eq_some_iff
      db.bitcoinObservations.valid.2.1).mpr ⟨stored, congrArg some same⟩))

theorem ObservationStep.unchanged (action : Action) : ObservationStep crypto db action db :=
  ⟨le_rfl, rfl, .untouched _ _ rfl fun _ => rfl, fun _ => transferred_of_same rfl⟩

theorem perform_observation (observes : action.isObservation = true)
    (done : perform env db action = .ok db') : ObservationStep env.crypto db action db' := by
  cases action with
  | createInvoice | createProviderV2 | prepareSettlement | activateSettlement => cases observes
  | observe input observedAt =>
    obtain ⟨hit, applied⟩ := snd_eq_ok.mp done
    rcases applyBitcoinObservationInTx_ok applied with ⟨-, rfl⟩ |
      ⟨invoice, destination, -, -, -, existing, recorded⟩
    · exact .unchanged _
    split at recorded
    · rw [recorded]
      exact .unchanged _
    · obtain ⟨settlements, preparations, receipts, order, id, rows⟩ :=
        recordObservation_ok recorded
      refine ⟨order, preparations, .untouched _ _ settlements fun _ => ?_,
        fun _ => transferred_of_same receipts⟩
      exact outputs_of_invoice rows (fun row found => (existing row found).1) rfl
  | expireUnmatched | expireOverdue =>
    obtain ⟨invoices, _, done⟩ := bind_eq_ok.mp done
    cases done
    exact ⟨le_rfl, rfl, .untouched _ _ rfl fun _ => rfl, fun _ => transferred_of_same rfl⟩
  | observeMarketplace input observedAt =>
    obtain ⟨hit, applied⟩ := snd_eq_ok.mp done
    rcases MarketplacePreparations.applyMarketplaceObservation_ok applied with ⟨-, rfl⟩ |
      ⟨active, destination, found, quoted, -, inTime, existing, recorded⟩
    · exact .unchanged _
    split at recorded
    · rw [recorded]
      exact .unchanged _
    · rename_i replace _
      have write := SettlementsWrite.observed input observedAt active destination replace _ found
        quoted inTime existing recorded
      obtain ⟨_, _, _, _, _, _, rfl, -, -, -, -, -, order⟩ :=
        MarketplacePreparations.recordObservation_ok recorded
      exact ⟨order, rfl, write, fun _ => transferred_of_same rfl⟩
  | expireOverdueMarketplace observedAt =>
    obtain ⟨settlements, written, done⟩ := bind_eq_ok.mp done
    cases done
    exact ⟨le_rfl, rfl, .expired observedAt _ settlements (Table.write_eq_ok.mp written),
      fun _ => transferred_of_same rfl⟩
  | reserveUsdt owner hash force dbNow =>
    obtain ⟨reserved, applied⟩ := snd_eq_ok.mp done
    obtain ⟨receipts, rfl, rows⟩ := reserveReceipt_ok applied
    refine ⟨le_rfl, rfl, .untouched _ _ rfl fun _ => rfl, fun _ => transferred_of_map rows ?_⟩
    intro row _
    split <;> exact ⟨rfl, fun _ => ⟨rfl, rfl⟩⟩
  | applyUsdt | clearUsdt =>
    cases perform_usdtPass done rfl with
    | idle => exact .unchanged _
    | projected _ _ _ _ _ order write projects =>
      obtain ⟨_, _, _, _, _, -, -, -, -, rfl⟩ := projectPayments_ok projects
      exact ⟨order, rfl, .untouched _ _ rfl fun _ => rfl, fun _ => transferred_of_invoice write⟩
  | applyMarketplaceUsdt q transfer dbNow =>
    obtain ⟨observed, applied⟩ := snd_eq_ok.mp done
    obtain ⟨_, live, -⟩ := bind_eq_ok.mp applied
    rcases MarketplacePreparations.completeUsdtTransfer_ok applied with rfl | stored
    · exact .unchanged _
    · have write : ∀ p, ∀ row ∈ transfers _ p, Transferred env.crypto db _ p row :=
        fun _ => transferred_of_apply live stored
      obtain ⟨_, receipts, next, same, -, -, -, order⟩ :=
        (storeTransfer_ok stored).resolve_left (by simp)
      cases same
      exact ⟨order, rfl, .untouched _ _ rfl fun _ => rfl, write⟩
  | clearMarketplaceUsdt q hash dbNow =>
    obtain ⟨_, _, withdrawn⟩ := bind_eq_ok.mp done
    obtain ⟨receipts, rfl, rows⟩ := withdrawReceipt_ok withdrawn
    refine ⟨le_rfl, rfl, .untouched _ _ rfl fun _ => rfl, fun _ => transferred_of_map rows ?_⟩
    intro row _
    split <;> exact ⟨rfl, fun _ => ⟨rfl, rfl⟩⟩

theorem SettlementsWrite.grows (write : SettlementsWrite crypto db action db') :
    Grows SameSettlement (fun _ => False) db.settlements.rows db'.settlements.rows := by
  cases write with
  | untouched _ _ settlements =>
    rw [settlements]
    exact .refl fun row _ => .refl row
  | expired _ _ _ rows =>
    rw [rows]
    exact .updateWhere (fun row _ _ => .refl row)
      fun _ _ _ => ⟨rfl, rfl, rfl, rfl, rfl⟩
  | observed _ _ _ _ _ _ _ _ _ _ recorded =>
    obtain ⟨_, _, settlements, _, _, _, rfl, -, -, rows, -⟩ :=
      MarketplacePreparations.recordObservation_ok recorded
    rw [rows]
    refine .updateWhere (fun row _ _ => .refl row) fun row _ _ => ?_
    split <;> exact ⟨rfl, rfl, rfl, rfl, rfl⟩

end Step

end PaykitServer.Settlement
