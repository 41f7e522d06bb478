import PaykitServer.Settlement.Binding
import PaykitServer.Settlement.Refinement

/-!
# What is held for a Marketplace settlement

The counterpart of accounts for Marketplace settlements, as far as amount
matching needs it: the settlement row and the output its address is bound to.
Unlike invoices, whose columns are rebuilt from the active row, a settlement is
projected from the observation being applied. That both agree is the invariant
of this module, and it holds in every reachable state.
-/

namespace PaykitServer.Settlement

open Domain Bitcoin Persistence Workers
open Relational
open MarketplacePreparations (settlement joinActive activeObservation activeByAddress
  joinActive_settlement applyMarketplaceObservation applyMarketplaceObservation_ok)

@[ext] structure Holding where
  settlement : Option SettlementRow
  active : Option HeldOutput

def holding (db : Database) (preparation : Uuid) : Holding where
  settlement := settlement db preparation
  active := (activeObservation db preparation).map heldOutput

namespace Holding

def binding (h : Holding) : Option DirectBinding := h.active.map (·.binding)

/-- The facts every reachable holding has. -/
structure Coherent (crypto : Crypto) (h : Holding) : Prop where
  unopened : h.settlement = none → h.active = none
  addressed : ∀ row ∈ h.settlement, row.bitcoinAddressLookupHash =
    row.payment.bitcoin.map fun destination => crypto.bitcoinAddressLookupHash destination.address
  keyed : ∀ held ∈ h.active,
    held.key = crypto.bitcoinOutpointLookupHash held.record.outpoint.canonicalText
  projected : ∀ row ∈ h.settlement, ∀ destination ∈ row.payment.bitcoin,
    row.amountMatched = h.binding.any (·.pays destination.requiredAmount)

def Evolves (env : Environment) (h : Holding) : Action → Holding → Prop
  | .activateSettlement _ new _ _, h' =>
    h' = h ∨ h.settlement = none ∧
      ∃ preparation, h' = ⟨some (new.settlementRow env.crypto preparation), h.active⟩
  | .observeMarketplace input _, h' =>
    h' = h ∨ ∃ row row' destination, h.settlement = some row ∧
      row.payment.bitcoin = some destination ∧ row'.payment = row.payment ∧
      row'.bitcoinAddressLookupHash = row.bitcoinAddressLookupHash ∧
      row'.amountMatched = input.matched destination.requiredAmount ∧
      h' = ⟨some row', some
        ⟨env.crypto.bitcoinOutpointLookupHash input.outpoint.canonicalText,
          ⟨1, input.outpoint, input.observedSats⟩, input.confirmations, input.present⟩⟩
  | .expireOverdueMarketplace observedAt, h' =>
    ∃ condition : SettlementRow → Bool, h' =
      ⟨h.settlement.map fun row =>
        if condition row then { row with paymentExpiredAt := some observedAt } else row, h.active⟩
  | _, h' => h' = h

theorem Evolves.coherent {env : Environment} {h h' : Holding} {action : Action}
    (evolves : Evolves env h action h') (coherent : Coherent env.crypto h) :
    Coherent env.crypto h' := by
  cases action with
  | activateSettlement preparation new now window =>
    rcases evolves with rfl | ⟨closed, preparation, rfl⟩
    · exact coherent
    · have idle := coherent.unopened closed
      exact {
        unopened := fun closed => by cases closed
        addressed := by
          rintro row ⟨⟩
          rfl
        keyed := coherent.keyed
        projected := by
          rintro row ⟨⟩ destination -
          simp [binding, idle, NewPayment.settlementRow] }
  | observeMarketplace input observedAt =>
    rcases evolves with rfl | ⟨row, row', destination, opened, quoted, payment, hash, matched, rfl⟩
    · exact coherent
    · exact {
        unopened := fun closed => by cases closed
        addressed := by
          rintro _ ⟨⟩
          rw [payment, hash]
          exact coherent.addressed row opened
        keyed := by
          rintro _ ⟨⟩
          rfl
        projected := by
          rintro _ ⟨⟩ destination' quoted'
          rw [payment, quoted] at quoted'
          cases quoted'
          exact matched }
  | expireOverdueMarketplace observedAt =>
    obtain ⟨condition, rfl⟩ := evolves
    exact {
      unopened := fun closed => coherent.unopened (Option.map_eq_none_iff.mp closed)
      addressed := by
        intro row member
        obtain ⟨old, hold, rfl⟩ := Option.map_eq_some_iff.mp member
        split <;> exact coherent.addressed old hold
      keyed := coherent.keyed
      projected := by
        intro row member
        obtain ⟨old, hold, rfl⟩ := Option.map_eq_some_iff.mp member
        split <;> exact coherent.projected old hold }
  | _ =>
    obtain rfl := evolves
    exact coherent

end Holding

section Frames

variable {env : Environment} {db db' : Database} {p : Uuid}

theorem activeObservation_foreign {owned : BitcoinObservationRow → Bool} {replace : Bool}
    {new : BitcoinObservationRow}
    {observations : Table BitcoinObservationRow BitcoinObservationConstraints}
    (rows : observations.rows = storeObservation owned replace new db.bitcoinObservations.rows)
    (disjoint : ∀ row ∈ db.bitcoinObservations.rows, owned row = true →
      row.marketplacePreparationId ≠ some p)
    (conflicts : ∀ row ∈ db.observationByOutpoint new.outpointLookupHash,
      row.marketplacePreparationId ≠ some p)
    (fresh : new.marketplacePreparationId ≠ some p) :
    lookup BitcoinObservationRow.activePreparation p observations.rows =
      activeObservation db p := by
  rw [rows]
  refine lookup_active_storeObservation (fun _ _ _ _ => rfl) disjoint ?_ fresh
  intro row stored same
  exact conflicts row ((lookup_eq_some_iff db.bitcoinObservations.valid.2.1).mpr
    ⟨stored, congrArg some same⟩)

variable {input : BitcoinObservationInput} {observedAt now : OffsetDateTime}
  {active : MarketplacePreparations.ActiveSettlement} {hash : LookupHash} {row : SettlementRow}
  {destination : PaymentDestination}

theorem holding_observe {crypto : Crypto} {hit : Bool}
    (done : applyBitcoinObservationInTx crypto db input observedAt = .ok (hit, db')) :
    holding db' p = holding db p := by
  rcases applyBitcoinObservationInTx_ok done with ⟨-, rfl⟩ |
    ⟨invoice, destination, -, -, -, existing, recorded⟩
  · rfl
  split at recorded
  · rw [recorded]
  obtain ⟨settlements, -, -, -, id, rows⟩ := recordObservation_ok recorded
  have foreign : ∀ row ∈ db.bitcoinObservations.rows, row.invoiceId = some invoice.id →
      row.marketplacePreparationId ≠ some p := by
    intro row stored owner prepared
    have checks := (db.bitcoinObservations.valid.2.2.2.2 row stored).2
    simp [owner, prepared] at checks
  have active := activeObservation_foreign (p := p) rows
    (fun row stored owns => foreign row stored (by simpa using owns))
    (fun row found => foreign row (lookup_mem found) (existing row found).1) (fun same => by cases same)
  refine Holding.ext ?_ (congrArg (Option.map heldOutput) active)
  simp only [holding, settlement, settlements]

/-- The columns of a settlement that observation never writes. -/
structure SameSettlement (row row' : SettlementRow) : Prop where
  preparationId : row'.preparationId = row.preparationId
  creatorId : row'.creatorId = row.creatorId
  payment : row'.payment = row.payment
  addressHash : row'.bitcoinAddressLookupHash = row.bitcoinAddressLookupHash
  derivationHash : row'.derivationIndexLookupHash = row.derivationIndexLookupHash

theorem SameSettlement.refl (row : SettlementRow) : SameSettlement row row :=
  ⟨rfl, rfl, rfl, rfl, rfl⟩

theorem SameSettlement.trans {first second third : SettlementRow}
    (before : SameSettlement first second) (after : SameSettlement second third) :
    SameSettlement first third :=
  ⟨after.preparationId.trans before.preparationId, after.creatorId.trans before.creatorId,
    after.payment.trans before.payment, after.addressHash.trans before.addressHash,
    after.derivationHash.trans before.derivationHash⟩

theorem holding_recordObservation {required : Nat} {key : LookupHash} {replace : Bool}
    (found : settlement db active.settlement.preparationId =
      some active.settlement)
    (existing : ∀ row ∈ db.observationByOutpoint key, row.invoiceId = none ∧
      row.marketplacePreparationId = some active.settlement.preparationId ∧
      row.observation = ⟨1, input.outpoint, input.observedSats⟩)
    (done : MarketplacePreparations.recordObservation db active required input key observedAt
      replace = .ok db') :
    db'.preparations = db.preparations ∧
      ∃ row', SameSettlement active.settlement row' ∧
        (∃ row timely deadline, row' = MarketplacePreparations.project row input
          (input.matched required) timely observedAt deadline) ∧
        ∀ p, holding db' p =
          if p = active.settlement.preparationId then
            ⟨some row', some ⟨key, ⟨1, input.outpoint, input.observedSats⟩, input.confirmations,
              input.present⟩⟩
          else holding db p := by
  obtain ⟨observations, timely, settlements, next, id, first, rfl, identity, rows, projected,
    -⟩ := MarketplacePreparations.recordObservation_ok done
  obtain ⟨update, same, matched, projected⟩ : ∃ update : SettlementRow → SettlementRow,
      (∀ row, SameSettlement row (update row)) ∧
        (∀ row, ∃ base timely deadline, update row = MarketplacePreparations.project base input
          (input.matched required) timely observedAt deadline) ∧
        settlements.rows = updateWhere
          (fun row => row.preparationId = active.settlement.preparationId) update
          db.settlements.rows := by
    refine ⟨_, fun row => ?_, fun row => ⟨_, _, _, rfl⟩, projected⟩
    split <;> exact ⟨rfl, rfl, rfl, rfl, rfl⟩
  refine ⟨rfl, update active.settlement, same active.settlement, matched active.settlement, ?_⟩
  intro p
  have settled : lookup (fun row => some row.preparationId) p settlements.rows =
      if p = active.settlement.preparationId then (settlement db p).map update
      else settlement db p := by
    rw [projected, lookup_updateOne fun row => (same row).preparationId]
    rfl
  by_cases own : p = active.settlement.preparationId
  · subst own
    rw [if_pos rfl]
    refine Holding.ext ?_ ?_
    · refine settled.trans ?_
      rw [if_pos rfl, found]
      rfl
    · have stored : ∃ firstObservedAt,
          MarketplacePreparations.newObservationRow id active.settlement.preparationId input key
            firstObservedAt ∈ observations.rows := by
        rw [rows]
        refine mem_storeObservation rfl fun row member hash => ?_
        have byHash : db.observationByOutpoint key = some row :=
          (lookup_eq_some_iff db.bitcoinObservations.valid.2.1).mpr ⟨member, congrArg some hash⟩
        obtain ⟨invoice, preparation, observation⟩ := existing row byHash
        exact ⟨identity row byHash, invoice, preparation, observation⟩
      obtain ⟨firstObservedAt, member⟩ := stored
      have bound := (lookup_eq_some_iff observations.valid.2.2.2.1).mpr ⟨member, rfl⟩
      exact congrArg (Option.map heldOutput) bound
  · rw [if_neg own]
    refine Holding.ext (settled.trans (if_neg own)) ?_
    have foreign : ∀ {owner : Option Uuid}, owner = some active.settlement.preparationId →
        owner ≠ some p := by
      rintro _ rfl h
      exact own (Option.some.inj h).symm
    have untouched := activeObservation_foreign (p := p) rows
      (fun row _ owns => foreign (by simpa using owns))
      (fun row stored => foreign (existing row stored).2.1) (foreign rfl)
    exact congrArg (Option.map heldOutput) untouched

theorem settlement_of_activeByAddress
    (found : activeByAddress db hash = some active) :
    settlement db active.settlement.preparationId =
        some active.settlement ∧
      active.settlement.bitcoinAddressLookupHash = some hash ∧
      joinActive db active.settlement = some active := by
  obtain ⟨row, stored, joined⟩ := Option.bind_eq_some_iff.mp found
  have same := joinActive_settlement joined
  rw [same]
  exact ⟨(lookup_eq_some_iff db.settlements.valid.1).mpr ⟨lookup_mem stored, rfl⟩,
    lookup_key stored, same ▸ joined⟩

theorem joinActive_isSome {row' : SettlementRow}
    (preparations : db'.preparations = db.preparations) (same : SameSettlement row row') :
    (joinActive db' row').isSome =
      (joinActive db row).isSome := by
  unfold joinActive
  rw [preparations, same.preparationId, same.creatorId]
  split
  · split <;> rfl
  · rfl

theorem activeByAddress_of_destination (coherent : (holding db p).Coherent env.crypto)
    (opened : settlement db p = some row)
    (live : (joinActive db row).isSome)
    (quoted : row.payment.bitcoin = some destination) :
    ∃ active, activeByAddress db
        (env.crypto.bitcoinAddressLookupHash destination.address) = some active ∧
      active.settlement = row := by
  have hash := coherent.addressed row opened
  rw [quoted] at hash
  have found : lookup SettlementRow.bitcoinAddressLookupHash
      (env.crypto.bitcoinAddressLookupHash destination.address) db.settlements.rows = some row :=
    (lookup_eq_some_iff db.settlements.valid.2.1).mpr ⟨lookup_mem opened, hash⟩
  obtain ⟨active, joined⟩ := Option.isSome_iff_exists.mp live
  refine ⟨active, ?_, joinActive_settlement joined⟩
  simp only [activeByAddress, found, Option.bind_some, joined]

theorem binding_holding :
    (holding db p).binding =
      (activeObservation db p).map (·.binding) := by
  simp only [holding, Holding.binding, Option.map_map]
  rfl

theorem holding_observeMarketplace {hit : Bool}
    (done : applyMarketplaceObservation env.crypto db input observedAt =
      .ok (hit, db')) :
    Holding.Evolves env (holding db p) (.observeMarketplace input observedAt) (holding db' p) := by
  rcases applyMarketplaceObservation_ok done with ⟨-, rfl⟩ |
    ⟨active, destination, found, quoted, -, -, existing, recorded⟩
  · exact .inl rfl
  split at recorded
  · exact .inl (by rw [recorded])
  have stored := (settlement_of_activeByAddress found).1
  obtain ⟨-, row', same, ⟨_, _, _, written⟩, holdings⟩ :=
    holding_recordObservation stored existing recorded
  have matched : row'.amountMatched = input.matched destination.requiredAmount := by
    rw [written]
    rfl
  rw [holdings]
  split
  · rename_i own
    subst own
    exact .inr ⟨active.settlement, row', destination, stored, quoted, same.payment,
      same.addressHash, matched, rfl⟩
  · exact .inl rfl

theorem holding_activateSettlement {q : Uuid} {new : NewPayment}
    {window : Nat} (done : activateSettlement env.crypto db q new now window = .ok db') :
    Holding.Evolves env (holding db p) (.activateSettlement q new now window) (holding db' p) := by
  obtain ⟨_, _, _, _, _, _, done⟩ := bind₃_eq_ok.mp done
  obtain ⟨preparations, _, settlements, written, done⟩ := bind₂_eq_ok.mp done
  cases done
  have settled : lookup (fun row => some row.preparationId) p settlements.rows =
      (settlement db p).or
        (if some q = some p then some (new.settlementRow env.crypto q) else none) := by
    rw [Table.write_eq_ok.mp written, lookup_append]
    rfl
  cases opened : settlement db p with
  | some row =>
    rw [opened] at settled
    exact .inl (Holding.ext (settled.trans opened.symm) rfl)
  | none =>
    rw [opened, Option.none_or] at settled
    split at settled
    · exact .inr ⟨opened, q, Holding.ext settled rfl⟩
    · exact .inl (Holding.ext (settled.trans opened.symm) rfl)

theorem holding_expireOverdue
    (done : MarketplacePreparations.expireOverdue db observedAt = .ok db') :
    Holding.Evolves env (holding db p) (.expireOverdueMarketplace observedAt) (holding db' p) := by
  obtain ⟨settlements, written, done⟩ := bind_eq_ok.mp done
  cases done
  have settled := congrArg (lookup (fun row => some row.preparationId) p)
    (Table.write_eq_ok.mp written)
  rw [lookup_updateWhere] at settled
  · exact ⟨_, Holding.ext settled rfl⟩
  · exact fun _ _ => rfl

theorem perform_holding {action : Action} (done : perform env db action = .ok db') (p : Uuid) :
    Holding.Evolves env (holding db p) action (holding db' p) := by
  cases action with
  | createInvoice new createdAt window =>
    obtain ⟨⟨id, _⟩, inserted, done⟩ := bind_eq_ok.mp done
    cases done
    obtain ⟨_, _, rfl, -⟩ := insertInvoice_ok inserted
    rfl
  | createProviderV2 new bitcoin createdAt deadline minimum =>
    obtain ⟨⟨id, mid⟩, inserted, done⟩ := bind_eq_ok.mp done
    obtain ⟨_, _, done⟩ := bind_eq_ok.mp done
    cases done
    obtain ⟨_, _, rfl, -⟩ := insertInvoice_ok inserted
    rfl
  | prepareSettlement creatorId =>
    obtain ⟨preparations, _, done⟩ := bind_eq_ok.mp done
    cases done
    rfl
  | activateSettlement preparation new now window => exact holding_activateSettlement done
  | observe input observedAt =>
    obtain ⟨hit, applied⟩ := snd_eq_ok.mp done
    exact holding_observe applied
  | expireUnmatched address observedAt =>
    obtain ⟨invoices, _, done⟩ := bind_eq_ok.mp done
    cases done
    rfl
  | expireOverdue observedAt =>
    obtain ⟨invoices, _, done⟩ := bind_eq_ok.mp done
    cases done
    rfl
  | observeMarketplace input observedAt =>
    obtain ⟨hit, applied⟩ := snd_eq_ok.mp done
    exact holding_observeMarketplace applied
  | expireOverdueMarketplace observedAt => exact holding_expireOverdue done
  | reserveUsdt owner hash force dbNow =>
    obtain ⟨reserved, applied⟩ := snd_eq_ok.mp done
    obtain ⟨receipts, rfl, -⟩ := reserveReceipt_ok applied
    rfl
  | applyUsdt | clearUsdt =>
    cases perform_usdtPass done rfl with
    | idle => rfl
    | projected _ _ _ _ _ _ _ projects =>
      obtain ⟨_, _, _, _, _, -, -, -, -, rfl⟩ := projectPayments_ok projects
      rfl
  | applyMarketplaceUsdt preparation transfer dbNow =>
    obtain ⟨observed, applied⟩ := snd_eq_ok.mp done
    rcases MarketplacePreparations.completeUsdtTransfer_ok applied with rfl | stored
    · rfl
    · obtain ⟨_, _, _, same, -⟩ := (storeTransfer_ok stored).resolve_left (by simp)
      cases same
      rfl
  | clearMarketplaceUsdt preparation hash dbNow =>
    obtain ⟨_, _, withdrawn⟩ := bind_eq_ok.mp done
    obtain ⟨receipts, rfl, -⟩ := withdrawReceipt_ok withdrawn
    rfl

theorem Holding.Coherent.repeats (coherent : (holding db p).Coherent env.crypto)
    (existing : ∀ row ∈ db.observationByOutpoint
        (env.crypto.bitcoinOutpointLookupHash input.outpoint.canonicalText),
      row.observation = ⟨1, input.outpoint, input.observedSats⟩) :
    ∀ binding ∈ (holding db p).binding, binding.outpoint = input.outpoint →
      binding.sats = input.observedSats := by
  intro binding member same
  obtain ⟨held, active, rfl⟩ := Option.map_eq_some_iff.mp member
  have hash := coherent.keyed held active
  have text : held.record.outpoint = input.outpoint := same
  rw [text] at hash
  obtain ⟨row, bound, rfl⟩ := Option.map_eq_some_iff.mp active
  have stored := existing row ((lookup_eq_some_iff db.bitcoinObservations.valid.2.1).mpr
    ⟨lookup_mem bound, congrArg some hash⟩)
  exact congrArg (·.observedSats) stored

/-- One observation moves the binding of an active settlement as the binding
machine does when it reports the quoted address, and not at all otherwise. -/
theorem binding_observeMarketplace {hit : Bool} (coherent : (holding db p).Coherent env.crypto)
    (opened : settlement db p = some row)
    (live : (joinActive db row).isSome)
    (quoted : row.payment.bitcoin = some destination)
    (done : applyMarketplaceObservation env.crypto db input observedAt =
      .ok (hit, db')) :
    (∃ row', settlement db' p = some row' ∧
      (joinActive db' row').isSome ∧ row'.payment = row.payment) ∧
      if input.address = destination.address then
        (∀ binding ∈ (holding db p).binding, binding.outpoint = input.outpoint →
          binding.sats = input.observedSats) ∧
          (holding db' p).binding = follow destination.requiredAmount (holding db p).binding input
      else (holding db' p).binding = (holding db p).binding := by
  have id : row.preparationId = p := by simpa using lookup_key opened
  obtain ⟨owner, found, rfl⟩ := activeByAddress_of_destination coherent opened live quoted
  rcases applyMarketplaceObservation_ok done with ⟨missing, rfl⟩ |
    ⟨active, destination', found', quoted', address, -, existing, recorded⟩
  · refine ⟨⟨owner.settlement, opened, live, rfl⟩, ?_⟩
    split
    · rename_i own
      rw [own, found] at missing
      cases missing
    · rfl
  -- the settlement that reacts is this one exactly when the address is its own
  have own : input.address = destination.address ↔ p = active.settlement.preparationId := by
    constructor
    · intro same
      rw [same, found] at found'
      rw [← Option.some.inj found']
      exact id.symm
    · rintro rfl
      rw [(settlement_of_activeByAddress found').1] at opened
      rw [Option.some.inj opened, quoted] at quoted'
      rw [← address, Option.some.inj quoted']
  have amount := coherent.repeats fun row stored => (existing row stored).2.2
  by_cases reacts : p = active.settlement.preparationId
  · rw [if_pos (own.mpr reacts)]
    obtain rfl : destination' = destination := by
      rw [reacts, (settlement_of_activeByAddress found').1] at opened
      rw [Option.some.inj opened, quoted] at quoted'
      exact (Option.some.inj quoted').symm
    rw [← binding_holding, ← reacts] at recorded
    split at recorded
    · rename_i skipped
      subst recorded
      exact ⟨⟨owner.settlement, opened, live, rfl⟩, amount, (follow_of_skip skipped).symm⟩
    · rename_i replace written
      have stored := (settlement_of_activeByAddress found').1
      obtain ⟨preparations, row', same, -, holdings⟩ :=
        holding_recordObservation stored existing recorded
      have held := holdings p
      rw [if_pos reacts] at held
      have settled : active.settlement = owner.settlement := by
        rw [← reacts] at stored
        exact Option.some.inj (stored.symm.trans opened)
      refine ⟨⟨row', congrArg Holding.settlement held, ?_, ?_⟩, amount, ?_⟩
      · rw [joinActive_isSome preparations same, settled]
        exact live
      · rw [same.payment, settled]
      · rw [held, follow_of_write written]
        rfl
  · rw [if_neg fun same => reacts (own.mp same)]
    split at recorded
    · subst recorded
      exact ⟨⟨owner.settlement, opened, live, rfl⟩, rfl⟩
    · obtain ⟨preparations, row', -, -, holdings⟩ := holding_recordObservation
        (settlement_of_activeByAddress found').1 existing recorded
      have held := holdings p
      rw [if_neg reacts] at held
      refine ⟨⟨owner.settlement, (congrArg Holding.settlement held).trans opened, ?_, rfl⟩, ?_⟩
      · rw [joinActive_isSome preparations (.refl _)]
        exact live
      · rw [held]

theorem follows_marketplaceReports {batch : List BitcoinObservationInput}
    (coherent : (holding db p).Coherent env.crypto)
    (opened : settlement db p = some row)
    (live : (joinActive db row).isSome)
    (quoted : row.payment.bitcoin = some destination)
    (done : execute (perform env) db (batch.map (.observeMarketplace · observedAt)) = .ok db') :
    (holding db' p).Coherent env.crypto ∧
      (∃ row', settlement db' p = some row' ∧
        row'.payment = row.payment) ∧
      Follows destination.requiredAmount (holding db p).binding
        (reportsFor destination.address batch) (holding db' p).binding := by
  induction batch generalizing db row with
  | nil =>
    cases done
    exact ⟨coherent, ⟨row, opened, rfl⟩, .nil _⟩
  | cons input batch ih =>
    rw [List.map_cons, execute_cons] at done
    obtain ⟨mid, performed, done⟩ := bind_eq_ok.mp done
    obtain ⟨hit, applied⟩ := snd_eq_ok.mp performed
    have coherent' := (perform_holding performed p).coherent coherent
    obtain ⟨⟨row', opened', live', payment⟩, moved⟩ :=
      binding_observeMarketplace coherent opened live quoted applied
    obtain ⟨final, ⟨row'', opened'', payment'⟩, rest⟩ :=
      ih coherent' opened' live' (payment ▸ quoted) done
    refine ⟨final, ⟨row'', opened'', payment'.trans payment⟩, ?_⟩
    by_cases own : input.address = destination.address
    · rw [if_pos own] at moved
      rw [moved.2] at rest
      rw [reportsFor_cons_own own]
      exact .cons moved.1 rest
    · rw [if_neg own] at moved
      rw [moved] at rest
      rwa [reportsFor_cons_other own]

theorem reached_holding_coherent (env : Environment) (requests : List Request) (p : Uuid) :
    (holding (reached env requests) p).Coherent env.crypto := by
  refine System.run_invariant (P := fun db => (holding db p).Coherent env.crypto) ?_ ?_
  · intro db action db' coherent done
    have evolves : Holding.Evolves env (holding db p) action (holding db' p) :=
      perform_holding done p
    exact evolves.coherent coherent
  · have empty : holding Database.empty p = ⟨none, none⟩ := rfl
    rw [empty]
    exact ⟨fun _ => rfl, by simp, by simp, by simp⟩

end Frames

end PaykitServer.Settlement
