import PaykitServer.Settlement.Batch
import PaykitServer.Settlement.Marketplace

/-!
# Amount matching after a batch

A batch may report several outputs for one address. Which of them the address is
bound to afterwards depends on their order and depth, because the decision never
looks at the incoming amount: an unconfirmed paying output gives way to the next
present output of the batch even when that one pays too little. The amount flag
of an invoice or a settlement follows the binding, so it may end up unset although
the batch reported a paying output.
-/

namespace PaykitServer.Settlement

open Domain Bitcoin Persistence Workers
open Relational
open MarketplacePreparations (settlement joinActive)

theorem reportsFor_present {batch : List BitcoinObservationInput} {address : String}
    {required : Nat}
    (reported : ∃ input ∈ batch, input.address = address ∧ input.matched required = true) :
    (reportsFor address batch).filter (·.present) ≠ [] := by
  obtain ⟨input, member, own, matched⟩ := reported
  refine List.ne_nil_of_mem (List.mem_filter.mpr ⟨?_, (Bool.and_eq_true_iff.mp matched).1⟩)
  exact List.mem_filter.mpr ⟨member, decide_eq_true own⟩

theorem Coherent.amountMatched_eq {crypto : Crypto} {a : Account} (coherent : Coherent crypto a)
    {row : InvoiceRow} {destination : PaymentDestination} (opened : row ∈ a.invoice)
    (quoted : a.destination = some destination) :
    row.amountMatched = a.binding.any (·.pays destination.requiredAmount) := by
  rw [(coherent.projected row opened).2.2]
  unfold Account.bitcoin Account.binding
  rw [quoted]
  cases a.active <;> rfl

section Batch

variable {env : Environment} {db db' : Database} {outputs : List ObservedOutput}
variable {targets : List ObservationTarget} {batch : List BitcoinObservationInput}
variable {observedAt : OffsetDateTime} {applied : Nat} {destination : PaymentDestination}

theorem invoice_amountMatched {i : Uuid} (coherent : AllCoherent env.crypto db)
    (quoted : (account db i).destination = some destination)
    (v1 : (account db i).provider = none) (order : BatchOrder batch)
    (reported : ∃ input ∈ batch, input.address = destination.address ∧
      input.matched destination.requiredAmount = true)
    (done : applyBitcoinObservationBatch env.crypto db batch observedAt = .ok (applied, db')) :
    ∃ row', db'.invoice i = some row' ∧ row'.amountMatched =
      endsPaying destination.requiredAmount (account db i).binding
        (reportsFor destination.address batch) := by
  obtain ⟨mid, observed, expired⟩ := batch_stages done
  have follows := follows_reports coherent quoted v1 observed
  obtain ⟨distinct, ordered⟩ := reportsFor_order order destination.address
  have pays := follows.pays_eq distinct ordered (reportsFor_present reported)
  obtain ⟨coherentMid, reports⟩ := account_reports (i := i) coherent observed
  obtain ⟨coherent', checks⟩ := account_deadlines (i := i) coherentMid expired
  have binding : (account db' i).binding = (account mid i).binding := by
    rw [checks, Account.binding_afterDeadlines]
  have quoted' : (account db' i).destination = some destination := by
    rw [checks, Account.destination_afterDeadlines, reports, Account.destination_afterReports,
      quoted]
  obtain ⟨row', opened, -⟩ := Option.bind_eq_some_iff.mp quoted'
  refine ⟨row', opened, ?_⟩
  rw [(coherent' i).amountMatched_eq opened quoted', binding, pays]

theorem settlement_amountMatched {p : Uuid} {row : SettlementRow}
    (coherent : (holding db p).Coherent env.crypto)
    (opened : settlement db p = some row)
    (live : (joinActive db row).isSome)
    (quoted : row.payment.bitcoin = some destination)
    (valid : validateBatch env outputs targets = .ok batch)
    (reported : ∃ input ∈ batch, input.address = destination.address ∧
      input.matched destination.requiredAmount = true)
    (done : MarketplacePreparations.applyBitcoinObservationBatch env.crypto db batch observedAt =
      .ok (applied, db')) :
    ∃ row', settlement db' p = some row' ∧ row'.amountMatched =
      endsPaying destination.requiredAmount (holding db p).binding
        (reportsFor destination.address batch) := by
  have performed : Prod.snd <$> MarketplacePreparations.applyBitcoinObservationBatch env.crypto db
        batch observedAt =
      execute (perform env) db ((sortForBatch batch).map (.observeMarketplace · observedAt)) :=
    applyMarketplaceBatch_eq db batch
  rw [done, validateBatch_sorted valid] at performed
  obtain ⟨coherent', ⟨row', opened', payment⟩, follows⟩ :=
    follows_marketplaceReports coherent opened live quoted performed.symm
  obtain ⟨distinct, ordered⟩ := reportsFor_order (validateBatch_order valid) destination.address
  have pays := follows.pays_eq distinct ordered (reportsFor_present reported)
  refine ⟨row', opened', ?_⟩
  rw [coherent'.projected row' opened' destination (payment ▸ quoted), pays]

end Batch

/-- After a committed batch that reports a paying output for its address, a v1
invoice or an active settlement has its amount flag set exactly when the batch
ends paying. -/
theorem amountMatched_after_batch (env : Environment) (requests : List Request)
    (outputs : List ObservedOutput) (targets : List ObservationTarget)
    (batch : List BitcoinObservationInput) (observedAt : OffsetDateTime)
    (destination : PaymentDestination) (applied : Nat) (db' : Database)
    (valid : validateBatch env outputs targets = .ok batch)
    (reported : ∃ input ∈ batch, input.address = destination.address ∧
      input.present = true ∧ destination.requiredAmount ≤ input.observedSats) :
    (∀ i row, (reached env requests).invoice i = some row →
      (reached env requests).providerBinding i = none →
      row.payment.bitcoin = some destination →
      applyBitcoinObservationBatch env.crypto (reached env requests) batch observedAt =
        .ok (applied, db') →
      ∃ row', db'.invoice i = some row' ∧ (row'.amountMatched = true ↔
        endsPaying destination.requiredAmount
          (((reached env requests).activeObservation i).map (·.binding))
          (reportsFor destination.address batch) = true)) ∧
    (∀ p row, settlement (reached env requests) p = some row →
      (joinActive (reached env requests) row).isSome →
      row.payment.bitcoin = some destination →
      MarketplacePreparations.applyBitcoinObservationBatch env.crypto (reached env requests) batch
        observedAt = .ok (applied, db') →
      ∃ row', settlement db' p = some row' ∧ (row'.amountMatched = true ↔
        endsPaying destination.requiredAmount
          ((MarketplacePreparations.activeObservation (reached env requests) p).map (·.binding))
          (reportsFor destination.address batch) = true)) := by
  have paying : ∃ input ∈ batch, input.address = destination.address ∧
      input.matched destination.requiredAmount = true := by
    obtain ⟨input, member, own, present, enough⟩ := reported
    exact ⟨input, member, own, by simp [BitcoinObservationInput.matched, present, enough]⟩
  constructor
  · intro i row opened v1 quoted done
    obtain ⟨row', opened', matched⟩ := invoice_amountMatched (reached_coherent env requests)
      ((account_destination opened).trans quoted) v1 (validateBatch_order valid) paying done
    exact ⟨row', opened', by rw [matched, binding_account]⟩
  · intro p row opened live quoted done
    obtain ⟨row', opened', matched⟩ := settlement_amountMatched
      (reached_holding_coherent env requests p) opened live quoted valid paying done
    exact ⟨row', opened', by rw [matched, binding_holding]⟩

/-- A paying output of some depth and, behind it in batch order, an underpaying one. -/
def twoOutputs (confirmations : Nat) : List BitcoinObservationInput :=
  [⟨"a", Sample.outpoint 0, 10, confirmations, true⟩, ⟨"a", Sample.outpoint 1, 1, 0, true⟩]

def sampleSettlement : List Request :=
  [.prepareSettlement 0, .activateSettlement 0 (Sample.payment none) 0 100]

/-- A confirmed paying output keeps the flag set in both stores. -/
theorem amountMatched_after_confirmed :
    (∃ applied db', applyBitcoinObservationBatch Sample.environment.crypto
        (reached Sample.environment [Sample.invoice]) (twoOutputs 1) 5 = .ok (applied, db') ∧
      ∃ row', db'.invoice 0 = some row' ∧ row'.amountMatched = true) ∧
    ∃ applied db', MarketplacePreparations.applyBitcoinObservationBatch Sample.environment.crypto
        (reached Sample.environment sampleSettlement) (twoOutputs 1) 5 = .ok (applied, db') ∧
      ∃ row', settlement db' 0 = some row' ∧ row'.amountMatched = true := by
  have valid : validateBatch Sample.environment [Sample.output 0 10 1, Sample.output 1 1 0]
      [⟨"a", none⟩] = .ok (twoOutputs 1) := eq_ok_of_toOption (by decide +kernel)
  have reported : ∃ input ∈ twoOutputs 1, input.address = "a" ∧ input.present = true ∧
      10 ≤ input.observedSats := ⟨_, .head _, rfl, rfl, by decide⟩
  constructor
  · obtain ⟨⟨applied, db'⟩, done⟩ := exists_ok (show (applyBitcoinObservationBatch
      Sample.environment.crypto (reached Sample.environment [Sample.invoice]) (twoOutputs 1)
      5).toOption.isSome = true by decide +kernel)
    obtain ⟨row, opened, quoted⟩ := Option.map_eq_some_iff.mp
      (show ((reached Sample.environment [Sample.invoice]).invoice 0).map (·.payment.bitcoin) =
        some (some ⟨"a", 10⟩) by decide +kernel)
    obtain ⟨row', opened', matched⟩ := (amountMatched_after_batch _ _ _ _ _ _ ⟨"a", 10⟩ _ _ valid
      reported).1 0 row opened (by decide +kernel) quoted done
    exact ⟨applied, db', done, row', opened', matched.mpr (by decide +kernel)⟩
  · obtain ⟨⟨applied, db'⟩, done⟩ := exists_ok (show
      (MarketplacePreparations.applyBitcoinObservationBatch Sample.environment.crypto
        (reached Sample.environment sampleSettlement) (twoOutputs 1) 5).toOption.isSome = true by
      decide +kernel)
    obtain ⟨row, opened, terms⟩ := Option.map_eq_some_iff.mp
      (show (settlement (reached Sample.environment sampleSettlement) 0).map
        (fun row => (row.payment.bitcoin, (joinActive
          (reached Sample.environment sampleSettlement) row).isSome)) =
        some (some ⟨"a", 10⟩, true) by decide +kernel)
    obtain ⟨row', opened', matched⟩ := (amountMatched_after_batch _ _ _ _ _ _ ⟨"a", 10⟩ _ _ valid
      reported).2 0 row opened (congrArg Prod.snd terms) (congrArg Prod.fst terms) done
    exact ⟨applied, db', done, row', opened', matched.mpr (by decide +kernel)⟩

/-- An unconfirmed paying output is displaced by an underpaying one. -/
theorem paying_output_displaced :
    (validateBatch Sample.environment [Sample.output 0 10 0, Sample.output 1 1 0]
        [⟨"a", none⟩]).toOption = some (twoOutputs 0) ∧
      (twoOutputs 0).any (fun input =>
        input.address = "a" ∧ input.present = true ∧ 10 ≤ input.observedSats) = true ∧
      ((applyBitcoinObservationBatch Sample.environment.crypto
          (reached Sample.environment [Sample.invoice]) (twoOutputs 0) 5).toOption.bind
        fun result => result.2.invoice 0).map (·.amountMatched) = some false := by
  decide +kernel

end PaykitServer.Settlement
