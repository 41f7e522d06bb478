import PaykitServer.Persistence.MarketplaceStatus
import PaykitServer.Settlement.BatchOrder
import PaykitServer.Settlement.Records

/-!
# The projected columns of a settlement

Observation writes the columns of a settlement from the output it is applying. A status
read rebuilds them from the active output that is stored, and from nothing else. Both are
the same in every state that observation leaves behind: `Recorded` is the invariant, with
what the read also checks of every stored output and transfer.
-/

namespace PaykitServer.Settlement

open Domain Bitcoin Persistence Workers
open MarketplacePreparations Relational

def columns (row : SettlementRow) : PaymentStatus × Int × Bool :=
  (row.paymentStatus, row.confirmationCount, row.amountMatched)

/-- The same columns, rebuilt from the active output. -/
def projection (required : Nat) : Option HeldOutput → PaymentStatus × Int × Bool
  | none => (.undetected, 0, false)
  | some held =>
    let matched := held.present && decide (required ≤ held.record.observedSats)
    (if held.present = false then .undetected
      else if held.confirmations = 0 then .detected else .confirmed,
      if held.present = false then 0
      else if matched then min held.confirmations 6 else held.confirmations,
      matched)

def requiredSats (payment : InvoicePaymentRecordV1) : Nat :=
  (payment.bitcoin.map (·.requiredAmount)).getD 0

/-- A stored output reads as it was reported. -/
structure Reads (crypto : Crypto) (row : BitcoinObservationRow) : Prop where
  version : row.observation.version = 1
  key : row.outpointLookupHash =
    crypto.bitcoinOutpointLookupHash row.observation.outpoint.canonicalText
  bounded : row.confirmations < 2 ^ 31
  absent : row.present = false → row.confirmations = 0

def ActiveBy (db : Database) (p : Uuid) (time : OffsetDateTime) : Prop :=
  ∃ settled activatedAt deadline, settlement db p = some settled ∧
    settled.payment.bitcoin.isSome ∧
    joinActive db settled = some ⟨settled, activatedAt, deadline⟩ ∧ activatedAt ≤ time

def AcceptsUsdt (db : Database) (p : Uuid) : Prop :=
  ∃ settled, settlement db p = some settled ∧ settled.payment.usdt.isSome

structure Recorded (crypto : Crypto) (db : Database) (p : Uuid) : Prop where
  outputs : ∀ row ∈ outputs db p, Reads crypto row ∧ ActiveBy db p row.firstObservedAt
  projected : ∀ settled, settlement db p = some settled →
    columns settled = projection (requiredSats settled.payment) (holding db p).active
  transfers : ∀ row ∈ transfers db p, AcceptsUsdt db p ∧
    row.transferLookupHash = crypto.usdtTransferLookupHash row.facts.identity ∧
    ∃ hash, transactionHash row.facts.identity = .ok hash

/-- What validation ensures of an observed output, and verification of a transfer. -/
def Reliable (db : Database) : Action → Prop
  | .observeMarketplace input _ => input.present = false → input.confirmations = 0
  | .applyMarketplaceUsdt p transfer _ =>
    AcceptsUsdt db p ∧ ∃ hash, transactionHash transfer.identity = .ok hash
  | _ => True

section Steps

variable {env : Environment} {crypto : Crypto} {db db' : Database} {p : Uuid} {action : Action}

theorem activeObservation_eq (db : Database) (p : Uuid) :
    activeObservation db p = (outputs db p).find? (·.active) := by
  unfold MarketplacePreparations.activeObservation outputs lookup
  rw [List.find?_filter]
  congr 1
  funext row
  cases active : row.active <;> simp [BitcoinObservationRow.activePreparation, active]

theorem ActiveBy.carried {time : OffsetDateTime} (active : ActiveBy db p time)
    (preparations : db'.preparations = db.preparations)
    (grows : Grows SameSettlement (fun _ => False) db.settlements.rows db'.settlements.rows) :
    ActiveBy db' p time := by
  obtain ⟨settled, activatedAt, deadline, found, takes, joined, order⟩ := active
  obtain ⟨settled', found', same⟩ := (grows.lookup
    fun _ _ same => congrArg some same.preparationId).1 settled found
  refine ⟨settled', activatedAt, deadline, found', same.payment ▸ takes, ?_, order⟩
  unfold joinActive at joined ⊢
  rw [preparations, same.preparationId, same.creatorId]
  split at joined
  · split at joined
    · cases joined
      rw [if_pos ‹_›]
    · cases joined
  · cases joined

theorem AcceptsUsdt.carried (accepts : AcceptsUsdt db p)
    (grows : Grows SameSettlement (fun _ => False) db.settlements.rows db'.settlements.rows) :
    AcceptsUsdt db' p := by
  obtain ⟨settled, found, takes⟩ := accepts
  obtain ⟨settled', found', same⟩ := (grows.lookup
    fun _ _ same => congrArg some same.preparationId).1 settled found
  exact ⟨settled', found', same.payment ▸ takes⟩

/-- The columns written with an output are the ones rebuilt from it. -/
theorem columns_project (row : SettlementRow) (input : BitcoinObservationInput) (required : Nat)
    (timely : Bool) (observedAt deadline : OffsetDateTime) (key : LookupHash) :
    columns (project row input (input.matched required) timely observedAt deadline) =
      projection required (some ⟨key, ⟨1, input.outpoint, input.observedSats⟩,
        input.confirmations, input.present⟩) := by
  have zero : min (input.confirmations : Int) 6 = 0 ↔ input.confirmations = 0 := by omega
  cases seen : input.present with
  | false => simp [columns, project, projection, BitcoinObservationInput.matched, seen]
  | true =>
    by_cases enough : required ≤ input.observedSats <;>
      simp [columns, project, projection, BitcoinObservationInput.matched, seen, enough, zero]

variable {row old : BitcoinObservationRow}

theorem evidence_marketplacePreparationId (same : row.evidence = old.evidence) :
    row.marketplacePreparationId = old.marketplacePreparationId :=
  congrArg ObservationEvidence.marketplacePreparationId same

/-- A stored output still reads when its state is replaced by a reported one. -/
theorem Reads.evidence (reads : Reads crypto old)
    (same : row.evidence = old.evidence) (bounded : row.confirmations < 2 ^ 31)
    (absent : row.present = false → row.confirmations = 0) : Reads crypto row := by
  have observation := congrArg ObservationEvidence.observation same
  have key := congrArg ObservationEvidence.outpointLookupHash same
  have observation : row.observation = old.observation := observation
  have key : row.outpointLookupHash = old.outpointLookupHash := key
  refine ⟨?_, ?_, bounded, absent⟩
  · rw [observation]
    exact reads.version
  · rw [observation, key]
    exact reads.key

section Observed

variable {input : BitcoinObservationInput} {observedAt : OffsetDateTime}
  {active : ActiveSettlement} {destination : PaymentDestination} {replace : Bool}

variable (found : activeByAddress db (crypto.bitcoinAddressLookupHash input.address) = some active)
  (quoted : active.settlement.payment.bitcoin = some destination)
  (existing : ∀ row ∈ db.observationByOutpoint
      (crypto.bitcoinOutpointLookupHash input.outpoint.canonicalText),
    row.invoiceId = none ∧ row.marketplacePreparationId = some active.settlement.preparationId ∧
      row.observation = ⟨1, input.outpoint, input.observedSats⟩)
  (done : recordObservation db active destination.requiredAmount input
    (crypto.bitcoinOutpointLookupHash input.outpoint.canonicalText) observedAt replace = .ok db')

include found quoted existing done

theorem outputs_observed (recorded : ∀ p, Recorded crypto db p)
    (reliable : input.present = false → input.confirmations = 0)
    (inTime : active.activatedAt ≤ observedAt) :
    ∀ row ∈ outputs db' p, Reads crypto row ∧ ActiveBy db' p row.firstObservedAt := by
  obtain ⟨settled, -, joined⟩ := settlement_of_activeByAddress found
  have grows : Grows SameSettlement (fun _ => False) db.settlements.rows db'.settlements.rows :=
    (SettlementsWrite.observed input observedAt active destination replace _ found quoted inTime
      existing done).grows
  have preparations := (holding_recordObservation settled existing done).1
  intro row member
  obtain ⟨stored, owner⟩ := List.mem_filter.mp member
  have owner : row.marketplacePreparationId = some p := of_decide_eq_true owner
  obtain ⟨observations, timely, settlements, next, id, first, rfl, -, rows, -, bounded, seen, -⟩ :=
    recordObservation_ok done
  have bounded : (input.confirmations : Int) < 2 ^ 31 := by exact_mod_cast bounded
  have reliable : input.present = false → (input.confirmations : Int) = 0 := by
    simpa using reliable
  rw [rows] at stored
  obtain rfl | ⟨old, stored, evidence, state⟩ := of_mem_storeObservation stored
  · obtain rfl := Option.some.inj owner
    refine ⟨⟨rfl, rfl, bounded, reliable⟩, ?_⟩
    refine ActiveBy.carried ?_ preparations grows
    cases earlier : db.observationByOutpoint
        (crypto.bitcoinOutpointLookupHash input.outpoint.canonicalText) with
    | none =>
      rw [earlier] at seen
      refine ⟨active.settlement, active.activatedAt, active.paymentDeadline, settled, ?_, joined,
        ?_⟩
      · rw [quoted]
        rfl
      · rw [seen]
        exact inTime
    | some old =>
      rw [earlier] at seen
      obtain ⟨-, own, -⟩ := existing old earlier
      have listed : old ∈ outputs db active.settlement.preparationId :=
        List.mem_filter.mpr ⟨lookup_mem earlier, decide_eq_true own⟩
      rw [seen]
      exact ((recorded _).outputs old listed).2
  · have listed : old ∈ outputs db p := List.mem_filter.mpr ⟨stored, decide_eq_true
      ((evidence_marketplacePreparationId evidence).symm.trans owner)⟩
    obtain ⟨reads, since⟩ := (recorded p).outputs old listed
    have first : row.firstObservedAt = old.firstObservedAt :=
      congrArg ObservationEvidence.firstObservedAt evidence
    rw [first]
    refine ⟨?_, since.carried preparations grows⟩
    obtain ⟨confirmations, present⟩ | ⟨confirmations, present⟩ := state
    · refine reads.evidence evidence ?_ ?_
      · rw [confirmations]
        exact reads.bounded
      · rw [confirmations, present]
        exact reads.absent
    · refine reads.evidence evidence ?_ ?_
      · rw [confirmations]
        exact bounded
      · rw [confirmations, present]
        exact reliable

theorem projected_observed (recorded : Recorded crypto db p) :
    ∀ settled, settlement db' p = some settled →
      columns settled = projection (requiredSats settled.payment) (holding db' p).active := by
  obtain ⟨-, row', same, ⟨_, _, _, written⟩, holdings⟩ :=
    holding_recordObservation (settlement_of_activeByAddress found).1 existing done
  intro stored opened
  have held := holdings p
  have opened : (holding db' p).settlement = some stored := opened
  by_cases own : p = active.settlement.preparationId
  · rw [if_pos own] at held
    rw [held] at opened ⊢
    cases opened
    have required : requiredSats row'.payment = destination.requiredAmount := by
      rw [requiredSats, same.payment, quoted]
      rfl
    rw [required, written]
    exact columns_project ..
  · rw [if_neg own] at held
    rw [held] at opened ⊢
    exact recorded.projected stored opened

end Observed

theorem transfers_recorded (recorded : Recorded crypto db p) (reliable : Reliable db action)
    (grows : Grows SameSettlement (fun _ => False) db.settlements.rows db'.settlements.rows)
    (written : ∀ row ∈ transfers db' p, Transferred crypto db action p row) :
    ∀ row ∈ transfers db' p, AcceptsUsdt db' p ∧
      row.transferLookupHash = crypto.usdtTransferLookupHash row.facts.identity ∧
      ∃ hash, transactionHash row.facts.identity = .ok hash := by
  intro row member
  obtain ⟨old, stored, facts, hash⟩ | ⟨transfer, dbNow, rfl, facts, hash, -⟩ := written row member
  · obtain ⟨accepts, reads⟩ := recorded.transfers old stored
    rw [facts, hash]
    exact ⟨accepts.carried grows, reads⟩
  · obtain ⟨accepts, identity⟩ := reliable
    rw [facts]
    exact ⟨accepts.carried grows, hash, identity⟩

theorem recorded_perform (recorded : ∀ p, Recorded env.crypto db p)
    (observes : action.isObservation = true) (reliable : Reliable db action)
    (done : perform env db action = .ok db') (p : Uuid) : Recorded env.crypto db' p := by
  have step := perform_observation observes done
  have receipts := transfers_recorded (recorded p) reliable step.settlements.grows
    (step.transfers p)
  have carried : ∀ time, ActiveBy db p time → ActiveBy db' p time :=
    fun _ active => active.carried step.preparations step.settlements.grows
  refine ⟨?_, ?_, receipts⟩
  · cases step.settlements with
    | untouched _ _ _ same =>
      intro row member
      rw [same] at member
      obtain ⟨reads, since⟩ := (recorded p).outputs row member
      exact ⟨reads, carried _ since⟩
    | expired =>
      intro row member
      obtain ⟨reads, since⟩ := (recorded p).outputs row member
      exact ⟨reads, carried _ since⟩
    | observed input observedAt active destination replace _ found quoted inTime existing stored =>
      exact outputs_observed found quoted existing stored recorded reliable inTime
  · cases step.settlements with
    | untouched _ _ settlements same =>
      intro settled opened
      have held : (holding db' p).active = (holding db p).active := by
        simp only [holding, activeObservation_eq, same]
      rw [held]
      refine (recorded p).projected settled ?_
      rw [settlement, ← settlements]
      exact opened
    | expired observedAt condition settlements rows =>
      intro settled opened
      have opened : lookup (fun row => some row.preparationId) p settlements.rows =
          some settled := opened
      rw [rows, lookup_updateWhere] at opened
      · obtain ⟨old, before, rfl⟩ := Option.map_eq_some_iff.mp opened
        have kept := (recorded p).projected old before
        split <;> exact kept
      · exact fun _ _ => rfl
    | observed input observedAt active destination replace _ found quoted inTime existing stored =>
      exact projected_observed found quoted existing stored (recorded p)

theorem joinActive_eq_some {settled : SettlementRow} {activatedAt deadline : OffsetDateTime} :
    joinActive db settled = some ⟨settled, activatedAt, deadline⟩ ↔
      lookup (fun row : PreparationRow => some row.id) settled.preparationId
        db.preparations.rows = some ⟨settled.preparationId, settled.creatorId, .active,
          some activatedAt, some deadline⟩ := by
  unfold joinActive
  split
  · rename_i id creatorId activated due found
    have key := lookup_key found
    obtain rfl : id = settled.preparationId := Option.some.inj key
    rw [found]
    constructor
    · intro joined
      split at joined
      · rename_i owned
        cases joined
        rw [owned]
      · cases joined
    · intro same
      cases same
      rw [if_pos rfl]
  · rename_i other
    constructor
    · intro joined
      cases joined
    · intro found
      exact absurd found (other _ _ _ _)

/-- What is recorded stays so where outputs and transfers stay, no active request changes,
and a new settlement starts from nothing. -/
theorem recorded_frame (recorded : Recorded crypto db p)
    (observations : db'.bitcoinObservations = db.bitcoinObservations)
    (receipts : db'.usdtObservations = db.usdtObservations)
    (opened : settlement db' p = settlement db p ∨ settlement db p = none ∧
      ∀ settled, settlement db' p = some settled → columns settled = projection 0 none)
    (active : ∀ settled activatedAt deadline, settlement db p = some settled →
      joinActive db settled = some ⟨settled, activatedAt, deadline⟩ →
      joinActive db' settled = some ⟨settled, activatedAt, deadline⟩) :
    Recorded crypto db' p := by
  have kept : ∀ settled, settlement db p = some settled → settlement db' p = some settled := by
    intro settled before
    obtain same | ⟨closed, -⟩ := opened
    · exact same.trans before
    · exact absurd (closed.symm.trans before) (by simp)
  have sameOutputs : outputs db' p = outputs db p := by
    unfold outputs
    rw [observations]
  have sameTransfers : transfers db' p = transfers db p := by
    unfold transfers
    rw [receipts]
  have held : (holding db' p).active = (holding db p).active := by
    simp only [holding, activeObservation_eq, sameOutputs]
  refine ⟨?_, ?_, ?_⟩
  · intro row member
    rw [sameOutputs] at member
    obtain ⟨reads, settled, activatedAt, deadline, before, takes, joined, order⟩ :=
      recorded.outputs row member
    exact ⟨reads, settled, activatedAt, deadline, kept settled before, takes,
      active _ _ _ before joined, order⟩
  · intro settled after
    rw [held]
    obtain same | ⟨closed, fresh⟩ := opened
    · exact recorded.projected settled (same.symm.trans after)
    · have idle : outputs db p = [] := by
        refine List.eq_nil_iff_forall_not_mem.mpr fun row member => ?_
        obtain ⟨-, stored, _, _, before, -⟩ := recorded.outputs row member
        rw [closed] at before
        cases before
      have unbound : (holding db p).active = none := by
        simp only [holding, activeObservation_eq, idle, List.find?_nil, Option.map_none]
      rw [unbound]
      exact fresh settled after
  · intro row member
    rw [sameTransfers] at member
    obtain ⟨⟨settled, before, takes⟩, reads⟩ := recorded.transfers row member
    exact ⟨⟨settled, kept settled before, takes⟩, reads⟩

end Steps

end PaykitServer.Settlement
