import PaykitServer.Ledger.Preparations
import PaykitServer.Settlement.Projection

/-!
# A status read agrees with what is stored

A status read of a Marketplace request checks everything it is built from: the sealed
quote, the times of the request, its settlement and its proposal, and that the projected
columns are the ones its own outputs project. Each check is a fact about every store that
operations can reach, with one exception: the SDK may report several attempts to propose
one request, and a read refuses those.
-/

namespace PaykitServer

open Domain Bitcoin Persistence Application
open Settlement MarketplacePreparations Relational

structure Readable (d : Deployment) (row : Preparation) : Prop where
  decoded : decodeLifecycleEnvelope d.sdk row = .ok row.envelope
  quoted : ∃ quote, envelopeQuote d.sdk row.envelope = .ok quote

/-- The times of a request are in order, and none is in the future. -/
structure InOrder (clock : OffsetDateTime) (row : Preparation) : Prop where
  prepared : row.preparedAt ≤ clock
  activated : ∀ time ∈ row.activatedAt, row.preparedAt ≤ time ∧ time ≤ clock
  resolved : ∀ time ∈ row.resolvedAt, row.preparedAt ≤ time ∧
    ∀ activatedAt ∈ row.activatedAt, activatedAt ≤ time

section Rows

variable {d : Deployment} {store store' : Store} {operation : Operation} {row row' : Preparation}

theorem Readable.carried (readable : Readable d row) (same : SameQuote row row') :
    Readable d row' :=
  ⟨decodeLifecycleEnvelope_congr same readable.decoded, same.envelope ▸ readable.quoted⟩

theorem readable_quoted (quotes : Quotes d store operation row)
    (done : operate d store operation = .ok store') : Readable d row := by
  cases quotes with
  | quoted input waited creator intent result deadline fixed found quote =>
    obtain ⟨⟨_, _⟩, prepared, -⟩ := map_eq_ok.mp (persist_eq_ok.mp done)
    obtain ⟨deadline', fixed', prepared⟩ := bind_eq_ok.mp prepared
    obtain rfl : deadline' = deadline :=
      Option.some.inj ((demand_eq_ok.mp fixed').symm.trans fixed)
    obtain ⟨⟨-, -, window, -, lifetime⟩, -⟩ := prepare_checked prepared
    obtain ⟨inRange, sum⟩ := OffsetDateTime.checkedAdd_eq_some.mp fixed
    obtain ⟨-, preparedAt⟩ := OffsetDateTime.checkedAdd_eq_some.mp quote.lifetime
    have expires : result.prepareExpiresAt =
        result.preparedAt + seconds input.prepareTtlSeconds := by
      rw [preparedAt, neg_add_cancel_right]
    have due : deadline' = result.prepareExpiresAt := Option.some.inj quote.deadline
    obtain ⟨reader, offered⟩ := validateIntent_ok quote.quote
    have stored : lifetimeStored (newEnvelope { input with prepareDeadline := some deadline' }
        result.terms result.preparedAt result.prepareExpiresAt creator.nextChildIndex intent)
        (quotedPreparation d.crypto { input with prepareDeadline := some deadline' } creator
          intent result) := by
      refine ⟨lifetime, rfl, rfl, OffsetDateTime.checkedAdd_eq_some.mpr ⟨?_, expires⟩⟩
      show OffsetDateTime.inRange (result.preparedAt + seconds input.prepareTtlSeconds) = true
      rw [← expires, ← due, sum]
      exact inRange
    refine ⟨?_, result.quote, orFail_eq_ok.mpr offered⟩
    refine bind_eq_ok.mpr ⟨(), ensure_eq_ok.mpr ⟨.inr rfl, stored, window, reader⟩, ?_⟩
    exact bind_eq_ok.mpr ⟨result.quote, orFail_eq_ok.mpr quote.quote, rfl⟩

theorem InOrder.later {clock clock' : OffsetDateTime} (inOrder : InOrder clock row)
    (later : clock ≤ clock') : InOrder clock' row :=
  ⟨inOrder.prepared.trans later,
    fun time activated => ⟨(inOrder.activated time activated).1,
      (inOrder.activated time activated).2.trans later⟩, inOrder.resolved⟩

theorem InOrder.moves (inOrder : InOrder store.clock row)
    (moves : Moves store operation row row') : InOrder store.clock row' := by
  cases moves with
  | same => exact inOrder
  | completed | voided => exact ⟨inOrder.prepared, inOrder.activated, inOrder.resolved⟩
  | activated input _ deadline named prepared unresolved =>
    refine ⟨inOrder.prepared, ?_, ?_⟩
    · rintro time ⟨⟩
      exact ⟨inOrder.prepared, le_rfl⟩
    · intro time resolved
      have resolved : row.resolvedAt = some time := resolved
      rw [unresolved] at resolved
      cases resolved
  | resolved creator invoiceId outcome _ unresolved =>
    refine ⟨inOrder.prepared, inOrder.activated, ?_⟩
    rintro time ⟨⟩
    exact ⟨inOrder.prepared, fun activatedAt activated => (inOrder.activated _ activated).2⟩

theorem inOrder_quoted (quotes : Quotes d store operation row) : InOrder store.clock row := by
  cases quotes with
  | quoted input waited creator intent result deadline fixed found quote =>
    obtain ⟨-, sum⟩ := OffsetDateTime.checkedAdd_eq_some.mp fixed
    obtain ⟨-, preparedAt⟩ := OffsetDateTime.checkedAdd_eq_some.mp quote.lifetime
    have due : deadline = result.prepareExpiresAt := Option.some.inj quote.deadline
    refine ⟨?_, by rintro _ ⟨⟩, by rintro _ ⟨⟩⟩
    show result.preparedAt ≤ store.clock
    have waiting : (0 : Int) ≤ waited := Int.natCast_nonneg _
    have preparedAt : result.preparedAt =
      result.prepareExpiresAt + -seconds input.prepareTtlSeconds := preparedAt
    rw [preparedAt, ← due, sum, add_neg_cancel_right]
    exact Int.sub_le_self _ waiting

end Rows

section Records

variable {d : Deployment} {store store' : Store} {operation : Operation}

/-- Observation reports what validation and verification let through. -/
theorem Observation.actions_reliable (observation : Observation) {db : Database}
    (accepts : ∀ p, AcceptsUsdt store.db p → AcceptsUsdt db p) :
    ∀ action ∈ observation.actions d.toEnvironment store, Reliable db action := by
  intro action member
  unfold Observation.actions at member
  split at member
  case isFalse => cases member
  case isTrue goesOn =>
    cases observation with
    | observeOnce =>
      simp only [Observation.request, requestActions] at member
      split at member
      · simp only [batchActions, List.mem_append, List.mem_map] at member
        obtain ⟨_, -, rfl⟩ | ⟨_, -, rfl⟩ := member <;> trivial
      · cases member
    | observeMarketplaceOnce =>
      simp only [Observation.request, requestActions] at member
      split at member
      · rename_i batch valid
        obtain ⟨input, listed, rfl⟩ := List.mem_map.mp member
        obtain ⟨indexed, -, accepted, -, rfl⟩ := validateBatch_ok.mp valid
        have listed := (Workers.sortForBatch_perm _).mem_iff.mp
          ((Workers.sortForBatch_perm _).mem_iff.mp listed)
        obtain ⟨output, reported, rfl⟩ := List.mem_map.mp listed
        exact (accepted output reported).confirmations.2
      · cases member
    | applyMarketplaceUsdt p log =>
      obtain rfl := List.mem_singleton.mp member
      obtain ⟨settled, found, takes⟩ := (Option.any_eq_true ..).mp goesOn
      exact ⟨accepts p ⟨settled, found, takes⟩, _,
        Usdt.transactionHash_logIdentity log.transactionHash log.logIndex⟩
    | observationTargets | marketplaceTargets | reserveUsdt | applyUsdt | clearUsdt
    | clearMarketplaceUsdt =>
      obtain rfl := List.mem_singleton.mp member
      trivial

theorem joinActive_step {settled : SettlementRow} {activatedAt deadline : OffsetDateTime}
    (columns : store.db.preparations.rows = store.preparations.rows.map Preparation.columns)
    (effect : Effect d store operation store')
    (joined : joinActive store.db settled = some ⟨settled, activatedAt, deadline⟩) :
    joinActive store'.db settled = some ⟨settled, activatedAt, deadline⟩ := by
  have columns' := columns_step effect columns
  have found := joinActive_eq_some.mp joined
  have stored := lookup_mem found
  rw [columns] at stored
  obtain ⟨row, member, same⟩ := List.mem_map.mp stored
  obtain ⟨row', member', moves⟩ := (operate_preparations effect).mem member
  have remembers := moves.remembers
  have active : row.state = .active := congrArg PreparationRow.state same
  obtain ⟨active', activation, due⟩ := remembers.active active
  refine joinActive_eq_some.mpr ((lookup_eq_some_iff store'.db.preparations.valid.1).mpr ⟨?_, rfl⟩)
  rw [columns', ← same]
  refine List.mem_map.mpr ⟨row', member', ?_⟩
  rw [Preparation.columns, Preparation.columns, remembers.quote.id, remembers.quote.creatorId,
    active, active', activation, due]

theorem recorded_step (booked : Booked d store)
    (columns : store.db.preparations.rows = store.preparations.rows.map Preparation.columns)
    (recorded : ∀ p, Recorded d.crypto store.db p) (effect : Effect d store operation store') :
    ∀ p, Recorded d.crypto store'.db p := by
  have active : ∀ settled activatedAt deadline,
      joinActive store.db settled = some ⟨settled, activatedAt, deadline⟩ →
      joinActive store'.db settled = some ⟨settled, activatedAt, deadline⟩ :=
    fun _ _ _ => joinActive_step columns effect
  cases effect with
  | observed observation db done =>
    refine (execute_rule (P := fun db => (∀ p, Recorded d.crypto db p) ∧
      ∀ p, AcceptsUsdt store.db p → AcceptsUsdt db p) ?_ ⟨recorded, fun _ => id⟩ done).1
    rintro action member db db' ⟨recorded, accepts⟩ performed
    have observes := observation.actions_observe action member
    have reliable := observation.actions_reliable accepts action member
    refine ⟨recorded_perform recorded observes reliable performed, fun p accepted => ?_⟩
    exact (accepts p accepted).carried (perform_observation observes performed).settlements.grows
  | activated input creator row intent payment reference proposalExpiresAt paymentDeadline
      preparations columns' settlements outbox found stored owned prepared fixed rows projected
      settled =>
      intro p
      refine recorded_frame (recorded p) rfl rfl ?_ fun settled _ _ _ => active settled _ _
      have opened : settlement { store.db with settlements := settlements } p =
          (settlement store.db p).or (if row.id = p then
            some ((newSettlement creator row payment).settlementRow d.crypto row.id) else none) := by
        unfold settlement
        rw [settled, lookup_append]
        simp [NewPayment.settlementRow]
      by_cases own : row.id = p
      · have idle : settlement store.db p = none := by
          refine (booked.idle p fun other found' active => ?_).1
          have same : other = row := Option.some.inj (found'.symm.trans
            (own ▸ Store.preparation_id stored ▸ stored))
          rw [same, prepared] at active
          cases active
        refine .inr ⟨idle, fun new found' => ?_⟩
        have found' := opened.symm.trans found'
        rw [idle, if_pos own] at found'
        cases found'
        rfl
      · rw [if_neg own, Option.or_none] at opened
        exact .inl opened
  | _ =>
    intro p
    exact recorded_frame (recorded p) rfl rfl (.inl rfl) fun settled _ _ _ => active settled _ _

theorem attempts_step (booked : Booked d store)
    (idle : ∀ p, (∀ row, store.preparation p = some row → row.state ≠ .active) →
      attempts store p = []) (effect : Effect d store operation store') {p : Uuid}
    (inactive : ∀ row, store'.preparation p = some row → row.state ≠ .active) :
    attempts store' p = [] := by
  have before : ∀ row, store.preparation p = some row → row.state ≠ .active := by
    intro row found active
    obtain ⟨row', found', moves⟩ := ((operate_preparations effect).lookup
      fun _ _ moves => congrArg some moves.remembers.quote.id).1 row found
    exact inactive row' found' (moves.remembers.active active).1
  refine List.eq_nil_iff_forall_not_mem.mpr fun attempt member => ?_
  obtain ⟨stored, owner⟩ := List.mem_filter.mp member
  have owner : attempt.marketplacePreparationId = some p := of_decide_eq_true owner
  obtain ⟨old, stored, same⟩ | ⟨creatorId, lifecycle, locked, owned⟩ :=
    (operate_lifecycles effect).of_mem stored
  · have listed : old ∈ attempts store p := List.mem_filter.mpr
      ⟨stored, decide_eq_true (same.marketplacePreparationId.symm.trans owner)⟩
    rw [idle p before] at listed
    cases listed
  · have named := of_decide_eq_true (Bool.and_eq_true_iff.mp owned).2
    rw [owner] at named
    cases lifecycle with
    | invoice id => cases named
    | marketplace id =>
      cases named
      have settled := ensure_eq_ok.mp locked
      rw [(booked.idle p before).1] at settled
      cases settled

/-- What a status read rests on. -/
structure StatusSound (d : Deployment) (store : Store) : Prop where
  columns : store.db.preparations.rows = store.preparations.rows.map Preparation.columns
  booked : Booked d store
  readable : ∀ row ∈ store.preparations.rows, Readable d row
  inOrder : ∀ row ∈ store.preparations.rows, InOrder store.clock row
  recorded : ∀ p, Recorded d.crypto store.db p
  idle : ∀ p, (∀ row, store.preparation p = some row → row.state ≠ .active) → attempts store p = []

theorem StatusSound.step (sound : StatusSound d store)
    (done : operate d store operation = .ok store') : StatusSound d store' := by
  have effect := operate_effect done
  refine ⟨columns_step effect sound.columns, booked_step sound.booked effect, ?_, ?_,
    recorded_step sound.booked sound.columns sound.recorded effect,
    fun _ => attempts_step sound.booked sound.idle effect⟩
  · intro row' member
    obtain ⟨row, stored, moves⟩ | quotes := (operate_preparations effect).of_mem member
    · exact (sound.readable row stored).carried moves.remembers.quote
    · exact readable_quoted quotes done
  · intro row' member
    have later := (operate_advances effect).1
    obtain ⟨row, stored, moves⟩ | quotes := (operate_preparations effect).of_mem member
    · exact ((sound.inOrder row stored).moves moves).later later
    · exact (inOrder_quoted quotes).later later

theorem storeAfter_statusSound (d : Deployment) (start : OffsetDateTime)
    (operations : List Operation) : StatusSound d (storeAfter d start operations) := by
  refine storeAfter_invariant ?_ fun _ _ _ sound done => sound.step done
  have empty : ∀ p, Recorded d.crypto (Store.empty start).db p := by
    intro p
    refine ⟨?_, ?_, ?_⟩
    · intro row member
      cases member
    · intro settled found
      cases found
    · intro row member
      cases member
  refine ⟨rfl, booked_storeAfter d start [], ?_, ?_, empty, fun _ _ => rfl⟩
  · intro row member
    cases member
  · intro row member
    cases member

end Records

section Answers

variable {d : Deployment} {store : Store} {row : Preparation} {stored : SettlementRow}
  {activatedAt deadline : OffsetDateTime}

theorem joined_activatedAt {since due : OffsetDateTime}
    (columns : store.db.preparations.rows = store.preparations.rows.map Preparation.columns)
    (member : row ∈ store.preparations.rows) (settled : settlement store.db row.id = some stored)
    (joined : joinActive store.db stored = some ⟨stored, since, due⟩) :
    row.activatedAt = some since := by
  have named := lookup_key settled
  have named : stored.preparationId = row.id := Option.some.inj named
  have found := joinActive_eq_some.mp joined
  have read : lookup (fun row : PreparationRow => some row.id) stored.preparationId
      store.db.preparations.rows = some row.columns := by
    refine (lookup_eq_some_iff store.db.preparations.valid.1).mpr ⟨?_, congrArg some named.symm⟩
    rw [columns]
    exact List.mem_map_of_mem member
  exact congrArg PreparationRow.activatedAt (Option.some.inj (read.symm.trans found))

theorem projection_rebuilt {status : MarketplaceBitcoinStatus} {held : HeldOutput} {required : Nat}
    (present : status.present = held.present)
    (confirmations : status.confirmations = if held.present then held.confirmations else 0)
    (matched : status.amountMatched =
      (held.present && decide (required ≤ held.record.observedSats))) :
    projection required (some held) = (projectedStatus (some status),
      (projectedConfirmations (some status) : Int), projectedAmountMatched (some status)) := by
  obtain ⟨key, record, depth, seen⟩ := held
  cases seen with
  | false =>
    simp_all [projection, projectedStatus, projectedConfirmations, projectedAmountMatched]
  | true =>
    have capped : ((min depth 6 : Nat) : Int) = min (depth : Int) 6 := by omega
    by_cases enough : required ≤ record.observedSats <;>
      simp_all [projection, projectedStatus, projectedConfirmations, projectedAmountMatched]

theorem statusBitcoin_reads {observation : BitcoinObservationRow} {preparation : Uuid}
    (active : activeObservation store.db preparation = some observation)
    (reads : Reads d.crypto observation) (began : activatedAt ≤ observation.firstObservedAt)
    (required : Nat) :
    ∃ status, statusBitcoin d.crypto store.db preparation required activatedAt =
        .ok (some status) ∧ status.present = observation.present ∧
      status.confirmations =
        (if observation.present then observation.confirmations.toNat else 0) ∧
      status.amountMatched =
        (observation.present && decide (required ≤ observation.observation.observedSats)) := by
  have counted : 0 ≤ observation.confirmations :=
    (store.db.bitcoinObservations.valid.2.2.2.2 observation (lookup_mem active)).1
  refine ⟨{
    outpoint := observation.observation.outpoint
    observedSats := observation.observation.observedSats
    firstObservedAt := observation.firstObservedAt
    confirmations := if observation.present then observation.confirmations.toNat else 0
    present := observation.present
    amountMatched := observation.present &&
      decide (required ≤ observation.observation.observedSats)
    paidOnTime := observation.present &&
      decide (required ≤ observation.observation.observedSats) &&
      store.db.marketplaceTimely.contains (preparation, observation.outpointLookupHash) },
    ?_, rfl, rfl, rfl⟩
  unfold statusBitcoin
  rw [active]
  refine bind_eq_ok.mpr ⟨observation.observation, ?_, ?_⟩
  · exact bind_eq_ok.mpr ⟨(), ensure_eq_ok.mpr reads.version, rfl⟩
  · exact bind_eq_ok.mpr ⟨(), ensure_eq_ok.mpr ⟨reads.key, counted, reads.absent, began⟩, rfl⟩

theorem bitcoin_answers (sound : StatusSound d store) (member : row ∈ store.preparations.rows)
    (activated : row.activatedAt = some activatedAt)
    (settled : settlement store.db row.id = some stored) (version : stored.payment.version = 1) :
    ∃ bitcoin, statusBitcoinRail d.crypto store.db row.id stored.payment activatedAt =
        .ok bitcoin ∧ checkProjection stored bitcoin = .ok () := by
  have recorded := sound.recorded row.id
  have same := recorded.projected stored settled
  have nothing : (holding store.db row.id).active = none → checkProjection stored none = .ok () := by
    intro unbound
    rw [unbound] at same
    simp only [columns, projection, Prod.mk.injEq] at same
    obtain ⟨status, confirmations, matched⟩ := same
    refine ensure_eq_ok.mpr ⟨status, ?_, ?_, matched⟩
    · decide
    · exact confirmations
  cases active : activeObservation store.db row.id with
  | none =>
    refine ⟨none, ?_, nothing (congrArg (Option.map heldOutput) active)⟩
    unfold statusBitcoinRail
    split
    · rename_i takes
      obtain ⟨destination, quoted⟩ := Option.isSome_iff_exists.mp takes
      refine bind_eq_ok.mpr ⟨destination.requiredAmount, ?_, ?_⟩
      · exact bind_eq_ok.mpr ⟨(), ensure_eq_ok.mpr version,
          bind_eq_ok.mpr ⟨destination, demand_eq_ok.mpr quoted, rfl⟩⟩
      · simp only [statusBitcoin, active]
    · exact bind_eq_ok.mpr ⟨(), ensure_eq_ok.mpr active, rfl⟩
  | some observation =>
    have listed : observation ∈ outputs store.db row.id := by
      rw [activeObservation_eq] at active
      exact List.mem_of_find?_eq_some active
    obtain ⟨reads, settled', since, due, found, takes, joined, order⟩ :=
      recorded.outputs observation listed
    obtain rfl : settled' = stored := Option.some.inj (found.symm.trans settled)
    obtain ⟨destination, quoted⟩ := Option.isSome_iff_exists.mp takes
    have began : activatedAt ≤ observation.firstObservedAt := by
      have same := joined_activatedAt sound.columns member settled joined
      rw [Option.some.inj (activated.symm.trans same)]
      exact order
    have required : requiredSats settled'.payment = destination.requiredAmount := by
      rw [requiredSats, quoted]
      rfl
    obtain ⟨status, shown, present, confirmations, matched⟩ :=
      statusBitcoin_reads active reads began destination.requiredAmount
    refine ⟨some status, ?_, ?_⟩
    · unfold statusBitcoinRail
      rw [if_pos takes]
      refine bind_eq_ok.mpr ⟨destination.requiredAmount, ?_, shown⟩
      exact bind_eq_ok.mpr ⟨(), ensure_eq_ok.mpr version,
        bind_eq_ok.mpr ⟨destination, demand_eq_ok.mpr quoted, rfl⟩⟩
    · have held : (holding store.db row.id).active = some (heldOutput observation) :=
        congrArg (Option.map heldOutput) active
      rw [held, required] at same
      have rebuilt := same.trans (projection_rebuilt present confirmations matched)
      simp only [columns, Prod.mk.injEq] at rebuilt
      refine ensure_eq_ok.mpr ⟨rebuilt.1, ?_, rebuilt.2⟩
      have bounded := reads.bounded
      simp only [projectedConfirmations, confirmations]
      split <;> split <;> omega

theorem usdt_answers (sound : StatusSound d store)
    (settled : settlement store.db row.id = some stored) (version : stored.payment.version = 1) :
    ∃ shown, statusUsdt d.crypto store.db row.id stored.payment activatedAt deadline =
      .ok shown := by
  have recorded := sound.recorded row.id
  have listed : ∀ receipt, receipt ∈ store.db.usdtObservations.rows.filter (fun receipt =>
      receipt.marketplacePreparationId = some row.id && receipt.present) →
      receipt ∈ transfers store.db row.id := by
    intro receipt member
    obtain ⟨member, own⟩ := List.mem_filter.mp member
    exact List.mem_filter.mpr ⟨member, (Bool.and_eq_true_iff.mp own).1⟩
  unfold statusUsdt
  split
  · rename_i takes
    obtain ⟨destination, quoted⟩ := Option.isSome_iff_exists.mp takes
    have reads : ∀ receipt ∈ store.db.usdtObservations.rows.filter (fun receipt =>
        receipt.marketplacePreparationId = some row.id && receipt.present),
        ∃ status, receiptStatus d.crypto destination.requiredAmount activatedAt deadline receipt =
          .ok status := by
      intro receipt member
      obtain ⟨-, key, hash, read⟩ := recorded.transfers receipt (listed receipt member)
      have counted := (store.db.usdtObservations.valid.2.2 receipt (List.mem_filter.mp member).1).1
      refine ⟨_, bind_eq_ok.mpr ⟨receipt.facts, ?_, bind_eq_ok.mpr ⟨hash, read, rfl⟩⟩⟩
      exact bind_eq_ok.mpr ⟨(), ensure_eq_ok.mpr ⟨key, counted⟩, rfl⟩
    obtain ⟨receipts, shown⟩ := exists_mapM_ok reads
    refine ⟨_, bind_eq_ok.mpr ⟨destination.requiredAmount, ?_, bind_eq_ok.mpr ⟨receipts, shown, rfl⟩⟩⟩
    exact bind_eq_ok.mpr ⟨(), ensure_eq_ok.mpr version,
      bind_eq_ok.mpr ⟨destination, demand_eq_ok.mpr quoted, rfl⟩⟩
  · rename_i declines
    refine ⟨_, bind_eq_ok.mpr ⟨(), ensure_eq_ok.mpr ?_, rfl⟩⟩
    refine List.eq_nil_iff_forall_not_mem.mpr fun receipt member => ?_
    obtain ⟨⟨settled', found, takes⟩, -⟩ := recorded.transfers receipt (listed receipt member)
    rw [settled] at found
    cases found
    exact declines takes

theorem active_checks (sound : StatusSound d store) (member : row ∈ store.preparations.rows)
    (active : row.state = .active) :
    ∃ activatedAt deadline, row.activatedAt = some activatedAt ∧ row.paymentDeadline = some deadline ∧
      (proposals store row.id).length = 1 ∧ activatedAt < deadline ∧ row.voidedAt = none ∧
      row.preparedAt ≤ activatedAt ∧ ∀ resolvedAt ∈ row.resolvedAt, activatedAt ≤ resolvedAt := by
  obtain ⟨proposal, activatedAt, expiresAt, deadline, proposed, -, activated, due, -, early, late,
    -⟩ := (sound.booked.active row member active).proposed
  have inOrder := sound.inOrder row member
  have checks := store.preparations.valid.2.2 row member
  refine ⟨activatedAt, deadline, activated, due, ?_, early.trans late, ?_,
    (inOrder.activated _ activated).1, fun resolvedAt resolved =>
      (inOrder.resolved _ resolved).2 _ activated⟩
  · have one := filter_eq_toList (k := row.id) store.outbox.valid.2.1
    rw [proposed] at one
    rw [proposals, one]
    rfl
  · refine Option.not_isSome_iff_eq_none.mp fun voided => ?_
    rw [checks.2.2.1.mp voided] at active
    cases active

theorem active_answers (sound : StatusSound d store) {owner : CreatorRow}
    (found : owner ∈ store.creators.rows) (owned : row.creatorId = owner.id)
    (member : row ∈ store.preparations.rows) (active : row.state = .active)
    (quote : MarketplaceQuote) :
    if (attempts store row.id).length ≤ 1 then
      ∃ status, activeStatus d.crypto d.sdk store owner row quote = .ok status
    else activeStatus d.crypto d.sdk store owner row quote = .error .corruptOrMissing := by
  obtain ⟨activatedAt, deadline, activated, due, proposed, window, voided, prepared, resolved⟩ :=
    active_checks sound member active
  obtain ⟨stored, creator, found', settled, owner', offered, address, named, derived⟩ :=
    (sound.booked.active row member active).settled
  obtain rfl : creator = owner := store.creators.valid.1.eq_of_key found' found
    (congrArg some (named.trans owned)) rfl
  have own : ((settlement store.db row.id).filter (·.creatorId = row.creatorId)) = some stored := by
    rw [settled]
    simp [owner']
  have version := (fromIntent_ok offered).1
  split
  · rename_i few
    obtain ⟨bitcoin, shown, projected⟩ := bitcoin_answers sound member activated settled version
    obtain ⟨usdt, shown'⟩ : ∃ shown, statusUsdt d.crypto store.db row.id stored.payment activatedAt
        deadline = .ok shown := usdt_answers sound settled version
    obtain ⟨proposal, first⟩ := List.length_eq_one_iff.mp proposed
    have head : (proposals store row.id).head? = some proposal := by
      rw [first]
      rfl
    refine exists_bind_ok (demand_eq_ok.mpr activated) ?_
    refine exists_bind_ok (demand_eq_ok.mpr due) ?_
    refine exists_bind_ok (demand_eq_ok.mpr own) ?_
    refine exists_bind_ok (a := ()) (ensure_eq_ok.mpr ⟨proposed, few, window, voided, prepared, resolved⟩) ?_
    refine exists_bind_ok (orFail_eq_ok.mpr offered) ?_
    refine exists_bind_ok (a := ()) (ensure_eq_ok.mpr ⟨rfl, address, derived⟩) ?_
    refine exists_bind_ok (demand_eq_ok.mpr head) ?_
    refine exists_bind_ok shown ?_
    refine exists_bind_ok projected ?_
    exact exists_bind_ok shown' ⟨_, rfl⟩
  · rename_i many
    refine bind_eq_error.mpr (.inr ⟨_, demand_eq_ok.mpr activated, ?_⟩)
    refine bind_eq_error.mpr (.inr ⟨_, demand_eq_ok.mpr due, ?_⟩)
    refine bind_eq_error.mpr (.inr ⟨_, demand_eq_ok.mpr own, ?_⟩)
    exact bind_eq_error.mpr (.inl (if_neg fun checked => many checked.2.1))

theorem inactive_answers (sound : StatusSound d store) (member : row ∈ store.preparations.rows)
    (inactive : row.state ≠ .active) (quote : MarketplaceQuote) :
    attempts store row.id = [] ∧ ∃ status, inactiveStatus store row quote = .ok status := by
  have named := preparation_of_mem member
  have others : ∀ other, store.preparation row.id = some other → other.state ≠ .active := by
    intro other found
    rw [← Option.some.inj (named.symm.trans found)]
    exact inactive
  have checks := store.preparations.valid.2.2 row member
  obtain ⟨unsettled, unproposed⟩ := sound.booked.idle row.id others
  have idle := sound.idle row.id others
  have unobserved : activeObservation store.db row.id = none := by
    rw [activeObservation_eq]
    refine List.find?_eq_none.mpr fun observation listed => ?_
    obtain ⟨-, settled, _, _, found, -⟩ := (sound.recorded row.id).outputs observation listed
    rw [unsettled] at found
    cases found
  have unproposed : proposals store row.id = [] := by
    rw [proposals, filter_eq_toList store.outbox.valid.2.1, unproposed]
    rfl
  have unopened : row.activatedAt = none ∧ row.paymentDeadline = none := by
    have columns := checks.2.1
    cases state : row.state with
    | active => exact absurd state inactive
    | prepared | voided =>
      simp only [Preparation.columns, PreparationRow.Checks, state] at columns
      exact columns
  refine ⟨idle, exists_bind_ok (a := ()) (ensure_eq_ok.mpr ?_) ⟨_, rfl⟩⟩
  exact ⟨unsettled, unproposed, idle, unobserved, unopened.1, unopened.2, checks.2.2.1,
    fun resolvedAt resolved => ((sound.inOrder row member).resolved _ resolved).1⟩

theorem snapshot_answers (sound : StatusSound d store) (creator : String) (id : Uuid) :
    (∃ result, statusSnapshot d.crypto d.sdk store creator id = .ok result) ∨
      1 < (attempts store id).length ∧
        statusSnapshot d.crypto d.sdk store creator id = .error .corruptOrMissing := by
  unfold statusSnapshot
  split
  case h_1 => exact .inl ⟨none, rfl⟩
  case h_2 owner row loaded =>
    obtain ⟨found, named, owned⟩ := loadLifecycleLocked_some loaded
    have member := lookup_mem named
    obtain rfl : row.id = id := Store.preparation_id named
    have readable := sound.readable row member
    obtain ⟨quote, quoted⟩ := readable.quoted
    have checks := store.preparations.valid.2.2 row member
    have columns : row.businessOutcome.isSome = row.resolvedAt.isSome ∧
        row.preparedAt < row.prepareExpiresAt := ⟨checks.2.2.2, checks.1⟩
    by_cases active : row.state = .active
    · have answers := active_answers sound (lookup_mem found) owned member active quote
      split at answers
      · obtain ⟨status, shown⟩ := answers
        refine .inl (exists_bind_ok readable.decoded (exists_bind_ok quoted ?_))
        refine exists_bind_ok (a := ()) (ensure_eq_ok.mpr columns) ?_
        rw [active]
        exact exists_bind_ok shown ⟨_, rfl⟩
      · rename_i many
        refine .inr ⟨by omega, ?_⟩
        refine bind_eq_error.mpr (.inr ⟨_, readable.decoded, ?_⟩)
        refine bind_eq_error.mpr (.inr ⟨_, quoted, ?_⟩)
        refine bind_eq_error.mpr (.inr ⟨(), ensure_eq_ok.mpr columns, ?_⟩)
        rw [active]
        exact bind_eq_error.mpr (.inl answers)
    · obtain ⟨-, status, shown⟩ := inactive_answers sound member active quote
      refine .inl (exists_bind_ok readable.decoded (exists_bind_ok quoted ?_))
      refine exists_bind_ok (a := ()) (ensure_eq_ok.mpr columns) ?_
      cases state : row.state with
      | active => exact absurd state active
      | prepared | voided => exact exists_bind_ok shown ⟨_, rfl⟩

end Answers

/-- The SDK reports an attempt to propose a request. -/
def Operation.isReport : Operation → Bool
  | .applyLifecycle .. => true
  | _ => false

theorem run_unreported {d : Deployment} {store : Store} {operations : List Operation}
    (silent : ∀ operation ∈ operations, operation.isReport = false) :
    ((ledger d).run store operations).lifecycles = store.lifecycles := by
  induction operations generalizing store with
  | nil => rfl
  | cons operation operations ih =>
    have here := silent operation (.head _)
    rw [System.run_cons, ih fun later member => silent later (.tail _ member)]
    obtain ⟨store', done, committed⟩ | ⟨-, committed⟩ := @ledger_commit d store operation
    · rw [committed]
      cases operate_effect done with
      | reported => cases here
      | _ => rfl
    · rw [committed]

/-- In every reachable store the projected columns of every active settlement are the ones
that a status read rebuilds. A status read fails only when the SDK has reported several
attempts to propose the request, and then as corrupt; without such reports it never fails. -/
theorem status_read_agrees (d : Deployment) (start : OffsetDateTime) (operations : List Operation) :
    (∀ row ∈ (storeAfter d start operations).preparations.rows, row.state = .active →
      ∃ stored activatedAt bitcoin,
        settlement (storeAfter d start operations).db row.id = some stored ∧
        row.activatedAt = some activatedAt ∧
        statusBitcoinRail d.crypto (storeAfter d start operations).db row.id stored.payment
          activatedAt = .ok bitcoin ∧
        stored.paymentStatus = projectedStatus bitcoin ∧
        stored.confirmationCount = projectedConfirmations bitcoin ∧
        stored.amountMatched = projectedAmountMatched bitcoin) ∧
    (∀ creator id,
      (∃ result, statusSnapshot d.crypto d.sdk (storeAfter d start operations) creator id =
        .ok result) ∨
      1 < (attempts (storeAfter d start operations) id).length ∧
        statusSnapshot d.crypto d.sdk (storeAfter d start operations) creator id =
          .error .corruptOrMissing) ∧
    ((∀ operation ∈ operations, operation.isReport = false) → ∀ creator id,
      ∃ result, statusSnapshot d.crypto d.sdk (storeAfter d start operations) creator id =
        .ok result) := by
  have sound := storeAfter_statusSound d start operations
  refine ⟨?_, snapshot_answers sound, ?_⟩
  · intro row member active
    obtain ⟨activatedAt, -, activated, -⟩ := active_checks sound member active
    obtain ⟨stored, -, -, settled, -, offered, -⟩ := (sound.booked.active row member active).settled
    obtain ⟨bitcoin, shown, projected⟩ :=
      bitcoin_answers sound member activated settled (fromIntent_ok offered).1
    obtain ⟨status, -, confirmations, matched⟩ := ensure_eq_ok.mp projected
    exact ⟨stored, activatedAt, bitcoin, settled, activated, shown, status, confirmations, matched⟩
  · intro silent creator id
    refine (snapshot_answers sound creator id).resolve_right ?_
    rintro ⟨several, -⟩
    have none : (storeAfter d start operations).lifecycles.rows = [] :=
      congrArg Table.rows (run_unreported silent)
    rw [attempts, none] at several
    simp at several

namespace Sample

def activeOrder : List Operation :=
  [.createCreator (credentials "xpub"),
    .prepare ⟨"creator", "reader", "reference", "order", utf8 "order", 10, .btc, 100, 60, none,
      payloads⟩ (some 0),
    .activate ⟨"creator", 1, 10, .btc, 60⟩]

def orderAttempt (request : String) : Operation :=
  .applyLifecycle 0 ⟨request, "reader", paykitAppId, terms (some (seconds 50)) (some (seconds 100)),
    .proposed, none, some 1, none, 0⟩

end Sample

-- One attempt is shown; with a second one the order cannot be read.
example :
    let read := fun operations => statusSnapshot Sample.deployment.crypto Sample.deployment.sdk
      (storeAfter Sample.deployment 0 operations) "creator" 1
    ((read (Sample.activeOrder ++ [Sample.orderAttempt "a"])).toOption.join.map (·.requestState)) =
        some (some .proposed) ∧
      (read (Sample.activeOrder ++ [Sample.orderAttempt "a", Sample.orderAttempt "b"])).toOption =
        none := by
  decide +kernel

end PaykitServer
