import PaykitServer.Ledger.Deliveries
import PaykitServer.Ledger.Requests
import PaykitServer.Persistence.MarketplaceStatus

/-!
# The life of a Marketplace preparation

Over every run of operations a preparation keeps the quote it was accepted under and
every outcome it has reached. A settlement and a proposal exist for it exactly while
it is active, so that a repeated call finds what the first one stored and answers
with it.
-/

namespace PaykitServer

open Domain Persistence Application
open MarketplacePreparations Relational

structure SameQuote (row row' : Preparation) : Prop where
  id : row'.id = row.id
  creatorId : row'.creatorId = row.creatorId
  operationLookupHash : row'.operationLookupHash = row.operationLookupHash
  requestLookupHash : row'.requestLookupHash = row.requestLookupHash
  readerLookupHash : row'.readerLookupHash = row.readerLookupHash
  envelope : row'.envelope = row.envelope
  preparedAt : row'.preparedAt = row.preparedAt
  prepareExpiresAt : row'.prepareExpiresAt = row.prepareExpiresAt

theorem SameQuote.refl (row : Preparation) : SameQuote row row :=
  ⟨rfl, rfl, rfl, rfl, rfl, rfl, rfl, rfl⟩

theorem SameQuote.trans {a b c : Preparation} (first : SameQuote a b) (second : SameQuote b c) :
    SameQuote a c where
  id := second.id.trans first.id
  creatorId := second.creatorId.trans first.creatorId
  operationLookupHash := second.operationLookupHash.trans first.operationLookupHash
  requestLookupHash := second.requestLookupHash.trans first.requestLookupHash
  readerLookupHash := second.readerLookupHash.trans first.readerLookupHash
  envelope := second.envelope.trans first.envelope
  preparedAt := second.preparedAt.trans first.preparedAt
  prepareExpiresAt := second.prepareExpiresAt.trans first.prepareExpiresAt

/-- A later version of a preparation has the same quote and every outcome that the
earlier one had reached, with its instants. -/
structure Remembers (row row' : Preparation) : Prop where
  quote : SameQuote row row'
  active : row.state = .active → row'.state = .active ∧ row'.activatedAt = row.activatedAt ∧
    row'.paymentDeadline = row.paymentDeadline
  voided : row.state = .voided → row'.state = .voided ∧ row'.voidedAt = row.voidedAt
  resolved : row.resolvedAt.isSome →
    row'.businessOutcome = row.businessOutcome ∧ row'.resolvedAt = row.resolvedAt

namespace Remembers

theorem refl (row : Preparation) : Remembers row row :=
  ⟨.refl row, fun h => ⟨h, rfl, rfl⟩, fun h => ⟨h, rfl⟩, fun _ => ⟨rfl, rfl⟩⟩

theorem trans {a b c : Preparation} (first : Remembers a b) (second : Remembers b c) :
    Remembers a c := by
  refine ⟨first.quote.trans second.quote, fun active => ?_, fun voided => ?_, fun resolved => ?_⟩
  · obtain ⟨active', at', deadline⟩ := first.active active
    obtain ⟨active'', at'', deadline'⟩ := second.active active'
    exact ⟨active'', at''.trans at', deadline'.trans deadline⟩
  · obtain ⟨voided', at'⟩ := first.voided voided
    obtain ⟨voided'', at''⟩ := second.voided voided'
    exact ⟨voided'', at''.trans at'⟩
  · obtain ⟨outcome, at'⟩ := first.resolved resolved
    obtain ⟨outcome', at''⟩ := second.resolved (at' ▸ resolved)
    exact ⟨outcome'.trans outcome, at''.trans at'⟩

end Remembers

structure SameCreator (row row' : CreatorRow) : Prop where
  id : row'.id = row.id
  creatorLookupHash : row'.creatorLookupHash = row.creatorLookupHash
  counter : row.nextChildIndex ≤ row'.nextChildIndex

theorem SameCreator.refl (row : CreatorRow) : SameCreator row row :=
  ⟨rfl, rfl, le_rfl⟩

theorem SameCreator.trans {a b c : CreatorRow} (first : SameCreator a b)
    (second : SameCreator b c) : SameCreator a c :=
  ⟨second.id.trans first.id, second.creatorLookupHash.trans first.creatorLookupHash,
    first.counter.trans second.counter⟩

theorem CreatorMoves.same_creator {operation : Operation} {row row' : CreatorRow}
    (moves : CreatorMoves operation row row') : SameCreator row row' := by
  cases moves with
  | kept => exact ⟨rfl, rfl, le_rfl⟩
  | advanced => exact ⟨rfl, rfl, (Int.lt_succ _).le⟩

theorem Moves.remembers {store : Store} {operation : Operation} {row row' : Preparation}
    (moves : Moves store operation row row') : Remembers row row' := by
  cases moves with
  | same => exact .refl row
  | completed =>
    exact ⟨⟨rfl, rfl, rfl, rfl, rfl, rfl, rfl, rfl⟩, fun h => ⟨h, rfl, rfl⟩, fun h => ⟨h, rfl⟩,
      fun _ => ⟨rfl, rfl⟩⟩
  | voided =>
    rename_i prepared
    refine ⟨⟨rfl, rfl, rfl, rfl, rfl, rfl, rfl, rfl⟩, fun h => ?_, fun h => ?_,
      fun _ => ⟨rfl, rfl⟩⟩ <;> (rw [prepared] at h; cases h)
  | activated =>
    rename_i prepared _ _ _
    refine ⟨⟨rfl, rfl, rfl, rfl, rfl, rfl, rfl, rfl⟩, fun h => ?_, fun h => ?_,
      fun _ => ⟨rfl, rfl⟩⟩ <;> (rw [prepared] at h; cases h)
  | resolved =>
    rename_i unresolved
    refine ⟨⟨rfl, rfl, rfl, rfl, rfl, rfl, rfl, rfl⟩, fun h => ⟨h, rfl, rfl⟩,
      fun h => ⟨h, rfl⟩, fun h => ?_⟩
    rw [unresolved.2] at h
    cases h

section Runs

variable {hash : LookupHash} {row : Preparation}

theorem effect_creatorByHash {d : Deployment} {store store' : Store} {operation : Operation}
    {creator : CreatorRow} (effect : Effect d store operation store')
    (found : store.creatorByHash hash = some creator) :
    ∃ creator', store'.creatorByHash hash = some creator' ∧ SameCreator creator creator' := by
  have stable : ∀ row row', CreatorMoves operation row row' →
      some row'.creatorLookupHash = some row.creatorLookupHash :=
    fun _ _ moves => congrArg some moves.same_creator.creatorLookupHash
  obtain ⟨creator', found', moves⟩ := ((operate_creators effect).lookup stable).1 creator found
  exact ⟨creator', found', moves.same_creator⟩

variable (d : Deployment) {store : Store} (operations : List Operation)

theorem run_preparations : Grows Remembers (fun _ => True) store.preparations.rows
    ((ledger d).run store operations).preparations.rows := by
  refine ledger_invariant (P := fun later => Grows Remembers (fun _ => True)
    store.preparations.rows later.preparations.rows) ?_ (.refl fun row _ => .refl row)
  intro later operation later' grows done
  exact grows.trans (operate_preparations (operate_effect done))
    (fun _ _ _ remembers moves => remembers.trans moves.remembers) (fun _ _ _ _ => trivial)
    fun _ _ => trivial

theorem run_creators : Grows SameCreator (fun _ => True) store.creators.rows
    ((ledger d).run store operations).creators.rows := by
  refine ledger_invariant (P := fun later => Grows SameCreator (fun _ => True)
    store.creators.rows later.creators.rows) ?_ (.refl fun row _ => .refl row)
  intro later operation later' grows done
  exact grows.trans (operate_creators (operate_effect done))
    (fun _ _ _ same moves => same.trans moves.same_creator) (fun _ _ _ _ => trivial)
    fun _ _ => trivial

theorem run_preparation {id : Uuid} (found : store.preparation id = some row) :
    ∃ row', ((ledger d).run store operations).preparation id = some row' ∧ Remembers row row' :=
  ((run_preparations d operations).lookup fun _ _ remembers => congrArg some remembers.quote.id).1 row found

theorem run_creatorByHash {creator : CreatorRow} (found : store.creatorByHash hash = some creator) :
    ∃ creator', ((ledger d).run store operations).creatorByHash hash = some creator' ∧
      SameCreator creator creator' :=
  ((run_creators d operations).lookup fun _ _ same => congrArg some same.creatorLookupHash).1 creator found

theorem run_preparationByOperation {creatorId : Uuid}
    (found : preparationByOperation store creatorId hash = some row) :
    ∃ row', preparationByOperation ((ledger d).run store operations) creatorId hash = some row' ∧
      Remembers row row' := by
  refine ((run_preparations d operations).lookup fun row row' remembers => ?_).1 row found
  rw [remembers.quote.creatorId, remembers.quote.operationLookupHash]

theorem run_loadLifecycleLocked {creator : String} {id : Uuid} {owner : CreatorRow}
    (loaded : loadLifecycleLocked d.crypto store creator id = some (owner, row)) :
    ∃ owner' row',
      loadLifecycleLocked d.crypto ((ledger d).run store operations) creator id =
        some (owner', row') ∧ SameCreator owner owner' ∧ Remembers row row' := by
  obtain ⟨found, stored, owned⟩ := loadLifecycleLocked_some loaded
  obtain ⟨owner', found', same⟩ := run_creatorByHash d operations found
  obtain ⟨row', stored', remembers⟩ := run_preparation d operations stored
  refine ⟨owner', row', ?_, same, remembers⟩
  rw [loadLifecycleLocked, found', stored']
  exact if_pos (by rw [remembers.quote.creatorId, owned, same.id])

end Runs

section Repeats

variable {d : Deployment} {store store' : Store} {row row' : Preparation}

theorem validateReplay_congr (same : SameQuote row row') (input : MarketplacePreparationInput) :
    validateReplay d.crypto d.sdk input row' = validateReplay d.crypto d.sdk input row := by
  obtain ⟨h1, h2, h3, h4, h5, h6, h7, h8⟩ := same
  cases row
  cases row'
  dsimp only at h1 h2 h3 h4 h5 h6 h7 h8
  subst h1 h2 h3 h4 h5 h6 h7 h8
  rfl

theorem decodeLifecycleEnvelope_congr (same : SameQuote row row')
    (decoded : decodeLifecycleEnvelope d.sdk row = .ok row.envelope) :
    decodeLifecycleEnvelope d.sdk row' = .ok row'.envelope := by
  obtain ⟨h1, h2, h3, h4, h5, h6, h7, h8⟩ := same
  cases row
  cases row'
  dsimp only at h1 h2 h3 h4 h5 h6 h7 h8
  subst h1 h2 h3 h4 h5 h6 h7 h8
  exact decoded

def Answers (d : Deployment) (store : Store) (input : MarketplacePreparationInput)
    (result : MarketplacePreparationResult) : Prop :=
  ∃ creator row, store.creatorByHash (textHash d.crypto input.creator) = some creator ∧
    0 ≤ creator.nextChildIndex ∧
    preparationByOperation store creator.id (textHash d.crypto input.operationId) = some row ∧
    validateReplay d.crypto d.sdk input row = .ok result

variable {input : MarketplacePreparationInput} {result : MarketplacePreparationResult}
  {creator : String} {id : Uuid} {owner : CreatorRow} {outcome : MarketplaceResolutionOutcome}

theorem Answers.run (answers : Answers d store input result) (operations : List Operation) :
    Answers d ((ledger d).run store operations) input result := by
  obtain ⟨creator, row, found, counted, stored, replayed⟩ := answers
  obtain ⟨creator', found', same⟩ := run_creatorByHash d operations found
  obtain ⟨row', stored', remembers⟩ := run_preparationByOperation d operations stored
  rw [← same.id] at stored'
  exact ⟨creator', row', found', counted.trans same.counter, stored',
    (validateReplay_congr remembers.quote input).trans replayed⟩

theorem validateReplay_quoted {creator : CreatorRow} {intent : DeliveryIntentV1}
    (quote : Quoted d.sdk store input creator intent result)
    (lifetime : input.prepareTtlSeconds < 2 ^ 63) (counted : 0 ≤ creator.nextChildIndex)
    (inRange : OffsetDateTime.inRange result.prepareExpiresAt = true) :
    validateReplay d.crypto d.sdk input (quotedPreparation d.crypto input creator intent result) =
      .ok { result with replayed := true } := by
  have terms : result.terms.amount = input.amount ∧ result.terms.asset = input.asset := by
    obtain ⟨_, _, terms⟩ := bind_eq_ok.mp quote.terms
    obtain ⟨_, _, terms⟩ := bind_eq_ok.mp terms
    rw [← Except.ok.inj terms]
    exact ⟨rfl, rfl⟩
  obtain ⟨-, prepared⟩ := OffsetDateTime.checkedAdd_eq_some.mp quote.lifetime
  have expires : result.prepareExpiresAt = result.preparedAt + seconds input.prepareTtlSeconds := by
    rw [prepared, neg_add_cancel_right]
  have stored : lifetimeStored
      (quotedPreparation d.crypto input creator intent result).envelope
      (quotedPreparation d.crypto input creator intent result) :=
    ⟨lifetime, rfl, rfl, OffsetDateTime.checkedAdd_eq_some.mpr ⟨expires ▸ inRange, expires⟩⟩
  refine bind_eq_ok.mpr ⟨(), ensure_eq_ok.mpr rfl, ?_⟩
  refine bind_eq_ok.mpr ⟨(), ensure_eq_ok.mpr rfl, ?_⟩
  refine bind_eq_ok.mpr ⟨(), ensure_eq_ok.mpr rfl, ?_⟩
  refine bind_eq_ok.mpr ⟨(), ensure_eq_ok.mpr ⟨rfl, rfl, rfl, rfl, rfl, ?_, rfl, stored, counted⟩, ?_⟩
  · simp [termsMatch, quotedPreparation, newPreparation, newEnvelope, terms]
  · exact bind_eq_ok.mpr ⟨result.quote, quote.quote, rfl⟩

theorem prepareQuoted_answers {acceptedAgo : Option Nat}
    (called : prepareQuoted d.crypto d.sdk store input acceptedAgo = .ok (result, store')) :
    Answers d store' input { result with replayed := true } := by
  obtain ⟨deadline, inRange, done⟩ : ∃ deadline,
      (∀ instant ∈ deadline, OffsetDateTime.inRange instant = true) ∧
        prepare d.crypto d.sdk store { input with prepareDeadline := deadline } =
          .ok (result, store') := by
    cases acceptedAgo with
    | none => exact ⟨none, by simp, called⟩
    | some waited =>
      obtain ⟨deadline, fixed, done⟩ := bind_eq_ok.mp called
      obtain ⟨inRange, sum⟩ := OffsetDateTime.checkedAdd_eq_some.mp (demand_eq_ok.mp fixed)
      refine ⟨some deadline, fun instant same => ?_, done⟩
      rw [← Option.mem_some.mp same, sum]
      exact inRange
  obtain ⟨⟨-, -, -, -, lifetime⟩, counted⟩ := prepare_checked done
  obtain ⟨creator, found, ⟨row, stored, replayed, rfl⟩ | ⟨free, inserted⟩⟩ := prepare_ok done
  · refine ⟨creator, row, found, counted creator found, stored, ?_⟩
    have answer := (validateReplay_ok replayed).2
    rw [answer] at replayed ⊢
    exact replayed
  · obtain ⟨intent, preparations, columns, creators, same, rows, -, advanced, quote⟩ :=
      insertPreparation_ok inserted
    obtain ⟨creator', found', kept⟩ := effect_creatorByHash (prepare_effect called) found
    refine ⟨creator', quotedPreparation d.crypto { input with prepareDeadline := deadline } creator
      intent result, found', (counted creator found).trans kept.counter, ?_, ?_⟩
    · rw [preparationByOperation, same, kept.id]
      refine (congrArg (lookup _ _) rows).trans ?_
      rw [lookup_append, show lookup _ _ _ = _ from free]
      exact if_pos rfl
    · have answer := validateReplay_quoted quote lifetime (counted creator found)
        (inRange _ quote.deadline)
      exact answer

theorem Answers.prepare (answers : Answers d store input result)
    (asked : input.operationId ≠ "" ∧ input.requestBinding ≠ [] ∧ input.paymentWindowSeconds ≠ 0 ∧
      input.prepareTtlSeconds ≠ 0 ∧ input.prepareTtlSeconds < 2 ^ 63)
    (deadline : Option OffsetDateTime) (payloads : PayloadFactory) :
    prepare d.crypto d.sdk store { input with prepareDeadline := deadline, payloads := payloads } =
      .ok (result, store) := by
  obtain ⟨creator, row, found, counted, stored, replayed⟩ := answers
  refine bind_eq_ok.mpr ⟨(), ensure_eq_ok.mpr asked, ?_⟩
  refine bind_eq_ok.mpr ⟨creator, demand_eq_ok.mpr found, ?_⟩
  refine bind_eq_ok.mpr ⟨(), ensure_eq_ok.mpr counted, ?_⟩
  dsimp only
  rw [stored]
  exact bind_eq_ok.mpr ⟨result, replayed, rfl⟩

theorem loadLifecycleLocked_updated
    {condition : Preparation → Bool} {update : Preparation → Preparation}
    (loaded : loadLifecycleLocked d.crypto store creator id = some (owner, row))
    (creators : store'.creators = store.creators)
    (rows : store'.preparations.rows = updateWhere condition update store.preparations.rows)
    (met : condition row = true) (same : ∀ row, (update row).id = row.id)
    (owned : (update row).creatorId = row.creatorId) :
    loadLifecycleLocked d.crypto store' creator id = some (owner, update row) := by
  obtain ⟨found, stored, owner'⟩ := loadLifecycleLocked_some loaded
  have stored' : store'.preparation id = some (update row) := by
    unfold Store.preparation at stored ⊢
    rw [rows, lookup_updateWhere, stored, Option.map_some, met]
    · rfl
    · exact fun row _ => congrArg some (same row)
  have found' : store'.creatorByHash (textHash d.crypto creator) = some owner := by
    rw [Store.creatorByHash, creators]
    exact found
  rw [loadLifecycleLocked, found', stored']
  exact if_pos (owned.trans owner')

theorem void_voided {voidedAt : OffsetDateTime}
    (loaded : loadLifecycleLocked d.crypto store creator id = some (owner, row))
    (decoded : decodeLifecycleEnvelope d.sdk row = .ok row.envelope) (voided : row.state = .voided)
    (stored : row.voidedAt = some voidedAt) (operations : List Operation) :
    void d.crypto d.sdk ((ledger d).run store operations) creator id =
      .ok (some ⟨row.id, voidedAt, true⟩, (ledger d).run store operations) := by
  obtain ⟨_, row', loaded', -, remembers⟩ := run_loadLifecycleLocked d operations loaded
  obtain ⟨voided', stored'⟩ := remembers.voided voided
  rw [void, loaded']
  refine bind_eq_ok.mpr ⟨row'.envelope,
    persist_eq_ok.mpr (decodeLifecycleEnvelope_congr remembers.quote decoded), ?_⟩
  rw [voided', stored', stored, ← remembers.quote.id]
  rfl

theorem void_repeats {result : MarketplaceVoidResult}
    (done : void d.crypto d.sdk store creator id = .ok (some result, store'))
    (operations : List Operation) :
    void d.crypto d.sdk ((ledger d).run store' operations) creator id =
      .ok (some { result with replayed := true }, (ledger d).run store' operations) := by
  obtain ⟨missing, -⟩ | ⟨owner, row, voidedAt, loaded, decoded, change⟩ := void_ok done
  · cases missing
  obtain ⟨voided, stored, rfl, answer⟩ | ⟨-, rfl, answer, written⟩ := change
  · cases answer
    exact void_voided loaded decoded voided stored operations
  · cases answer
    obtain ⟨preparations, columns, same, rows, -⟩ := Store.writePreparations_ok written
    have written' : store'.preparations.rows = _ := (congrArg (·.preparations.rows) same).trans rows
    have loaded' := loadLifecycleLocked_updated loaded (by rw [same]) written' (by simp)
      (fun _ => rfl) rfl
    have kept : SameQuote row (voidedPreparation row store.clock) :=
      ⟨rfl, rfl, rfl, rfl, rfl, rfl, rfl, rfl⟩
    exact void_voided loaded' (decodeLifecycleEnvelope_congr kept decoded) rfl rfl operations

theorem resolve_resolved {resolvedAt : OffsetDateTime}
    (loaded : loadLifecycleLocked d.crypto store creator id = some (owner, row))
    (decoded : decodeLifecycleEnvelope d.sdk row = .ok row.envelope)
    (known : row.businessOutcome = some outcome) (stored : row.resolvedAt = some resolvedAt)
    (operations : List Operation) :
    resolve d.crypto d.sdk ((ledger d).run store operations) creator id outcome =
      .ok (some ⟨row.id, outcome, resolvedAt, true⟩, (ledger d).run store operations) := by
  obtain ⟨_, row', loaded', -, remembers⟩ := run_loadLifecycleLocked d operations loaded
  obtain ⟨known', stored'⟩ := remembers.resolved (by rw [stored]; rfl)
  rw [resolve, loaded']
  refine bind_eq_ok.mpr ⟨row'.envelope,
    persist_eq_ok.mpr (decodeLifecycleEnvelope_congr remembers.quote decoded), ?_⟩
  rw [known', known, stored', stored, ← remembers.quote.id]
  exact bind_eq_ok.mpr ⟨(), ensure_eq_ok.mpr rfl, rfl⟩

/-- A resolution answers every later repetition as it answered first. -/
theorem resolve_repeats {result : MarketplaceResolutionResult}
    (done : resolve d.crypto d.sdk store creator id outcome = .ok (some result, store'))
    (operations : List Operation) :
    resolve d.crypto d.sdk ((ledger d).run store' operations) creator id outcome =
      .ok (some { result with replayed := true }, (ledger d).run store' operations) := by
  obtain ⟨missing, -⟩ | ⟨owner, row, resolvedAt, loaded, decoded, change⟩ := resolve_ok done
  · cases missing
  obtain ⟨known, stored, rfl, answer⟩ | ⟨open_, unresolved, rfl, answer, written⟩ := change
  · cases answer
    exact resolve_resolved loaded decoded known stored operations
  · cases answer
    obtain ⟨preparations, columns, same, rows, -⟩ := Store.writePreparations_ok written
    have written' : store'.preparations.rows = _ := (congrArg (·.preparations.rows) same).trans rows
    have loaded' := loadLifecycleLocked_updated loaded (by rw [same]) written'
      (by simp [open_, unresolved]) (fun _ => rfl) rfl
    have kept : SameQuote row (resolvedPreparation row outcome store.clock) :=
      ⟨rfl, rfl, rfl, rfl, rfl, rfl, rfl, rfl⟩
    exact resolve_resolved loaded' (decodeLifecycleEnvelope_congr kept decoded) rfl rfl operations

end Repeats

/-- What an activation has booked: the settlement its intent offers and a proposal that
expires after the activation and before the payment is due. -/
structure ActiveRecord (d : Deployment) (store : Store) (row : Preparation) : Prop where
  settled : ∃ stored, ∃ creator ∈ store.creators.rows,
    settlement store.db row.id = some stored ∧ stored.creatorId = row.creatorId ∧
      fromIntent d.sdk row.envelope.childIndex row.envelope.paymentRequestIntent =
        .ok stored.payment ∧
      stored.bitcoinAddressLookupHash = settlementAddressHash d.crypto stored.payment ∧
      creator.id = row.creatorId ∧
      stored.derivationIndexLookupHash = d.crypto.bitcoinDerivationIndexLookupHash
        creator.creatorLookupHash stored.payment.derivationIndex
  proposed : ∃ proposal activatedAt expiresAt deadline,
    lookup OutboxRow.marketplaceProposal row.id store.outbox.rows = some proposal ∧
      proposal.creatorId = row.creatorId ∧ row.activatedAt = some activatedAt ∧
      row.paymentDeadline = some deadline ∧
      proposal.intent.proposalExpiresAt = some expiresAt ∧ activatedAt < expiresAt ∧
      expiresAt < deadline ∧ deadline = activatedAt + seconds row.envelope.paymentWindowSeconds

structure Booked (d : Deployment) (store : Store) : Prop where
  idle : ∀ p, (∀ row, store.preparation p = some row → row.state ≠ .active) →
    settlement store.db p = none ∧
      lookup OutboxRow.marketplaceProposal p store.outbox.rows = none
  active : ∀ row ∈ store.preparations.rows, row.state = .active → ActiveRecord d store row

theorem SameDelivery.marketplaceProposal {row row' : OutboxRow} (same : SameDelivery row row') :
    row'.marketplaceProposal = row.marketplaceProposal := by
  rw [OutboxRow.marketplaceProposal, same.intentKind, same.marketplacePreparationId]
  rfl

theorem activatedAt_isSome_iff {row : Preparation} (checks : row.columns.Checks) :
    row.activatedAt.isSome ↔ row.state = .active := by
  cases state : row.state with
  | active =>
    simp only [Preparation.columns, PreparationRow.Checks, state] at checks
    obtain ⟨activated, member, -⟩ := checks
    simp [Option.mem_def.mp member]
  | prepared | voided =>
    simp only [Preparation.columns, PreparationRow.Checks, state] at checks
    simp [checks.1]

section Booking

variable {d : Deployment} {store store' : Store} {operation : Operation} {row row' : Preparation}

theorem operate_settlements (effect : Effect d store operation store') :
    Grows Settlement.SameSettlement
      (fun row => ∃ input, operation = .activate input ∧ row.preparationId = input.invoiceId)
      store.db.settlements.rows store'.db.settlements.rows := by
  cases effect with
  | activated input creator row =>
    rename_i stored _ _ _ _ _ settled _ _ _
    rw [settled]
    exact .concat (fun row _ => .refl row) ⟨input, rfl, Store.preparation_id stored⟩
  | observed observation db done =>
    exact (observe_settlements done).2.2.mono (fun _ _ _ => id) fun _ => False.elim
  | _ => exact .refl fun row _ => .refl row

theorem operate_proposals (effect : Effect d store operation store') :
    Grows SameDelivery
      (fun row => ∀ p, row.marketplaceProposal = some p →
        ∃ input, operation = .activate input ∧ input.invoiceId = p)
      store.outbox.rows store'.outbox.rows := by
  refine (operate_outbox effect).mono (fun _ _ _ rewrites => rewrites.delivery) ?_
  intro row enqueued p proposal
  cases enqueued with
  | marketplaceProposal input => exact ⟨input, rfl, Option.some.inj proposal⟩
  | invoiceProposal | rotationCancellation | drainCancellation => cases proposal

variable {input : MarketplaceActivationInput} {result : MarketplaceActivationResult}

theorem activate_books (effect : Effect d store (.activate input) store') :
    store' = store ∨ ∃ row', store'.preparation input.invoiceId = some row' ∧
      row'.state = .active ∧ ActiveRecord d store' row' := by
  cases effect with
  | unchanged => exact .inl rfl
  | admitted _ isAdmission => cases isAdmission
  | drainRead _ isDrain => cases isDrain
  | activated _ creator row intent payment reference proposalExpiresAt paymentDeadline preparations
      columns settlements outbox found stored owned prepared fixed rows projected settled enqueued
      acceptance decoded =>
      refine .inr ⟨activatedPreparation row store.clock paymentDeadline, ?_, rfl, ?_, ?_⟩
      · have named := Store.preparation_id stored
        unfold Store.preparation at stored ⊢
        rw [rows, lookup_updateOne, if_pos named.symm, stored]
        · rfl
        · exact fun _ => rfl
      · have index := fromIntent_ok fixed.payment
        have offered := fixed.payment
        rw [fromIntent_setDeadlines fixed.deadlines] at offered
        have record : (newSettlement creator row payment).record = payment := by
          rw [NewPayment.record, newSettlement, ← index.1]
        refine ⟨(newSettlement creator row payment).settlementRow d.crypto row.id, creator, found,
          ?_, owned.symm, ?_, ?_, owned.symm, ?_⟩
        · refine (lookup_eq_some_iff settlements.valid.1).mpr ⟨?_, rfl⟩
          rw [settled]
          exact List.mem_append_right _ (List.mem_singleton_self _)
        · exact offered.trans (congrArg Except.ok record.symm)
        · rfl
        · rfl
      · obtain ⟨due, expires⟩ := activationTimes_ok fixed.times
        obtain ⟨ordered, terms, reported, -, same, -⟩ := setDeadlines_ok fixed.deadlines
        obtain ⟨_, checked, -⟩ := bind_eq_ok.mp decoded
        have window := seconds_pos (ensure_eq_ok.mp checked).2.2.1
        have accepted := seconds_pos acceptance
        refine ⟨proposalOutboxRow store.db.nextUuid creator.id none (some row.id) intent
            (d.crypto.paymentRequestProposalLookupHash reference) store.clock,
          store.clock, proposalExpiresAt, paymentDeadline,
          (lookup_eq_some_iff outbox.valid.2.1).mpr ⟨?_, rfl⟩, owned.symm, rfl, rfl, ?_, ?_,
          ordered, due⟩
        · rw [enqueued]
          exact List.mem_append_right _ (List.mem_singleton_self _)
        · rw [proposalOutboxRow, same]
          rfl
        · rw [expires]
          exact Int.lt_add_of_pos_right _ (lt_min (by omega) (by omega))

theorem ActiveRecord.carried (record : ActiveRecord d store row) (active : row.state = .active)
    (remembers : Remembers row row') (effect : Effect d store operation store') :
    ActiveRecord d store' row' := by
  obtain ⟨stored, creator, found, settled, owner, offered, address, named, derived⟩ :=
    record.settled
  obtain ⟨proposal, activatedAt, expiresAt, deadline, proposed, sender, activated, due, expires,
    order⟩ := record.proposed
  obtain ⟨-, sameActivation, sameDeadline⟩ := remembers.active active
  have quote := remembers.quote
  refine ⟨?_, ?_⟩
  · obtain ⟨stored', settled', same⟩ := ((operate_settlements effect).lookup
      fun _ _ same => congrArg some same.preparationId).1 stored settled
    obtain ⟨creator', found', moves⟩ := (operate_creators effect).mem found
    have kept := moves.same_creator
    refine ⟨stored', creator', found', quote.id ▸ settled', ?_, ?_, ?_, ?_, ?_⟩
    · rw [same.creatorId, owner, quote.creatorId]
    · rw [quote.envelope, offered, same.payment]
    · rw [same.addressHash, address, same.payment]
    · rw [kept.id, named, quote.creatorId]
    · rw [same.derivationHash, derived, kept.creatorLookupHash, same.payment]
  · obtain ⟨proposal', proposed', same⟩ := ((operate_proposals effect).lookup
      fun _ _ same => same.marketplaceProposal).1 proposal proposed
    refine ⟨proposal', activatedAt, expiresAt, deadline, quote.id ▸ proposed', ?_,
      sameActivation.trans activated, sameDeadline.trans due, ?_, order.1, order.2.1, ?_⟩
    · rw [same.creatorId, sender, quote.creatorId]
    · rw [same.intent, expires]
    · rw [quote.envelope]
      exact order.2.2

theorem booked_step (booked : Booked d store) (effect : Effect d store operation store') :
    Booked d store' := by
  refine ⟨fun p idle => ?_, fun row' member active' => ?_⟩
  · -- an activation would have made the preparation active
    have activates : ∀ input, operation = .activate input → input.invoiceId = p →
        store' = store := by
      rintro input rfl rfl
      obtain same | ⟨row', stored, active, -⟩ := activate_books effect
      · exact same
      · exact absurd active (idle row' stored)
    have before : ∀ row, store.preparation p = some row → row.state ≠ .active := by
      intro row found active
      obtain ⟨row', found', moves⟩ := ((operate_preparations effect).lookup
        fun _ _ moves => congrArg some moves.remembers.quote.id).1 row found
      exact idle row' found' (moves.remembers.active active).1
    obtain ⟨unsettled, unproposed⟩ := booked.idle p before
    refine ⟨Option.eq_none_iff_forall_ne_some.mpr fun new found => ?_,
      Option.eq_none_iff_forall_ne_some.mpr fun new found => ?_⟩
    · obtain ⟨input, activate, owned⟩ := ((operate_settlements effect).lookup
        fun _ _ same => congrArg some same.preparationId).2 unsettled new found
      have key := lookup_key found
      rw [activates input activate (owned.symm.trans (Option.some.inj key))] at found
      exact absurd (unsettled.symm.trans found) (by simp)
    · obtain ⟨input, activate, owned⟩ := ((operate_proposals effect).lookup
        fun _ _ same => same.marketplaceProposal).2 unproposed new found p (lookup_key found)
      rw [activates input activate owned] at found
      exact absurd (unproposed.symm.trans found) (by simp)
  · rcases (operate_preparations effect).of_mem member with ⟨row, stored, moves⟩ | quotes
    · by_cases active : row.state = .active
      · exact (booked.active row stored active).carried active moves.remembers effect
      · cases moves with
        | activated input _ _ named =>
          obtain rfl | ⟨other, found, -, record⟩ := activate_books effect
          · exact booked.active _ member active'
          · obtain rfl := store'.preparations.valid.1.eq_of_key member (lookup_mem found)
              (congrArg some named) (congrArg some (Store.preparation_id found))
            exact record
        | voided => cases active'
        | same | completed | resolved => exact absurd active' active
    · cases quotes
      cases active'

theorem booked_storeAfter (d : Deployment) (start : OffsetDateTime) (operations : List Operation) :
    Booked d (storeAfter d start operations) := by
  refine storeAfter_invariant ⟨fun _ _ => ⟨rfl, rfl⟩, ?_⟩ fun _ _ _ booked done =>
    booked_step booked (operate_effect done)
  intro row member
  cases member

theorem booked_run (booked : Booked d store) (operations : List Operation) :
    Booked d ((ledger d).run store operations) :=
  ledger_invariant (fun _ _ _ booked done => booked_step booked (operate_effect done)) booked

theorem run_proposals (d : Deployment) (operations : List Operation) :
    Grows SameDelivery (fun _ => True) store.outbox.rows
      ((ledger d).run store operations).outbox.rows := by
  refine ledger_invariant (P := fun later => Grows SameDelivery (fun _ => True)
    store.outbox.rows later.outbox.rows) ?_ (.refl fun row _ => .refl row)
  intro later operation later' grows done
  exact grows.trans (operate_proposals (operate_effect done)) (fun _ _ _ => .trans)
    (fun _ _ _ _ => trivial) fun _ _ => trivial

theorem proposalCount_one {proposal : OutboxRow}
    (proposed : lookup OutboxRow.marketplaceProposal row.id store.outbox.rows = some proposal)
    (sender : proposal.creatorId = row.creatorId) : proposalCount store row = 1 := by
  have one := filter_eq_toList (k := row.id) store.outbox.valid.2.1
  rw [proposed] at one
  have both : (store.outbox.rows.filter fun outbox => outbox.marketplaceProposal = some row.id ∧
      outbox.creatorId = row.creatorId) =
      (store.outbox.rows.filter fun outbox => outbox.marketplaceProposal = some row.id).filter
        fun outbox => outbox.creatorId = row.creatorId := by
    rw [List.filter_filter]
    congr 1
    funext outbox
    simp [and_comm]
  rw [proposalCount, both, one]
  simp [sender]

theorem activate_active {owner : CreatorRow}
    {activatedAt deadline : OffsetDateTime} {quote : MarketplaceQuote} (booked : Booked d store)
    (asked : input.amount ≠ 0 ∧ input.proposalAcceptanceSeconds ≠ 0)
    (loaded : loadLifecycleLocked d.crypto store input.creator input.invoiceId = some (owner, row))
    (decoded : decodeLifecycleEnvelope d.sdk row = .ok row.envelope) (active : row.state = .active)
    (activated : row.activatedAt = some activatedAt) (due : row.paymentDeadline = some deadline)
    (terms : termsMatch row.envelope input.amount input.asset = true)
    (quoted : envelopeQuote d.sdk row.envelope = .ok quote) (operations : List Operation) :
    activate d.crypto d.sdk ((ledger d).run store operations) input =
      .ok (some ⟨row.id, activatedAt, deadline, row.envelope.terms, quote, true⟩,
        (ledger d).run store operations) := by
  obtain ⟨owner', row', loaded', -, remembers⟩ := run_loadLifecycleLocked d operations loaded
  obtain ⟨found, stored, owned⟩ := loadLifecycleLocked_some loaded'
  obtain ⟨active', sameActivation, sameDeadline⟩ := remembers.active active
  have same := remembers.quote
  have record := (booked_run booked operations).active row' (lookup_mem stored) active'
  obtain ⟨proposal, _, _, _, proposed, sender, -⟩ := record.proposed
  obtain ⟨booking, creator, creating, settled, settler, offered, address, named, derived⟩ :=
    record.settled
  refine bind_eq_ok.mpr ⟨(), ensure_eq_ok.mpr asked, ?_⟩
  rw [loaded']
  refine bind_eq_ok.mpr ⟨row'.envelope,
    persist_eq_ok.mpr (decodeLifecycleEnvelope_congr same decoded), ?_⟩
  rw [active']
  refine bind_eq_ok.mpr ⟨⟨row.id, activatedAt, deadline, row.envelope.terms, quote, true⟩, ?_, rfl⟩
  refine bind_eq_ok.mpr ⟨(), ensure_eq_ok.mpr (same.envelope ▸ terms), ?_⟩
  refine bind_eq_ok.mpr ⟨activatedAt, demand_eq_ok.mpr (sameActivation.trans activated), ?_⟩
  refine bind_eq_ok.mpr ⟨deadline, demand_eq_ok.mpr (sameDeadline.trans due), ?_⟩
  refine bind_eq_ok.mpr ⟨(), ensure_eq_ok.mpr (proposalCount_one proposed sender), ?_⟩
  refine bind_eq_ok.mpr ⟨(), persist_eq_ok.mpr ?_, ?_⟩
  · obtain rfl := (ledger d |>.run store operations).creators.valid.1.eq_of_key creating
      (lookup_mem found) (congrArg some named) (congrArg some owned.symm)
    refine bind_eq_ok.mpr ⟨booking, demand_eq_ok.mpr ?_, ?_⟩
    · rw [settled]
      simp [settler]
    · exact bind_eq_ok.mpr ⟨booking.payment, orFail_eq_ok.mpr offered,
        ensure_eq_ok.mpr ⟨rfl, address, derived⟩⟩
  refine bind_eq_ok.mpr ⟨quote, persist_eq_ok.mpr (same.envelope ▸ quoted), ?_⟩
  rw [same.id, same.envelope]
  rfl

theorem replayActivation_replayed {creator : CreatorRow} {envelope : PreparationEnvelope}
    (done : replayActivation d.crypto d.sdk store input creator row envelope = .ok result) :
    result.replayed = true := by
  obtain ⟨_, _, _, _, _, _, done⟩ := bind₃_eq_ok.mp done
  obtain ⟨_, _, _, _, _, _, done⟩ := bind₃_eq_ok.mp done
  cases done
  rfl

/-- An activation answers every later repetition as it answered first. -/
theorem activate_repeats (booked : Booked d store)
    (done : activate d.crypto d.sdk store input = .ok (some result, store'))
    (operations : List Operation) :
    activate d.crypto d.sdk ((ledger d).run store' operations) input =
      .ok (some { result with replayed := true }, (ledger d).run store' operations) := by
  have booked' := booked_step booked (activate_effect done)
  obtain ⟨missing, -⟩ | ⟨owner, row, answer, loaded, same, amount, acceptance, decoded, change⟩ :=
    activate_ok done
  · cases missing
  cases same
  obtain ⟨active, rfl, replayed⟩ | ⟨-, activated⟩ := change
  · obtain ⟨_, terms, activatedAt, activated, deadline, due, replayed⟩ := bind₃_eq_ok.mp replayed
    obtain ⟨_, _, _, _, quote, quoted, replayed⟩ := bind₃_eq_ok.mp replayed
    cases replayed
    exact activate_active booked ⟨amount, acceptance⟩ loaded decoded active
      (demand_eq_ok.mp activated) (demand_eq_ok.mp due) (ensure_eq_ok.mp terms)
      (persist_eq_ok.mp quoted) operations
  · obtain ⟨intent, payment, reference, proposalExpiresAt, preparations, columns, settlements,
      outbox, written, rows, -, -, -, identity, clock, fresh, terms, quoted, fixed⟩ :=
      activatePrepared_ok activated
    have written' : store'.preparations.rows = _ :=
      (congrArg (·.preparations.rows) written).trans rows
    have loaded' := loadLifecycleLocked_updated loaded (by rw [written]) written' (by simp)
      (fun _ => rfl) rfl
    have kept : SameQuote row (activatedPreparation row store.clock result.paymentDeadline) :=
      ⟨rfl, rfl, rfl, rfl, rfl, rfl, rfl, rfl⟩
    have answer := activate_active booked' ⟨amount, acceptance⟩ loaded'
      (decodeLifecycleEnvelope_congr kept decoded) rfl rfl rfl fixed.sameTerms quoted operations
    rw [answer, ← clock]
    obtain ⟨_, _, _, _, _, _⟩ := result
    dsimp only at identity terms
    subst identity terms
    rfl

end Booking

theorem proposals_eq (store : Store) (p : Uuid) :
    proposals store p = (lookup OutboxRow.marketplaceProposal p store.outbox.rows).toList :=
  filter_eq_toList store.outbox.valid.2.1

/-- Over any interleaving of calls, account rotations and everything else, a
preparation is never both activated and voided, is booked with one settlement and one
proposal exactly when it was activated, and keeps what it has reached. A call that
found its preparation is answered the same whenever it is repeated, and the repetition
changes nothing. -/
theorem preparation_settles_once (d : Deployment) (start : OffsetDateTime)
    (operations : List Operation) :
    (∀ p row, (storeAfter d start operations).preparation p = some row →
      ¬ (row.activatedAt.isSome ∧ row.voidedAt.isSome) ∧
      (row.activatedAt.isSome → (settlement (storeAfter d start operations).db p).isSome ∧
        (proposals (storeAfter d start operations) p).length = 1) ∧
      (row.activatedAt = none → settlement (storeAfter d start operations).db p = none ∧
        proposals (storeAfter d start operations) p = []) ∧
      ∀ later, ∃ row', (storeAfter d start (operations ++ later)).preparation p = some row' ∧
        Remembers row row') ∧
    (∀ input acceptedAgo result store',
      prepareQuoted d.crypto d.sdk (storeAfter d start operations) input acceptedAgo =
          .ok (result, store') →
        ∀ later deadline payloads,
          prepare d.crypto d.sdk ((ledger d).run store' later)
              { input with prepareDeadline := deadline, payloads := payloads } =
            .ok ({ result with replayed := true }, (ledger d).run store' later)) ∧
    (∀ input result store',
      activate d.crypto d.sdk (storeAfter d start operations) input = .ok (some result, store') →
        ∀ later, activate d.crypto d.sdk ((ledger d).run store' later) input =
          .ok (some { result with replayed := true }, (ledger d).run store' later)) ∧
    (∀ creator id result store',
      void d.crypto d.sdk (storeAfter d start operations) creator id = .ok (some result, store') →
        ∀ later, void d.crypto d.sdk ((ledger d).run store' later) creator id =
          .ok (some { result with replayed := true }, (ledger d).run store' later)) ∧
    ∀ creator id outcome result store',
      resolve d.crypto d.sdk (storeAfter d start operations) creator id outcome =
          .ok (some result, store') →
        ∀ later, resolve d.crypto d.sdk ((ledger d).run store' later) creator id outcome =
          .ok (some { result with replayed := true }, (ledger d).run store' later) := by
  have booked := booked_storeAfter d start operations
  refine ⟨fun p row found => ?_, fun input acceptedAgo result store' done later deadline payloads =>
    ?_, fun _ _ _ done later => activate_repeats booked done later,
    fun _ _ _ _ done later => void_repeats done later,
    fun _ _ _ _ _ done later => resolve_repeats done later⟩
  · have named := Store.preparation_id found
    obtain ⟨-, checks, voiding, -⟩ :=
      (storeAfter d start operations).preparations.valid.2.2 row (lookup_mem found)
    have activation := activatedAt_isSome_iff checks
    refine ⟨?_, ?_, ?_, ?_⟩
    · rintro ⟨activated, voided⟩
      have active := activation.mp activated
      rw [voiding.mp voided] at active
      cases active
    · intro activated
      have record := booked.active row (lookup_mem found) (activation.mp activated)
      obtain ⟨stored, _, -, settled, -⟩ := record.settled
      obtain ⟨proposal, _, _, _, proposed, -⟩ := record.proposed
      rw [named] at settled proposed
      rw [settled, proposals_eq, proposed]
      exact ⟨rfl, rfl⟩
    · intro unactivated
      obtain ⟨unsettled, unproposed⟩ := booked.idle p fun other same active => by
        rw [found] at same
        cases same
        have activated := activation.mpr active
        rw [unactivated] at activated
        cases activated
      rw [proposals_eq, unproposed]
      exact ⟨unsettled, rfl⟩
    · intro later
      rw [storeAfter_append]
      exact run_preparation d later found
  · have asked : input.operationId ≠ "" ∧ input.requestBinding ≠ [] ∧
        input.paymentWindowSeconds ≠ 0 ∧ input.prepareTtlSeconds ≠ 0 ∧
        input.prepareTtlSeconds < 2 ^ 63 := by
      cases acceptedAgo with
      | none => exact (prepare_checked done).1
      | some waited =>
        obtain ⟨_, _, done⟩ := bind_eq_ok.mp done
        exact (prepare_checked done).1
    exact ((prepareQuoted_answers done).run later).prepare asked deadline payloads

/-- The call that quoted a preparation: its first one, accepted at the given time with
the given lifetime. -/
def QuotedAt (history : List (Transition Store Operation)) (p : Uuid)
    (acceptedAt : OffsetDateTime) (lifetime : Nat) : Prop :=
  ∃ transition ∈ history, ∃ input waited,
    transition.action = .prepare input (some waited) ∧
      transition.before.preparation p = none ∧ (transition.after.preparation p).isSome ∧
      acceptedAt = transition.before.clock - waited ∧ lifetime = input.prepareTtlSeconds

theorem quoted_storeAfter (d : Deployment) (start : OffsetDateTime) (operations : List Operation) :
    ∀ p row, (storeAfter d start operations).preparation p = some row → ∃ acceptedAt lifetime,
      QuotedAt (committedOperations d start operations) p acceptedAt lifetime ∧
        row.prepareExpiresAt = acceptedAt + seconds lifetime := by
  refine System.history_rule (s := Store.empty start) (fun history store => ∀ p row,
    store.preparation p = some row → ∃ acceptedAt lifetime,
      QuotedAt history p acceptedAt lifetime ∧
        row.prepareExpiresAt = acceptedAt + seconds lifetime) ?_ (fun _ _ found => by cases found)
  intro history store operation store' quoted done p row' found'
  have grows := (operate_preparations (operate_effect done)).lookup (k := p)
    fun _ _ moves => congrArg some moves.remembers.quote.id
  cases found : store.preparation p with
  | some row =>
    obtain ⟨other, same, moves⟩ := grows.1 row found
    obtain rfl : row' = other := Option.some.inj (found'.symm.trans same)
    obtain ⟨acceptedAt, lifetime, ⟨transition, past, quoting⟩, limit⟩ := quoted p row found
    refine ⟨acceptedAt, lifetime, ⟨transition, List.mem_append_left _ past, quoting⟩, ?_⟩
    rw [moves.remembers.quote.prepareExpiresAt, limit]
  | none =>
    cases grows.2 found row' found' with
    | quoted input waited creator intent result deadline fixed creating quote =>
      refine ⟨store.clock - waited, input.prepareTtlSeconds, ⟨_, List.mem_append_right _
        (List.mem_singleton_self _), input, waited, rfl, found, by rw [found']; rfl, rfl, rfl⟩,
        ?_⟩
      have limit := quote.deadline
      rw [(OffsetDateTime.checkedAdd_eq_some.mp fixed).2] at limit
      exact (Option.some.inj limit).symm

/-- A quote is a limit on the database clock that no replay moves: a preparation is
activated only before the accepted time plus the lifetime of its quote. The payment
deadline is fixed by the activation from the quoted window, the proposal expires
between the two, and none of these times changes later. -/
theorem activation_within_quote (d : Deployment) (start : OffsetDateTime)
    (operations : List Operation) :
    (∀ input result store',
      activate d.crypto d.sdk (storeAfter d start operations) input = .ok (some result, store') →
        result.replayed = false →
        ∃ row acceptedAt lifetime,
          (storeAfter d start operations).preparation input.invoiceId = some row ∧
          QuotedAt (committedOperations d start operations) input.invoiceId acceptedAt lifetime ∧
          (storeAfter d start operations).clock < acceptedAt + seconds lifetime ∧
          result.activatedAt = (storeAfter d start operations).clock ∧
          result.paymentDeadline = (storeAfter d start operations).clock +
            seconds row.envelope.paymentWindowSeconds ∧
          store'.preparation input.invoiceId =
            some (activatedPreparation row result.activatedAt result.paymentDeadline)) ∧
    ∀ p row, (storeAfter d start operations).preparation p = some row →
      (∃ acceptedAt lifetime,
        QuotedAt (committedOperations d start operations) p acceptedAt lifetime ∧
          row.prepareExpiresAt = acceptedAt + seconds lifetime) ∧
      (∀ activatedAt ∈ row.activatedAt, ∃ proposal expiresAt deadline,
        proposals (storeAfter d start operations) p = [proposal] ∧
          row.paymentDeadline = some deadline ∧
          proposal.intent.proposalExpiresAt = some expiresAt ∧ activatedAt < expiresAt ∧
          expiresAt < deadline ∧
          deadline = activatedAt + seconds row.envelope.paymentWindowSeconds) ∧
      ∀ later, ∃ row', (storeAfter d start (operations ++ later)).preparation p = some row' ∧
        row'.prepareExpiresAt = row.prepareExpiresAt ∧
        (row.activatedAt.isSome → row'.activatedAt = row.activatedAt ∧
          row'.paymentDeadline = row.paymentDeadline ∧
          (proposals (storeAfter d start (operations ++ later)) p).map (·.intent) =
            (proposals (storeAfter d start operations) p).map (·.intent)) := by
  have booked := booked_storeAfter d start operations
  have quotes := quoted_storeAfter d start operations
  refine ⟨fun input result store' done fresh => ?_, fun p row found => ?_⟩
  · obtain ⟨missing, -⟩ | ⟨owner, row, answer, loaded, same, -, -, -, change⟩ := activate_ok done
    · cases missing
    cases same
    obtain ⟨-, -, replayed⟩ | ⟨-, activated⟩ := change
    · rw [replayActivation_replayed replayed] at fresh
      cases fresh
    obtain ⟨_, stored, -⟩ := loadLifecycleLocked_some loaded
    obtain ⟨acceptedAt, lifetime, quoting, limit⟩ := quotes _ row stored
    obtain ⟨_, _, _, _, _, _, _, _, written, rows, -, -, -, -, clock, -, -, -, fixed⟩ :=
      activatePrepared_ok activated
    refine ⟨row, acceptedAt, lifetime, stored, quoting, limit ▸ fixed.inTime, clock,
      (activationTimes_ok fixed.times).1, ?_⟩
    have written' : store'.preparations.rows = _ :=
      (congrArg (·.preparations.rows) written).trans rows
    have loaded' := loadLifecycleLocked_updated loaded (by rw [written]) written' (by simp)
      (fun _ => rfl) rfl
    rw [clock]
    exact (loadLifecycleLocked_some loaded').2.1
  · have named := Store.preparation_id found
    obtain ⟨-, checks, -⟩ :=
      (storeAfter d start operations).preparations.valid.2.2 row (lookup_mem found)
    have activation := activatedAt_isSome_iff checks
    refine ⟨quotes p row found, fun activatedAt activated => ?_, fun later => ?_⟩
    · have active := activation.mp (Option.isSome_of_mem activated)
      obtain ⟨proposal, instant, expiresAt, deadline, proposed, -, stored, due, expires, order⟩ :=
        (booked.active row (lookup_mem found) active).proposed
      rw [named] at proposed
      obtain rfl : instant = activatedAt := Option.some.inj (stored.symm.trans activated)
      refine ⟨proposal, expiresAt, deadline, ?_, due, expires, order⟩
      rw [proposals_eq, proposed]
      rfl
    · rw [storeAfter_append]
      obtain ⟨row', found', remembers⟩ := run_preparation d later found
      refine ⟨row', found', remembers.quote.prepareExpiresAt, fun activated => ?_⟩
      have active := activation.mp activated
      obtain ⟨-, sameActivation, sameDeadline⟩ := remembers.active active
      refine ⟨sameActivation, sameDeadline, ?_⟩
      obtain ⟨proposal, _, _, _, proposed, -⟩ :=
        (booked.active row (lookup_mem found) active).proposed
      rw [named] at proposed
      obtain ⟨proposal', proposed', same⟩ := ((run_proposals d later).lookup
        fun _ _ same => same.marketplaceProposal).1 proposal proposed
      rw [proposals_eq, proposals_eq, proposed, proposed']
      exact congrArg (fun intent => [intent]) same.intent

end PaykitServer
