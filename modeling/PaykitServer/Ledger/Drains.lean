import PaykitServer.Ledger.Deliveries
import PaykitServer.Ledger.Requests

/-!
# Drains and the generations they freeze

A drain is created once per generation of a lock, its counts are refreshed by replays,
and a cleanup with its own token removes it and starts the next generation. Nothing
else touches drains or generations. `DrainsIntact` collects what every reachable store
keeps: a drain's frozen sets still stand, its counts add up, and the active generation
of its lock names it.
-/

namespace PaykitServer

open Domain Persistence Application
open MarketplacePreparations PaymentDrains Relational

def KeepsDrain (store store' : Store) (row : LockGenerationRow) : Prop :=
  ∀ drain ∈ store.drains.rows, row.activeDrainId = some drain.id →
    ∃ drain' ∈ store'.drains.rows, drain'.id = drain.id ∧ drain'.creatorId = drain.creatorId ∧
      drain'.lockResourceLookupHash = drain.lockResourceLookupHash

inductive GenerationMoves (store store' : Store) :
    Operation → LockGenerationRow → LockGenerationRow → Prop where
  | same (operation : Operation) (row : LockGenerationRow) (keeps : KeepsDrain store store' row) :
      GenerationMoves store store' operation row row
  | frozen (lock : PubkyLockResource) (evidence : Option (List String)) (row : LockGenerationRow)
      (drain : DrainRow) (free : row.activeDrainId = none)
      (own : drain.creatorId = row.creatorId ∧
        drain.lockResourceLookupHash = row.lockResourceLookupHash)
      (added : store'.drains.rows = store.drains.rows ++ [drain]) :
      GenerationMoves store store' (.createDrain lock evidence) row
        { row with activeDrainId := some drain.id }
  | ended (lock : PubkyLockResource) (token : LookupHash) (row : LockGenerationRow)
      (drain : DrainRow) (active : row.activeDrainId = some drain.id)
      (removed : store'.drains.rows = store.drains.rows.filter fun row => row.id ≠ drain.id) :
      GenerationMoves store store' (.cleanupDrain lock token) row (nextGeneration token row)

/-- The first generation of a lock, which only a drain created with it has frozen. -/
def FirstGeneration (store store' : Store) (row : LockGenerationRow) : Prop :=
  row.currentGeneration = 0 ∧ row.lastCleanupToken = none ∧ ∀ id ∈ row.activeDrainId,
    ∃ drain, drain.id = id ∧ store'.drains.rows = store.drains.rows ++ [drain] ∧
      drain.creatorId = row.creatorId ∧ drain.lockResourceLookupHash = row.lockResourceLookupHash

inductive DrainMoves (d : Deployment) (store store' : Store) : Operation → Prop where
  | kept (operation : Operation) (rows : store'.drains.rows = store.drains.rows) :
      DrainMoves d store store' operation
  | created (lock : PubkyLockResource) (evidence : Option (List String))
      (generation : LockGenerationRow) (drain : DrainRow)
      (rows : store'.drains.rows = store.drains.rows ++ [drain])
      (low : store.db.nextUuid ≤ drain.id) (high : drain.id < store'.db.nextUuid)
      (fenced : { generation with activeDrainId := some drain.id } ∈ store'.lockGenerations.rows)
      (freezes : Freezes store store'.outbox.rows lock generation drain) :
      DrainMoves d store store' (.createDrain lock evidence)
  | refreshed (operation : Operation) (isDrain : operation.isDrain = true)
      (lock : PubkyLockResource) (drain : DrainRow)
      (active : activeDrain d.crypto store lock = some drain) (falls : Falls store drain)
      (rows : store'.drains.rows = updateWhere (fun row => row.id = drain.id)
        (PaymentDrains.refreshed store drain.items) store.drains.rows)
      (same : store' = { store with drains := store'.drains }) :
      DrainMoves d store store' operation
  | removed (lock : PubkyLockResource) (token : LookupHash) (creator : CreatorRow)
      (generation : LockGenerationRow) (drain : DrainRow)
      (cleans : Cleans d.crypto store lock token creator generation drain)
      (ended : store'.lockGenerations.rows =
        updateWhere (isActive drain) (nextGeneration token) store.lockGenerations.rows)
      (rows : store'.drains.rows = store.drains.rows.filter fun row => row.id ≠ drain.id)
      (same : store' = { store with
        lockGenerations := store'.lockGenerations, drains := store'.drains }) :
      DrainMoves d store store' (.cleanupDrain lock token)

section Step

variable {d : Deployment} {store store' : Store} {operation : Operation}

variable {generation : LockGenerationRow}

private theorem freeze_grows {generations : Table LockGenerationRow LockGenerationConstraints}
    {rows : List LockGenerationRow} {creatorId id : Uuid} {lockHash : LookupHash}
    (current : lookup (fun row => some (row.creatorId, row.lockResourceLookupHash))
      (creatorId, lockHash) rows = some generation)
    (fenced : generations.rows = updateWhere
      (fun row => row.creatorId = generation.creatorId &&
        row.lockResourceLookupHash = generation.lockResourceLookupHash)
      (fun row => { row with activeDrainId := some id }) rows) :
    Grows (fun row row' => row' = row ∨ row = generation ∧
      row' = { row with activeDrainId := some id }) (fun _ => False) rows generations.rows := by
  have unique := generations.valid.1
  rw [fenced, uniqueIndex_updateWhere] at unique
  · rw [fenced]
    refine .updateWhere (fun _ _ _ => .inl rfl) fun row stored met => .inr ⟨?_, rfl⟩
    simp only [Bool.and_eq_true, decide_eq_true_eq] at met
    exact unique.eq_of_key stored (lookup_mem current) (congrArg some (Prod.ext met.1 met.2)) rfl
  · exact fun _ _ _ => rfl

private theorem ended_generation {lock : PubkyLockResource} {token : LookupHash}
    {creator : CreatorRow} {row : LockGenerationRow} {drain : DrainRow}
    (cleans : Cleans d.crypto store lock token creator generation drain)
    (stored : row ∈ store.lockGenerations.rows) (active : row.activeDrainId = some drain.id) :
    row = generation ∧ row.creatorId = drain.creatorId ∧
      row.lockResourceLookupHash = drain.lockResourceLookupHash := by
  obtain rfl := store.lockGenerations.valid.2.1.eq_of_key stored (lookup_mem cleans.current)
    active cleans.active
  have key := lookup_key cleans.current
  obtain ⟨own, hash⟩ := Prod.mk.inj (Option.some.inj key)
  exact ⟨rfl, own.trans cleans.own.1.symm, hash.trans cleans.own.2.1.symm⟩

theorem operate_generations (effect : Effect d store operation store') :
    Grows (GenerationMoves store store' operation) (FirstGeneration store store')
      store.lockGenerations.rows store'.lockGenerations.rows := by
  have kept : store'.drains = store.drains → ∀ row, KeepsDrain store store' row := by
    intro same row drain stored _
    rw [same]
    exact ⟨drain, stored, rfl, rfl, rfl⟩
  cases effect with
  | admitted _ _ _ _ _ _ _ _ _ _ _ _ _ _ fenced =>
    rw [fenced]
    exact .insertNew (fun row _ => .same _ row (kept rfl row))
      ⟨rfl, rfl, fun _ none => by cases none⟩
  | drained lock evidence creator drain generation generations drains outbox next found free low
      high inserted fenced current requires freezes =>
      have opened : Grows Eq (fun row => row.currentGeneration = 0 ∧ row.lastCleanupToken = none ∧
          row.activeDrainId = none) store.lockGenerations.rows
          (insertNew (fun row => row.creatorId = creator.id &&
              row.lockResourceLookupHash = textHash d.crypto lock.canonical)
            ⟨creator.id, textHash d.crypto lock.canonical, 0, none, none⟩
            store.lockGenerations.rows) := .insertNew (fun _ _ => rfl) ⟨rfl, rfl, rfl⟩
      refine opened.trans (freeze_grows current fenced) ?_ ?_ fun _ => False.elim
      · rintro row _ row' rfl (rfl | ⟨rfl, rfl⟩)
        · refine .same _ _ fun drain stored _ => ⟨drain, ?_, rfl, rfl, rfl⟩
          rw [inserted]
          exact List.mem_append_left _ stored
        · exact .frozen lock evidence row drain free ⟨freezes.creatorId, freezes.lockHash⟩ inserted
      · rintro row row' ⟨zero, untouched, free⟩ (rfl | ⟨rfl, rfl⟩)
        · exact ⟨zero, untouched, fun _ active => by rw [free] at active; cases active⟩
        · exact ⟨zero, untouched, fun _ active => ⟨drain, Option.some.inj active, inserted,
            freezes.creatorId, freezes.lockHash⟩⟩
  | drainRead _ _ lock drain drains _ _ rows =>
    refine .refl fun row _ => .same _ row fun other stored _ => ?_
    cases same : decide (other.id = drain.id) with
    | false => exact ⟨other, rows ▸ mem_updateWhere.mpr (.inl ⟨stored, same⟩), rfl, rfl, rfl⟩
    | true =>
      refine ⟨PaymentDrains.refreshed store drain.items other, ?_, rfl, rfl, rfl⟩
      exact rows ▸ mem_updateWhere.mpr (.inr ⟨other, stored, same, rfl⟩)
  | cleaned lock token creator generation drain generations drains cleans ended deleted =>
    rw [ended]
    refine .updateWhere (fun row stored unmet => ?_) fun row _ met => ?_
    · refine .same _ row fun other found active => ⟨other, ?_, rfl, rfl, rfl⟩
      rw [deleted]
      refine List.mem_filter.mpr ⟨found, decide_eq_true fun same => ?_⟩
      rw [same] at active
      obtain ⟨-, own, hash⟩ := ended_generation cleans stored active
      simp [isActive, own, hash, active] at unmet
    · exact .ended lock token row drain (isActive_iff.mp met).2.2 deleted
  | _ => exact .refl fun row _ => .same _ row (kept rfl row)

theorem operate_drains (effect : Effect d store operation store') :
    DrainMoves d store store' operation := by
  cases effect with
  | drained lock evidence creator drain generation generations drains outbox next found free low
      high inserted fenced current requires freezes =>
      refine .created lock evidence generation drain inserted low high ?_ freezes
      rw [fenced]
      refine mem_updateWhere.mpr (.inr ⟨generation, lookup_mem current, ?_, rfl⟩)
      simp
  | drainRead _ isDrain lock drain drains active falls rows =>
    exact .refreshed _ isDrain lock drain active falls rows rfl
  | cleaned lock token creator generation drain generations drains cleans ended deleted =>
    exact .removed lock token creator generation drain cleans ended deleted rfl
  | _ => exact .kept _ rfl

end Step

/-- What a stored drain keeps: its frozen sets stand, its counts add up to the requests
that await no cancellation, and the current generation of its lock names it. -/
structure DrainIntact (store : Store) (drain : DrainRow) : Prop where
  frozen : validateFrozenSets store drain = .ok ()
  total : drain.acceptedCount + drain.terminalCount =
    (drain.items.filter (·.classification ≠ .cancellationEnqueued)).length
  completed : drain.completed = decide (drain.acceptedCount = 0)
  drawn : drain.id < store.db.nextUuid
  active : ∃ generation ∈ store.lockGenerations.rows,
    generation.creatorId = drain.creatorId ∧
      generation.lockResourceLookupHash = drain.lockResourceLookupHash ∧
      generation.currentGeneration = drain.lockResourceGeneration ∧
      generation.activeDrainId = some drain.id

structure DrainsIntact (store : Store) : Prop where
  drains : ∀ drain ∈ store.drains.rows, DrainIntact store drain
  active : ∀ generation ∈ store.lockGenerations.rows, ∀ id ∈ generation.activeDrainId,
    ∃ drain ∈ store.drains.rows, drain.id = id ∧ drain.creatorId = generation.creatorId ∧
      drain.lockResourceLookupHash = generation.lockResourceLookupHash

section Intact

variable {d : Deployment} {store store' : Store} {operation : Operation} {drain : DrainRow}

theorem validateFrozenSets_ok : validateFrozenSets store drain = .ok () ↔
    (∀ cancellation ∈ drain.cancellations,
      (store.outboxRow cancellation.cancellationOutboxId).any (·.cancellationDrainRequired) = true) ∧
    ∀ item ∈ drain.items, (store.admission item.invoiceId).any (fun invoice =>
      invoice.creatorId = drain.creatorId &&
        invoice.lockResourceLookupHash = drain.lockResourceLookupHash &&
        invoice.lockResourceGeneration = drain.lockResourceGeneration) = true := by
  constructor
  · intro valid
    obtain ⟨_, cancellations, items⟩ := bind_eq_ok.mp valid
    exact ⟨ensure_eq_ok.mp cancellations, ensure_eq_ok.mp items⟩
  · rintro ⟨cancellations, items⟩
    exact bind_eq_ok.mpr ⟨(), ensure_eq_ok.mpr cancellations, ensure_eq_ok.mpr items⟩

theorem Rewrites.required_stays {next : Uuid} {row row' : OutboxRow}
    (rewrites : Rewrites store next operation row row')
    (required : row.cancellationDrainRequired = true) : row'.cancellationDrainRequired = true := by
  cases rewrites with
  | worked step => cases step <;> exact required
  | required => rfl
  | same | claimed | reclaimed | suppressed => exact required

theorem frozen_step (effect : Effect d store operation store')
    (frozen : validateFrozenSets store drain = .ok ()) :
    validateFrozenSets store' drain = .ok () := by
  obtain ⟨cancellations, items⟩ := validateFrozenSets_ok.mp frozen
  refine validateFrozenSets_ok.mpr ⟨fun cancellation member => ?_, fun item member => ?_⟩
  · obtain ⟨row, found, required⟩ := (Option.any_eq_true _ _).mp (cancellations cancellation member)
    obtain ⟨row', found', rewrites⟩ := outboxRow_rewritten effect found
    exact (Option.any_eq_true _ _).mpr ⟨row', found', rewrites.required_stays required⟩
  · obtain ⟨row, found, own⟩ := (Option.any_eq_true _ _).mp (items item member)
    obtain ⟨_, found', rfl⟩ :=
      ((operate_admissions effect).lookup fun _ _ same => by rw [same]).1 row found
    exact (Option.any_eq_true _ _).mpr ⟨row, found', own⟩

theorem active_step (effect : Effect d store operation store')
    (stored' : ∃ row ∈ store'.drains.rows, row.id = drain.id)
    (intact : DrainIntact store drain) : ∃ generation ∈ store'.lockGenerations.rows,
      generation.creatorId = drain.creatorId ∧
        generation.lockResourceLookupHash = drain.lockResourceLookupHash ∧
        generation.currentGeneration = drain.lockResourceGeneration ∧
        generation.activeDrainId = some drain.id := by
  obtain ⟨generation, stored, own, hash, current, active⟩ := intact.active
  obtain ⟨generation', member, moves⟩ := (operate_generations effect).mem stored
  cases moves with
  | same => exact ⟨generation, member, own, hash, current, active⟩
  | frozen _ _ _ _ free =>
    rw [free] at active
    cases active
  | ended _ _ _ other named removed =>
    obtain ⟨row, kept, same⟩ := stored'
    rw [removed] at kept
    have different := of_decide_eq_true (List.mem_filter.mp kept).2
    exact absurd (same.trans (Option.some.inj (active.symm.trans named))) different

theorem DrainIntact.step (intact : DrainIntact store drain)
    (effect : Effect d store operation store')
    (stored' : ∃ row ∈ store'.drains.rows, row.id = drain.id) : DrainIntact store' drain where
  frozen := frozen_step effect intact.frozen
  total := intact.total
  completed := intact.completed
  drawn := lt_of_lt_of_le intact.drawn (operate_advances effect).2
  active := active_step effect stored' intact

theorem frozenCounts_total (store : Store) (items : List DrainItem) :
    (frozenCounts store items).1 + (frozenCounts store items).2 =
      (items.filter (·.classification ≠ .cancellationEnqueued)).length := by
  simp only [frozenCounts]
  induction items with
  | nil => rfl
  | cons item items ih =>
    simp only [List.filter_cons]
    cases class_ : item.classification <;> cases done : settled store item.invoiceId <;>
      simp [DrainItem.isTerminal, class_, done] at ih ⊢ <;> omega

variable {lock : PubkyLockResource}

theorem activeDrain_some {crypto : Crypto} (active : activeDrain crypto store lock = some drain) :
    ∃ creator generation, store.creatorByHash (textHash crypto lock.creator) = some creator ∧
      drainByLock store creator.id (textHash crypto lock.canonical) = some drain ∧
      store.lockGeneration creator.id (textHash crypto lock.canonical) = some generation ∧
      generation.currentGeneration = drain.lockResourceGeneration ∧
      generation.activeDrainId = some drain.id := by
  obtain ⟨creator, found, active⟩ := Option.bind_eq_some_iff.mp active
  obtain ⟨stored, active⟩ := Option.filter_eq_some_iff.mp active
  obtain ⟨generation, current, named⟩ := (Option.any_eq_true _ _).mp active
  simp only [Bool.and_eq_true, decide_eq_true_eq] at named
  exact ⟨creator, generation, found, stored, current, named⟩

theorem activeDrain_mem {crypto : Crypto}
    (active : activeDrain crypto store lock = some drain) : drain ∈ store.drains.rows := by
  obtain ⟨_, _, -, stored, -⟩ := activeDrain_some active
  exact lookup_mem stored

theorem DrainIntact.refreshed (intact : DrainIntact store drain) (counted : Store) :
    DrainIntact store (PaymentDrains.refreshed counted drain.items drain) where
  frozen := intact.frozen
  total := frozenCounts_total counted drain.items
  completed := rfl
  drawn := intact.drawn
  active := intact.active

theorem mem_generationInvoices {creatorId : Uuid} {lockHash : LookupHash} {generation : Int}
    {row : AdmissionRow} : row ∈ generationInvoices store creatorId lockHash generation ↔
      row ∈ store.admissions.rows ∧ row.creatorId = creatorId ∧
        row.lockResourceLookupHash = lockHash ∧ row.lockResourceGeneration = generation := by
  simp [generationInvoices, List.mem_insertionSort, and_assoc]

theorem DrainIntact.created {generation : LockGenerationRow}
    (effect : Effect d store operation store') (high : drain.id < store'.db.nextUuid)
    (fenced : { generation with activeDrainId := some drain.id } ∈ store'.lockGenerations.rows)
    (freezes : Freezes store store'.outbox.rows lock generation drain) :
    DrainIntact store' drain where
  frozen := by
    refine validateFrozenSets_ok.mpr ⟨fun cancellation member => ?_, fun item member => ?_⟩
    · obtain ⟨row, stored, same, required⟩ := freezes.cancellations cancellation member
      refine (Option.any_eq_true _ _).mpr ⟨row, ?_, required⟩
      exact (lookup_eq_some_iff store'.outbox.valid.1).mpr ⟨stored, congrArg some same⟩
    · have listed : item.invoiceId ∈ drain.items.map (·.invoiceId) :=
        List.mem_map_of_mem member
      rw [freezes.items] at listed
      obtain ⟨row, found, same⟩ := List.mem_map.mp listed
      obtain ⟨stored, own, hash, current⟩ := mem_generationInvoices.mp found
      obtain ⟨_, stored', rfl⟩ := (operate_admissions effect).mem stored
      refine (Option.any_eq_true _ _).mpr ⟨row, ?_, ?_⟩
      · exact (lookup_eq_some_iff store'.admissions.valid.1).mpr ⟨stored', congrArg some same⟩
      · simp [own, hash, current, freezes.creatorId, freezes.lockHash, freezes.current]
  total := by
    rw [freezes.accepted, freezes.terminal]
    induction drain.items with
    | nil => rfl
    | cons item items ih =>
      simp only [List.filter_cons]
      cases item.classification <;> simp at ih ⊢ <;> omega
  completed := freezes.completed
  drawn := high
  active := ⟨_, fenced, freezes.creatorId.symm, freezes.lockHash.symm, freezes.current.symm, rfl⟩

theorem DrainsIntact.step (intact : DrainsIntact store)
    (effect : Effect d store operation store') : DrainsIntact store' where
  drains := by
    intro drain stored'
    cases operate_drains effect with
    | kept _ rows =>
      exact (intact.drains drain (rows ▸ stored')).step effect ⟨drain, stored', rfl⟩
    | created lock evidence generation new rows low high fenced freezes =>
      rcases List.mem_append.mp (rows ▸ stored') with stored | added
      · exact (intact.drains drain stored).step effect ⟨drain, stored', rfl⟩
      · obtain rfl := List.mem_singleton.mp added
        exact .created effect high fenced freezes
    | refreshed _ isDrain lock counted active falls rows same =>
      rcases mem_updateWhere.mp (rows ▸ stored') with ⟨stored, -⟩ | ⟨row, stored, named, rfl⟩
      · exact (intact.drains drain stored).step effect ⟨drain, stored', rfl⟩
      · have named : row.id = counted.id := of_decide_eq_true named
        obtain rfl := store.drains.valid.1.eq_of_key stored (activeDrain_mem active)
          (congrArg some named) rfl
        exact ((intact.drains row stored).refreshed store).step effect ⟨_, stored', rfl⟩
    | removed lock token creator generation last cleans ended rows same =>
      have stored := (List.mem_filter.mp (rows ▸ stored')).1
      exact (intact.drains drain stored).step effect ⟨drain, stored', rfl⟩
  active := by
    intro generation stored' id active
    rcases (operate_generations effect).of_mem stored' with ⟨row, stored, moves⟩ | first
    · cases moves with
      | same _ _ keeps =>
        obtain ⟨drain, found, rfl, own, hash⟩ := intact.active _ stored id active
        obtain ⟨drain', found', same, own', hash'⟩ := keeps drain found active
        exact ⟨drain', found', same, own'.trans own, hash'.trans hash⟩
      | frozen lock evidence _ drain free own added =>
        refine ⟨drain, ?_, Option.some.inj active, own⟩
        rw [added]
        exact List.mem_append_right _ (List.mem_singleton_self drain)
      | ended => cases active
    · obtain ⟨drain, same, added, own⟩ := first.2.2 id active
      refine ⟨drain, ?_, same, own⟩
      rw [added]
      exact List.mem_append_right _ (List.mem_singleton_self drain)

end Intact

section Cleanup

variable {crypto : Crypto} {store : Store} {lock : PubkyLockResource} {drain : DrainRow}

structure DrainOf (crypto : Crypto) (store : Store) (lock : PubkyLockResource)
    (drain : DrainRow) : Prop where
  stored : drain ∈ store.drains.rows
  creator : (store.creatorByHash (textHash crypto lock.creator)).map (·.id) = some drain.creatorId
  lockHash : drain.lockResourceLookupHash = textHash crypto lock.canonical
  lockResource : drain.lockResource = lock.canonical

instance : Decidable (DrainOf crypto store lock drain) :=
  decidable_of_iff (drain ∈ store.drains.rows ∧
      (store.creatorByHash (textHash crypto lock.creator)).map (·.id) = some drain.creatorId ∧
      drain.lockResourceLookupHash = textHash crypto lock.canonical ∧
      drain.lockResource = lock.canonical)
    ⟨fun ⟨stored, creator, lockHash, resource⟩ => ⟨stored, creator, lockHash, resource⟩,
      fun ⟨stored, creator, lockHash, resource⟩ => ⟨stored, creator, lockHash, resource⟩⟩

theorem cleanupCompleted_own (intact : DrainIntact store drain)
    (own : DrainOf crypto store lock drain) :
    cleanupCompleted crypto store lock (crypto.paymentDrainCleanupToken drain.id) = (do
      ensure ((frozenCounts store drain.items).1 = drain.acceptedCount ∧
        (frozenCounts store drain.items).2 = drain.terminalCount ∧
        drain.completed = decide ((frozenCounts store drain.items).1 = 0)) .corruptOrMissing
      ensure ((frozenCounts store drain.items).1 = 0) .conflict
      deleteDrain store drain (crypto.paymentDrainCleanupToken drain.id)) := by
  obtain ⟨creator, found, same⟩ := Option.map_eq_some_iff.mp own.creator
  obtain ⟨generation, stored, owner, hash, current, active⟩ := intact.active
  have generation_found : store.lockGeneration creator.id (textHash crypto lock.canonical) =
      some generation := by
    refine (lookup_eq_some_iff store.lockGenerations.valid.1).mpr ⟨stored, ?_⟩
    rw [owner, hash, own.lockHash, same]
  have drain_found : (lookup (fun row : DrainRow => some row.id) drain.id store.drains.rows) =
      some drain := (lookup_eq_some_iff store.drains.valid.1).mpr ⟨own.stored, rfl⟩
  have own_drain : (drain.creatorId = creator.id &&
      drain.lockResourceLookupHash = textHash crypto lock.canonical &&
      drain.lockResourceGeneration = generation.currentGeneration : Bool) = true := by
    simp [same, own.lockHash, current]
  have same_lock : ensure (drain.lockResource = lock.canonical) PersistenceError.corruptOrMissing =
      .ok () := ensure_eq_ok.mpr own.lockResource
  simp only [cleanupCompleted, found, demand_some, ok_bind, generation_found, active,
    cleanupActive, drain_found, Option.filter_some, own_drain, if_true, ensure_true, same_lock,
    intact.frozen]

theorem deleteDrain_succeeds (intact : DrainIntact store drain) (completed : drain.completed = true)
    (token : LookupHash) : ∃ store', deleteDrain store drain token = .ok store' := by
  obtain ⟨generation, stored, owner, hash, -, active⟩ := intact.active
  obtain ⟨keys, actives, positive⟩ := store.lockGenerations.valid
  have named : store.lockGenerations.rows.any (isActive drain) = true :=
    List.any_eq_true.mpr ⟨generation, stored, isActive_iff.mpr ⟨owner, hash, active⟩⟩
  have ended : LockGenerationConstraints
      (updateWhere (isActive drain) (nextGeneration token) store.lockGenerations.rows) := by
    refine ⟨Iff.mpr (uniqueIndex_updateWhere fun _ _ _ => rfl) keys, actives.drop fun _ _ => rfl, ?_⟩
    intro row member
    rcases mem_updateWhere.mp member with ⟨kept, -⟩ | ⟨old, kept, -, rfl⟩
    · exact positive row kept
    · exact Int.add_nonneg (positive old kept) Int.one_nonneg
  have deleted : DrainConstraints (store.drains.rows.filter fun row => row.id ≠ drain.id) :=
    ⟨store.drains.valid.1.filter _, store.drains.valid.2.filter _⟩
  exact ⟨_, bind_eq_ok.mpr ⟨(), ensure_eq_ok.mpr ⟨completed, named⟩,
    bind_eq_ok.mpr ⟨⟨_, ended⟩, Table.write_eq_ok.mpr rfl,
      bind_eq_ok.mpr ⟨⟨_, deleted⟩, Table.write_eq_ok.mpr rfl, rfl⟩⟩⟩⟩

/-- Every accepted request of a drain has been paid in time or has expired. -/
def AllSettled (store : Store) (drain : DrainRow) : Prop :=
  ∀ item ∈ drain.items, item.classification = .accepted → settled store item.invoiceId = true

instance : Decidable (AllSettled store drain) := inferInstanceAs (Decidable (∀ _ ∈ _, _))

theorem frozenCounts_eq_zero : (frozenCounts store drain.items).1 = 0 ↔ AllSettled store drain := by
  simp [frozenCounts, AllSettled]

end Cleanup

theorem storeAfter_drainsIntact {d : Deployment} {start : OffsetDateTime}
    {operations : List Operation} : DrainsIntact (storeAfter d start operations) :=
  storeAfter_invariant ⟨fun _ none => (by cases none), fun _ none => (by cases none)⟩
    fun _ _ _ intact done => intact.step (operate_effect done)

/-- A cleanup that presents the drain's own token succeeds when every accepted request is
settled and conflicts otherwise, exactly when the stored count of accepted requests is the
number of those not yet settled. -/
theorem cleanup_answers_iff (d : Deployment) (start : OffsetDateTime)
    (operations : List Operation) (lock : PubkyLockResource) (drain : DrainRow)
    (own : DrainOf d.crypto (storeAfter d start operations) lock drain) :
    (if AllSettled (storeAfter d start operations) drain then
        ∃ store', cleanupCompleted d.crypto (storeAfter d start operations) lock
          (d.crypto.paymentDrainCleanupToken drain.id) = .ok store'
      else cleanupCompleted d.crypto (storeAfter d start operations) lock
        (d.crypto.paymentDrainCleanupToken drain.id) = .error .conflict) ↔
      (frozenCounts (storeAfter d start operations) drain.items).1 = drain.acceptedCount := by
  have intact := storeAfter_drainsIntact.drains drain own.stored
  generalize storeAfter d start operations = store at own intact
  have total := intact.total
  rw [← frozenCounts_total store drain.items] at total
  rw [cleanupCompleted_own intact own]
  constructor
  · intro answers
    split at answers
    · obtain ⟨_, done⟩ := answers
      obtain ⟨_, counted, -⟩ := bind_eq_ok.mp done
      exact (ensure_eq_ok.mp counted).1
    · rcases bind_eq_error.mp answers with failed | ⟨_, counted, -⟩
      · cases (ensure_eq_error.mp failed).2
      · exact (ensure_eq_ok.mp counted).1
  · intro counted
    have checked : (frozenCounts store drain.items).1 = drain.acceptedCount ∧
        (frozenCounts store drain.items).2 = drain.terminalCount ∧
        drain.completed = decide ((frozenCounts store drain.items).1 = 0) := by
      refine ⟨counted, by omega, ?_⟩
      rw [counted]
      exact intact.completed
    split
    · rename_i settled
      have none := frozenCounts_eq_zero.mpr settled
      have completed : drain.completed = true := by
        rw [checked.2.2, none]
        rfl
      obtain ⟨store', deleted⟩ := deleteDrain_succeeds intact completed _
      exact ⟨store', bind_eq_ok.mpr ⟨(), ensure_eq_ok.mpr checked,
        bind_eq_ok.mpr ⟨(), ensure_eq_ok.mpr none, deleted⟩⟩⟩
    · rename_i unsettled
      refine bind_eq_error.mpr (.inr ⟨(), ensure_eq_ok.mpr checked, bind_eq_error.mpr (.inl ?_)⟩)
      exact ensure_eq_error.mpr ⟨fun none => unsettled (frozenCounts_eq_zero.mp none), rfl⟩

namespace Sample

/-- An accepted invoice is drained, and a target pass expires it after its deadline. -/
def expiredInDrain : List Operation :=
  [.createCreator (credentials "xpub"), .createInvoice bundle] ++
    deliver 3 4 (.paymentRequestProposal 1 "event" "request") ++
    [report .accepted, .createDrain lock none, .tick 101000000, .observe .observationTargets]

/-- The same run, and a replay that stores the new counts. -/
def refreshedDrain : List Operation :=
  expiredInDrain ++ [.replayDrain lock]

end Sample

/-- Once a replay has refreshed the counts, the cleanup of the expired drain succeeds. -/
theorem cleanup_succeeds_after_replay :
    ∃ drain ∈ (storeAfter Sample.deployment 0 Sample.refreshedDrain).drains.rows, ∃ store',
      cleanupCompleted Sample.deployment.crypto
        (storeAfter Sample.deployment 0 Sample.refreshedDrain) Sample.lock
        (Sample.deployment.crypto.paymentDrainCleanupToken drain.id) = .ok store' := by
  obtain ⟨drain, stored, own, settled, counted⟩ :
      ∃ drain ∈ (storeAfter Sample.deployment 0 Sample.refreshedDrain).drains.rows,
        DrainOf Sample.deployment.crypto
          (storeAfter Sample.deployment 0 Sample.refreshedDrain) Sample.lock drain ∧
        AllSettled (storeAfter Sample.deployment 0 Sample.refreshedDrain) drain ∧
        (frozenCounts (storeAfter Sample.deployment 0 Sample.refreshedDrain) drain.items).1 =
          drain.acceptedCount := by
    decide +kernel
  have answers := (cleanup_answers_iff _ _ _ _ drain own).mpr counted
  rw [if_pos settled] at answers
  exact ⟨drain, stored, answers⟩

/-- A drain whose only accepted request expired since its counts were stored is reported
corrupt to the holder of its token. -/
theorem settled_drain_reads_corrupt :
    ∃ drain ∈ (storeAfter Sample.deployment 0 Sample.expiredInDrain).drains.rows,
      drain.lockResource = Sample.lock.canonical ∧
      AllSettled (storeAfter Sample.deployment 0 Sample.expiredInDrain) drain ∧
      failure (cleanupCompleted Sample.deployment.crypto
        (storeAfter Sample.deployment 0 Sample.expiredInDrain) Sample.lock
        (Sample.deployment.crypto.paymentDrainCleanupToken drain.id)) =
        some .corruptOrMissing := by
  decide +kernel

end PaykitServer
