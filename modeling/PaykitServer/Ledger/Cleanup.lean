import PaykitServer.Ledger.Drains

/-!
# Cleanups are bound to one cycle of a lock

A lock goes through cycles: invoices are admitted to its current generation, a drain
freezes the generation, and a cleanup removes the drain and starts the next one. The
token of a drain ends its own cycle and no other, once; presented again while no newer
drain is stored, it is answered from what the cleanup left behind.
-/

namespace PaykitServer

open Domain Persistence Application
open PaymentDrains Relational

def Removes (transition : Transition Store Operation) (drain : DrainRow) : Prop :=
  drain ∈ transition.before.drains.rows ∧ ∀ row ∈ transition.after.drains.rows, row.id ≠ drain.id

def lockOf (drain : DrainRow) : Uuid × LookupHash :=
  (drain.creatorId, drain.lockResourceLookupHash)

theorem lockOf_eq {drain : DrainRow} {creatorId : Uuid} {lockHash : LookupHash}
    (own : drain.creatorId = creatorId) (hash : drain.lockResourceLookupHash = lockHash) :
    lockOf drain = (creatorId, lockHash) := Prod.ext own hash

section Step

variable {d : Deployment} {store store' : Store} {operation : Operation} {drain : DrainRow}
variable {lock : PubkyLockResource} {token : LookupHash}

theorem drain_of_mem (effect : Effect d store operation store')
    (stored' : drain ∈ store'.drains.rows) :
    (∃ old ∈ store.drains.rows, old.id = drain.id) ∨ store.db.nextUuid ≤ drain.id := by
  cases operate_drains effect with
  | kept _ rows => exact .inl ⟨drain, rows ▸ stored', rfl⟩
  | created lock evidence generation new rows low =>
    rcases List.mem_append.mp (rows ▸ stored') with stored | added
    · exact .inl ⟨drain, stored, rfl⟩
    · obtain rfl := List.mem_singleton.mp added
      exact .inr low
  | refreshed _ isDrain lock counted active falls rows same =>
    rcases mem_updateWhere.mp (rows ▸ stored') with ⟨stored, -⟩ | ⟨row, stored, -, rfl⟩
    · exact .inl ⟨drain, stored, rfl⟩
    · exact .inl ⟨row, stored, rfl⟩
  | removed lock token creator generation last cleans ended rows same =>
    exact .inl ⟨drain, (List.mem_filter.mp (rows ▸ stored')).1, rfl⟩

/-- Only a cleanup with its own token removes a drain, and with it ends the current
generation of the drain's lock and of no other. -/
theorem Removes.cleans (effect : Effect d store operation store')
    (removes : Removes ⟨store, operation, store'⟩ drain) :
    ∃ lock creator generation,
      operation = .cleanupDrain lock (d.crypto.paymentDrainCleanupToken drain.id) ∧
      Cleans d.crypto store lock (d.crypto.paymentDrainCleanupToken drain.id) creator generation
        drain ∧
      store'.lockGeneration drain.creatorId drain.lockResourceLookupHash =
        some (nextGeneration (d.crypto.paymentDrainCleanupToken drain.id) generation) ∧
      ∀ creatorId lockHash, (creatorId, lockHash) ≠ lockOf drain →
        store'.lockGeneration creatorId lockHash = store.lockGeneration creatorId lockHash := by
  obtain ⟨stored, gone⟩ := removes
  cases operate_drains effect with
  | kept _ rows => exact absurd rfl (gone drain (rows ▸ stored))
  | created lock evidence generation new rows =>
    exact absurd rfl (gone drain (rows ▸ List.mem_append_left _ stored))
  | refreshed _ isDrain lock counted active falls rows same =>
    cases named : decide (drain.id = counted.id) with
    | false =>
      exact absurd rfl (gone drain (rows ▸ mem_updateWhere.mpr (.inl ⟨stored, named⟩)))
    | true =>
      have kept : PaymentDrains.refreshed store counted.items drain ∈ store'.drains.rows :=
        rows ▸ mem_updateWhere.mpr (.inr ⟨drain, stored, named, rfl⟩)
      exact absurd rfl (gone (PaymentDrains.refreshed store counted.items drain) kept)
  | removed lock token creator generation last cleans ended rows same =>
    have named : drain.id = last.id := by
      by_contra other
      exact gone drain (rows ▸ List.mem_filter.mpr ⟨stored, decide_eq_true other⟩) rfl
    obtain rfl := store.drains.valid.1.eq_of_key stored cleans.stored (congrArg some named) rfl
    obtain rfl := cleans.token
    have current : lookup (fun row => some (row.creatorId, row.lockResourceLookupHash))
        (drain.creatorId, drain.lockResourceLookupHash) store.lockGenerations.rows =
        some generation := by
      rw [cleans.own.1, cleans.own.2.1]
      exact cleans.current
    have key := lookup_key current
    obtain ⟨own, hash⟩ := Prod.mk.inj (Option.some.inj key)
    have after : ∀ creatorId lockHash, store'.lockGeneration creatorId lockHash =
        (store.lockGeneration creatorId lockHash).map fun row =>
          if isActive drain row then
            nextGeneration (d.crypto.paymentDrainCleanupToken drain.id) row else row := by
      intro creatorId lockHash
      rw [Store.lockGeneration, ended, lookup_updateWhere]
      · rfl
      · exact fun _ _ => rfl
    refine ⟨lock, creator, generation, rfl, cleans, ?_, fun creatorId lockHash other => ?_⟩
    · rw [after, Store.lockGeneration, current]
      simp [isActive, own, hash, cleans.active]
    · rw [after]
      cases found : store.lockGeneration creatorId lockHash with
      | none => rfl
      | some row =>
        have key := lookup_key found
        have unmet : (row.creatorId, row.lockResourceLookupHash) ≠ lockOf drain :=
          (Option.some.inj key).symm ▸ other
        refine congrArg some (if_neg fun met => ?_)
        obtain ⟨own, hash, -⟩ := isActive_iff.mp met
        exact unmet (Prod.ext own hash)

theorem cleanup_spares (effect : Effect d store (.cleanupDrain lock token) store')
    (stored : drain ∈ store.drains.rows)
    (other : d.crypto.paymentDrainCleanupToken drain.id ≠ token) :
    drain ∈ store'.drains.rows ∧ ∀ generation ∈ store.lockGenerations.rows,
      generation.activeDrainId = some drain.id → generation ∈ store'.lockGenerations.rows := by
  cases effect with
  | unchanged => exact ⟨stored, fun _ member _ => member⟩
  | admitted _ isAdmission => cases isAdmission
  | drainRead _ isDrain => cases isDrain
  | cleaned _ _ creator generation last generations drains cleans ended deleted =>
    have different : drain.id ≠ last.id := fun same => other (same ▸ cleans.token)
    refine ⟨deleted ▸ List.mem_filter.mpr ⟨stored, decide_eq_true different⟩, ?_⟩
    intro row member active
    refine ended ▸ mem_updateWhere.mpr (.inl ⟨member, ?_⟩)
    simp [isActive, active, different]

theorem cleanup_frame (effect : Effect d store (.cleanupDrain lock token) store') :
    store' = { store with
      lockGenerations := store'.lockGenerations
      drains := store'.drains } := by
  cases effect with
  | unchanged | cleaned => rfl
  | admitted _ isAdmission => cases isAdmission
  | drainRead _ isDrain => cases isDrain

end Step

section Repeat

variable {d : Deployment} {store store' : Store} {operation : Operation} {drain : DrainRow}
variable {lock : PubkyLockResource} {token : LookupHash}

def Consumed (crypto : Crypto) (lock : PubkyLockResource) (token : LookupHash) (drain : DrainRow)
    (store : Store) : Prop :=
  ∃ creator generation, store.creatorByHash (textHash crypto lock.creator) = some creator ∧
    lockOf drain = (creator.id, textHash crypto lock.canonical) ∧
    store.lockGeneration creator.id (textHash crypto lock.canonical) = some generation ∧
    generation.lastCleanupToken = some token

theorem Removes.consumed (effect : Effect d store (.cleanupDrain lock token) store')
    (removes : Removes ⟨store, .cleanupDrain lock token, store'⟩ drain) :
    Consumed d.crypto lock token drain store' := by
  obtain ⟨_, creator, generation, same, cleans, next, -⟩ := removes.cleans effect
  cases same
  refine ⟨creator, nextGeneration _ generation, ?_, lockOf_eq cleans.own.1 cleans.own.2.1, ?_, rfl⟩
  · rw [cleanup_frame effect]
    exact cleans.found
  · rw [cleans.own.1, cleans.own.2.1] at next
    exact next

theorem Consumed.step (intact : DrainsIntact store) (effect : Effect d store operation store')
    (consumed : Consumed d.crypto lock token drain store)
    (last : ∀ other, Removes ⟨store, operation, store'⟩ other → lockOf other ≠ lockOf drain) :
    Consumed d.crypto lock token drain store' := by
  obtain ⟨creator, generation, found, named, current, receipt⟩ := consumed
  obtain ⟨creator', found', moves⟩ := ((operate_creators effect).lookup
    fun row row' moves => by cases moves <;> rfl).1 creator found
  have same : creator'.id = creator.id := by cases moves <;> rfl
  obtain ⟨generation', current', moves⟩ := ((operate_generations effect).lookup
    fun row row' moves => by cases moves <;> rfl).1 generation current
  refine ⟨creator', generation', found', same.symm ▸ named, same.symm ▸ current', ?_⟩
  cases moves with
  | same => exact receipt
  | frozen => exact receipt
  | ended _ _ _ ended active removed =>
    obtain ⟨other, stored, id, own, hash⟩ :=
      intact.active generation (lookup_mem current) ended.id active
    have key := lookup_key current
    refine absurd ?_ (last other ⟨stored, fun row member => ?_⟩)
    · exact (lockOf_eq own hash).trans ((Option.some.inj key).trans named.symm)
    · rw [removed] at member
      rw [id]
      exact of_decide_eq_true (List.mem_filter.mp member).2

theorem Consumed.repeats (intact : DrainsIntact store)
    (consumed : Consumed d.crypto lock token drain store)
    (free : ∀ other ∈ store.drains.rows, lockOf other ≠ lockOf drain) :
    cleanupCompleted d.crypto store lock token = .ok store := by
  obtain ⟨creator, generation, found, named, current, receipt⟩ := consumed
  have key := lookup_key current
  have inactive : generation.activeDrainId = none := by
    refine Option.eq_none_iff_forall_ne_some.mpr fun id active => ?_
    obtain ⟨other, stored, -, own, hash⟩ := intact.active generation (lookup_mem current) id active
    refine free other stored ((lockOf_eq own hash).trans ?_)
    exact (Option.some.inj key).trans named.symm
  have none : drainByLock store creator.id (textHash d.crypto lock.canonical) = none := by
    refine lookup_eq_none_iff.mpr fun other stored same => free other stored ?_
    exact (Option.some.inj same).trans named.symm
  unfold cleanupCompleted
  rw [found, demand_some, ok_bind]
  dsimp only
  rw [current]
  dsimp only
  rw [inactive]
  simp [none, receipt]

end Repeat

section Runs

variable {d : Deployment} {start : OffsetDateTime} {operations : List Operation}

theorem removed_once : (committedOperations d start operations).Pairwise fun t t' =>
    ∀ drain drain', Removes t drain → Removes t' drain' → drain.id ≠ drain'.id := by
  suffices all : (∀ t ∈ committedOperations d start operations, ∀ drain, Removes t drain →
      drain.id < (storeAfter d start operations).db.nextUuid ∧
        ∀ row ∈ (storeAfter d start operations).drains.rows, row.id ≠ drain.id) ∧
      (committedOperations d start operations).Pairwise fun t t' =>
        ∀ drain drain', Removes t drain → Removes t' drain' → drain.id ≠ drain'.id from all.2
  refine (System.history_rule (s := Store.empty start)
    (fun history store => DrainsIntact store ∧ (∀ t ∈ history, ∀ drain, Removes t drain →
        drain.id < store.db.nextUuid ∧ ∀ row ∈ store.drains.rows, row.id ≠ drain.id) ∧
      history.Pairwise fun t t' =>
        ∀ drain drain', Removes t drain → Removes t' drain' → drain.id ≠ drain'.id) ?_ ?_).2
  · rintro history store operation store' ⟨intact, gone, once⟩ performed
    have effect := operate_effect performed
    have advances := (operate_advances effect).2
    refine ⟨intact.step effect, ?_, ?_⟩
    · intro t member drain removes
      rcases List.mem_append.mp member with earlier | last
      · obtain ⟨drawn, absent⟩ := gone t earlier drain removes
        refine ⟨lt_of_lt_of_le drawn advances, fun row stored' same => ?_⟩
        rcases drain_of_mem effect stored' with ⟨old, stored, named⟩ | fresh
        · exact absent old stored (named.trans same)
        · exact absurd drawn (Nat.not_lt.mpr (same ▸ fresh))
      · obtain rfl := List.mem_singleton.mp last
        refine ⟨lt_of_lt_of_le (intact.drains drain removes.1).drawn advances, removes.2⟩
    · refine List.pairwise_append.mpr ⟨once, List.pairwise_singleton _ _, ?_⟩
      intro t earlier t' last drain drain' removes removes' same
      obtain rfl := List.mem_singleton.mp last
      exact (gone t earlier drain removes).2 drain' removes'.1 same.symm
  · exact ⟨⟨fun _ none => (by cases none), fun _ none => (by cases none)⟩,
      fun _ none => (by cases none), .nil⟩

theorem committed_drainsIntact {transition : Transition Store Operation}
    (member : transition ∈ committedOperations d start operations) :
    DrainsIntact transition.before ∧
      operate d transition.before transition.action = .ok transition.after :=
  System.history_invariant (P := DrainsIntact)
    (fun _ _ _ intact performed => intact.step (operate_effect performed))
    ⟨fun _ none => (by cases none), fun _ none => (by cases none)⟩ member

end Runs

/-- Drain cleanup is bound to the cycle of its drain: a drain is removed once, by its own
token, and its removal starts the next generation of its lock; the last consumed token is
answered again while the lock has no drain; no other token touches a drain or its
generation; and a cleanup writes no other table. -/
theorem cleanup_is_cycle_bound (d : Deployment) (start : OffsetDateTime)
    (operations : List Operation) :
    ((committedOperations d start operations).Pairwise fun t t' =>
      ∀ drain drain', Removes t drain → Removes t' drain' → drain.id ≠ drain'.id) ∧
    (∀ t ∈ committedOperations d start operations, ∀ drain, Removes t drain →
      ∃ lock generation,
        t.action = .cleanupDrain lock (d.crypto.paymentDrainCleanupToken drain.id) ∧
        t.before.lockGeneration drain.creatorId drain.lockResourceLookupHash = some generation ∧
        t.after.lockGeneration drain.creatorId drain.lockResourceLookupHash =
          some (nextGeneration (d.crypto.paymentDrainCleanupToken drain.id) generation) ∧
        ∀ creatorId lockHash, (creatorId, lockHash) ≠ lockOf drain →
          t.after.lockGeneration creatorId lockHash =
            t.before.lockGeneration creatorId lockHash) ∧
    (∀ earlier t later drain lock token,
      committedOperations d start operations = earlier ++ t :: later →
      t.action = .cleanupDrain lock token → Removes t drain →
      (∀ t' ∈ later, ∀ other, Removes t' other → lockOf other ≠ lockOf drain) →
      (∀ other ∈ (storeAfter d start operations).drains.rows, lockOf other ≠ lockOf drain) →
      cleanupCompleted d.crypto (storeAfter d start operations) lock token =
        .ok (storeAfter d start operations)) ∧
    ∀ t ∈ committedOperations d start operations, ∀ lock token,
      t.action = .cleanupDrain lock token →
      (∀ drain ∈ t.before.drains.rows, d.crypto.paymentDrainCleanupToken drain.id ≠ token →
        drain ∈ t.after.drains.rows ∧ ∀ generation ∈ t.before.lockGenerations.rows,
          generation.activeDrainId = some drain.id →
            generation ∈ t.after.lockGenerations.rows) ∧
      t.after = { t.before with
        lockGenerations := t.after.lockGenerations
        drains := t.after.drains } := by
  refine ⟨removed_once, ?_, ?_, ?_⟩
  · intro t member drain removes
    obtain ⟨-, performed⟩ := committed_drainsIntact member
    obtain ⟨lock, creator, generation, presented, cleans, next, others⟩ :=
      removes.cleans (operate_effect performed)
    refine ⟨lock, generation, presented, ?_, next, others⟩
    rw [cleans.own.1, cleans.own.2.1]
    exact cleans.current
  · intro earlier t later drain lock token split presented removes last free
    have member : t ∈ committedOperations d start operations := by simp [split]
    have consumed : Consumed d.crypto lock token drain t.after := by
      obtain ⟨before, action, after⟩ := t
      obtain rfl := presented
      exact removes.consumed (operate_effect (committed_drainsIntact member).2)
    refine Consumed.repeats storeAfter_drainsIntact (System.history_after split consumed ?_) free
    intro t' later' consumed performed
    have intact := (committed_drainsIntact (split ▸ by simp [later'] :
      t' ∈ committedOperations d start operations)).1
    exact consumed.step intact (operate_effect performed) (last t' later')
  · rintro ⟨before, action, after⟩ member lock token rfl
    have effect := operate_effect (committed_drainsIntact member).2
    exact ⟨fun drain stored other => cleanup_spares effect stored other, cleanup_frame effect⟩

end PaykitServer
