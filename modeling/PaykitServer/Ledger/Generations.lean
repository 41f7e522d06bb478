import PaykitServer.Ledger.Attempts
import PaykitServer.Ledger.Classification
import PaykitServer.Ledger.Cleanup
import PaykitServer.Ledger.Frames

/-!
# Generations of a lock stay apart

A lock publishes in generations: its invoices are admitted to the current one, a drain
freezes it, and a cleanup starts the next. An attempt is first stored while its generation
is open, a drain covers exactly the invoices of its generation, and no invoice is drained
twice.

A message for an invoice whose generation was drained may still move its stored attempt.
`Alike` relates two stores that differ in nothing but such attempts. Publication cannot
tell the two apart, so a late message leaves no trace in any drain, old or new.
-/

namespace PaykitServer

open Domain Persistence Application
open PaymentDrains Relational

/-- What a drain keeps while it is stored. -/
structure SameDrain (drain drain' : DrainRow) : Prop where
  id : drain'.id = drain.id
  lock : lockOf drain' = lockOf drain
  generation : drain'.lockResourceGeneration = drain.lockResourceGeneration
  items : drain'.items = drain.items
  cancellations : drain'.cancellations = drain.cancellations

theorem SameDrain.refl (drain : DrainRow) : SameDrain drain drain := ⟨rfl, rfl, rfl, rfl, rfl⟩

theorem SameDrain.trans {a b c : DrainRow} (first : SameDrain a b) (second : SameDrain b c) :
    SameDrain a c where
  id := second.id.trans first.id
  lock := second.lock.trans first.lock
  generation := second.generation.trans first.generation
  items := second.items.trans first.items
  cancellations := second.cancellations.trans first.cancellations

/-- An invoice of a generation that was drained: its lock has moved on, or is drained. -/
def Closed (store : Store) (invoiceId : Uuid) : Prop :=
  ∃ invoice lock, store.admission invoiceId = some invoice ∧
    store.lockGeneration invoice.creatorId invoice.lockResourceLookupHash = some lock ∧
    (invoice.lockResourceGeneration < lock.currentGeneration ∨
      invoice.lockResourceGeneration = lock.currentGeneration ∧ lock.activeDrainId.isSome = true)

/-- A drain is stored, or the generation it froze is over. -/
def Outlived (store : Store) (drain : DrainRow) : Prop :=
  (∃ drain' ∈ store.drains.rows, SameDrain drain drain') ∨
    ∃ lock, store.lockGeneration drain.creatorId drain.lockResourceLookupHash = some lock ∧
      drain.lockResourceGeneration < lock.currentGeneration

def Covers (store : Store) (drain : DrainRow) : Prop :=
  drain.items.map (·.invoiceId) = (generationInvoices store drain.creatorId
    drain.lockResourceLookupHash drain.lockResourceGeneration).map (·.id)

section Step

variable {d : Deployment} {store store' : Store} {operation : Operation} {drain : DrainRow}

/-- The generation of a lock never goes back, and a frozen one never opens again. -/
theorem lockGeneration_step (effect : Effect d store operation store') {creatorId : Uuid}
    {lockHash : LookupHash} {lock : LockGenerationRow}
    (found : store.lockGeneration creatorId lockHash = some lock) :
    ∃ lock', store'.lockGeneration creatorId lockHash = some lock' ∧
      lock.currentGeneration ≤ lock'.currentGeneration ∧
      (lock'.currentGeneration = lock.currentGeneration → lock.activeDrainId.isSome = true →
        lock'.activeDrainId = lock.activeDrainId) := by
  obtain ⟨lock', found', moves⟩ := ((operate_generations effect).lookup
    fun row row' moves => by cases moves <;> rfl).1 lock found
  refine ⟨lock', found', ?_⟩
  cases moves with
  | same => exact ⟨le_rfl, fun _ _ => rfl⟩
  | frozen _ _ _ _ free =>
    refine ⟨le_rfl, fun _ active => ?_⟩
    rw [free] at active
    cases active
  | ended =>
    have next : lock.currentGeneration < lock.currentGeneration + 1 := Int.lt_succ _
    exact ⟨next.le, fun same => absurd same next.ne'⟩

theorem admission_step (effect : Effect d store operation store') {id : Uuid}
    {invoice : AdmissionRow} (found : store.admission id = some invoice) :
    store'.admission id = some invoice := by
  obtain ⟨_, found', rfl⟩ :=
    ((operate_admissions effect).lookup fun _ _ same => by rw [same]).1 invoice found
  exact found'

theorem Closed.step {invoiceId : Uuid} (effect : Effect d store operation store')
    (closed : Closed store invoiceId) : Closed store' invoiceId := by
  obtain ⟨invoice, lock, found, current, past⟩ := closed
  obtain ⟨lock', current', order, frozen⟩ := lockGeneration_step effect current
  refine ⟨invoice, lock', admission_step effect found, current', ?_⟩
  rcases past with ended | ⟨own, active⟩
  · exact .inl (lt_of_lt_of_le ended order)
  · rcases order.lt_or_eq with next | same
    · exact .inl (own ▸ next)
    · exact .inr ⟨own.trans same, (frozen same.symm active).symm ▸ active⟩

theorem drain_before (effect : Effect d store operation store')
    (stored' : drain ∈ store'.drains.rows) :
    (∃ old ∈ store.drains.rows, SameDrain old drain) ∨
      store.db.nextUuid ≤ drain.id ∧ Covers store drain := by
  cases operate_drains effect with
  | kept _ rows => exact .inl ⟨drain, rows ▸ stored', .refl drain⟩
  | created lock evidence generation new rows low high fenced freezes =>
    rcases List.mem_append.mp (rows ▸ stored') with stored | added
    · exact .inl ⟨drain, stored, .refl drain⟩
    · obtain rfl := List.mem_singleton.mp added
      refine .inr ⟨low, ?_⟩
      rw [Covers, freezes.creatorId, freezes.lockHash, freezes.current]
      exact freezes.items
  | refreshed _ isDrain lock counted active falls rows same =>
    rcases mem_updateWhere.mp (rows ▸ stored') with ⟨stored, -⟩ | ⟨old, stored, -, rfl⟩
    · exact .inl ⟨drain, stored, .refl drain⟩
    · exact .inl ⟨old, stored, rfl, rfl, rfl, rfl, rfl⟩
  | removed lock token creator generation last cleans ended rows same =>
    exact .inl ⟨drain, (List.mem_filter.mp (rows ▸ stored')).1, .refl drain⟩

theorem drain_after (effect : Effect d store operation store')
    (stored : drain ∈ store.drains.rows) (drawn : drain.id < store.db.nextUuid) :
    Outlived store' drain := by
  by_cases kept : ∃ row ∈ store'.drains.rows, row.id = drain.id
  · obtain ⟨drain', stored', same⟩ := kept
    refine .inl ⟨drain', stored', ?_⟩
    rcases drain_before effect stored' with ⟨old, before, kept⟩ | ⟨fresh, -⟩
    · have named : old.id = drain.id := kept.id.symm.trans same
      obtain rfl := store.drains.valid.1.eq_of_key before stored (congrArg some named) rfl
      exact kept
    · exact absurd (same ▸ drawn) (Nat.not_lt.mpr fresh)
  · have removes : Removes ⟨store, operation, store'⟩ drain :=
      ⟨stored, fun row stored' same => kept ⟨row, stored', same⟩⟩
    obtain ⟨lock, creator, generation, -, cleans, next, -⟩ := removes.cleans effect
    refine .inr ⟨_, next, ?_⟩
    rw [cleans.own.2.2]
    exact Int.lt_succ generation.currentGeneration

theorem Outlived.step (intact : DrainsIntact store) (effect : Effect d store operation store')
    (outlived : Outlived store drain) : Outlived store' drain := by
  rcases outlived with ⟨drain', stored, same⟩ | ⟨lock, current, ended⟩
  · obtain ⟨own, hash⟩ := Prod.mk.inj same.lock
    rcases drain_after effect stored (intact.drains drain' stored).drawn with
      ⟨drain'', stored', same'⟩ | ⟨lock, current, ended⟩
    · exact .inl ⟨drain'', stored', same.trans same'⟩
    · rw [own, hash] at current
      exact .inr ⟨lock, current, same.generation ▸ ended⟩
  · obtain ⟨lock', current', order, -⟩ := lockGeneration_step effect current
    exact .inr ⟨lock', current', lt_of_lt_of_le ended order⟩

theorem admitted_open (effect : Effect d store operation store') :
    Grows Eq (fun row => ∃ lock,
        store'.lockGeneration row.creatorId row.lockResourceLookupHash = some lock ∧
          lock.activeDrainId = none) store.admissions.rows store'.admissions.rows := by
  cases effect with
  | admitted _ isAdmission new locked _ generations _ _ _ _ _ _ found admissible fenced _ _ rows =>
    rw [rows]
    refine .concat (fun _ _ => rfl) ?_
    obtain ⟨lock, taken, -, free⟩ := admissible.locked
    obtain ⟨stored, rfl, written, current⟩ := Invoices.lockGenerationForUpdate_ok taken
    obtain rfl : stored = generations := Table.ext (written.trans fenced.symm)
    exact ⟨lock, current, free⟩
  | _ => exact .refl fun _ _ => rfl

theorem drained_lock (intact : DrainsIntact store) (stored : drain ∈ store.drains.rows)
    {lock : LockGenerationRow}
    (current : store.lockGeneration drain.creatorId drain.lockResourceLookupHash = some lock) :
    lock.currentGeneration = drain.lockResourceGeneration ∧ lock.activeDrainId = some drain.id := by
  obtain ⟨generation, member, own, hash, frozen, active⟩ := (intact.drains drain stored).active
  have found : store.lockGeneration drain.creatorId drain.lockResourceLookupHash =
      some generation :=
    (lookup_eq_some_iff store.lockGenerations.valid.1).mpr
      ⟨member, congrArg some (Prod.ext own hash)⟩
  obtain rfl := Option.some.inj (found.symm.trans current)
  exact ⟨frozen, active⟩

theorem generationInvoices_step (intact' : DrainsIntact store')
    (effect : Effect d store operation store') (stored' : drain ∈ store'.drains.rows) :
    generationInvoices store' drain.creatorId drain.lockResourceLookupHash
        drain.lockResourceGeneration =
      generationInvoices store drain.creatorId drain.lockResourceLookupHash
        drain.lockResourceGeneration := by
  obtain ⟨new, rows, open_⟩ := (admitted_open effect).eq_append
  have outside : new.filter (fun row => row.creatorId = drain.creatorId &&
      row.lockResourceLookupHash = drain.lockResourceLookupHash &&
      row.lockResourceGeneration = drain.lockResourceGeneration) = [] := by
    refine List.filter_eq_nil_iff.mpr fun row member met => ?_
    simp only [Bool.and_eq_true, decide_eq_true_eq] at met
    obtain ⟨lock, current, free⟩ := open_ row member
    rw [met.1.1, met.1.2] at current
    rw [(drained_lock intact' stored' current).2] at free
    cases free
  unfold generationInvoices
  rw [rows, List.filter_append, outside, List.append_nil]

theorem covers_step (intact' : DrainsIntact store') (effect : Effect d store operation store')
    (covers : ∀ drain ∈ store.drains.rows, Covers store drain)
    (stored' : drain ∈ store'.drains.rows) : Covers store' drain := by
  unfold Covers
  rw [generationInvoices_step intact' effect stored']
  rcases drain_before effect stored' with ⟨old, stored, same⟩ | ⟨-, new⟩
  · obtain ⟨own, hash⟩ := Prod.mk.inj same.lock
    rw [same.items, own, hash, same.generation]
    exact covers old stored
  · exact new

end Step

section Runs

variable {d : Deployment} {start : OffsetDateTime} {operations rest : List Operation}
variable {drain drain' : DrainRow}

theorem storeAfter_covers (stored : drain ∈ (storeAfter d start operations).drains.rows) :
    Covers (storeAfter d start operations) drain := by
  have all : DrainsIntact (storeAfter d start operations) ∧
      ∀ drain ∈ (storeAfter d start operations).drains.rows,
        Covers (storeAfter d start operations) drain := by
    refine storeAfter_invariant
      (P := fun store => DrainsIntact store ∧ ∀ drain ∈ store.drains.rows, Covers store drain)
      ⟨⟨fun _ none => (by cases none), fun _ none => (by cases none)⟩,
        fun _ none => (by cases none)⟩ ?_
    rintro store operation store' ⟨intact, covers⟩ done
    have effect := operate_effect done
    exact ⟨intact.step effect, fun drain stored' =>
      covers_step (intact.step effect) effect covers stored'⟩
  exact all.2 drain stored

theorem item_invoice {item : DrainItem} {store : Store} (covers : Covers store drain)
    (member : item ∈ drain.items) : ∃ invoice, store.admission item.invoiceId = some invoice ∧
      (invoice.creatorId, invoice.lockResourceLookupHash) = lockOf drain ∧
      invoice.lockResourceGeneration = drain.lockResourceGeneration := by
  have listed : item.invoiceId ∈ drain.items.map (·.invoiceId) := List.mem_map_of_mem member
  rw [covers] at listed
  obtain ⟨invoice, found, same⟩ := List.mem_map.mp listed
  obtain ⟨stored, own, hash, current⟩ := mem_generationInvoices.mp found
  refine ⟨invoice, ?_, Prod.ext own hash, current⟩
  exact (lookup_eq_some_iff store.admissions.valid.1).mpr ⟨stored, congrArg some same⟩

theorem run_outlived (stored : drain ∈ (storeAfter d start operations).drains.rows) :
    Outlived (storeAfter d start (operations ++ rest)) drain := by
  rw [storeAfter_append]
  have both : DrainsIntact ((ledger d).run (storeAfter d start operations) rest) ∧
      Outlived ((ledger d).run (storeAfter d start operations) rest) drain := by
    refine ledger_invariant (P := fun store => DrainsIntact store ∧ Outlived store drain) ?_
      ⟨storeAfter_drainsIntact, .inl ⟨drain, stored, .refl drain⟩⟩
    rintro store operation store' ⟨intact, outlived⟩ done
    have effect := operate_effect done
    exact ⟨intact.step effect, outlived.step intact effect⟩
  exact both.2

theorem run_admission {id : Uuid} {invoice : AdmissionRow}
    (found : (storeAfter d start operations).admission id = some invoice) :
    (storeAfter d start (operations ++ rest)).admission id = some invoice := by
  rw [storeAfter_append]
  exact ledger_invariant (P := fun store => store.admission id = some invoice)
    (fun _ _ _ found done => admission_step (operate_effect done) found) found

theorem drained_once (stored : drain ∈ (storeAfter d start operations).drains.rows)
    (stored' : drain' ∈ (storeAfter d start (operations ++ rest)).drains.rows)
    {item item' : DrainItem} (member : item ∈ drain.items) (member' : item' ∈ drain'.items)
    (shared : item'.invoiceId = item.invoiceId) : SameDrain drain drain' := by
  obtain ⟨invoice, found, lock, generation⟩ := item_invoice (storeAfter_covers stored) member
  obtain ⟨invoice', found', lock', generation'⟩ := item_invoice (storeAfter_covers stored') member'
  rw [shared] at found'
  obtain rfl := Option.some.inj ((run_admission found).symm.trans found')
  have own : lockOf drain' = lockOf drain := lock'.symm.trans lock
  rcases @run_outlived d start operations rest drain stored with ⟨last, kept, same⟩ | ⟨current, found, ended⟩
  · have key : lockOf last = lockOf drain' := same.lock.trans own.symm
    obtain rfl := (storeAfter d start (operations ++ rest)).drains.valid.2.eq_of_key kept stored'
      (congrArg some key) rfl
    exact same
  · obtain ⟨owner, hash⟩ := Prod.mk.inj own
    rw [← owner, ← hash] at found
    have frozen := (drained_lock storeAfter_drainsIntact stored' found).1
    rw [frozen, ← generation', generation] at ended
    exact absurd ended (lt_irrefl _)

theorem drain_frozen (stored : drain ∈ (storeAfter d start operations).drains.rows)
    (stored' : drain' ∈ (storeAfter d start (operations ++ rest)).drains.rows)
    (named : drain'.id = drain.id) : SameDrain drain drain' := by
  rw [storeAfter_append] at stored'
  have drawn := (storeAfter_drainsIntact.drains drain stored).drawn
  have kept : drain.id < ((ledger d).run (storeAfter d start operations) rest).db.nextUuid ∧
      ∀ row ∈ ((ledger d).run (storeAfter d start operations) rest).drains.rows,
        row.id = drain.id → SameDrain drain row := by
    refine ledger_invariant (P := fun store => drain.id < store.db.nextUuid ∧
      ∀ row ∈ store.drains.rows, row.id = drain.id → SameDrain drain row) ?_ ⟨drawn, ?_⟩
    · rintro store operation store' ⟨drawn, same⟩ done
      have effect := operate_effect done
      refine ⟨lt_of_lt_of_le drawn (operate_advances effect).2, fun row member named => ?_⟩
      rcases drain_before effect member with ⟨old, before, kept⟩ | ⟨fresh, -⟩
      · exact (same old before (kept.id.symm.trans named)).trans kept
      · exact absurd (named ▸ drawn) (Nat.not_lt.mpr fresh)
    · intro row member named
      obtain rfl := (storeAfter d start operations).drains.valid.1.eq_of_key member stored
        (congrArg some named) rfl
      exact .refl row
  exact kept.2 drain' stored' named

end Runs

/-- Two attempts that agree, unless they belong to a closed invoice. -/
def Agrees (store : Store) (row row' : LifecycleRow) : Prop :=
  row' = row ∨ SameAttempt row row' ∧ ∃ invoiceId, row.invoiceId = some invoiceId ∧
    Closed store invoiceId

/-- The attempts of a store and others that differ from them in closed invoices only. -/
def Alike (store : Store) (attempts : Attempts) : Prop :=
  List.Forall₂ (Agrees store) store.lifecycles.rows attempts.rows

/-- The operations that a lock publishes by: admission, projection, draining and cleanup,
under a moving clock and while payments are observed. -/
def Operation.publishes : Operation → Bool
  | .applyLifecycle .. | .createDrain .. => true
  | operation => operation.ignoresAttempts

section Alike

variable {d : Deployment} {store store' : Store} {operation : Operation} {attempts : Attempts}
variable {creatorId : Uuid} {projection : PaymentRequestLifecycleProjection}
  {owner : LifecycleOwner}

theorem Agrees.same {row row' : LifecycleRow} (agrees : Agrees store row row') :
    SameAttempt row row' := by
  rcases agrees with rfl | ⟨same, -⟩
  · exact ⟨rfl, rfl, rfl⟩
  · exact same

theorem Alike.refl (store : Store) : Alike store store.lifecycles :=
  List.forall₂_same.mpr fun _ _ => .inl rfl

theorem Alike.sameAttempts (alike : Alike store attempts) {invoice : AdmissionRow}
    (open_ : ¬ Closed store invoice.id) : SameAttempts store attempts invoice := by
  unfold SameAttempts invoiceAttempts
  refine congrArg _ ?_
  change attempts.rows.filter _ = _
  unfold Alike at alike
  generalize store.lifecycles.rows = rows, attempts.rows = rows' at alike ⊢
  induction alike with
  | nil => rfl
  | @cons row row' rows rows' agrees _ ih =>
    simp only [List.filter_cons, agrees.same.invoiceId, ih]
    split
    · rename_i own
      rcases agrees with rfl | ⟨-, i, named, closed⟩
      · rfl
      · rw [named] at own
        exact absurd (Option.some.inj (of_decide_eq_true own) ▸ closed) open_
    · rfl

theorem Alike.step (alike : Alike store attempts) (effect : Effect d store operation store')
    (kept : store'.lifecycles = store.lifecycles) : Alike store' attempts := by
  unfold Alike
  rw [kept]
  refine alike.imp fun row row' agrees => agrees.imp_right ?_
  rintro ⟨same, i, named, closed⟩
  exact ⟨same, i, named, closed.step effect⟩

theorem alike_of_through (alike : Alike store attempts)
    (through : ∀ attempts, Alike store attempts →
      operate d (store.withAttempts attempts) operation =
        (·.withAttempts attempts) <$> operate d store operation) :
    ∃ attempts', (ledger d).commit (store.withAttempts attempts) operation =
        ((ledger d).commit store operation).withAttempts attempts' ∧
      Alike ((ledger d).commit store operation) attempts' := by
  refine ⟨attempts, ?_⟩
  have passed := through attempts alike
  have kept := through store.lifecycles (.refl store)
  cases done : operate d store operation with
  | error e =>
    rw [done] at passed
    rw [commit_of_failed done, commit_of_failed passed]
    exact ⟨rfl, alike⟩
  | ok store' =>
    rw [done] at passed
    rw [commit_of_operate done, commit_of_operate passed]
    refine ⟨rfl, alike.step (operate_effect done) ?_⟩
    have same : operate d (store.withAttempts store.lifecycles) operation = .ok store' := done
    rw [kept, done] at same
    exact (congrArg Store.lifecycles (Except.ok.inj same)).symm

theorem found_open {lock : PubkyLockResource} {creator : CreatorRow} {mid : Store}
    {generation : LockGenerationRow} {invoice : AdmissionRow}
    (locked : Invoices.lockGenerationForUpdate store creator.id (textHash d.crypto lock.canonical) =
      .ok (generation, mid)) (free : generation.activeDrainId = none)
    (member : invoice ∈ generationInvoices store creator.id (textHash d.crypto lock.canonical)
      generation.currentGeneration) : ¬ Closed store invoice.id := by
  rintro ⟨row, stored, found, current, past⟩
  obtain ⟨listed, own, hash, placed⟩ := mem_generationInvoices.mp member
  have same : store.admission invoice.id = some invoice :=
    (lookup_eq_some_iff store.admissions.valid.1).mpr ⟨listed, rfl⟩
  obtain rfl := Option.some.inj (same.symm.trans found)
  obtain ⟨generations, rfl, written, taken⟩ := Invoices.lockGenerationForUpdate_ok locked
  have frozen : generation = stored := by
    change lookup _ _ generations.rows = some generation at taken
    rw [written] at taken
    rw [own, hash] at current
    rw [current_generation taken, current]
    rfl
  subst frozen
  rcases past with ended | ⟨-, active⟩
  · exact absurd ended (placed ▸ lt_irrefl _)
  · rw [free] at active
    cases active

theorem drain_alike {lock : PubkyLockResource} {evidence : Option (List String)}
    (alike : Alike store attempts) :
    operate d (store.withAttempts attempts) (.createDrain lock evidence) =
      (·.withAttempts attempts) <$> operate d store (.createDrain lock evidence) := by
  refine (congrArg _ (congrArg _ (createInner_withAttempts ?_))).trans persist_snd_through
  intro creator generation mid _ locked free invoice member
  exact alike.sameAttempts (found_open locked free member)

/-- A report changes nothing unless it can be attributed. -/
theorem commit_unattributed
    (none : ∀ owner, ¬ Attributed d.crypto d.sdk store creatorId projection owner) :
    (ledger d).commit store (.applyLifecycle creatorId projection) = store := by
  cases applied : applyLifecycle d.crypto d.sdk store creatorId projection with
  | error e => exact commit_refused applied
  | ok answer =>
    rw [commit_report applied]
    obtain ⟨_, valid, done⟩ := bind_eq_ok.mp applied
    obtain ⟨attributed, found, done⟩ := bind_eq_ok.mp done
    cases attributed with
    | none =>
      cases done
      rfl
    | some owner =>
      obtain ⟨_, locked, -⟩ := bind_eq_ok.mp done
      have valid := ensure_eq_ok.mp valid
      exact absurd ⟨valid, found, locked⟩ (none owner)

/-- A report about a stored attempt replaces it or leaves it. -/
def replaces (existing : LifecycleRow) (owner : LifecycleOwner)
    (projection : PaymentRequestLifecycleProjection) : Bool :=
  replaceAttempt projection existing ≠ existing && !rejectsUpdate existing owner projection

def replacedRows (projection : PaymentRequestLifecycleProjection) (rows : List LifecycleRow) :
    List LifecycleRow :=
  updateWhere (fun row => row.sdkPaymentRequestId = projection.paymentRequestId)
    (replaceAttempt projection) rows

theorem commit_stored {existing : LifecycleRow}
    (attributed : Attributed d.crypto d.sdk store creatorId projection owner)
    (found : store.attempt projection.paymentRequestId = some existing) :
    ∃ attempts, (ledger d).commit store (.applyLifecycle creatorId projection) =
        store.withAttempts attempts ∧
      attempts.rows = if replaces existing owner projection then
        replacedRows projection store.lifecycles.rows else store.lifecycles.rows := by
  split
  · rename_i changes
    simp only [replaces, Bool.and_eq_true, decide_eq_true_eq, Bool.not_eq_true'] at changes
    obtain ⟨attempts, applied, rows⟩ := applyLifecycle_updates attributed found changes.1 changes.2
    exact ⟨attempts, commit_report applied, rows⟩
  · rename_i leaves
    refine ⟨store.lifecycles, ?_, rfl⟩
    by_cases shown : replaceAttempt projection existing = existing
    · exact commit_repeated found shown
    · have rejected : rejectsUpdate existing owner projection = true := by
        simpa [replaces, shown] using leaves
      exact commit_refused (applyLifecycle_rejects attributed found shown rejected)

theorem commit_new (attributed : Attributed d.crypto d.sdk store creatorId projection owner)
    (absent : store.attempt projection.paymentRequestId = none) :
    ∃ attempts, (ledger d).commit store (.applyLifecycle creatorId projection) =
        store.withAttempts attempts ∧
      attempts.rows = if admitsAttempt store owner then
        store.lifecycles.rows ++ [projection.row owner] else store.lifecycles.rows := by
  split
  · rename_i admits
    obtain ⟨attempts, applied, rows⟩ := applyLifecycle_inserts attributed absent admits
    exact ⟨attempts, commit_report applied, rows⟩
  · rename_i closed
    refine ⟨store.lifecycles, commit_refused (e := .conflict) ?_, rfl⟩
    refine bind_eq_error.mpr (.inr ⟨(), ensure_eq_ok.mpr attributed.valid, ?_⟩)
    refine bind_eq_error.mpr (.inr ⟨some owner, attributed.found, ?_⟩)
    refine bind_eq_error.mpr (.inr ⟨(), attributed.locked, ?_⟩)
    unfold Store.attempt at absent
    simp only [absent]
    exact bind_eq_error.mpr (.inl (ensure_eq_error.mpr ⟨closed, rfl⟩))

theorem replaced_both {rows rows' : List LifecycleRow}
    (agrees : List.Forall₂ (Agrees store) rows rows') :
    List.Forall₂ (Agrees store) (replacedRows projection rows) (replacedRows projection rows') := by
  refine List.forall₂_map_left_iff.mpr (List.forall₂_map_right_iff.mpr (agrees.imp ?_))
  intro row row' agrees
  have same := agrees.same
  simp only [same.sdkPaymentRequestId]
  split
  · refine .inl ?_
    simp only [replaceAttempt, same.invoiceId, same.marketplacePreparationId]
  · exact agrees

section OneSide

variable {rows rows' : List LifecycleRow} (agrees : List.Forall₂ (Agrees store) rows rows')
  (closed : ∀ row ∈ rows, row.sdkPaymentRequestId = projection.paymentRequestId →
    ∃ invoiceId, row.invoiceId = some invoiceId ∧ Closed store invoiceId)

include agrees closed

theorem replaced_left : List.Forall₂ (Agrees store) (replacedRows projection rows) rows' := by
  refine List.forall₂_map_left_iff.mpr ?_
  refine ((List.forall₂_and_left _ _).mpr ⟨closed, agrees⟩).imp ?_
  rintro row row' ⟨closed, agrees⟩
  have same := agrees.same
  split
  · rename_i named
    have named := of_decide_eq_true named
    exact .inr ⟨⟨same.sdkPaymentRequestId.trans named, same.invoiceId,
      same.marketplacePreparationId⟩, closed named⟩
  · exact agrees

theorem replaced_right : List.Forall₂ (Agrees store) rows (replacedRows projection rows') := by
  refine List.forall₂_map_right_iff.mpr ?_
  refine ((List.forall₂_and_left _ _).mpr ⟨closed, agrees⟩).imp ?_
  rintro row row' ⟨closed, agrees⟩
  have same := agrees.same
  simp only [same.sdkPaymentRequestId]
  split
  · rename_i named
    have named := of_decide_eq_true named
    exact .inr ⟨⟨named.symm, same.invoiceId, same.marketplacePreparationId⟩, closed named⟩
  · exact agrees

end OneSide

/-- A report keeps two stores alike: it does the same to open invoices, and whatever it
does to a closed one is allowed to differ. -/
theorem report_alike (alike : Alike store attempts) :
    ∃ attempts', (ledger d).commit (store.withAttempts attempts)
          (.applyLifecycle creatorId projection) =
        ((ledger d).commit store (.applyLifecycle creatorId projection)).withAttempts attempts' ∧
      Alike ((ledger d).commit store (.applyLifecycle creatorId projection)) attempts' := by
  by_cases owned : ∃ owner, Attributed d.crypto d.sdk store creatorId projection owner
  · obtain ⟨owner, attributed⟩ := owned
    have attributed' : Attributed d.crypto d.sdk (store.withAttempts attempts) creatorId projection
        owner := ⟨attributed.valid, attributed.found, attributed.locked⟩
    rcases lookup_forall₂ (k := projection.paymentRequestId) alike
      (fun _ _ agrees => congrArg some agrees.same.sdkPaymentRequestId) with
      ⟨absent, absent'⟩ | ⟨row, row', found, found', agrees⟩
    · obtain ⟨first, commits, rows⟩ := commit_new attributed absent
      obtain ⟨first', commits', rows'⟩ := commit_new attributed' absent'
      rw [commits, commits']
      refine ⟨first', rfl, ?_⟩
      have same : admitsAttempt (store.withAttempts attempts) owner =
        admitsAttempt store owner := rfl
      change List.Forall₂ (Agrees store) first.rows first'.rows
      rw [rows, rows', same]
      by_cases admits : admitsAttempt store owner = true
      · rw [if_pos admits, if_pos admits]
        exact List.rel_append alike (.cons (.inl rfl) .nil)
      · rw [if_neg admits, if_neg admits]
        exact alike
    · have closed : row' ≠ row → ∀ other ∈ store.lifecycles.rows,
          other.sdkPaymentRequestId = projection.paymentRequestId →
          ∃ invoiceId, other.invoiceId = some invoiceId ∧ Closed store invoiceId := by
        intro differs other member named
        have key := lookup_key found
        obtain rfl := store.lifecycles.valid.1.eq_of_key member (lookup_mem found)
          (congrArg some named) key
        exact (agrees.resolve_left differs).2
      obtain ⟨first, commits, rows⟩ := commit_stored attributed found
      obtain ⟨first', commits', rows'⟩ := commit_stored attributed' found'
      rw [commits, commits']
      refine ⟨first', rfl, ?_⟩
      change List.Forall₂ (Agrees store) first.rows first'.rows
      rw [rows, rows']
      split
      · rename_i changes
        split
        · exact replaced_both alike
        · rename_i leaves
          refine replaced_left alike (closed ?_)
          rintro rfl
          exact leaves changes
      · rename_i leaves
        split
        · rename_i changes
          refine replaced_right alike (closed ?_)
          rintro rfl
          exact leaves changes
        · exact alike
  · have none' : ∀ owner, ¬ Attributed d.crypto d.sdk (store.withAttempts attempts) creatorId
        projection owner := fun owner attributed =>
      owned ⟨owner, attributed.valid, attributed.found, attributed.locked⟩
    rw [commit_unattributed none', commit_unattributed fun owner found => owned ⟨owner, found⟩]
    exact ⟨attempts, rfl, alike⟩

theorem alike_step (alike : Alike store attempts) (publishes : operation.publishes = true) :
    ∃ attempts', (ledger d).commit (store.withAttempts attempts) operation =
        ((ledger d).commit store operation).withAttempts attempts' ∧
      Alike ((ledger d).commit store operation) attempts' := by
  cases operation with
  | applyLifecycle => exact report_alike alike
  | createDrain => exact alike_of_through alike fun _ => drain_alike
  | _ => exact alike_of_through alike fun _ _ => operate_withAttempts publishes

theorem alike_run {operations : List Operation} (alike : Alike store attempts)
    (publish : ∀ operation ∈ operations, operation.publishes = true) :
    ∃ attempts', (ledger d).run (store.withAttempts attempts) operations =
      ((ledger d).run store operations).withAttempts attempts' := by
  induction operations generalizing store attempts with
  | nil => exact ⟨attempts, rfl⟩
  | cons operation operations ih =>
    obtain ⟨attempts', commits, alike'⟩ := @alike_step d _ _ _ alike (publish operation (.head _))
    rw [System.run_cons, System.run_cons, commits]
    exact ih alike' fun later member => publish later (.tail _ member)

theorem Closed.admits {invoiceId : Uuid} (closed : Closed store invoiceId) :
    admitsAttempt store (.invoice invoiceId) = false := by
  obtain ⟨invoice, lock, found, current, past⟩ := closed
  simp only [admitsAttempt, found, current, Option.any_some]
  rcases past with ended | ⟨-, active⟩
  · simp [ended.ne']
  · simp [Option.isNone_eq_false_iff.mpr active]

theorem late_report {invoiceId : Uuid} (closed : Closed store invoiceId)
    (late : attributedOwner d.crypto d.sdk store creatorId projection =
      .ok (some (.invoice invoiceId))) :
    ∃ attempts, (ledger d).commit store (.applyLifecycle creatorId projection) =
      store.withAttempts attempts ∧ Alike store attempts := by
  by_cases owned : ∃ owner, Attributed d.crypto d.sdk store creatorId projection owner
  · obtain ⟨owner, attributed⟩ := owned
    cases late.symm.trans attributed.found
    cases found : store.attempt projection.paymentRequestId with
    | none =>
      obtain ⟨attempts, commits, rows⟩ := commit_new attributed found
      rw [closed.admits] at rows
      refine ⟨attempts, commits, ?_⟩
      unfold Alike
      rw [rows]
      exact Alike.refl store
    | some row =>
      obtain ⟨attempts, commits, rows⟩ := commit_stored attributed found
      refine ⟨attempts, commits, ?_⟩
      unfold Alike
      rw [rows]
      split
      · rename_i changes
        refine replaced_right (Alike.refl store) fun other member named => ?_
        have key := lookup_key found
        obtain rfl := store.lifecycles.valid.1.eq_of_key member (lookup_mem found)
          (congrArg some named) key
        simp only [replaces, Bool.and_eq_true, Bool.not_eq_true'] at changes
        have own := (rejectsUpdate_eq_false.mp changes.2).1
        simp only [LifecycleRow.ownedBy, Bool.and_eq_true, decide_eq_true_eq] at own
        exact ⟨invoiceId, own.1, closed⟩
      · exact Alike.refl store
  · refine ⟨store.lifecycles, ?_, .refl store⟩
    exact commit_unattributed fun owner found => owned ⟨owner, found⟩

end Alike

section Late

variable {d : Deployment} {start : OffsetDateTime} {operations rest : List Operation}
variable {drain : DrainRow} {item : DrainItem}

theorem item_closed (stored : drain ∈ (storeAfter d start operations).drains.rows)
    (member : item ∈ drain.items) :
    Closed (storeAfter d start (operations ++ rest)) item.invoiceId := by
  rw [storeAfter_append]
  refine ledger_invariant (P := fun store => Closed store item.invoiceId)
    (fun _ _ _ closed done => closed.step (operate_effect done)) ?_
  obtain ⟨invoice, found, own, placed⟩ := item_invoice (storeAfter_covers stored) member
  obtain ⟨lock, listed, owner, hash, frozen, active⟩ :=
    (storeAfter_drainsIntact.drains drain stored).active
  have current : (storeAfter d start operations).lockGeneration invoice.creatorId
      invoice.lockResourceLookupHash = some lock := by
    refine (lookup_eq_some_iff (storeAfter d start operations).lockGenerations.valid.1).mpr
      ⟨listed, ?_⟩
    rw [own, owner, hash]
    rfl
  exact ⟨invoice, lock, found, current, .inr ⟨placed.trans frozen.symm, by rw [active]; rfl⟩⟩

theorem late_message_leaves_drains {later : List Operation} {creatorId : Uuid}
    {projection : PaymentRequestLifecycleProjection}
    (stored : drain ∈ (storeAfter d start operations).drains.rows) (member : item ∈ drain.items)
    (late : attributedOwner d.crypto d.sdk (storeAfter d start (operations ++ rest)) creatorId
      projection = .ok (some (.invoice item.invoiceId)))
    (publish : ∀ operation ∈ later, operation.publishes = true) :
    (storeAfter d start (operations ++ rest ++ .applyLifecycle creatorId projection ::
        later)).drains =
      (storeAfter d start (operations ++ rest ++ later)).drains := by
  obtain ⟨attempts, commits, alike⟩ := late_report (item_closed stored member) late
  obtain ⟨attempts', run⟩ := @alike_run d _ _ _ alike publish
  rw [@storeAfter_append d start (operations ++ rest),
    @storeAfter_append d start (operations ++ rest), System.run_cons, commits, run]
  rfl

end Late

/-- An attempt of an invoice is first stored while the invoice's generation is the current
one of its lock and no drain of the lock is stored. -/
theorem first_attempt_open {d : Deployment} {store store' : Store} {operation : Operation}
    {row : LifecycleRow} {invoiceId : Uuid} (intact : DrainsIntact store)
    (effect : Effect d store operation store') (stored' : row ∈ store'.lifecycles.rows)
    (owned : row.invoiceId = some invoiceId)
    (new : ∀ old ∈ store.lifecycles.rows, old.sdkPaymentRequestId ≠ row.sdkPaymentRequestId) :
    ∃ invoice lock, store.admission invoiceId = some invoice ∧
      store.lockGeneration invoice.creatorId invoice.lockResourceLookupHash = some lock ∧
      lock.currentGeneration = invoice.lockResourceGeneration ∧
      ∀ drain ∈ store.drains.rows,
        lockOf drain ≠ (invoice.creatorId, invoice.lockResourceLookupHash) := by
  cases effect with
  | reported creatorId projection lifecycles grows =>
    rcases grows.of_mem stored' with ⟨old, stored, same⟩ | ⟨owner, -, -, admits, rfl⟩
    · exact absurd same.sdkPaymentRequestId.symm (new old stored)
    · cases owner with
      | marketplace id => cases owned
      | invoice id =>
        cases owned
        obtain ⟨invoice, found, open_⟩ := (Option.any_eq_true _ _).mp admits
        obtain ⟨lock, current, open_⟩ := (Option.any_eq_true _ _).mp open_
        simp only [Bool.and_eq_true, decide_eq_true_eq, Option.isNone_iff_eq_none] at open_
        refine ⟨invoice, lock, found, current, open_.1, fun drain stored own => ?_⟩
        obtain ⟨owner, hash⟩ := Prod.mk.inj own
        rw [← owner, ← hash] at current
        have frozen := (drained_lock intact stored current).2
        rw [open_.2] at frozen
        cases frozen
  | _ => exact absurd rfl (new row stored')

/-- Generations of a lock do not contaminate each other. An attempt of an invoice is first
stored while the invoice's generation is current and its lock has no drain. The items of a
drain are the invoices of its generation, drains that share an invoice are the same drain,
and a drain keeps its items and cancellations. A message for a drained invoice, however
late, leaves every drain as it would be without it: nothing of them can be told from the
run of invoice creations, projections, drains and cleanups that follows. -/
theorem generations_stay_apart (d : Deployment) (start : OffsetDateTime)
    (operations : List Operation) :
    (∀ t ∈ committedOperations d start operations, ∀ row ∈ t.after.lifecycles.rows, ∀ invoiceId,
      row.invoiceId = some invoiceId →
      (∀ old ∈ t.before.lifecycles.rows, old.sdkPaymentRequestId ≠ row.sdkPaymentRequestId) →
      ∃ invoice lock, t.before.admission invoiceId = some invoice ∧
        t.before.lockGeneration invoice.creatorId invoice.lockResourceLookupHash = some lock ∧
        lock.currentGeneration = invoice.lockResourceGeneration ∧
        ∀ drain ∈ t.before.drains.rows,
          lockOf drain ≠ (invoice.creatorId, invoice.lockResourceLookupHash)) ∧
    (∀ drain ∈ (storeAfter d start operations).drains.rows, ∀ rest,
      drain.items.map (·.invoiceId) =
        (generationInvoices (storeAfter d start operations) drain.creatorId
          drain.lockResourceLookupHash drain.lockResourceGeneration).map (·.id) ∧
      (∀ drain' ∈ (storeAfter d start (operations ++ rest)).drains.rows,
        (∀ item ∈ drain.items, ∀ item' ∈ drain'.items, item'.invoiceId = item.invoiceId →
          drain'.id = drain.id) ∧
        (drain'.id = drain.id →
          drain'.items = drain.items ∧ drain'.cancellations = drain.cancellations)) ∧
      ∀ item ∈ drain.items, ∀ creatorId projection,
        attributedOwner d.crypto d.sdk (storeAfter d start (operations ++ rest)) creatorId
          projection = .ok (some (.invoice item.invoiceId)) →
        ∀ later : List Operation, (∀ operation ∈ later, operation.publishes = true) →
          (storeAfter d start (operations ++ rest ++ .applyLifecycle creatorId projection ::
              later)).drains =
            (storeAfter d start (operations ++ rest ++ later)).drains) := by
  refine ⟨?_, fun drain stored rest => ⟨storeAfter_covers stored, ?_, ?_⟩⟩
  · intro t member row stored' invoiceId owned new
    obtain ⟨intact, performed⟩ := committed_drainsIntact member
    exact first_attempt_open intact (operate_effect performed) stored' owned new
  · intro drain' stored'
    refine ⟨fun item member item' member' shared => ?_, fun named => ?_⟩
    · exact (drained_once stored stored' member member' shared).id
    · have same := drain_frozen stored stored' named
      exact ⟨same.items, same.cancellations⟩
  · intro item member creatorId projection late later publish
    exact late_message_leaves_drains stored member late publish

namespace Sample

def drainedBundle : List Operation :=
  [.createCreator (credentials "xpub"), .createInvoice bundle, report .accepted,
    .createDrain lock none]

/-- A proof that is submitted after the drain still reaches the stored attempt. -/
example : ((storeAfter deployment 0 drainedBundle).drains.rows.map (·.items)) =
      [[⟨2, .accepted⟩]] ∧
    (attributedOwner deployment.crypto deployment.sdk (storeAfter deployment 0 drainedBundle) 0
      ⟨"request", "reader", paykitAppId, issuedTerms, .proofSubmitted, none, some 2, none,
        0⟩).toOption = some (some (.invoice 2)) ∧
    ((storeAfter deployment 0 (drainedBundle ++ [.applyLifecycle 0 ⟨"request", "reader",
      paykitAppId, issuedTerms, .proofSubmitted, none, some 2, none, 0⟩])).attempt
        "request").map (·.requestState) = some .proofSubmitted := by
  decide +kernel

end Sample

end PaykitServer
