import PaykitServer.Ledger.Preparations
import PaykitServer.Ledger.Proposals

/-!
# Rotating a Bitcoin account

A rotation walks over the requests of the account it replaces and classifies each by
its attempts. What one request needs is established in its turn of the loop and kept
by every later turn, because the loop only suppresses proposals without attempts and
adds cancellations. The items of a rotation are kept apart by the request they name.
-/

namespace PaykitServer

open Domain Persistence Application
open MarketplacePreparations Relational Creators

structure Cancels (row : OutboxRow) (owner : LifecycleOwner) (paymentRequestId : String) :
    Prop where
  kind : row.intentKind = .paymentRequestCancellation
  owned : row.ownedBy owner = true
  target : row.cancellationTarget = some paymentRequestId

structure RequestRetired (store : Store) (creatorId : Uuid) (owner : LifecycleOwner) : Prop where
  sound : ∀ attempt ∈ store.lifecyclesOf owner, attempt.requestState ≠ .invalidConflict ∧
    attempt.requestState ≠ .recoveryRequired
  failed : store.lifecyclesOf owner = [] → ∃ row ∈ store.outbox.rows,
    row.intentKind = .paymentRequestProposal ∧ row.ownedBy owner = true ∧
      row.status = .permanentlyFailed
  canceled : ∀ attempt ∈ store.lifecyclesOf owner, attempt.requestState = .proposed →
    ∃ row ∈ store.outbox.rows, row.creatorId = creatorId ∧
      Cancels row owner attempt.sdkPaymentRequestId

/-- The columns of the unique index on rotation items. -/
def Persistence.RotationItem.key (item : RotationItem) :
    Uuid × Option Uuid × Option Uuid × Option String × RotationClassification :=
  (item.rotationId, item.invoiceId, item.marketplacePreparationId, item.sdkPaymentRequestId,
    item.classification)

def pendingKey (rotationId : Uuid) (owner : LifecycleOwner) (paymentRequestId : String) :
    Uuid × Option Uuid × Option Uuid × Option String × RotationClassification :=
  (rotationId, owner.invoiceId, owner.marketplacePreparationId, some paymentRequestId,
    .cancellationPending)

def Persistence.RotationItem.ownedBy (item : RotationItem) (owner : LifecycleOwner) : Prop :=
  item.invoiceId = owner.invoiceId ∧ item.marketplacePreparationId = owner.marketplacePreparationId

def Persistence.RotationItem.isPending (item : RotationItem) : Bool :=
  item.classification = .cancellationPending

/-- The items a rotation notes for the requests it retires; the count is of the
cancellations among them. -/
structure ItemsOf (rotationId : Uuid) (owners : List LifecycleOwner) (count : Nat)
    (items : List RotationItem) : Prop where
  named : ∀ item ∈ items, item.rotationId = rotationId ∧
    item.classification ≠ .preparationVoided ∧ ∃ owner ∈ owners, item.ownedBy owner
  present : ∀ owner ∈ owners, ∃ item ∈ items, item.ownedBy owner
  distinct : owners.Nodup → (items.map RotationItem.key).Nodup
  counted : items.countP RotationItem.isPending = count

theorem Persistence.LifecycleOwner.eq_of_columns {owner owner' : LifecycleOwner}
    (invoice : owner.invoiceId = owner'.invoiceId)
    (preparation : owner.marketplacePreparationId = owner'.marketplacePreparationId) :
    owner = owner' := by
  cases owner <;> cases owner' <;> cases invoice <;> cases preparation <;> rfl

theorem Persistence.OutboxRow.owner_unique {row : OutboxRow} {owner owner' : LifecycleOwner}
    (owned : row.ownedBy owner = true) (owned' : row.ownedBy owner' = true) : owner = owner' := by
  simp only [OutboxRow.ownedBy, Bool.and_eq_true, decide_eq_true_eq] at owned owned'
  exact LifecycleOwner.eq_of_columns (owned.1.symm.trans owned'.1) (owned.2.symm.trans owned'.2)

namespace ItemsOf

variable {rotationId : Uuid} {owners owners' : List LifecycleOwner} {count count' : Nat}
variable {items items' : List RotationItem}

theorem nil : ItemsOf rotationId [] 0 [] :=
  ⟨by simp, by simp, fun _ => .nil, rfl⟩

theorem append (first : ItemsOf rotationId owners count items)
    (second : ItemsOf rotationId owners' count' items') :
    ItemsOf rotationId (owners ++ owners') (count + count') (items ++ items') where
  named item member := by
    rcases List.mem_append.mp member with early | late
    · obtain ⟨rotation, kind, owner, listed, owned⟩ := first.named item early
      exact ⟨rotation, kind, owner, List.mem_append_left _ listed, owned⟩
    · obtain ⟨rotation, kind, owner, listed, owned⟩ := second.named item late
      exact ⟨rotation, kind, owner, List.mem_append_right _ listed, owned⟩
  present owner listed := by
    rcases List.mem_append.mp listed with early | late
    · obtain ⟨item, member, owned⟩ := first.present owner early
      exact ⟨item, List.mem_append_left _ member, owned⟩
    · obtain ⟨item, member, owned⟩ := second.present owner late
      exact ⟨item, List.mem_append_right _ member, owned⟩
  distinct nodup := by
    obtain ⟨nodup, nodup', apart⟩ := List.nodup_append.mp nodup
    rw [List.map_append, List.nodup_append]
    refine ⟨first.distinct nodup, second.distinct nodup', ?_⟩
    rintro _ early _ late rfl
    obtain ⟨item, member, rfl⟩ := List.mem_map.mp early
    obtain ⟨item', member', same⟩ := List.mem_map.mp late
    obtain ⟨-, -, owner, listed, owned⟩ := first.named item member
    obtain ⟨-, -, owner', listed', owned'⟩ := second.named item' member'
    simp only [RotationItem.key, Prod.mk.injEq] at same
    exact apart owner listed owner' listed' (LifecycleOwner.eq_of_columns
      ((owned.1.symm.trans same.2.1.symm).trans owned'.1)
      ((owned.2.symm.trans same.2.2.1.symm).trans owned'.2))
  counted := by rw [List.countP_append, first.counted, second.counted]

variable {owner : LifecycleOwner}

theorem cancellations {targets : List String} (some' : targets ≠ []) (nodup : targets.Nodup)
    (keys : items.map RotationItem.key = targets.map (pendingKey rotationId owner)) :
    ItemsOf rotationId [owner] targets.length items ∧
      ∀ item ∈ items, item.classification = .cancellationPending := by
  have columns : ∀ item ∈ items, ∃ target, item.key = pendingKey rotationId owner target := by
    intro item member
    obtain ⟨target, -, same⟩ := List.mem_map.mp (keys ▸ List.mem_map_of_mem member)
    exact ⟨target, same.symm⟩
  have pending : ∀ item ∈ items, item.classification = .cancellationPending := by
    intro item member
    obtain ⟨target, same⟩ := columns item member
    exact congrArg (·.2.2.2.2) same
  have length : items.length = targets.length := by
    simpa using congrArg List.length keys
  refine ⟨⟨fun item member => ?_, fun other listed => ?_, fun _ => ?_, ?_⟩, pending⟩
  · obtain ⟨target, same⟩ := columns item member
    refine ⟨congrArg (·.1) same, ?_, owner, List.mem_singleton_self _, congrArg (·.2.1) same,
      congrArg (·.2.2.1) same⟩
    rw [pending item member]
    decide
  · obtain rfl := List.mem_singleton.mp listed
    obtain ⟨item, member⟩ := List.exists_mem_of_length_pos
      (length ▸ List.length_pos_of_ne_nil some')
    obtain ⟨target, same⟩ := columns item member
    exact ⟨item, member, congrArg (·.2.1) same, congrArg (·.2.2.1) same⟩
  · rw [keys]
    refine nodup.map fun target target' same => ?_
    exact Option.some.inj (congrArg (·.2.2.2.1) same)
  · rw [← length, List.countP_eq_length]
    exact fun item member => decide_eq_true (pending item member)

theorem accepted (canceled : ItemsOf rotationId [owner] count items)
    (pending : ∀ item ∈ items, item.classification = .cancellationPending) :
    ItemsOf rotationId [owner] count (rotationItem rotationId owner .accepted :: items) where
  named item member := by
    rcases List.mem_cons.mp member with rfl | listed
    · exact ⟨rfl, by simp [rotationItem], owner, List.mem_singleton_self _, rfl, rfl⟩
    · exact canceled.named item listed
  present other listed := by
    obtain ⟨item, member, owned⟩ := canceled.present other listed
    exact ⟨item, .tail _ member, owned⟩
  distinct nodup := by
    refine List.nodup_cons.mpr ⟨fun repeated => ?_, canceled.distinct nodup⟩
    obtain ⟨item, member, same⟩ := List.mem_map.mp repeated
    have kind := congrArg (·.2.2.2.2) same
    dsimp only [RotationItem.key, rotationItem] at kind
    rw [pending item member] at kind
    cases kind
  counted := by
    rw [List.countP_cons_of_neg (by simp [RotationItem.isPending, rotationItem]), canceled.counted]

theorem single {classification : RotationClassification}
    (kind : classification ≠ .preparationVoided) (settled : classification ≠ .cancellationPending) :
    ItemsOf rotationId [owner] 0 [rotationItem rotationId owner classification] where
  named item member := by
    obtain rfl := List.mem_singleton.mp member
    exact ⟨rfl, kind, owner, List.mem_singleton_self _, rfl, rfl⟩
  present other listed := by
    obtain rfl := List.mem_singleton.mp listed
    exact ⟨_, List.mem_singleton_self _, rfl, rfl⟩
  distinct _ := List.nodup_singleton _
  counted := by simp [RotationItem.isPending, rotationItem, settled]

end ItemsOf

section Steps

variable {sdk : Sdk} {store store' : Store} {creatorId rotationId : Uuid} {owner : LifecycleOwner}

theorem Cancels.kept {row : OutboxRow} {target : String} (cancels : Cancels row owner target)
    (stored : row ∈ store.outbox.rows) (retires : Retires store store') :
    row ∈ store'.outbox.rows := by
  obtain ⟨outbox, _, _, rfl, -, grows⟩ := retires
  obtain ⟨row', stored', suppresses⟩ := grows.mem stored
  cases suppresses with
  | same => exact stored'
  | suppressed _ proposal =>
    rw [cancels.kind] at proposal
    cases proposal

theorem RequestRetired.kept (retired : RequestRetired store creatorId owner)
    (retires : Retires store store') : RequestRetired store' creatorId owner := by
  have keeps := fun row target (cancels : Cancels row owner target) stored =>
    cancels.kept stored retires
  obtain ⟨outbox, _, _, rfl, -, grows⟩ := retires
  refine ⟨retired.sound, fun none => ?_, fun attempt member proposed => ?_⟩
  · obtain ⟨row, stored, kind, owned, failed⟩ := retired.failed none
    obtain ⟨row', stored', suppresses⟩ := grows.mem stored
    cases suppresses with
    | same => exact ⟨row, stored', kind, owned, failed⟩
    | suppressed => exact ⟨_, stored', kind, owned, rfl⟩
  · obtain ⟨row, stored, creator, cancels⟩ := retired.canceled attempt member proposed
    exact ⟨row, keeps row _ cancels stored, creator, cancels⟩

theorem enqueueCancellation_cancels {proposal : DeliveryIntentV1} {target : String} {id : Uuid}
    (done : enqueueCancellation sdk store creatorId owner proposal target = .ok (id, store')) :
    (∃ row ∈ store'.outbox.rows, row.creatorId = creatorId ∧ Cancels row owner target) ∧
      store'.rotationItems = store.rotationItems := by
  unfold enqueueCancellation at done
  split at done
  · rename_i row found
    cases done
    have met := List.find?_some found
    simp only [Bool.and_eq_true, decide_eq_true_eq] at met
    obtain ⟨⟨⟨creator, owned⟩, kind⟩, target⟩ := met
    exact ⟨⟨row, List.mem_of_find?_eq_some found, creator, kind, owned, target⟩, rfl⟩
  · obtain ⟨intent, _, outbox, written, done⟩ := bind₂_eq_ok.mp done
    cases done
    refine ⟨⟨cancellationOutboxRow store.db.nextUuid creatorId owner intent target false store.clock,
      ?_, rfl, rfl, ?_, rfl⟩, rfl⟩
    · rw [Table.write_eq_ok.mp written]
      exact List.mem_append_right _ (List.mem_singleton_self _)
    · simp [OutboxRow.ownedBy, cancellationOutboxRow]

theorem cancelProposed_loop {intent : DeliveryIntentV1} {targets : List String}
    (done : targets.foldlM (fun store target =>
      cancelProposed sdk store creatorId rotationId owner intent target) store = .ok store') :
    (∀ target ∈ targets, ∃ row ∈ store'.outbox.rows, row.creatorId = creatorId ∧
      Cancels row owner target) ∧
    ∃ items, store'.rotationItems = store.rotationItems ++ items ∧
      items.map RotationItem.key = targets.map (pendingKey rotationId owner) := by
  induction targets generalizing store with
  | nil =>
    cases done
    exact ⟨by simp, [], by simp, rfl⟩
  | cons target targets ih =>
    rw [List.foldlM_cons] at done
    obtain ⟨mid, first, rest⟩ := bind_eq_ok.mp done
    obtain ⟨later, items, noted, keys⟩ := ih rest
    obtain ⟨⟨id, enqueued⟩, enqueues, first⟩ := bind_eq_ok.mp first
    cases first
    obtain ⟨⟨row, stored, creator, cancels⟩, items'⟩ := enqueueCancellation_cancels enqueues
    refine ⟨fun other member => ?_, ⟨rotationId, owner.invoiceId, owner.marketplacePreparationId,
      some target, .cancellationPending, some id⟩ :: items, ?_, ?_⟩
    · rcases List.mem_cons.mp member with rfl | listed
      · have retires := foldlM_retires (fun _ _ _ => cancelProposed_retires) rest
        exact ⟨row, cancels.kept (by exact stored) retires, creator, cancels⟩
      · exact later other listed
    · rw [noted, items', List.append_assoc]
      rfl
    · rw [List.map_cons, keys]
      rfl

variable {attempts : List LifecycleRow}

theorem mem_proposedRequests {attempt : LifecycleRow}
    (member : attempt ∈ attempts) (proposed : attempt.requestState = .proposed) :
    attempt.sdkPaymentRequestId ∈ proposedRequests attempts :=
  List.mem_map_of_mem (List.mem_filter.mpr ⟨member, decide_eq_true proposed⟩)

theorem proposedRequests_nodup : (proposedRequests (store.lifecyclesOf owner)).Nodup := by
  refine UniqueIndex.nodup_map ?_ fun _ _ => id
  exact (store.lifecycles.valid.1.filter _).filter _

/-- A request whose proposal was not handed off and has no attempts ends up with a
failed proposal, whether it was suppressed or had failed before. -/
theorem rotateUnproposed_ok {proposal : OutboxRow} (stored : proposal ∈ store.outbox.rows)
    (done : rotateUnproposed store rotationId owner proposal attempts = .ok store') :
    (attempts = [] → ∃ row ∈ store'.outbox.rows, row.intentKind = proposal.intentKind ∧
      row.ownedBy owner = proposal.ownedBy owner ∧ row.status = .permanentlyFailed) ∧
    ∃ items, store'.rotationItems = store.rotationItems ++ items ∧
      ItemsOf rotationId [owner] 0 items := by
  obtain ⟨_, unsent, done⟩ := bind_eq_ok.mp done
  have unsent := ensure_eq_ok.mp unsent
  split at done
  · rename_i waiting
    obtain ⟨mid, suppressed, done⟩ := bind_eq_ok.mp done
    cases done
    obtain ⟨outbox, written, suppressed⟩ := bind_eq_ok.mp suppressed
    cases suppressed
    refine ⟨fun _ => ⟨suppress proposal, ?_, rfl, rfl, rfl⟩, _, rfl,
      ItemsOf.single (by decide) (by decide)⟩
    rw [Table.write_eq_ok.mp written]
    exact mem_updateWhere.mpr (.inr ⟨proposal, stored, by simpa [or_assoc] using waiting.2, rfl⟩)
  · rename_i other
    cases done
    refine ⟨fun none => ⟨proposal, stored, rfl, rfl, ?_⟩, _, rfl,
      ItemsOf.single (by decide) (by decide)⟩
    -- what is neither waiting nor sent has failed
    cases status : proposal.status <;> simp_all

theorem rotateOwner_retired {count : Nat}
    (done : rotateOwner sdk store creatorId rotationId owner = .ok (count, store')) :
    RequestRetired store' creatorId owner ∧
      ∃ items, store'.rotationItems = store.rotationItems ++ items ∧
        ItemsOf rotationId [owner] count items := by
  have retires := rotateOwner_retires done
  obtain ⟨proposal, found, unambiguous, recovered, turn⟩ := rotateOwner_ok done
  obtain ⟨stored, creator, owned, kind⟩ := proposalOf_some found
  have attempts : store'.lifecyclesOf owner = store.lifecyclesOf owner := by
    obtain ⟨_, _, _, rfl, -, -⟩ := retires
    rfl
  have sound : ∀ attempt ∈ store'.lifecyclesOf owner, attempt.requestState ≠ .invalidConflict ∧
      attempt.requestState ≠ .recoveryRequired := by
    intro attempt member
    rw [attempts] at member
    exact ⟨unambiguous attempt member, recovered attempt member⟩
  have settles : proposedRequests (store.lifecyclesOf owner) = [] →
      ∀ attempt ∈ store'.lifecyclesOf owner, attempt.requestState ≠ .proposed := by
    intro settled attempt member proposed
    rw [attempts] at member
    have listed := mem_proposedRequests member proposed
    rw [settled] at listed
    cases listed
  cases turn with
  | accepted accepted settled =>
    refine ⟨⟨sound, fun none => ?_, fun attempt member proposed => ?_⟩, _, rfl,
      ItemsOf.single (by decide) (by decide)⟩
    · rw [← attempts, none] at accepted
      cases accepted
    · exact absurd proposed (settles settled attempt member)
  | unproposed _ _ settled classified =>
    obtain ⟨failed, items⟩ := rotateUnproposed_ok stored classified
    refine ⟨⟨sound, fun none => ?_, fun attempt member proposed => ?_⟩, items⟩
    · obtain ⟨row, stored, kind', owned', status⟩ := failed (attempts ▸ none)
      exact ⟨row, stored, kind'.trans kind, owned'.trans owned, status⟩
    · exact absurd proposed (settles settled attempt member)
  | canceled _ intent noted accepted pending canceled =>
    obtain ⟨cancels, items, appended, keys⟩ := cancelProposed_loop canceled
    obtain ⟨itemsOf, kinds⟩ := ItemsOf.cancellations pending proposedRequests_nodup keys
    refine ⟨⟨sound, fun none => ?_, fun attempt member proposed => ?_⟩, noted ++ items, ?_, ?_⟩
    · rw [← attempts, none] at pending
      exact absurd rfl pending
    · rw [attempts] at member
      exact cancels _ (mem_proposedRequests member proposed)
    · rw [appended, List.append_assoc]
    · rcases accepted with rfl | rfl
      · exact itemsOf
      · exact itemsOf.accepted kinds

theorem rotateOwners_retired {owners : List LifecycleOwner} {pending count : Nat}
    (done : owners.foldlM
      (fun (pending, store) owner => do
        let (cancellations, store) ← rotateOwner sdk store creatorId rotationId owner
        return (pending + cancellations, store))
      (pending, store) = .ok (count, store')) :
    (∀ owner ∈ owners, RequestRetired store' creatorId owner) ∧
      ∃ items counted, store'.rotationItems = store.rotationItems ++ items ∧
        count = pending + counted ∧ ItemsOf rotationId owners counted items := by
  induction owners generalizing pending store with
  | nil =>
    cases done
    exact ⟨by simp, [], 0, by simp, rfl, .nil⟩
  | cons owner owners ih =>
    rw [List.foldlM_cons] at done
    obtain ⟨⟨pending', mid⟩, first, rest⟩ := bind_eq_ok.mp done
    obtain ⟨⟨cancellations, _⟩, rotated, first⟩ := bind_eq_ok.mp first
    cases first
    obtain ⟨retired, items, noted, itemsOf⟩ := rotateOwner_retired rotated
    obtain ⟨later, items', counted, noted', total, itemsOf'⟩ := ih rest
    refine ⟨fun other member => ?_, items ++ items', cancellations + counted, ?_, ?_,
      itemsOf.append itemsOf'⟩
    · rcases List.mem_cons.mp member with rfl | listed
      · exact retired.kept (countedRetires rest)
      · exact later other listed
    · rw [noted', noted, List.append_assoc]
    · rw [total, Nat.add_assoc]

end Steps

def AttemptsSettled (store : Store) : Prop :=
  ∀ attempt ∈ store.lifecycles.rows, ∀ p, attempt.marketplacePreparationId = some p →
    (settlement store.db p).isSome = true

section Attempts

variable {d : Deployment} {store store' : Store} {operation : Operation}

theorem AttemptsSettled.step (settled : AttemptsSettled store)
    (effect : Effect d store operation store') : AttemptsSettled store' := by
  intro attempt member p owned
  have before : (settlement store.db p).isSome = true := by
    rcases (operate_lifecycles effect).of_mem member with
      ⟨earlier, stored, same⟩ | ⟨creatorId, owner, locked, columns⟩
    · exact settled earlier stored p (same.marketplacePreparationId ▸ owned)
    · simp only [LifecycleRow.ownedBy, Bool.and_eq_true, decide_eq_true_eq] at columns
      rw [owned] at columns
      cases owner with
      | invoice => cases columns.2
      | marketplace id =>
        obtain rfl := Option.some.inj columns.2
        obtain ⟨row, found, -⟩ := (Option.any_eq_true _ _).mp (ensure_eq_ok.mp locked)
        exact Option.isSome_iff_exists.mpr ⟨row, found⟩
  obtain ⟨row, found⟩ := Option.isSome_iff_exists.mp before
  obtain ⟨row', found', -⟩ := ((operate_settlements effect).lookup
    fun _ _ same => congrArg some same.preparationId).1 row found
  exact Option.isSome_iff_exists.mpr ⟨row', found'⟩

theorem storeAfter_attemptsSettled {start : OffsetDateTime} {operations : List Operation} :
    AttemptsSettled (storeAfter d start operations) := by
  refine storeAfter_invariant ?_ fun _ _ _ settled done => settled.step (operate_effect done)
  intro attempt member
  cases member

theorem inactive_idle (booked : Booked d store) (settled : AttemptsSettled store)
    {row : Preparation} (stored : row ∈ store.preparations.rows) (inactive : row.state ≠ .active) :
    store.lifecyclesOf (.marketplace row.id) = [] ∧
      ∀ outbox ∈ store.outbox.rows, outbox.ownedBy (.marketplace row.id) = true →
        outbox.intentKind ≠ .paymentRequestProposal := by
  have idle : ∀ other, store.preparation row.id = some other → other.state ≠ .active := by
    intro other found
    obtain rfl := store.preparations.valid.1.eq_of_key stored (lookup_mem found) rfl
      (congrArg some (Store.preparation_id found))
    exact inactive
  obtain ⟨unsettled, unproposed⟩ := booked.idle row.id idle
  refine ⟨List.filter_eq_nil_iff.mpr fun attempt member owned => ?_,
    fun outbox member owned proposal => ?_⟩
  · simp only [LifecycleRow.ownedBy, Bool.and_eq_true, decide_eq_true_eq] at owned
    have present := settled attempt member row.id owned.2
    rw [unsettled] at present
    cases present
  · simp only [OutboxRow.ownedBy, Bool.and_eq_true, decide_eq_true_eq] at owned
    refine lookup_eq_none_iff.mp unproposed outbox member ?_
    rw [OutboxRow.marketplaceProposal, if_pos proposal]
    exact owned.2

end Attempts

/-- A preparation of the account that a creator has installed. Legacy rows without a
generation count when they accept Bitcoin. -/
def Persistence.Preparation.IssuedUnder (row : Preparation) (creator : CreatorRow) : Prop :=
  row.creatorId = creator.id ∧
    (row.bitcoinAccountGeneration = some creator.bitcoinAccountGeneration ∨
      row.bitcoinAccountGeneration = none ∧ row.envelope.hasBitcoin = true)

def Persistence.Preparation.complete (row : Preparation) (creator : CreatorRow) : Preparation :=
  { row with bitcoinAccountGeneration := some creator.bitcoinAccountGeneration }

inductive IssuedUnder (store : Store) (creator : CreatorRow) : LifecycleOwner → Prop where
  | invoice (row : AdmissionRow) (stored : row ∈ store.admissions.rows)
      (owned : row.creatorId = creator.id) (address : row.bitcoinAddressLookupHash.isSome = true)
      (generation : row.bitcoinAccountGeneration = some creator.bitcoinAccountGeneration) :
      IssuedUnder store creator (.invoice row.id)
  | preparation (row : Preparation) (stored : row ∈ store.preparations.rows)
      (issued : row.IssuedUnder creator) : IssuedUnder store creator (.marketplace row.id)

/-- A rotation still has something to do for a request: it is not a preparation that
was voided before. -/
def Outstanding (store : Store) (owner : LifecycleOwner) : Prop :=
  ∀ row ∈ store.preparations.rows, owner = .marketplace row.id → row.state ≠ .voided

def Persistence.RotationItem.isVoided (item : RotationItem) : Bool :=
  item.classification = .preparationVoided

/-- What a rotation leaves of the requests of the old account. The items are the ones
it has added. -/
structure Rotates (store store' : Store) (creator : CreatorRow)
    (rotation : BitcoinAccountRotation) (items : List RotationItem) : Prop where
  sound : ∀ owner, IssuedUnder store creator owner → ∀ attempt ∈ store.lifecyclesOf owner,
    attempt.requestState ≠ .invalidConflict ∧ attempt.requestState ≠ .recoveryRequired
  voided : ∀ row ∈ store.preparations.rows, row.IssuedUnder creator → row.state = .prepared →
    { row.complete creator with state := .voided, voidedAt := some store.clock } ∈
      store'.preparations.rows
  failed : ∀ owner, IssuedUnder store creator owner → store.lifecyclesOf owner = [] →
    ∀ row ∈ store'.outbox.rows, row.intentKind = .paymentRequestProposal →
      row.ownedBy owner = true → row.status = .permanentlyFailed
  canceled : ∀ owner, IssuedUnder store creator owner → ∀ attempt ∈ store.lifecyclesOf owner,
    attempt.requestState = .proposed → ∃ row ∈ store'.outbox.rows, row.creatorId = creator.id ∧
      Cancels row owner attempt.sdkPaymentRequestId ∧ ∀ other ∈ store'.outbox.rows,
        Cancels other owner attempt.sdkPaymentRequestId → other = row
  kept : ∀ owner, IssuedUnder store creator owner →
    (∃ attempt ∈ store.lifecyclesOf owner, attempt.requestState.isAccepted = true) →
      (∀ row ∈ store.outbox.rows, row.ownedBy owner = true → row ∈ store'.outbox.rows) ∧
      ∀ row ∈ store.preparations.rows, owner = .marketplace row.id →
        row.complete creator ∈ store'.preparations.rows
  frame : store' = { store with
    creators := store'.creators
    preparations := store'.preparations
    outbox := store'.outbox
    rotations := store'.rotations
    rotationItems := store.rotationItems ++ items
    db := { store.db with
      preparations := store'.db.preparations
      nextUuid := store'.db.nextUuid } }
  recorded : ∃ row ∈ store'.rotations.rows, row.creatorId = creator.id ∧
    row.fromGeneration = creator.bitcoinAccountGeneration ∧
    row.cancellationCount = rotation.cancellationPendingCount ∧
    row.voidedPreparationCount = rotation.voidedPreparationCount ∧
    ∀ item ∈ items, item.rotationId = row.id ∧
      ∃ owner, IssuedUnder store creator owner ∧ item.ownedBy owner
  present : ∀ owner, IssuedUnder store creator owner → Outstanding store owner →
    ∃ item ∈ items, item.ownedBy owner
  distinct : (items.map RotationItem.key).Nodup
  canceledCount : items.countP RotationItem.isPending = rotation.cancellationPendingCount
  voidedCount : items.countP RotationItem.isVoided = rotation.voidedPreparationCount

section Rotation

variable {d : Deployment} {store store' : Store} {creator : CreatorRow}

theorem mem_completed {rows rows' : List Preparation} {row' : Preparation}
    (completed : rows' = updateWhere (isLegacy creator.id) (·.complete creator) rows) :
    row' ∈ rows' ∧ row'.creatorId = creator.id ∧
        row'.bitcoinAccountGeneration = some creator.bitcoinAccountGeneration ↔
      ∃ row ∈ rows, row.IssuedUnder creator ∧ row' = row.complete creator := by
  subst completed
  constructor
  · rintro ⟨member, owned, generation⟩
    rcases mem_updateWhere.mp member with ⟨stored, -⟩ | ⟨row, stored, legacy, rfl⟩
    · refine ⟨row', stored, ⟨owned, .inl generation⟩, ?_⟩
      rw [Preparation.complete, ← generation]
    · simp only [isLegacy, Bool.and_eq_true, decide_eq_true_eq, Option.isNone_iff_eq_none] at legacy
      exact ⟨row, stored, ⟨owned, .inr ⟨legacy.1.2, legacy.2⟩⟩, rfl⟩
  · rintro ⟨row, stored, ⟨owned, generation⟩, rfl⟩
    refine ⟨mem_updateWhere.mpr ?_, owned, rfl⟩
    rcases generation with generation | ⟨none, bitcoin⟩
    · refine .inl ⟨?_, ?_⟩
      · rwa [Preparation.complete, ← generation]
      · simp [isLegacy, Preparation.complete]
    · exact .inr ⟨row, stored, by simp [isLegacy, owned, none, bitcoin], rfl⟩

variable {owner : LifecycleOwner} {owners : List LifecycleOwner} {preparations : List Preparation}
  {rotation : BitcoinAccountRotation}

theorem mem_rotationOwners {found : Store} (admissions : found.admissions = store.admissions)
    (completed : found.preparations.rows =
      updateWhere (isLegacy creator.id) (·.complete creator) store.preparations.rows) :
    owner ∈ rotationOwners found creator.id creator.bitcoinAccountGeneration ↔
      IssuedUnder store creator owner ∧ ∀ row ∈ store.preparations.rows,
        owner = .marketplace row.id → row.state = .active := by
  simp only [rotationOwners, issuedPreparations, admissions, List.mem_append, List.mem_map,
    List.mem_filter, Bool.and_eq_true, decide_eq_true_eq]
  constructor
  · rintro (⟨row, ⟨stored, ⟨owned, address⟩, generation⟩, rfl⟩ |
      ⟨_, ⟨⟨completes, issues⟩, active⟩, rfl⟩)
    · refine ⟨.invoice row stored owned address generation, fun other _ same => ?_⟩
      cases same
    · obtain ⟨row, stored, issued, rfl⟩ := (mem_completed completed).mp ⟨completes, issues⟩
      refine ⟨.preparation row stored issued, fun other stored' same => ?_⟩
      obtain rfl := store.preparations.valid.1.eq_of_key stored stored'
        (congrArg some (LifecycleOwner.marketplace.inj same)) rfl
      exact active
  · rintro ⟨issued, active⟩
    cases issued with
    | invoice row stored owned address generation =>
      exact .inl ⟨row, ⟨stored, ⟨owned, address⟩, generation⟩, rfl⟩
    | preparation row stored issued =>
      obtain ⟨completes, issues⟩ := (mem_completed completed).mpr ⟨row, stored, issued, rfl⟩
      exact .inr ⟨row.complete creator, ⟨⟨completes, issues⟩, active row stored rfl⟩, rfl⟩

theorem rotationOwners_nodup {found : Store} {creatorId : Uuid} {generation : Int} :
    (rotationOwners found creatorId generation).Nodup := by
  refine List.nodup_append.mpr ⟨?_, ?_, ?_⟩
  · exact (found.admissions.valid.1.filter _).nodup_map fun _ _ => LifecycleOwner.invoice.inj
  · exact ((found.preparations.valid.1.filter _).filter _).nodup_map
      fun _ _ => LifecycleOwner.marketplace.inj
  · rintro _ invoice _ preparation rfl
    obtain ⟨row, -, rfl⟩ := List.mem_map.mp invoice
    obtain ⟨row', -, same⟩ := List.mem_map.mp preparation
    cases same

theorem voidedItems_append {rotationId : Uuid} {count : Nat} {items : List RotationItem}
    (unique : UniqueIndex (fun row => some row.id) preparations)
    (itemsOf : ItemsOf rotationId owners count items) (nodup : owners.Nodup) :
    let voided := preparations.map fun row =>
      rotationItem rotationId (.marketplace row.id) .preparationVoided
    ((voided ++ items).map RotationItem.key).Nodup ∧
      (voided ++ items).countP RotationItem.isPending = count ∧
      (voided ++ items).countP RotationItem.isVoided = preparations.length := by
  intro voided
  have kinds : ∀ item ∈ voided, item.classification = .preparationVoided := by
    intro item member
    obtain ⟨row, -, rfl⟩ := List.mem_map.mp member
    rfl
  have others : ∀ item ∈ items, item.classification ≠ .preparationVoided :=
    fun item member => (itemsOf.named item member).2.1
  refine ⟨?_, ?_, ?_⟩
  · rw [List.map_append, List.nodup_append]
    refine ⟨?_, itemsOf.distinct nodup, ?_⟩
    · rw [List.map_map]
      refine unique.nodup_map fun row row' same => ?_
      exact Option.some.inj (congrArg (·.2.2.1) same)
    · rintro _ early _ late rfl
      obtain ⟨item, member, rfl⟩ := List.mem_map.mp early
      obtain ⟨item', member', same⟩ := List.mem_map.mp late
      exact others item' member' ((congrArg (·.2.2.2.2) same).trans (kinds item member))
  · have none : voided.countP RotationItem.isPending = 0 := by
      refine List.countP_eq_zero.mpr fun item member pending => ?_
      rw [RotationItem.isPending, kinds item member] at pending
      cases pending
    rw [List.countP_append, none, itemsOf.counted, Nat.zero_add]
  · have all : voided.countP RotationItem.isVoided = voided.length :=
      List.countP_eq_length.mpr fun item member => decide_eq_true (kinds item member)
    have none : items.countP RotationItem.isVoided = 0 :=
      List.countP_eq_zero.mpr fun item member kind => others item member (of_decide_eq_true kind)
    rw [List.countP_append, all, none, Nat.add_zero, List.length_map]

theorem proposal_unique (proposed : Proposed store) {row row' : OutboxRow}
    (stored : row ∈ store.outbox.rows) (stored' : row' ∈ store.outbox.rows)
    (proposal : row.intentKind = .paymentRequestProposal)
    (proposal' : row'.intentKind = .paymentRequestProposal)
    (owned : row.ownedBy owner = true) (owned' : row'.ownedBy owner = true) : row = row' := by
  simp only [OutboxRow.ownedBy, Bool.and_eq_true, decide_eq_true_eq] at owned owned'
  cases owner with
  | invoice id => exact proposed.unique stored stored' proposal proposal' owned.1 owned'.1
  | marketplace id =>
    refine store.outbox.valid.2.1.eq_of_key stored stored' (k := id) ?_ ?_
    · rw [OutboxRow.marketplaceProposal, if_pos proposal]
      exact owned.2
    · rw [OutboxRow.marketplaceProposal, if_pos proposal']
      exact owned'.2

theorem Cancels.unique {target : String} {row row' : OutboxRow}
    (stored : row ∈ store.outbox.rows) (stored' : row' ∈ store.outbox.rows)
    (cancels : Cancels row owner target) (cancels' : Cancels row' owner target) : row = row' := by
  obtain ⟨kind, owned, targets⟩ := cancels
  obtain ⟨kind', owned', targets'⟩ := cancels'
  simp only [OutboxRow.ownedBy, Bool.and_eq_true, decide_eq_true_eq] at owned owned'
  cases owner with
  | invoice id =>
    refine store.outbox.valid.2.2.1.eq_of_key stored stored' (k := (id, target)) ?_ ?_
    · rw [OutboxRow.invoiceCancellation, if_pos kind, owned.1, targets]
      rfl
    · rw [OutboxRow.invoiceCancellation, if_pos kind', owned'.1, targets']
      rfl
  | marketplace id =>
    refine store.outbox.valid.2.2.2.1.eq_of_key stored stored' (k := (id, target)) ?_ ?_
    · rw [OutboxRow.marketplaceCancellation, if_pos kind, owned.2, targets]
      rfl
    · rw [OutboxRow.marketplaceCancellation, if_pos kind', owned'.2, targets']
      rfl

theorem IssuedUnder.of_preparation {row : Preparation} (stored : row ∈ store.preparations.rows)
    (issued : IssuedUnder store creator (.marketplace row.id)) : row.IssuedUnder creator := by
  generalize named : LifecycleOwner.marketplace row.id = owner at issued
  cases issued with
  | invoice => cases named
  | preparation other stored' issued =>
    obtain rfl := store.preparations.valid.1.eq_of_key stored' stored rfl
      (congrArg some (LifecycleOwner.marketplace.inj named))
    exact issued

/-- A request of the account is either in the loop or an inactive preparation. -/
theorem IssuedUnder.turn (issued : IssuedUnder store creator owner) :
    (∀ row ∈ store.preparations.rows, owner = .marketplace row.id → row.state = .active) ∨
      ∃ row ∈ store.preparations.rows, owner = .marketplace row.id ∧ row.IssuedUnder creator ∧
        row.state ≠ .active := by
  cases issued with
  | invoice row =>
    refine .inl fun other _ same => ?_
    cases same
  | preparation row stored issued =>
    by_cases active : row.state = .active
    · refine .inl fun other stored' same => ?_
      obtain rfl := store.preparations.valid.1.eq_of_key stored stored'
        (congrArg some (LifecycleOwner.marketplace.inj same)) rfl
      exact active
    · exact .inr ⟨row, stored, rfl, issued, active⟩

theorem rotated_preparation {rows rows' rows'' : List Preparation} {now : OffsetDateTime}
    (completed : rows' = updateWhere (isLegacy creator.id) (·.complete creator) rows)
    (voided : rows'' = updateWhere (isVoidable creator.id creator.bitcoinAccountGeneration)
      (fun row => { row with state := .voided, voidedAt := some now }) rows')
    {row : Preparation} (stored : row ∈ rows) (issued : row.IssuedUnder creator) :
    (if row.state = .prepared then
      { row.complete creator with state := .voided, voidedAt := some now }
    else row.complete creator) ∈ rows'' := by
  obtain ⟨completes, owned, generation⟩ := (mem_completed completed).mpr ⟨row, stored, issued, rfl⟩
  rw [voided, mem_updateWhere]
  split
  · rename_i prepared
    refine .inr ⟨row.complete creator, completes, ?_, rfl⟩
    simp only [isVoidable, owned, generation, decide_true, Bool.true_and, decide_eq_true_eq]
    exact prepared
  · rename_i other
    refine .inl ⟨completes, ?_⟩
    simp only [isVoidable, Bool.and_eq_false_iff, decide_eq_false_iff_not]
    exact .inr other

/-- The work of a committed rotation: the legacy rows it completed, the preparations it
voided and the requests its loop retired. -/
structure Retirement (store store' : Store) (creator : CreatorRow)
    (rotation : BitcoinAccountRotation) (rotationId : Uuid) (preparations : List Preparation)
    (owners : List LifecycleOwner) (items : List RotationItem) : Prop where
  completed : preparations =
    updateWhere (isLegacy creator.id) (·.complete creator) store.preparations.rows
  unique : UniqueIndex (fun row => some row.id) preparations
  voided : store'.preparations.rows =
    updateWhere (isVoidable creator.id creator.bitcoinAccountGeneration)
      (fun row => { row with state := .voided, voidedAt := some store.clock }) preparations
  voidedCount : rotation.voidedPreparationCount =
    (preparations.filter (isVoidable creator.id creator.bitcoinAccountGeneration)).length
  listed : ∀ owner, owner ∈ owners ↔ IssuedUnder store creator owner ∧
    ∀ row ∈ store.preparations.rows, owner = .marketplace row.id → row.state = .active
  nodup : owners.Nodup
  retired : ∀ owner ∈ owners, RequestRetired store' creator.id owner
  itemsOf : ItemsOf rotationId owners rotation.cancellationPendingCount items
  grows : Grows (Suppresses store.lifecycles.rows) IsCancellation store.outbox.rows
    store'.outbox.rows
  recorded : ⟨rotationId, creator.id, creator.bitcoinAccountGeneration,
    creator.bitcoinAccountGeneration + 1, rotation.cancellationPendingCount,
    rotation.voidedPreparationCount⟩ ∈ store'.rotations.rows
  frame : store' = { store with
    creators := store'.creators
    preparations := store'.preparations
    outbox := store'.outbox
    rotations := store'.rotations
    rotationItems := store.rotationItems ++
      ((preparations.filter (isVoidable creator.id creator.bitcoinAccountGeneration)).map
        (fun row => rotationItem rotationId (.marketplace row.id) .preparationVoided) ++ items)
    db := { store.db with
      preparations := store'.db.preparations
      nextUuid := store'.db.nextUuid } }

theorem retireBitcoinAccount_retirement {replacement : CreatorCredentials} {evidence : List String}
    (member : creator ∈ store.creators.rows)
    (done : retireBitcoinAccount d.sdk store creator replacement evidence =
      .ok (rotation, store')) :
    ∃ rotationId preparations owners items,
      Retirement store store' creator rotation rotationId preparations owners items := by
  obtain ⟨_, found, rotations, voided, retired, creators, counted, required, started, voids, loop,
    -, counts, rfl⟩ := retireBitcoinAccount_stages done
  obtain ⟨creator', preparations, _, installed, same, -, completed⟩ :=
    requiredReceiveTargets_rows required
  obtain ⟨stored, identity⟩ := (lookup_eq_some_iff store.creators.valid.1).mp installed
  obtain rfl := store.creators.valid.1.eq_of_key stored member identity rfl
  have listed : ∀ owner,
      owner ∈ rotationOwners found creator'.id creator'.bitcoinAccountGeneration ↔
        IssuedUnder store creator' owner ∧ ∀ row ∈ store.preparations.rows,
          owner = .marketplace row.id → row.state = .active :=
    fun owner => mem_rotationOwners (by rw [same]) (by rw [same]; exact completed)
  have nodup : (rotationOwners found creator'.id creator'.bitcoinAccountGeneration).Nodup :=
    rotationOwners_nodup
  generalize rotationOwners found creator'.id creator'.bitcoinAccountGeneration = owners
    at loop listed nodup
  subst same
  obtain ⟨preparations', _, rfl, -, voiding, total⟩ := voidPreparations_rows voids
  obtain ⟨each, items, pending, noted, sum, itemsOf⟩ := rotateOwners_retired loop
  obtain ⟨outbox, _, next, rfl, -, grows⟩ := countedRetires loop
  rw [Nat.zero_add] at sum
  refine ⟨store.db.nextUuid, preparations.rows, owners, items, completed, preparations.valid.1,
    voiding, total, listed, nodup, fun owner member => ?_, sum ▸ itemsOf, grows, ?_, ?_⟩
  · obtain ⟨sound, failed, canceled⟩ := each owner member
    exact ⟨sound, failed, canceled⟩
  · dsimp only
    rw [counts, mem_updateWhere]
    refine .inr ⟨_, started ▸ List.mem_append_right _ (List.mem_singleton_self _), ?_, rfl⟩
    exact decide_eq_true rfl
  · dsimp only at noted
    rw [noted, List.append_assoc]
    rfl

section Requests

variable {rotationId : Uuid} {items : List RotationItem}
  (work : Retirement store store' creator rotation rotationId preparations owners items)

include work

theorem Retirement.attempts (owner : LifecycleOwner) :
    store'.lifecyclesOf owner = store.lifecyclesOf owner := by
  rw [work.frame]
  rfl

section Owners

variable (booked : Booked d store) (settled : AttemptsSettled store)

include booked settled

theorem Retirement.turn (issued : IssuedUnder store creator owner) :
    (owner ∈ owners ∧ RequestRetired store' creator.id owner) ∨
      ∃ row ∈ store.preparations.rows, owner = .marketplace row.id ∧ row.IssuedUnder creator ∧
        row.state ≠ .active ∧ store.lifecyclesOf owner = [] ∧
        ∀ outbox ∈ store.outbox.rows, outbox.ownedBy owner = true →
          outbox.intentKind ≠ .paymentRequestProposal := by
  rcases issued.turn with active | ⟨row, stored, rfl, issued, inactive⟩
  · have listed := (work.listed owner).mpr ⟨issued, active⟩
    exact .inl ⟨listed, work.retired owner listed⟩
  · exact .inr ⟨row, stored, rfl, issued, inactive, inactive_idle booked settled stored inactive⟩

theorem Retirement.attempted (issued : IssuedUnder store creator owner) {attempt : LifecycleRow}
    (attempted : attempt ∈ store.lifecyclesOf owner) :
    owner ∈ owners ∧ RequestRetired store' creator.id owner := by
  rcases work.turn booked settled issued with retired | ⟨_, _, _, _, _, none, -⟩
  · exact retired
  · rw [none] at attempted
    cases attempted

theorem Retirement.failed (proposed : Proposed store') (issued : IssuedUnder store creator owner)
    (none : store.lifecyclesOf owner = []) {row' : OutboxRow} (stored' : row' ∈ store'.outbox.rows)
    (proposal : row'.intentKind = .paymentRequestProposal) (owned : row'.ownedBy owner = true) :
    row'.status = .permanentlyFailed := by
  rcases work.turn booked settled issued with ⟨-, retired⟩ | ⟨_, _, _, _, _, -, idle⟩
  · obtain ⟨row, stored, proposal', owned', failed⟩ :=
      retired.failed ((work.attempts owner).trans none)
    rwa [proposal_unique proposed stored' stored proposal proposal' owned owned']
  · rcases work.grows.of_mem stored' with ⟨row, stored, suppresses⟩ | ⟨_, _, _, _, _, _, rfl⟩
    · cases suppresses with
      | same => exact absurd proposal (idle _ stored owned)
      | suppressed => rfl
    · cases proposal

theorem Retirement.kept (issued : IssuedUnder store creator owner) {attempt : LifecycleRow}
    (attempted : attempt ∈ store.lifecyclesOf owner) :
    (∀ row ∈ store.outbox.rows, row.ownedBy owner = true → row ∈ store'.outbox.rows) ∧
      ∀ row ∈ store.preparations.rows, owner = .marketplace row.id →
        row.complete creator ∈ store'.preparations.rows := by
  refine ⟨fun row stored owned => ?_, fun row stored same => ?_⟩
  · obtain ⟨row', stored', suppresses⟩ := work.grows.mem stored
    cases suppresses with
    | same => exact stored'
    | suppressed owner' _ _ owned' unattempted =>
      obtain rfl := OutboxRow.owner_unique owned owned'
      rw [Store.lifecyclesOf, unattempted] at attempted
      cases attempted
  · subst same
    obtain ⟨listed, -⟩ := work.attempted booked settled issued attempted
    have active := ((work.listed _).mp listed).2 row stored rfl
    have after := rotated_preparation work.completed work.voided stored
      (issued.of_preparation stored)
    rwa [if_neg (by simp [active])] at after

theorem Retirement.present (issued : IssuedUnder store creator owner)
    (outstanding : Outstanding store owner) :
    ∃ item ∈ (preparations.filter (isVoidable creator.id creator.bitcoinAccountGeneration)).map
        (fun row => rotationItem rotationId (.marketplace row.id) .preparationVoided) ++ items,
      item.ownedBy owner := by
  rcases work.turn booked settled issued with
    ⟨listed, -⟩ | ⟨row, stored, rfl, issued, inactive, -, -⟩
  · obtain ⟨item, member, owned⟩ := work.itemsOf.present owner listed
    exact ⟨item, List.mem_append_right _ member, owned⟩
  · obtain ⟨member, owned, generation⟩ :=
      (mem_completed work.completed).mpr ⟨row, stored, issued, rfl⟩
    have prepared : (row.complete creator).state = .prepared := by
      have outstanding := outstanding row stored rfl
      cases state : row.state <;> simp_all [Preparation.complete]
    refine ⟨_, List.mem_append_left _ (List.mem_map_of_mem (List.mem_filter.mpr ⟨member, ?_⟩)),
      rfl, rfl⟩
    simp [isVoidable, owned, generation, prepared]

end Owners

theorem Retirement.named {item : RotationItem}
    (noted : item ∈ (preparations.filter
        (isVoidable creator.id creator.bitcoinAccountGeneration)).map
          (fun row => rotationItem rotationId (.marketplace row.id) .preparationVoided) ++ items) :
    item.rotationId = rotationId ∧ ∃ owner, IssuedUnder store creator owner ∧
      item.ownedBy owner := by
  rcases List.mem_append.mp noted with voided | retired
  · obtain ⟨row', member, rfl⟩ := List.mem_map.mp voided
    obtain ⟨member, voidable⟩ := List.mem_filter.mp member
    simp only [isVoidable, Bool.and_eq_true, decide_eq_true_eq] at voidable
    obtain ⟨row, stored, issued, rfl⟩ := (mem_completed work.completed).mp ⟨member, voidable.1⟩
    exact ⟨rfl, _, .preparation row stored issued, rfl, rfl⟩
  · obtain ⟨named, -, owner, listed, owned⟩ := work.itemsOf.named item retired
    exact ⟨named, owner, ((work.listed owner).mp listed).1, owned⟩

theorem Retirement.rotates (booked : Booked d store) (settled : AttemptsSettled store)
    (proposed : Proposed store') : ∃ items, Rotates store store' creator rotation items := by
  obtain ⟨distinct, canceledCount, voidedCount⟩ :=
    voidedItems_append (work.unique.filter _) work.itemsOf work.nodup
  refine ⟨_, ?sound, ?voided, fun _ issued none _ => work.failed booked settled proposed issued none,
    ?canceled, ?kept, work.frame, ⟨_, work.recorded, rfl, rfl, rfl, rfl, fun _ => work.named⟩,
    fun _ => work.present booked settled, distinct, canceledCount,
    voidedCount.trans work.voidedCount.symm⟩
  case sound =>
    intro owner issued attempt attempted
    obtain ⟨-, retired⟩ := work.attempted booked settled issued attempted
    exact retired.sound attempt (work.attempts owner ▸ attempted)
  case voided =>
    intro row stored issued prepared
    have after := rotated_preparation work.completed work.voided stored issued
    rwa [if_pos prepared] at after
  case canceled =>
    intro owner issued attempt attempted state
    obtain ⟨-, retired⟩ := work.attempted booked settled issued attempted
    obtain ⟨row, stored, sender, cancels⟩ :=
      retired.canceled attempt (work.attempts owner ▸ attempted) state
    exact ⟨row, stored, sender, cancels, fun other stored' cancels' =>
      cancels'.unique stored' stored cancels⟩
  case kept =>
    rintro owner issued ⟨attempt, attempted, -⟩
    exact work.kept booked settled issued attempted

end Requests

end Rotation

/-- In every store that a run reaches, a rotation that succeeds accounts for every
request of the old account; one that meets an attempt in conflict or in need of
recovery fails and changes nothing. -/
theorem rotation_accounts_for_requests (d : Deployment) (start : OffsetDateTime)
    (operations : List Operation) (replacement : CreatorCredentials) (evidence : List String) :
    let store := storeAfter d start operations
    let rotated := rotateBitcoinAccountAfterReceive d.crypto d.sdk store replacement evidence
    let operation := Operation.rotateBitcoinAccount replacement evidence
    (∀ rotation store', rotated = .ok (rotation, store') →
      (ledger d).commit store operation = store' ∧ ∃ creator items,
        store.creatorByHash (textHash d.crypto replacement.creator) = some creator ∧
          Rotates store store' creator rotation items) ∧
    ∀ creator owner, store.creatorByHash (textHash d.crypto replacement.creator) = some creator →
      IssuedUnder store creator owner → ∀ attempt ∈ store.lifecyclesOf owner,
        attempt.requestState = .invalidConflict ∨ attempt.requestState = .recoveryRequired →
          (∃ e, rotated = .error e) ∧ (ledger d).commit store operation = store := by
  intro store rotated operation
  have succeeds : ∀ rotation store', rotated = .ok (rotation, store') →
      (ledger d).commit store operation = store' ∧ ∃ creator items,
        store.creatorByHash (textHash d.crypto replacement.creator) = some creator ∧
          Rotates store store' creator rotation items := by
    intro rotation store' done
    have operated : operate d store operation = .ok store' :=
      persist_eq_ok.mpr (map_eq_ok.mpr ⟨_, done, rfl⟩)
    obtain ⟨creator, found, existing, _, _, _, done⟩ := bind₃_eq_ok.mp done
    obtain ⟨_, _, done⟩ := bind_eq_ok.mp done
    have found := demand_eq_ok.mp found
    obtain ⟨_, _, _, _, work⟩ := retireBitcoinAccount_retirement (lookup_mem found) done
    obtain ⟨items, rotates⟩ := work.rotates (booked_storeAfter d start operations)
      storeAfter_attemptsSettled (storeAfter_proposed.step (operate_effect operated))
    exact ⟨commit_of_operate operated, creator, items, found, rotates⟩
  refine ⟨succeeds, fun creator owner found issued attempt attempted unsound => ?_⟩
  cases done : rotated with
  | ok result =>
    obtain ⟨-, creator', items, found', rotates⟩ := succeeds result.1 result.2 done
    obtain rfl := Option.some.inj (found.symm.trans found')
    obtain ⟨unambiguous, recovered⟩ := rotates.sound owner issued attempt attempted
    exact (unsound.elim unambiguous recovered).elim
  | error e =>
    have failed : operate d store operation = .error (.persistence e) := by
      change persist (Prod.snd <$> rotated) = _
      rw [done]
      rfl
    exact ⟨⟨e, rfl⟩, commit_of_failed failed⟩

end PaykitServer
