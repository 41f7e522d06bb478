import PaykitServer.Ledger.Effects

/-!
# What happens to outbox rows

Claims, worker statements, rotations and drains all rewrite outbox rows. `Rewrites`
lists what a committed operation may do to one stored row and `Enqueued` which
rows it may add. From these follow the fences of a claim: only the holder of the
latest token changes a row, terminal rows are left alone, and the SDK identifiers
of a handoff are final.
-/

namespace PaykitServer

open Domain Persistence Application
open MarketplacePreparations Relational

/-- Statuses that no claim leaves. -/
def Persistence.OutboxStatus.isTerminal : OutboxStatus → Bool
  | .delivered | .permanentlyFailed => true
  | .queued | .leased | .retryable | .handedOff => false

def Persistence.OutboxRow.sdkIdentifiers (row : OutboxRow) :
    Option Nat × Option String × Option String :=
  (row.sdkOutboundMessageId, row.sdkEventId, row.sdkPaymentRequestId)

def Persistence.OutboxRow.requireForDrain (row : OutboxRow) : OutboxRow :=
  { row with cancellationDrainRequired := true }

/-- What one operation does to a stored outbox row; identities below `next` are
drawn when it is done. -/
inductive Rewrites (store : Store) (next : Uuid) : Operation → OutboxRow → OutboxRow → Prop where
  | same (operation : Operation) (row : OutboxRow) : Rewrites store next operation row row
  | claimed (owner : Uuid) (limit leaseSeconds : Nat) (creatorId : Option Uuid)
      (locked : Uuid → Bool) (row : OutboxRow) (token : Uuid) (low : store.db.nextUuid ≤ token)
      (high : token < next) (due : Outbox.due store.clock row = true)
      (permitted : Outbox.handoffPermitted store row = true) :
      Rewrites store next (.claim owner limit leaseSeconds creatorId locked) row
        (Outbox.lease owner token (store.clock + seconds leaseSeconds) .leased row)
  | reclaimed (owner : Uuid) (limit leaseSeconds : Nat) (creators : Option (List Uuid))
      (locked : Uuid → Bool) (row : OutboxRow) (token : Uuid) (low : store.db.nextUuid ≤ token)
      (high : token < next) (handedOff : row.status = .handedOff) :
      Rewrites store next (.claimReconciliation owner limit leaseSeconds creators locked) row
        (Outbox.lease owner token (store.clock + seconds leaseSeconds) .handedOff row)
  | worked (step : WorkerStep) (row : OutboxRow) (named : row.id = step.rowId)
      (held : Outbox.held store.clock step.claimedAs step.claimToken row = true)
      (permitted : step.Permitted store row) :
      Rewrites store next (.work step) row (step.update store.clock row)
  | suppressed (replacement : CreatorCredentials) (evidence : List String) (row : OutboxRow)
      (proposal : row.intentKind = .paymentRequestProposal)
      (waiting : row.status = .queued ∨ row.status = .retryable ∨ row.status = .leased) :
      Rewrites store next (.rotateBitcoinAccount replacement evidence) row (Creators.suppress row)
  | required (lock : PubkyLockResource) (evidence : Option (List String)) (row : OutboxRow)
      (cancellation : row.intentKind = .paymentRequestCancellation)
      (open_ : row.status ≠ .permanentlyFailed) :
      Rewrites store next (.createDrain lock evidence) row row.requireForDrain

inductive Enqueued (store : Store) : Operation → OutboxRow → Prop where
  | invoiceProposal (operation : Operation) (admission : operation.isAdmission = true)
      (id creatorId invoiceId : Uuid) (intent : DeliveryIntentV1) (hash : LookupHash) :
      Enqueued store operation
        (proposalOutboxRow id creatorId (some invoiceId) none intent hash store.clock)
  | marketplaceProposal (input : MarketplaceActivationInput) (id creatorId : Uuid)
      (intent : DeliveryIntentV1) (hash : LookupHash) :
      Enqueued store (.activate input)
        (proposalOutboxRow id creatorId none (some input.invoiceId) intent hash store.clock)
  | rotationCancellation (replacement : CreatorCredentials) (evidence : List String)
      (id creatorId : Uuid) (owner : LifecycleOwner) (intent : DeliveryIntentV1) (target : String)
      (now : OffsetDateTime) :
      Enqueued store (.rotateBitcoinAccount replacement evidence)
        (Creators.cancellationOutboxRow id creatorId owner intent target false now)
  | drainCancellation (lock : PubkyLockResource) (evidence : Option (List String))
      (id creatorId invoiceId : Uuid) (intent : DeliveryIntentV1) (target : String)
      (now : OffsetDateTime) :
      Enqueued store (.createDrain lock evidence)
        (Creators.cancellationOutboxRow id creatorId (.invoice invoiceId) intent target true now)

/-- The columns that say what is delivered, for whom and to whom. -/
structure SameDelivery (row row' : OutboxRow) : Prop where
  id : row'.id = row.id
  creatorId : row'.creatorId = row.creatorId
  invoiceId : row'.invoiceId = row.invoiceId
  marketplacePreparationId : row'.marketplacePreparationId = row.marketplacePreparationId
  intent : row'.intent = row.intent
  intentKind : row'.intentKind = row.intentKind
  cancellationTarget : row'.cancellationTarget = row.cancellationTarget
  proposalLookupHash : row'.proposalLookupHash = row.proposalLookupHash

theorem SameDelivery.refl (row : OutboxRow) : SameDelivery row row :=
  ⟨rfl, rfl, rfl, rfl, rfl, rfl, rfl, rfl⟩

theorem SameDelivery.trans {a b c : OutboxRow} (first : SameDelivery a b)
    (second : SameDelivery b c) : SameDelivery a c where
  id := second.id.trans first.id
  creatorId := second.creatorId.trans first.creatorId
  invoiceId := second.invoiceId.trans first.invoiceId
  marketplacePreparationId :=
    second.marketplacePreparationId.trans first.marketplacePreparationId
  intent := second.intent.trans first.intent
  intentKind := second.intentKind.trans first.intentKind
  cancellationTarget := second.cancellationTarget.trans first.cancellationTarget
  proposalLookupHash := second.proposalLookupHash.trans first.proposalLookupHash

theorem WorkerStep.update_delivery (now : OffsetDateTime) (step : WorkerStep) (row : OutboxRow) :
    SameDelivery row (step.update now row) := by
  cases step <;> exact ⟨rfl, rfl, rfl, rfl, rfl, rfl, rfl, rfl⟩

namespace Rewrites

variable {store : Store} {next : Uuid} {operation : Operation} {row row' : OutboxRow}

theorem delivery (rewrites : Rewrites store next operation row row') : SameDelivery row row' := by
  cases rewrites with
  | worked step => exact step.update_delivery _ _
  | same | claimed | reclaimed | suppressed | required =>
    exact ⟨rfl, rfl, rfl, rfl, rfl, rfl, rfl, rfl⟩

theorem held_iff {now : OffsetDateTime} {status : OutboxStatus} {token : Uuid} :
    Outbox.held now status token row = true ↔ row.status = status ∧
      row.claimToken = some token ∧ ∃ expiry ∈ row.leaseExpiresAt, now < expiry := by
  simp [Outbox.held, and_assoc, Option.any_eq_true, Option.mem_def]

theorem terminal (rewrites : Rewrites store next operation row row')
    (ended : row.status.isTerminal = true) :
    row' = row ∨ (∃ lock evidence, operation = .createDrain lock evidence) ∧
      row.status = .delivered ∧ row.intentKind = .paymentRequestCancellation ∧
      row' = row.requireForDrain := by
  cases rewrites with
  | same => exact .inl rfl
  | claimed _ _ _ _ _ _ token _ _ due =>
    cases status : row.status <;> simp [status, OutboxStatus.isTerminal, Outbox.due] at ended due
  | reclaimed _ _ _ _ _ _ token _ _ handedOff => simp [handedOff, OutboxStatus.isTerminal] at ended
  | worked step _ _ held =>
    have claimed := (held_iff.mp held).1
    cases step <;> simp [claimed, WorkerStep.claimedAs, OutboxStatus.isTerminal] at ended
  | suppressed _ _ _ _ waiting =>
    rcases waiting with status | status | status <;> simp [status, OutboxStatus.isTerminal] at ended
  | required lock evidence _ cancellation open_ =>
    refine .inr ⟨⟨lock, evidence, rfl⟩, ?_, cancellation, rfl⟩
    cases status : row.status <;> simp_all [OutboxStatus.isTerminal]

theorem delivered (rewrites : Rewrites store next operation row row')
    (ended : row'.status = .delivered) : row.status = .delivered ∨ row.status = .handedOff := by
  cases rewrites with
  | same => exact .inl ended
  | claimed => cases ended
  | reclaimed => cases ended
  | worked step _ _ held =>
    have claimed := (held_iff.mp held).1
    cases step with
    | renewClaim => exact .inl ended
    | markDelivered => exact .inr claimed
    | markHandedOff | markPermanentlyFailed | markProposalExpired | markRetryable
    | markCancellationObsolete | markReconciliationPermanentlyFailed | retryReconciliation =>
      cases ended
  | suppressed => cases ended
  | required => exact .inl ended

theorem identifiers (rewrites : Rewrites store next operation row row')
    (handed : row.sdkOutboundMessageId.isSome → row.status = .handedOff ∨ row.status.isTerminal) :
    (row.sdkOutboundMessageId.isSome → row'.sdkIdentifiers = row.sdkIdentifiers) ∧
      (row'.sdkOutboundMessageId.isSome → row'.status = .handedOff ∨ row'.status.isTerminal) := by
  cases rewrites with
  | same => exact ⟨fun _ => rfl, handed⟩
  | claimed _ _ _ _ _ _ token _ _ due =>
    refine ⟨fun _ => rfl, fun present => absurd (handed present) ?_⟩
    cases status : row.status <;> simp [status, Outbox.due, OutboxStatus.isTerminal] at due ⊢
  | reclaimed => exact ⟨fun _ => rfl, fun _ => .inl rfl⟩
  | suppressed => exact ⟨fun _ => rfl, fun _ => .inr rfl⟩
  | required => exact ⟨fun _ => rfl, handed⟩
  | worked step _ _ held =>
    have claimed := (held_iff.mp held).1
    -- a leased row has no identifiers yet
    have unsent : row.status = .leased → ¬ row.sdkOutboundMessageId.isSome := by
      intro leased present
      simpa [leased, OutboxStatus.isTerminal] using handed present
    cases step with
    | renewClaim => exact ⟨fun _ => rfl, handed⟩
    | markHandedOff => exact ⟨fun present => absurd present (unsent claimed), fun _ => .inl rfl⟩
    | markRetryable => exact ⟨fun _ => rfl, fun present => absurd present (unsent claimed)⟩
    | retryReconciliation => exact ⟨fun _ => rfl, fun _ => .inl rfl⟩
    | markPermanentlyFailed | markProposalExpired | markCancellationObsolete | markDelivered
    | markReconciliationPermanentlyFailed => exact ⟨fun _ => rfl, fun _ => .inr rfl⟩

end Rewrites

theorem Enqueued.queued {store : Store} {operation : Operation} {row : OutboxRow}
    (enqueued : Enqueued store operation row) :
    row.status = .queued ∧ row.claimToken = none ∧ row.sdkOutboundMessageId = none := by
  cases enqueued <;> exact ⟨rfl, rfl, rfl⟩

section Step

variable {d : Deployment} {store store' : Store} {operation : Operation} {next : Uuid}
variable {row row' : OutboxRow}

theorem chosen_row {chosen : List OutboxRow} {P : OutboxRow → Prop}
    (due : ∀ row ∈ chosen, row ∈ store.outbox.rows ∧ P row) (stored : row ∈ store.outbox.rows)
    (listed : row.id ∈ chosen.map (·.id)) : row ∈ store.outbox.rows ∧ P row := by
  obtain ⟨other, member, same⟩ := List.mem_map.mp listed
  obtain rfl := store.outbox.valid.1.eq_of_key (due other member).1 stored (congrArg some same) rfl
  exact due other member

theorem operate_outbox (effect : Effect d store operation store') :
    Grows (Rewrites store store'.db.nextUuid operation) (Enqueued store operation)
      store.outbox.rows store'.outbox.rows := by
  cases effect with
  | unchanged | ticked | created | reauthenticated | completed | quoted | voided | resolved
  | reported | drainRead | cleaned | observed => exact .refl fun row _ => .same _ row
  | rotated =>
    rename_i suppresses _ _
    refine suppresses.mono ?_ ?_
    · rintro row - _ (_ | ⟨_, proposal, waiting⟩)
      · exact .same _ row
      · exact .suppressed _ _ row proposal waiting
    · rintro _ ⟨id, creatorId, owner, intent, target, now, rfl⟩
      exact .rotationCancellation _ _ id creatorId owner intent target now
  | admitted _ isAdmission =>
    rename_i enqueued _ _ _
    rw [enqueued]
    exact .concat (fun row _ => .same _ row) (.invoiceProposal _ isAdmission _ _ _ _ _)
  | activated input creator row =>
    rename_i stored _ _ _ _ _ _ enqueued _ _
    rw [enqueued]
    refine .concat (fun row _ => .same _ row) ?_
    rw [Store.preparation_id stored]
    exact .marketplaceProposal input _ _ _ _
  | claimed owner limit leaseSeconds creatorId locked chosen outbox next order due grows =>
    refine grows.mono ?_ fun _ => False.elim
    rintro row stored row' (⟨-, same⟩ | ⟨listed, token, low, high, rfl⟩)
    · rw [same]
      exact .same _ row
    · obtain ⟨_, waiting, permitted⟩ := chosen_row due stored listed
      exact .claimed _ _ _ _ _ row token low high waiting permitted
  | reclaimed owner limit leaseSeconds creators locked chosen outbox next order due grows =>
    refine grows.mono ?_ fun _ => False.elim
    rintro row stored row' (⟨-, same⟩ | ⟨listed, token, low, high, rfl⟩)
    · rw [same]
      exact .same _ row
    · obtain ⟨_, handedOff, -⟩ := chosen_row due stored listed
      exact .reclaimed _ _ _ _ _ row token low high handedOff
  | worked step outbox condition rows fenced =>
    rw [rows]
    refine .updateWhere (fun row _ _ => .same _ row) fun row _ met => ?_
    obtain ⟨named, met⟩ := Bool.and_eq_true_iff.mp met
    obtain ⟨held, permitted⟩ := (fenced row).mp met
    exact .worked step row (of_decide_eq_true named) held permitted
  | drained =>
    rename_i requires _
    refine requires.mono ?_ ?_
    · rintro row - _ (_ | ⟨cancellation, open_⟩)
      · exact .same _ row
      · exact .required _ _ row cancellation open_
    · rintro _ ⟨id, creatorId, invoiceId, intent, target, now, rfl⟩
      exact .drainCancellation _ _ id creatorId invoiceId intent target now

theorem outboxRow_rewritten (effect : Effect d store operation store') {id : Uuid}
    (found : store.outboxRow id = some row) :
    ∃ row', store'.outboxRow id = some row' ∧
      Rewrites store store'.db.nextUuid operation row row' := by
  refine ((operate_outbox effect).lookup ?_).1 row found
  intro row row' rewrites
  rw [rewrites.delivery.id]

theorem outboxRow_enqueued (effect : Effect d store operation store') {id : Uuid}
    (missing : store.outboxRow id = none) (found : store'.outboxRow id = some row') :
    Enqueued store operation row' := by
  refine ((operate_outbox effect).lookup ?_).2 missing row' found
  intro row row' rewrites
  rw [rewrites.delivery.id]

end Step

/-- What stays of a row in all its later versions. -/
structure Continues (row row' : OutboxRow) : Prop where
  delivery : SameDelivery row row'
  terminal : row.status.isTerminal = true → row' = row ∨ row.status = .delivered ∧
    row.intentKind = .paymentRequestCancellation ∧ row' = row.requireForDrain
  identifiers : row.sdkOutboundMessageId.isSome → row'.sdkIdentifiers = row.sdkIdentifiers

namespace Continues

theorem refl (row : OutboxRow) : Continues row row :=
  ⟨.refl row, fun _ => .inl rfl, fun _ => rfl⟩

theorem trans {a b c : OutboxRow} (first : Continues a b) (second : Continues b c) :
    Continues a c := by
  refine ⟨first.delivery.trans second.delivery, ?_, ?_⟩
  · intro ended
    rcases first.terminal ended with rfl | ⟨delivered, cancellation, rfl⟩
    · exact second.terminal ended
    · rcases second.terminal ended with rfl | ⟨-, -, rfl⟩ <;>
        exact .inr ⟨delivered, cancellation, rfl⟩
  · intro present
    have same := first.identifiers present
    have kept : b.sdkOutboundMessageId = a.sdkOutboundMessageId := congrArg Prod.fst same
    exact (second.identifiers (kept ▸ present)).trans same

end Continues

def IdentifiersFollowHandoff (store : Store) : Prop :=
  ∀ row ∈ store.outbox.rows,
    row.sdkOutboundMessageId.isSome → row.status = .handedOff ∨ row.status.isTerminal

section Runs

variable {d : Deployment} {start : OffsetDateTime} {store store' : Store} {operation : Operation}
variable {operations : List Operation} {id : Uuid} {row : OutboxRow}

theorem identifiersFollowHandoff_step (effect : Effect d store operation store')
    (follow : IdentifiersFollowHandoff store) : IdentifiersFollowHandoff store' := by
  intro row' stored present
  rcases (operate_outbox effect).of_mem stored with ⟨row, member, rewrites⟩ | enqueued
  · exact (rewrites.identifiers (follow row member)).2 present
  · simp [enqueued.queued.2.2] at present

theorem identifiersFollowHandoff_storeAfter :
    IdentifiersFollowHandoff (storeAfter d start operations) :=
  storeAfter_invariant (fun _ member => absurd member (by simp [Store.empty]))
    fun _ _ _ follow done => identifiersFollowHandoff_step (operate_effect done) follow

theorem run_outboxRow (follow : IdentifiersFollowHandoff store)
    (found : store.outboxRow id = some row) :
    ∃ row', ((ledger d).run store operations).outboxRow id = some row' ∧ Continues row row' := by
  refine (ledger_invariant (P := fun later => IdentifiersFollowHandoff later ∧
    ∃ row', later.outboxRow id = some row' ∧ Continues row row') ?_ ⟨follow, row, found, .refl row⟩).2
  rintro store operation store' ⟨follow, row', found, continues⟩ done
  have effect := operate_effect done
  obtain ⟨row'', found', rewrites⟩ := outboxRow_rewritten effect found
  refine ⟨identifiersFollowHandoff_step effect follow, row'', found', continues.trans ?_⟩
  refine ⟨rewrites.delivery, ?_, (rewrites.identifiers (follow row' (lookup_mem found))).1⟩
  intro ended
  exact (rewrites.terminal ended).imp_right And.right

def Operation.isClaim : Operation → Bool
  | .claim .. | .claimReconciliation .. => true
  | _ => false

def claimedUnder (transition : Transition Store Operation) (id : Uuid) : Option Uuid :=
  if transition.action.isClaim ∧ transition.after.outboxRow id ≠ transition.before.outboxRow id then
    (transition.after.outboxRow id).bind (·.claimToken)
  else none

def mostRecentToken (history : List (Transition Store Operation)) (id : Uuid) : Option Uuid :=
  history.foldl (fun recent transition => (claimedUnder transition id).or recent) none

variable {history : List (Transition Store Operation)} {transition : Transition Store Operation}

theorem mostRecentToken_append :
    mostRecentToken (history ++ [transition]) id =
      (claimedUnder transition id).or (mostRecentToken history id) := by
  simp [mostRecentToken]

theorem Rewrites.claimToken {next : Uuid} {row' : OutboxRow} {token : Uuid}
    (rewrites : Rewrites store next operation row row') (unclaimed : operation.isClaim = false)
    (holds : row'.claimToken = some token) : row.claimToken = some token := by
  cases rewrites with
  | same => exact holds
  | claimed => cases unclaimed
  | reclaimed => cases unclaimed
  | suppressed => cases holds
  | required => exact holds
  | worked step =>
    cases step with
    | renewClaim => exact holds
    | markHandedOff | markPermanentlyFailed | markProposalExpired | markRetryable
    | markCancellationObsolete | markDelivered | markReconciliationPermanentlyFailed
    | retryReconciliation => cases holds

theorem mostRecentToken_step (effect : Effect d store operation store')
    (recent : ∀ id row token, store.outboxRow id = some row → row.claimToken = some token →
      mostRecentToken history id = some token) :
    ∀ id row token, store'.outboxRow id = some row → row.claimToken = some token →
      mostRecentToken (history ++ [⟨store, operation, store'⟩]) id = some token := by
  intro id row' token found' holds
  rw [mostRecentToken_append, claimedUnder]
  cases found : store.outboxRow id with
  | none => simp [(outboxRow_enqueued effect found found').queued.2.1] at holds
  | some row =>
    obtain ⟨other, located, rewrites⟩ := outboxRow_rewritten effect found
    obtain rfl : other = row' := Option.some.inj (located.symm.trans found')
    by_cases claims : operation.isClaim = true ∧ store'.outboxRow id ≠ some row
    · rw [if_pos claims, found']
      simp [holds]
    · have kept : row.claimToken = some token := by
        cases claim : operation.isClaim with
        | true =>
          obtain rfl : other = row := by simpa [claim, found'] using claims
          exact holds
        | false => exact rewrites.claimToken claim holds
      rw [if_neg claims, Option.none_or]
      exact recent id row token found kept

/-- The fences around one change of a row, after the operations that committed
before: a worker's statement needs the row's most recent token and a running lease, a
terminal row stays unless a drain requires a delivered cancellation, and only a
handed-off row is delivered. -/
structure Fenced (earlier : List (Transition Store Operation))
    (transition : Transition Store Operation) (id : Uuid) (row row' : OutboxRow) : Prop where
  worker : ∀ step, transition.action = .work step → row' ≠ row →
    row.claimToken = some step.claimToken ∧ mostRecentToken earlier id = some step.claimToken ∧
      ∃ expiry ∈ row.leaseExpiresAt, transition.before.clock < expiry
  terminal : row.status.isTerminal = true → row' = row ∨
    (∃ lock evidence, transition.action = .createDrain lock evidence) ∧
      row.status = .delivered ∧ row.intentKind = .paymentRequestCancellation ∧
      row' = row.requireForDrain
  delivered : row'.status = .delivered → row.status = .delivered ∨ row.status = .handedOff

theorem changes_fenced {earlier later : List (Transition Store Operation)}
    (split : committedOperations d start operations = earlier ++ transition :: later) :
    (∀ id row, transition.before.outboxRow id = some row →
      ∃ row', transition.after.outboxRow id = some row' ∧
        Fenced earlier transition id row row') ∧
    ∀ id row', transition.before.outboxRow id = none →
      transition.after.outboxRow id = some row' → row'.status = .queued := by
  refine System.history_split_rule
    (fun history store => ∀ id row token, store.outboxRow id = some row →
      row.claimToken = some token → mostRecentToken history id = some token)
    (fun earlier transition =>
      (∀ id row, transition.before.outboxRow id = some row →
        ∃ row', transition.after.outboxRow id = some row' ∧
          Fenced earlier transition id row row') ∧
      ∀ id row', transition.before.outboxRow id = none →
        transition.after.outboxRow id = some row' → row'.status = .queued) ?_ ?_ split
  · intro history store operation store' recent done
    have effect := operate_effect done
    refine ⟨mostRecentToken_step effect recent, ?_, ?_⟩
    · intro id row found
      obtain ⟨row', found', rewrites⟩ := outboxRow_rewritten effect found
      refine ⟨row', found', ?_, rewrites.terminal, rewrites.delivered⟩
      rintro step rfl changed
      cases rewrites with
      | same => exact absurd rfl changed
      | worked _ _ _ held =>
        obtain ⟨-, token, running⟩ := Rewrites.held_iff.mp held
        exact ⟨token, recent id row _ found token, running⟩
    · intro id row' missing found
      exact (outboxRow_enqueued effect missing found).queued.1
  · intro id row token found
    cases found

/-- Outbox claims are fenced in every run of operations. Around every change the
fences hold; and from any point on a row stays stored, a terminal one unchanged up to
the drain's mark on a delivered cancellation, and the SDK identifiers of a handoff are
final. -/
theorem outbox_claims_fenced (d : Deployment) (start : OffsetDateTime)
    (operations : List Operation) :
    (∀ earlier transition later,
      committedOperations d start operations = earlier ++ transition :: later →
      (∀ id row, transition.before.outboxRow id = some row →
        ∃ row', transition.after.outboxRow id = some row' ∧
          Fenced earlier transition id row row') ∧
      ∀ id row', transition.before.outboxRow id = none →
        transition.after.outboxRow id = some row' → row'.status = .queued) ∧
    ∀ first rest, operations = first ++ rest →
      ∀ id row, (storeAfter d start first).outboxRow id = some row →
        ∃ row', (storeAfter d start operations).outboxRow id = some row' ∧
          (row.status.isTerminal = true → row' = row ∨
            row.status = .delivered ∧ row.intentKind = .paymentRequestCancellation ∧
              row' = row.requireForDrain) ∧
          (row.sdkOutboundMessageId.isSome → row'.sdkIdentifiers = row.sdkIdentifiers) := by
  refine ⟨fun _ _ _ split => changes_fenced split, ?_⟩
  rintro first rest rfl id row found
  rw [storeAfter_append]
  obtain ⟨row', found', continues⟩ := run_outboxRow identifiersFollowHandoff_storeAfter found
  exact ⟨row', found', continues.terminal, continues.identifiers⟩

end Runs

namespace Sample

/-- An invoice's proposal is delivered and reported, a rotation cancels it, and the
cancellation is delivered. -/
def canceledByRotation : List Operation :=
  [.createCreator (credentials "old"), .createInvoice bundle] ++
    deliver 3 4 (.paymentRequestProposal 1 "event" "request") ++
    [report .proposed, .rotateBitcoinAccount (credentials "new") ["reader"]] ++
    deliver 7 8 (.paymentRequestCancellation 2 "event" "request")

end Sample

/-- A drain changes a delivered cancellation whose request is still reported proposed. -/
theorem drain_marks_delivered_cancellation :
    ∃ row row', (storeAfter Sample.deployment 0 Sample.canceledByRotation).outboxRow 7 =
        some row ∧ row.status = .delivered ∧
      (storeAfter Sample.deployment 0 (Sample.canceledByRotation ++
        [.createDrain Sample.lock (some ["reader"])])).outboxRow 7 = some row' ∧ row' ≠ row := by
  have before : ((storeAfter Sample.deployment 0 Sample.canceledByRotation).outboxRow 7).map
      (fun row => (row.status, row.cancellationDrainRequired)) = some (.delivered, false) := by
    decide +kernel
  have after : ((storeAfter Sample.deployment 0 (Sample.canceledByRotation ++
      [.createDrain Sample.lock (some ["reader"])])).outboxRow 7).map
      (fun row => (row.status, row.cancellationDrainRequired)) = some (.delivered, true) := by
    decide +kernel
  obtain ⟨row, found, columns⟩ := Option.map_eq_some_iff.mp before
  obtain ⟨row', found', columns'⟩ := Option.map_eq_some_iff.mp after
  refine ⟨row, row', found, congrArg Prod.fst columns, found', ?_⟩
  rintro rfl
  simpa using (congrArg Prod.snd columns).symm.trans (congrArg Prod.snd columns')

end PaykitServer
