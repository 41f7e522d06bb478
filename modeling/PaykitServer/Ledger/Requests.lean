import PaykitServer.Ledger.Effects
import PaykitServer.Settlement.Records

/-!
# What happens to creators, invoices and preparations

Read off the effects of an operation, table by table: a creator keeps its identity
and its child-index counter only counts up, an admitted invoice never changes, and a
preparation keeps its quote while its lifecycle moves forward.
-/

namespace PaykitServer

open Domain Persistence Application
open MarketplacePreparations Relational

/-- The operations that issue requests, each with a child index of its own. -/
def Operation.issues : Operation → Bool
  | .createInvoice _ | .createProviderV2 _ | .prepare .. => true
  | _ => false

theorem Operation.issues_of_isAdmission {operation : Operation}
    (isAdmission : operation.isAdmission = true) : operation.issues = true := by
  cases operation <;> first | rfl | cases isAdmission

/-- What one operation does to a creator's row: its credentials may be replaced, with
the account generation never going back, or its child index is consumed. -/
inductive CreatorMoves : Operation → CreatorRow → CreatorRow → Prop where
  | kept (operation : Operation) (row : CreatorRow) (credentials : CreatorCredentials)
      (generation : Int) (order : row.bitcoinAccountGeneration ≤ generation) :
      CreatorMoves operation row
        { row with credentials := credentials, bitcoinAccountGeneration := generation }
  | advanced (operation : Operation) (row : CreatorRow) (issues : operation.issues = true) :
      CreatorMoves operation row { row with nextChildIndex := row.nextChildIndex + 1 }

theorem CreatorMoves.same (operation : Operation) (row : CreatorRow) :
    CreatorMoves operation row row :=
  .kept operation row row.credentials row.bitcoinAccountGeneration le_rfl

inductive Moves (store : Store) : Operation → Preparation → Preparation → Prop where
  | same (operation : Operation) (row : Preparation) : Moves store operation row row
  | completed (operation : Operation) (row : Preparation) (generation : Option Int) :
      Moves store operation row { row with bitcoinAccountGeneration := generation }
  | voided (operation : Operation) (row : Preparation) (generation : Option Int)
      (prepared : row.state = .prepared) :
      Moves store operation row { row with
        bitcoinAccountGeneration := generation
        state := .voided
        voidedAt := some store.clock }
  | activated (input : MarketplaceActivationInput) (row : Preparation)
      (paymentDeadline : OffsetDateTime) (named : row.id = input.invoiceId)
      (prepared : row.state = .prepared) (unresolved : row.resolvedAt = none)
      (inTime : store.clock < row.prepareExpiresAt)
      (due : paymentDeadline = store.clock + seconds row.envelope.paymentWindowSeconds) :
      Moves store (.activate input) row (activatedPreparation row store.clock paymentDeadline)
  | resolved (creator : String) (invoiceId : Uuid) (outcome : MarketplaceResolutionOutcome)
      (row : Preparation) (unresolved : row.businessOutcome = none ∧ row.resolvedAt = none) :
      Moves store (.resolve creator invoiceId outcome) row
        (resolvedPreparation row outcome store.clock)

/-- The row of a new preparation, with the quote it was accepted under. -/
inductive Quotes (d : Deployment) (store : Store) : Operation → Preparation → Prop where
  | quoted (input : MarketplacePreparationInput) (waited : Nat) (creator : CreatorRow)
      (intent : DeliveryIntentV1) (result : MarketplacePreparationResult)
      (deadline : OffsetDateTime)
      (fixed : OffsetDateTime.checkedAdd (store.clock - waited) (seconds input.prepareTtlSeconds) =
        some deadline)
      (found : creator ∈ store.creators.rows)
      (quote : Quoted d.sdk store { input with prepareDeadline := some deadline } creator intent
        result) :
      Quotes d store (.prepare input (some waited)) (quotedPreparation d.crypto
        { input with prepareDeadline := some deadline } creator intent result)

section Step

variable {d : Deployment} {store store' : Store} {operation : Operation}

theorem preparation_of_mem {row : Preparation} (member : row ∈ store.preparations.rows) :
    store.preparation row.id = some row :=
  (lookup_eq_some_iff store.preparations.valid.1).mpr ⟨member, rfl⟩

theorem activationTimes_ok {now proposalExpiresAt paymentDeadline : OffsetDateTime}
    {window acceptance : Nat}
    (done : activationTimes now window acceptance = .ok (proposalExpiresAt, paymentDeadline)) :
    paymentDeadline = now + seconds window ∧
      proposalExpiresAt = now + min (seconds acceptance) (seconds window / 2) := by
  obtain ⟨_, _, _, due, _, _, done⟩ := bind₃_eq_ok.mp done
  obtain ⟨_, expires, done⟩ := bind_eq_ok.mp done
  cases done
  exact ⟨(OffsetDateTime.checkedAdd_eq_some.mp (demand_eq_ok.mp due)).2,
    (OffsetDateTime.checkedAdd_eq_some.mp (demand_eq_ok.mp expires)).2⟩

theorem operate_creators (effect : Effect d store operation store') :
    Grows (CreatorMoves operation) (fun row => store.db.nextUuid = row.id ∧ row.nextChildIndex = 0)
      store.creators.rows store'.creators.rows := by
  cases effect with
  | unchanged | ticked | completed | activated | voided | resolved | claimed | reclaimed | worked
  | reported | drained | drainRead | cleaned | observed => exact .refl fun row _ => .same _ row
  | created _ _ rows =>
    rw [rows]
    exact .concat (fun row _ => .same _ row) ⟨rfl, rfl⟩
  | reauthenticated _ _ _ _ rows =>
    rw [rows]
    exact .updateWhere (fun row _ _ => .same _ row) fun row _ _ => .kept _ row _ _ le_rfl
  | rotated _ _ row _ _ _ _ _ _ _ _ found rows =>
    rw [rows]
    refine .updateWhere (fun row _ _ => .same _ row) fun stored member same => ?_
    obtain rfl := store.creators.valid.1.eq_of_key member (lookup_mem found)
      (congrArg some (of_decide_eq_true same)) rfl
    exact .kept _ stored _ _ (by omega)
  | admitted _ isAdmission _ _ _ _ _ _ _ _ _ _ _ _ _ _ advanced =>
    rw [advanced]
    refine .updateWhere (fun row _ _ => .same _ row) fun row _ _ => .advanced _ row ?_
    exact Operation.issues_of_isAdmission isAdmission
  | quoted _ _ _ _ _ _ _ _ _ _ _ _ _ _ _ _ _ advanced =>
    rw [advanced]
    exact .updateWhere (fun row _ _ => .same _ row) fun row _ _ => .advanced _ row rfl

theorem operate_preparations (effect : Effect d store operation store') :
    Grows (Moves store operation) (Quotes d store operation) store.preparations.rows
      store'.preparations.rows := by
  cases effect with
  | unchanged | ticked | created | reauthenticated | admitted | claimed | reclaimed | worked
  | reported | drained | drainRead | cleaned | observed => exact .refl fun row _ => .same _ row
  | completed _ _ _ _ grows =>
    refine grows.mono ?_ fun _ => False.elim
    rintro row - _ ⟨generation, -, rfl⟩
    exact .completed _ row generation
  | rotated =>
    rename_i voids _ _ _
    refine voids.mono ?_ fun _ => False.elim
    rintro row - _ ⟨generation, -, rfl | ⟨prepared, rfl⟩⟩
    · exact .completed _ row generation
    · exact .voided _ row generation prepared
  | quoted input acceptedAgo creator intent result waited deadline _ _ _ accepted fixed found _ quote
      rows =>
      subst accepted
      rw [rows]
      exact .concat (fun row _ => .same _ row)
        (.quoted input waited creator intent result deadline fixed found quote)
  | activated input creator row intent payment reference proposalExpiresAt paymentDeadline _ _ _ _
      _ stored _ prepared fixed rows =>
      rw [rows]
      refine .updateWhere (fun row _ _ => .same _ row) fun other member same => ?_
      obtain rfl := store.preparations.valid.1.eq_of_key member (lookup_mem stored)
        (congrArg some (of_decide_eq_true same)) rfl
      exact .activated input other paymentDeadline (Store.preparation_id stored) prepared
        fixed.unresolved fixed.inTime (activationTimes_ok fixed.times).1
  | voided creator invoiceId row _ _ stored prepared rows =>
    rw [rows]
    refine .updateWhere (fun row _ _ => .same _ row) fun other member same => ?_
    obtain rfl := store.preparations.valid.1.eq_of_key member (lookup_mem stored)
      (congrArg some (of_decide_eq_true same)) rfl
    exact .voided _ other other.bitcoinAccountGeneration prepared
  | resolved creator invoiceId outcome row _ _ stored unresolved rows =>
    rw [rows]
    refine .updateWhere (fun row _ _ => .same _ row) fun other _ met => ?_
    exact .resolved _ _ _ other (of_decide_eq_true met).2

theorem operate_admissions (effect : Effect d store operation store') :
    Grows Eq (fun row => operation.isAdmission = true ∧ ∃ new : Invoices.NewInvoice,
        new.creator ∈ store.creators.rows ∧
        (∃ locked, Invoices.Admissible d.sdk store locked new) ∧
        row = new.admissionRow d.crypto (store.db.nextUuid + 1))
      store.admissions.rows store'.admissions.rows := by
  cases effect with
  | admitted _ isAdmission new locked _ _ _ _ _ _ _ _ found admissible _ _ _ rows =>
    rw [rows]
    exact .concat (fun _ _ => rfl) ⟨isAdmission, new, found, ⟨locked, admissible⟩, rfl⟩
  | _ => exact .refl fun _ _ => rfl

theorem operate_lifecycles (effect : Effect d store operation store') :
    Grows SameAttempt
      (fun row => ∃ creatorId owner, lockOwner store creatorId owner = .ok () ∧
        row.ownedBy owner = true)
      store.lifecycles.rows store'.lifecycles.rows := by
  cases effect with
  | reported creatorId projection _ grows =>
    refine grows.mono (fun _ _ _ => id) ?_
    rintro row ⟨owner, -, locked, -, rfl⟩
    exact ⟨creatorId, owner, locked, by
      simp [LifecycleRow.ownedBy, PaymentRequestLifecycleProjection.row]⟩
  | _ => exact .refl fun _ _ => ⟨rfl, rfl, rfl⟩

theorem Observation.actions_observe (observation : Observation) :
    ∀ action ∈ observation.actions d.toEnvironment store, action.isObservation = true := by
  intro action member
  unfold Observation.actions at member
  split at member
  · cases observation with
    | observeOnce | observeMarketplaceOnce =>
      simp only [Observation.request, requestActions] at member
      split at member
      · simp only [batchActions, List.mem_append, List.mem_map] at member
        grind [Action.isObservation]
      · cases member
    | observationTargets | marketplaceTargets | reserveUsdt | applyUsdt | clearUsdt
    | applyMarketplaceUsdt | clearMarketplaceUsdt =>
      obtain rfl := List.mem_singleton.mp member
      rfl
  · cases member

theorem observe_settlements {observation : Observation} {db : Database}
    (done : execute (perform d.toEnvironment) store.db
      (observation.actions d.toEnvironment store) = .ok db) :
    store.db.nextUuid ≤ db.nextUuid ∧ db.preparations = store.db.preparations ∧
      Grows Settlement.SameSettlement (fun _ => False) store.db.settlements.rows
        db.settlements.rows := by
  refine execute_rule (P := fun db => store.db.nextUuid ≤ db.nextUuid ∧
    db.preparations = store.db.preparations ∧
    Grows Settlement.SameSettlement (fun _ => False) store.db.settlements.rows
      db.settlements.rows) ?_ ⟨le_rfl, rfl, .refl fun row _ => .refl row⟩ done
  rintro action member db db' ⟨order, preparations, grows⟩ performed
  have step := Settlement.perform_observation (observation.actions_observe action member) performed
  exact ⟨order.trans step.order, step.preparations.trans preparations,
    grows.trans step.settlements.grows (fun _ _ _ => .trans) (fun _ _ => False.elim) fun _ => id⟩

theorem operate_advances (effect : Effect d store operation store') :
    store.clock ≤ store'.clock ∧ store.db.nextUuid ≤ store'.db.nextUuid := by
  cases effect with
  | unchanged | reauthenticated | completed | voided | resolved | worked | reported | drainRead
  | cleaned => exact ⟨le_rfl, le_rfl⟩
  | ticked elapsed => exact ⟨by simp, le_rfl⟩
  | created | quoted | activated => exact ⟨le_rfl, Nat.le_succ _⟩
  | admitted => exact ⟨le_rfl, Nat.le_add_right _ _⟩
  | rotated _ _ _ _ _ _ _ _ _ _ order => exact ⟨le_rfl, order⟩
  | claimed _ _ _ _ _ _ _ _ order => exact ⟨le_rfl, order⟩
  | reclaimed _ _ _ _ _ _ _ _ order => exact ⟨le_rfl, order⟩
  | drained _ _ _ _ _ _ _ _ _ _ _ low high => exact ⟨le_rfl, low.trans high.le⟩
  | observed _ _ done => exact ⟨le_rfl, (observe_settlements done).1⟩

theorem columns_step (effect : Effect d store operation store')
    (columns : store.db.preparations.rows = store.preparations.rows.map Preparation.columns) :
    store'.db.preparations.rows = store'.preparations.rows.map Preparation.columns := by
  cases effect with
  | completed _ _ _ projected | voided _ _ _ _ _ _ _ _ projected
  | resolved _ _ _ _ _ _ _ _ _ projected => exact projected
  | rotated _ _ _ _ _ _ _ _ _ _ _ _ _ projected => exact projected
  | quoted _ _ _ _ _ _ _ _ _ _ _ _ _ _ _ _ projected => exact projected
  | activated _ _ _ _ _ _ _ _ _ _ _ _ _ _ _ _ _ _ projected => exact projected
  | observed _ _ done =>
    dsimp only
    rw [(observe_settlements done).2.1]
    exact columns
  | unchanged | ticked | created | reauthenticated | admitted | claimed | reclaimed | worked
  | reported | drained | drainRead | cleaned => exact columns

end Step

end PaykitServer
