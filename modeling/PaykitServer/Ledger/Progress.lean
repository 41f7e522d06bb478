import PaykitServer.Ledger.Cleanup
import PaykitServer.Ledger.Expiry
import PaykitServer.Settlement.EvidenceExpiry
import PaykitServer.Settlement.Standing

/-!
# The progress of drains

A replay refreshes the counts of a drain and refuses to move a request back from terminal
to accepted. Its answers are therefore monotone whatever happens in between. It never has
to refuse while settled requests stay settled, which every operation ensures except one:
a batch that clears the expiry of a provider-v2 invoice without evidence, because the last
output it shows at the invoice's address pays enough and was marked on time.
-/

namespace PaykitServer

open Domain Bitcoin Persistence Application Workers
open Settlement PaymentDrains MarketplacePreparations Relational

/-- Whether the reports of a batch reopen an expired provider-v2 invoice without evidence:
they show an output at its address, and the last one pays enough and was marked on time. -/
def reopenedBy (crypto : Crypto) (db : Database) (i : Uuid)
    (batch : List BitcoinObservationInput) : Bool :=
  (db.providerBinding i).isSome && (db.evidence i).isNone && (db.invoice i).any fun row =>
    row.paymentExpiredAt.isSome && row.payment.bitcoin.any fun destination =>
      (reportsFor destination.address batch).any (·.present) &&
        keepsEligible crypto db i destination batch

/-- An operation submits a valid batch whose reports reopen an invoice. -/
def Reopens (d : Deployment) (store : Store) (operation : Operation) (i : Uuid) : Prop :=
  ∃ targets outputs batch, operation = .observe (.observeOnce targets outputs) ∧
    validateBatch d.toEnvironment outputs targets = .ok batch ∧
    reopenedBy d.crypto store.db i batch = true

/-- No accepted request of a drain is reopened. -/
def KeepsExpiry (d : Deployment) (transition : Transition Store Operation) : Prop :=
  ∀ drain ∈ transition.before.drains.rows, ∀ item ∈ drain.items,
    item.classification = .accepted →
      ¬ Reopens d transition.before transition.action item.invoiceId

section Settled

variable {d : Deployment} {store store' : Store} {operation : Operation} {i : Uuid}

theorem settled_iff (coherent : AllCoherent d.crypto store.db) :
    settled store i = true ↔ (account store.db i).Settled := by
  constructor
  · intro holds
    obtain ⟨row, opened, holds⟩ := (Option.any_eq_true _ _).mp holds
    simp only [Bool.or_eq_true] at holds
    rcases holds with (expired | paid) | evidence
    · exact .inl ⟨row, opened, expired⟩
    · obtain ⟨first, member, early⟩ := (Option.any_eq_true _ _).mp paid
      exact .inr (.inl ⟨row, opened, first, member, of_decide_eq_true early⟩)
    · exact .inr (.inr (Option.isSome_map.trans evidence))
  · rintro (⟨row, opened, expired⟩ | ⟨row, opened, first, member, early⟩ | evidence)
    · refine (Option.any_eq_true _ _).mpr ⟨row, opened, ?_⟩
      simp [expired]
    · refine (Option.any_eq_true _ _).mpr ⟨row, opened, ?_⟩
      have paid : row.firstAmountMatchedObservedAt.any (· ≤ row.paymentDeadline) = true :=
        (Option.any_eq_true _ _).mpr ⟨first, member, decide_eq_true early⟩
      simp [paid]
    · cases opened : store.db.invoice i with
      | none =>
        rw [(coherent i).unopened opened] at evidence
        cases evidence
      | some row =>
        have stored : (store.db.evidence i).isSome = true := Option.isSome_map.symm.trans evidence
        simp [settled, opened, stored]

/-- Every account is in time, and those of provider-v2 invoices expire late. -/
def AllInTime (store : Store) : Prop :=
  ∀ i, (account store.db i).InTime store.clock ∧ (account store.db i).ExpiresLate store.clock

theorem Observation.actions_storedBy (observation : Observation) :
    ∀ action ∈ observation.actions d.toEnvironment store,
      Action.StoredBy store.clock action := by
  intro action member
  refine ⟨observation.actions_observe action member, ?_⟩
  rintro input observedAt rfl
  rcases observation.actions_timed _ member observedAt rfl with same | process
  · exact same
  · unfold Observation.actions at member
    cases observation with
    | applyUsdt | clearUsdt => cases List.mem_singleton.mp member
    | _ => cases process

theorem opened_of_settled (coherent : AllCoherent d.crypto store.db)
    (holds : (account store.db i).Settled) : (account store.db i).invoice ≠ none := by
  intro closed
  rw [(coherent i).unopened closed] at holds
  rcases holds with ⟨_, none, -⟩ | ⟨_, none, -⟩ | none <;> cases none

section Observed

variable {observation : Observation} {db : Database} (coherent : AllCoherent d.crypto store.db)
  (done : execute (perform d.toEnvironment) store.db
    (observation.actions d.toEnvironment store) = .ok db)

include coherent done

theorem account_pass_of_v2 {now : OffsetDateTime} (process : observation.processTime = some now)
    (bound : (account store.db i).provider ≠ none) :
    account db i = account store.db i := by
  have settles := observe_usdt (i := i) process done
  rwa [SettledBy, if_neg fun projects => bound (v1_of_projects coherent projects)] at settles

theorem observed_expiresLate (late : (account store.db i).ExpiresLate store.clock) :
    (account db i).ExpiresLate store.clock := by
  cases process : observation.processTime with
  | some now =>
    by_cases bound : (account store.db i).provider = none
    · have kept := coherent.execute_rule (i := i) (P := fun a => a.provider = none) (by
        intro action member a a' _ evolves v1
        exact evolves.provider_of_observation (observation.actions_observe action member) ▸ v1)
        bound done
      exact fun bound' => absurd kept bound'
    · rwa [account_pass_of_v2 coherent done process bound]
  | none =>
    refine coherent.execute_rule (P := Account.ExpiresLate store.clock) ?_ late done
    intro action member a a' _ evolves late bound row' opened' expired'
    have kept := evolves.provider_of_observation (observation.actions_observe action member)
    obtain ⟨row, opened, same, expired | ⟨now, decides, -, due⟩⟩ := evolves.expired opened' expired'
    · exact same ▸ late (kept ▸ bound) row opened expired
    · rcases observation.actions_timed action member now decides with rfl | other
      · exact same ▸ due (kept ▸ bound)
      · cases process.symm.trans other

theorem batch_of_reopened (bound : (account store.db i).provider ≠ none)
    (expired : (account store.db i).Expired) (reopened : ¬ (account db i).Expired) :
    ∃ targets outputs batch, observation = .observeOnce targets outputs ∧
      validateBatch d.toEnvironment outputs targets = .ok batch ∧
      execute (perform d.toEnvironment) store.db (batchActions batch store.clock) = .ok db := by
  by_cases reports : ∃ input observedAt,
      .observe input observedAt ∈ observation.actions d.toEnvironment store
  · obtain ⟨input, observedAt, member⟩ := reports
    unfold Observation.actions at member done
    split at member
    · rename_i goesOn
      rw [if_pos goesOn] at done
      cases observation with
      | observeOnce targets outputs =>
        simp only [Observation.request, requestActions] at member done
        split at member
        · rename_i batch valid
          rw [valid] at done
          exact ⟨targets, outputs, batch, rfl, valid, done⟩
        · cases member
      | observeMarketplaceOnce targets outputs =>
        simp only [Observation.request, requestActions] at member
        split at member
        · obtain ⟨_, -, same⟩ := List.mem_map.mp member
          cases same
        · cases member
      | _ => cases List.mem_singleton.mp member
    · cases member
  · refine absurd (coherent.execute_rule (i := i) (P := fun a => a.provider ≠ none ∧ a.Expired)
      ?_ ⟨bound, expired⟩ done).2 reopened
    rintro action member a a' coherent evolves ⟨bound, expired⟩
    have observes := observation.actions_observe action member
    refine ⟨evolves.provider_of_observation observes ▸ bound, ?_⟩
    refine Settlement.Evolves.expired_of_v2 evolves coherent observes ?_ bound expired
    rintro input observedAt rfl
    exact reports ⟨input, observedAt, member⟩

theorem reopens_of_reopened {binding : ProviderV2Row} (inTime : AllInTime store)
    (bound : (account store.db i).provider = some binding)
    (expired : (account store.db i).Expired) (evidence : store.db.evidence i = none)
    (reopened : ¬ (account db i).Expired) :
    Reopens d store (.observe observation) i := by
  have v2 : (account store.db i).provider ≠ none := by simp [bound]
  obtain ⟨targets, outputs, batch, rfl, valid, done⟩ :=
    batch_of_reopened coherent done v2 expired reopened
  obtain ⟨row, opened, before⟩ := expired
  have late := (inTime i).2 v2 row opened before
  obtain ⟨usdt, deadline⟩ := (coherent i).providerTerms binding bound row opened
  have overdue : Overdue store.clock binding row (account store.db i) :=
    ⟨bound, ⟨row, opened, SameTerms.refl row⟩, usdt, deadline, late⟩
  have after : account db i = (account store.db i).afterReports d.crypto batch store.clock :=
    account_batch_of_overdue coherent opened late done
  cases quoted : row.payment.bitcoin with
  | none =>
    have silent := (account_destination opened).trans quoted
    rw [after, Account.afterReports_of_silent silent] at reopened
    exact absurd ⟨row, opened, before⟩ reopened
  | some destination =>
    obtain ⟨keeps, shown⟩ := (overdue.unexpired_afterReports_iff
      ((account_destination opened).trans quoted)
      (reportsFor_order (validateBatch_order valid) destination.address).2).mp (by
        intro row' opened'
        rw [← Option.not_isSome_iff_eq_none]
        exact fun still => reopened (after ▸ ⟨row', opened', still⟩))
    refine ⟨targets, outputs, batch, rfl, valid, ?_⟩
    have shown : (reportsFor destination.address batch).any (·.present) = true := by
      refine eq_true_of_ne_false fun none => ?_
      rw [shown none row opened] at before
      cases before
    have provided : (store.db.providerBinding i).isSome = true :=
      Option.isSome_iff_exists.mpr ⟨binding, bound⟩
    have stored : store.db.invoice i = some row := opened
    simp only [reopenedBy, provided, evidence, stored, before, quoted, Option.any_some, shown,
      keepsEligible_iff.mpr keeps]
    rfl

theorem settled_of_v1 (inTime : AllInTime store) (bound : (account store.db i).provider = none)
    (holds : (account store.db i).Settled) : (account db i).Settled := by
  refine (coherent.execute_rule (P := fun a => a.invoice ≠ none ∧ a.provider = none ∧
    a.InTime store.clock ∧ a.Settled) ?_
    ⟨opened_of_settled coherent holds, bound, (inTime i).1, holds⟩ done).2.2.2
  rintro action member a a' _ evolves ⟨opened, v1, inTime, holds⟩
  obtain ⟨row, opened⟩ := Option.ne_none_iff_exists'.mp opened
  obtain ⟨same, row', opened', -⟩ := evolves.terms opened
  have stored := observation.actions_storedBy action member
  exact ⟨by simp [opened'], same.trans v1, evolves.inTime stored inTime,
    evolves.settled stored inTime v1 holds⟩

theorem settled_or_reopens {binding : ProviderV2Row} (inTime : AllInTime store)
    (bound : (account store.db i).provider = some binding)
    (holds : (account store.db i).Settled) :
    (account db i).Settled ∨ Reopens d store (.observe observation) i := by
  by_cases settled : (account db i).Settled
  · exact .inl settled
  obtain ⟨-, paid, evidence⟩ := coherent.execute_rule (i := i) (P := fun a => a.invoice ≠ none ∧
      ((account store.db i).PaidInTime → a.PaidInTime) ∧
      ((account store.db i).evidence.isSome = true → a.evidence.isSome = true))
    (by
      rintro action member a a' _ evolves ⟨opened, paid, evidence⟩
      obtain ⟨row, opened⟩ := Option.ne_none_iff_exists'.mp opened
      obtain ⟨-, row', opened', -⟩ := evolves.terms opened
      exact ⟨by simp [opened'], fun before => evolves.paidInTime (paid before),
        fun before => evolves.evidence_isSome (by simp [opened]) (evidence before)⟩)
    ⟨opened_of_settled coherent holds, id, id⟩ done
  -- paid in time or with evidence it would still be settled, so it was expired
  have none : ¬ (account store.db i).evidence.isSome = true :=
    fun before => settled (.inr (.inr (evidence before)))
  have expired : (account store.db i).Expired := by
    rcases holds with expired | before | before
    · exact expired
    · exact absurd (.inr (.inl (paid before))) settled
    · exact absurd before none
  refine .inr (reopens_of_reopened coherent done inTime bound expired ?_
    fun still => settled (.inl still))
  rwa [evidence_account, Option.not_isSome_iff_eq_none] at none

end Observed

theorem AllInTime.step (coherent : AllCoherent d.crypto store.db) (inTime : AllInTime store)
    (effect : Effect d store operation store') : AllInTime store' := by
  intro i
  have advances := (operate_advances effect).1
  suffices held : (account store'.db i).InTime store.clock ∧
      (account store'.db i).ExpiresLate store.clock from
    ⟨held.1.mono advances, fun bound row opened expired =>
      (held.2 bound row opened expired).trans_le advances⟩
  cases operate_account coherent effect (i := i) with
  | kept _ same =>
    rw [same]
    exact inTime i
  | opened _ _ new createdAt deadline provider _ terms opened =>
    rw [opened]
    refine ⟨⟨?_, ?_, fun _ nonempty => ?_⟩, ?_⟩
    · rintro row ⟨⟩
      exact terms.1.le
    · rintro row ⟨⟩ first none
      cases none
    · obtain ⟨key, member⟩ := nonempty
      cases member
    · rintro - row ⟨⟩ none
      cases none
  | observed observation done =>
    refine ⟨?_, observed_expiresLate coherent done (inTime i).2⟩
    refine coherent.execute_rule (P := fun a => a.InTime store.clock) ?_ (inTime i).1 done
    intro action member a a' _ evolves holds
    exact evolves.inTime (observation.actions_storedBy action member) holds

/-- A settled request stays settled, unless it is provider-v2 and reopened. -/
theorem settled_step (coherent : AllCoherent d.crypto store.db) (inTime : AllInTime store)
    (effect : Effect d store operation store') (holds : settled store i = true) :
    settled store' i = true ∨ Reopens d store operation i := by
  rw [settled_iff coherent] at holds
  rw [settled_iff (operate_coherent coherent effect)]
  cases operate_account coherent effect (i := i) with
  | kept _ same =>
    rw [same]
    exact .inl holds
  | opened _ _ _ _ _ _ closed =>
    exact absurd (congrArg Account.invoice closed) (opened_of_settled coherent holds)
  | observed observation done =>
    cases bound : (account store.db i).provider with
    | none => exact .inl (settled_of_v1 coherent done inTime bound holds)
    | some binding => exact settled_or_reopens coherent done inTime bound holds

end Settled

section Counts

variable {d : Deployment} {store store' : Store} {operation : Operation} {drain : DrainRow}
variable {lock : PubkyLockResource}

theorem frozenCounts_le {items : List DrainItem}
    (stays : ∀ item ∈ items, item.classification = .accepted →
      settled store item.invoiceId = true → settled store' item.invoiceId = true) :
    (frozenCounts store' items).1 ≤ (frozenCounts store items).1 := by
  simp only [frozenCounts, ← List.countP_eq_length_filter]
  refine List.countP_mono_left fun item member unsettled => ?_
  simp only [Bool.and_eq_true, decide_eq_true_eq, Bool.not_eq_true'] at unsettled ⊢
  refine ⟨unsettled.1, eq_false_of_ne_true fun before => ?_⟩
  rw [stays item member unsettled.1 before] at unsettled
  cases unsettled.2

/-- The accepted requests that are not settled are among those the drain counts. -/
def Counted (store : Store) : Prop :=
  ∀ drain ∈ store.drains.rows, (frozenCounts store drain.items).1 ≤ drain.acceptedCount

theorem Counted.step (coherent : AllCoherent d.crypto store.db) (inTime : AllInTime store)
    (effect : Effect d store operation store') (keeps : KeepsExpiry d ⟨store, operation, store'⟩)
    (counted : Counted store) : Counted store' := by
  have falls : ∀ drain ∈ store.drains.rows,
      (frozenCounts store' drain.items).1 ≤ (frozenCounts store drain.items).1 := by
    intro drain stored
    refine frozenCounts_le fun item member accepted holds => ?_
    exact (settled_step coherent inTime effect holds).resolve_right
      (keeps drain stored item member accepted)
  intro drain stored'
  cases operate_drains effect with
  | kept _ rows =>
    have stored : drain ∈ store.drains.rows := rows ▸ stored'
    exact (falls drain stored).trans (counted drain stored)
  | created lock evidence generation new rows low high fenced freezes =>
    rcases List.mem_append.mp (rows ▸ stored') with stored | added
    · exact (falls drain stored).trans (counted drain stored)
    · obtain rfl := List.mem_singleton.mp added
      rw [freezes.accepted]
      simp only [frozenCounts, ← List.countP_eq_length_filter]
      refine List.countP_mono_left fun item _ unsettled => ?_
      simp only [Bool.and_eq_true] at unsettled
      exact unsettled.1
  | refreshed _ isDrain lock counting active _ rows same =>
    rcases mem_updateWhere.mp (rows ▸ stored') with ⟨stored, -⟩ | ⟨row, stored, named, rfl⟩
    · exact (falls drain stored).trans (counted drain stored)
    · obtain rfl := store.drains.valid.1.eq_of_key stored (activeDrain_mem active)
        (congrArg some (of_decide_eq_true named)) rfl
      exact falls row stored
  | removed lock token creator generation last cleans ended rows same =>
    have stored : drain ∈ store.drains.rows := (List.mem_filter.mp (rows ▸ stored')).1
    exact (falls drain stored).trans (counted drain stored)

theorem exactReplay_answer {crypto : Crypto} (intact : DrainIntact store drain)
    (active : activeDrain crypto store lock = some drain) :
    (drain.lockResource ≠ lock.canonical ∧
        exactReplay crypto store lock = .error .conflict) ∨
      drain.lockResource = lock.canonical ∧
        ((drain.acceptedCount < (frozenCounts store drain.items).1 ∧
            exactReplay crypto store lock = .error .corruptOrMissing) ∨
          (frozenCounts store drain.items).1 ≤ drain.acceptedCount ∧ ∃ store',
            exactReplay crypto store lock =
              .ok (some (report (refreshed store drain.items drain) true), store')) := by
  have total := intact.total
  rw [← frozenCounts_total store drain.items] at total
  have falls : Falls store drain ↔ (frozenCounts store drain.items).1 ≤ drain.acceptedCount := by
    unfold Falls
    omega
  rw [exactReplay_of_some active, intact.frozen, ok_bind]
  by_cases same : drain.lockResource = lock.canonical
  · refine .inr ⟨same, ?_⟩
    rcases Nat.lt_or_ge drain.acceptedCount (frozenCounts store drain.items).1 with less | le
    · refine .inl ⟨less, ?_⟩
      refine bind_eq_error.mpr (.inr ⟨(), ensure_eq_ok.mpr same, bind_eq_error.mpr (.inl ?_)⟩)
      refine bind_eq_error.mpr (.inl (ensure_eq_error.mpr ⟨fun holds => ?_, rfl⟩))
      exact absurd (falls.mp holds) (not_le.mpr less)
    · refine .inr ⟨le, ?_⟩
      have valid : DrainConstraints (updateWhere (fun row => row.id = drain.id)
          (refreshed store drain.items) store.drains.rows) :=
        ⟨Iff.mpr (uniqueIndex_updateWhere fun _ _ _ => rfl) store.drains.valid.1,
          Iff.mpr (uniqueIndex_updateWhere fun _ _ _ => rfl) store.drains.valid.2⟩
      have progressed : progress store drain =
          .ok (refreshed store drain.items drain, { store with drains := ⟨_, valid⟩ }) :=
        bind_eq_ok.mpr ⟨(), ensure_eq_ok.mpr (falls.mpr le),
          bind_eq_ok.mpr ⟨⟨_, valid⟩, Table.write_eq_ok.mpr rfl, rfl⟩⟩
      exact ⟨_, bind_eq_ok.mpr ⟨(), ensure_eq_ok.mpr same, bind_eq_ok.mpr ⟨_, progressed,
        bind_eq_ok.mpr ⟨_, bind_eq_ok.mpr ⟨(), ensure_eq_ok.mpr rfl, rfl⟩, rfl⟩⟩⟩⟩
  · exact .inl ⟨same, bind_eq_error.mpr (.inl (ensure_eq_error.mpr ⟨same, rfl⟩))⟩

theorem exactReplay_corrupt_iff {crypto : Crypto} (intact : DrainsIntact store) :
    exactReplay crypto store lock = .error .corruptOrMissing ↔
      ∃ drain, activeDrain crypto store lock = some drain ∧
        drain.lockResource = lock.canonical ∧
        drain.acceptedCount < (frozenCounts store drain.items).1 := by
  cases active : activeDrain crypto store lock with
  | none =>
    rw [exactReplay_of_none active]
    simp
  | some drain =>
    rcases exactReplay_answer (intact.drains drain (activeDrain_mem active)) active with
      ⟨other, answer⟩ | ⟨same, ⟨less, answer⟩ | ⟨le, _, answer⟩⟩
    · simp [answer, other]
    · simp [answer, same, less]
    · simp [answer, same, le]

end Counts

/-- What a replay may make of a drain: requests move from accepted to terminal, the
cancellations stay, and a completed drain stays completed. -/
structure Advances (drain drain' : DrainRow) : Prop where
  accepted : drain'.acceptedCount ≤ drain.acceptedCount
  total : drain'.acceptedCount + drain'.terminalCount = drain.acceptedCount + drain.terminalCount
  cancellations : drain'.cancellations = drain.cancellations
  completed : drain.completed = true → drain'.completed = true

theorem Advances.refl (drain : DrainRow) : Advances drain drain := ⟨le_rfl, rfl, rfl, id⟩

theorem Advances.trans {first second third : DrainRow} (early : Advances first second)
    (late : Advances second third) : Advances first third :=
  ⟨late.accepted.trans early.accepted, late.total.trans early.total,
    late.cancellations.trans early.cancellations, late.completed ∘ early.completed⟩

section Runs

variable {d : Deployment} {store : Store} {drain : DrainRow}

theorem Advances.refreshed (intact : DrainIntact store drain) (falls : Falls store drain) :
    Advances drain (PaymentDrains.refreshed store drain.items drain) where
  accepted := falls.1
  total := by
    have total := intact.total
    rw [← frozenCounts_total store drain.items] at total
    exact total.symm
  cancellations := rfl
  completed before := by
    have none : drain.acceptedCount = 0 := of_decide_eq_true (intact.completed.symm.trans before)
    exact decide_eq_true (Nat.eq_zero_of_le_zero (none ▸ falls.1))

variable {operations : List Operation}

theorem run_advances (intact : DrainsIntact store) (stored : drain ∈ store.drains.rows) :
    ∀ drain' ∈ ((ledger d).run store operations).drains.rows, drain'.id = drain.id →
      Advances drain drain' := by
  refine (ledger_invariant (P := fun store' => DrainsIntact store' ∧
    drain.id < store'.db.nextUuid ∧ ∀ drain' ∈ store'.drains.rows, drain'.id = drain.id →
      Advances drain drain') ?_ ⟨intact, (intact.drains drain stored).drawn, ?_⟩).2.2
  · rintro store operation store' ⟨intact, drawn, advanced⟩ done
    have effect := operate_effect done
    refine ⟨intact.step effect, lt_of_lt_of_le drawn (operate_advances effect).2, ?_⟩
    intro drain' stored' same
    cases operate_drains effect with
    | kept _ rows => exact advanced drain' (rows ▸ stored') same
    | created lock evidence generation new rows low high fenced freezes =>
      rcases List.mem_append.mp (rows ▸ stored') with stored | added
      · exact advanced drain' stored same
      · obtain rfl := List.mem_singleton.mp added
        exact absurd drawn (Nat.not_lt.mpr (same ▸ low))
    | refreshed _ isDrain lock counting active falls rows _ =>
      rcases mem_updateWhere.mp (rows ▸ stored') with ⟨stored, -⟩ | ⟨row, stored, named, rfl⟩
      · exact advanced drain' stored same
      · obtain rfl := store.drains.valid.1.eq_of_key stored (activeDrain_mem active)
          (congrArg some (of_decide_eq_true named)) rfl
        exact (advanced row stored same).trans (.refreshed (intact.drains row stored) falls)
    | removed lock token creator generation last cleans ended rows _ =>
      exact advanced drain' (List.mem_filter.mp (rows ▸ stored')).1 same
  · intro drain' stored' same
    obtain rfl := store.drains.valid.1.eq_of_key stored' stored (congrArg some same) rfl
    exact .refl drain'

/-- While no accepted request of a drain is reopened, drains count what is unsettled. -/
theorem storeAfter_counted {start : OffsetDateTime}
    (keeps : ∀ t ∈ committedOperations d start operations, KeepsExpiry d t) :
    Counted (storeAfter d start operations) := by
  suffices held : AllCoherent d.crypto (storeAfter d start operations).db ∧
      AllInTime (storeAfter d start operations) ∧
      ((∀ t ∈ committedOperations d start operations, KeepsExpiry d t) →
        Counted (storeAfter d start operations)) from held.2.2 keeps
  refine System.history_rule (s := Store.empty start)
    (fun history store => AllCoherent d.crypto store.db ∧ AllInTime store ∧
      ((∀ t ∈ history, KeepsExpiry d t) → Counted store)) ?_ ?_
  · rintro history store operation store' ⟨coherent, inTime, counted⟩ performed
    have effect := operate_effect performed
    refine ⟨operate_coherent coherent effect, inTime.step coherent effect, fun keeps => ?_⟩
    refine (counted fun t member => keeps t (List.mem_append_left _ member)).step coherent inTime
      effect (keeps ⟨store, operation, store'⟩ ?_)
    exact List.mem_append_right _ (List.mem_singleton_self _)
  · refine ⟨AllCoherent.empty d.crypto, fun i => ⟨⟨fun _ none => ?_, fun _ none => ?_,
      fun _ nonempty => ?_⟩, fun bound => absurd rfl bound⟩, fun _ _ none => ?_⟩
    · cases none
    · cases none
    · obtain ⟨_, member⟩ := nonempty
      cases member
    · cases none

theorem replay_reports {start : OffsetDateTime} {first : List Operation}
    {lock : PubkyLockResource} {answer : PaymentDrainSnapshot} {store' : Store}
    (replayed : exactReplay d.crypto (storeAfter d start first) lock = .ok (some answer, store')) :
    storeAfter d start (first ++ [.replayDrain lock]) = store' ∧
      ∃ drain ∈ (storeAfter d start first).drains.rows, ∃ drain' ∈ store'.drains.rows,
        drain'.id = drain.id ∧ Advances drain drain' ∧ answer = report drain' true := by
  have done : operate d (storeAfter d start first) (.replayDrain lock) = .ok store' :=
    persist_eq_ok.mpr (map_eq_ok.mpr ⟨_, replayed, rfl⟩)
  constructor
  · rw [storeAfter_concat]
    exact commit_of_operate done
  · obtain ⟨-, none, -⟩ | ⟨drain, drains, active, -, falls, reported, rfl, rows⟩ :=
      exactReplay_ok replayed
    · cases none
    · have stored := activeDrain_mem active
      refine ⟨drain, stored, refreshed (storeAfter d start first) drain.items drain, ?_, rfl,
        .refreshed (storeAfter_drainsIntact.drains drain stored) falls, Option.some.inj reported⟩
      show _ ∈ drains.rows
      rw [rows]
      exact mem_updateWhere.mpr (.inr ⟨drain, stored, decide_eq_true rfl, rfl⟩)

end Runs

/-- Drain replays report progress. A replay fails as corrupt exactly when more accepted
requests of its drain are unsettled than the drain counts, which never happens in a run
that reopens no accepted request of a drain; and of two replays of one drain the later one
reports what the earlier one may have advanced to. -/
theorem drain_replays_progress (d : Deployment) (start : OffsetDateTime)
    (operations : List Operation) :
    (∀ lock, exactReplay d.crypto (storeAfter d start operations) lock =
        .error .corruptOrMissing ↔
      ∃ drain, activeDrain d.crypto (storeAfter d start operations) lock = some drain ∧
        drain.lockResource = lock.canonical ∧
        drain.acceptedCount < (frozenCounts (storeAfter d start operations) drain.items).1) ∧
    ((∀ t ∈ committedOperations d start operations, KeepsExpiry d t) → ∀ lock,
      exactReplay d.crypto (storeAfter d start operations) lock ≠ .error .corruptOrMissing) ∧
    ∀ first rest lock earlier later store' store'',
      operations = first ++ .replayDrain lock :: rest →
      exactReplay d.crypto (storeAfter d start first) lock = .ok (some earlier, store') →
      exactReplay d.crypto (storeAfter d start operations) lock = .ok (some later, store'') →
      later.drainId = earlier.drainId →
      later.acceptedCount ≤ earlier.acceptedCount ∧
        later.terminalCount - earlier.terminalCount =
          earlier.acceptedCount - later.acceptedCount ∧
        earlier.terminalCount ≤ later.terminalCount ∧
        later.cancellationEnqueuedCount = earlier.cancellationEnqueuedCount ∧
        (earlier.completed = true → later.completed = true) := by
  refine ⟨fun lock => exactReplay_corrupt_iff storeAfter_drainsIntact, ?_, ?_⟩
  · intro keeps lock corrupt
    obtain ⟨drain, active, -, less⟩ :=
      (exactReplay_corrupt_iff storeAfter_drainsIntact).mp corrupt
    exact absurd (storeAfter_counted keeps drain (activeDrain_mem active)) (not_le.mpr less)
  · intro first rest lock earlier later store' store'' split replayed replayed' same
    obtain ⟨reached, -, -, drain, stored, -, -, rfl⟩ := replay_reports replayed
    obtain ⟨-, drain', stored', drain'', -, named, late, rfl⟩ := replay_reports replayed'
    have run : storeAfter d start operations = (ledger d).run store' rest := by
      rw [split, List.append_cons, storeAfter_append, reached]
    have intact : DrainsIntact store' := reached ▸ storeAfter_drainsIntact
    rw [run] at stored'
    have advances := (run_advances intact stored drain' stored'
      (named.symm.trans same)).trans late
    have accepted := advances.accepted
    have total := advances.total
    refine ⟨accepted, ?_, ?_, congrArg List.length advances.cancellations, advances.completed⟩
    · simp only [report]
      omega
    · simp only [report]
      omega

namespace Sample

/-- A provider-v2 invoice that asks for one confirmation within 100 seconds. -/
def providerBundle : Invoices.ProviderV2AtomicInvoiceInput :=
  ⟨"creator", "reader", utf8 "bundle", utf8 "lock", 0, seconds 100, 1, payloads, 60⟩

/-- The request of a provider-v2 invoice is accepted, and a payment without confirmations
arrives in time. -/
def unconfirmedPayment : List Operation :=
  [.createCreator (credentials "xpub"), .createProviderV2 providerBundle] ++
    deliver 3 4 (.paymentRequestProposal 1 "event" "request") ++
    [report .accepted, .observe (.observeOnce [⟨"a", none⟩] [output 0 10 0])]

/-- What another process listed before the deadline. -/
def listedTargets : List ObservationTarget := [⟨"a", some ⟨outpoint 0, 10⟩⟩]

/-- The invoice is drained and expires, a replay reports the drain completed, and the other
process then commits the first confirmation of the payment. -/
def reopenedDrain : List Operation :=
  unconfirmedPayment ++ [.createDrain lock none, .tick 101000000, .observe .observationTargets,
    .replayDrain lock, .observe (.observeOnce listedTargets [output 0 10 1])]

end Sample

/-- A drain that a replay reported completed is corrupt for the next replay, after a batch
whose targets were listed and fenced before the deadline. -/
theorem completed_drain_reads_corrupt :
    let listing := storeAfter Sample.deployment 0 Sample.unconfirmedPayment
    (observationTargetsWithTime Sample.deployment.crypto listing.db listing.clock).1.toOption =
        some Sample.listedTargets ∧
      fenceObservationTargets Sample.deployment.crypto listing.db Sample.listedTargets
        listing.clock = Sample.listedTargets ∧
      (storeAfter Sample.deployment 0 (Sample.reopenedDrain.take 12)).drains.rows.map
        (fun drain => (drain.acceptedCount, drain.completed)) = [(0, true)] ∧
      failure (exactReplay Sample.deployment.crypto
        (storeAfter Sample.deployment 0 Sample.reopenedDrain) Sample.lock) =
          some .corruptOrMissing := by
  decide +kernel

end PaykitServer
