import PaykitServer.Ledger.Effects

/-!
# How stored attempts move

The SDK reports a payment request as often as it likes and in any order. A stored
attempt keeps its owner and only moves forward: neither source cursor nor the time of
its last event goes back. Reports that are ordered by their cursors therefore leave the
greatest of them, whatever order they arrive in.

A stored expiry is only compared with the report that replaces it. A state in between
forgets it, and the request can be proposed again.
-/

namespace PaykitServer

open Domain Persistence Application
open MarketplacePreparations Relational

/-- A source cursor has not gone back. -/
def NotBehind (old new : Option Nat) : Prop :=
  ∀ cursor ∈ old, ∃ cursor' ∈ new, cursor ≤ cursor'

theorem NotBehind.refl (cursor : Option Nat) : NotBehind cursor cursor :=
  fun cursor known => ⟨cursor, known, le_rfl⟩

theorem NotBehind.trans {a b c : Option Nat} (first : NotBehind a b) (second : NotBehind b c) :
    NotBehind a c := by
  intro cursor known
  obtain ⟨middle, known, early⟩ := first cursor known
  obtain ⟨last, known, late⟩ := second middle known
  exact ⟨last, known, early.trans late⟩

theorem NotBehind.antisymm {a b : Option Nat} (first : NotBehind a b) (second : NotBehind b a) :
    a = b := by
  cases a with
  | none =>
    cases b with
    | none => rfl
    | some cursor =>
      obtain ⟨_, known, -⟩ := second cursor rfl
      cases known
  | some cursor =>
    obtain ⟨_, rfl, upper⟩ := first cursor rfl
    obtain ⟨_, known, lower⟩ := second _ rfl
    cases known
    exact congrArg some (le_antisymm upper lower)

theorem cursorRegressed_eq_false {incoming existing : Option Nat} :
    cursorRegressed incoming existing = false ↔ NotBehind existing incoming := by
  cases existing with
  | none => exact iff_of_true (by cases incoming <;> rfl) fun _ known => by cases known
  | some old =>
    cases incoming with
    | none =>
      refine iff_of_false (by simp [cursorRegressed]) fun ahead => ?_
      obtain ⟨_, known, -⟩ := ahead old rfl
      cases known
    | some new => simp [cursorRegressed, NotBehind]

/-- What no report takes back: the owner, the cursors and the time of the last event. -/
structure AttemptAdvances (row row' : LifecycleRow) : Prop where
  attempt : SameAttempt row row'
  stream : NotBehind row.lastStreamItemId row'.lastStreamItemId
  outbound : NotBehind row.lastOutboundMessageId row'.lastOutboundMessageId
  time : row.lastEventAt ≤ row'.lastEventAt

theorem AttemptAdvances.refl (row : LifecycleRow) : AttemptAdvances row row :=
  ⟨⟨rfl, rfl, rfl⟩, .refl _, .refl _, le_rfl⟩

theorem AttemptAdvances.trans {a b c : LifecycleRow} (first : AttemptAdvances a b)
    (second : AttemptAdvances b c) : AttemptAdvances a c :=
  ⟨⟨second.attempt.1.trans first.attempt.1, second.attempt.2.trans first.attempt.2,
      second.attempt.3.trans first.attempt.3⟩, first.stream.trans second.stream,
    first.outbound.trans second.outbound, first.time.trans second.time⟩

section Moves

variable {d : Deployment} {store store' : Store} {operation : Operation} {id : String}
  {row : LifecycleRow} {owner : LifecycleOwner}
  {projection : PaymentRequestLifecycleProjection}

theorem rejectsUpdate_eq_false : rejectsUpdate row owner projection = false ↔
    row.ownedBy owner = true ∧
      ¬(row.requestState = .proposalExpired ∧ projection.requestState = .proposed) ∧
      NotBehind row.lastStreamItemId projection.lastStreamItemId ∧
      NotBehind row.lastOutboundMessageId projection.lastOutboundMessageId ∧
      row.lastEventAt ≤ projection.lastEventAt ∧
      (projection.lastStreamItemId = row.lastStreamItemId →
        projection.lastOutboundMessageId = row.lastOutboundMessageId →
        row.stateEventId = projection.stateEventId ∧
          (row.requestState = projection.requestState ∨
            cursorStableTransitionAllowed row.requestState projection.requestState = true)) := by
  simp only [rejectsUpdate, Bool.or_eq_false_iff, cursorRegressed_eq_false]
  simp only [Bool.not_eq_false', Bool.and_eq_false_imp, decide_eq_true_eq,
    decide_eq_false_iff_not, not_lt, Bool.and_eq_true, Bool.or_eq_true, and_assoc, and_imp,
    not_and]

inductive AttemptMoves (d : Deployment) (store : Store) (operation : Operation)
    (row : LifecycleRow) : LifecycleRow → Prop where
  | same : AttemptMoves d store operation row row
  | updated (creatorId : Uuid) (owner : LifecycleOwner)
      (projection : PaymentRequestLifecycleProjection)
      (reported : operation = .applyLifecycle creatorId projection)
      (attributed : Attributed d.crypto d.sdk store creatorId projection owner)
      (named : row.sdkPaymentRequestId = projection.paymentRequestId)
      (accepted : rejectsUpdate row owner projection = false) :
      AttemptMoves d store operation row (replaceAttempt projection row)

theorem AttemptMoves.advances {row' : LifecycleRow}
    (moves : AttemptMoves d store operation row row') :
    AttemptAdvances row row' := by
  cases moves with
  | same => exact .refl row
  | updated creatorId owner projection reported attributed named accepted =>
    obtain ⟨-, -, stream, outbound, time, -⟩ := rejectsUpdate_eq_false.mp accepted
    exact ⟨⟨named.symm, rfl, rfl⟩, stream, outbound, time⟩

/-- A report proposes a request anew over a state that is neither open nor expired: it is
the owner's, neither cursor nor the time of the last event goes back, and where both
cursors stand still it names the same event and the stored state asks for recovery. -/
structure ReopensAttempt (row : LifecycleRow) (owner : LifecycleOwner)
    (projection : PaymentRequestLifecycleProjection) : Prop where
  proposes : projection.requestState = .proposed
  closed : row.requestState ≠ .proposed
  forgotten : row.requestState ≠ .proposalExpired
  owned : row.ownedBy owner = true
  stream : NotBehind row.lastStreamItemId projection.lastStreamItemId
  outbound : NotBehind row.lastOutboundMessageId projection.lastOutboundMessageId
  time : row.lastEventAt ≤ projection.lastEventAt
  still : projection.lastStreamItemId = row.lastStreamItemId →
    projection.lastOutboundMessageId = row.lastOutboundMessageId →
    row.stateEventId = projection.stateEventId ∧ row.requestState = .recoveryRequired

theorem cursorStableTransitionAllowed_proposed {state : PaymentRequestLifecycleState} :
    cursorStableTransitionAllowed state .proposed = true ↔ state = .recoveryRequired := by
  cases state <;> decide

theorem reopens_iff (proposes : projection.requestState = .proposed)
    (closed : row.requestState ≠ .proposed) :
    ReopensAttempt row owner projection ↔ rejectsUpdate row owner projection = false := by
  rw [rejectsUpdate_eq_false, proposes, cursorStableTransitionAllowed_proposed]
  constructor
  · intro reopens
    exact ⟨reopens.owned, fun expired => reopens.forgotten expired.1, reopens.stream,
      reopens.outbound, reopens.time, fun stream outbound =>
        ⟨(reopens.still stream outbound).1, .inr (reopens.still stream outbound).2⟩⟩
  · rintro ⟨owned, guarded, stream, outbound, time, still⟩
    exact ⟨proposes, closed, fun expired => guarded ⟨expired, rfl⟩, owned, stream, outbound, time,
      fun stream outbound => ⟨(still stream outbound).1,
        (still stream outbound).2.resolve_left closed⟩⟩

theorem AttemptMoves.reopened {row' : LifecycleRow}
    (moves : AttemptMoves d store operation row row') (closed : row.requestState ≠ .proposed)
    (opened : row'.requestState = .proposed) :
    ∃ creatorId owner projection, operation = .applyLifecycle creatorId projection ∧
      row.sdkPaymentRequestId = projection.paymentRequestId ∧
      Attributed d.crypto d.sdk store creatorId projection owner ∧
      ReopensAttempt row owner projection := by
  cases moves with
  | same => exact absurd opened closed
  | updated creatorId owner projection reported attributed named accepted =>
    exact ⟨creatorId, owner, projection, reported, named, attributed,
      (reopens_iff opened closed).mpr accepted⟩

variable {result : PaymentRequestLifecycleApply}

theorem reports_attempt {creatorId : Uuid} {rows : List LifecycleRow}
    (reports : Reports d.crypto d.sdk store creatorId projection result rows)
    (found : store.attempt id = some row) :
    ∃ row', lookup (fun row => some row.sdkPaymentRequestId) id rows = some row' ∧
      AttemptMoves d store (.applyLifecycle creatorId projection) row row' := by
  cases reports with
  | notAttributable | exactReplay => exact ⟨row, found, .same⟩
  | updated owner existing attributed stored changed accepted =>
    rw [lookup_updateWhere]
    · change ∃ row', (store.attempt id).map _ = some row' ∧ _
      rw [found, Option.map_some]
      refine ⟨_, rfl, ?_⟩
      split
      · rename_i named
        have named := of_decide_eq_true named
        have key := lookup_key found
        obtain rfl : row = existing := by
          have same : store.attempt id = some existing := by
            rw [← Option.some.inj key, named]
            exact stored
          exact Option.some.inj (found.symm.trans same)
        exact .updated creatorId owner projection rfl attributed named accepted
      · exact .same
    · intro row met
      exact congrArg some (of_decide_eq_true met).symm
  | inserted =>
    refine ⟨row, ?_, .same⟩
    rw [lookup_append]
    change (store.attempt id).or _ = _
    rw [found]
    rfl

theorem reports_other {crypto : Crypto} {sdk : Sdk} {creatorId : Uuid} {rows : List LifecycleRow}
    (reports : Reports crypto sdk store creatorId projection result rows)
    (elsewhere : projection.paymentRequestId ≠ id) :
    lookup (fun row => some row.sdkPaymentRequestId) id rows = store.attempt id := by
  cases reports with
  | notAttributable | exactReplay => rfl
  | updated =>
    rw [lookup_updateWhere]
    · change (store.attempt id).map _ = _
      cases found : store.attempt id with
      | none => rfl
      | some row =>
        have key := lookup_key found
        have apart : row.sdkPaymentRequestId ≠ projection.paymentRequestId := by
          rw [Option.some.inj key]
          exact elsewhere.symm
        rw [Option.map_some, if_neg (by simpa using apart)]
    · intro row met
      exact congrArg some (of_decide_eq_true met).symm
  | inserted owner =>
    have apart : some (projection.row owner).sdkPaymentRequestId ≠ some id :=
      fun same => elsewhere (Option.some.inj same)
    rw [lookup_append, if_neg apart]
    exact Option.or_none

theorem attempt_step (done : operate d store operation = .ok store')
    (found : store.attempt id = some row) :
    ∃ row', store'.attempt id = some row' ∧ AttemptMoves d store operation row row' := by
  have kept : ∀ lifecycles : Table LifecycleRow LifecycleConstraints,
      lifecycles = store.lifecycles → ∃ row',
        lookup (fun row => some row.sdkPaymentRequestId) id lifecycles.rows = some row' ∧
          AttemptMoves d store operation row row' := by
    rintro _ rfl
    exact ⟨row, found, .same⟩
  cases effect : operate_effect done with
  | reported creatorId projection lifecycles grows =>
    obtain ⟨⟨result, _⟩, applied, same⟩ := map_eq_ok.mp (persist_eq_ok.mp done)
    obtain ⟨lifecycles', rfl, reports⟩ := applyLifecycle_reports applied
    cases same
    exact reports_attempt reports found
  | _ => exact kept _ rfl

theorem attempt_run {operations : List Operation} (found : store.attempt id = some row) :
    ∃ row', ((ledger d).run store operations).attempt id = some row' ∧
      AttemptAdvances row row' := by
  refine ledger_invariant
    (P := fun store : Store => ∃ row', store.attempt id = some row' ∧ AttemptAdvances row row') ?_
    ⟨row, found, .refl row⟩
  rintro store operation store' ⟨row', found, advances⟩ done
  obtain ⟨row'', found', moves⟩ := attempt_step done found
  exact ⟨row'', found', advances.trans moves.advances⟩

end Moves

section Expired

variable {d : Deployment} {start : OffsetDateTime} {operations : List Operation} {id : String}

def stateAt (d : Deployment) (start : OffsetDateTime) (operations : List Operation) (id : String)
    (n : Nat) : Option PaymentRequestLifecycleState :=
  ((storeAfter d start (operations.take n)).attempt id).map (·.requestState)

/-- One step of a run: the stored attempt is still there, and is opened only by a report
that reopens it. -/
theorem stateAt_step {n : Nat} {row : LifecycleRow}
    (found : (storeAfter d start (operations.take n)).attempt id = some row)
    (closed : row.requestState ≠ .proposed) :
    ∃ row', (storeAfter d start (operations.take (n + 1))).attempt id = some row' ∧
      (row'.requestState = .proposed → ∃ creatorId owner projection,
        operations[n]? = some (.applyLifecycle creatorId projection) ∧
        projection.paymentRequestId = id ∧
        Attributed d.crypto d.sdk (storeAfter d start (operations.take n)) creatorId projection
          owner ∧ ReopensAttempt row owner projection) := by
  rw [List.take_add_one]
  cases next : operations[n]? with
  | none =>
    rw [Option.toList_none, List.append_nil]
    exact ⟨row, found, fun opened => absurd opened closed⟩
  | some operation =>
    rw [Option.toList_some, storeAfter_concat]
    rcases @ledger_commit d (storeAfter d start (operations.take n)) operation with
      ⟨store', done, same⟩ | ⟨-, same⟩
    · rw [same]
      obtain ⟨row', found', moves⟩ := attempt_step done found
      refine ⟨row', found', fun opened => ?_⟩
      obtain ⟨creatorId, owner, projection, rfl, named, attributed, reopens⟩ :=
        moves.reopened closed opened
      have key := lookup_key found
      exact ⟨creatorId, owner, projection, rfl, named.symm.trans (Option.some.inj key),
        attributed, reopens⟩
    · rw [same]
      exact ⟨row, found, fun opened => absurd opened closed⟩

theorem stateAt_reopened {n : Nat} {creatorId : Uuid} {owner : LifecycleOwner}
    {projection : PaymentRequestLifecycleProjection} {row : LifecycleRow}
    (reported : operations[n]? = some (.applyLifecycle creatorId projection))
    (named : projection.paymentRequestId = id)
    (found : (storeAfter d start (operations.take n)).attempt id = some row)
    (attributed : Attributed d.crypto d.sdk (storeAfter d start (operations.take n)) creatorId
      projection owner) (reopens : ReopensAttempt row owner projection) :
    stateAt d start operations id (n + 1) = some .proposed := by
  subst named
  have changed : replaceAttempt projection row ≠ row := fun same =>
    reopens.closed ((congrArg LifecycleRow.requestState same).symm.trans reopens.proposes)
  obtain ⟨lifecycles, applied, rows⟩ := applyLifecycle_updates attributed found changed
    ((reopens_iff reopens.proposes reopens.closed).mp reopens)
  have done : operate d (storeAfter d start (operations.take n))
      (.applyLifecycle creatorId projection) =
      .ok { storeAfter d start (operations.take n) with lifecycles := lifecycles } :=
    persist_eq_ok.mpr (map_eq_ok.mpr ⟨_, applied, rfl⟩)
  have key := lookup_key found
  rw [stateAt, List.take_add_one, reported, Option.toList_some, storeAfter_concat,
    commit_of_operate done, Store.attempt, rows, lookup_updateWhere]
  · change ((Store.attempt _ _).map _).map _ = _
    rw [found, Option.map_some, Option.map_some,
      if_pos (decide_eq_true (Option.some.inj key))]
    exact congrArg some reopens.proposes
  · intro row met
    exact congrArg some (of_decide_eq_true met).symm

/-- An expired proposal stays closed exactly when no report that comes after the expiry and
is attributed to the owner reopens the attempt that is stored then. -/
theorem expired_stays_closed_iff (d : Deployment) (start : OffsetDateTime)
    (operations : List Operation) (id : String) :
    (∀ m n, m ≤ n → stateAt d start operations id m = some .proposalExpired →
      stateAt d start operations id n ≠ some .proposed) ↔
    ∀ m n creatorId owner projection row, m ≤ n →
      stateAt d start operations id m = some .proposalExpired →
      operations[n]? = some (.applyLifecycle creatorId projection) →
      projection.paymentRequestId = id →
      (storeAfter d start (operations.take n)).attempt id = some row →
      Attributed d.crypto d.sdk (storeAfter d start (operations.take n)) creatorId projection
        owner → ¬ ReopensAttempt row owner projection := by
  constructor
  · intro closed m n creatorId owner projection row order expired reported named found attributed
      reopens
    exact closed m (n + 1) (by omega) expired
      (stateAt_reopened reported named found attributed reopens)
  · intro guarded m n order expired
    -- Along the run the attempt stays stored and its state stays away from proposed.
    suffices away : ∃ row, (storeAfter d start (operations.take n)).attempt id = some row ∧
        row.requestState ≠ .proposed by
      obtain ⟨row, found, other⟩ := away
      rw [stateAt, found]
      exact fun same => other (Option.some.inj same)
    induction n, order using Nat.le_induction with
    | base =>
      obtain ⟨row, found, state⟩ := Option.map_eq_some_iff.mp expired
      exact ⟨row, found, by simp [state]⟩
    | succ n order ih =>
      obtain ⟨row, found, other⟩ := ih
      obtain ⟨row', found', opened⟩ := stateAt_step found other
      refine ⟨row', found', fun proposed => ?_⟩
      obtain ⟨creatorId, owner, projection, reported, named, attributed, reopens⟩ :=
        opened proposed
      exact guarded m n creatorId owner projection row order expired reported named found
        attributed reopens

namespace Sample

/-- The SDK reports the bundle's request expired, then in recovery, then proposed again, all
at the same cursor. -/
def reopenedProposal : List Operation :=
  [.createCreator (credentials "xpub"), .createInvoice bundle, report .proposalExpired,
    report .recoveryRequired, report .proposed]

end Sample

/-- An expired proposal is proposed again after a report that asks for recovery. -/
theorem expired_proposal_reopens :
    (List.range 6).map (stateAt Sample.deployment 0 Sample.reopenedProposal "request") =
      [none, none, none, some .proposalExpired, some .recoveryRequired, some .proposed] := by
  decide +kernel

end Expired

section Convergence

variable {d : Deployment} {store : Store} {creatorId : Uuid} {owner : LifecycleOwner} {id : String}
  {chain : PaymentRequestLifecycleProjection → Prop}
  {projection other : PaymentRequestLifecycleProjection}

/-- One report is behind another: no cursor is ahead and one is behind. -/
def Before (projection other : PaymentRequestLifecycleProjection) : Prop :=
  NotBehind projection.lastStreamItemId other.lastStreamItemId ∧
    NotBehind projection.lastOutboundMessageId other.lastOutboundMessageId ∧
    ¬(projection.lastStreamItemId = other.lastStreamItemId ∧
      projection.lastOutboundMessageId = other.lastOutboundMessageId)

/-- Reports of one request that its cursors put in order, along which event times do not go
back and no expired proposal is proposed again. -/
structure Chain (id : String) (chain : PaymentRequestLifecycleProjection → Prop) : Prop where
  named : ∀ projection, chain projection → projection.paymentRequestId = id
  ordered : ∀ projection other, chain projection → chain other →
    projection = other ∨ Before projection other ∨ Before other projection
  times : ∀ projection other, chain projection → chain other → Before projection other →
    projection.lastEventAt ≤ other.lastEventAt
  closed : ∀ projection other, chain projection → chain other → Before projection other →
    projection.requestState = .proposalExpired → other.requestState ≠ .proposed

/-- The stored attempt is the greatest of the reports seen so far, if there is one. -/
def Greatest (store : Store) (id : String) (owner : LifecycleOwner)
    (seen : List PaymentRequestLifecycleProjection) : Prop :=
  (seen = [] ∧ store.attempt id = none) ∨
    ∃ top ∈ seen, store.attempt id = some (top.row owner) ∧
      ∀ projection ∈ seen, projection = top ∨ Before projection top

theorem Before.trans {last : PaymentRequestLifecycleProjection} (first : Before projection other)
    (second : Before other last) : Before projection last := by
  refine ⟨first.1.trans second.1, first.2.1.trans second.2.1, fun same => first.2.2 ?_⟩
  constructor
  · exact first.1.antisymm (same.1 ▸ second.1)
  · exact first.2.1.antisymm (same.2 ▸ second.2.1)

theorem accepts_ahead (ordered : Chain id chain) (known : chain projection) (next : chain other)
    (ahead : Before projection other) :
    rejectsUpdate (projection.row owner) owner other = false := by
  refine rejectsUpdate_eq_false.mpr ⟨?_, ?_, ahead.1, ahead.2.1,
    ordered.times _ _ known next ahead, ?_⟩
  · simp [LifecycleRow.ownedBy, PaymentRequestLifecycleProjection.row]
  · rintro ⟨expired, proposed⟩
    exact ordered.closed _ _ known next ahead expired proposed
  · intro stream outbound
    exact absurd ⟨stream.symm, outbound.symm⟩ ahead.2.2

/-- A report that is behind the stored one of its chain is refused. -/
theorem rejects_behind (behind : Before projection other) :
    rejectsUpdate (other.row owner) owner projection = true := by
  by_contra accepted
  obtain ⟨-, -, stream, outbound, -⟩ := rejectsUpdate_eq_false.mp (Bool.eq_false_iff.mpr accepted)
  exact behind.2.2 ⟨behind.1.antisymm stream, behind.2.1.antisymm outbound⟩

variable {seen : List PaymentRequestLifecycleProjection}
  {sent : List (Uuid × PaymentRequestLifecycleProjection)}

theorem commit_report {store' : Store} {result : PaymentRequestLifecycleApply}
    (applied : applyLifecycle d.crypto d.sdk store creatorId projection = .ok (result, store')) :
    (ledger d).commit store (.applyLifecycle creatorId projection) = store' :=
  commit_of_operate (persist_eq_ok.mpr (map_eq_ok.mpr ⟨_, applied, rfl⟩))

theorem commit_refused {e : PersistenceError}
    (failed : applyLifecycle d.crypto d.sdk store creatorId projection = .error e) :
    (ledger d).commit store (.applyLifecycle creatorId projection) = store := by
  apply commit_of_failed (e := .persistence e)
  show persist (Prod.snd <$> _) = _
  rw [failed]
  rfl

theorem commit_repeated {row : LifecycleRow}
    (found : store.attempt projection.paymentRequestId = some row)
    (shown : replaceAttempt projection row = row) :
    (ledger d).commit store (.applyLifecycle creatorId projection) = store := by
  cases applied : applyLifecycle d.crypto d.sdk store creatorId projection with
  | error e => exact commit_refused applied
  | ok answer =>
    obtain ⟨result, store'⟩ := answer
    obtain ⟨lifecycles, same, reports⟩ := applyLifecycle_reports applied
    rw [commit_report applied, same]
    suffices kept : lifecycles.rows = store.lifecycles.rows by rw [Table.ext kept]
    generalize lifecycles.rows = rows at reports
    cases reports with
    | notAttributable | exactReplay => rfl
    | updated owner existing attributed stored changed =>
      rw [found] at stored
      obtain rfl := Option.some.inj stored
      exact absurd shown changed
    | inserted owner attributed absent =>
      rw [found] at absent
      cases absent

theorem applied_is_stored {store' : Store}
    (applied : applyLifecycle d.crypto d.sdk store creatorId projection =
      .ok (.applied, store')) :
    ∃ row, store'.attempt projection.paymentRequestId = some row ∧
      replaceAttempt projection row = row := by
  obtain ⟨lifecycles, rfl, reports⟩ := applyLifecycle_reports applied
  change ∃ row, lookup _ _ lifecycles.rows = some row ∧ _
  generalize lifecycles.rows = rows at reports
  cases reports with
  | updated owner existing attributed stored changed =>
    rw [lookup_updateWhere]
    · change ∃ row, (store.attempt _).map _ = some row ∧ _
      have named := lookup_key stored
      rw [stored, Option.map_some, if_pos (decide_eq_true (Option.some.inj named))]
      exact ⟨_, rfl, rfl⟩
    · intro row met
      exact congrArg some (of_decide_eq_true met).symm
  | inserted owner attributed absent =>
    change lookup _ _ store.lifecycles.rows = none at absent
    rw [lookup_append, absent]
    exact ⟨projection.row owner, if_pos rfl, rfl⟩

theorem greatest_first (attributed : Attributed d.crypto d.sdk store creatorId projection owner)
    (absent : store.attempt projection.paymentRequestId = none)
    (admits : admitsAttempt store owner = true) :
    ∃ lifecycles, (ledger d).commit store (.applyLifecycle creatorId projection) =
        { store with lifecycles := lifecycles } ∧
      Greatest { store with lifecycles := lifecycles } projection.paymentRequestId owner
        [projection] := by
  obtain ⟨lifecycles, applied, rows⟩ := applyLifecycle_inserts attributed absent admits
  refine ⟨lifecycles, commit_report applied, .inr ⟨projection, .head _, ?_, by simp⟩⟩
  change lookup _ _ lifecycles.rows = _
  change lookup _ _ store.lifecycles.rows = none at absent
  rw [rows, lookup_append, absent]
  exact if_pos rfl

variable {top : PaymentRequestLifecycleProjection}

theorem greatest_replaced (ordered : Chain id chain) (known : chain top) (next : chain projection)
    (attributed : Attributed d.crypto d.sdk store creatorId projection owner)
    (stored : store.attempt id = some (top.row owner)) (ahead : Before top projection) :
    ∃ lifecycles, (ledger d).commit store (.applyLifecycle creatorId projection) =
        { store with lifecycles := lifecycles } ∧
      Store.attempt { store with lifecycles := lifecycles } id = some (projection.row owner) := by
  obtain rfl := ordered.named projection next
  have named := ordered.named top known
  have changed : replaceAttempt projection (top.row owner) ≠ top.row owner := by
    intro same
    have stream := congrArg LifecycleRow.lastStreamItemId same
    have outbound := congrArg LifecycleRow.lastOutboundMessageId same
    exact ahead.2.2 ⟨stream.symm, outbound.symm⟩
  obtain ⟨lifecycles, applied, rows⟩ := applyLifecycle_updates attributed stored changed
    (accepts_ahead ordered known next ahead)
  refine ⟨lifecycles, commit_report applied, ?_⟩
  change lookup _ _ lifecycles.rows = _
  rw [rows, lookup_updateWhere]
  · change (store.attempt _).map _ = _
    rw [stored, Option.map_some]
    exact congrArg some (if_pos (decide_eq_true named))
  · intro row met
    exact congrArg some (of_decide_eq_true met).symm

theorem commit_not_ahead (ordered : Chain id chain) (next : chain projection)
    (attributed : Attributed d.crypto d.sdk store creatorId projection owner)
    (stored : store.attempt id = some (top.row owner))
    (bounded : projection = top ∨ Before projection top) :
    (ledger d).commit store (.applyLifecycle creatorId projection) = store := by
  obtain rfl := ordered.named projection next
  rcases bounded with rfl | behind
  · exact commit_report (applyLifecycle_replays attributed stored rfl)
  · refine commit_refused (applyLifecycle_rejects attributed stored ?_ (rejects_behind behind))
    intro same
    have stream := congrArg LifecycleRow.lastStreamItemId same
    have outbound := congrArg LifecycleRow.lastOutboundMessageId same
    exact behind.2.2 ⟨stream, outbound⟩

theorem greatest_step (ordered : Chain id chain) (next : chain projection)
    (all : ∀ report ∈ seen, chain report)
    (attributed : Attributed d.crypto d.sdk store creatorId projection owner)
    (admits : seen = [] → admitsAttempt store owner = true)
    (greatest : Greatest store id owner seen) :
    ∃ lifecycles, (ledger d).commit store (.applyLifecycle creatorId projection) =
        { store with lifecycles := lifecycles } ∧
      Greatest { store with lifecycles := lifecycles } id owner (seen ++ [projection]) := by
  have named := ordered.named projection next
  rcases greatest with ⟨rfl, absent⟩ | ⟨top, listed, stored, below⟩
  · subst named
    exact greatest_first attributed absent (admits rfl)
  have known := all top listed
  by_cases ahead : Before top projection
  · obtain ⟨lifecycles, committed, found⟩ :=
      greatest_replaced ordered known next attributed stored ahead
    refine ⟨lifecycles, committed, .inr ⟨projection, by simp, found, fun report member => ?_⟩⟩
    rcases List.mem_append.mp member with old | new
    · rcases below report old with rfl | behind
      · exact .inr ahead
      · exact .inr (behind.trans ahead)
    · exact .inl (List.mem_singleton.mp new)
  · have bounded : projection = top ∨ Before projection top := by
      rcases ordered.ordered projection top next known with same | behind | ahead'
      · exact .inl same
      · exact .inr behind
      · exact absurd ahead' ahead
    refine ⟨store.lifecycles, commit_not_ahead ordered next attributed stored bounded,
      .inr ⟨top, by simp [listed], stored, fun report member => ?_⟩⟩
    rcases List.mem_append.mp member with old | new
    · exact below report old
    · obtain rfl := List.mem_singleton.mp new
      exact bounded

theorem greatest_other (elsewhere : projection.paymentRequestId ≠ id)
    (greatest : Greatest store id owner seen) :
    ∃ lifecycles, (ledger d).commit store (.applyLifecycle creatorId projection) =
        { store with lifecycles := lifecycles } ∧
      Greatest { store with lifecycles := lifecycles } id owner seen := by
  cases applied : applyLifecycle d.crypto d.sdk store creatorId projection with
  | error e => exact ⟨store.lifecycles, commit_refused applied, greatest⟩
  | ok answer =>
    obtain ⟨lifecycles, same, reports⟩ := applyLifecycle_reports applied
    refine ⟨lifecycles, (commit_report applied).trans same, ?_⟩
    have kept : Store.attempt { store with lifecycles := lifecycles } id = store.attempt id :=
      reports_other reports elsewhere
    unfold Greatest
    rw [kept]
    exact greatest

def reportsOf (id : String) (sent : List (Uuid × PaymentRequestLifecycleProjection)) :
    List PaymentRequestLifecycleProjection :=
  (sent.map (·.2)).filter (·.paymentRequestId = id)

/-- Reports of a chain leave the greatest one stored, whatever order they are sent in and
whatever is reported about other requests in between. -/
theorem reports_converge (ordered : Chain id chain)
    (sender : ∀ report ∈ sent, report.2.paymentRequestId = id →
      report.1 = creatorId ∧ chain report.2)
    (attributed : ∀ projection, chain projection →
      Attributed d.crypto d.sdk store creatorId projection owner)
    (all : ∀ report ∈ seen, chain report)
    (admits : seen = [] → admitsAttempt store owner = true)
    (greatest : Greatest store id owner seen) :
    Greatest ((ledger d).run store (sent.map fun report => .applyLifecycle report.1 report.2)) id
      owner (seen ++ reportsOf id sent) := by
  induction sent generalizing store seen with
  | nil =>
    rw [show seen ++ reportsOf id [] = seen from List.append_nil seen]
    exact greatest
  | cons report sent ih =>
    have later : ∀ report ∈ sent, report.2.paymentRequestId = id →
        report.1 = creatorId ∧ chain report.2 :=
      fun report member => sender report (.tail _ member)
    rw [List.map_cons]
    change Greatest ((ledger d).run ((ledger d).commit store _) _) _ _ _
    by_cases mine : report.2.paymentRequestId = id
    · obtain ⟨rfl, next⟩ := sender report (.head _) mine
      obtain ⟨lifecycles, committed, greatest'⟩ :=
        greatest_step ordered next all (attributed _ next) admits greatest
      have split : reportsOf id (report :: sent) = [report.2] ++ reportsOf id sent := by
        simp [reportsOf, mine]
      rw [committed, split, ← List.append_assoc]
      refine ih later (fun projection known => ?_) (fun other member => ?_) (by simp) greatest'
      · exact ⟨(attributed projection known).valid, (attributed projection known).found,
          (attributed projection known).locked⟩
      · rcases List.mem_append.mp member with old | new
        · exact all other old
        · obtain rfl := List.mem_singleton.mp new
          exact next
    · obtain ⟨lifecycles, committed, greatest'⟩ := greatest_other mine greatest
      have split : reportsOf id (report :: sent) = reportsOf id sent := by
        simp [reportsOf, mine]
      rw [committed, split]
      refine ih later (fun projection known => ?_) all admits greatest'
      exact ⟨(attributed projection known).valid, (attributed projection known).found,
        (attributed projection known).locked⟩

/-- Reports never take a stored attempt back: its owner stays and its cursors and event time
do not decrease. A refused report and a repeated one change nothing, an accepted one is what
is stored afterwards. Reports of one request whose cursors put them in order, whose event
times do not go back and which propose no expired request again leave the greatest of them,
in whatever order they are sent. -/
theorem attempts_advance (d : Deployment) (store : Store) (id : String) :
    (∀ operations row, store.attempt id = some row →
      ∃ row', ((ledger d).run store operations).attempt id = some row' ∧ AttemptAdvances row row') ∧
    (∀ creatorId projection e,
      applyLifecycle d.crypto d.sdk store creatorId projection = .error e →
        (ledger d).commit store (.applyLifecycle creatorId projection) = store) ∧
    (∀ creatorId projection row, store.attempt projection.paymentRequestId = some row →
      replaceAttempt projection row = row →
        (ledger d).commit store (.applyLifecycle creatorId projection) = store) ∧
    (∀ creatorId projection store',
      applyLifecycle d.crypto d.sdk store creatorId projection = .ok (.applied, store') →
        ∃ row, store'.attempt projection.paymentRequestId = some row ∧
          replaceAttempt projection row = row) ∧
    ∀ creatorId owner chain sent seen, Chain id chain →
      (∀ report ∈ sent, report.2.paymentRequestId = id →
        report.1 = creatorId ∧ chain report.2) →
      (∀ projection, chain projection →
        Attributed d.crypto d.sdk store creatorId projection owner) →
      (∀ report ∈ seen, chain report) → (seen = [] → admitsAttempt store owner = true) →
      Greatest store id owner seen →
      Greatest ((ledger d).run store (sent.map fun report => .applyLifecycle report.1 report.2))
        id owner (seen ++ reportsOf id sent) := by
  refine ⟨fun _ _ => attempt_run, fun _ _ _ => commit_refused, fun _ _ _ => commit_repeated,
    fun _ _ _ => applied_is_stored, ?_⟩
  · intro creatorId owner chain sent seen ordered sender attributed all admits greatest
    exact reports_converge ordered sender attributed all admits greatest

namespace Sample

def reportAt (state : PaymentRequestLifecycleState) (cursor time : Nat) : Operation :=
  .applyLifecycle 0
    ⟨"request", "reader", paykitAppId, issuedTerms, state, none, some cursor, none, time⟩

def cursorAfter (reports : List Operation) : Option (Option Nat) :=
  ((storeAfter deployment 0
    ([.createCreator (credentials "xpub"), .createInvoice bundle] ++ reports)).attempt
      "request").map (·.lastStreamItemId)

end Sample

example : Sample.cursorAfter [Sample.reportAt .proposed 1 5, Sample.reportAt .accepted 2 10] =
      some (some 2) ∧
    Sample.cursorAfter [Sample.reportAt .accepted 2 10, Sample.reportAt .proposed 1 5] =
      some (some 2) := by
  decide +kernel

/-- Two reports with increasing cursors, the later one with an earlier event time, leave
whichever came first. -/
theorem earlier_event_time_is_refused :
    Sample.cursorAfter [Sample.reportAt .proposed 1 10, Sample.reportAt .accepted 2 5] =
        some (some 1) ∧
      Sample.cursorAfter [Sample.reportAt .accepted 2 5, Sample.reportAt .proposed 1 10] =
        some (some 2) := by
  decide +kernel

end Convergence

end PaykitServer
