import PaykitServer.Ledger.Requests

/-!
# Child indexes are issued once

A request's Bitcoin address is derived from its creator's account at a child index.
Invoices of both versions and Marketplace preparations draw their index from one
counter of the creator, which no rotation resets: within a creator an index is
issued once, so no account, left and returned to, issues an address twice.
-/

namespace PaykitServer

open Domain Persistence Application
open MarketplacePreparations Relational

def issued (store : Store) : List (Uuid × Int) :=
  store.admissions.rows.map (fun row => (row.creatorId, row.payment.derivationIndex)) ++
    store.preparations.rows.map fun row => (row.creatorId, row.envelope.childIndex)

def nextIndex (store : Store) (creatorId : Uuid) : Option Int :=
  (lookup (fun row => some row.id) creatorId store.creators.rows).map (·.nextChildIndex)

/-- One request more of one creator, at the index its counter showed. -/
structure IssuesOne (store store' : Store) (creatorId : Uuid) : Prop where
  index : ∃ index, nextIndex store creatorId = some index ∧
    nextIndex store' creatorId = some (index + 1) ∧
    (issued store').Perm ((creatorId, index) :: issued store)
  others : ∀ other, other ≠ creatorId → nextIndex store' other = nextIndex store other

/-- No request more, and every counter as it was. -/
structure IssuesNone (store store' : Store) : Prop where
  requests : issued store' = issued store
  counters : ∀ creatorId index, nextIndex store creatorId = some index →
    nextIndex store' creatorId = some index

/-- Every issued index is behind its creator's counter, and no two are the same. -/
structure IssuedOnce (store : Store) : Prop where
  distinct : (issued store).Nodup
  behind : ∀ issue ∈ issued store, ∃ next, nextIndex store issue.1 = some next ∧ issue.2 < next

section Step

variable {d : Deployment} {store store' : Store} {operation : Operation}

theorem IssuesOne.of_advance {creator : CreatorRow} (found : creator ∈ store.creators.rows)
    (advanced : store'.creators.rows = updateWhere (fun row => row.id = creator.id)
      (fun row => { row with nextChildIndex := row.nextChildIndex + 1 }) store.creators.rows)
    (request : (issued store').Perm ((creator.id, creator.nextChildIndex) :: issued store)) :
    IssuesOne store store' creator.id := by
  have counter : ∀ id, lookup (fun row => some row.id) id store'.creators.rows =
      if id = creator.id then
        (lookup (fun row => some row.id) id store.creators.rows).map
          fun row => { row with nextChildIndex := row.nextChildIndex + 1 }
      else lookup (fun row => some row.id) id store.creators.rows := by
    intro id
    rw [advanced, lookup_updateOne]
    exact fun _ => rfl
  have current : lookup (fun row => some row.id) creator.id store.creators.rows = some creator :=
    (lookup_eq_some_iff store.creators.valid.1).mpr ⟨found, rfl⟩
  refine ⟨⟨creator.nextChildIndex, ?_, ?_, request⟩, fun other distinct => ?_⟩
  · rw [nextIndex, current]
    rfl
  · rw [nextIndex, counter, if_pos rfl, current]
    rfl
  · rw [nextIndex, counter, if_neg distinct]
    rfl

theorem issued_admission {row : AdmissionRow}
    (admitted : store'.admissions.rows = store.admissions.rows ++ [row])
    (same : store'.preparations = store.preparations) :
    (issued store').Perm ((row.creatorId, row.payment.derivationIndex) :: issued store) := by
  simp only [issued, admitted, same, List.map_append, List.map_cons, List.map_nil,
    List.append_assoc]
  exact List.perm_middle

theorem issued_preparation {row : Preparation}
    (quoted : store'.preparations.rows = store.preparations.rows ++ [row])
    (same : store'.admissions = store.admissions) :
    (issued store').Perm ((row.creatorId, row.envelope.childIndex) :: issued store) := by
  simp only [issued, quoted, same, List.map_append, List.map_cons, List.map_nil,
    ← List.append_assoc]
  exact List.perm_append_singleton _ _

theorem issues_admission {new : Invoices.NewInvoice} {locked : Store} {ids : Invoices.NewIds}
    (found : new.creator ∈ store.creators.rows)
    (admissible : Invoices.Admissible d.sdk store locked new)
    (inserted : Invoices.insertNewInvoice d.crypto locked new = .ok (ids, store')) :
    IssuesOne store store' new.creator.id := by
  obtain ⟨lock, hlock, -, -⟩ := admissible.locked
  obtain ⟨generations, same, -, -⟩ := Invoices.lockGenerationForUpdate_ok hlock
  obtain ⟨_, _, creators, admissions, _, _, _, same', -, -, advanced, rows, -⟩ :=
    Invoices.insertNewInvoice_ok inserted
  rw [same] at advanced rows same'
  have admitted : store'.admissions.rows =
      store.admissions.rows ++ [new.admissionRow d.crypto ids.invoice] := by rw [same', rows]
  have request := issued_admission admitted (by rw [same'])
  have index : new.payment.derivationIndex = _ := (fromIntent_ok admissible.payment).2
  refine .of_advance found (by rw [same', advanced]) ?_
  rw [← index]
  exact request

variable {input : MarketplacePreparationInput} {result : MarketplacePreparationResult}

theorem issues_preparation {creator : CreatorRow} (found : creator ∈ store.creators.rows)
    (inserted : insertPreparation d.crypto d.sdk store input creator = .ok (result, store')) :
    IssuesOne store store' creator.id := by
  obtain ⟨_, _, _, _, same, rows, -, advanced, -⟩ := insertPreparation_ok inserted
  have quoted : store'.preparations.rows = _ := (congrArg (·.preparations.rows) same).trans rows
  exact .of_advance found (by rw [same, advanced]) (issued_preparation quoted (by rw [same]))

theorem counter_kept (effect : Effect d store operation store') (idle : operation.issues = false)
    {creatorId : Uuid} {index : Int} (counter : nextIndex store creatorId = some index) :
    nextIndex store' creatorId = some index := by
  obtain ⟨creator, found, rfl⟩ := Option.map_eq_some_iff.mp counter
  obtain ⟨creator', found', moved⟩ : ∃ creator',
      lookup (fun row => some row.id) creatorId store'.creators.rows = some creator' ∧ _ :=
    ((operate_creators effect).lookup (by rintro row _ (_ | _) <;> rfl)).1 creator found
  rw [nextIndex, found']
  cases moved with
  | kept => rfl
  | advanced issues =>
    rw [idle] at issues
    cases issues

theorem issues_none (effect : Effect d store operation store') (idle : operation.issues = false) :
    IssuesNone store store' := by
  refine ⟨?_, fun _ _ => counter_kept effect idle⟩
  have admissions : store'.admissions.rows.map
        (fun row => (row.creatorId, row.payment.derivationIndex)) =
      store.admissions.rows.map fun row => (row.creatorId, row.payment.derivationIndex) := by
    refine ((operate_admissions effect).mono (fun _ _ _ => id) ?_).map_eq ?_
    · rintro row ⟨isAdmission, -⟩
      rw [Operation.issues_of_isAdmission isAdmission] at idle
      cases idle
    · rintro row _ rfl
      rfl
  have preparations : store'.preparations.rows.map
        (fun row => (row.creatorId, row.envelope.childIndex)) =
      store.preparations.rows.map fun row => (row.creatorId, row.envelope.childIndex) := by
    refine ((operate_preparations effect).mono (fun _ _ _ => id) ?_).map_eq ?_
    · rintro row ⟨⟩
      cases idle
    · rintro row _ (_ | _ | _ | _ | _) <;> rfl
  rw [issued, issued, admissions, preparations]

/-- A call that creates a request commits with the stored one, changing nothing, or with
one new request of its creator. -/
inductive CreatesOne (store : Store) (creatorHash : LookupHash) : Bool → Store → Prop where
  | replayed : CreatesOne store creatorHash true store
  | created (creator : CreatorRow) (store' : Store)
      (found : store.creatorByHash creatorHash = some creator)
      (one : IssuesOne store store' creator.id) : CreatesOne store creatorHash false store'

theorem CreatesOne.issues {creatorHash : LookupHash} {replayed : Bool}
    (creates : CreatesOne store creatorHash replayed store') :
    IssuesNone store store' ∨ ∃ creatorId, IssuesOne store store' creatorId := by
  cases creates with
  | replayed => exact .inl ⟨rfl, fun _ _ => id⟩
  | created creator _ _ one => exact .inr ⟨creator.id, one⟩

theorem createAtomic_creates {input : Invoices.AtomicInvoiceInput}
    {result : Invoices.AtomicInvoiceResult}
    (done : Invoices.createAtomic d.crypto d.sdk store input = .ok (result, store')) :
    CreatesOne store (textHash d.crypto input.creator) result.replayed store' := by
  obtain ⟨creator, found, ⟨existing, -, replayed, rfl⟩ | ⟨_, _, -, free, admitted⟩⟩ :=
    Invoices.createAtomic_ok done
  · obtain ⟨-, -, _, _, -, -, rfl⟩ := Invoices.replayInvoice_ok replayed
    exact .replayed
  · obtain ⟨locked, new, ids, rfl, -, -, -, -, -, -, admissible, inserted, rfl⟩ :=
      Invoices.admitInvoice_ok free admitted
    exact .created _ _ found (issues_admission (lookup_mem found) admissible inserted)

theorem createProviderV2Atomic_creates {input : Invoices.ProviderV2AtomicInvoiceInput}
    {result : Invoices.ProviderV2CreateResult}
    (done : Invoices.createProviderV2Atomic d.crypto d.sdk store input = .ok (result, store')) :
    CreatesOne store (textHash d.crypto input.creator) result.replayed store' := by
  obtain ⟨creator, found, ⟨existing, -, replayed, rfl⟩ | ⟨free, admitted⟩⟩ :=
    Invoices.createProviderV2Atomic_ok done
  · obtain ⟨_, -, -, rfl⟩ := Invoices.replayProviderV2_ok replayed
    exact .replayed
  · obtain ⟨locked, new, ids, rfl, -, -, -, -, -, -, -, admissible, inserted, rfl⟩ :=
      Invoices.admitProviderV2_ok free admitted
    exact .created _ _ found (issues_admission (lookup_mem found) admissible inserted)

theorem prepare_creates (done : prepare d.crypto d.sdk store input = .ok (result, store')) :
    CreatesOne store (textHash d.crypto input.creator) result.replayed store' := by
  obtain ⟨creator, found, ⟨row, -, replayed, rfl⟩ | ⟨-, inserted⟩⟩ := prepare_ok done
  · rw [(validateReplay_ok replayed).2]
    exact .replayed
  · obtain ⟨_, _, _, _, -, -, -, -, quote⟩ := insertPreparation_ok inserted
    rw [quote.replayed]
    exact .created _ _ found (issues_preparation (lookup_mem found) inserted)

theorem prepareQuoted_creates {acceptedAgo : Option Nat}
    (done : prepareQuoted d.crypto d.sdk store input acceptedAgo = .ok (result, store')) :
    CreatesOne store (textHash d.crypto input.creator) result.replayed store' := by
  obtain ⟨deadline, done⟩ : ∃ deadline, prepare d.crypto d.sdk store
      { input with prepareDeadline := deadline } = .ok (result, store') := by
    cases acceptedAgo with
    | none => exact ⟨none, done⟩
    | some waited =>
      obtain ⟨deadline, _, done⟩ := bind_eq_ok.mp done
      exact ⟨some deadline, done⟩
  have creates := prepare_creates done
  exact creates

theorem operate_issues (done : operate d store operation = .ok store') :
    IssuesNone store store' ∨ ∃ creatorId, IssuesOne store store' creatorId := by
  cases idle : operation.issues with
  | false => exact .inl (issues_none (operate_effect done) idle)
  | true =>
    cases operation with
    | createInvoice input =>
      obtain ⟨result, created⟩ := snd_eq_ok.mp (persist_eq_ok.mp done)
      exact (createAtomic_creates created).issues
    | createProviderV2 input =>
      obtain ⟨result, created⟩ := snd_eq_ok.mp (persist_eq_ok.mp done)
      exact (createProviderV2Atomic_creates created).issues
    | prepare input acceptedAgo =>
      obtain ⟨result, prepared⟩ := snd_eq_ok.mp (persist_eq_ok.mp done)
      exact (prepareQuoted_creates prepared).issues
    | _ => cases idle

/-- One request more keeps the indexes distinct: the counter is ahead of all of them. -/
theorem IssuedOnce.issuesOne {creatorId : Uuid} (once : IssuedOnce store)
    (one : IssuesOne store store' creatorId) : IssuedOnce store' := by
  obtain ⟨index, counter, counter', request⟩ := one.index
  refine ⟨request.nodup_iff.mpr (List.nodup_cons.mpr ⟨fun member => ?_, once.distinct⟩), ?_⟩
  · obtain ⟨next, current, behind⟩ := once.behind _ member
    rw [counter] at current
    cases current
    exact absurd behind (lt_irrefl _)
  · intro issue member
    by_cases own : issue.1 = creatorId
    · refine ⟨index + 1, own ▸ counter', ?_⟩
      rcases List.mem_cons.mp (request.mem_iff.mp member) with rfl | earlier
      · exact Int.lt_succ _
      · obtain ⟨next, current, behind⟩ := once.behind issue earlier
        rw [own, counter] at current
        cases current
        exact behind.trans (Int.lt_succ _)
    · rw [one.others _ own]
      rcases List.mem_cons.mp (request.mem_iff.mp member) with rfl | earlier
      · exact absurd rfl own
      · exact once.behind issue earlier

theorem IssuedOnce.issuesNone (once : IssuedOnce store) (none : IssuesNone store store') :
    IssuedOnce store' := by
  refine ⟨none.requests ▸ once.distinct, fun issue member => ?_⟩
  rw [none.requests] at member
  obtain ⟨next, current, behind⟩ := once.behind issue member
  exact ⟨next, none.counters _ _ current, behind⟩

end Step

/-- Requests of one creator never share a child index, whatever was created, replayed,
refused or rotated before. A creation that commits replays and changes nothing, or
issues the counter's index and advances it by one; nothing else issues an index or
moves a counter, and an operation that fails leaves the store as it was. -/
theorem child_indexes_issued_once (d : Deployment) (start : OffsetDateTime)
    (operations : List Operation) :
    (issued (storeAfter d start operations)).Nodup ∧
      (∀ input result store',
        Invoices.createAtomic d.crypto d.sdk (storeAfter d start operations) input =
            .ok (result, store') →
          CreatesOne (storeAfter d start operations) (textHash d.crypto input.creator)
            result.replayed store') ∧
      (∀ input result store',
        Invoices.createProviderV2Atomic d.crypto d.sdk (storeAfter d start operations) input =
            .ok (result, store') →
          CreatesOne (storeAfter d start operations) (textHash d.crypto input.creator)
            result.replayed store') ∧
      (∀ input acceptedAgo result store',
        prepareQuoted d.crypto d.sdk (storeAfter d start operations) input acceptedAgo =
            .ok (result, store') →
          CreatesOne (storeAfter d start operations) (textHash d.crypto input.creator)
            result.replayed store') ∧
      (∀ operation store', operate d (storeAfter d start operations) operation = .ok store' →
        operation.issues = false → IssuesNone (storeAfter d start operations) store') ∧
      ∀ operation e, operate d (storeAfter d start operations) operation = .error e →
        storeAfter d start (operations ++ [operation]) = storeAfter d start operations := by
  refine ⟨?_, fun _ _ _ => createAtomic_creates, fun _ _ _ => createProviderV2Atomic_creates,
    fun _ _ _ _ => prepareQuoted_creates, fun _ _ done => issues_none (operate_effect done), ?_⟩
  · refine (storeAfter_invariant (P := IssuedOnce) ⟨List.nodup_nil, ?_⟩ ?_).distinct
    · rintro issue ⟨⟩
    · intro store operation store' once done
      obtain none | ⟨creatorId, one⟩ := operate_issues done
      · exact once.issuesNone none
      · exact once.issuesOne one
  · intro operation e failed
    rw [storeAfter_concat]
    exact commit_of_failed failed

end PaykitServer
