import PaykitServer.Server

/-!
# The provider's order does not matter

A fetched batch is accepted when every output is acceptable by itself and no output is
reported twice, and neither depends on the order. The batch order compares every field of
an output, so the accepted outputs have one sorted form. What is stored is therefore the
same for every order in which a provider lists them.
-/

namespace PaykitServer.Settlement

open Domain Bitcoin Persistence Workers
open Relational

section Order

variable {a b : BitcoinObservationInput} {batch batch' : List BitcoinObservationInput}

/-- Outputs that compare equal are equal: the comparison looks at every field. -/
theorem eq_of_cmpForBatch (same : a.cmpForBatch b = .eq) : a = b := by
  simp only [BitcoinObservationInput.cmpForBatch, Ordering.then_eq_eq, compare_eq_iff_eq] at same
  obtain ⟨address, present, txid, vout, sats, confirmations⟩ := same
  obtain ⟨_, ⟨_, _, _⟩, _, _, _⟩ := a
  obtain ⟨_, ⟨_, _, _⟩, _, _, _⟩ := b
  simp_all

theorem cmpForBatch_antisymm (forth : a.cmpForBatch b ≠ .gt) (back : b.cmpForBatch a ≠ .gt) :
    a = b := by
  have transCmp := cmpForBatch_transCmp
  have swapped : b.cmpForBatch a = (a.cmpForBatch b).swap := Std.OrientedCmp.eq_swap
  cases compared : a.cmpForBatch b with
  | eq => exact eq_of_cmpForBatch compared
  | gt => exact absurd compared forth
  | lt =>
    rw [compared] at swapped
    exact absurd swapped back

theorem sortForBatch_eq (perm : batch'.Perm batch) : sortForBatch batch' = sortForBatch batch := by
  have sorted : (sortForBatch batch').Perm (sortForBatch batch) :=
    (sortForBatch_perm batch').trans (perm.trans (sortForBatch_perm batch).symm)
  exact sorted.eq_of_pairwise (fun _ _ _ _ => cmpForBatch_antisymm) (sortForBatch_pairwise batch')
    (sortForBatch_pairwise batch)

end Order

def observationInput (output : ObservedOutput) : BitcoinObservationInput :=
  ⟨output.address, output.outpoint, output.sats, output.confirmations, output.present⟩

/-- An output that can be accepted for the indexed targets, whatever else is reported. -/
structure Accepted (env : Environment) (targets : List ObservationTarget)
    (output : ObservedOutput) : Prop where
  network : output.network = env.network
  confirmations : output.confirmations < 2 ^ 31 ∧ (output.present = false → output.confirmations = 0)
  address : env.parseAddress env.network output.address = .ok output.address
  target : ∃ target, targets.find? (fun target => target.address = output.address) = some target ∧
    (output.present = true ∨ target.current = some ⟨output.outpoint, output.sats⟩)

section Validation

variable {env : Environment} {targets : List ObservationTarget} {output : ObservedOutput}
variable {outputs outputs' : List ObservedOutput} {earlier : List BitcoinObservationInput}

theorem validateOutput_ok {input : BitcoinObservationInput} :
    validateOutput env targets earlier output = .ok input ↔ Accepted env targets output ∧
      (∀ other ∈ earlier, other.outpoint ≠ output.outpoint) ∧ input = observationInput output := by
  constructor
  · intro valid
    obtain ⟨_, network, _, confirmations, address, parsed, valid⟩ := bind₃_eq_ok.mp valid
    obtain ⟨_, canonical, target, found, _, tracked, valid⟩ := bind₃_eq_ok.mp valid
    obtain ⟨_, fresh, valid⟩ := bind_eq_ok.mp valid
    cases valid
    have canonical := ensure_eq_ok.mp canonical
    subst canonical
    exact ⟨⟨ensure_eq_ok.mp network, ensure_eq_ok.mp confirmations, parsed, target,
      demand_eq_ok.mp found, ensure_eq_ok.mp tracked⟩, ensure_eq_ok.mp fresh, rfl⟩
  · rintro ⟨accepted, fresh, rfl⟩
    obtain ⟨target, found, tracked⟩ := accepted.target
    refine bind_eq_ok.mpr ⟨(), ensure_eq_ok.mpr accepted.network, ?_⟩
    refine bind_eq_ok.mpr ⟨(), ensure_eq_ok.mpr accepted.confirmations, ?_⟩
    refine bind_eq_ok.mpr ⟨output.address, accepted.address, ?_⟩
    refine bind_eq_ok.mpr ⟨(), ensure_eq_ok.mpr rfl, ?_⟩
    refine bind_eq_ok.mpr ⟨target, demand_eq_ok.mpr found, ?_⟩
    refine bind_eq_ok.mpr ⟨(), ensure_eq_ok.mpr tracked, ?_⟩
    exact bind_eq_ok.mpr ⟨(), ensure_eq_ok.mpr fresh, rfl⟩

theorem validated_ok {validated : List BitcoinObservationInput} :
    outputs.foldlM
        (fun validated output => do
          let input ← validateOutput env targets validated output
          return validated ++ [input]) earlier = .ok validated ↔
      (∀ output ∈ outputs, Accepted env targets output) ∧ (outputs.map (·.outpoint)).Nodup ∧
        (∀ output ∈ outputs, ∀ other ∈ earlier, other.outpoint ≠ output.outpoint) ∧
        validated = earlier ++ outputs.map observationInput := by
  induction outputs generalizing earlier with
  | nil =>
    simp only [List.foldlM_nil, List.map_nil, List.append_nil, List.not_mem_nil, false_implies,
      implies_true, List.nodup_nil, true_and]
    exact ⟨fun done => (Except.ok.inj done).symm, fun same => congrArg Except.ok same.symm⟩
  | cons output outputs ih =>
    rw [List.foldlM_cons]
    constructor
    · intro valid
      obtain ⟨_, appended, valid⟩ := bind_eq_ok.mp valid
      obtain ⟨input, first, appended⟩ := bind_eq_ok.mp appended
      cases appended
      obtain ⟨accepted, fresh, rfl⟩ := validateOutput_ok.mp first
      obtain ⟨others, distinct, apart, rfl⟩ := ih.mp valid
      refine ⟨List.forall_mem_cons.mpr ⟨accepted, others⟩, ?_, ?_, ?_⟩
      · refine List.nodup_cons.mpr ⟨fun repeated => ?_, distinct⟩
        obtain ⟨other, member, same⟩ := List.mem_map.mp repeated
        exact apart other member (observationInput output) (by simp) same.symm
      · refine List.forall_mem_cons.mpr ⟨fresh, fun other member input stored => ?_⟩
        exact apart other member input (List.mem_append_left _ stored)
      · rw [List.map_cons, List.append_assoc, List.singleton_append]
    · rintro ⟨accepted, distinct, apart, rfl⟩
      obtain ⟨accepted, others⟩ := List.forall_mem_cons.mp accepted
      obtain ⟨fresh, apart⟩ := List.forall_mem_cons.mp apart
      obtain ⟨once, distinct⟩ := List.nodup_cons.mp distinct
      refine bind_eq_ok.mpr ⟨earlier ++ [observationInput output], ?_, ?_⟩
      · exact bind_eq_ok.mpr ⟨_, validateOutput_ok.mpr ⟨accepted, fresh, rfl⟩, rfl⟩
      · refine ih.mpr ⟨others, distinct, fun other member input stored => ?_, ?_⟩
        · rcases List.mem_append.mp stored with stored | last
          · exact apart other member input stored
          · obtain rfl := List.mem_singleton.mp last
            exact fun same => once (List.mem_map.mpr ⟨other, member, same.symm⟩)
        · rw [List.map_cons, List.append_assoc, List.singleton_append]

variable {batch : List BitcoinObservationInput}

theorem validateBatch_ok :
    validateBatch env outputs targets = .ok batch ↔ ∃ indexed,
      targetsByAddress env targets = .ok indexed ∧
      (∀ output ∈ outputs, Accepted env indexed output) ∧ (outputs.map (·.outpoint)).Nodup ∧
      batch = sortForBatch (outputs.map observationInput) := by
  constructor
  · intro valid
    obtain ⟨indexed, listed, validated, looped, valid⟩ := bind₂_eq_ok.mp valid
    cases valid
    obtain ⟨accepted, distinct, -, rfl⟩ := validated_ok.mp looped
    exact ⟨indexed, listed, accepted, distinct, rfl⟩
  · rintro ⟨indexed, listed, accepted, distinct, rfl⟩
    refine bind_eq_ok.mpr ⟨indexed, listed, bind_eq_ok.mpr ⟨_, validated_ok.mpr ?_, rfl⟩⟩
    exact ⟨accepted, distinct, by simp, rfl⟩

theorem validateBatch_perm (perm : outputs'.Perm outputs) :
    validateBatch env outputs' targets = .ok batch ↔ validateBatch env outputs targets = .ok batch := by
  rw [validateBatch_ok, validateBatch_ok]
  simp only [perm.mem_iff, (perm.map _).nodup_iff, sortForBatch_eq (perm.map observationInput)]

/-- What follows validation fails or succeeds alike for both orders. -/
theorem validateBatch_bind {α : Type} (perm : outputs'.Perm outputs)
    (next : List BitcoinObservationInput → Except ObserverError α) :
    ((∃ e, validateBatch env outputs targets >>= next = .error e) ∧
      ∃ e, validateBatch env outputs' targets >>= next = .error e) ∨
      ∃ result, validateBatch env outputs targets >>= next = .ok result ∧
        validateBatch env outputs' targets >>= next = .ok result := by
  cases valid : validateBatch env outputs targets with
  | ok batch =>
    rw [(validateBatch_perm perm).mpr valid]
    cases applied : next batch with
    | error e => exact .inl ⟨⟨e, applied⟩, e, applied⟩
    | ok result => exact .inr ⟨result, applied, applied⟩
  | error e =>
    cases valid' : validateBatch env outputs' targets with
    | error e' => exact .inl ⟨⟨e, rfl⟩, e', rfl⟩
    | ok batch =>
      rw [(validateBatch_perm perm).mp valid'] at valid
      cases valid

end Validation

/-- Two calls fail without a stored change, or succeed with the same count and database. -/
def SameOutcome (db : Database) (call call' : Except ObserverError (Nat × Database))
    (after after' : Database) : Prop :=
  ((∃ e, call = .error e) ∧ (∃ e, call' = .error e) ∧ after = db ∧ after' = db) ∨
    ∃ applied db', call = .ok (applied, db') ∧ call' = .ok (applied, db') ∧ after = db' ∧
      after' = db'

section Requests

variable {env : Environment} {db : Database} {targets : List ObservationTarget}
variable {outputs : List ObservedOutput} {observedAt : OffsetDateTime}

def leaves (db : Database) (call : Except ObserverError (Nat × Database)) : Database :=
  call.toOption.elim db (·.2)

theorem commit_batch {request : Request} {applied : Except PersistenceError (Nat × Database)}
    (same : Prod.snd <$> applied = execute (perform env) db (requestActions env request)) :
    (server env).commit db request = leaves db (mapPersistence applied) := by
  cases applied with
  | error e => exact System.commit_of_error same.symm
  | ok result => exact System.commit_of_ok same.symm

theorem commit_observeOnce :
    (server env).commit db (.observeOnce targets outputs observedAt) =
      leaves db (validateBatch env outputs targets >>= fun batch =>
        mapPersistence (applyBitcoinObservationBatch env.crypto db batch observedAt)) := by
  cases valid : validateBatch env outputs targets with
  | error e =>
    have none : requestActions env (.observeOnce targets outputs observedAt) = [] := by
      simp only [requestActions, valid]
    exact @commit_batch env db _ (.ok (0, db)) (by rw [none]; rfl)
  | ok batch =>
    refine commit_batch ((applyBitcoinObservationBatch_eq db batch).trans ?_)
    simp only [requestActions, valid]

theorem commit_observeMarketplaceOnce :
    (server env).commit db (.observeMarketplaceOnce targets outputs observedAt) =
      leaves db (observeMarketplaceOnce env db targets outputs observedAt) := by
  unfold observeMarketplaceOnce
  cases valid : validateBatch env outputs targets with
  | error e =>
    have none : requestActions env (.observeMarketplaceOnce targets outputs observedAt) = [] := by
      simp only [requestActions, valid]
    exact @commit_batch env db _ (.ok (0, db)) (by rw [none]; rfl)
  | ok batch =>
    refine commit_batch ((applyMarketplaceBatch_eq db batch).trans ?_)
    simp only [requestActions, valid]

theorem validateBatch_without_targets {batch : List BitcoinObservationInput}
    (valid : validateBatch env outputs [] = .ok batch) : batch = [] := by
  obtain ⟨indexed, listed, accepted, -, rfl⟩ := validateBatch_ok.mp valid
  cases listed
  cases outputs with
  | nil => rfl
  | cons output outputs =>
    obtain ⟨target, found, -⟩ := (accepted output (.head _)).target
    cases found

theorem commit_fenced {atStart : Database} {callStartedAt : OffsetDateTime} :
    (server env).commit db (.observeOnce
        (fenceObservationTargets env.crypto atStart targets callStartedAt) outputs observedAt) =
      leaves db (observeOnce env atStart db targets outputs callStartedAt observedAt) := by
  rw [commit_observeOnce]
  unfold observeOnce
  dsimp only
  split
  · rename_i skipped
    rw [skipped.2]
    cases valid : validateBatch env outputs [] with
    | error e => rfl
    | ok batch =>
      obtain rfl := validateBatch_without_targets valid
      rfl
  · rfl

end Requests

theorem SameOutcome.of_calls {db : Database} {call call' : Except ObserverError (Nat × Database)}
    (alike : ((∃ e, call = .error e) ∧ ∃ e, call' = .error e) ∨
      ∃ result, call = .ok result ∧ call' = .ok result) :
    SameOutcome db call call' (leaves db call) (leaves db call') := by
  rcases alike with ⟨⟨e, failed⟩, e', failed'⟩ | ⟨⟨applied, db'⟩, done, done'⟩
  · exact .inl ⟨⟨e, failed⟩, ⟨e', failed'⟩, by rw [failed]; rfl, by rw [failed']; rfl⟩
  · exact .inr ⟨applied, db', done, done', by rw [done]; rfl, by rw [done']; rfl⟩

/-- The order in which a provider lists its outputs does not matter. For every requested set
of addresses, two orders of one list of outputs both fail and leave the database as it was,
or both succeed and leave the same one: the same invoices, observations, on-time rows and
provider-v2 evidence. The same holds for Marketplace settlements. -/
theorem provider_order_is_irrelevant (env : Environment) (atStart db : Database)
    (targets : List ObservationTarget) (outputs outputs' : List ObservedOutput)
    (callStartedAt observedAt : OffsetDateTime) (perm : outputs'.Perm outputs) :
    SameOutcome db (observeOnce env atStart db targets outputs callStartedAt observedAt)
      (observeOnce env atStart db targets outputs' callStartedAt observedAt)
      ((server env).commit db (.observeOnce
        (fenceObservationTargets env.crypto atStart targets callStartedAt) outputs observedAt))
      ((server env).commit db (.observeOnce
        (fenceObservationTargets env.crypto atStart targets callStartedAt) outputs' observedAt)) ∧
    SameOutcome db (observeMarketplaceOnce env db targets outputs observedAt)
      (observeMarketplaceOnce env db targets outputs' observedAt)
      ((server env).commit db (.observeMarketplaceOnce targets outputs observedAt))
      ((server env).commit db (.observeMarketplaceOnce targets outputs' observedAt)) := by
  rw [commit_fenced, commit_fenced, commit_observeMarketplaceOnce, commit_observeMarketplaceOnce]
  refine ⟨.of_calls ?_, .of_calls (validateBatch_bind perm _)⟩
  unfold observeOnce
  dsimp only
  split
  · exact .inr ⟨(0, db), rfl, rfl⟩
  · exact validateBatch_bind perm _

/-- Two outputs that pay one invoice are applied, in whichever order they are listed. -/
theorem listed_either_way :
    (observeOnce Sample.environment .empty (reached Sample.environment [Sample.invoice])
      [⟨"a", none⟩] [Sample.output 0 4 1, Sample.output 1 10 0] 0 50).toOption.map (·.1) = some 2 ∧
    SameOutcome (reached Sample.environment [Sample.invoice])
      (observeOnce Sample.environment .empty (reached Sample.environment [Sample.invoice])
        [⟨"a", none⟩] [Sample.output 0 4 1, Sample.output 1 10 0] 0 50)
      (observeOnce Sample.environment .empty (reached Sample.environment [Sample.invoice])
        [⟨"a", none⟩] [Sample.output 1 10 0, Sample.output 0 4 1] 0 50)
      ((server Sample.environment).commit (reached Sample.environment [Sample.invoice])
        (.observeOnce (fenceObservationTargets Sample.environment.crypto .empty [⟨"a", none⟩] 0)
          [Sample.output 0 4 1, Sample.output 1 10 0] 50))
      ((server Sample.environment).commit (reached Sample.environment [Sample.invoice])
        (.observeOnce (fenceObservationTargets Sample.environment.crypto .empty [⟨"a", none⟩] 0)
          [Sample.output 1 10 0, Sample.output 0 4 1] 50)) :=
  ⟨by decide +kernel, (provider_order_is_irrelevant _ _ _ _ _ _ _ _ (.swap _ _ _)).1⟩

end PaykitServer.Settlement
