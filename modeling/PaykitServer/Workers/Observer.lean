import PaykitServer.Persistence.Invoices.Observation
import PaykitServer.Persistence.MarketplacePreparations

/-!
# The Bitcoin observation worker

A fetched batch is validated as a whole before any database write: every output
must be on the configured network, paid to a requested address in canonical
form, and reported once, and an absence must name the tracked output of its
target. The batch is then sorted, which puts the absence of an address before
the present outputs of that address and makes the rest independent of the
provider's order.

Address parsing belongs to the Bitcoin library and is a parameter: it returns
the canonical text of the parsed address.
-/

namespace PaykitServer.Workers

open Domain Bitcoin Persistence Relational

inductive ObserverError where
  | unavailable
  | wrongNetwork
  | invalidObservation
  | persistence
deriving DecidableEq, Repr

/-- What the worker is configured with. -/
structure Environment where
  crypto : Crypto
  network : BitcoinNetwork
  parseAddress : BitcoinNetwork → String → Except ObserverError String

/-- Index the requested targets: canonical addresses, each requested once. -/
def targetsByAddress (env : Environment) (targets : List ObservationTarget) :
    Except ObserverError (List ObservationTarget) :=
  targets.foldlM
    (fun indexed target => do
      let address ← env.parseAddress env.network target.address
      ensure (address = target.address ∧ ∀ other ∈ indexed, other.address ≠ target.address)
        .invalidObservation
      return target :: indexed)
    []

def validateOutput (env : Environment) (targets : List ObservationTarget)
    (earlier : List BitcoinObservationInput) (output : ObservedOutput) :
    Except ObserverError BitcoinObservationInput := do
  ensure (output.network = env.network) .wrongNetwork
  ensure (output.confirmations < 2 ^ 31 ∧ (output.present = false → output.confirmations = 0))
    .invalidObservation
  let address ← env.parseAddress env.network output.address
  ensure (address = output.address) .invalidObservation
  let target ← demand .invalidObservation (targets.find? fun target => target.address = output.address)
  ensure (output.present = true ∨ target.current = some ⟨output.outpoint, output.sats⟩)
    .invalidObservation
  ensure (∀ input ∈ earlier, input.outpoint ≠ output.outpoint) .invalidObservation
  return ⟨output.address, output.outpoint, output.sats, output.confirmations, output.present⟩

def validateBatch (env : Environment) (observations : List ObservedOutput)
    (targets : List ObservationTarget) : Except ObserverError (List BitcoinObservationInput) := do
  let targets ← targetsByAddress env targets
  let validated ← observations.foldlM
    (fun validated output => do
      let input ← validateOutput env targets validated output
      return validated ++ [input])
    []
  return sortForBatch validated

/-- A storage failure, as the worker reports it. -/
def mapPersistence {α : Type} : Except PersistenceError α → Except ObserverError α
  | .ok a => .ok a
  | .error _ => .error .persistence

/-- Apply one fetched batch. The targets are fenced at the start of the call, in a read of
its own, and the provider answers for those that are left. -/
def observeOnce (env : Environment) (atStart db : Database) (targets : List ObservationTarget)
    (outputs : List ObservedOutput) (callStartedAt observedAt : OffsetDateTime) :
    Except ObserverError (Nat × Database) :=
  let fenced := fenceObservationTargets env.crypto atStart targets callStartedAt
  if targets ≠ [] ∧ fenced = [] then .ok (0, db)
  else do
    let batch ← validateBatch env outputs fenced
    mapPersistence (applyBitcoinObservationBatch env.crypto db batch observedAt)

def observeMarketplaceOnce (env : Environment) (db : Database) (targets : List ObservationTarget)
    (outputs : List ObservedOutput) (observedAt : OffsetDateTime) :
    Except ObserverError (Nat × Database) := do
  let batch ← validateBatch env outputs targets
  mapPersistence
    (MarketplacePreparations.applyBitcoinObservationBatch env.crypto db batch observedAt)

/-- What validation establishes about the batch it returns: outputs are reported
once, and the absence of an address comes before its present outputs. -/
structure BatchOrder (batch : List BitcoinObservationInput) : Prop where
  outpoints : (batch.map (·.outpoint)).Nodup
  absencesFirst : batch.Pairwise fun a b =>
    a.address = b.address → a.present = true → b.present = true

section Order

private theorem cmpForBatch_eq :
    BitcoinObservationInput.cmpForBatch =
      compareLex (compareOn (·.address)) (compareLex (compareOn (·.present))
        (compareLex (compareOn (·.outpoint.txid)) (compareLex (compareOn (·.outpoint.vout))
          (compareLex (compareOn (·.observedSats)) (compareOn (·.confirmations)))))) := rfl

theorem cmpForBatch_transCmp : Std.TransCmp BitcoinObservationInput.cmpForBatch := by
  rw [cmpForBatch_eq]
  infer_instance

private theorem present_of_cmpForBatch {a b : BitcoinObservationInput}
    (ordered : a.cmpForBatch b ≠ .gt) (same : a.address = b.address)
    (present : a.present = true) : b.present = true := by
  cases absent : b.present with
  | true => rfl
  | false =>
    refine absurd ?_ ordered
    simp only [BitcoinObservationInput.cmpForBatch, same, present, absent,
      Std.ReflCmp.compare_self, Ordering.eq_then]
    rfl

theorem sortForBatch_perm (batch : List BitcoinObservationInput) :
    (sortForBatch batch).Perm batch :=
  List.perm_insertionSort _ batch

theorem sortForBatch_pairwise (batch : List BitcoinObservationInput) :
    (sortForBatch batch).Pairwise fun a b => a.cmpForBatch b ≠ .gt := by
  have transCmp := cmpForBatch_transCmp
  have total : Std.Total fun a b : BitcoinObservationInput => a.cmpForBatch b ≠ .gt := by
    refine ⟨fun a b => ?_⟩
    by_cases gt : a.cmpForBatch b = .gt
    · have swapped : b.cmpForBatch a = (a.cmpForBatch b).swap := Std.OrientedCmp.eq_swap
      exact .inr (by simp [swapped, gt])
    · exact .inl gt
  have trans : IsTrans BitcoinObservationInput fun a b => a.cmpForBatch b ≠ .gt := by
    refine ⟨fun a b c hab hbc => ?_⟩
    have below : (a.cmpForBatch c).isLE := Std.TransCmp.isLE_trans
      (Ordering.isLE_iff_ne_gt.mpr hab) (Ordering.isLE_iff_ne_gt.mpr hbc)
    exact Ordering.isLE_iff_ne_gt.mp below
  exact List.pairwise_insertionSort _ batch

theorem sortForBatch_absencesFirst (batch : List BitcoinObservationInput) :
    (sortForBatch batch).Pairwise fun a b =>
      a.address = b.address → a.present = true → b.present = true :=
  (sortForBatch_pairwise batch).imp present_of_cmpForBatch

end Order

variable {env : Environment} {targets : List ObservationTarget}
  {earlier batch : List BitcoinObservationInput} {outputs : List ObservedOutput}

private theorem validateOutput_fresh {output : ObservedOutput} {input : BitcoinObservationInput}
    (valid : validateOutput env targets earlier output = .ok input) :
    ∀ other ∈ earlier, other.outpoint ≠ input.outpoint := by
  unfold validateOutput at valid
  obtain ⟨_, _, _, _, _, _, valid⟩ := bind₃_eq_ok.mp valid
  obtain ⟨_, _, _, _, _, _, valid⟩ := bind₃_eq_ok.mp valid
  obtain ⟨_, fresh, valid⟩ := bind_eq_ok.mp valid
  cases valid
  exact ensure_eq_ok.mp fresh

private theorem validated_nodup {validated : List BitcoinObservationInput}
    (distinct : (earlier.map (·.outpoint)).Nodup) (valid : outputs.foldlM
      (fun validated output => do
        let input ← validateOutput env targets validated output
        return validated ++ [input]) earlier = .ok validated) :
    (validated.map (·.outpoint)).Nodup := by
  induction outputs generalizing earlier with
  | nil =>
    cases valid
    exact distinct
  | cons output outputs ih =>
    rw [List.foldlM_cons] at valid
    obtain ⟨next, hnext, valid⟩ := bind_eq_ok.mp valid
    obtain ⟨input, hinput, hnext⟩ := bind_eq_ok.mp hnext
    cases hnext
    refine ih ?_ valid
    have fresh := validateOutput_fresh hinput
    simp only [List.map_append, List.map_cons, List.map_nil]
    refine List.Nodup.append distinct (List.nodup_singleton _) ?_
    simp only [List.disjoint_singleton, List.mem_map, not_exists, not_and]
    exact fresh

theorem validateBatch_order
    (valid : validateBatch env outputs targets = .ok batch) : BatchOrder batch := by
  unfold validateBatch at valid
  obtain ⟨indexed, _, validated, hvalidated, valid⟩ := bind₂_eq_ok.mp valid
  cases valid
  refine ⟨?_, sortForBatch_absencesFirst validated⟩
  have distinct := validated_nodup (by simp) hvalidated
  exact ((sortForBatch_perm validated).map _).nodup_iff.mpr distinct

theorem validateBatch_sorted
    (valid : validateBatch env outputs targets = .ok batch) : sortForBatch batch = batch := by
  unfold validateBatch at valid
  obtain ⟨indexed, _, validated, _, valid⟩ := bind₂_eq_ok.mp valid
  cases valid
  exact List.Pairwise.insertionSort_eq (sortForBatch_pairwise validated)

end PaykitServer.Workers
