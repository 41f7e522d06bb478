import Mathlib.Data.List.Sort
import PaykitServer.Persistence.Database

/-!
# Storing Bitcoin observations

The parts of observation that Locks invoices and Marketplace settlements share:
the batch order, the authentication of a stored row, the decision whether an
incoming output updates, replaces or leaves the active one, and the statements
that store it. The two stores differ in the rows they own and in what they
project afterwards.

The evidence columns of a row (identity, owner, outpoint, amount and first
observation) never change once written. `evidence_storeObservation` is that
fact for the write below; everything later proofs say about outpoints and
amounts rests on it.
-/

namespace PaykitServer.Persistence

open Domain Bitcoin Relational

/-- One validated observation, ready to be applied. -/
structure BitcoinObservationInput where
  address : String
  outpoint : BitcoinOutpoint
  observedSats : Nat
  confirmations : Nat
  present : Bool
deriving DecidableEq

namespace BitcoinObservationInput

/-- Address, then absences before present outputs, then the remaining fields. -/
def cmpForBatch (left right : BitcoinObservationInput) : Ordering :=
  (compare left.address right.address).then <|
    (compare left.present right.present).then <|
    (compare left.outpoint.txid right.outpoint.txid).then <|
    (compare left.outpoint.vout right.outpoint.vout).then <|
    (compare left.observedSats right.observedSats).then <|
    compare left.confirmations right.confirmations

def binding (input : BitcoinObservationInput) : DirectBinding :=
  ⟨input.outpoint, input.observedSats, input.confirmations, input.present⟩

/-- A present output that pays at least the required amount. -/
def matched (input : BitcoinObservationInput) (required : Nat) : Bool :=
  input.present && decide (required ≤ input.observedSats)

end BitcoinObservationInput

def sortForBatch (batch : List BitcoinObservationInput) : List BitcoinObservationInput :=
  batch.insertionSort fun left right => left.cmpForBatch right ≠ .gt

def BitcoinObservationRow.binding (row : BitcoinObservationRow) : DirectBinding :=
  ⟨row.observation.outpoint, row.observation.observedSats, row.confirmations.toNat, row.present⟩

/-- The columns of a stored row that the schema forbids to rewrite. -/
structure ObservationEvidence where
  id : Uuid
  invoiceId : Option Uuid
  marketplacePreparationId : Option Uuid
  observation : BitcoinObservationV1
  outpointLookupHash : LookupHash
  firstObservedAt : OffsetDateTime
deriving DecidableEq

def BitcoinObservationRow.evidence (row : BitcoinObservationRow) : ObservationEvidence :=
  ⟨row.id, row.invoiceId, row.marketplacePreparationId, row.observation, row.outpointLookupHash,
    row.firstObservedAt⟩

/-- Open an observation stored for an invoice and check it against its columns. -/
def decryptObservation (crypto : Crypto) (row : BitcoinObservationRow) :
    Except PersistenceError BitcoinObservationV1 := do
  ensure (row.invoiceId.isSome ∧ row.marketplacePreparationId = none) .corruptOrMissing
  ensure (row.observation.version = 1 ∧ row.outpointLookupHash =
    crypto.bitcoinOutpointLookupHash row.observation.outpoint.canonicalText) .corruptOrMissing
  return row.observation

/-- What an observation does to the stored rows. -/
inductive Disposition where
  | skip
  | write (replace : Bool)
deriving DecidableEq, Repr

/-- The action on an existing binding. Provider-v2 invoices follow every present
output; the others bind directly. -/
def actionFor (providerV2 : Bool) (required : Nat) (binding : DirectBinding)
    (input : BitcoinObservationInput) : ObservationAction :=
  if providerV2 then
    if binding.outpoint = input.outpoint ∨ input.present = false then .update else .replace
  else
    binding.actionForValues input.outpoint input.observedSats input.confirmations input.present
      required

/-- The early returns of an observation, in the order of the source. -/
def disposition (providerV2 : Bool) (required : Nat) (active : Option DirectBinding)
    (input : BitcoinObservationInput) : Disposition :=
  -- a final matching output is immutable
  if providerV2 = false ∧ active.any (·.isFinal required) then .skip
  -- a stale absence must not reactivate a historical row
  else if input.present = false ∧ active.any (·.outpoint ≠ input.outpoint) then .skip
  else
    match active.map (actionFor providerV2 required · input) with
    | some .ignore => .skip
    | some .update => .write false
    | some .replace => .write true
    -- an unseen output must not manufacture a binding
    | none => if input.present then .write false else .skip

/-- Store one observation: deactivate the owner's active row when it is replaced,
then insert the row or refresh the one with the same outpoint. -/
def storeObservation (owned : BitcoinObservationRow → Bool) (replace : Bool)
    (new : BitcoinObservationRow) (rows : List BitcoinObservationRow) :
    List BitcoinObservationRow :=
  let rows :=
    if replace then
      updateWhere (fun row => owned row && row.active) (fun row => { row with active := false }) rows
    else rows
  upsert (fun row => row.outpointLookupHash = new.outpointLookupHash) new
    (fun row =>
      { row with confirmations := new.confirmations, present := new.present, active := true })
    rows

section Store

variable {owned : BitcoinObservationRow → Bool} {replace : Bool}
variable {new old : BitcoinObservationRow} {rows : List BitcoinObservationRow}

/-- The rows between the two statements: the owner's active row is released. -/
private def releaseActive (owned : BitcoinObservationRow → Bool) (replace : Bool)
    (rows : List BitcoinObservationRow) : List BitcoinObservationRow :=
  if replace then
    updateWhere (fun row => owned row && row.active) (fun row => { row with active := false }) rows
  else rows

private theorem map_releaseActive {γ : Type} {column : BitcoinObservationRow → γ}
    (keeps : ∀ row : BitcoinObservationRow, column { row with active := false } = column row) :
    (releaseActive owned replace rows).map column = rows.map column := by
  unfold releaseActive
  split
  · exact map_updateWhere fun row _ _ => keeps row
  · rfl

private theorem any_hash_releaseActive {hash : LookupHash} :
    (releaseActive owned replace rows).any (fun row => row.outpointLookupHash = hash) =
      rows.any fun row => row.outpointLookupHash = hash := by
  unfold releaseActive
  split
  · exact any_updateWhere fun _ _ _ => rfl
  · rfl

theorem evidence_storeObservation :
    (storeObservation owned replace new rows).map BitcoinObservationRow.evidence =
      if rows.any (fun row => row.outpointLookupHash = new.outpointLookupHash) then
        rows.map BitcoinObservationRow.evidence
      else rows.map BitcoinObservationRow.evidence ++ [new.evidence] := by
  have released : (releaseActive owned replace rows).map BitcoinObservationRow.evidence =
      rows.map BitcoinObservationRow.evidence := map_releaseActive fun _ => rfl
  change (upsert _ new _ (releaseActive owned replace rows)).map _ = _
  rw [map_upsert, any_hash_releaseActive, released]
  exact fun _ _ _ => rfl

theorem filter_storeObservation {p : BitcoinObservationRow → Bool}
    (stable : ∀ (row : BitcoinObservationRow) c b a,
      p { row with confirmations := c, present := b, active := a } = p row)
    (disjoint : ∀ row ∈ rows, owned row = true → p row = false)
    (conflicts : ∀ row ∈ rows, row.outpointLookupHash = new.outpointLookupHash → p row = false)
    (fresh : p new = false) :
    (storeObservation owned replace new rows).filter p = rows.filter p := by
  have released : (releaseActive owned replace rows).filter p = rows.filter p := by
    unfold releaseActive
    split
    · refine filter_updateWhere (fun row member holds inside => ?_) fun row _ _ outside => ?_
      · have := disjoint row member (by simp_all)
        simp_all
      · rw [stable row row.confirmations row.present false]
        exact outside
    · rfl
  have inRows : ∀ row ∈ releaseActive owned replace rows,
      row.outpointLookupHash = new.outpointLookupHash → p row = false := by
    intro row member same
    unfold releaseActive at member
    split at member
    · rcases mem_updateWhere.mp member with ⟨stored, -⟩ | ⟨stored, hstored, -, rfl⟩
      · exact conflicts row stored same
      · rw [stable stored stored.confirmations stored.present false]
        exact conflicts stored hstored same
    · exact conflicts row member same
  change (upsert _ new _ (releaseActive owned replace rows)).filter p = _
  rw [filter_upsert, released]
  · intro row member same inside
    have := inRows row member (by simpa using same)
    simp_all
  · intro row member _ outside
    rw [stable]
    exact outside
  · exact fresh

theorem lookup_active_storeObservation {owner : BitcoinObservationRow → Option Uuid} {i : Uuid}
    (stable : ∀ (row : BitcoinObservationRow) c b a,
      owner { row with confirmations := c, present := b, active := a } = owner row)
    (disjoint : ∀ row ∈ rows, owned row = true → owner row ≠ some i)
    (conflicts : ∀ row ∈ rows, row.outpointLookupHash = new.outpointLookupHash →
      owner row ≠ some i)
    (fresh : owner new ≠ some i) :
    lookup (fun row => if row.active then owner row else none) i
        (storeObservation owned replace new rows) =
      lookup (fun row => if row.active then owner row else none) i rows := by
  have among : ∀ rows : List BitcoinObservationRow,
      lookup (fun row => if row.active then owner row else none) i rows =
        (rows.filter fun row => owner row = some i).find? (·.active) := by
    intro rows
    rw [lookup, List.find?_filter]
    congr 1
    funext row
    cases active : row.active <;> simp
  rw [among, among, filter_storeObservation]
  · intro row c b a
    rw [stable]
  · exact fun row stored owns => decide_eq_false (disjoint row stored owns)
  · exact fun row stored same => decide_eq_false (conflicts row stored same)
  · exact decide_eq_false fresh

private theorem mem_storeObservation_of_fresh
    (fresh : ∀ row ∈ rows, row.outpointLookupHash ≠ new.outpointLookupHash) :
    new ∈ storeObservation owned replace new rows := by
  have none : (releaseActive owned replace rows).any
      (fun row => row.outpointLookupHash = new.outpointLookupHash) = false := by
    rw [any_hash_releaseActive]
    simpa using fresh
  change new ∈ upsert _ new _ (releaseActive owned replace rows)
  rw [upsert_of_fresh none]
  simp

private theorem mem_storeObservation_of_stored (stored : old ∈ rows)
    (same : old.outpointLookupHash = new.outpointLookupHash) :
    { old with confirmations := new.confirmations, present := new.present, active := true } ∈
      storeObservation owned replace new rows := by
  have released : ∃ a, { old with active := a } ∈ releaseActive owned replace rows := by
    unfold releaseActive
    split
    · cases hc : (owned old && old.active) with
      | true => exact ⟨false, mem_updateWhere.mpr (.inr ⟨old, stored, hc, rfl⟩)⟩
      | false => exact ⟨old.active, mem_updateWhere.mpr (.inl ⟨stored, hc⟩)⟩
    · exact ⟨old.active, stored⟩
  obtain ⟨a, member⟩ := released
  have some : (releaseActive owned replace rows).any
      (fun row => row.outpointLookupHash = new.outpointLookupHash) = true :=
    List.any_eq_true.mpr ⟨_, member, by simpa using same⟩
  change _ ∈ upsert _ new _ (releaseActive owned replace rows)
  rw [upsert_of_conflict some]
  exact mem_updateWhere.mpr (.inr ⟨_, member, by simpa using same, rfl⟩)

/-- When a row with the outpoint agrees with the report, the write leaves the
reported row behind, up to the time of its first observation. -/
theorem mem_storeObservation (active : new.active = true)
    (agrees : ∀ row ∈ rows, row.outpointLookupHash = new.outpointLookupHash →
      row.id = new.id ∧ row.invoiceId = new.invoiceId ∧
        row.marketplacePreparationId = new.marketplacePreparationId ∧
        row.observation = new.observation) :
    ∃ firstObservedAt, { new with firstObservedAt := firstObservedAt } ∈
      storeObservation owned replace new rows := by
  by_cases stored : ∃ row ∈ rows, row.outpointLookupHash = new.outpointLookupHash
  · obtain ⟨row, member, same⟩ := stored
    obtain ⟨id, invoice, preparation, observation⟩ := agrees row member same
    refine ⟨row.firstObservedAt, ?_⟩
    have refreshed : { row with
          confirmations := new.confirmations, present := new.present, active := true } ∈
        storeObservation owned replace new rows := mem_storeObservation_of_stored member same
    rw [id, invoice, preparation, observation, same, ← active] at refreshed
    exact refreshed
  · refine ⟨new.firstObservedAt, mem_storeObservation_of_fresh ?_⟩
    exact fun row member same => stored ⟨row, member, same⟩

theorem of_mem_storeObservation {row : BitcoinObservationRow}
    (member : row ∈ storeObservation owned replace new rows) :
    row = new ∨ ∃ old ∈ rows, row.evidence = old.evidence ∧
      ((row.confirmations = old.confirmations ∧ row.present = old.present) ∨
        (row.confirmations = new.confirmations ∧ row.present = new.present)) := by
  have released : ∀ row ∈ releaseActive owned replace rows, ∃ old ∈ rows,
      row.evidence = old.evidence ∧ row.confirmations = old.confirmations ∧
        row.present = old.present := by
    intro row member
    unfold releaseActive at member
    split at member
    · obtain ⟨stored, -⟩ | ⟨old, stored, -, rfl⟩ := mem_updateWhere.mp member
      · exact ⟨row, stored, rfl, rfl, rfl⟩
      · exact ⟨old, stored, rfl, rfl, rfl⟩
    · exact ⟨row, member, rfl, rfl, rfl⟩
  change row ∈ upsert _ new _ (releaseActive owned replace rows) at member
  unfold upsert at member
  split at member
  · obtain ⟨kept, -⟩ | ⟨mid, stored, -, rfl⟩ := mem_updateWhere.mp member
    · obtain ⟨old, stored, same, state⟩ := released row kept
      exact .inr ⟨old, stored, same, .inl state⟩
    · obtain ⟨old, stored, same, -⟩ := released mid stored
      exact .inr ⟨old, stored, same, .inr ⟨rfl, rfl⟩⟩
  · obtain kept | last := List.mem_append.mp member
    · obtain ⟨old, stored, same, state⟩ := released row kept
      exact .inr ⟨old, stored, same, .inl state⟩
    · exact .inl (List.mem_singleton.mp last)

end Store

end PaykitServer.Persistence
