import PaykitServer.Persistence.Observations

/-!
# The output an address is bound to

Locks invoices and Marketplace settlements decide with the same table whether a
reported output takes over an address. This module studies that decision alone,
as a machine whose state is the current binding and whose inputs are the reports
for one address, in the order in which a batch applies them.

A binding is secured once it pays enough with at least one confirmation. No other
output displaces a secured binding; any other binding gives way to the next
present output, whatever that output pays. `Follows.pays_iff` computes from this
which batches end with a binding that pays enough.
-/

namespace PaykitServer.Bitcoin.DirectBinding

def pays (binding : DirectBinding) (required : Nat) : Bool :=
  binding.present && decide (required ≤ binding.sats)

def secured (binding : DirectBinding) (required : Nat) : Bool :=
  binding.pays required && decide (1 ≤ binding.confirmations)

theorem pays_of_secured {binding : DirectBinding} {required : Nat}
    (secured : binding.secured required = true) : binding.pays required = true :=
  (Bool.and_eq_true_iff.mp secured).1

theorem secured_of_isFinal {binding : DirectBinding} {required : Nat}
    (final : binding.isFinal required = true) : binding.secured required = true := by
  simp only [isFinal, secured, pays, Bool.and_eq_true, decide_eq_true_eq] at final ⊢
  exact ⟨final.1, by omega⟩

end PaykitServer.Bitcoin.DirectBinding

namespace PaykitServer.Settlement

open Bitcoin Persistence

section Decision

variable {required : Nat} {binding : DirectBinding} {input : BitcoinObservationInput}

theorem disposition_of_final (final : binding.isFinal required = true) :
    disposition false required (some binding) input = .skip := by
  simp [disposition, final]

theorem disposition_of_stale (absent : input.present = false)
    (other : binding.outpoint ≠ input.outpoint) :
    disposition false required (some binding) input = .skip := by
  simp [disposition, absent, other]

theorem disposition_of_same (pending : binding.isFinal required = false)
    (same : binding.outpoint = input.outpoint) :
    disposition false required (some binding) input = .write false := by
  simp [disposition, pending, same, actionFor, DirectBinding.actionForValues]

theorem disposition_of_secured (secured : binding.secured required = true)
    (other : binding.outpoint ≠ input.outpoint) :
    disposition false required (some binding) input = .skip := by
  cases final : binding.isFinal required with
  | true => exact disposition_of_final final
  | false =>
    cases present : input.present with
    | false => exact disposition_of_stale present other
    | true =>
      simp only [DirectBinding.secured, DirectBinding.pays, Bool.and_eq_true,
        decide_eq_true_eq] at secured
      have kept : ¬ (binding.sats < required ∨ binding.present = false ∨
          binding.confirmations = 0) := by
        rintro (below | gone | unconfirmed)
        · omega
        · simp [gone] at secured
        · omega
      simp [disposition, final, present, actionFor, DirectBinding.actionForValues, other.symm,
        kept]

theorem disposition_of_unsecured (unsecured : binding.secured required = false)
    (present : input.present = true) :
    ∃ replace, disposition false required (some binding) input = .write replace := by
  have pending : binding.isFinal required = false := by
    cases final : binding.isFinal required with
    | false => rfl
    | true => simp [DirectBinding.secured_of_isFinal final] at unsecured
  by_cases same : binding.outpoint = input.outpoint
  · exact ⟨false, disposition_of_same pending same⟩
  · refine ⟨true, ?_⟩
    have weak : binding.sats < required ∨ binding.present = false ∨
        binding.confirmations = 0 := by
      by_contra strong
      simp only [not_or, Bool.not_eq_false] at strong
      have : binding.secured required = true := by
        simp only [DirectBinding.secured, DirectBinding.pays, Bool.and_eq_true, decide_eq_true_eq]
        exact ⟨⟨strong.2.1, by omega⟩, by omega⟩
      simp [this] at unsecured
    have other : ¬ input.outpoint = binding.outpoint := fun h => same h.symm
    simp [disposition, pending, present, actionFor, DirectBinding.actionForValues, other, weak]

end Decision

/-- The binding after one report. -/
def follow (required : Nat) (active : Option DirectBinding) (input : BitcoinObservationInput) :
    Option DirectBinding :=
  match disposition false required active input with
  | .skip => active
  | .write _ => some input.binding

/-- The binding after a sequence of reports for one address. A report of the bound
output repeats its amount: the store rejects any other. -/
inductive Follows (required : Nat) :
    Option DirectBinding → List BitcoinObservationInput → Option DirectBinding → Prop
  | nil (active : Option DirectBinding) : Follows required active [] active
  | cons {active final : Option DirectBinding} {input : BitcoinObservationInput}
      {rest : List BitcoinObservationInput}
      (amount : ∀ binding ∈ active, binding.outpoint = input.outpoint →
        binding.sats = input.observedSats)
      (later : Follows required (follow required active input) rest final) :
      Follows required active (input :: rest) final

def reportsFor (address : String) (batch : List BitcoinObservationInput) :
    List BitcoinObservationInput :=
  batch.filter (·.address = address)

variable {input : BitcoinObservationInput}

theorem reportsFor_cons_own {address : String}
    (own : input.address = address) (batch : List BitcoinObservationInput) :
    reportsFor address (input :: batch) = input :: reportsFor address batch := by
  simp [reportsFor, own]

theorem reportsFor_cons_other {address : String}
    (other : input.address ≠ address) (batch : List BitcoinObservationInput) :
    reportsFor address (input :: batch) = reportsFor address batch := by
  simp [reportsFor, other]

/-- Whether reports leave an unsecured address with a paying binding: one of them
is secured by its own depth, or the last one pays. -/
def settles (required : Nat) (reports : List BitcoinObservationInput) : Bool :=
  reports.any (·.binding.secured required) || reports.getLast?.any (·.binding.pays required)

/-- Whether a batch that reports a paying output leaves its address with a paying
binding. `own` lists the reports for the address in batch order. -/
def endsPaying (required : Nat) (active : Option DirectBinding)
    (own : List BitcoinObservationInput) : Bool :=
  match active.filter (·.secured required) with
  | none => settles required (own.filter (·.present))
  | some binding =>
    binding.isFinal required ||
      match own.find? fun input => input.outpoint = binding.outpoint with
      | none => true
      | some report =>
        -- the bound output disappeared, or lost its confirmations
        if report.present = false then settles required (own.filter (·.present))
        else decide (1 ≤ report.confirmations) ||
          settles required (own.dropWhile fun input => input.outpoint ≠ binding.outpoint)

section Follows

variable {required : Nat} {active final : Option DirectBinding} {binding : DirectBinding}
variable {input : BitcoinObservationInput} {own : List BitcoinObservationInput}

theorem follow_of_skip (skipped : disposition false required active input = .skip) :
    follow required active input = active := by
  simp only [follow, skipped]

theorem follow_of_write {replace : Bool}
    (written : disposition false required active input = .write replace) :
    follow required active input = some input.binding := by
  simp only [follow, written]

theorem Follows.of_final (follows : Follows required (some binding) own final)
    (isFinal : binding.isFinal required = true) : final = some binding := by
  induction own with
  | nil =>
    cases follows
    rfl
  | cons input own ih =>
    cases follows with
    | cons _ later =>
      rw [follow_of_skip (disposition_of_final isFinal)] at later
      exact ih later

theorem Follows.of_secured (follows : Follows required (some binding) own final)
    (secured : binding.secured required = true)
    (others : ∀ input ∈ own, input.outpoint ≠ binding.outpoint) : final = some binding := by
  induction own with
  | nil =>
    cases follows
    rfl
  | cons input own ih =>
    have other : binding.outpoint ≠ input.outpoint := (others input (.head _)).symm
    cases follows with
    | cons _ later =>
      rw [follow_of_skip (disposition_of_secured secured other)] at later
      exact ih later fun input member => others input (.tail _ member)

theorem Follows.settles (follows : Follows required (some input.binding) own final)
    (present : ∀ report ∈ own, report.present = true)
    (distinct : ((input :: own).map (·.outpoint)).Nodup) :
    final.any (·.pays required) = settles required (input :: own) := by
  induction own generalizing input with
  | nil =>
    cases follows
    cases pays : input.binding.pays required with
    | true => simp [Settlement.settles, pays]
    | false => simp [Settlement.settles, pays, DirectBinding.secured]
  | cons next own ih =>
    obtain ⟨fresh, distinct'⟩ := List.nodup_cons.mp distinct
    cases secured : input.binding.secured required with
    | true =>
      have others : ∀ report ∈ next :: own, report.outpoint ≠ input.binding.outpoint := by
        intro report member same
        exact fresh (List.mem_map.mpr ⟨report, member, same⟩)
      rw [follows.of_secured secured others]
      simp [Settlement.settles, secured, DirectBinding.pays_of_secured secured]
    | false =>
      cases follows with
      | cons _ later =>
        obtain ⟨replace, written⟩ :=
          disposition_of_unsecured secured (present next (.head _))
        rw [follow_of_write written] at later
        rw [ih later (fun report member => present report (.tail _ member)) distinct']
        simp [Settlement.settles, secured]

theorem Follows.settles_of_unsecured (follows : Follows required active (input :: own) final)
    (unsecured : active.filter (·.secured required) = none)
    (present : ∀ report ∈ input :: own, report.present = true)
    (distinct : ((input :: own).map (·.outpoint)).Nodup) :
    final.any (·.pays required) = Settlement.settles required (input :: own) := by
  cases follows with
  | cons _ later =>
    have taken : follow required active input = some input.binding := by
      cases active with
      | none => simp [follow, disposition, present input (.head _)]
      | some binding =>
        have weak : binding.secured required = false := by simpa [Option.filter] using unsecured
        obtain ⟨replace, written⟩ := disposition_of_unsecured weak (present input (.head _))
        exact follow_of_write written
    rw [taken] at later
    exact later.settles (fun report member => present report (.tail _ member)) distinct

theorem endsPaying_of_unsecured (unsecured : active.filter (·.secured required) = none) :
    endsPaying required active own = Settlement.settles required (own.filter (·.present)) := by
  simp only [endsPaying, unsecured]

theorem endsPaying_of_secured (secured : binding.secured required = true) :
    endsPaying required (some binding) own = (binding.isFinal required ||
      match own.find? fun input => input.outpoint = binding.outpoint with
      | none => true
      | some report =>
        if report.present = false then Settlement.settles required (own.filter (·.present))
        else decide (1 ≤ report.confirmations) || Settlement.settles required
          (own.dropWhile fun input => input.outpoint ≠ binding.outpoint)) := by
  have kept : (some binding).filter (·.secured required) = some binding := by
    simp [Option.filter, secured]
  simp only [endsPaying, kept]

theorem endsPaying_cons_other (secured : binding.secured required = true)
    (other : input.outpoint ≠ binding.outpoint)
    (ordered : input.present = true → ∀ report ∈ own, report.present = true) :
    endsPaying required (some binding) (input :: own) =
      endsPaying required (some binding) own := by
  rw [endsPaying_of_secured secured, endsPaying_of_secured secured]
  have skipped : (input :: own).find? (fun input => input.outpoint = binding.outpoint) =
      own.find? fun input => input.outpoint = binding.outpoint := by
    simp [other]
  rw [skipped]
  cases found : own.find? fun input => input.outpoint = binding.outpoint with
  | none => rfl
  | some report =>
    cases present : input.present with
    | false => simp [present, other]
    | true =>
      have reported := ordered present report (List.mem_of_find?_eq_some found)
      simp [reported, other]

theorem follow_absent (unsecured : active.filter (·.secured required) = none)
    (absent : input.present = false) :
    (follow required active input).filter (·.secured required) = none ∧
      (active.any (·.pays required) = false →
        (follow required active input).any (·.pays required) = false) := by
  unfold follow
  split
  · exact ⟨unsecured, id⟩
  · have gone : input.binding.pays required = false := by
      simp [DirectBinding.pays, BitcoinObservationInput.binding, absent]
    exact ⟨by simp [Option.filter, DirectBinding.secured, gone], fun _ => gone⟩

theorem Follows.pays_of_unsecured (follows : Follows required active own final)
    (unsecured : active.filter (·.secured required) = none)
    (distinct : (own.map (·.outpoint)).Nodup)
    (absencesFirst : own.Pairwise fun a b => a.present = true → b.present = true)
    (reported : own.filter (·.present) ≠ [] ∨ active.any (·.pays required) = false) :
    final.any (·.pays required) = Settlement.settles required (own.filter (·.present)) := by
  induction own generalizing active with
  | nil =>
    cases follows
    exact reported.resolve_left (by simp)
  | cons input own ih =>
    obtain ⟨ordered, later⟩ := List.pairwise_cons.mp absencesFirst
    cases present : input.present with
    | true =>
      have all : ∀ report ∈ input :: own, report.present = true :=
        List.forall_mem_cons.mpr ⟨present, fun report member => ordered report member present⟩
      rw [List.filter_eq_self.mpr all]
      exact follows.settles_of_unsecured unsecured all distinct
    | false =>
      have dropped : (input :: own).filter (·.present) = own.filter (·.present) := by
        simp [present]
      rw [dropped] at reported ⊢
      obtain ⟨unsecured', unpaid⟩ := follow_absent unsecured present
      cases follows with
      | cons _ rest =>
        exact ih rest unsecured' (List.nodup_cons.mp distinct).2 later
          (reported.imp_right unpaid)

theorem Follows.pays_of_secured (follows : Follows required (some binding) own final)
    (secured : binding.secured required = true) (distinct : (own.map (·.outpoint)).Nodup)
    (absencesFirst : own.Pairwise fun a b => a.present = true → b.present = true) :
    final.any (·.pays required) = endsPaying required (some binding) own := by
  cases isFinal : binding.isFinal required with
  | true =>
    rw [follows.of_final isFinal, endsPaying_of_secured secured]
    simp [isFinal, DirectBinding.pays_of_secured secured]
  | false =>
    induction own with
    | nil =>
      cases follows
      rw [endsPaying_of_secured secured]
      simp [DirectBinding.pays_of_secured secured]
    | cons input own ih =>
      obtain ⟨ordered, later⟩ := List.pairwise_cons.mp absencesFirst
      have distinct' := (List.nodup_cons.mp distinct).2
      cases follows with
      | cons amount rest =>
        by_cases same : input.outpoint = binding.outpoint
        · rw [follow_of_write (disposition_of_same isFinal same.symm)] at rest
          rw [endsPaying_of_secured secured]
          cases present : input.present with
          | false =>
            have unpaid : input.binding.pays required = false := by
              simp [DirectBinding.pays, BitcoinObservationInput.binding, present]
            have unsecured : (some input.binding).filter (·.secured required) = none := by
              simp [Option.filter, DirectBinding.secured, unpaid]
            rw [rest.pays_of_unsecured unsecured distinct' later (.inr unpaid)]
            simp [isFinal, same, present]
          | true =>
            rw [rest.settles (fun report member => ordered report member present) distinct]
            by_cases confirmed : 1 ≤ input.confirmations
            · have paid := DirectBinding.pays_of_secured secured
              simp only [DirectBinding.pays, Bool.and_eq_true, decide_eq_true_eq,
                amount binding rfl same.symm] at paid
              have deep : input.binding.secured required = true := by
                simp [DirectBinding.secured, DirectBinding.pays,
                  BitcoinObservationInput.binding, present, paid.2, confirmed]
              simp [isFinal, same, present, confirmed, Settlement.settles, deep]
            · simp [isFinal, same, present, confirmed]
        · have other : binding.outpoint ≠ input.outpoint := fun h => same h.symm
          rw [follow_of_skip (disposition_of_secured secured other)] at rest
          rw [ih rest distinct' later, endsPaying_cons_other secured same]
          exact fun present report member => ordered report member present

/-- A batch that reports a present output leaves a paying binding exactly under
`endsPaying`. -/
theorem Follows.pays_eq (follows : Follows required active own final)
    (distinct : (own.map (·.outpoint)).Nodup)
    (absencesFirst : own.Pairwise fun a b => a.present = true → b.present = true)
    (reported : own.filter (·.present) ≠ []) :
    final.any (·.pays required) = endsPaying required active own := by
  cases kept : active.filter (·.secured required) with
  | none =>
    rw [endsPaying_of_unsecured kept]
    exact follows.pays_of_unsecured kept distinct absencesFirst (.inl reported)
  | some binding =>
    obtain ⟨rfl, secured⟩ := Option.filter_eq_some_iff.mp kept
    exact follows.pays_of_secured secured distinct absencesFirst

end Follows

end PaykitServer.Settlement
