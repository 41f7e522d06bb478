import PaykitServer.Settlement.Binding
import PaykitServer.Settlement.Simulation

/-!
# What a batch does to an account

A batch is a sequence of reports and then of deadline checks, in one transaction.
An account receives the reports in batch order, and only those for the address it
quotes make it react. The binding of a v1 account follows these reports as the
binding machine does.
-/

namespace PaykitServer.Settlement

open Domain Bitcoin Persistence Workers
open Relational

namespace Account

variable {a : Account} {crypto : Crypto} {required : Nat} {input : BitcoinObservationInput}
variable {key addressKey : LookupHash} {observedAt : OffsetDateTime}

def binding (a : Account) : Option DirectBinding := a.active.map (·.binding)

@[simp] theorem destination_observe :
    (a.observe required input key observedAt).destination = a.destination := by
  unfold observe
  split
  · rfl
  · exact (destination_project observedAt).trans (destination_hold required input key observedAt)

variable {row : InvoiceRow}

theorem invoice_observe (opened : a.invoice = some row) :
    ∃ row', (a.observe required input key observedAt).invoice = some row' ∧
      SameTerms row row' := by
  unfold observe
  split
  · exact ⟨row, opened, SameTerms.refl row⟩
  · have held : (a.hold required input key observedAt).invoice.isSome := by
      rw [hold_invoice_isSome, opened]
      rfl
    obtain ⟨mid, hmid⟩ := Option.isSome_iff_exists.mp held
    obtain ⟨old, hold, terms, -, -⟩ := hold_invoice hmid
    rw [opened] at hold
    cases hold
    refine ⟨_, congrArg (Option.map _) hmid, terms.trans (SameTerms.project mid _ _ observedAt)⟩

@[simp] theorem provider_observe :
    (a.observe required input key observedAt).provider = a.provider := by
  unfold observe
  split <;> rfl

theorem binding_observe (v1 : a.provider = none) :
    (a.observe required input key observedAt).binding = follow required a.binding input := by
  have decision : a.dispositionFor required input = disposition false required a.binding input := by
    simp only [dispositionFor, v1, binding, Option.isSome_none]
  rw [follow, ← decision, observe]
  cases a.dispositionFor required input with
  | skip => rfl
  | write replace => rfl

@[simp] theorem destination_receive :
    (a.receive crypto input observedAt).destination = a.destination := by
  unfold receive
  split
  · split
    · exact destination_observe
    · rfl
  · rfl

@[simp] theorem provider_receive :
    (a.receive crypto input observedAt).provider = a.provider := by
  unfold receive
  split
  · split
    · exact provider_observe
    · rfl
  · rfl

theorem invoice_receive (opened : a.invoice = some row) :
    ∃ row', (a.receive crypto input observedAt).invoice = some row' ∧ SameTerms row row' := by
  unfold receive
  split
  · split
    · exact invoice_observe opened
    · exact ⟨row, opened, SameTerms.refl row⟩
  · exact ⟨row, opened, SameTerms.refl row⟩

theorem invoice_expireIf {condition : InvoiceRow → Bool} (opened : a.invoice = some row) :
    ∃ row', (a.expireIf condition observedAt).invoice = some row' ∧ SameTerms row row' :=
  ⟨_, congrArg (Option.map _) opened, SameTerms.expire row condition observedAt⟩

noncomputable def afterReports (a : Account) (crypto : Crypto)
    (batch : List BitcoinObservationInput) (observedAt : OffsetDateTime) : Account :=
  batch.foldl (fun a input => a.receive crypto input observedAt) a

def afterDeadlines (a : Account) (crypto : Crypto) (batch : List BitcoinObservationInput)
    (observedAt : OffsetDateTime) : Account :=
  batch.foldl (fun a input =>
    a.expireUnmatched (crypto.bitcoinAddressLookupHash input.address) observedAt) a

variable {batch : List BitcoinObservationInput}

theorem afterReports_cons :
    a.afterReports crypto (input :: batch) observedAt =
      (a.receive crypto input observedAt).afterReports crypto batch observedAt := rfl

theorem afterDeadlines_cons :
    a.afterDeadlines crypto (input :: batch) observedAt =
      (a.expireUnmatched (crypto.bitcoinAddressLookupHash input.address)
        observedAt).afterDeadlines crypto batch observedAt := rfl

@[simp] theorem destination_afterReports :
    (a.afterReports crypto batch observedAt).destination = a.destination := by
  induction batch generalizing a with
  | nil => rfl
  | cons input batch ih => rw [afterReports_cons, ih, destination_receive]

theorem afterReports_of_silent (silent : a.destination = none) :
    a.afterReports crypto batch observedAt = a := by
  induction batch with
  | nil => rfl
  | cons input batch ih =>
    have unchanged : a.receive crypto input observedAt = a :=
      receive_of_silent (by simp [silent])
    rw [afterReports_cons, unchanged]
    exact ih

theorem invoice_afterReports (opened : a.invoice = some row) :
    ∃ row', (a.afterReports crypto batch observedAt).invoice = some row' ∧
      SameTerms row row' := by
  induction batch generalizing a row with
  | nil => exact ⟨row, opened, SameTerms.refl row⟩
  | cons input batch ih =>
    obtain ⟨mid, received, terms⟩ : ∃ row', (a.receive crypto input observedAt).invoice =
        some row' ∧ SameTerms row row' := invoice_receive opened
    obtain ⟨row', opened', rest⟩ := ih received
    exact ⟨row', opened', terms.trans rest⟩

@[simp] theorem destination_afterDeadlines :
    (a.afterDeadlines crypto batch observedAt).destination = a.destination := by
  induction batch generalizing a with
  | nil => rfl
  | cons input batch ih =>
    rw [afterDeadlines_cons, ih]
    exact destination_expireIf _ _

@[simp] theorem binding_afterDeadlines :
    (a.afterDeadlines crypto batch observedAt).binding = a.binding := by
  induction batch generalizing a with
  | nil => rfl
  | cons input batch ih =>
    rw [afterDeadlines_cons, ih]
    rfl

end Account

theorem reportsFor_order {batch : List BitcoinObservationInput} (order : BatchOrder batch)
    (address : String) :
    ((reportsFor address batch).map (·.outpoint)).Nodup ∧
      (reportsFor address batch).Pairwise fun a b => a.present = true → b.present = true := by
  constructor
  · exact order.outpoints.sublist (List.filter_sublist.map _)
  · refine (order.absencesFirst.filter _).imp_of_mem ?_
    intro a b ha hb ordered
    have same : a.address = b.address := by
      have first := (List.mem_filter.mp ha).2
      have second := (List.mem_filter.mp hb).2
      simp_all
    exact ordered same

variable {input : BitcoinObservationInput}

theorem Grounded.repeats {crypto : Crypto} {a : Account} (grounded : Grounded crypto a)
    (unchanged : ∀ record ∈
        a.recorded (crypto.bitcoinOutpointLookupHash input.outpoint.canonicalText),
      record = ⟨1, input.outpoint, input.observedSats⟩) :
    ∀ binding ∈ a.binding, binding.outpoint = input.outpoint →
      binding.sats = input.observedSats := by
  intro binding member same
  obtain ⟨held, active, rfl⟩ := Option.map_eq_some_iff.mp member
  have recorded := grounded.activeRecorded held active
  have hash := (grounded.keyed held.key held.record recorded).2
  have text : held.record.outpoint = input.outpoint := same
  rw [text] at hash
  have record := unchanged held.record (hash ▸ recorded)
  exact congrArg (·.observedSats) record

theorem binding_account (db : Database) (i : Uuid) :
    (account db i).binding = (db.activeObservation i).map (·.binding) := by
  simp only [Account.binding, account, Option.map_map]
  rfl

theorem dispositionFor_account {db : Database} {i : Uuid} {required : Nat}
    :
    (account db i).dispositionFor required input = disposition (db.providerBinding i).isSome
      required ((db.activeObservation i).map (·.binding)) input := by
  rw [← binding_account]
  rfl

section Batch

variable {env : Environment} {db db' : Database} {batch : List BitcoinObservationInput}
variable {observedAt : OffsetDateTime} {i : Uuid}

/-- One pass over a batch: what each of its actions does to an account, in batch order. -/
theorem account_each {action : BitcoinObservationInput → Action}
    {react : Account → BitcoinObservationInput → Account}
    (coherent : AllCoherent env.crypto db)
    (done : execute (perform env) db (batch.map action) = .ok db')
    (each : ∀ {db db' : Database} {input : BitcoinObservationInput}, AllCoherent env.crypto db →
      perform env db (action input) = .ok db' → account db' i = react (account db i) input) :
    AllCoherent env.crypto db' ∧ account db' i = batch.foldl react (account db i) := by
  induction batch generalizing db with
  | nil =>
    cases done
    exact ⟨coherent, rfl⟩
  | cons input batch ih =>
    rw [List.map_cons, execute_cons] at done
    obtain ⟨mid, performed, done⟩ := bind_eq_ok.mp done
    obtain ⟨coherent', rest⟩ := ih (coherent.perform performed) done
    exact ⟨coherent', by rw [rest, each coherent performed, List.foldl_cons]⟩

theorem account_reports (coherent : AllCoherent env.crypto db)
    (done : execute (perform env) db (batch.map (.observe · observedAt)) = .ok db') :
    AllCoherent env.crypto db' ∧
      account db' i = (account db i).afterReports env.crypto batch observedAt :=
  account_each coherent done fun coherent performed => (coherent.evolves performed i).2

theorem account_deadlines (coherent : AllCoherent env.crypto db) (done : execute (perform env) db
      (batch.map fun input => .expireUnmatched input.address observedAt) = .ok db') :
    AllCoherent env.crypto db' ∧
      account db' i = (account db i).afterDeadlines env.crypto batch observedAt :=
  account_each coherent done fun coherent performed => coherent.evolves performed i

/-- A committed batch is its reports followed by its deadline checks. -/
theorem batch_stages {applied : Nat}
    (done : applyBitcoinObservationBatch env.crypto db batch observedAt = .ok (applied, db')) :
    ∃ mid, execute (perform env) db (batch.map (.observe · observedAt)) = .ok mid ∧
      execute (perform env) mid
        (batch.map fun input => .expireUnmatched input.address observedAt) = .ok db' := by
  have performed : Prod.snd <$> applyBitcoinObservationBatch env.crypto db batch observedAt =
      execute (perform env) db (batchActions batch observedAt) :=
    applyBitcoinObservationBatch_eq db batch
  rw [done, batchActions, execute_append] at performed
  exact bind_eq_ok.mp performed.symm

theorem follows_reports (coherent : AllCoherent env.crypto db) {destination : PaymentDestination}
    (quoted : (account db i).destination = some destination) (v1 : (account db i).provider = none)
    (done : execute (perform env) db (batch.map (.observe · observedAt)) = .ok db') :
    Follows destination.requiredAmount (account db i).binding
      (reportsFor destination.address batch) (account db' i).binding := by
  induction batch generalizing db with
  | nil =>
    cases done
    exact .nil _
  | cons input batch ih =>
    rw [List.map_cons, execute_cons] at done
    obtain ⟨mid, performed, done⟩ := bind_eq_ok.mp done
    obtain ⟨unchanged, received⟩ := coherent.evolves performed i
    have rest := ih (coherent.perform performed) (by rw [received]; simpa using quoted)
      (by rw [received]; simpa using v1) done
    by_cases own : input.address = destination.address
    · rw [received, Account.receive_of_quoted quoted own.symm, Account.binding_observe v1] at rest
      rw [reportsFor_cons_own own]
      exact .cons ((coherent i).repeats (unchanged destination quoted own.symm)) rest
    · have silent : account mid i = account db i := by
        rw [received]
        refine Account.receive_of_silent ?_
        rintro destination' quoted' same
        rw [quoted] at quoted'
        cases quoted'
        exact own same.symm
      rw [silent] at rest
      rwa [reportsFor_cons_other own]

end Batch

end PaykitServer.Settlement
