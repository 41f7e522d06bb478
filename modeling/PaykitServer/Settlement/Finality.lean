import PaykitServer.Settlement.Reports

/-!
# Final and confirmed outputs

Once the bound output of a v1 invoice is final, nothing the server does changes
the binding or the columns projected from it. Before that, a paying output with
one to five confirmations can only be displaced after it was stored as absent or
as unconfirmed: the report that weakens it is applied before the one that
displaces it, also when both come in one batch.
-/

namespace PaykitServer.Settlement

open Domain Bitcoin Persistence Workers
open Relational

structure Quotes (a : Account) (destination : PaymentDestination) : Prop where
  v1 : a.provider = none
  quoted : a.destination = some destination

section Steps

variable {env : Environment} {a a' : Account} {action : Action}
variable {destination : PaymentDestination}

theorem Evolves.quotes (evolves : Evolves env a action a') (quotes : Quotes a destination) :
    Quotes a' destination := by
  obtain ⟨row, opened, bitcoin⟩ := Option.bind_eq_some_iff.mp quotes.quoted
  obtain ⟨provider, row', opened', terms⟩ := evolves.terms opened
  refine ⟨provider.trans quotes.v1, ?_⟩
  rw [Account.destination, opened', Option.bind_some, terms.payment]
  exact bitcoin

/-- A step keeps the binding of a v1 account, or follows a report for its address
that repeats the amount of the bound output. -/
theorem Evolves.binding (evolves : Evolves env a action a') (coherent : Coherent env.crypto a)
    (quotes : Quotes a destination) :
    a'.binding = a.binding ∨ ∃ input, a'.binding = follow destination.requiredAmount a.binding
        input ∧ ∀ binding ∈ a.binding, binding.outpoint = input.outpoint →
          binding.sats = input.observedSats := by
  cases evolves.change with
  | same => exact .inl rfl
  | opened closed =>
    rw [closed] at quotes
    cases quotes.quoted
  | received stores unchanged =>
    refine .inr ⟨_, ?_, coherent.repeats unchanged⟩
    obtain rfl := Option.some.inj (quotes.quoted.symm.trans stores.quoted)
    rw [Account.receive_of_quoted stores.quoted stores.own, Account.binding_observe quotes.v1]
  | unmatched | overdue | applied | cleared => exact .inl rfl

theorem Evolves.final (evolves : Evolves env a action a') (coherent : Coherent env.crypto a)
    (quotes : Quotes a destination) {binding : DirectBinding} (bound : a.binding = some binding)
    (final : binding.isFinal destination.requiredAmount = true) : a'.binding = some binding := by
  rcases evolves.binding coherent quotes with same | ⟨input, follows, -⟩
  · exact same.trans bound
  · rw [follows, bound, follow_of_skip (disposition_of_final final)]

theorem Evolves.secured (evolves : Evolves env a action a') (coherent : Coherent env.crypto a)
    (quotes : Quotes a destination) {binding : DirectBinding} (bound : a.binding = some binding)
    (secured : binding.secured destination.requiredAmount = true) :
    ∃ binding', a'.binding = some binding' ∧ binding'.outpoint = binding.outpoint ∧
      (binding'.secured destination.requiredAmount = true ∨ binding'.present = false ∨
        binding'.confirmations = 0) := by
  rcases evolves.binding coherent quotes with same | ⟨input, follows, amount⟩
  · exact ⟨binding, same.trans bound, rfl, .inl secured⟩
  rw [bound] at follows
  by_cases own : binding.outpoint = input.outpoint
  · cases final : binding.isFinal destination.requiredAmount with
    | true =>
      rw [follow_of_skip (disposition_of_final final)] at follows
      exact ⟨binding, follows, rfl, .inl secured⟩
    | false =>
      rw [follow_of_write (disposition_of_same final own)] at follows
      refine ⟨input.binding, follows, own.symm, ?_⟩
      have paid := DirectBinding.pays_of_secured secured
      simp only [DirectBinding.pays, Bool.and_eq_true, decide_eq_true_eq,
        amount binding bound own] at paid
      cases present : input.present with
      | false => exact .inr (.inl present)
      | true =>
        by_cases unconfirmed : input.confirmations = 0
        · exact .inr (.inr unconfirmed)
        · refine .inl ?_
          simp only [DirectBinding.secured, DirectBinding.pays,
            BitcoinObservationInput.binding, present, Bool.true_and, Bool.and_eq_true,
            decide_eq_true_eq]
          exact ⟨paid.2, by omega⟩
  · rw [follow_of_skip (disposition_of_secured secured own)] at follows
    exact ⟨binding, follows, rfl, .inl secured⟩

end Steps

theorem observedBitcoin_of_final {required : Nat} {binding : DirectBinding} {timely : Bool}
    (final : binding.isFinal required = true) :
    observedBitcoin required binding timely = ⟨true, true, timely, 6, false, none⟩ := by
  simp only [DirectBinding.isFinal, Bool.and_eq_true, decide_eq_true_eq] at final
  simp [observedBitcoin, final]

theorem Coherent.projected_of_final {crypto : Crypto} {a : Account} (coherent : Coherent crypto a)
    {destination : PaymentDestination} (quotes : Quotes a destination) {binding : DirectBinding}
    (bound : a.binding = some binding) (final : binding.isFinal destination.requiredAmount = true) :
    ∃ row, a.invoice = some row ∧ row.paymentStatus = .confirmed ∧ row.confirmationCount = 6 ∧
      row.amountMatched = true := by
  obtain ⟨row, opened, -⟩ := Option.bind_eq_some_iff.mp quotes.quoted
  obtain ⟨held, active, rfl⟩ := Option.map_eq_some_iff.mp bound
  obtain ⟨status, count, matched⟩ := coherent.projected row opened
  refine ⟨row, opened, ?_⟩
  rw [status, count, matched]
  unfold Account.bitcoin
  rw [quotes.quoted, active]
  simp only [observedBitcoin_of_final final]
  exact ⟨rfl, trivial, trivial⟩

section Runs

variable {env : Environment} {db : Database} {i : Uuid} {destination : PaymentDestination}
variable {binding : DirectBinding}

theorem final_run (coherent : AllCoherent env.crypto db)
    (quotes : Quotes (account db i) destination) (bound : (account db i).binding = some binding)
    (final : binding.isFinal destination.requiredAmount = true) (more : List Request) :
    AllCoherent env.crypto ((server env).run db more) ∧
      Quotes (account ((server env).run db more) i) destination ∧
      (account ((server env).run db more) i).binding = some binding := by
  refine System.run_invariant (P := fun db => AllCoherent env.crypto db ∧
    Quotes (account db i) destination ∧ (account db i).binding = some binding) ?_
    ⟨coherent, quotes, bound⟩
  rintro db action db' ⟨coherent, quotes, bound⟩ done
  have evolves : Evolves env (account db i) action (account db' i) := coherent.evolves done i
  exact ⟨coherent.perform done, evolves.quotes quotes,
    evolves.final (coherent i) quotes bound final⟩

theorem secured_history (coherent : AllCoherent env.crypto db)
    (quotes : Quotes (account db i) destination) (bound : (account db i).binding = some binding)
    (secured : binding.secured destination.requiredAmount = true) {more : List Request}
    {earlier later : List (Transition Database Action)} {transition : Transition Database Action}
    (split : (server env).history db more = earlier ++ transition :: later)
    (displaced : ∀ binding' ∈ (account transition.after i).binding,
      binding'.outpoint ≠ binding.outpoint) :
    ∃ t ∈ earlier, ∃ binding', (account t.after i).binding = some binding' ∧
      binding'.outpoint = binding.outpoint ∧
      (binding'.present = false ∨ binding'.confirmations = 0) := by
  obtain ⟨t, member, ⟨held, bound', output, secured'⟩, left⟩ := System.leaves_before
    (fun db => ∃ held, (account db i).binding = some held ∧
      held.outpoint = binding.outpoint ∧ held.secured destination.requiredAmount = true)
    ⟨binding, bound, rfl, secured⟩ split
    fun ⟨held, bound', output, _⟩ => displaced held bound' output
  have inHistory : t ∈ (server env).history db more := by
    rw [split]
    exact (List.prefix_append_right_inj earlier).mpr ⟨later, rfl⟩ |>.subset member
  obtain ⟨⟨coherent', quotes'⟩, done⟩ := System.history_invariant
    (P := fun db => AllCoherent env.crypto db ∧ Quotes (account db i) destination)
    (fun db action db' ⟨coherent, quotes⟩ done =>
      ⟨coherent.perform done, (coherent.evolves done i).quotes quotes⟩)
    ⟨coherent, quotes⟩ inHistory
  obtain ⟨held', bound'', output', state⟩ :=
    (coherent'.evolves done i).secured (coherent' i) quotes' bound' secured'
  have weak := state.resolve_left fun strong =>
    left ⟨held', bound'', output'.trans output, strong⟩
  refine ⟨t, ?_, held', bound'', output'.trans output, weak⟩
  rcases List.mem_append.mp member with inEarlier | last
  · exact inEarlier
  · obtain rfl := List.mem_singleton.mp last
    exact absurd (output'.trans output) (displaced held' bound'')

end Runs

/-- From a reachable state of a v1 invoice, whatever is requested next: a final
output stays bound with its columns, and a paying output with at least one
confirmation is displaced only behind a step that stored it as absent or as
unconfirmed. -/
theorem bound_output_persists (env : Environment) (requests more : List Request) (i : Uuid)
    (row : InvoiceRow) (destination : PaymentDestination) (binding : DirectBinding)
    (opened : (reached env requests).invoice i = some row)
    (v1 : (reached env requests).providerBinding i = none)
    (quoted : row.payment.bitcoin = some destination)
    (bound : ((reached env requests).activeObservation i).map (·.binding) = some binding)
    (present : binding.present = true) (enough : destination.requiredAmount ≤ binding.sats) :
    (6 ≤ binding.confirmations →
      ((reached env (requests ++ more)).activeObservation i).map (·.binding) = some binding ∧
        ∃ row', (reached env (requests ++ more)).invoice i = some row' ∧
          row'.paymentStatus = .confirmed ∧ row'.confirmationCount = 6 ∧
          row'.amountMatched = true) ∧
    (1 ≤ binding.confirmations → ∀ earlier transition later,
      (server env).history (reached env requests) more = earlier ++ transition :: later →
      (∀ stored ∈ transition.after.activeObservation i,
        stored.binding.outpoint ≠ binding.outpoint) →
      ∃ t ∈ earlier, ∃ stored, t.after.activeObservation i = some stored ∧
        stored.binding.outpoint = binding.outpoint ∧
        (stored.binding.present = false ∨ stored.binding.confirmations = 0)) := by
  have coherent := reached_coherent env requests
  have quotes : Quotes (account (reached env requests) i) destination :=
    ⟨v1, (account_destination opened).trans quoted⟩
  rw [← binding_account] at bound
  constructor
  · intro depth
    have final : binding.isFinal destination.requiredAmount = true := by
      simp [DirectBinding.isFinal, present, enough, depth]
    obtain ⟨coherent', quotes', bound'⟩ := final_run coherent quotes bound final more
    have later : reached env (requests ++ more) = (server env).run (reached env requests) more :=
      System.run_append
    rw [later, ← binding_account]
    exact ⟨bound', (coherent' i).projected_of_final quotes' bound' final⟩
  · intro depth earlier transition later split displaced
    have secured : binding.secured destination.requiredAmount = true := by
      simp [DirectBinding.secured, DirectBinding.pays, present, enough, depth]
    have elsewhere : ∀ held ∈ (account transition.after i).binding,
        held.outpoint ≠ binding.outpoint := by
      intro held active
      rw [binding_account] at active
      obtain ⟨stored, hstored, rfl⟩ := Option.map_eq_some_iff.mp active
      exact displaced stored hstored
    obtain ⟨t, member, held, active, output, weak⟩ :=
      secured_history coherent quotes bound secured split elsewhere
    rw [binding_account] at active
    obtain ⟨stored, hstored, rfl⟩ := Option.map_eq_some_iff.mp active
    exact ⟨t, member, stored, hstored, output, weak⟩

def boundInvoice (confirmations : Nat) : List Request :=
  [Sample.invoice, .observeOnce [⟨"a", none⟩] [Sample.output 0 10 confirmations] 5]

/-- The bound output disappears and another one takes over, in one batch. -/
def displacement : List Request :=
  [.observeOnce [⟨"a", some ⟨Sample.outpoint 0, 10⟩⟩] [Sample.absence 0 10, Sample.output 1 10 1] 6]

/-- A displacement leaves a final output bound, and finds a confirmed one stored as
absent before. -/
theorem bound_output_persists_displacement :
    (((reached Sample.environment (boundInvoice 6 ++ displacement)).activeObservation 0).map
      (·.binding) = some ⟨Sample.outpoint 0, 10, 6, true⟩) ∧
    ∃ t ∈ (server Sample.environment).history (reached Sample.environment (boundInvoice 1))
        displacement,
      ∃ stored, t.after.activeObservation 0 = some stored ∧
        stored.binding.outpoint = Sample.outpoint 0 ∧
        (stored.binding.present = false ∨ stored.binding.confirmations = 0) := by
  constructor
  · obtain ⟨row, opened, quoted⟩ := Option.map_eq_some_iff.mp
      (show ((reached Sample.environment (boundInvoice 6)).invoice 0).map (·.payment.bitcoin) =
        some (some ⟨"a", 10⟩) by decide +kernel)
    exact ((bound_output_persists Sample.environment (boundInvoice 6) displacement 0 row ⟨"a", 10⟩
      ⟨Sample.outpoint 0, 10, 6, true⟩ opened (by decide +kernel) quoted (by decide +kernel) rfl
      (by decide)).1 (by decide)).1
  · obtain ⟨row, opened, quoted⟩ := Option.map_eq_some_iff.mp
      (show ((reached Sample.environment (boundInvoice 1)).invoice 0).map (·.payment.bitcoin) =
        some (some ⟨"a", 10⟩) by decide +kernel)
    have outputs : ((server Sample.environment).history
        (reached Sample.environment (boundInvoice 1)) displacement).map
          (fun t => (t.after.activeObservation 0).map (·.binding.outpoint)) =
        [some (Sample.outpoint 0), some (Sample.outpoint 1), some (Sample.outpoint 1),
          some (Sample.outpoint 1)] := by
      decide +kernel
    obtain ⟨first, rest, split, -, outputs⟩ := List.map_eq_cons_iff.mp outputs
    obtain ⟨second, later, rfl, taken, -⟩ := List.map_eq_cons_iff.mp outputs
    obtain ⟨t, member, stored⟩ := (bound_output_persists Sample.environment (boundInvoice 1)
      displacement 0 row ⟨"a", 10⟩ ⟨Sample.outpoint 0, 10, 1, true⟩ opened (by decide +kernel)
      quoted (by decide +kernel) rfl (by decide)).2 (by decide) [first] second later split (by
        intro stored active
        rw [active] at taken
        exact ne_of_eq_of_ne (Option.some.inj taken) (by decide))
    exact ⟨t, by simpa [split] using Or.inl (List.mem_singleton.mp member), stored⟩

end PaykitServer.Settlement
