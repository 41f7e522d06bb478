import PaykitServer.Settlement.Batch

/-!
# Stored reports

An account reacts to a report by storing it or not at all. What a run leaves in
an account is therefore a function of the reports it stored, and the rule below
carries such facts from the admission of an invoice through a whole run.
-/

namespace PaykitServer.Settlement

open Domain Bitcoin Persistence Workers
open Relational

structure Account.Stores (a : Account) (destination : PaymentDestination)
    (input : BitcoinObservationInput) : Prop where
  quoted : a.destination = some destination
  own : destination.address = input.address
  written : a.dispositionFor destination.requiredAmount input ≠ .skip

/-- What a step can do to an account: nothing, open it, store a report, or rebuild its
invoice row. -/
inductive Account.Change (env : Environment) (a : Account) : Action → Account → Prop
  | same (ignored : ∀ input observedAt, action = .observe input observedAt →
      ∀ destination, ¬ a.Stores destination input) : Change env a action a
  | opened (closed : a = .unopened) (admits : action.isObservation = false) (row provider)
      (fresh : row.paymentExpiredAt = none) : Change env a action (.opened row provider)
  | received {destination} (stores : a.Stores destination input)
      (unchanged : ∀ record ∈ a.recorded
        (env.crypto.bitcoinOutpointLookupHash input.outpoint.canonicalText),
        record = ⟨1, input.outpoint, input.observedSats⟩) :
      Change env a (.observe input observedAt) (a.receive env.crypto input observedAt)
  | unmatched (address) : Change env a (.expireUnmatched address observedAt)
      (a.expireUnmatched (env.crypto.bitcoinAddressLookupHash address) observedAt)
  | overdue : Change env a (.expireOverdue observedAt) (a.expireOverdue observedAt)
  | applied (accepts : ∃ row ∈ a.invoice, row.payment.usdt.isSome) (receipts) :
      Change env a (.applyUsdt i transfer dbNow now) (a.settleReceipts receipts now)
  | cleared (accepts : ∃ row ∈ a.invoice, row.payment.usdt.isSome) (receipts) :
      Change env a (.clearUsdt i transferHash dbNow now) (a.settleReceipts receipts now)

section Steps

variable {env : Environment} {crypto : Crypto} {a a' : Account} {action : Action}
variable {destination : PaymentDestination} {input : BitcoinObservationInput}
variable {observedAt : OffsetDateTime}

theorem Account.Stores.opened (stores : a.Stores destination input) : a.invoice ≠ none := by
  intro closed
  have quoted := stores.quoted
  rw [Account.destination, closed] at quoted
  cases quoted

theorem Account.receive_of_stores (stores : a.Stores destination input) :
    a.receive crypto input observedAt =
      { (a.hold destination.requiredAmount input
          (crypto.bitcoinOutpointLookupHash input.outpoint.canonicalText) observedAt).project
            observedAt with
        evidence := a.sampled destination.requiredAmount input observedAt } := by
  rw [Account.receive_of_quoted stores.quoted stores.own, Account.observe]
  split
  · rename_i skipped
    exact absurd skipped stores.written
  · rfl

theorem Account.receive_of_not_stores (ignores : ∀ destination, ¬ a.Stores destination input) :
    a.receive crypto input observedAt = a := by
  unfold Account.receive
  split
  · rename_i destination quoted
    split
    · rename_i own
      rw [Account.observe]
      split
      · rfl
      · rename_i replace written
        exact absurd ⟨quoted, own, by simp [written]⟩ (ignores destination)
    · rfl
  · rfl

theorem Evolves.change (evolves : Evolves env a action a') : a.Change env action a' := by
  -- an action that is no observation stores no report
  have same : a' = a → (∀ input observedAt, action ≠ .observe input observedAt) →
      a.Change env action a' := by
    rintro rfl other
    exact .same fun input observedAt observes => absurd observes (other input observedAt)
  cases action with
  | createInvoice | createProviderV2 =>
    rcases evolves with kept | ⟨closed, id, rfl⟩
    · exact same kept (by simp)
    · exact .opened closed rfl _ _ rfl
  | observe input observedAt =>
    obtain ⟨unchanged, rfl⟩ := evolves
    by_cases stores : ∃ destination, a.Stores destination input
    · obtain ⟨destination, stores⟩ := stores
      exact .received stores (unchanged destination stores.quoted stores.own)
    · have ignores := not_exists.mp stores
      rw [Account.receive_of_not_stores ignores]
      refine .same ?_
      rintro _ _ ⟨⟩
      exact ignores
  | expireUnmatched address observedAt =>
    obtain rfl := evolves
    exact .unmatched address
  | expireOverdue observedAt =>
    obtain rfl := evolves
    exact .overdue
  | applyUsdt =>
    rcases evolves with kept | ⟨accepts, receipts, rfl⟩
    · exact same kept (by simp)
    · exact .applied accepts receipts
  | clearUsdt =>
    rcases evolves with kept | ⟨accepts, receipts, rfl⟩
    · exact same kept (by simp)
    · exact .cleared accepts receipts
  | prepareSettlement | activateSettlement | observeMarketplace | expireOverdueMarketplace
  | reserveUsdt | applyMarketplaceUsdt | clearMarketplaceUsdt => exact same evolves (by simp)

theorem Evolves.terms (evolves : Evolves env a action a') {row : InvoiceRow}
    (opened : a.invoice = some row) :
    a'.provider = a.provider ∧ ∃ row', a'.invoice = some row' ∧ SameTerms row row' := by
  cases evolves.change with
  | same => exact ⟨rfl, row, opened, SameTerms.refl row⟩
  | opened closed =>
    rw [closed] at opened
    cases opened
  | received => exact ⟨Account.provider_receive, Account.invoice_receive opened⟩
  | unmatched | overdue => exact ⟨rfl, Account.invoice_expireIf opened⟩
  | applied | cleared =>
    exact ⟨rfl, _, congrArg (Option.map _) opened, SameTerms.project row _ _ _⟩

/-- Nothing is stored between two accounts. -/
structure SameObservations (a a' : Account) : Prop where
  active : a'.active = a.active
  recorded : a'.recorded = a.recorded
  timely : a'.timely = a.timely
  evidence : a'.evidence = a.evidence

theorem Evolves.report (evolves : Evolves env a action a') {row : InvoiceRow}
    (opened : a.invoice = some row) :
    (SameObservations a a' ∧ ∀ input observedAt, action = .observe input observedAt →
      ∀ destination, ¬ a.Stores destination input) ∨
    ∃ input observedAt destination, action = .observe input observedAt ∧
      a.Stores destination input ∧ a' = a.receive env.crypto input observedAt ∧
      ∀ record ∈ a.recorded (env.crypto.bitcoinOutpointLookupHash input.outpoint.canonicalText),
        record = ⟨1, input.outpoint, input.observedSats⟩ := by
  cases evolves.change with
  | same ignored => exact .inl ⟨⟨rfl, rfl, rfl, rfl⟩, ignored⟩
  | opened closed =>
    rw [closed] at opened
    cases opened
  | received stores unchanged => exact .inr ⟨_, _, _, rfl, stores, rfl, unchanged⟩
  | unmatched | overdue | applied | cleared => exact .inl ⟨⟨rfl, rfl, rfl, rfl⟩, by simp⟩

theorem Account.recorded_receive (stores : a.Stores destination input) :
    (a.receive crypto input observedAt).recorded = Function.update a.recorded
      (crypto.bitcoinOutpointLookupHash input.outpoint.canonicalText)
      (some ⟨1, input.outpoint, input.observedSats⟩) := by
  rw [Account.receive_of_stores stores]
  rfl

theorem Evolves.recorded (evolves : Evolves env a action a') {row : InvoiceRow}
    (opened : a.invoice = some row) {key : LookupHash} {record : BitcoinObservationV1}
    (recorded : a.recorded key = some record) : a'.recorded key = some record := by
  rcases evolves.report opened with ⟨same, -⟩ | ⟨input, observedAt, _, -, stores, rfl, unchanged⟩
  · rw [same.recorded]
    exact recorded
  · rw [Account.recorded_receive stores]
    by_cases own : key = env.crypto.bitcoinOutpointLookupHash input.outpoint.canonicalText
    · subst own
      rw [Function.update_self, unchanged record recorded]
    · rw [Function.update_of_ne own]
      exact recorded

theorem Evolves.of_unopened (evolves : Evolves env Account.unopened action a') :
    a' = Account.unopened ∨ ∃ row provider, a' = Account.opened row provider := by
  cases evolves.change with
  | same => exact .inl rfl
  | opened => exact .inr ⟨_, _, rfl⟩
  | received stores => exact absurd rfl stores.opened
  | unmatched | overdue => exact .inl rfl
  | applied accepts | cleared accepts =>
    obtain ⟨row, opened, -⟩ := accepts
    cases opened

end Steps

theorem stores_iff {db : Database} {i : Uuid} {row : InvoiceRow}
    {input : BitcoinObservationInput} {destination : PaymentDestination}
    (opened : db.invoice i = some row) :
    (account db i).Stores destination input ↔
      row.payment.bitcoin = some destination ∧ destination.address = input.address ∧
        disposition (db.providerBinding i).isSome destination.requiredAmount
          ((db.activeObservation i).map (·.binding)) input ≠ .skip := by
  rw [← dispositionFor_account]
  constructor
  · rintro ⟨quoted, own, written⟩
    exact ⟨(account_destination opened).symm.trans quoted, own, written⟩
  · rintro ⟨quoted, own, written⟩
    exact ⟨(account_destination opened).trans quoted, own, written⟩

/-- A property of the history and an opened account holds throughout every run when
it holds at admission, before which the account stored nothing, and every step of
the opened account extends it. -/
theorem opened_rule {env : Environment} {requests : List Request} (i : Uuid)
    {Q : List (Transition Database Action) → Account → Prop} (admission : ∀ history row provider,
      (∀ t ∈ history, (account t.before i).invoice = none) →
      Q history (Account.opened row provider))
    (step : ∀ history db action db' row, (account db i).invoice = some row →
      Coherent env.crypto (account db i) →
      Evolves env (account db i) action (account db' i) → Q history (account db i) →
      Q (history ++ [⟨db, action, db'⟩]) (account db' i))
    {row : InvoiceRow} (opened : (reached env requests).invoice i = some row) :
    Q (appliedActions env requests) (account (reached env requests) i) := by
  suffices tracked : ((account (reached env requests) i).invoice = none →
      ∀ t ∈ appliedActions env requests, (account t.before i).invoice = none) ∧
      ((account (reached env requests) i).invoice.isSome →
        Q (appliedActions env requests) (account (reached env requests) i)) from
    tracked.2 (Option.isSome_of_mem opened)
  refine account_rule i (Q := fun history a =>
    (a.invoice = none → ∀ t ∈ history, (account t.before i).invoice = none) ∧
      (a.invoice.isSome → Q history a)) ⟨by simp, by simp [Account.unopened]⟩ ?_
  intro history db action db' coherent evolves holds
  cases current : (account db i).invoice with
  | none =>
    have all : ∀ t ∈ history ++ [⟨db, action, db'⟩], (account t.before i).invoice = none := by
      intro t member
      rcases List.mem_append.mp member with old | new
      · exact holds.1 current t old
      · obtain rfl := List.mem_singleton.mp new
        exact current
    refine ⟨fun _ => all, fun some => ?_⟩
    rw [coherent.unopened current] at evolves
    rcases evolves.of_unopened with unopened | ⟨row, provider, fresh⟩
    · rw [unopened] at some
      cases some
    · rw [fresh]
      exact admission _ row provider all
  | some row =>
    obtain ⟨-, row', opened', -⟩ := evolves.terms current
    refine ⟨fun closed => ?_, fun _ => ?_⟩
    · rw [opened'] at closed
      cases closed
    · exact step history db action db' row current coherent evolves
        (holds.2 (Option.isSome_of_mem current))

section Runs

variable {env : Environment} {requests : List Request} {i : Uuid}
variable {t : Transition Database Action} {input : BitcoinObservationInput}
variable {observedAt : OffsetDateTime} {destination : PaymentDestination}

theorem active_of_stored (member : t ∈ appliedActions env requests)
    (performed : t.action = .observe input observedAt)
    (stores : (account t.before i).Stores destination input) :
    ∃ stored, t.after.activeObservation i = some stored ∧
      stored.observation = ⟨1, input.outpoint, input.observedSats⟩ ∧
      stored.present = input.present := by
  obtain ⟨-, evolves⟩ := applied_evolves member i
  rw [performed] at evolves
  have active : (account t.after i).active = some
      ⟨env.crypto.bitcoinOutpointLookupHash input.outpoint.canonicalText,
        ⟨1, input.outpoint, input.observedSats⟩, input.confirmations, input.present⟩ := by
    rw [evolves.2, Account.receive_of_stores stores]
    rfl
  obtain ⟨stored, found, held⟩ := Option.map_eq_some_iff.mp active
  exact ⟨stored, found, congrArg HeldOutput.record held, congrArg HeldOutput.present held⟩

variable {row : InvoiceRow}

theorem recorded_of_stored (opened : (reached env requests).invoice i = some row)
    (member : t ∈ appliedActions env requests) (performed : t.action = .observe input observedAt)
    (stores : (account t.before i).Stores destination input) :
    (account (reached env requests) i).recorded
        (env.crypto.bitcoinOutpointLookupHash input.outpoint.canonicalText) =
      some ⟨1, input.outpoint, input.observedSats⟩ := by
  suffices tracked : ∀ t ∈ appliedActions env requests, ∀ input observedAt destination,
      t.action = .observe input observedAt → (account t.before i).Stores destination input →
      (account (reached env requests) i).recorded
          (env.crypto.bitcoinOutpointLookupHash input.outpoint.canonicalText) =
        some ⟨1, input.outpoint, input.observedSats⟩ from
    tracked t member input observedAt destination performed stores
  refine opened_rule i (Q := fun history a => ∀ t ∈ history, ∀ input observedAt destination,
    t.action = .observe input observedAt → (account t.before i).Stores destination input →
    a.recorded (env.crypto.bitcoinOutpointLookupHash input.outpoint.canonicalText) =
      some ⟨1, input.outpoint, input.observedSats⟩) ?_ ?_ opened
  · intro history row provider closed t member input observedAt destination _ stores
    exact absurd (closed t member) stores.opened
  · intro history db action db' row opened coherent evolves tracked t member input observedAt
      destination performed stores
    rcases List.mem_append.mp member with old | new
    · exact evolves.recorded opened
        (tracked t old input observedAt destination performed stores)
    · obtain rfl := List.mem_singleton.mp new
      dsimp only at performed stores
      rw [performed] at evolves
      rw [evolves.2, Account.recorded_receive stores, Function.update_self]

theorem terms_of_applied {before : InvoiceRow}
    (opened : (reached env requests).invoice i = some row)
    (member : t ∈ appliedActions env requests) (stored : t.before.invoice i = some before) :
    (reached env requests).providerBinding i = t.before.providerBinding i ∧
      SameTerms before row := by
  suffices tracked : ∀ t ∈ appliedActions env requests, ∀ before,
      (account t.before i).invoice = some before →
      (account (reached env requests) i).provider = (account t.before i).provider ∧
        ∃ row, (account (reached env requests) i).invoice = some row ∧ SameTerms before row by
    obtain ⟨provider, row', opened', terms⟩ := tracked t member before stored
    obtain rfl : row' = row := Option.some.inj (opened'.symm.trans opened)
    exact ⟨provider, terms⟩
  refine opened_rule i (Q := fun history a => ∀ t ∈ history, ∀ before,
    (account t.before i).invoice = some before → a.provider = (account t.before i).provider ∧
      ∃ row, a.invoice = some row ∧ SameTerms before row) ?_ ?_ opened
  · intro history row provider closed t member before stored
    rw [closed t member] at stored
    cases stored
  · intro history db action db' row opened coherent evolves tracked t member before stored
    obtain ⟨provider, row', opened', terms⟩ := evolves.terms opened
    rw [provider]
    rcases List.mem_append.mp member with old | new
    · obtain ⟨same, row'', opened'', earlier⟩ := tracked t old before stored
      obtain rfl : row'' = row := Option.some.inj (opened''.symm.trans opened)
      exact ⟨same, row', opened', earlier.trans terms⟩
    · obtain rfl := List.mem_singleton.mp new
      obtain rfl : row = before := Option.some.inj (opened.symm.trans stored)
      exact ⟨rfl, row', opened', terms⟩

/-- An admitted invoice stays, on its terms, whatever is requested next. -/
theorem reached_terms (opened : (reached env requests).invoice i = some row) (more : List Request) :
    (reached env (requests ++ more)).providerBinding i =
        (reached env requests).providerBinding i ∧
      ∃ row', (reached env (requests ++ more)).invoice i = some row' ∧ SameTerms row row' := by
  have later : reached env (requests ++ more) = (server env).run (reached env requests) more :=
    System.run_append
  rw [later]
  suffices kept : AllCoherent env.crypto ((server env).run (reached env requests) more) ∧
      (account ((server env).run (reached env requests) more) i).provider =
        (account (reached env requests) i).provider ∧
      ∃ row', (account ((server env).run (reached env requests) more) i).invoice = some row' ∧
        SameTerms row row' from kept.2
  refine System.run_invariant (P := fun db => AllCoherent env.crypto db ∧
    (account db i).provider = (account (reached env requests) i).provider ∧
    ∃ row', (account db i).invoice = some row' ∧ SameTerms row row') ?_
    ⟨reached_coherent env requests, rfl, row, opened, SameTerms.refl row⟩
  rintro db action db' ⟨coherent, provider, mid, opened, terms⟩ done
  have evolves : Evolves env (account db i) action (account db' i) := coherent.evolves done i
  obtain ⟨same, row', opened', terms'⟩ := evolves.terms opened
  exact ⟨coherent.perform done, same.trans provider, row', opened', terms.trans terms'⟩

end Runs

end PaykitServer.Settlement
