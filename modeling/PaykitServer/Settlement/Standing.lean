import PaykitServer.Settlement.Reports

/-!
# Settled accounts

An invoice is settled once it was paid in time, has first-threshold evidence or has
expired. Evidence and a first match within the deadline are never lost. Expiry is lost
when a projection finds an eligible payment; for an invoice that is not provider-v2 such
a payment is a first match within the deadline, as long as reports are stored by a clock
that does not go back. A provider-v2 invoice records no first match, so there nothing
stands in for the lost expiry.
-/

namespace PaykitServer.Settlement

open Domain Bitcoin Persistence Workers
open Relational

def Account.PaidInTime (a : Account) : Prop :=
  ∃ row ∈ a.invoice, ∃ first ∈ row.firstAmountMatchedObservedAt, first ≤ row.paymentDeadline

def Account.Expired (a : Account) : Prop :=
  ∃ row ∈ a.invoice, row.paymentExpiredAt.isSome = true

def Account.Settled (a : Account) : Prop :=
  a.Expired ∨ a.PaidInTime ∨ a.evidence.isSome = true

/-- What holds of an account whose reports were stored by a clock that has reached the
given time: a late first match lies in the past, and an output that was on time comes
with a first match that was. -/
structure Account.InTime (clock : OffsetDateTime) (a : Account) : Prop where
  due : ∀ row ∈ a.invoice, row.invoiceCreatedAt ≤ row.paymentDeadline
  observed : ∀ row ∈ a.invoice, ∀ first ∈ row.firstAmountMatchedObservedAt,
    first ≤ row.paymentDeadline ∨ first ≤ clock
  timely : a.provider = none → a.timely.Nonempty → a.PaidInTime

def Account.ExpiresLate (clock : OffsetDateTime) (a : Account) : Prop :=
  a.provider ≠ none → ∀ row ∈ a.invoice, row.paymentExpiredAt.isSome = true →
    row.paymentDeadline < clock

theorem Account.InTime.mono {a : Account} {clock clock' : OffsetDateTime}
    (inTime : a.InTime clock) (order : clock ≤ clock') : a.InTime clock' :=
  ⟨inTime.due, fun row opened first member =>
    (inTime.observed row opened first member).imp_right fun past => past.trans order,
    inTime.timely⟩

section Project

variable {a : Account} {now clock : OffsetDateTime}

variable {first : OffsetDateTime}

theorem mem_least {x y : Option OffsetDateTime}
    (member : first ∈ least x y) : first ∈ x ∨ first ∈ y := by
  cases x with
  | none => exact .inr member
  | some x =>
    cases y with
    | none => exact .inl member
    | some y =>
      obtain rfl := Option.some.inj member
      exact (min_choice x y).imp (congrArg some ·.symm) (congrArg some ·.symm)

theorem least_le {x y : Option OffsetDateTime}
    (member : first ∈ x ∨ first ∈ y) : ∃ lowest ∈ least x y, lowest ≤ first := by
  cases x with
  | none =>
    rcases member with none | member
    · cases none
    · exact ⟨first, member, le_rfl⟩
  | some x =>
    cases y with
    | none =>
      rcases member with member | none
      · exact ⟨first, member, le_rfl⟩
      · cases none
    | some y =>
      refine ⟨min x y, rfl, ?_⟩
      rcases member with same | same
      · exact Option.some.inj same ▸ min_le_left x y
      · exact Option.some.inj same ▸ min_le_right x y

theorem Account.received_le {payment : ObservedPayment} {row : InvoiceRow}
    {received : OffsetDateTime} (opened : a.invoice = some row)
    (due : row.invoiceCreatedAt ≤ row.paymentDeadline) (selected : a.usdt = some payment)
    (eligible : payment.eligible = true) (at_ : payment.receivedAt = some received) :
    received ≤ row.paymentDeadline := by
  unfold Account.usdt at selected
  rw [opened, Option.bind_some] at selected
  obtain ⟨destination, -, selected⟩ := Option.bind_eq_some_iff.mp selected
  obtain ⟨candidate, best, rfl⟩ := Option.map_eq_some_iff.mp selected
  obtain ⟨receipt, -, rfl⟩ := List.mem_map.mp (List.argmax_mem best)
  simp only [receiptPayment, ObservedPayment.eligible, Bool.and_eq_true, decide_eq_true_eq]
    at eligible at_
  obtain rfl := Option.some.inj at_
  exact max_le eligible.2.2 due

theorem Account.first_project {row : InvoiceRow}
    (opened : a.invoice = some row) (due : row.invoiceCreatedAt ≤ row.paymentDeadline)
    (member : first ∈ (row.project a.bitcoin a.usdt now).firstAmountMatchedObservedAt) :
    first ∈ row.firstAmountMatchedObservedAt ∨ first ≤ row.paymentDeadline := by
  refine (mem_least member).imp_right fun received => ?_
  obtain ⟨payment, selected, at_⟩ := Option.bind_eq_some_iff.mp received
  obtain ⟨selected, eligible⟩ := Option.filter_eq_some_iff.mp selected
  exact Account.received_le opened due selected eligible at_

theorem Account.PaidInTime.project (paid : a.PaidInTime) : (a.project now).PaidInTime := by
  obtain ⟨row, opened, first, member, early⟩ := paid
  obtain ⟨lowest, kept, le⟩ := least_le (.inl member)
  exact ⟨_, congrArg (Option.map _) opened, lowest, kept, le.trans early⟩

theorem Account.InTime.paid_of_eligible (inTime : a.InTime clock) (v1 : a.provider = none)
    (opened : a.invoice ≠ none) (eligible : a.eligible = true) : (a.project now).PaidInTime := by
  rcases Bool.or_eq_true_iff.mp eligible with bitcoin | usdt
  · exact (inTime.timely v1 (Account.timely_of_bitcoin bitcoin)).project
  · obtain ⟨row, opened⟩ := Option.ne_none_iff_exists'.mp opened
    obtain ⟨payment, selected, eligible⟩ := (Option.any_eq_true _ _).mp usdt
    obtain ⟨received, at_⟩ := Option.isSome_iff_exists.mp (Account.usdt_receivedAt selected)
    have early := Account.received_le opened (inTime.due row opened) selected eligible at_
    have offered : received ∈ (a.usdt.filter (·.eligible)).bind (·.receivedAt) := by
      rw [selected, Option.filter_some_pos eligible]
      exact at_
    obtain ⟨lowest, kept, le⟩ := least_le (x := row.firstAmountMatchedObservedAt) (.inr offered)
    exact ⟨_, congrArg (Option.map _) opened, lowest, kept, le.trans early⟩

theorem Account.InTime.project (inTime : a.InTime clock) : (a.project now).InTime clock where
  due row member := by
    obtain ⟨old, opened, rfl⟩ := Option.map_eq_some_iff.mp member
    exact inTime.due old opened
  observed row member first found := by
    obtain ⟨old, opened, rfl⟩ := Option.map_eq_some_iff.mp member
    rcases Account.first_project opened (inTime.due old opened) found with kept | early
    · exact inTime.observed old opened first kept
    · exact .inl early
  timely v1 nonempty := (inTime.timely v1 nonempty).project

theorem Account.Settled.project (settled : a.Settled) (inTime : a.InTime clock)
    (v1 : a.provider = none) : (a.project now).Settled := by
  rcases settled with ⟨row, opened, expired⟩ | paid | evidence
  · cases eligible : a.eligible with
    | true =>
      refine .inr (.inl (inTime.paid_of_eligible v1 (fun closed => ?_) eligible))
      rw [closed] at opened
      cases opened
    | false =>
      refine .inl ⟨_, congrArg (Option.map _) opened, ?_⟩
      have unpaid : anyEligible a.bitcoin a.usdt = false := eligible
      simp only [InvoiceRow.project, unpaid, Bool.false_eq_true, if_false]
      split
      · exact Option.isSome_or.trans (by rw [expired]; rfl)
      · exact expired
  · exact .inr (.inl paid.project)
  · exact .inr (.inr evidence)

end Project

section Hold

variable {a : Account} {clock observedAt : OffsetDateTime} {required : Nat}
variable {input : BitcoinObservationInput} {key : LookupHash}

theorem Account.row_hold (a : Account) (required : Nat) (input : BitcoinObservationInput)
    (key : LookupHash) (observedAt : OffsetDateTime) :
    (a.hold required input key observedAt).invoice = a.invoice ∨
      input.matched required = true ∧ (a.hold required input key observedAt).invoice =
        a.invoice.map (·.recordFirstMatch observedAt key) := by
  simp only [Account.hold]
  split
  · rename_i matched
    exact .inr ⟨matched.1, rfl⟩
  · exact .inl rfl

theorem Account.Expired.hold (expired : a.Expired) :
    (a.hold required input key observedAt).Expired := by
  obtain ⟨row, opened, expired⟩ := expired
  rcases a.row_hold required input key observedAt with same | ⟨-, recorded⟩
  · exact ⟨row, same.trans opened, expired⟩
  · exact ⟨_, recorded.trans (congrArg (Option.map _) opened), expired⟩

theorem Account.PaidInTime.hold (paid : a.PaidInTime) :
    (a.hold required input key observedAt).PaidInTime := by
  obtain ⟨row, opened, first, member, early⟩ := paid
  rcases a.row_hold required input key observedAt with same | ⟨-, recorded⟩
  · exact ⟨row, same.trans opened, first, member, early⟩
  · refine ⟨_, recorded.trans (congrArg (Option.map _) opened), first, ?_, early⟩
    exact Option.or_eq_some_iff.mpr (.inl member)

theorem Account.InTime.hold (inTime : a.InTime clock) :
    (a.hold required input key clock).InTime clock where
  due row member := by
    obtain ⟨old, opened, terms, -⟩ := Account.hold_invoice member
    rw [terms.createdAt, terms.deadline]
    exact inTime.due old opened
  observed row member first found := by
    rcases a.row_hold required input key clock with same | ⟨-, recorded⟩
    · exact inTime.observed row (same ▸ member) first found
    · rw [recorded] at member
      obtain ⟨old, opened, rfl⟩ := Option.map_eq_some_iff.mp member
      rcases Option.or_eq_some_iff.mp found with kept | ⟨-, now⟩
      · exact inTime.observed old opened first kept
      · exact .inr (Option.some.inj now).ge
  timely v1 nonempty := by
    simp only [Account.hold] at nonempty
    split at nonempty
    · rename_i onTime
      obtain ⟨row, opened, early⟩ := (Option.any_eq_true _ _).mp onTime.2
      have early : clock ≤ row.paymentDeadline := of_decide_eq_true early
      have recorded : (a.hold required input key clock).invoice =
          some (row.recordFirstMatch clock key) := by
        simp only [Account.hold, if_pos (⟨onTime.1, v1⟩ : _ ∧ a.provider = none), opened,
          Option.map_some]
      cases before : row.firstAmountMatchedObservedAt with
      | none =>
        exact ⟨_, recorded, clock, by simp [InvoiceRow.recordFirstMatch, before], early⟩
      | some first =>
        refine ⟨_, recorded, first, by simp [InvoiceRow.recordFirstMatch, before], ?_⟩
        exact (inTime.observed row opened first before).elim id fun past => past.trans early
    · exact (inTime.timely v1 nonempty).hold

theorem Account.sampled_isSome (evidence : a.evidence.isSome = true) :
    (a.sampled required input observedAt).isSome = true := by
  unfold Account.sampled
  split
  · exact evidence
  · split
    · rw [Option.isSome_or, evidence, Bool.true_or]
    · exact evidence

end Hold

section Step

variable {env : Environment} {a a' : Account} {action : Action} {clock : OffsetDateTime}

/-- An action of the observer, whose reports are stored by the given clock. -/
def Action.StoredBy (clock : OffsetDateTime) (action : Action) : Prop :=
  action.isObservation = true ∧ ∀ input observedAt, action = .observe input observedAt →
    observedAt = clock

variable {condition : InvoiceRow → Bool}

theorem Account.PaidInTime.expireIf (paid : a.PaidInTime) :
    (a.expireIf condition clock).PaidInTime := by
  obtain ⟨row, opened, first, member, early⟩ := paid
  refine ⟨_, congrArg (Option.map _) opened, first, ?_⟩
  dsimp only
  split <;> exact ⟨member, early⟩

theorem Account.Expired.expireIf (expired : a.Expired) :
    (a.expireIf condition clock).Expired := by
  obtain ⟨row, opened, expired⟩ := expired
  refine ⟨_, congrArg (Option.map _) opened, ?_⟩
  dsimp only
  split
  · rfl
  · exact expired

theorem Account.InTime.expireIf {now : OffsetDateTime}
    (inTime : a.InTime clock) : (a.expireIf condition now).InTime clock where
  due row member := by
    obtain ⟨old, opened, rfl⟩ := Option.map_eq_some_iff.mp member
    split <;> exact inTime.due old opened
  observed row member := by
    obtain ⟨old, opened, rfl⟩ := Option.map_eq_some_iff.mp member
    split <;> exact inTime.observed old opened
  timely v1 nonempty := (inTime.timely v1 nonempty).expireIf

theorem Evolves.paidInTime (evolves : Evolves env a action a') (paid : a.PaidInTime) :
    a'.PaidInTime := by
  cases evolves.change with
  | same => exact paid
  | opened closed =>
    obtain ⟨_, none, -⟩ := paid
    rw [closed] at none
    cases none
  | received stores =>
    rw [Account.receive_of_stores stores]
    exact paid.hold.project
  | unmatched | overdue => exact paid.expireIf
  | applied _ receipts | cleared _ receipts =>
    exact Account.PaidInTime.project (a := { a with receipts := receipts }) paid

theorem Evolves.evidence_isSome (evolves : Evolves env a action a') (opened : a.invoice ≠ none)
    (evidence : a.evidence.isSome = true) : a'.evidence.isSome = true := by
  obtain ⟨row, opened⟩ := Option.ne_none_iff_exists'.mp opened
  rcases evolves.report opened with ⟨same, -⟩ | ⟨input, observedAt, destination, -, stores, rfl, -⟩
  · rw [same.evidence]
    exact evidence
  · rw [Account.receive_of_stores stores]
    exact Account.sampled_isSome evidence

theorem Evolves.provider_of_observation (evolves : Evolves env a action a')
    (observes : action.isObservation = true) : a'.provider = a.provider := by
  cases evolves.change with
  | opened _ admits => cases admits.symm.trans observes
  | received => exact Account.provider_receive
  | same | unmatched | overdue | applied | cleared => rfl

/-- An expired provider-v2 account stays expired, unless its address is reported. -/
theorem Evolves.expired_of_v2 (evolves : Evolves env a action a')
    (coherent : Coherent env.crypto a) (observes : action.isObservation = true)
    (silent : ∀ input observedAt, action ≠ .observe input observedAt)
    (bound : a.provider ≠ none) (expired : a.Expired) : a'.Expired := by
  cases evolves.change with
  | same => exact expired
  | opened _ admits => cases admits.symm.trans observes
  | received => exact absurd rfl (silent _ _)
  | unmatched | overdue => exact expired.expireIf
  | applied accepts | cleared accepts =>
    obtain ⟨provider, bound⟩ := Option.ne_none_iff_exists'.mp bound
    obtain ⟨row, opened, accepts⟩ := accepts
    rw [(coherent.providerTerms provider bound row opened).1] at accepts
    cases accepts

theorem Evolves.inTime (evolves : Evolves env a action a') (stored : Action.StoredBy clock action)
    (inTime : a.InTime clock) : a'.InTime clock := by
  cases evolves.change with
  | same => exact inTime
  | opened _ admits => cases admits.symm.trans stored.1
  | @received input observedAt destination stores =>
    obtain rfl := stored.2 input observedAt rfl
    rw [Account.receive_of_stores stores]
    have projected : ((a.hold destination.requiredAmount input
        (env.crypto.bitcoinOutpointLookupHash input.outpoint.canonicalText)
        observedAt).project observedAt).InTime observedAt := inTime.hold.project
    exact ⟨projected.due, projected.observed, projected.timely⟩
  | unmatched | overdue => exact inTime.expireIf
  | applied _ receipts | cleared _ receipts =>
    have replaced : { a with receipts := receipts }.InTime clock :=
      ⟨inTime.due, inTime.observed, inTime.timely⟩
    exact replaced.project

theorem Evolves.settled (evolves : Evolves env a action a') (stored : Action.StoredBy clock action)
    (inTime : a.InTime clock) (v1 : a.provider = none) (settled : a.Settled) : a'.Settled := by
  cases evolves.change with
  | same => exact settled
  | opened _ admits => cases admits.symm.trans stored.1
  | @received input observedAt destination stores =>
    obtain rfl := stored.2 input observedAt rfl
    rw [Account.receive_of_stores stores]
    rcases settled with expired | paid | evidence
    · have projected : ((a.hold destination.requiredAmount input
          (env.crypto.bitcoinOutpointLookupHash input.outpoint.canonicalText)
          observedAt).project observedAt).Settled :=
        Account.Settled.project (.inl expired.hold) inTime.hold v1
      rcases projected with expired | paid | evidence
      · exact .inl expired
      · exact .inr (.inl paid)
      · exact .inr (.inr (Account.sampled_isSome evidence))
    · exact .inr (.inl paid.hold.project)
    · exact .inr (.inr (Account.sampled_isSome evidence))
  | unmatched | overdue =>
    rcases settled with expired | paid | evidence
    · exact .inl expired.expireIf
    · exact .inr (.inl paid.expireIf)
    · exact .inr (.inr evidence)
  | applied _ receipts | cleared _ receipts =>
    have replaced : { a with receipts := receipts }.Settled := settled
    exact replaced.project ⟨inTime.due, inTime.observed, inTime.timely⟩ v1

end Step

end PaykitServer.Settlement
