import PaykitServer.Settlement.Account

/-!
# Coherent accounts

What is true of every account a run can reach. The Bitcoin columns of the
invoice are those of its active output; an invoice that is not provider-v2 is
expired only while no rail is eligible, and has a first match as soon as any
payment was ever eligible; a timely output is a recorded one that pays enough;
every record opens and is kept under the key of its own output; and the active
output is recorded as it is held.

Each operation on accounts keeps these facts, and the modules below use them
through the named fields.
-/

namespace PaykitServer.Settlement

open Domain Bitcoin Persistence

/-- The columns of an invoice that admission fixes for good. -/
structure SameTerms (row row' : InvoiceRow) : Prop where
  id : row'.id = row.id
  payment : row'.payment = row.payment
  createdAt : row'.invoiceCreatedAt = row.invoiceCreatedAt
  deadline : row'.paymentDeadline = row.paymentDeadline
  addressHash : row'.bitcoinAddressLookupHash = row.bitcoinAddressLookupHash

theorem SameTerms.refl (row : InvoiceRow) : SameTerms row row := ⟨rfl, rfl, rfl, rfl, rfl⟩

theorem SameTerms.trans {first second third : InvoiceRow} (before : SameTerms first second)
    (after : SameTerms second third) : SameTerms first third :=
  ⟨after.id.trans before.id, after.payment.trans before.payment,
    after.createdAt.trans before.createdAt, after.deadline.trans before.deadline,
    after.addressHash.trans before.addressHash⟩

theorem SameTerms.project (row : InvoiceRow) (bitcoin : ObservedPayment)
    (usdt : Option ObservedPayment) (now : OffsetDateTime) :
    SameTerms row (row.project bitcoin usdt now) := ⟨rfl, rfl, rfl, rfl, rfl⟩

theorem SameTerms.recordFirstMatch (row : InvoiceRow) (observedAt : OffsetDateTime)
    (key : LookupHash) : SameTerms row (row.recordFirstMatch observedAt key) :=
  ⟨rfl, rfl, rfl, rfl, rfl⟩

theorem SameTerms.expire (row : InvoiceRow) (condition : InvoiceRow → Bool)
    (observedAt : OffsetDateTime) :
    SameTerms row (if condition row then { row with paymentExpiredAt := some observedAt }
      else row) := by
  split <;> exact ⟨rfl, rfl, rfl, rfl, rfl⟩

namespace Account

variable {a : Account} {f : InvoiceRow → InvoiceRow}

section Terms

/-- Rewriting columns outside the terms does not change where payments go. -/
theorem destination_map (keeps : ∀ row, SameTerms row (f row)) :
    { a with invoice := a.invoice.map f }.destination = a.destination := by
  unfold destination
  cases a.invoice with
  | none => rfl
  | some row => simp [(keeps row).payment]

theorem bitcoin_map (keeps : ∀ row, SameTerms row (f row)) :
    { a with invoice := a.invoice.map f }.bitcoin = a.bitcoin := by
  unfold bitcoin
  rw [destination_map keeps]

theorem usdt_map (keeps : ∀ row, SameTerms row (f row)) :
    { a with invoice := a.invoice.map f }.usdt = a.usdt := by
  unfold usdt receiptPayment
  cases a.invoice with
  | none => rfl
  | some row => simp [(keeps row).payment, (keeps row).createdAt, (keeps row).deadline]

theorem eligible_map (keeps : ∀ row, SameTerms row (f row)) :
    { a with invoice := a.invoice.map f }.eligible = a.eligible := by
  unfold eligible
  rw [bitcoin_map keeps, usdt_map keeps]

@[simp] theorem destination_project (now : OffsetDateTime) :
    (a.project now).destination = a.destination :=
  destination_map fun row => SameTerms.project row _ _ now

@[simp] theorem bitcoin_project (now : OffsetDateTime) : (a.project now).bitcoin = a.bitcoin :=
  bitcoin_map fun row => SameTerms.project row _ _ now

@[simp] theorem usdt_project (now : OffsetDateTime) : (a.project now).usdt = a.usdt :=
  usdt_map fun row => SameTerms.project row _ _ now

@[simp] theorem eligible_project (now : OffsetDateTime) : (a.project now).eligible = a.eligible :=
  eligible_map fun row => SameTerms.project row _ _ now

@[simp] theorem eligible_expireIf (condition : InvoiceRow → Bool) (observedAt : OffsetDateTime) :
    (a.expireIf condition observedAt).eligible = a.eligible :=
  eligible_map fun row => SameTerms.expire row condition observedAt

@[simp] theorem bitcoin_expireIf (condition : InvoiceRow → Bool) (observedAt : OffsetDateTime) :
    (a.expireIf condition observedAt).bitcoin = a.bitcoin :=
  bitcoin_map fun row => SameTerms.expire row condition observedAt

@[simp] theorem usdt_expireIf (condition : InvoiceRow → Bool) (observedAt : OffsetDateTime) :
    (a.expireIf condition observedAt).usdt = a.usdt :=
  usdt_map fun row => SameTerms.expire row condition observedAt

@[simp] theorem destination_expireIf (condition : InvoiceRow → Bool)
    (observedAt : OffsetDateTime) : (a.expireIf condition observedAt).destination = a.destination :=
  destination_map fun row => SameTerms.expire row condition observedAt

end Terms

theorem usdt_receivedAt {payment : ObservedPayment} (selected : a.usdt = some payment) :
    payment.receivedAt.isSome := by
  unfold usdt at selected
  obtain ⟨row, -, selected⟩ := Option.bind_eq_some_iff.mp selected
  obtain ⟨destination, -, selected⟩ := Option.bind_eq_some_iff.mp selected
  obtain ⟨candidate, best, rfl⟩ := Option.map_eq_some_iff.mp selected
  obtain ⟨receipt, -, rfl⟩ := List.mem_map.mp (List.argmax_mem best)
  rfl

theorem timely_of_bitcoin (bitcoin : a.bitcoin.eligible = true) : a.timely.Nonempty := by
  unfold Account.bitcoin at bitcoin
  split at bitcoin
  · rename_i destination held _ _
    simp only [ObservedPayment.eligible, observedBitcoin, Bool.and_eq_true,
      decide_eq_true_eq] at bitcoin
    exact ⟨held.key, bitcoin.2⟩
  · cases bitcoin

end Account

/-- What holds of an account whatever its projected columns are: what is recorded,
and which recorded outputs count. -/
structure Grounded (crypto : Crypto) (a : Account) : Prop where
  unopened : a.invoice = none → a = Account.unopened
  addressed : ∀ row ∈ a.invoice, row.payment.version = 1 ∧ row.bitcoinAddressLookupHash =
    row.payment.bitcoin.map fun destination => crypto.bitcoinAddressLookupHash destination.address
  timelyMatched : a.provider = none → ∀ row ∈ a.invoice,
    a.timely.Nonempty → row.firstAmountMatchedObservedAt.isSome
  timelyRecorded : ∀ key ∈ a.timely, ∃ record, a.recorded key = some record ∧
    ∀ destination ∈ a.destination, destination.requiredAmount ≤ record.observedSats
  keyed : ∀ key, ∀ record ∈ a.recorded key, record.version = 1 ∧
    key = crypto.bitcoinOutpointLookupHash record.outpoint.canonicalText
  activeRecorded : ∀ held ∈ a.active, a.recorded held.key = some held.record
  evidenceResolved : ∀ threshold ∈ a.evidence, threshold.outpoint.isSome
  evidenceProvider : a.provider = none → a.evidence = none
  providerTerms : ∀ provider ∈ a.provider, ∀ row ∈ a.invoice,
    row.payment.usdt = none ∧ row.paymentDeadline = provider.deadline

/-- The facts every reachable account has: the columns agree with what is
recorded. -/
structure Coherent (crypto : Crypto) (a : Account) : Prop extends Grounded crypto a where
  projected : ∀ row ∈ a.invoice, row.paymentStatus = bitcoinStatus a.bitcoin ∧
    row.confirmationCount = a.bitcoin.confirmations ∧ row.amountMatched = a.bitcoin.matched
  expired : a.provider = none → ∀ row ∈ a.invoice,
    row.paymentExpiredAt.isSome → a.eligible = false
  usdtMatched : a.provider = none → ∀ row ∈ a.invoice,
    a.usdt.any (·.eligible) → row.firstAmountMatchedObservedAt.isSome

theorem least_isSome {a b : Option OffsetDateTime} :
    (least a b).isSome ↔ a.isSome ∨ b.isSome := by
  cases a <;> cases b <;> simp [least]

section Preservation

variable {crypto : Crypto} {a : Account}

theorem Coherent.unopened_account : Coherent crypto Account.unopened where
  unopened _ := rfl
  addressed _ member := by cases member
  timelyMatched _ _ member := by cases member
  timelyRecorded _ member := by cases member
  keyed _ _ member := by cases member
  activeRecorded _ member := by cases member
  evidenceResolved _ member := by cases member
  evidenceProvider _ := rfl
  providerTerms _ member := by cases member
  projected _ member := by cases member
  expired _ _ member := by cases member
  usdtMatched _ _ member := by cases member

theorem Coherent.opened (new : NewPayment) (id : Uuid) (createdAt deadline : OffsetDateTime)
    (provider : Option ProviderV2Row)
    (terms : ∀ binding ∈ provider, new.usdt = none ∧ deadline = binding.deadline) :
    Coherent crypto (Account.opened (new.invoiceRow crypto id createdAt deadline) provider) where
  unopened closed := by cases closed
  addressed row member := by
    cases member
    exact ⟨rfl, rfl⟩
  timelyMatched _ _ _ nonempty := by
    obtain ⟨key, member⟩ := nonempty
    cases member
  timelyRecorded _ member := by cases member
  keyed _ _ member := by cases member
  activeRecorded _ member := by cases member
  evidenceResolved _ member := by cases member
  evidenceProvider _ := rfl
  providerTerms binding hbinding row member := by
    cases member
    exact terms binding hbinding
  projected row member := by
    cases member
    unfold Account.bitcoin
    split
    · rename_i active
      cases active
    · exact ⟨rfl, rfl, rfl⟩
  expired _ row member expired := by
    cases member
    cases expired
  usdtMatched _ row member usdt := by
    cases member
    unfold Account.usdt Account.opened at usdt
    cases new.usdt <;> simp [NewPayment.invoiceRow, Account.unopened] at usdt

variable {row : InvoiceRow} {required : Nat} {input : BitcoinObservationInput} {key : LookupHash}
  {observedAt : OffsetDateTime} {destination : PaymentDestination}

theorem Coherent.firstMatch_of_eligible (coherent : Coherent crypto a) (v1 : a.provider = none)
    (opened : row ∈ a.invoice) (eligible : a.eligible = true) :
    row.firstAmountMatchedObservedAt.isSome := by
  rcases Bool.or_eq_true_iff.mp eligible with bitcoin | usdt
  · exact coherent.timelyMatched v1 row opened (Account.timely_of_bitcoin bitcoin)
  · exact coherent.usdtMatched v1 row opened usdt

theorem Grounded.map {f : InvoiceRow → InvoiceRow} (grounded : Grounded crypto a)
    (keeps : ∀ row, SameTerms row (f row))
    (remembers : ∀ row, row.firstAmountMatchedObservedAt.isSome →
      (f row).firstAmountMatchedObservedAt.isSome) :
    Grounded crypto { a with invoice := a.invoice.map f } where
  unopened closed := by
    have none := Option.map_eq_none_iff.mp closed
    have same : { a with invoice := a.invoice.map f } = a := by rw [none, Option.map_none, ← none]
    rw [same]
    exact grounded.unopened none
  addressed row member := by
    obtain ⟨old, hold, rfl⟩ := Option.map_eq_some_iff.mp member
    rw [(keeps old).payment, (keeps old).addressHash]
    exact grounded.addressed old hold
  timelyMatched v1 row member nonempty := by
    obtain ⟨old, hold, rfl⟩ := Option.map_eq_some_iff.mp member
    exact remembers old (grounded.timelyMatched v1 old hold nonempty)
  timelyRecorded key member := by
    rw [Account.destination_map keeps]
    exact grounded.timelyRecorded key member
  keyed := grounded.keyed
  activeRecorded := grounded.activeRecorded
  evidenceResolved := grounded.evidenceResolved
  evidenceProvider := grounded.evidenceProvider
  providerTerms provider hprovider row member := by
    obtain ⟨old, hold, rfl⟩ := Option.map_eq_some_iff.mp member
    rw [(keeps old).payment, (keeps old).deadline]
    exact grounded.providerTerms provider hprovider old hold

theorem Grounded.project (grounded : Grounded crypto a) (now : OffsetDateTime) :
    Coherent crypto (a.project now) where
  toGrounded := by
    refine grounded.map (fun row => SameTerms.project row _ _ now) fun row some => ?_
    exact least_isSome.mpr (.inl some)
  projected row member := by
    obtain ⟨old, -, rfl⟩ := Option.map_eq_some_iff.mp member
    rw [Account.bitcoin_project]
    exact ⟨rfl, rfl, rfl⟩
  expired _ row member expired := by
    obtain ⟨old, -, rfl⟩ := Option.map_eq_some_iff.mp member
    rw [Account.eligible_project]
    cases eligible : a.eligible with
    | false => rfl
    | true =>
      have paid : anyEligible a.bitcoin a.usdt = true := eligible
      simp [InvoiceRow.project, paid] at expired
  usdtMatched _ row member usdt := by
    obtain ⟨old, -, rfl⟩ := Option.map_eq_some_iff.mp member
    rw [Account.usdt_project] at usdt
    cases selected : a.usdt with
    | none => simp [selected] at usdt
    | some payment =>
      have eligible : payment.eligible = true := by simpa [selected] using usdt
      have kept : (some payment).filter (·.eligible) = some payment := by
        simp [Option.filter, eligible]
      refine least_isSome.mpr (.inr ?_)
      rw [kept]
      exact Account.usdt_receivedAt selected

theorem Coherent.expireIf (coherent : Coherent crypto a) (condition : InvoiceRow → Bool)
    (observedAt : OffsetDateTime)
    (unpaid : a.provider = none → ∀ row ∈ a.invoice, condition row = true →
      a.eligible = false) : Coherent crypto (a.expireIf condition observedAt) where
  toGrounded := by
    refine coherent.toGrounded.map (fun row => SameTerms.expire row condition observedAt) ?_
    intro row some
    split <;> exact some
  projected row member := by
    obtain ⟨old, hold, rfl⟩ := Option.map_eq_some_iff.mp member
    rw [Account.bitcoin_expireIf]
    split <;> exact coherent.projected old hold
  expired v1 row member expired := by
    obtain ⟨old, hold, rfl⟩ := Option.map_eq_some_iff.mp member
    rw [Account.eligible_expireIf]
    split at expired
    · rename_i holds
      exact unpaid v1 old hold holds
    · exact coherent.expired v1 old hold expired
  usdtMatched v1 row member usdt := by
    obtain ⟨old, hold, rfl⟩ := Option.map_eq_some_iff.mp member
    rw [Account.usdt_expireIf] at usdt
    split <;> exact coherent.usdtMatched v1 old hold usdt

theorem Coherent.unpaid_of_unmatched (coherent : Coherent crypto a) (v1 : a.provider = none)
    (opened : row ∈ a.invoice)
    (unmatched : row.firstAmountMatchedObservedAt = none) : a.eligible = false := by
  cases eligible : a.eligible with
  | false => rfl
  | true =>
    have first := coherent.firstMatch_of_eligible v1 opened eligible
    rw [unmatched] at first
    cases first

theorem Coherent.expireUnmatched (coherent : Coherent crypto a) (addressKey : LookupHash)
    (observedAt : OffsetDateTime) : Coherent crypto (a.expireUnmatched addressKey observedAt) := by
  refine coherent.expireIf _ observedAt fun v1 row opened holds => ?_
  refine coherent.unpaid_of_unmatched v1 opened ?_
  simp only [Bool.and_eq_true, decide_eq_true_eq] at holds
  exact holds.1.2.2.1

theorem Coherent.expireOverdue (coherent : Coherent crypto a) (observedAt : OffsetDateTime) :
    Coherent crypto (a.expireOverdue observedAt) := by
  refine coherent.expireIf _ observedAt fun v1 row opened holds => ?_
  refine coherent.unpaid_of_unmatched v1 opened ?_
  simpa [v1] using And.right (Bool.and_eq_true_iff.mp holds)

theorem Coherent.settleReceipts (coherent : Coherent crypto a) (opened : a.invoice.isSome)
    (receipts : List Receipt) (now : OffsetDateTime) :
    Coherent crypto (a.settleReceipts receipts now) := by
  refine Grounded.project ?_ now
  exact { coherent.toGrounded with
    unopened := fun closed => by
      change a.invoice = none at closed
      rw [closed] at opened
      cases opened }

/-- Recording an output leaves the receipts and the terms alone. -/
@[simp] theorem Account.destination_hold (required : Nat) (input : BitcoinObservationInput)
    (key : LookupHash) (observedAt : OffsetDateTime) :
    (a.hold required input key observedAt).destination = a.destination := by
  by_cases first : input.matched required = true ∧ a.provider = none
  · have := Account.destination_map (a := a)
      fun row => SameTerms.recordFirstMatch row observedAt key
    simpa only [Account.destination, Account.hold, if_pos first] using this
  · simp only [Account.destination, Account.hold, if_neg first]

@[simp] theorem Account.usdt_hold (required : Nat) (input : BitcoinObservationInput)
    (key : LookupHash) (observedAt : OffsetDateTime) :
    (a.hold required input key observedAt).usdt = a.usdt := by
  by_cases first : input.matched required = true ∧ a.provider = none
  · have := Account.usdt_map (a := a) fun row => SameTerms.recordFirstMatch row observedAt key
    simpa only [Account.usdt, Account.hold, if_pos first] using this
  · simp only [Account.usdt, Account.hold, if_neg first]

/-- The invoice row after recording an output has the terms of the one before,
and no first match is forgotten. -/
theorem Account.hold_invoice (member : row ∈ (a.hold required input key observedAt).invoice) :
    ∃ old ∈ a.invoice, SameTerms old row ∧
      (old.firstAmountMatchedObservedAt.isSome → row.firstAmountMatchedObservedAt.isSome) ∧
      (input.matched required = true → a.provider = none →
        row.firstAmountMatchedObservedAt.isSome) := by
  by_cases first : input.matched required = true ∧ a.provider = none
  · simp only [Account.hold, if_pos first] at member
    obtain ⟨old, hold, rfl⟩ := Option.map_eq_some_iff.mp member
    refine ⟨old, hold, SameTerms.recordFirstMatch old observedAt key, ?_, ?_⟩ <;>
      simp [InvoiceRow.recordFirstMatch]
  · simp only [Account.hold, if_neg first] at member
    exact ⟨row, member, SameTerms.refl row, id, fun matched v1 => absurd ⟨matched, v1⟩ first⟩

theorem Account.hold_invoice_isSome (required : Nat) (input : BitcoinObservationInput)
    (key : LookupHash) (observedAt : OffsetDateTime) :
    (a.hold required input key observedAt).invoice.isSome = a.invoice.isSome := by
  unfold Account.hold
  dsimp only
  split <;> simp

theorem Grounded.hold (grounded : Grounded crypto a)
    (quoted : a.destination = some destination) (input : BitcoinObservationInput)
    (observedAt : OffsetDateTime)
    (keyed : key = crypto.bitcoinOutpointLookupHash input.outpoint.canonicalText)
    (unchanged : ∀ record ∈ a.recorded key,
      record = ⟨1, input.outpoint, input.observedSats⟩) :
    Grounded crypto (a.hold destination.requiredAmount input key observedAt) where
  unopened closed := by
    have opened : a.invoice.isSome := by
      obtain ⟨row, member, -⟩ := Option.bind_eq_some_iff.mp quoted
      simp [member]
    rw [← Account.hold_invoice_isSome destination.requiredAmount input key observedAt,
      closed] at opened
    cases opened
  addressed row member := by
    obtain ⟨old, hold, terms, -, -⟩ := Account.hold_invoice member
    rw [terms.payment, terms.addressHash]
    exact grounded.addressed old hold
  timelyMatched v1 row member nonempty := by
    obtain ⟨old, hold, -, remembers, records⟩ := Account.hold_invoice member
    simp only [Account.hold] at nonempty
    split at nonempty
    · rename_i onTime
      exact records onTime.1 v1
    · exact remembers (grounded.timelyMatched v1 old hold nonempty)
  timelyRecorded other member := by
    rw [Account.destination_hold, quoted]
    by_cases same : other = key
    · subst same
      refine ⟨⟨1, input.outpoint, input.observedSats⟩, Function.update_self .., ?_⟩
      rintro _ ⟨⟩
      simp only [Account.hold] at member
      split at member
      · rename_i onTime
        have matched := onTime.1
        simp only [BitcoinObservationInput.matched, Bool.and_eq_true, decide_eq_true_eq] at matched
        exact matched.2
      · obtain ⟨record, recorded, enough⟩ := grounded.timelyRecorded other member
        have := unchanged record recorded
        subst this
        exact enough destination quoted
    · have old : other ∈ a.timely := by
        simp only [Account.hold] at member
        split at member
        · exact (Set.mem_insert_iff.mp member).resolve_left same
        · exact member
      obtain ⟨record, recorded, enough⟩ := grounded.timelyRecorded other old
      refine ⟨record, ?_, fun d hd => enough d (quoted ▸ hd)⟩
      simpa only [Account.hold, Function.update_of_ne same] using recorded
  keyed other record member := by
    by_cases same : other = key
    · subst same
      simp only [Account.hold, Function.update_self, Option.mem_def, Option.some.injEq] at member
      rw [← member]
      exact ⟨rfl, keyed⟩
    · simp only [Account.hold, Function.update_of_ne same] at member
      exact grounded.keyed other record member
  activeRecorded held member := by
    cases member
    exact Function.update_self ..
  evidenceResolved := grounded.evidenceResolved
  evidenceProvider := grounded.evidenceProvider
  providerTerms provider hprovider row member := by
    obtain ⟨old, hold, terms, -, -⟩ := Account.hold_invoice member
    rw [terms.payment, terms.deadline]
    exact grounded.providerTerms provider hprovider old hold

theorem Account.sampled_resolved (resolved : ∀ threshold ∈ a.evidence, threshold.outpoint.isSome)
    :
    ∀ threshold ∈ a.sampled required input observedAt, threshold.outpoint.isSome := by
  intro threshold member
  unfold Account.sampled at member
  split at member
  · exact resolved threshold member
  · split at member
    · cases kept : a.evidence with
      | none =>
        rw [kept] at member
        cases member
        rfl
      | some old =>
        rw [kept] at member
        exact resolved threshold (kept.trans member)
    · exact resolved threshold member

theorem Account.sampled_of_v1 (v1 : a.provider = none)
    :
    a.sampled required input observedAt = a.evidence := by
  simp only [Account.sampled, v1]

theorem Coherent.observe (coherent : Coherent crypto a)
    (quoted : a.destination = some destination) (input : BitcoinObservationInput)
    (observedAt : OffsetDateTime)
    (keyed : key = crypto.bitcoinOutpointLookupHash input.outpoint.canonicalText)
    (unchanged : ∀ record ∈ a.recorded key,
      record = ⟨1, input.outpoint, input.observedSats⟩) :
    Coherent crypto (a.observe destination.requiredAmount input key observedAt) := by
  unfold Account.observe
  split
  · exact coherent
  · have projected :=
      (coherent.toGrounded.hold quoted input observedAt keyed unchanged).project observedAt
    exact { projected with
      unopened := fun closed => by
        have opened : a.invoice.isSome := by
          obtain ⟨row, member, -⟩ := Option.bind_eq_some_iff.mp quoted
          simp [member]
        rw [← Account.hold_invoice_isSome destination.requiredAmount input key observedAt,
          Option.map_eq_none_iff.mp closed] at opened
        cases opened
      evidenceResolved := Account.sampled_resolved coherent.evidenceResolved
      evidenceProvider := fun (v1 : a.provider = none) =>
        (Account.sampled_of_v1 v1).trans (coherent.evidenceProvider v1) }

end Preservation

end PaykitServer.Settlement
