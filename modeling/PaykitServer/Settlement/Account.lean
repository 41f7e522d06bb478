import Mathlib.Data.Set.Basic
import Mathlib.Logic.Function.Basic
import PaykitServer.Persistence.Admission
import PaykitServer.Persistence.Invoices.Observation

/-!
# The account of one invoice

The abstract view of everything stored about one invoice: its row, its active
output, the outputs ever recorded for it and which of them matched on time, its
present receipts, and its first-threshold evidence. Rows, row identities, check
times and the other invoices are gone; outputs are known by the lookup key they
are stored under.

An account evolves by total functions: what an observation, a deadline check, a
target pass or a change of receipts does to it. That these are the effects of
the stored operations is proved in the refinement module; what holds over whole
runs is proved here, about accounts.
-/

namespace PaykitServer.Settlement

open Domain Bitcoin Persistence

/-- The output an invoice is currently bound to. -/
structure HeldOutput where
  key : LookupHash
  record : BitcoinObservationV1
  confirmations : Nat
  present : Bool
deriving DecidableEq

def HeldOutput.binding (held : HeldOutput) : DirectBinding :=
  ⟨held.record.outpoint, held.record.observedSats, held.confirmations, held.present⟩

/-- A present receipt, as far as settlement reads it. -/
structure Receipt where
  facts : TransferFacts
  confirmations : Int
  finalized : Bool
deriving DecidableEq

/-- First-threshold evidence with its output resolved. -/
structure Threshold where
  observedAt : OffsetDateTime
  status : PaymentStatus
  outpoint : Option BitcoinOutpoint
  confirmations : Nat
deriving DecidableEq

@[ext] structure Account where
  invoice : Option InvoiceRow
  provider : Option ProviderV2Row
  active : Option HeldOutput
  recorded : LookupHash → Option BitcoinObservationV1
  timely : Set LookupHash
  receipts : List Receipt
  evidence : Option Threshold

namespace Account

/-- Nothing is stored about an invoice that does not exist. -/
def unopened : Account := ⟨none, none, none, fun _ => none, ∅, [], none⟩

def opened (row : InvoiceRow) (provider : Option ProviderV2Row) : Account :=
  { unopened with invoice := some row, provider := provider }

def destination (a : Account) : Option PaymentDestination := a.invoice.bind (·.payment.bitcoin)

open Classical in
noncomputable def bitcoin (a : Account) : ObservedPayment :=
  match a.destination, a.active with
  | some destination, some held =>
    observedBitcoin destination.requiredAmount held.binding (decide (held.key ∈ a.timely))
  | _, _ => .absent

def usdt (a : Account) : Option ObservedPayment :=
  a.invoice.bind fun row => row.payment.usdt.bind fun destination =>
    ((a.receipts.map fun receipt => (receipt.facts.identity,
      receiptPayment row destination.requiredAmount receipt.facts receipt.confirmations
        receipt.finalized)).argmax receiptRank).map Prod.snd

noncomputable def eligible (a : Account) : Bool := anyEligible a.bitcoin a.usdt

noncomputable def project (a : Account) (now : OffsetDateTime) : Account :=
  { a with invoice := a.invoice.map (·.project a.bitcoin a.usdt now) }

/-- The evidence after an observation: the first one that meets a provider-v2
threshold on time is kept. -/
def sampled (a : Account) (required : Nat) (input : BitcoinObservationInput)
    (observedAt : OffsetDateTime) : Option Threshold :=
  match a.provider with
  | none => a.evidence
  | some provider =>
    if input.matched required ∧ provider.minimumConfirmations ≤ min input.confirmations 6 ∧
        observedAt ≤ provider.deadline then
      a.evidence.or (some
        ⟨observedAt, if min input.confirmations 6 = 0 then .detected else .confirmed,
          some input.outpoint, min input.confirmations 6⟩)
    else a.evidence

/-- Bind the account to a reported output and remember what it proves. -/
def hold (a : Account) (required : Nat) (input : BitcoinObservationInput)
    (key : LookupHash) (observedAt : OffsetDateTime) : Account :=
  { a with
    active := some ⟨key, ⟨1, input.outpoint, input.observedSats⟩, input.confirmations,
      input.present⟩
    recorded := Function.update a.recorded key (some ⟨1, input.outpoint, input.observedSats⟩)
    timely :=
      if input.matched required ∧ a.invoice.any (fun row => observedAt ≤ row.paymentDeadline) then
        insert key a.timely
      else a.timely
    invoice :=
      if input.matched required ∧ a.provider = none then
        a.invoice.map (·.recordFirstMatch observedAt key)
      else a.invoice }

def dispositionFor (a : Account) (required : Nat) (input : BitcoinObservationInput) :
    Disposition :=
  disposition a.provider.isSome required (a.active.map (·.binding)) input

/-- Apply one observation to the account that owns its address. -/
noncomputable def observe (a : Account) (required : Nat) (input : BitcoinObservationInput)
    (key : LookupHash) (observedAt : OffsetDateTime) : Account :=
  match a.dispositionFor required input with
  | .skip => a
  | .write _ =>
    { (a.hold required input key observedAt).project observedAt with
      evidence := a.sampled required input observedAt }

/-- Receive a reported output: only an account that quotes its address reacts. -/
noncomputable def receive (a : Account) (crypto : Crypto) (input : BitcoinObservationInput)
    (observedAt : OffsetDateTime) : Account :=
  match a.destination with
  | some destination =>
    if destination.address = input.address then
      a.observe destination.requiredAmount input
        (crypto.bitcoinOutpointLookupHash input.outpoint.canonicalText) observedAt
    else a
  | none => a

def expireIf (a : Account) (condition : InvoiceRow → Bool) (observedAt : OffsetDateTime) :
    Account :=
  { a with invoice := a.invoice.map fun row =>
      if condition row then { row with paymentExpiredAt := some observedAt } else row }

/-- The deadline check after a batch that reported the address with this key. -/
def expireUnmatched (a : Account) (addressKey : LookupHash) (observedAt : OffsetDateTime) :
    Account :=
  a.expireIf (fun row => decide (row.bitcoinAddressLookupHash = some addressKey ∧
    row.paymentDeadline = observedAt ∧ row.firstAmountMatchedObservedAt = none ∧
    row.paymentExpiredAt = none) && a.provider.isNone) observedAt

/-- The expiry of a target pass. -/
def expireOverdue (a : Account) (observedAt : OffsetDateTime) : Account :=
  a.expireIf (fun row => decide (row.paymentExpiredAt = none ∧ row.paymentDeadline < observedAt) &&
    if a.provider.isSome then a.evidence.isNone else row.firstAmountMatchedObservedAt.isNone)
    observedAt

/-- Replace the present receipts and rebuild the invoice. -/
noncomputable def settleReceipts (a : Account) (receipts : List Receipt) (now : OffsetDateTime) :
    Account :=
  { a with receipts := receipts }.project now

end Account

end PaykitServer.Settlement
