import PaykitServer.Server
import PaykitServer.Settlement.Coherence

/-!
# Stored operations refine account operations

`account db i` reads the account of invoice `i` out of the stored tables. The
lemmas below follow one recorded observation through its three stages: the
statements that store it, the projection of the invoice and the provider-v2
sample. Each stage acts on the invoice's account as the account operation of the
same name, and leaves every other account as it was.
-/

namespace PaykitServer.Settlement

open Domain Bitcoin Persistence Workers
open Relational BitcoinObservationRow

def heldOutput (row : BitcoinObservationRow) : HeldOutput :=
  ⟨row.outpointLookupHash, row.observation, row.confirmations.toNat, row.present⟩

def receiptOf (row : UsdtObservationRow) : Receipt :=
  ⟨row.facts, row.confirmations, row.finalized⟩

/-- The record an invoice holds under a lookup key. -/
def recordedIn (stored : List ObservationEvidence) (invoice : Uuid) (key : LookupHash) :
    Option BitcoinObservationV1 :=
  ((stored.find? fun e => e.outpointLookupHash = key).filter
    fun e => e.invoiceId = some invoice).map (·.observation)

/-- The output behind an observation identity, if it is the invoice's own. -/
def outpointIn (stored : List ObservationEvidence) (invoice id : Uuid) : Option BitcoinOutpoint :=
  ((stored.find? fun e => e.id = id).filter
    fun e => e.invoiceId = some invoice).map (·.observation.outpoint)

/-- The account of an invoice, read out of the tables. -/
def account (db : Database) (invoice : Uuid) : Account where
  invoice := db.invoice invoice
  provider := db.providerBinding invoice
  active := (db.activeObservation invoice).map heldOutput
  recorded := recordedIn (db.bitcoinObservations.rows.map evidence) invoice
  timely := { key | (invoice, key) ∈ db.invoiceTimely }
  receipts := ((db.receipts invoice).filter (·.present)).map receiptOf
  evidence := (db.evidence invoice).map fun row =>
    ⟨row.observedAt, row.status,
      outpointIn (db.bitcoinObservations.rows.map evidence) invoice
        row.observationId,
      row.confirmations⟩

section Reads

variable {crypto : Crypto} {db : Database} {invoice : Uuid} {row : InvoiceRow}

theorem account_destination (found : db.invoice invoice = some row) :
    (account db invoice).destination = row.payment.bitcoin := by
  simp only [Account.destination, account, found, Option.bind_some]

theorem bitcoinPayment_account {payment : ObservedPayment} (found : db.invoice invoice = some row)
    (read : bitcoinPayment crypto db invoice row.payment = .ok payment) :
    payment = (account db invoice).bitcoin := by
  have destination := account_destination found
  unfold bitcoinPayment at read
  unfold Account.bitcoin
  rw [destination]
  cases hd : row.payment.bitcoin with
  | none =>
    rw [hd] at read
    cases read
    rfl
  | some quoted =>
    cases ha : db.activeObservation invoice with
    | none =>
      rw [hd, ha] at read
      cases read
      simp [account, ha]
    | some observation =>
      rw [hd, ha] at read
      obtain ⟨record, _, read⟩ := bind_eq_ok.mp read
      cases read
      simp only [account, ha, Option.map_some]
      congr 1
      refine Bool.eq_iff_iff.mpr ?_
      rw [decide_eq_true_iff]
      exact List.contains_iff_mem

theorem usdtRail_account {selected : Option ObservedPayment} (found : db.invoice invoice = some row)
    (read : usdtRail crypto db row row.payment = .ok selected) :
    selected = (account db invoice).usdt := by
  have same : row.id = invoice := by simpa using lookup_key found
  unfold usdtRail at read
  unfold Account.usdt
  simp only [account, found, Option.bind_some]
  cases hd : row.payment.usdt with
  | none =>
    rw [hd] at read
    cases read
    rfl
  | some destination =>
    rw [hd] at read
    obtain ⟨best, hbest, read⟩ := bind_eq_ok.mp read
    cases read
    rw [usdtPayment_eq] at hbest
    dsimp only at hbest
    split at hbest
    · cases hbest
      simp only [Option.bind_some, same, List.map_map]
      rfl
    · cases hbest

theorem recorded_of_found {key : LookupHash} {stored : BitcoinObservationRow}
    (found : db.observationByOutpoint key = some stored) (own : stored.invoiceId = some invoice) :
    (account db invoice).recorded key = some stored.observation := by
  have lookedUp : db.bitcoinObservations.rows.find? (fun row => row.outpointLookupHash = key) =
      some stored := by
    simpa [Database.observationByOutpoint, lookup] using found
  have first : (db.bitcoinObservations.rows.map evidence).find?
      (fun e => e.outpointLookupHash = key) = some stored.evidence := by
    rw [List.find?_map]
    exact congrArg (Option.map evidence) lookedUp
  simp [account, recordedIn, first, evidence, own, Option.filter]

end Reads

section Invoices

variable {crypto : Crypto} {db db' : Database} {invoice other : Uuid}

theorem account_projectPayments {row : InvoiceRow} {now : OffsetDateTime}
    (found : db.invoice invoice = some row)
    (done : projectPayments crypto db invoice row.payment now = .ok db') :
    account db' other =
      if other = invoice then (account db other).project now else account db other := by
  obtain ⟨row', bitcoin, usdt, invoices, contacts, found', hbitcoin, husdt, rows, rfl⟩ :=
    projectPayments_ok done
  obtain rfl : row = row' := Option.some.inj (found.symm.trans found')
  obtain rfl := bitcoinPayment_account found hbitcoin
  obtain rfl := usdtRail_account found husdt
  have invoice' : account { db with invoices := invoices, buyerContacts := contacts } other =
      { account db other with
        invoice := lookup (fun row => some row.id) other invoices.rows } := rfl
  rw [invoice', rows, lookup_updateOne]
  · split
    · rename_i same
      subst same
      rfl
    · rfl
  · exact fun _ => rfl

end Invoices

section Evidence

variable {stored : List ObservationEvidence} {e : ObservationEvidence} {invoice : Uuid}

theorem recordedIn_append_other (foreign : e.invoiceId ≠ some invoice) :
    recordedIn (stored ++ [e]) invoice = recordedIn stored invoice := by
  funext key
  unfold recordedIn
  rw [List.find?_append]
  cases stored.find? fun e => e.outpointLookupHash = key with
  | some old => rfl
  | none =>
    by_cases same : e.outpointLookupHash = key <;> simp [same, foreign, Option.filter]

theorem outpointIn_append_other (foreign : e.invoiceId ≠ some invoice) (id : Uuid) :
    outpointIn (stored ++ [e]) invoice id = outpointIn stored invoice id := by
  unfold outpointIn
  rw [List.find?_append]
  cases stored.find? fun e => e.id = id with
  | some old => rfl
  | none => by_cases same : e.id = id <;> simp [same, foreign, Option.filter]

theorem recordedIn_append_own (own : e.invoiceId = some invoice)
    (fresh : ∀ old ∈ stored, old.outpointLookupHash ≠ e.outpointLookupHash) :
    recordedIn (stored ++ [e]) invoice =
      Function.update (recordedIn stored invoice) e.outpointLookupHash (some e.observation) := by
  funext key
  by_cases same : key = e.outpointLookupHash
  · subst same
    have none : stored.find? (fun old => old.outpointLookupHash = e.outpointLookupHash) = none := by
      simpa using fresh
    rw [Function.update_self]
    simp [recordedIn, List.find?_append, none, own, Option.filter]
  · have skip : ¬ e.outpointLookupHash = key := fun h => same h.symm
    rw [Function.update_of_ne same]
    simp [recordedIn, List.find?_append, skip]

theorem outpointIn_append {id : Uuid} (resolved : (outpointIn stored invoice id).isSome) :
    outpointIn (stored ++ [e]) invoice id = outpointIn stored invoice id := by
  unfold outpointIn at resolved ⊢
  rw [List.find?_append]
  cases found : stored.find? fun e => e.id = id with
  | some old => rfl
  | none => simp [found] at resolved

end Evidence

section Foreign

variable {db : Database} {i : Uuid} {owned : BitcoinObservationRow → Bool} {replace : Bool}
variable {new : BitcoinObservationRow}
variable {observations : Table BitcoinObservationRow BitcoinObservationConstraints}

theorem account_storeObservation_foreign
    (rows : observations.rows = storeObservation owned replace new db.bitcoinObservations.rows)
    (disjoint : ∀ row ∈ db.bitcoinObservations.rows, owned row = true → row.invoiceId ≠ some i)
    (conflicts : ∀ row ∈ db.observationByOutpoint new.outpointLookupHash, row.invoiceId ≠ some i)
    (fresh : new.invoiceId ≠ some i) :
    account { db with bitcoinObservations := observations } i = account db i := by
  have active : lookup BitcoinObservationRow.activeInvoice i observations.rows =
      db.activeObservation i := by
    rw [rows]
    refine lookup_active_storeObservation (fun _ _ _ _ => rfl) disjoint ?_ fresh
    intro row stored same
    exact conflicts row ((lookup_eq_some_iff db.bitcoinObservations.valid.2.1).mpr
      ⟨stored, congrArg some same⟩)
  have stored : observations.rows.map evidence = db.bitcoinObservations.rows.map evidence ∨
      observations.rows.map evidence =
        db.bitcoinObservations.rows.map evidence ++ [new.evidence] := by
    rw [rows, evidence_storeObservation]
    split
    · exact .inl rfl
    · exact .inr rfl
  have foreign : new.evidence.invoiceId ≠ some i := fresh
  refine Account.ext rfl rfl (congrArg (Option.map heldOutput) active) ?_ rfl rfl ?_
  · change recordedIn (observations.rows.map evidence) i = _
    rcases stored with same | appended
    · rw [same]
      rfl
    · rw [appended]
      exact recordedIn_append_other foreign
  · refine Option.map_congr fun row _ => ?_
    change Threshold.mk _ _ (outpointIn (observations.rows.map evidence) i
      row.observationId) _ = _
    rcases stored with same | appended
    · rw [same]
    · rw [appended, outpointIn_append_other foreign]

end Foreign

section Store

variable {db db' : Database} {invoice : InvoiceRow} {required : Nat}
variable {input : BitcoinObservationInput} {key : LookupHash} {observedAt : OffsetDateTime}
variable {replace : Bool} {id : Uuid}
variable {observations : Table BitcoinObservationRow BitcoinObservationConstraints}

/-- The row under the reported outpoint, if there is one, is the invoice's own record. -/
def OwnRecord (db : Database) (invoice : InvoiceRow) (input : BitcoinObservationInput)
    (key : LookupHash) : Prop :=
  ∀ row ∈ db.observationByOutpoint key, row.invoiceId = some invoice.id ∧
    row.observation = ⟨1, input.outpoint, input.observedSats⟩

variable (own : OwnRecord db invoice input key)
variable (identity : ∀ row ∈ db.observationByOutpoint key, row.id = id)
variable (rows : observations.rows = storeObservation (fun row => row.invoiceId = some invoice.id)
  replace (newObservationRow id invoice.id input key observedAt) db.bitcoinObservations.rows)

include rows

private theorem stored_evidence : observations.rows.map evidence =
    if (db.observationByOutpoint key).isSome then db.bitcoinObservations.rows.map evidence
    else db.bitcoinObservations.rows.map evidence ++
      [(newObservationRow id invoice.id input key observedAt).evidence] := by
  rw [rows, evidence_storeObservation]
  congr 1
  rw [Database.observationByOutpoint, lookup, List.find?_isSome, List.any_eq_true]
  simp only [decide_eq_true_eq, Option.some.injEq]
  rfl

include own

private theorem stored_recorded : recordedIn (observations.rows.map evidence) invoice.id =
    Function.update (account db invoice.id).recorded key
      (some ⟨1, input.outpoint, input.observedSats⟩) := by
  rw [stored_evidence rows]
  cases found : db.observationByOutpoint key with
  | none =>
    rw [if_neg (by simp)]
    refine recordedIn_append_own rfl ?_
    intro old member
    obtain ⟨row, hrow, rfl⟩ := List.mem_map.mp member
    exact fun h => lookup_eq_none_iff.mp found row hrow (congrArg some h)
  | some old =>
    rw [if_pos (by simp)]
    refine (Function.update_eq_self_iff.mpr ?_).symm
    obtain ⟨owner, record⟩ := own old found
    rw [← record]
    exact (recorded_of_found found owner).symm

include identity

private theorem stored_row :
    ∃ first, newObservationRow id invoice.id input key first ∈ observations.rows := by
  rw [rows]
  refine mem_storeObservation rfl fun row stored same => ?_
  have found : db.observationByOutpoint key = some row :=
    (lookup_eq_some_iff db.bitcoinObservations.valid.2.1).mpr ⟨stored, congrArg some same⟩
  obtain ⟨owner, record⟩ := own row found
  have checks := (db.bitcoinObservations.valid.2.2.2.2 row stored).2
  rw [owner] at checks
  exact ⟨identity row found, owner, by simpa [newObservationRow] using checks, record⟩

private theorem stored_active :
    (lookup BitcoinObservationRow.activeInvoice invoice.id observations.rows).map heldOutput =
      some ⟨key, ⟨1, input.outpoint, input.observedSats⟩, input.confirmations, input.present⟩ := by
  obtain ⟨first, member⟩ := stored_row own identity rows
  rw [(lookup_eq_some_iff observations.valid.2.2.1).mpr ⟨member, rfl⟩]
  rfl

private theorem stored_outpoint :
    outpointIn (observations.rows.map evidence) invoice.id id = some input.outpoint := by
  obtain ⟨first, member⟩ := stored_row own identity rows
  have found : observations.rows.find? (fun row => row.id = id) =
      some (newObservationRow id invoice.id input key first) := by
    have := (lookup_eq_some_iff observations.valid.1).mpr ⟨member, rfl⟩
    simpa [lookup, newObservationRow] using this
  have byId : observations.rows.find?
      ((fun e : ObservationEvidence => e.id = id) ∘ evidence) =
        some (newObservationRow id invoice.id input key first) := found
  rw [outpointIn, List.find?_map, byId]
  simp [evidence, newObservationRow, Option.filter]

omit identity own rows

private theorem account_store_own (found : db.invoice invoice.id = some invoice)
    (own : OwnRecord db invoice input key)
    (resolved : ∀ threshold ∈ (account db invoice.id).evidence, threshold.outpoint.isSome)
    (done : storeInvoiceObservation db invoice required input key observedAt replace =
      .ok (id, db')) :
    account db' invoice.id = (account db invoice.id).hold required input key observedAt := by
  obtain ⟨observations, timely, invoices, next, rfl, identity, rows, htimely, hinvoices, -⟩ :=
    storeInvoiceObservation_ok done
  refine Account.ext ?_ rfl (stored_active own identity rows)
    (stored_recorded own rows) ?_ rfl ?_
  · change lookup (fun row => some row.id) invoice.id invoices.rows = _
    rw [hinvoices]
    simp only [Account.hold, account]
    by_cases first : input.matched required = true ∧ db.providerBinding invoice.id = none
    · rw [if_pos first, lookup_updateOne, if_pos rfl]
      · exact (if_pos first).symm
      · exact fun _ => rfl
    · rw [if_neg first]
      exact (if_neg first).symm
  · ext other
    change (invoice.id, other) ∈ timely ↔ _
    rw [htimely]
    simp only [Account.hold, account, found, Option.any_some, decide_eq_true_eq]
    by_cases onTime : input.matched required = true ∧ observedAt ≤ invoice.paymentDeadline
    · rw [if_pos onTime, if_pos onTime, mem_insertNew (by simp)]
      simp [or_comm]
    · rw [if_neg onTime, if_neg onTime]
      rfl
  · refine Option.map_congr fun row stored => ?_
    have kept : (outpointIn (db.bitcoinObservations.rows.map evidence)
        invoice.id row.observationId).isSome := resolved _ (Option.mem_map_of_mem _ stored)
    change Threshold.mk _ _ (outpointIn (observations.rows.map evidence)
      invoice.id row.observationId) _ = _
    rw [stored_evidence rows]
    split
    · rfl
    · rw [outpointIn_append kept]

private theorem account_store_other {other : Uuid} (different : other ≠ invoice.id)
    (own : OwnRecord db invoice input key)
    (done : storeInvoiceObservation db invoice required input key observedAt replace =
      .ok (id, db')) : account db' other = account db other := by
  obtain ⟨observations, timely, invoices, next, rfl, -, rows, htimely, hinvoices, -⟩ :=
    storeInvoiceObservation_ok done
  have foreign : ∀ {owner : Option Uuid}, owner = some invoice.id → owner ≠ some other := by
    rintro _ rfl h
    exact different (Option.some.inj h).symm
  have stored := account_storeObservation_foreign (i := other) rows
    (fun row _ owns => foreign (by simpa using owns))
    (fun row found => foreign (own row found).1) (foreign rfl)
  have active := congrArg Account.active stored
  have recorded := congrArg Account.recorded stored
  have evidence := congrArg Account.evidence stored
  refine Account.ext ?_ rfl active recorded ?_ rfl evidence
  · change lookup (fun row => some row.id) other invoices.rows = _
    rw [hinvoices]
    split
    · rw [lookup_updateOne, if_neg different]
      · rfl
      · exact fun _ => rfl
    · rfl
  · ext k
    change (other, k) ∈ timely ↔ (other, k) ∈ db.invoiceTimely
    rw [htimely]
    split
    · rw [mem_insertNew (by simp)]
      simp [different]
    · rfl

theorem account_projectProviderV2Sample {i : Uuid}
    (resolves : outpointIn (db.bitcoinObservations.rows.map evidence) i id =
      some input.outpoint)
    (done : projectProviderV2Sample db i id observedAt input.present input.confirmations
      (input.matched required) = .ok db') (other : Uuid) :
    account db' other =
      if other = i then
        { account db other with evidence := (account db other).sampled required input observedAt }
      else account db other := by
  obtain ⟨samples, evidences, rfl, rows⟩ := projectProviderV2Sample_ok done
  have kept : account { db with currentSamples := samples, thresholdEvidence := evidences } other =
      { account db other with
        evidence := (lookup (fun row => some row.invoiceId) other evidences.rows).map fun row =>
          ⟨row.observedAt, row.status,
            outpointIn (db.bitcoinObservations.rows.map evidence) other
              row.observationId, row.confirmations⟩ } := rfl
  rw [kept, rows]
  by_cases same : other = i
  · subst same
    rw [if_pos rfl]
    refine Account.ext rfl rfl rfl rfl rfl rfl ?_
    cases bound : db.providerBinding other with
    | none => exact (Account.sampled_of_v1 bound).symm
    | some provider =>
      have provided : (account db other).provider = some provider := bound
      simp only [Account.sampled, provided]
      by_cases reached : input.matched required = true ∧
          provider.minimumConfirmations ≤ min input.confirmations 6 ∧
          observedAt ≤ provider.deadline
      · have present : input.present = true := (Bool.and_eq_true_iff.mp reached.1).1
        rw [if_pos reached, if_pos ⟨present, reached⟩, lookup_insertNew (k := other) rfl,
          if_pos rfl]
        change ((db.evidence other).or _).map _ = ((db.evidence other).map _).or _
        cases db.evidence other with
        | none => simp [resolves]
        | some row => rfl
      · rw [if_neg reached, if_neg fun h => reached h.2]
        rfl
  · rw [if_neg same]
    refine Account.ext rfl rfl rfl rfl rfl rfl ?_
    cases db.providerBinding i with
    | none => rfl
    | some provider =>
      dsimp only
      split
      · rw [lookup_insertNew (k := i) rfl, if_neg same]
        rfl
      · rfl

theorem account_recordObservation {crypto : Crypto} (found : db.invoice invoice.id = some invoice)
    (own : OwnRecord db invoice input key)
    (resolved : ∀ threshold ∈ (account db invoice.id).evidence, threshold.outpoint.isSome)
    (done : recordObservation crypto db invoice required input key observedAt replace = .ok db')
    (other : Uuid) :
    account db' other =
      if other = invoice.id then
        { ((account db other).hold required input key observedAt).project observedAt with
          evidence := (account db other).sampled required input observedAt }
      else account db other := by
  unfold recordObservation at done
  obtain ⟨⟨id, stored⟩, hstored, done⟩ := bind_eq_ok.mp done
  obtain ⟨projected, hprojected, done⟩ := bind_eq_ok.mp done
  have held : ∀ other, account stored other =
      if other = invoice.id then (account db other).hold required input key observedAt
      else account db other := by
    intro other
    split
    · rename_i same
      rw [same]
      exact account_store_own found own resolved hstored
    · rename_i different
      exact account_store_other different own hstored
  have output : outpointIn (stored.bitcoinObservations.rows.map evidence)
      invoice.id id = some input.outpoint := by
    obtain ⟨observations, _, _, _, rfl, identity, rows, -, -⟩ := storeInvoiceObservation_ok hstored
    exact stored_outpoint own identity rows
  obtain ⟨row, _, _, invoices, contacts, hrow, -, -, -, hdb⟩ := projectPayments_ok hprojected
  -- the projection is given the payment record of the row as it was locked
  have payment : row.payment = invoice.payment := by
    have after : (account stored invoice.id).invoice = some row := hrow
    rw [held, if_pos rfl] at after
    obtain ⟨old, hold, terms, -, -⟩ := Account.hold_invoice after
    obtain rfl : invoice = old := Option.some.inj (found.symm.trans hold)
    exact terms.payment
  rw [← payment] at hprojected
  have sampled := account_projectProviderV2Sample (by rw [hdb]; exact output) done other
  rw [sampled, account_projectPayments hrow hprojected, held]
  split
  · rfl
  · rfl

end Store

end PaykitServer.Settlement
