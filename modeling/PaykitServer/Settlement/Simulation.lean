import PaykitServer.Settlement.Refinement

/-!
# Every action evolves every account

`Evolves` says what an action of the server does to the account of one invoice,
in terms of accounts only. `perform_evolves` proves that the stored operations do
exactly that, for every account at once: the one an action concerns takes the
step, and the others stay as they were. From a coherent account every step leads
to a coherent one, so all accounts of every reachable state are coherent, and
`account_rule` lifts what single steps do to whole runs.

The address of an observation decides which account it concerns. The stored
lookup goes through a keyed hash, but the record behind it is compared with the
reported address, so a colliding hash fails instead of reaching a wrong account.
-/

namespace PaykitServer.Settlement

open Domain Bitcoin Persistence Workers
open Relational

/-- What an action does to the account of one invoice. The receipts that a USDT
pass leaves behind are not determined here. -/
def Evolves (env : Environment) (a : Account) : Action → Account → Prop
  | .createInvoice new createdAt window, a' =>
    a' = a ∨ a = Account.unopened ∧ ∃ id, a' = Account.opened
      (new.invoiceRow env.crypto id createdAt (createdAt + window * 1000000)) none
  | .createProviderV2 new bitcoin createdAt deadline minimum, a' =>
    a' = a ∨ a = Account.unopened ∧ ∃ id, a' = Account.opened
      ({ new with bitcoin := some bitcoin, usdt := none }.invoiceRow env.crypto id createdAt
        deadline) (some ⟨id, deadline, minimum⟩)
  | .observe input observedAt, a' =>
    (∀ destination ∈ a.destination, destination.address = input.address →
      ∀ record ∈ a.recorded (env.crypto.bitcoinOutpointLookupHash input.outpoint.canonicalText),
        record = ⟨1, input.outpoint, input.observedSats⟩) ∧
      a' = a.receive env.crypto input observedAt
  | .expireUnmatched address observedAt, a' =>
    a' = a.expireUnmatched (env.crypto.bitcoinAddressLookupHash address) observedAt
  | .expireOverdue observedAt, a' => a' = a.expireOverdue observedAt
  | .applyUsdt _ _ _ now, a' | .clearUsdt _ _ _ now, a' =>
    a' = a ∨ (∃ row ∈ a.invoice, row.payment.usdt.isSome) ∧
      ∃ receipts, a' = a.settleReceipts receipts now
  | .prepareSettlement _, a' | .activateSettlement _ _ _ _, a' | .observeMarketplace _ _, a'
  | .expireOverdueMarketplace _, a' | .reserveUsdt _ _ _ _, a' | .applyMarketplaceUsdt _ _ _, a'
  | .clearMarketplaceUsdt _ _ _, a' => a' = a

theorem Evolves.coherent {env : Environment} {a a' : Account} {action : Action}
    (evolves : Evolves env a action a') (coherent : Coherent env.crypto a) :
    Coherent env.crypto a' := by
  cases action with
  | createInvoice new createdAt window =>
    rcases evolves with rfl | ⟨-, id, rfl⟩
    · exact coherent
    · exact Coherent.opened new id _ _ none (by simp)
  | createProviderV2 new bitcoin createdAt deadline minimum =>
    rcases evolves with rfl | ⟨-, id, rfl⟩
    · exact coherent
    · refine Coherent.opened _ id _ _ _ ?_
      rintro binding ⟨⟩
      exact ⟨rfl, rfl⟩
  | observe input observedAt =>
    obtain ⟨unchanged, rfl⟩ := evolves
    unfold Account.receive
    split
    · rename_i destination quoted
      split
      · rename_i same
        exact coherent.observe quoted input observedAt rfl (unchanged destination quoted same)
      · exact coherent
    · exact coherent
  | expireUnmatched address observedAt =>
    obtain rfl := evolves
    exact coherent.expireUnmatched _ observedAt
  | expireOverdue observedAt =>
    obtain rfl := evolves
    exact coherent.expireOverdue observedAt
  | applyUsdt invoice transfer dbNow now | clearUsdt invoice hash dbNow now =>
    rcases evolves with rfl | ⟨⟨row, opened, -⟩, receipts, rfl⟩
    · exact coherent
    · exact coherent.settleReceipts (by simp [Option.mem_def.mp opened]) receipts now
  | prepareSettlement | activateSettlement | observeMarketplace | expireOverdueMarketplace
  | reserveUsdt | applyMarketplaceUsdt | clearMarketplaceUsdt =>
    obtain rfl := evolves
    exact coherent

variable {input : BitcoinObservationInput} {observedAt : OffsetDateTime}

theorem Account.receive_of_silent {a : Account} {crypto : Crypto}
    (silent : ∀ destination ∈ a.destination, destination.address ≠ input.address) :
    a.receive crypto input observedAt = a := by
  unfold Account.receive
  split
  · rename_i destination quoted
    exact if_neg (silent destination quoted)
  · rfl

theorem Account.receive_of_quoted {a : Account} {crypto : Crypto}
    {destination : PaymentDestination} (quoted : a.destination = some destination)
    (same : destination.address = input.address) :
    a.receive crypto input observedAt = a.observe destination.requiredAmount input
      (crypto.bitcoinOutpointLookupHash input.outpoint.canonicalText) observedAt := by
  simp only [Account.receive, quoted, same, if_true]

section Observations

variable {env : Environment} {db db' : Database} {input : BitcoinObservationInput}
variable {observedAt : OffsetDateTime}

theorem invoice_of_invoiceByAddress {hash : LookupHash} {row : InvoiceRow}
    (found : db.invoiceByAddress hash = some row) : db.invoice row.id = some row :=
  (lookup_eq_some_iff db.invoices.valid.1).mpr ⟨lookup_mem found, rfl⟩

theorem invoiceByAddress_of_destination {i : Uuid} {destination : PaymentDestination}
    (grounded : Grounded env.crypto (account db i))
    (quoted : (account db i).destination = some destination) :
    ∃ row, db.invoiceByAddress (env.crypto.bitcoinAddressLookupHash destination.address) =
      some row ∧ row.id = i ∧ row.payment.bitcoin = some destination := by
  obtain ⟨row, opened, hrow⟩ := Option.bind_eq_some_iff.mp quoted
  have hash := (grounded.addressed row opened).2
  rw [hrow] at hash
  have found : db.invoice i = some row := opened
  refine ⟨row, (lookup_eq_some_iff db.invoices.valid.2.1).mpr ⟨lookup_mem found, hash⟩, ?_, hrow⟩
  simpa using lookup_key found

theorem recorded_of_existing {i : Uuid} {key : LookupHash} {record : BitcoinObservationV1}
    (recorded : (account db i).recorded key = some record) :
    ∃ row, db.observationByOutpoint key = some row ∧ row.observation = record := by
  obtain ⟨e, found, rfl⟩ := Option.map_eq_some_iff.mp recorded
  have first := (Option.filter_eq_some_iff.mp found).1
  rw [List.find?_map] at first
  obtain ⟨row, hrow, rfl⟩ := Option.map_eq_some_iff.mp first
  have stored : db.bitcoinObservations.rows.find? (fun row => row.outpointLookupHash = key) =
      some row := hrow
  exact ⟨row, by simpa [Database.observationByOutpoint, lookup] using stored, rfl⟩

theorem account_applyBitcoinObservation {hit : Bool}
    (grounded : ∀ i, Grounded env.crypto (account db i))
    (done : applyBitcoinObservationInTx env.crypto db input observedAt = .ok (hit, db'))
    (i : Uuid) : Evolves env (account db i) (.observe input observedAt) (account db' i) := by
  rcases applyBitcoinObservationInTx_ok done with ⟨missing, rfl⟩ |
    ⟨invoice, destination, found, hdestination, address, existing, recorded⟩
  · -- nobody quotes the address
    have silent : ∀ destination ∈ (account db' i).destination,
        destination.address ≠ input.address := by
      intro destination quoted same
      obtain ⟨row, found, -⟩ := invoiceByAddress_of_destination (grounded i) quoted
      rw [same, missing] at found
      cases found
    refine ⟨fun destination quoted same => absurd same (silent destination quoted), ?_⟩
    exact (Account.receive_of_silent silent).symm
  · have byId := invoice_of_invoiceByAddress found
    have observed : account db' i =
        if i = invoice.id then (account db i).observe destination.requiredAmount input
          (env.crypto.bitcoinOutpointLookupHash input.outpoint.canonicalText) observedAt
        else account db i := by
      have active : ((account db invoice.id).active.map (·.binding)) =
          (db.activeObservation invoice.id).map (·.binding) := by
        simp only [account, Option.map_map]
        rfl
      rw [← active] at recorded
      split at recorded
      · rename_i skipped
        have skipped : (account db invoice.id).dispositionFor destination.requiredAmount input =
          .skip := skipped
        subst recorded
        split
        · rename_i same
          simp only [same, Account.observe, skipped]
        · rfl
      · rename_i replace written
        have written : (account db invoice.id).dispositionFor destination.requiredAmount input =
          .write replace := written
        rw [account_recordObservation byId existing (grounded invoice.id).evidenceResolved recorded]
        split
        · rename_i same
          simp only [same, Account.observe, written]
        · rfl
    by_cases same : i = invoice.id
    · rw [if_pos same] at observed
      subst same
      have quoted : (account db invoice.id).destination = some destination :=
        (account_destination byId).trans hdestination
      refine ⟨?_, observed.trans (Account.receive_of_quoted quoted address).symm⟩
      intro _ _ _ record hrecord
      obtain ⟨row, hrow, rfl⟩ := recorded_of_existing hrecord
      exact (existing row hrow).2
    · -- a second invoice with the address would be the same row
      rw [if_neg same] at observed
      have silent : ∀ destination ∈ (account db i).destination,
          destination.address ≠ input.address := by
        intro destination quoted haddress
        obtain ⟨row, hrow, id, -⟩ := invoiceByAddress_of_destination (grounded i) quoted
        rw [haddress, found] at hrow
        cases hrow
        exact same id.symm
      refine ⟨fun destination quoted h => absurd h (silent destination quoted), ?_⟩
      exact observed.trans (Account.receive_of_silent silent).symm

end Observations

section Expiry

variable {crypto : Crypto} {db db' : Database} {observedAt : OffsetDateTime}

theorem account_expireUnmatched {address : String}
    (done : expireUnmatchedAtDeadlineInTx crypto db address observedAt = .ok db') (i : Uuid) :
    account db' i =
      (account db i).expireUnmatched (crypto.bitcoinAddressLookupHash address) observedAt := by
  unfold expireUnmatchedAtDeadlineInTx at done
  obtain ⟨invoices, written, done⟩ := bind_eq_ok.mp done
  cases done
  refine Account.ext ?_ rfl rfl rfl rfl rfl rfl
  change lookup (fun row => some row.id) i invoices.rows = _
  rw [Table.write_eq_ok.mp written, lookup_updateWhere]
  · refine Option.map_congr fun row stored => ?_
    have id : row.id = i := by simpa using lookup_key stored
    simp only [account, id, Option.isNone_iff_eq_none, Bool.and_eq_true, decide_eq_true_eq,
      and_assoc]
  · exact fun _ _ => rfl

theorem account_expireOverdue (done : expireOverdue db observedAt = .ok db') (i : Uuid) :
    account db' i = (account db i).expireOverdue observedAt := by
  unfold Persistence.expireOverdue at done
  obtain ⟨invoices, written, done⟩ := bind_eq_ok.mp done
  cases done
  refine Account.ext ?_ rfl rfl rfl rfl rfl rfl
  change lookup (fun row => some row.id) i invoices.rows = _
  rw [Table.write_eq_ok.mp written, lookup_updateWhere, lookup_updateWhere, Option.map_map]
  · refine Option.map_congr fun row stored => ?_
    have id : row.id = i := by simpa using lookup_key stored
    have evidence : (account db i).evidence.isNone ↔ db.evidence i = none := by
      simp [account]
    have provider : (account db i).provider = db.providerBinding i := rfl
    -- an invoice has a provider binding or not, so at most one statement applies
    cases bound : db.providerBinding i with
    | none =>
      by_cases overdue : row.paymentExpiredAt = none ∧
          row.firstAmountMatchedObservedAt = none ∧ row.paymentDeadline < observedAt
      · simp [provider, bound, id, overdue]
      · have kept : ¬ ((row.paymentExpiredAt = none ∧ row.paymentDeadline < observedAt) ∧
            row.firstAmountMatchedObservedAt = none) := fun h => overdue ⟨h.1.1, h.2, h.1.2⟩
        simp [provider, bound, id, overdue, kept]
    | some binding =>
      by_cases overdue : row.paymentExpiredAt = none ∧ row.paymentDeadline < observedAt ∧
          db.evidence i = none
      · simp [provider, bound, id, evidence, overdue]
      · have kept : ¬ ((row.paymentExpiredAt = none ∧ row.paymentDeadline < observedAt) ∧
            db.evidence i = none) := fun h => overdue ⟨h.1.1, h.1.2, h.2⟩
        simp [provider, bound, id, evidence, overdue, kept]
  · exact fun _ _ => rfl
  · exact fun _ _ => rfl

end Expiry

section Receipts

variable {db db' : Database} {owner : ReceiptOwner} {i : Uuid}
variable {receipts : Table UsdtObservationRow UsdtObservationConstraints}

theorem invoiceId_of_owns {row : UsdtObservationRow} (checks : row.Checks)
    (owns : owner.owns row = true) : row.invoiceId = owner.invoiceId := by
  have checks := checks.2
  cases owner with
  | invoice j => simpa [ReceiptOwner.owns, ReceiptOwner.invoiceId] using owns
  | preparation p =>
    have prepared : row.marketplacePreparationId = some p := by
      simpa [ReceiptOwner.owns] using owns
    rw [prepared] at checks
    simpa [ReceiptOwner.invoiceId] using checks

theorem account_receipts (nextUuid : Uuid) :
    account { db with usdtObservations := receipts, nextUuid := nextUuid } i =
      { account db i with
        receipts := ((receipts.rows.filter fun row => row.invoiceId = some i).filter
          (·.present)).map receiptOf } := rfl

variable {hash : LookupHash} {now : OffsetDateTime} {crypto : Crypto} {row : InvoiceRow} {j : Uuid}

theorem account_write_other {nextUuid : Uuid} (other : owner.invoiceId ≠ some i)
    (write : ReceiptsWrite crypto owner db.usdtObservations.rows receipts.rows) :
    account { db with usdtObservations := receipts, nextUuid := nextUuid } i = account db i := by
  have kept : receipts.rows.filter (fun row => row.invoiceId = some i) =
      db.usdtObservations.rows.filter fun row => row.invoiceId = some i := by
    generalize rows : receipts.rows = rows' at write
    cases write with
    | rewrite f keeps =>
      have all : db.usdtObservations.rows.map f =
          updateWhere (fun _ => true) f db.usdtObservations.rows := by simp [updateWhere]
      rw [all]
      refine filter_updateWhere (fun row stored _ own => ?_) fun row stored _ foreign => ?_
      · rcases keeps row stored with same | ⟨⟨owns, -⟩, -⟩
        · exact same
        · have owned := invoiceId_of_owns (db.usdtObservations.valid.2.2 row stored) owns
          exact absurd (owned.symm.trans (of_decide_eq_true own)) other
      · rcases keeps row stored with same | ⟨-, same, -⟩
        · rwa [same]
        · rwa [same.invoiceId]
    | insert new _ owned =>
      have stored : new ∈ receipts.rows := rows ▸ List.mem_append_right _ (List.mem_singleton_self _)
      have owner := invoiceId_of_owns (receipts.valid.2.2 new stored) owned
      simp [owner, other]
  rw [account_receipts, kept]
  rfl

theorem account_reserve {force reserved : Bool}
    (done : reserveReceipt db owner hash force now = .ok (reserved, db')) :
    account db' i = account db i := by
  obtain ⟨receipts, rfl, rows⟩ := reserveReceipt_ok done
  refine (account_receipts db.nextUuid).trans ?_
  rw [rows, List.filter_filter, filter_map_updateWhere]
  · refine Account.ext rfl rfl rfl rfl rfl ?_ rfl
    simp only [account, Database.receipts, List.filter_filter]
  · exact fun _ _ => rfl
  · exact fun _ _ => rfl

theorem account_settle {nextUuid : Uuid} (found : db.invoice j = some row)
    (write : ReceiptsWrite crypto (.invoice j) db.usdtObservations.rows receipts.rows)
    (done : projectPayments crypto { db with usdtObservations := receipts, nextUuid := nextUuid } j
      row.payment now = .ok db') :
    account db' i = if i = j then (account db i).settleReceipts
      (account { db with usdtObservations := receipts } j).receipts now else account db i := by
  rw [account_projectPayments (by exact found) done]
  by_cases same : i = j
  · subst same
    rw [if_pos rfl, if_pos rfl]
    rfl
  · rw [if_neg same, if_neg same]
    exact account_write_other (by simpa [ReceiptOwner.invoiceId] using Ne.symm same) write

theorem account_usdtPass (pass : UsdtPass crypto db j now db') :
    account db' i = account db i ∨ (∃ row ∈ (account db i).invoice, row.payment.usdt.isSome) ∧
      ∃ receipts, account db' i = (account db i).settleReceipts receipts now := by
  cases pass with
  | idle => exact .inl rfl
  | projected row _ _ found accepts _ write projects =>
    have settled := account_settle (i := i) found write projects
    split at settled
    · rename_i same
      subst same
      exact .inr ⟨⟨row, found, accepts⟩, _, settled⟩
    · exact .inl settled

end Receipts

section Admission

variable {crypto : Crypto} {db db' : Database} {new : NewPayment} {i id : Uuid}
variable {createdAt deadline : OffsetDateTime}

theorem account_admitted {invoices : Table InvoiceRow InvoiceConstraints}
    {providers : Table ProviderV2Row ProviderV2Constraints} {provider : Option ProviderV2Row}
    (grounded : ∀ i, Grounded crypto (account db i))
    (rows : invoices.rows = db.invoices.rows ++ [new.invoiceRow crypto id createdAt deadline])
    (bound : providers.rows = db.providerV2.rows ++ provider.toList)
    (own : ∀ row ∈ provider, row.invoiceId = id) (next : Uuid) :
    account db id = Account.unopened ∧ ∀ i,
      account { db with invoices := invoices, providerV2 := providers, nextUuid := next } i =
        if i = id then Account.opened (new.invoiceRow crypto id createdAt deadline) provider
        else account db i := by
  -- the primary key rejects an identity that is already taken
  have fresh : db.invoice id = none := by
    refine lookup_eq_none_iff.mpr fun row stored same => ?_
    have unique := invoices.valid.1
    rw [rows, UniqueIndex, List.filterMap_append, List.nodup_append] at unique
    refine unique.2.2 id ?_ id ?_ rfl
    · exact List.mem_filterMap.mpr ⟨row, stored, same⟩
    · simp [NewPayment.invoiceRow]
  have closed := (grounded id).unopened fresh
  refine ⟨closed, fun i => ?_⟩
  have changed :
      account { db with invoices := invoices, providerV2 := providers, nextUuid := next } i =
      { account db i with
        invoice := (db.invoice i).or
          (if some id = some i then some (new.invoiceRow crypto id createdAt deadline) else none)
        provider := (account db i).provider.or
          (lookup (fun row : ProviderV2Row => some row.invoiceId) i provider.toList) } := by
    refine Account.ext ?_ ?_ rfl rfl rfl rfl rfl
    · change lookup (fun row => some row.id) i invoices.rows = _
      rw [rows, lookup_append]
      rfl
    · change lookup (fun row : ProviderV2Row => some row.invoiceId) i providers.rows = _
      rw [bound]
      exact List.find?_append
  rw [changed]
  by_cases same : i = id
  · subst same
    rw [if_pos rfl, if_pos rfl, fresh, closed]
    cases provider with
    | none => rfl
    | some row =>
      simp [Account.opened, Account.unopened, lookup, own row rfl]
  · have other : ¬ some id = some i := fun h => same (Option.some.inj h).symm
    have absent : lookup (fun row : ProviderV2Row => some row.invoiceId) i provider.toList =
        none := by
      refine lookup_eq_none_iff.mpr fun row member key => same ?_
      rw [← own row (Option.mem_toList.mp member)]
      exact (Option.some.inj key).symm
    rw [if_neg same, if_neg other, absent, Option.or_none, Option.or_none]
    rfl

theorem account_createInvoice {env : Environment} {window : Nat}
    (grounded : ∀ i, Grounded env.crypto (account db i))
    (done : createInvoice env.crypto db new createdAt window = .ok db') :
    Evolves env (account db i) (.createInvoice new createdAt window) (account db' i) := by
  obtain ⟨⟨id, _⟩, inserted, done⟩ := bind_eq_ok.mp done
  cases done
  obtain ⟨invoices, next, rfl, rows⟩ := insertInvoice_ok inserted
  have unbound : db.providerV2.rows = db.providerV2.rows ++ (none : Option ProviderV2Row).toList :=
    (List.append_nil _).symm
  obtain ⟨closed, accounts⟩ := account_admitted grounded rows unbound
    (fun _ none => by cases none) next
  have opened := accounts i
  split at opened
  · rename_i same
    subst same
    exact .inr ⟨closed, i, opened⟩
  · exact .inl opened

theorem account_createProviderV2 {env : Environment} {bitcoin : PaymentDestination} {minimum : Nat}
    (grounded : ∀ i, Grounded env.crypto (account db i))
    (done : createProviderV2 env.crypto db new bitcoin createdAt deadline minimum = .ok db') :
    Evolves env (account db i) (.createProviderV2 new bitcoin createdAt deadline minimum)
      (account db' i) := by
  obtain ⟨⟨id, _⟩, inserted, done⟩ := bind_eq_ok.mp done
  obtain ⟨providers, written, done⟩ := bind_eq_ok.mp done
  cases done
  obtain ⟨invoices, next, rfl, rows⟩ := insertInvoice_ok inserted
  obtain ⟨closed, accounts⟩ := account_admitted grounded rows
    (Table.write_eq_ok.mp written : providers.rows = _ ++ (some _).toList)
    (fun _ same => by cases same; rfl) next
  have opened := accounts i
  split at opened
  · rename_i same
    subst same
    exact .inr ⟨closed, i, opened⟩
  · exact .inl opened

end Admission

section Marketplace

variable {crypto : Crypto} {db db' : Database} {i : Uuid}

theorem account_observeMarketplace {input : BitcoinObservationInput} {observedAt : OffsetDateTime}
    {hit : Bool}
    (done : MarketplacePreparations.applyMarketplaceObservation crypto db input observedAt =
      .ok (hit, db')) : account db' i = account db i := by
  rcases MarketplacePreparations.applyMarketplaceObservation_ok done with ⟨-, rfl⟩ |
    ⟨active, destination, -, -, -, -, existing, recorded⟩
  · rfl
  split at recorded
  · rw [recorded]
  obtain ⟨observations, timely, settlements, next, id, first, rfl, -, rows, -⟩ :=
    MarketplacePreparations.recordObservation_ok recorded
  refine account_storeObservation_foreign rows ?_ ?_ (fun same => by cases same)
  · intro row stored owns same
    have checks := (db.bitcoinObservations.valid.2.2.2.2 row stored).2
    simp_all
  · intro row found same
    rw [(existing row found).1] at same
    cases same

variable {preparation : Uuid} {now : OffsetDateTime}

/-- Receipts of a settlement leave the accounts of invoices alone. -/
theorem account_applyMarketplaceUsdt {transfer : VerifiedTransfer} {observed : Bool}
    (done : MarketplacePreparations.applyUsdtTransfer crypto db preparation transfer now =
      .ok (observed, db')) : account db' i = account db i := by
  rcases MarketplacePreparations.completeUsdtTransfer_ok done with rfl | stored
  · rfl
  · have write := storeTransfer_writes rfl lockReceipt_current stored
    obtain ⟨_, _, _, same, -⟩ := (storeTransfer_ok stored).resolve_left (by simp)
    cases same
    exact account_write_other (by simp [ReceiptOwner.invoiceId]) write

theorem account_activateSettlement {new : NewPayment} {window : Nat}
    (done : activateSettlement crypto db preparation new now window = .ok db') :
    account db' i = account db i := by
  obtain ⟨stored, _, _, _, _, _, done⟩ := bind₃_eq_ok.mp done
  obtain ⟨preparations, _, settlements, _, done⟩ := bind₂_eq_ok.mp done
  cases done
  rfl

end Marketplace

theorem perform_evolves {env : Environment} {db db' : Database} {action : Action}
    (grounded : ∀ i, Grounded env.crypto (account db i))
    (done : perform env db action = .ok db') (i : Uuid) :
    Evolves env (account db i) action (account db' i) := by
  cases action with
  | createInvoice new createdAt window => exact account_createInvoice grounded done
  | createProviderV2 new bitcoin createdAt deadline minimum =>
    exact account_createProviderV2 grounded done
  | prepareSettlement creatorId =>
    obtain ⟨preparations, _, done⟩ := bind_eq_ok.mp done
    cases done
    rfl
  | activateSettlement preparation new now window => exact account_activateSettlement done
  | observe input observedAt =>
    obtain ⟨hit, applied⟩ := snd_eq_ok.mp done
    exact account_applyBitcoinObservation grounded applied i
  | expireUnmatched address observedAt => exact account_expireUnmatched done i
  | expireOverdue observedAt => exact account_expireOverdue done i
  | observeMarketplace input observedAt =>
    obtain ⟨hit, applied⟩ := snd_eq_ok.mp done
    exact account_observeMarketplace applied
  | expireOverdueMarketplace observedAt =>
    obtain ⟨settlements, _, done⟩ := bind_eq_ok.mp done
    cases done
    rfl
  | reserveUsdt owner hash force dbNow =>
    obtain ⟨reserved, applied⟩ := snd_eq_ok.mp done
    exact account_reserve applied
  | applyUsdt | clearUsdt => exact account_usdtPass (perform_usdtPass done rfl)
  | applyMarketplaceUsdt preparation transfer dbNow =>
    obtain ⟨observed, applied⟩ := snd_eq_ok.mp done
    exact account_applyMarketplaceUsdt applied
  | clearMarketplaceUsdt preparation hash dbNow =>
    obtain ⟨_, _, withdrawn⟩ := bind_eq_ok.mp done
    have write : ReceiptsWrite env.crypto _ _ db'.usdtObservations.rows :=
      withdrawReceipt_writes withdrawn
    obtain ⟨_, rfl, -⟩ := withdrawReceipt_ok withdrawn
    exact account_write_other (by simp [ReceiptOwner.invoiceId]) write

section Runs

variable {env : Environment} {db db' : Database} {action : Action}

def AllCoherent (crypto : Crypto) (db : Database) : Prop := ∀ i, Coherent crypto (account db i)

theorem account_empty (i : Uuid) : account Database.empty i = Account.unopened := by
  refine Account.ext rfl rfl rfl rfl ?_ rfl rfl
  ext key
  simp [account, Database.empty, Account.unopened]

theorem AllCoherent.empty (crypto : Crypto) : AllCoherent crypto Database.empty := by
  intro i
  rw [account_empty]
  exact Coherent.unopened_account

theorem AllCoherent.evolves (coherent : AllCoherent env.crypto db)
    (done : perform env db action = .ok db') (i : Uuid) :
    Evolves env (account db i) action (account db' i) :=
  perform_evolves (fun i => (coherent i).toGrounded) done i

theorem AllCoherent.perform (coherent : AllCoherent env.crypto db)
    (done : perform env db action = .ok db') : AllCoherent env.crypto db' :=
  fun i => (coherent.evolves done i).coherent (coherent i)

theorem AllCoherent.execute_rule {P : Account → Prop} {actions : List Action} {i : Uuid}
    (coherent : AllCoherent env.crypto db)
    (step : ∀ action ∈ actions, ∀ a a', Coherent env.crypto a → Evolves env a action a' → P a →
      P a')
    (init : P (account db i)) (done : execute (PaykitServer.perform env) db actions = .ok db') :
    P (account db' i) := by
  refine (Relational.execute_rule (P := fun db => AllCoherent env.crypto db ∧ P (account db i))
    ?_ ⟨coherent, init⟩ done).2
  rintro action member db db' ⟨coherent, holds⟩ performed
  exact ⟨coherent.perform performed,
    step action member _ _ (coherent i) (coherent.evolves performed i) holds⟩

theorem reached_coherent (env : Environment) (requests : List Request) :
    AllCoherent env.crypto (reached env requests) :=
  System.run_invariant (fun _ _ _ coherent done => coherent.perform done)
    (AllCoherent.empty env.crypto)

/-- A property of the history and the account of one invoice holds throughout a
run when every step of a coherent account extends it. -/
theorem account_rule (i : Uuid) {Q : List (Transition Database Action) → Account → Prop}
    {requests : List Request} (init : Q [] Account.unopened)
    (step : ∀ history db action db', Coherent env.crypto (account db i) →
      Evolves env (account db i) action (account db' i) → Q history (account db i) →
      Q (history ++ [⟨db, action, db'⟩]) (account db' i)) :
    Q (appliedActions env requests) (account (reached env requests) i) := by
  have both : AllCoherent env.crypto (reached env requests) ∧
      Q (appliedActions env requests) (account (reached env requests) i) := by
    refine System.history_rule
      (fun history db => AllCoherent env.crypto db ∧ Q history (account db i)) ?_
      ⟨AllCoherent.empty env.crypto, by rwa [account_empty]⟩
    rintro history db action db' ⟨coherent, holds⟩ done
    exact ⟨coherent.perform done, step history db action db' (coherent i)
      (coherent.evolves done i) holds⟩
  exact both.2

theorem applied_evolves {requests : List Request} {transition : Transition Database Action}
    (member : transition ∈ appliedActions env requests) (i : Uuid) :
    Coherent env.crypto (account transition.before i) ∧
      Evolves env (account transition.before i) transition.action (account transition.after i) := by
  obtain ⟨coherent, done⟩ : AllCoherent env.crypto transition.before ∧
      PaykitServer.perform env transition.before transition.action = .ok transition.after :=
    System.history_invariant (fun _ _ _ coherent done => coherent.perform done)
      (AllCoherent.empty env.crypto) member
  exact ⟨coherent i, coherent.evolves done i⟩

end Runs

end PaykitServer.Settlement
