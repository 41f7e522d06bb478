import PaykitServer.Settlement.Simulation

/-!
# The two rails of an invoice

In every reachable state both rails of an invoice can be read: the active output
and every receipt open under the keys they are stored by. What the rails show
and what the invoice row says then agree. The Bitcoin columns are a function of
the active output alone, and an expired v1 invoice has an eligible payment on
neither rail, whatever order the writers of the row ran in.
-/

namespace PaykitServer.Settlement

open Domain Bitcoin Persistence Workers
open Relational

section Receipts

variable {env : Environment} {db db' : Database} {action : Action}

theorem perform_quiet (done : perform env db action = .ok db') (quiet : action.writer = none) :
    db'.usdtObservations = db.usdtObservations ∧
      ((∀ input observedAt, action ≠ .observe input observedAt) →
        db'.buyerContacts = db.buyerContacts) := by
  cases action with
  | createInvoice new createdAt window =>
    obtain ⟨⟨id, _⟩, inserted, done⟩ := bind_eq_ok.mp done
    cases done
    obtain ⟨_, _, rfl, -⟩ := insertInvoice_ok inserted
    exact ⟨rfl, fun _ => rfl⟩
  | createProviderV2 new bitcoin createdAt deadline minimum =>
    obtain ⟨⟨id, _⟩, inserted, done⟩ := bind_eq_ok.mp done
    obtain ⟨providers, _, done⟩ := bind_eq_ok.mp done
    cases done
    obtain ⟨_, _, rfl, -⟩ := insertInvoice_ok inserted
    exact ⟨rfl, fun _ => rfl⟩
  | activateSettlement preparation new now window =>
    obtain ⟨stored, _, _, _, _, _, done⟩ := bind₃_eq_ok.mp done
    obtain ⟨preparations, _, settlements, _, done⟩ := bind₂_eq_ok.mp done
    cases done
    exact ⟨rfl, fun _ => rfl⟩
  | observe input observedAt =>
    refine ⟨?_, fun other => absurd rfl (other input observedAt)⟩
    obtain ⟨hit, applied⟩ := snd_eq_ok.mp done
    rcases applyBitcoinObservationInTx_ok applied with ⟨-, rfl⟩ |
      ⟨invoice, destination, -, -, -, -, recorded⟩
    · rfl
    · split at recorded
      · rw [recorded]
      · exact (recordObservation_ok recorded).2.2.1
  | prepareSettlement creatorId | expireUnmatched address observedAt | expireOverdue observedAt
  | expireOverdueMarketplace observedAt =>
    obtain ⟨written, _, done⟩ := bind_eq_ok.mp done
    cases done
    exact ⟨rfl, fun _ => rfl⟩
  | observeMarketplace input observedAt =>
    obtain ⟨hit, applied⟩ := snd_eq_ok.mp done
    rcases MarketplacePreparations.applyMarketplaceObservation_ok applied with ⟨-, rfl⟩ |
      ⟨active, destination, -, -, -, -, -, recorded⟩
    · exact ⟨rfl, fun _ => rfl⟩
    · split at recorded
      · rw [recorded]
        exact ⟨rfl, fun _ => rfl⟩
      · obtain ⟨_, _, _, _, _, _, rfl, -⟩ :=
          MarketplacePreparations.recordObservation_ok recorded
        exact ⟨rfl, fun _ => rfl⟩
  | reserveUsdt | applyUsdt | clearUsdt | applyMarketplaceUsdt | clearMarketplaceUsdt => cases quiet

theorem perform_receipts (done : perform env db action = .ok db') :
    db'.usdtObservations.rows = db.usdtObservations.rows ∨
      ∃ owner, action.writer = some owner ∧ ReceiptsWrite env.crypto owner
        db.usdtObservations.rows db'.usdtObservations.rows := by
  cases action with
  | reserveUsdt owner hash force dbNow =>
    obtain ⟨reserved, applied⟩ := snd_eq_ok.mp done
    exact .inr ⟨owner, rfl, reserveReceipt_writes applied⟩
  | applyUsdt | clearUsdt =>
    cases perform_usdtPass done rfl with
    | idle => exact .inl rfl
    | projected _ _ _ _ _ _ write projects =>
      obtain ⟨_, _, _, _, _, -, -, -, -, rfl⟩ := projectPayments_ok projects
      exact .inr ⟨_, rfl, write⟩
  | applyMarketplaceUsdt preparation transfer dbNow =>
    obtain ⟨observed, applied⟩ := snd_eq_ok.mp done
    rcases MarketplacePreparations.completeUsdtTransfer_ok applied with rfl | stored
    · exact .inl rfl
    · exact .inr ⟨_, rfl, storeTransfer_writes rfl lockReceipt_current stored⟩
  | clearMarketplaceUsdt preparation hash dbNow =>
    obtain ⟨_, _, done⟩ := bind_eq_ok.mp done
    exact .inr ⟨_, rfl, withdrawReceipt_writes done⟩
  | _ => exact .inl (congrArg Table.rows (perform_quiet done rfl).1)

/-- A receipt keeps opening under its lookup column, whatever is written. -/
theorem intact_of_write {crypto : Crypto} {owner : ReceiptOwner}
    {rows rows' : List UsdtObservationRow} (write : ReceiptsWrite crypto owner rows rows')
    (intact : ReceiptsIntact crypto rows) : ReceiptsIntact crypto rows' := by
  cases write with
  | rewrite f keeps =>
    intro row' member
    obtain ⟨row, stored, rfl⟩ := List.mem_map.mp member
    rcases keeps row stored with same | ⟨-, receipt, facts | hashed⟩
    · rw [same]
      exact intact row stored
    · rw [receipt.transferLookupHash, facts]
      exact intact row stored
    · rw [receipt.transferLookupHash]
      exact hashed
  | insert new fresh owned hashed =>
    intro row member
    rcases List.mem_append.mp member with old | added
    · exact intact row old
    · obtain rfl := List.mem_singleton.mp added
      exact hashed

theorem reached_intact (env : Environment) (requests : List Request) :
    ReceiptsIntact env.crypto (reached env requests).usdtObservations.rows := by
  refine System.run_invariant
    (P := fun db : Database => ReceiptsIntact env.crypto db.usdtObservations.rows) ?_
    fun row stored => by cases stored
  intro db action db' intact done
  have performed : perform env db action = .ok db' := done
  rcases perform_receipts performed with same | ⟨owner, -, write⟩
  · rwa [same]
  · exact intact_of_write write intact

end Receipts

section Reads

variable {crypto : Crypto} {db : Database} {i : Uuid} {row : InvoiceRow}

theorem Coherent.opens (coherent : Coherent crypto (account db i))
    {stored : BitcoinObservationRow} (member : stored ∈ db.bitcoinObservations.rows)
    (own : stored.invoiceId = some i) :
    decryptObservation crypto stored = .ok stored.observation := by
  have found : db.observationByOutpoint stored.outpointLookupHash = some stored :=
    (lookup_eq_some_iff db.bitcoinObservations.valid.2.1).mpr ⟨member, rfl⟩
  obtain ⟨version, key⟩ := coherent.keyed _ _ (recorded_of_found found own)
  have checks := (db.bitcoinObservations.valid.2.2.2.2 stored member).2
  unfold decryptObservation
  rw [own] at checks ⊢
  simp only [ensure]
  rw [if_pos ⟨rfl, by simpa using checks⟩, if_pos ⟨version, key⟩]
  rfl

theorem Coherent.bitcoinPayment_eq (coherent : Coherent crypto (account db i))
    (opened : db.invoice i = some row) :
    bitcoinPayment crypto db i row.payment = .ok (account db i).bitcoin := by
  suffices readable : ∃ payment, bitcoinPayment crypto db i row.payment = .ok payment by
    obtain ⟨payment, read⟩ := readable
    rw [read, bitcoinPayment_account opened read]
  unfold bitcoinPayment
  split
  · rename_i destination observation quoted found
    have owner : observation.activeInvoice = some i := lookup_key found
    have own : observation.invoiceId = some i := by
      unfold BitcoinObservationRow.activeInvoice at owner
      split at owner
      · exact owner
      · cases owner
    rw [coherent.opens (lookup_mem found) own]
    exact ⟨_, rfl⟩
  · exact ⟨_, rfl⟩

theorem usdtRail_eq (opened : db.invoice i = some row)
    (intact : ReceiptsIntact crypto db.usdtObservations.rows) :
    usdtRail crypto db row row.payment = .ok (account db i).usdt := by
  suffices readable : ∃ selected, usdtRail crypto db row row.payment = .ok selected by
    obtain ⟨selected, read⟩ := readable
    rw [read, usdtRail_account opened read]
  unfold usdtRail
  split
  · have own : ReceiptsIntact crypto ((db.receipts row.id).filter (·.present)) := by
      intro receipt member
      exact intact receipt (List.mem_of_mem_filter (List.mem_of_mem_filter member))
    rw [usdtPayment_eq]
    dsimp only
    rw [if_pos own]
    exact ⟨_, rfl⟩
  · exact ⟨_, rfl⟩

end Reads

variable {destination : PaymentDestination}

theorem eligible_bitcoin_iff {a : Account} (quoted : a.destination = some destination) :
    a.bitcoin.eligible = true ↔ ∃ held, a.active = some held ∧
      held.present = true ∧ destination.requiredAmount ≤ held.record.observedSats ∧
      held.key ∈ a.timely := by
  unfold Account.bitcoin
  rw [quoted]
  cases active : a.active with
  | none => simp [ObservedPayment.eligible, ObservedPayment.absent]
  | some held =>
    simp only [ObservedPayment.eligible, observedBitcoin, HeldOutput.binding, Bool.and_eq_true,
      decide_eq_true_eq]
    constructor
    · rintro ⟨⟨-, present, enough⟩, timely⟩
      exact ⟨held, rfl, present, of_decide_eq_true enough, timely⟩
    · rintro ⟨_, ⟨⟩, present, enough, timely⟩
      exact ⟨⟨present, present, decide_eq_true enough⟩, timely⟩

/-- The Bitcoin columns of an invoice that is bound to an output: status, count and
amount flag. -/
def bitcoinColumns (required : Nat) : Option DirectBinding → PaymentStatus × Int × Bool
  | none => (.undetected, 0, false)
  | some binding =>
    if binding.present = false then (.undetected, 0, false)
    else
      (if binding.confirmations = 0 then .detected else .confirmed,
        if required ≤ binding.sats then min binding.confirmations 6 else binding.confirmations,
        decide (required ≤ binding.sats))

theorem observedBitcoin_columns (required : Nat) (binding : DirectBinding) (timely : Bool) :
    (bitcoinStatus (observedBitcoin required binding timely),
      (observedBitcoin required binding timely).confirmations,
      (observedBitcoin required binding timely).matched) =
      bitcoinColumns required (some binding) := by
  cases present : binding.present with
  | false => simp [bitcoinStatus, observedBitcoin, bitcoinColumns, present]
  | true =>
    have unconfirmed : min (binding.confirmations : Int) 6 = 0 ↔ binding.confirmations = 0 := by
      omega
    by_cases enough : required ≤ binding.sats
    · simp [bitcoinStatus, observedBitcoin, bitcoinColumns, present, enough, unconfirmed]
    · simp [bitcoinStatus, observedBitcoin, bitcoinColumns, present, enough]

theorem Coherent.columns {crypto : Crypto} {a : Account} (coherent : Coherent crypto a)
    {row : InvoiceRow} (opened : a.invoice = some row)
    (quoted : row.payment.bitcoin = some destination) :
    (row.paymentStatus, row.confirmationCount, row.amountMatched) =
      bitcoinColumns destination.requiredAmount (a.active.map (·.binding)) := by
  obtain ⟨status, count, matched⟩ := coherent.projected row opened
  have pays : a.destination = some destination := by
    rw [Account.destination, opened, Option.bind_some, quoted]
  rw [status, count, matched, Account.bitcoin, pays]
  cases a.active with
  | none => rfl
  | some held => exact observedBitcoin_columns _ _ _

/-- In every reachable state of a v1 invoice both rails can be read; if it is
expired, neither shows an eligible payment; and its Bitcoin columns are a function
of the active output. -/
theorem neither_rail_erases_the_other (env : Environment) (requests : List Request) (i : Uuid)
    (row : InvoiceRow) (destination : PaymentDestination)
    (opened : (reached env requests).invoice i = some row)
    (v1 : (reached env requests).providerBinding i = none)
    (quoted : row.payment.bitcoin = some destination) :
    (∃ bitcoin usdt,
      bitcoinPayment env.crypto (reached env requests) i row.payment = .ok bitcoin ∧
      usdtRail env.crypto (reached env requests) row row.payment = .ok usdt ∧
      (row.paymentExpiredAt.isSome = true →
        bitcoin.eligible = false ∧ ∀ receipt ∈ usdt, receipt.eligible = false)) ∧
    (row.paymentStatus, row.confirmationCount, row.amountMatched) =
      bitcoinColumns destination.requiredAmount
        (((reached env requests).activeObservation i).map (·.binding)) := by
  have coherent := reached_coherent env requests i
  constructor
  · refine ⟨_, _, coherent.bitcoinPayment_eq opened,
      usdtRail_eq opened (reached_intact env requests), fun expired => ?_⟩
    have unpaid := coherent.expired v1 row opened expired
    obtain ⟨bitcoin, usdt⟩ := Bool.or_eq_false_iff.mp unpaid
    refine ⟨bitcoin, fun receipt selected => ?_⟩
    rw [Option.mem_def.mp selected] at usdt
    exact usdt
  · rw [coherent.columns opened quoted]
    simp only [account, Option.map_map]
    rfl

/-- An invoice for both rails whose only receipt is late. -/
def lateReceipt : List Request :=
  [.createInvoice (Sample.payment (some ⟨"u", 5⟩)) 0 100,
    .applyUsdt 0 ⟨"transfer", 5, 200000000, 1, false, 0⟩ 200000000 200000000,
    .observationTargets 300000000]

theorem neither_rail_erases_late_receipt :
    ∃ row bitcoin usdt, (reached Sample.environment lateReceipt).invoice 0 = some row ∧
      row.paymentExpiredAt.isSome = true ∧
      bitcoinPayment Sample.environment.crypto (reached Sample.environment lateReceipt) 0
        row.payment = .ok bitcoin ∧
      usdtRail Sample.environment.crypto (reached Sample.environment lateReceipt) row
        row.payment = .ok usdt ∧
      bitcoin.eligible = false ∧ ∀ receipt ∈ usdt, receipt.eligible = false := by
  obtain ⟨row, opened, columns⟩ := Option.map_eq_some_iff.mp
    (show ((reached Sample.environment lateReceipt).invoice 0).map
        (fun row => (row.payment.bitcoin, row.paymentExpiredAt.isSome)) =
      some (some ⟨"a", 10⟩, true) by decide +kernel)
  obtain ⟨quoted, expired⟩ := Prod.mk.inj columns
  obtain ⟨⟨bitcoin, usdt, first, second, unpaid⟩, -⟩ :=
    neither_rail_erases_the_other Sample.environment lateReceipt 0 row ⟨"a", 10⟩ opened
      (by decide +kernel) quoted
  exact ⟨row, bitcoin, usdt, opened, expired, first, second, unpaid expired⟩

end PaykitServer.Settlement
