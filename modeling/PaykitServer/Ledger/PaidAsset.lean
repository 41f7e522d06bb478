import Mathlib.Data.List.Perm.Basic
import PaykitServer.Operations

/-!
# Which rail paid a Marketplace request

A status read judges each rail alone: the active Bitcoin output by what observation
recorded about it, and every present USDT receipt by itself. The rail that paid first is
the paid asset. `BitcoinPaidAt` and `UsdtPaidAt` say what counts as a payment in terms of
the stored rows and nothing else, so neither the order of the rows nor the receipt that a
read displays can matter.
-/

namespace PaykitServer

open Domain Persistence Application
open MarketplacePreparations Relational

/-- The active Bitcoin output of a request pays it in full and was recorded as on time;
this server first saw it at the given time. -/
def BitcoinPaidAt (db : Database) (preparation : Uuid) (payment : InvoicePaymentRecordV1)
    (time : OffsetDateTime) : Prop :=
  ∃ output destination, activeObservation db preparation = some output ∧
    payment.bitcoin = some destination ∧ output.present = true ∧
    destination.requiredAmount ≤ output.observation.observedSats ∧
    (preparation, output.outpointLookupHash) ∈ db.marketplaceTimely ∧ output.firstObservedAt = time

/-- One present USDT receipt of a request pays it in full, in a block of the given time
inside the payment window. -/
def UsdtPaidAt (db : Database) (preparation : Uuid) (payment : InvoicePaymentRecordV1)
    (activatedAt deadline time : OffsetDateTime) : Prop :=
  ∃ receipt ∈ db.usdtObservations.rows, ∃ destination,
    receipt.marketplacePreparationId = some preparation ∧ receipt.present = true ∧
    payment.usdt = some destination ∧ destination.requiredAmount ≤ receipt.facts.amount ∧
    OffsetDateTime.replaceNanosecondZero activatedAt ≤ receipt.facts.timestamp ∧
    receipt.facts.timestamp ≤ deadline ∧ receipt.facts.timestamp = time

/-- The same observations and receipts, stored in another order. -/
structure Reordered (db db' : Database) : Prop where
  bitcoin : db'.bitcoinObservations.rows.Perm db.bitcoinObservations.rows
  timely : db'.marketplaceTimely.Perm db.marketplaceTimely
  usdt : db'.usdtObservations.rows.Perm db.usdtObservations.rows
  others : db' = { db with
    bitcoinObservations := db'.bitcoinObservations
    marketplaceTimely := db'.marketplaceTimely
    usdtObservations := db'.usdtObservations }

section Rails

variable {crypto : Crypto} {db db' : Database} {preparation : Uuid}
  {payment : InvoicePaymentRecordV1} {activatedAt deadline : OffsetDateTime}

theorem statusBitcoinRail_paid {bitcoin : Option MarketplaceBitcoinStatus} {time : OffsetDateTime}
    (read : statusBitcoinRail crypto db preparation payment activatedAt = .ok bitcoin) :
    (bitcoin.filter (·.paidOnTime)).map (·.firstObservedAt) = some time ↔
      BitcoinPaidAt db preparation payment time := by
  unfold statusBitcoinRail at read
  split at read
  · obtain ⟨required, amount, read⟩ := bind_eq_ok.mp read
    obtain ⟨_, _, destination, offered, amount⟩ := bind₂_eq_ok.mp amount
    cases amount
    have offered := demand_eq_ok.mp offered
    unfold statusBitcoin at read
    unfold BitcoinPaidAt
    split at read
    · rename_i absent
      cases read
      simp [absent]
    · rename_i row found
      obtain ⟨observation, opened, read⟩ := bind_eq_ok.mp read
      obtain ⟨_, _, opened⟩ := bind_eq_ok.mp opened
      cases opened
      obtain ⟨_, _, read⟩ := bind_eq_ok.mp read
      cases read
      simp [found, offered, and_assoc]
  · rename_i unoffered
    obtain ⟨_, _, read⟩ := bind_eq_ok.mp read
    cases read
    have none : payment.bitcoin = none := by simpa using unoffered
    simp [BitcoinPaidAt, none]

theorem firstQualifyingAt_eq_none {receipts : List MarketplaceUsdtStatus} :
    firstQualifyingAt receipts = none ↔ ∀ status ∈ receipts, status.paidOnTime = false := by
  simp [firstQualifyingAt]

theorem shown_iff_paid {destination : PaymentDestination} {receipts : List MarketplaceUsdtStatus}
    {time : OffsetDateTime} (offered : payment.usdt = some destination)
    (shown : List.Forall₂ (fun row status =>
      receiptStatus crypto destination.requiredAmount activatedAt deadline row = .ok status)
      (presentReceipts db preparation) receipts) :
    (∃ status ∈ receipts, status.paidOnTime = true ∧ status.observedAt = time) ↔
      UsdtPaidAt db preparation payment activatedAt deadline time := by
  constructor
  · rintro ⟨status, member, paid, rfl⟩
    obtain ⟨row, stored, read⟩ := forall₂_mem_right shown member
    obtain ⟨-, -, at_, pays⟩ := receiptStatus_ok read
    obtain ⟨stored, own⟩ := List.mem_filter.mp stored
    simp only [Bool.and_eq_true, decide_eq_true_eq] at own
    obtain ⟨full, opens, closes⟩ := pays.mp paid
    exact ⟨row, stored, destination, own.1, own.2, offered, full, opens, closes, at_.symm⟩
  · rintro ⟨row, stored, other, own, present, offered', full, opens, closes, rfl⟩
    obtain rfl := Option.some.inj (offered.symm.trans offered')
    have listed : row ∈ presentReceipts db preparation :=
      List.mem_filter.mpr ⟨stored, by simp [own, present]⟩
    obtain ⟨status, member, read⟩ := forall₂_mem_left shown listed
    obtain ⟨-, -, at_, pays⟩ := receiptStatus_ok read
    exact ⟨status, member, pays.mpr ⟨full, opens, closes⟩, at_⟩

theorem statusUsdt_paid {usdt : Option MarketplaceUsdtStatus} {first : Option OffsetDateTime}
    (read : statusUsdt crypto db preparation payment activatedAt deadline = .ok (usdt, first)) :
    (∀ time, first = some time ↔ UsdtPaidAt db preparation payment activatedAt deadline time ∧
      ∀ other, UsdtPaidAt db preparation payment activatedAt deadline other → time ≤ other) ∧
    (first = none ↔ ∀ time, ¬ UsdtPaidAt db preparation payment activatedAt deadline time) := by
  obtain ⟨destination, receipts, offered, shown, -, rfl⟩ | ⟨unoffered, -, -, rfl⟩ :=
    statusUsdt_ok read
  · constructor
    · intro time
      rw [firstQualifyingAt_eq_some, shown_iff_paid offered shown]
      refine and_congr_right fun _ => ⟨fun least other paid => ?_, fun least status member paid => ?_⟩
      · obtain ⟨status, member, qualifies, same⟩ := (shown_iff_paid offered shown).mpr paid
        exact same ▸ least status member qualifies
      · exact least _ ((shown_iff_paid offered shown).mp ⟨status, member, paid, rfl⟩)
    · rw [firstQualifyingAt_eq_none]
      constructor
      · intro none time paid
        obtain ⟨status, member, paid, -⟩ := (shown_iff_paid offered shown).mpr paid
        rw [none status member] at paid
        cases paid
      · intro none status member
        refine Bool.eq_false_iff.mpr fun paid => none status.observedAt ?_
        exact (shown_iff_paid offered shown).mp ⟨status, member, paid, rfl⟩
  · simp [UsdtPaidAt, unoffered]

theorem activeObservation_reordered (reordered : Reordered db db') :
    activeObservation db' preparation = activeObservation db preparation :=
  lookup_perm db.bitcoinObservations.valid.2.2.2.1 db'.bitcoinObservations.valid.2.2.2.1
    reordered.bitcoin

theorem statusBitcoinRail_reordered (reordered : Reordered db db') :
    statusBitcoinRail crypto db' preparation payment activatedAt =
      statusBitcoinRail crypto db preparation payment activatedAt := by
  have timely : ∀ key, db'.marketplaceTimely.contains key = db.marketplaceTimely.contains key := by
    intro key
    rw [Bool.eq_iff_iff, List.contains_iff_mem, List.contains_iff_mem, reordered.timely.mem_iff]
  simp only [statusBitcoinRail, statusBitcoin, activeObservation_reordered reordered, timely]

/-- The USDT rail can be read whatever the order, and its earliest payment is the same. -/
theorem statusUsdt_reordered (reordered : Reordered db db') {usdt : Option MarketplaceUsdtStatus}
    {first : Option OffsetDateTime}
    (read : statusUsdt crypto db preparation payment activatedAt deadline = .ok (usdt, first)) :
    ∃ usdt', statusUsdt crypto db' preparation payment activatedAt deadline =
      .ok (usdt', first) := by
  have perm : (presentReceipts db' preparation).Perm (presentReceipts db preparation) :=
    reordered.usdt.filter _
  unfold statusUsdt at read ⊢
  dsimp only at read ⊢
  split at read
  · rename_i offered
    rw [if_pos offered]
    obtain ⟨required, amount, receipts, shown, read⟩ := bind₂_eq_ok.mp read
    cases read
    obtain ⟨receipts', shown', same⟩ := List.perm_comp_forall₂ perm (mapM_eq_ok.mp shown)
    have earliest : firstQualifyingAt receipts' = firstQualifyingAt receipts := by
      apply Option.ext
      intro time
      simp only [firstQualifyingAt_eq_some, same.mem_iff]
    refine ⟨selectedReceipt receipts', bind_eq_ok.mpr ⟨required, amount, ?_⟩⟩
    refine bind_eq_ok.mpr ⟨receipts', mapM_eq_ok.mpr shown', ?_⟩
    rw [earliest]
    rfl
  · rename_i unoffered
    rw [if_neg unoffered]
    obtain ⟨_, none, read⟩ := bind_eq_ok.mp read
    cases read
    refine ⟨_, bind_eq_ok.mpr ⟨(), ensure_eq_ok.mpr ?_, rfl⟩⟩
    have none : presentReceipts db preparation = [] := ensure_eq_ok.mp none
    rw [none] at perm
    exact perm.eq_nil

end Rails

section PaidAsset

variable {bitcoin : Option MarketplaceBitcoinStatus} {usdtAt : Option OffsetDateTime}

theorem paidAsset_eq_btc : paidAsset bitcoin usdtAt = some .btc ↔
    ∃ time, (bitcoin.filter (·.paidOnTime)).map (·.firstObservedAt) = some time ∧
      ∀ other ∈ usdtAt, time ≤ other := by
  unfold paidAsset
  cases (bitcoin.filter (·.paidOnTime)).map (·.firstObservedAt) <;> cases usdtAt <;> simp

theorem paidAsset_eq_usdt : paidAsset bitcoin usdtAt = some .usdt ↔
    ∃ time, usdtAt = some time ∧ ∀ other,
      (bitcoin.filter (·.paidOnTime)).map (·.firstObservedAt) = some other → time < other := by
  unfold paidAsset
  cases (bitcoin.filter (·.paidOnTime)).map (·.firstObservedAt) <;> cases usdtAt <;> simp

theorem paidAsset_isSome : (paidAsset bitcoin usdtAt).isSome ↔
    (∃ time, (bitcoin.filter (·.paidOnTime)).map (·.firstObservedAt) = some time) ∨
      ∃ time, usdtAt = some time := by
  unfold paidAsset
  cases (bitcoin.filter (·.paidOnTime)).map (·.firstObservedAt) <;> cases usdtAt <;> simp
  split <;> rfl

end PaidAsset

/-- What a status read of an active request reports of its rails. -/
structure ReportsRails (crypto : Crypto) (store : Store) (row : Preparation)
    (status : MarketplaceInvoiceStatus) (stored : SettlementRow) (opens closes : OffsetDateTime)
    (bitcoin : Option MarketplaceBitcoinStatus) (usdt : Option MarketplaceUsdtStatus)
    (first : Option OffsetDateTime) : Prop where
  settlement : settlement store.db row.id = some stored
  activatedAt : status.activatedAt = some opens
  deadline : status.paymentDeadline = some closes
  bitcoinRail : statusBitcoinRail crypto store.db row.id stored.payment opens = .ok bitcoin
  usdtRail : statusUsdt crypto store.db row.id stored.payment opens closes = .ok (usdt, first)
  paidAsset : status.paidAsset = paidAsset bitcoin first
  paymentState : status.paymentState = some (marketplacePaymentState store.clock closes
    (projectedStatus bitcoin) bitcoin usdt status.paidAsset)

section Read

variable {crypto : Crypto} {sdk : Sdk} {store : Store} {creator : CreatorRow} {row : Preparation}
  {quote : MarketplaceQuote} {status : MarketplaceInvoiceStatus}

theorem activeStatus_ok (read : activeStatus crypto sdk store creator row quote = .ok status) :
    ∃ stored opens closes bitcoin usdt first,
      ReportsRails crypto store row status stored opens closes bitcoin usdt first := by
  obtain ⟨activatedAt, _, deadline, _, stored, found, read⟩ := bind₃_eq_ok.mp read
  obtain ⟨_, _, _, _, _, _, read⟩ := bind₃_eq_ok.mp read
  obtain ⟨_, _, bitcoin, bitcoinRead, _, _, read⟩ := bind₃_eq_ok.mp read
  obtain ⟨⟨usdt, first⟩, usdtRead, read⟩ := bind_eq_ok.mp read
  cases read
  exact ⟨stored, activatedAt, deadline, bitcoin, usdt, first,
    (Option.filter_eq_some_iff.mp (demand_eq_ok.mp found)).1, rfl, rfl, bitcoinRead, usdtRead, rfl,
    rfl⟩

/-- A request can be read whatever the order of its observations and receipts, and the
paid asset is the same. -/
theorem activeStatus_reordered {db : Database} (reordered : Reordered store.db db)
    (read : activeStatus crypto sdk store creator row quote = .ok status) :
    ∃ status', activeStatus crypto sdk { store with db := db } creator row quote = .ok status' ∧
      status'.paidAsset = status.paidAsset := by
  have settlements : settlement db row.id = settlement store.db row.id := by
    rw [reordered.others]
    rfl
  obtain ⟨activatedAt, activated, deadline, due, stored, found, read⟩ := bind₃_eq_ok.mp read
  obtain ⟨_, checked, expected, rebuilt, _, same, read⟩ := bind₃_eq_ok.mp read
  obtain ⟨proposal, proposed, bitcoin, bitcoinRead, _, projected, read⟩ := bind₃_eq_ok.mp read
  obtain ⟨⟨usdt, first⟩, usdtRead, read⟩ := bind_eq_ok.mp read
  obtain ⟨usdt', usdtRead'⟩ := statusUsdt_reordered reordered usdtRead
  refine ⟨{ status with
    usdtArbitrum := usdt'
    paymentState := some (marketplacePaymentState store.clock deadline (projectedStatus bitcoin)
      bitcoin usdt' (paidAsset bitcoin first)) }, ?_, rfl⟩
  cases read
  refine bind_eq_ok.mpr ⟨activatedAt, activated, bind_eq_ok.mpr ⟨deadline, due, ?_⟩⟩
  refine bind_eq_ok.mpr ⟨stored, settlements ▸ found, bind_eq_ok.mpr ⟨(), checked, ?_⟩⟩
  refine bind_eq_ok.mpr ⟨expected, rebuilt, bind_eq_ok.mpr ⟨(), same, ?_⟩⟩
  refine bind_eq_ok.mpr ⟨proposal, proposed, ?_⟩
  refine bind_eq_ok.mpr ⟨bitcoin, (statusBitcoinRail_reordered reordered).trans bitcoinRead, ?_⟩
  exact bind_eq_ok.mpr ⟨(), projected, bind_eq_ok.mpr ⟨(usdt', first), usdtRead', rfl⟩⟩

end Read

section Snapshot

variable {crypto : Crypto} {sdk : Sdk} {store : Store} {creator : String} {invoiceId : Uuid}
  {status : MarketplaceInvoiceStatus}

theorem inactiveStatus_state {row : Preparation} {quote : MarketplaceQuote}
    (read : inactiveStatus store row quote = .ok status) : status.state = row.state := by
  obtain ⟨_, _, read⟩ := bind_eq_ok.mp read
  cases read
  rfl

/-- A status read of an active request reads its settlement, and could as well have found
the observations and receipts in another order. -/
theorem statusSnapshot_active
    (read : statusSnapshot crypto sdk store creator invoiceId = .ok (some status))
    (active : status.state = .active) :
    ∃ owner row quote, row.id = invoiceId ∧
      activeStatus crypto sdk store owner row quote = .ok status ∧
      ∀ db status', activeStatus crypto sdk { store with db := db } owner row quote = .ok status' →
        statusSnapshot crypto sdk { store with db := db } creator invoiceId = .ok (some status') := by
  unfold statusSnapshot at read
  split at read
  · cases read
  rename_i owner row loaded
  obtain ⟨envelope, opened, quote, quoted, _, checked, read⟩ := bind₃_eq_ok.mp read
  have found := (loadLifecycleLocked_some loaded).2.1
  cases state : row.state with
  | prepared | voided =>
    rw [state] at read
    obtain ⟨_, shown, read⟩ := bind_eq_ok.mp read
    cases read
    rw [inactiveStatus_state shown, state] at active
    cases active
  | active =>
    rw [state] at read
    obtain ⟨_, shown, read⟩ := bind_eq_ok.mp read
    cases read
    refine ⟨owner, row, quote, Store.preparation_id found, shown, fun db status' shown' => ?_⟩
    have loaded' : loadLifecycleLocked crypto { store with db := db } creator invoiceId =
        some (owner, row) := loaded
    unfold statusSnapshot
    rw [loaded']
    refine bind_eq_ok.mpr ⟨envelope, opened, bind_eq_ok.mpr ⟨quote, quoted, ?_⟩⟩
    refine bind_eq_ok.mpr ⟨(), checked, ?_⟩
    rw [state]
    exact bind_eq_ok.mpr ⟨status', shown', rfl⟩

end Snapshot

theorem expired_iff_unpaid {now deadline : OffsetDateTime} {projected : PaymentStatus}
    {bitcoin : Option MarketplaceBitcoinStatus} {usdt : Option MarketplaceUsdtStatus}
    {paid : Option AcceptedAsset} (late : deadline < now) :
    marketplacePaymentState now deadline projected bitcoin usdt paid = .expired ↔ paid = none := by
  unfold marketplacePaymentState
  cases paid with
  | none => simp [late]
  | some asset =>
    simp only [Option.isNone_some, Bool.and_false, Bool.false_eq_true, if_false, reduceCtorEq,
      iff_false]
    split
    · exact MarketplacePaymentState.noConfusion
    · split <;> exact MarketplacePaymentState.noConfusion

def Earliest (P : OffsetDateTime → Prop) (first : Option OffsetDateTime) : Prop :=
  (∀ time, first = some time ↔ P time ∧ ∀ other, P other → time ≤ other) ∧
    (first = none ↔ ∀ time, ¬ P time)

theorem Earliest.exists_iff {P : OffsetDateTime → Prop} {first : Option OffsetDateTime}
    (earliest : Earliest P first) : (∃ time, first = some time) ↔ ∃ time, P time := by
  rw [← Option.ne_none_iff_exists', ne_eq, earliest.2, not_forall_not]

theorem Earliest.le_iff {P : OffsetDateTime → Prop} {first : Option OffsetDateTime}
    (earliest : Earliest P first) {time : OffsetDateTime} :
    (∀ other ∈ first, time ≤ other) ↔ ∀ other, P other → time ≤ other := by
  constructor
  · intro before other paid
    obtain ⟨least, found⟩ := earliest.exists_iff.mpr ⟨other, paid⟩
    exact (before least found).trans (((earliest.1 least).mp found).2 other paid)
  · intro before other found
    exact before other ((earliest.1 other).mp found).1

theorem Earliest.lt_iff {P Q : OffsetDateTime → Prop} {first : Option OffsetDateTime}
    (earliest : Earliest P first) :
    (∃ time, first = some time ∧ ∀ other, Q other → time < other) ↔
      ∃ time, P time ∧ ∀ other, Q other → time < other := by
  constructor
  · rintro ⟨time, found, before⟩
    exact ⟨time, ((earliest.1 time).mp found).1, before⟩
  · rintro ⟨time, paid, before⟩
    obtain ⟨least, found⟩ := earliest.exists_iff.mpr ⟨time, paid⟩
    refine ⟨least, found, fun other later => ?_⟩
    exact lt_of_le_of_lt (((earliest.1 least).mp found).2 time paid) (before other later)

/-- A status read of an active request reports a paid asset exactly when a rail paid on its
own: the active Bitcoin output, present, in full and recorded as on time, or one present
USDT receipt in full inside the payment window. It names the rail that paid first, Bitcoin
on a tie, whatever the order of the rows; and after the deadline the request is expired
exactly when no rail paid. -/
theorem paid_asset_is_first_payment (crypto : Crypto) (sdk : Sdk) (store : Store)
    (creator : String) (invoiceId : Uuid) (status : MarketplaceInvoiceStatus)
    (read : statusSnapshot crypto sdk store creator invoiceId = .ok (some status))
    (active : status.state = .active) :
    ∃ stored activatedAt deadline, settlement store.db invoiceId = some stored ∧
      status.activatedAt = some activatedAt ∧ status.paymentDeadline = some deadline ∧
      (status.paidAsset.isSome ↔ (∃ time, BitcoinPaidAt store.db invoiceId stored.payment time) ∨
        ∃ time, UsdtPaidAt store.db invoiceId stored.payment activatedAt deadline time) ∧
      (status.paidAsset = some .btc ↔ ∃ time,
        BitcoinPaidAt store.db invoiceId stored.payment time ∧ ∀ other,
          UsdtPaidAt store.db invoiceId stored.payment activatedAt deadline other → time ≤ other) ∧
      (status.paidAsset = some .usdt ↔ ∃ time,
        UsdtPaidAt store.db invoiceId stored.payment activatedAt deadline time ∧ ∀ other,
          BitcoinPaidAt store.db invoiceId stored.payment other → time < other) ∧
      (deadline < store.clock →
        (status.paymentState = some .expired ↔ status.paidAsset = none)) ∧
      ∀ db, Reordered store.db db → ∃ status',
        statusSnapshot crypto sdk { store with db := db } creator invoiceId = .ok (some status') ∧
          status'.paidAsset = status.paidAsset := by
  obtain ⟨owner, row, quote, rfl, shown, again⟩ := statusSnapshot_active read active
  obtain ⟨stored, opens, closes, bitcoin, usdt, first, reports⟩ := activeStatus_ok shown
  have bitcoinPaid : ∀ time, _ ↔ BitcoinPaidAt store.db row.id stored.payment time :=
    fun time => @statusBitcoinRail_paid _ _ _ _ _ _ time reports.bitcoinRail
  have earliest : Earliest (UsdtPaidAt store.db row.id stored.payment opens closes) first :=
    statusUsdt_paid reports.usdtRail
  refine ⟨stored, opens, closes, reports.settlement, reports.activatedAt, reports.deadline,
    ?_, ?_, ?_, ?_, ?_⟩
  · rw [reports.paidAsset, paidAsset_isSome, earliest.exists_iff]
    simp only [bitcoinPaid]
  · rw [reports.paidAsset, paidAsset_eq_btc]
    simp only [bitcoinPaid, earliest.le_iff]
  · rw [reports.paidAsset, paidAsset_eq_usdt]
    simp only [bitcoinPaid]
    exact earliest.lt_iff
  · intro late
    rw [reports.paymentState, Option.some.injEq]
    exact expired_iff_unpaid late
  · intro db reordered
    obtain ⟨status', shown', same⟩ := activeStatus_reordered reordered shown
    exact ⟨status', again db status' shown', same⟩

namespace Sample

/-- An order for 10 sats, paid by one confirmed output before its deadline. -/
def paidOrder : List Operation :=
  [.createCreator (credentials "xpub"),
    .prepare ⟨"creator", "reader", "reference", "order", utf8 "order", 10, .btc, 100, 60, none,
      payloads⟩ (some 0),
    .activate ⟨"creator", 1, 10, .btc, 60⟩,
    .observe (.observeMarketplaceOnce [⟨"a", none⟩] [output 0 10 1]),
    .tick (200 * 1000000)]

end Sample

/-- The order stays paid after its deadline, by the output that paid it. -/
theorem paid_order_stays_paid : ∃ status stored time,
    statusSnapshot Sample.deployment.crypto Sample.deployment.sdk
      (storeAfter Sample.deployment 0 Sample.paidOrder) "creator" 1 = .ok (some status) ∧
    status.state = .active ∧ status.paymentState = some .confirmed ∧
    settlement (storeAfter Sample.deployment 0 Sample.paidOrder).db 1 = some stored ∧
    BitcoinPaidAt (storeAfter Sample.deployment 0 Sample.paidOrder).db 1 stored.payment time := by
  have shown : (statusSnapshot Sample.deployment.crypto Sample.deployment.sdk
      (storeAfter Sample.deployment 0 Sample.paidOrder) "creator" 1).toOption.join.map
        (fun status => (status.state, status.paymentState, status.paidAsset)) =
      some (.active, some .confirmed, some .btc) := by
    decide +kernel
  obtain ⟨status, found, fields⟩ := Option.map_eq_some_iff.mp shown
  obtain ⟨state, paymentState, paid⟩ : status.state = .active ∧
      status.paymentState = some .confirmed ∧ status.paidAsset = some .btc := by
    simpa using fields
  have read := eq_ok_of_toOption (Option.join_eq_some_iff.mp found)
  obtain ⟨stored, _, _, settled, -, -, -, btc, -⟩ :=
    paid_asset_is_first_payment _ _ _ _ _ status read state
  obtain ⟨time, paidAt, -⟩ := btc.mp paid
  exact ⟨status, stored, time, read, state, paymentState, settled, paidAt⟩

end PaykitServer
