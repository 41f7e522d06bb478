import PaykitServer.Ledger.Generations
import PaykitServer.Paykit.BuyerContacts

/-!
# Contacts are saved for paying buyers, and once

A work record is written only by the projection of an invoice that has an eligible payment,
one for every creator and buyer, and is never removed. An attempt inserts a contact only
while it holds the creator's lock and after it found its record open under that lock; since
only the holder completes the creator's records, the record is still open. So whoever comes
later finds it completed, whatever claim it holds, and leaves the shared state alone.
-/

namespace PaykitServer

open Domain Bitcoin Persistence Application
open Persistence.Invoices Paykit Workers Relational

section Records

variable {crypto : Crypto} {env : Environment} {db db' : Database}

/-- A stored invoice that one of its rails shows as paid, in full and in time. -/
def EligiblePayment (crypto : Crypto) (db : Database) (invoice : InvoiceRow) : Prop :=
  db.invoice invoice.id = some invoice ∧ ∃ bitcoin usdt,
    bitcoinPayment crypto db invoice.id invoice.payment = .ok bitcoin ∧
      usdtRail crypto db invoice invoice.payment = .ok usdt ∧ anyEligible bitcoin usdt = true

def workRecord (invoice : InvoiceRow) : BuyerContactRow :=
  ⟨invoice.id, invoice.creatorId, invoice.readerLookupHash⟩

/-- What an action does to the work records: nothing, or it adds one for an invoice that it
leaves with an eligible payment. -/
inductive RecordsWrite (crypto : Crypto) (db db' : Database) : Prop where
  | kept (same : db'.buyerContacts = db.buyerContacts)
  | added (invoice : InvoiceRow) (eligible : EligiblePayment crypto db' invoice)
      (rows : db'.buyerContacts.rows = db.buyerContacts.rows ++ [workRecord invoice])

theorem projectPayments_records {before : Database} {id : Uuid} {payment : InvoicePaymentRecordV1}
    {now : OffsetDateTime} (done : projectPayments crypto db id payment now = .ok db')
    (unwritten : db.buyerContacts = before.buyerContacts)
    (quoted : ∀ row, db.invoice id = some row → row.payment = payment) :
    RecordsWrite crypto before db' := by
  obtain ⟨row, found, bitcoin, readBitcoin, usdt, readUsdt, done⟩ := bind₃_eq_ok.mp done
  obtain ⟨invoices, written, done⟩ := bind_eq_ok.mp done
  have found := demand_eq_ok.mp found
  have key := lookup_key found
  have key : row.id = id := Option.some.inj key
  have same := quoted row found
  split at done
  case isFalse =>
    cases done
    exact .kept unwritten
  case isTrue eligible =>
    obtain ⟨contacts, inserted, done⟩ := bind_eq_ok.mp done
    cases done
    have stored := Table.write_eq_ok.mp inserted
    unfold insertNew at stored
    split at stored
    · exact .kept ((Table.ext stored).trans unwritten)
    · rw [← same, ← key] at readBitcoin
      rw [← same] at readUsdt
      refine .added (row.project bitcoin usdt now) ⟨?_, bitcoin, usdt, readBitcoin, readUsdt,
        eligible⟩ (unwritten ▸ stored)
      have found : lookup (fun row => some row.id) row.id db.invoices.rows = some row := key ▸ found
      have projected := congrArg (lookup (fun row => some row.id) row.id)
        (Table.write_eq_ok.mp written)
      rw [lookup_updateWhere, found, Option.map_some, if_pos (decide_eq_true key)] at projected
      · exact projected
      · exact fun _ _ => rfl

theorem EligiblePayment.samples {invoice : InvoiceRow}
    {samples : Table CurrentSampleRow CurrentSampleConstraints}
    {evidences : Table ThresholdEvidenceRow ThresholdEvidenceConstraints}
    (eligible : EligiblePayment crypto db invoice) :
    EligiblePayment crypto
      { db with currentSamples := samples, thresholdEvidence := evidences } invoice :=
  eligible

theorem storeInvoiceObservation_quotes {invoice : InvoiceRow} {required : Nat}
    {input : BitcoinObservationInput} {outpointHash : LookupHash} {observedAt : OffsetDateTime}
    {replace : Bool} {observationId : Uuid} (found : db.invoice invoice.id = some invoice)
    (done : storeInvoiceObservation db invoice required input outpointHash observedAt replace =
      .ok (observationId, db')) :
    ∀ row, db'.invoice invoice.id = some row → row.payment = invoice.payment := by
  obtain ⟨_, _, invoices, _, rfl, -, -, -, rows, -⟩ := storeInvoiceObservation_ok done
  intro row stored
  have stored : lookup (fun row => some row.id) invoice.id invoices.rows = some row := stored
  have found : lookup (fun row => some row.id) invoice.id db.invoices.rows = some invoice := found
  rw [rows] at stored
  split at stored
  · rw [lookup_updateWhere, found, Option.map_some, if_pos (decide_eq_true rfl)] at stored
    · cases stored
      rfl
    · exact fun _ _ => rfl
  · rw [found] at stored
    cases stored
    rfl

theorem recordObservation_records {invoice : InvoiceRow} {required : Nat}
    {input : BitcoinObservationInput} {outpointHash : LookupHash} {observedAt : OffsetDateTime}
    {replace : Bool} (found : db.invoice invoice.id = some invoice)
    (done : recordObservation crypto db invoice required input outpointHash observedAt replace =
      .ok db') :
    RecordsWrite crypto db db' := by
  obtain ⟨⟨id, mid⟩, stored, done⟩ := bind_eq_ok.mp done
  obtain ⟨projected, projects, done⟩ := bind_eq_ok.mp done
  have unwritten : mid.buyerContacts = db.buyerContacts := by
    obtain ⟨_, _, _, _, rfl, -⟩ := storeInvoiceObservation_ok stored
    rfl
  have write := projectPayments_records projects unwritten
    (storeInvoiceObservation_quotes found stored)
  obtain ⟨_, _, rfl, -⟩ := projectProviderV2Sample_ok done
  cases write with
  | kept same => exact .kept same
  | added invoice eligible rows => exact .added invoice eligible.samples rows

theorem perform_records {action : Action} (done : perform env db action = .ok db') :
    RecordsWrite env.crypto db db' := by
  cases action with
  | observe input observedAt =>
    obtain ⟨hit, applied⟩ := snd_eq_ok.mp done
    obtain ⟨-, rfl⟩ | ⟨invoice, destination, found, -, -, -, recorded⟩ :=
      applyBitcoinObservationInTx_ok applied
    · exact .kept rfl
    · have own : db.invoice invoice.id = some invoice :=
        (lookup_eq_some_iff db.invoices.valid.1).mpr ⟨lookup_mem found, rfl⟩
      split at recorded
      · rw [recorded]
        exact .kept rfl
      · exact recordObservation_records own recorded
  | reserveUsdt owner hash force dbNow =>
    obtain ⟨reserved, applied⟩ := snd_eq_ok.mp done
    obtain ⟨receipts, rfl, -⟩ := reserveReceipt_ok applied
    exact .kept rfl
  | applyUsdt | clearUsdt =>
    cases perform_usdtPass done rfl with
    | idle => exact .kept rfl
    | projected row _ _ found _ _ _ projects =>
      exact projectPayments_records projects rfl
        fun row' found' => by rw [Option.some.inj (found'.symm.trans found)]
  | applyMarketplaceUsdt preparation transfer dbNow =>
    obtain ⟨observed, applied⟩ := snd_eq_ok.mp done
    obtain rfl | stored := MarketplacePreparations.completeUsdtTransfer_ok applied
    · exact .kept rfl
    · obtain ⟨_, receipts, next, same, -⟩ := (storeTransfer_ok stored).resolve_left (by simp)
      cases same
      exact .kept rfl
  | clearMarketplaceUsdt preparation hash dbNow =>
    obtain ⟨_, _, withdrawn⟩ := bind_eq_ok.mp done
    obtain ⟨receipts, rfl, -⟩ := withdrawReceipt_ok withdrawn
    exact .kept rfl
  | _ => exact .kept ((Settlement.perform_quiet done rfl).2 fun _ _ same => by cases same)

/-- Somewhere in the transaction of an observation an invoice had an eligible payment. -/
def ShowsPaid (d : Deployment) (store : Store) (observation : Observation)
    (invoice : InvoiceRow) : Prop :=
  ∃ step ∈ transitions (perform d.toEnvironment) store.db
    (observation.actions d.toEnvironment store), EligiblePayment d.crypto step.after invoice

/-- The work records after some actions: those before, and those of invoices that were
paid after one of the actions. -/
structure RecordsSince (crypto : Crypto) (db : Database) (history : List (Transition Database Action))
    (db' : Database) : Prop where
  kept : ∀ row ∈ db.buyerContacts.rows, row ∈ db'.buyerContacts.rows
  paid : ∀ row ∈ db'.buyerContacts.rows, row ∈ db.buyerContacts.rows ∨
    ∃ step ∈ history, ∃ invoice, EligiblePayment crypto step.after invoice ∧ row = workRecord invoice

theorem RecordsSince.step {history : List (Transition Database Action)} {mid : Database}
    {action : Action} (since : RecordsSince crypto db history mid)
    (write : RecordsWrite crypto mid db') :
    RecordsSince crypto db (history ++ [⟨mid, action, db'⟩]) db' := by
  have earlier : ∀ row ∈ mid.buyerContacts.rows, row ∈ db.buyerContacts.rows ∨
      ∃ step ∈ history ++ [⟨mid, action, db'⟩], ∃ invoice,
        EligiblePayment crypto step.after invoice ∧ row = workRecord invoice := by
    intro row stored
    obtain old | ⟨step, member, paid⟩ := since.paid row stored
    · exact .inl old
    · exact .inr ⟨step, List.mem_append_left _ member, paid⟩
  cases write with
  | kept same =>
    rw [← same] at earlier
    exact ⟨fun row stored => same ▸ since.kept row stored, earlier⟩
  | added invoice eligible rows =>
    constructor
    · intro row stored
      rw [rows]
      exact List.mem_append_left _ (since.kept row stored)
    · intro row stored
      rw [rows, List.mem_append] at stored
      obtain old | new := stored
      · exact earlier row old
      · exact .inr ⟨_, List.mem_append_right _ (.head _), invoice, eligible,
          List.mem_singleton.mp new⟩

/-- A transaction keeps the work records and adds those of invoices it finds paid. -/
theorem execute_records {actions : List Action}
    (done : execute (perform env) db actions = .ok db') :
    RecordsSince env.crypto db (transitions (perform env) db actions) db' := by
  have since : RecordsSince env.crypto db ([] ++ transitions (perform env) db actions) db' :=
    transitions_rule (fun _ _ _ _ since performed => since.step (perform_records performed))
      ⟨fun _ => id, fun _ => .inl⟩ done
  exact since

variable {d : Deployment} {store store' : Store} {operation : Operation}

theorem operate_records (done : operate d store operation = .ok store') :
    (∀ row ∈ store.db.buyerContacts.rows, row ∈ store'.db.buyerContacts.rows) ∧
      ∀ row ∈ store'.db.buyerContacts.rows, row ∈ store.db.buyerContacts.rows ∨
        ∃ observation invoice, operation = .observe observation ∧
          ShowsPaid d store observation invoice ∧ row = workRecord invoice := by
  have effect := operate_effect done
  cases effect with
  | observed observation db executed =>
    have since := execute_records executed
    refine ⟨since.kept, ?_⟩
    intro row stored
    obtain old | ⟨step, member, invoice, eligible, record⟩ := since.paid row stored
    · exact .inl old
    · exact .inr ⟨observation, invoice, rfl, ⟨step, member, eligible⟩, record⟩
  | _ => exact ⟨fun _ => id, fun _ => .inl⟩

end Records

/-- The creator's own applications act on the shared state. -/
def Paykit.Event.isEdit : Event → Bool
  | .edit _ _ => true
  | _ => false

section Attempts

variable {d : ContactDeployment} {node node' : Node} {event : Event}

/-- What an event does. Every step of an attempt is one of these; a step that fails ends
the attempt like a crash. -/
inductive Occurs (d : ContactDeployment) (node : Node) : Event → Node → Prop where
  | operated (operation : Operation) : Occurs d node (.operate operation)
      { node with store := (ledger d.toDeployment).commit node.store operation }
  | deferred (worker : Nat) (taken : Uuid) (row : BuyerContactRow)
      (found : contactRecord node.store.db taken = some row) :
      Occurs d node (.claim worker taken) { node with
        schedules := Function.update node.schedules row.invoiceId
          { node.schedules row.invoiceId with
            nextAttemptAt := some (node.store.clock + seconds 60) } }
  | claimed (worker : Nat) (taken : Uuid) (row : BuyerContactRow) (pending : PendingBuyerContact)
      (free : node.attempts worker = .idle)
      (found : contactRecord node.store.db taken = some row)
      (decoded : decodeContact d.crypto d.sdk node.store row = .ok (some pending)) :
      Occurs d node (.claim worker taken) ({ node with
        schedules := Function.update node.schedules row.invoiceId
          { node.schedules row.invoiceId with
            nextAttemptAt := some (node.store.clock + seconds 60) } }.enter worker
              (.claimed pending))
  | opened (worker : Nat) (pending : PendingBuyerContact) (owner buyer : String)
      (here : node.attempts worker = .claimed pending)
      (key : d.publicKey pending.reader = some buyer) :
      Occurs d node (.openAdapter worker) (node.enter worker (.resolving pending owner buyer))
  | resolved (worker : Nat) (found : Option ResolvedProfile) (now : OffsetDateTime)
      (pending : PendingBuyerContact) (owner buyer : String) (contact : Option ContactRecord)
      (here : node.attempts worker = .resolving pending owner buyer)
      (named : ∀ record ∈ contact, record.publicKey = buyer) :
      Occurs d node (.resolve worker found now)
        (node.enter worker (.resolved pending owner contact))
  | acquired (worker : Nat) (pending : PendingBuyerContact) (owner : String)
      (contact : Option ContactRecord)
      (here : node.attempts worker = .resolved pending owner contact)
      (free : node.holder pending.creatorId = none) :
      Occurs d node (.acquire worker) { node.enter worker (.locked pending owner contact) with
        holder := Function.update node.holder pending.creatorId (some worker) }
  | rechecked (worker : Nat) (pending : PendingBuyerContact) (owner : String)
      (contact : Option ContactRecord)
      (here : node.attempts worker = .locked pending owner contact)
      (open' : buyerContactIsPending d.crypto node.store node.schedules pending = true) :
      Occurs d node (.recheck worker) (node.enter worker (.rechecked pending owner contact))
  | skipped (worker : Nat) (pending : PendingBuyerContact) (owner : String)
      (here : node.attempts worker = .rechecked pending owner none) :
      Occurs d node (.insert worker) (node.enter worker (.saved pending))
  | inserted (worker : Nat) (pending : PendingBuyerContact) (owner : String)
      (contact : ContactRecord) (state : SharedState)
      (here : node.attempts worker = .rechecked pending owner (some contact))
      (done : insertBuyerContact (node.shared pending.creatorId) owner contact = .ok state) :
      Occurs d node (.insert worker) { node.enter worker (.saved pending) with
        shared := Function.update node.shared pending.creatorId state }
  | completed (worker : Nat) (pending : PendingBuyerContact)
      (here : node.attempts worker = .saved pending) :
      Occurs d node (.complete worker) { node.release worker with
        schedules := completeBuyerContact d.crypto node.store node.schedules pending }
  | ended (event : Event) (worker : Nat) (own : event.isEdit = false) :
      Occurs d node event (node.release worker)
  | edited (creatorId : Uuid) (change : SharedState → SharedState) :
      Occurs d node (.edit creatorId change) { node with
        shared := Function.update node.shared creatorId (change (node.shared creatorId)) }

theorem proceed_cases {ε α : Type} {worker : Nat} {next : α → Node} {result : Except ε α}
    {P : Node → Prop} (goes : ∀ a, result = .ok a → P (next a)) (ends : P (node.release worker)) :
    P (node.proceed worker next result) := by
  cases result with
  | ok a => exact goes a rfl
  | error e => exact ends

theorem resolveBuyerContact_key {owner buyer : String} {found : Option ResolvedProfile}
    {now : OffsetDateTime} {contact : Option ContactRecord}
    (done : resolveBuyerContact d owner buyer found now = .ok contact) :
    ∀ record ∈ contact, record.publicKey = buyer := by
  intro record member
  unfold resolveBuyerContact at done
  split at done
  · cases done
    cases member
  · split at done
    · cases done
      cases member
    · obtain ⟨_, _, _, _, done⟩ := bind₂_eq_ok.mp done
      cases done
      cases member
      rfl

theorem openContact_key {adapter : PaykitAdapter} {pending : PendingBuyerContact}
    {keys : String × String} (done : openContact d adapter pending = .ok keys) :
    d.publicKey pending.reader = some keys.2 := by
  obtain ⟨_, _, buyer, key, owner, _, done⟩ := bind₃_eq_ok.mp done
  cases done
  exact demand_eq_ok.mp key

theorem claimBuyerContact_ok {taken : Uuid} {schedules : Schedules}
    {result : Except PersistenceError (Option PendingBuyerContact)}
    (claimed : claimBuyerContact d.crypto d.sdk node.store node.schedules taken =
      some (result, schedules)) :
    ∃ row, contactRecord node.store.db taken = some row ∧
      result = decodeContact d.crypto d.sdk node.store row ∧
      schedules = Function.update node.schedules row.invoiceId
        { node.schedules row.invoiceId with
          nextAttemptAt := some (node.store.clock + seconds 60) } := by
  obtain ⟨row, found, taken⟩ := Option.bind_eq_some_iff.mp claimed
  split at taken
  · cases taken
    exact ⟨row, found, rfl, rfl⟩
  · cases taken

theorem occur_ok (done : occur d node event = .ok node') : Occurs d node event node' := by
  cases event with
  | operate operation =>
    cases done
    exact .operated operation
  | claim worker taken =>
    simp only [occur] at done
    split at done
    case h_1 pending schedules free claimed =>
      cases done
      obtain ⟨row, found, decoded, rfl⟩ := claimBuyerContact_ok claimed
      exact .claimed worker taken row pending free found decoded.symm
    case h_2 schedules _ free claimed =>
      cases done
      obtain ⟨row, found, -, rfl⟩ := claimBuyerContact_ok claimed
      exact .deferred worker taken row found
    case h_3 => cases done
  | openAdapter worker =>
    simp only [occur] at done
    split at done
    case h_1 pending here =>
      cases done
      refine proceed_cases (fun adapter _ => ?_) (.ended _ worker rfl)
      refine proceed_cases (fun keys opened => ?_) (.ended _ worker rfl)
      exact .opened worker pending keys.1 keys.2 here (openContact_key opened)
    case h_2 => cases done
  | resolve worker found now =>
    simp only [occur] at done
    split at done
    case h_1 pending owner buyer here =>
      cases done
      refine proceed_cases (fun contact resolved => ?_) (.ended _ worker rfl)
      exact .resolved worker found now pending owner buyer contact here
        (resolveBuyerContact_key resolved)
    case h_2 => cases done
  | acquire worker =>
    simp only [occur] at done
    split at done
    case h_1 pending owner contact here =>
      split at done
      case isTrue free =>
        cases done
        exact .acquired worker pending owner contact here free
      case isFalse => cases done
    case h_2 => cases done
  | recheck worker =>
    simp only [occur] at done
    split at done
    case h_1 pending owner contact here =>
      split at done
      case isTrue found =>
        cases done
        exact .rechecked worker pending owner contact here found
      case isFalse =>
        cases done
        exact .ended _ worker rfl
    case h_2 => cases done
  | insert worker =>
    simp only [occur] at done
    split at done
    case h_1 pending owner here =>
      cases done
      exact .skipped worker pending owner here
    case h_2 pending owner contact here =>
      cases done
      refine proceed_cases (fun state inserted => ?_) (.ended _ worker rfl)
      exact .inserted worker pending owner contact state here inserted
    case h_3 => cases done
  | complete worker =>
    simp only [occur] at done
    split at done
    case h_1 pending here =>
      cases done
      exact .completed worker pending here
    case h_2 => cases done
  | abandon worker =>
    cases done
    exact .ended _ worker rfl
  | edit creatorId change =>
    cases done
    exact .edited creatorId change

structure Backed (d : ContactDeployment) (store : Store) (pending : PendingBuyerContact) :
    Prop where
  record : ∃ row ∈ store.db.buyerContacts.rows, pending.names d.crypto row = true
  reader : ∃ invoice, store.admission pending.invoiceId = some invoice ∧
    invoice.intent.readerPubky = pending.reader
  parsed : d.sdk.parsesReader pending.reader = true

theorem names_iff {crypto : Crypto} {pending : PendingBuyerContact} {row : BuyerContactRow} :
    pending.names crypto row = true ↔ row.invoiceId = pending.invoiceId ∧
      row.creatorId = pending.creatorId ∧
        row.readerLookupHash = textHash crypto pending.reader := by
  simp [PendingBuyerContact.names, and_assoc]

/-- What holds of a worker's attempt. While it holds the lock it is the holder, and from
the recheck to the completion its record is open. -/
def AttemptSound (d : ContactDeployment) (node : Node) (worker : Nat) : Attempt → Prop
  | .idle => True
  | .claimed pending => Backed d node.store pending
  | .resolving pending _ buyer =>
    Backed d node.store pending ∧ d.publicKey pending.reader = some buyer
  | .resolved pending _ contact => Backed d node.store pending ∧
      ∀ record ∈ contact, d.publicKey pending.reader = some record.publicKey
  | .locked pending _ contact => Backed d node.store pending ∧
      (∀ record ∈ contact, d.publicKey pending.reader = some record.publicKey) ∧
      node.holder pending.creatorId = some worker
  | .rechecked pending _ contact => Backed d node.store pending ∧
      (∀ record ∈ contact, d.publicKey pending.reader = some record.publicKey) ∧
      node.holder pending.creatorId = some worker ∧
      (node.schedules pending.invoiceId).completedAt = none
  | .saved pending => Backed d node.store pending ∧
      node.holder pending.creatorId = some worker ∧
      (node.schedules pending.invoiceId).completedAt = none

/-- The record an attempt has found open under the lock. -/
def Paykit.Attempt.open? : Attempt → Option PendingBuyerContact
  | .rechecked pending _ _ => some pending
  | .saved pending => some pending
  | _ => none

theorem AttemptSound.frame {worker : Nat} {attempt : Attempt}
    (sound : AttemptSound d node worker attempt)
    (backed : ∀ pending, Backed d node.store pending → Backed d node'.store pending)
    (held : ∀ creatorId, node.holder creatorId = some worker →
      node'.holder creatorId = some worker)
    (unfinished : ∀ pending, attempt.open? = some pending →
      (node.schedules pending.invoiceId).completedAt = none →
      (node'.schedules pending.invoiceId).completedAt = none) :
    AttemptSound d node' worker attempt := by
  cases attempt with
  | idle => trivial
  | claimed pending => exact backed _ sound
  | resolving pending owner buyer => exact ⟨backed _ sound.1, sound.2⟩
  | resolved pending owner contact => exact ⟨backed _ sound.1, sound.2⟩
  | locked pending owner contact => exact ⟨backed _ sound.1, sound.2.1, held _ sound.2.2⟩
  | rechecked pending owner contact =>
    obtain ⟨named, named', holder, open'⟩ := sound
    exact ⟨backed _ named, named', held _ holder, unfinished _ rfl open'⟩
  | saved pending =>
    obtain ⟨named, holder, open'⟩ := sound
    exact ⟨backed _ named, held _ holder, unfinished _ rfl open'⟩

theorem AttemptSound.holds {worker : Nat} {attempt : Attempt} {pending : PendingBuyerContact}
    (sound : AttemptSound d node worker attempt) (open' : attempt.open? = some pending) :
    Backed d node.store pending ∧ node.holder pending.creatorId = some worker ∧
      (node.schedules pending.invoiceId).completedAt = none := by
  cases attempt with
  | rechecked _ owner contact =>
    cases open'
    exact ⟨sound.1, sound.2.2.1, sound.2.2.2⟩
  | saved _ =>
    cases open'
    exact sound
  | _ => cases open'

def NodeSound (d : ContactDeployment) (node : Node) : Prop :=
  ∀ worker, AttemptSound d node worker (node.attempts worker)

theorem NodeSound.of_update {worker : Nat} {attempt : Attempt}
    (moved : node'.attempts = Function.update node.attempts worker attempt)
    (here : AttemptSound d node' worker attempt)
    (others : ∀ other, other ≠ worker → AttemptSound d node' other (node.attempts other)) :
    NodeSound d node' := by
  intro other
  rw [moved]
  by_cases same : other = worker
  · subst same
    rw [Function.update_self]
    exact here
  · rw [Function.update_of_ne same]
    exact others other same

theorem completedAt_deferred (schedules : Schedules) (id other : Uuid)
    (next : Option OffsetDateTime) :
    (Function.update schedules id { schedules id with nextAttemptAt := next } other).completedAt =
      (schedules other).completedAt := by
  by_cases same : other = id
  · subst same
    rw [Function.update_self]
  · rw [Function.update_of_ne same]

theorem completedAt_completed (crypto : Crypto) (store : Store) (schedules : Schedules)
    (pending : PendingBuyerContact) (other : Uuid) :
    (other ≠ pending.invoiceId → (completeBuyerContact crypto store schedules pending other) =
      schedules other) ∧
    ((schedules other).completedAt ≠ none →
      (completeBuyerContact crypto store schedules pending other).completedAt =
        (schedules other).completedAt) := by
  unfold completeBuyerContact
  split
  · constructor
    · exact fun apart => Function.update_of_ne apart _ _
    · intro done
      by_cases same : other = pending.invoiceId
      · subst same
        rw [Function.update_self]
        cases earlier : (schedules pending.invoiceId).completedAt with
        | none => exact absurd earlier done
        | some time => rfl
      · rw [Function.update_of_ne same]
  · exact ⟨fun _ => rfl, fun _ => rfl⟩

theorem Backed.operate {operation : Operation} {pending : PendingBuyerContact} {store : Store}
    (backed : Backed d store pending) :
    Backed d ((ledger d.toDeployment).commit store operation) pending := by
  obtain ⟨store', done, committed⟩ | ⟨-, committed⟩ :=
    @ledger_commit d.toDeployment store operation
  · rw [committed]
    obtain ⟨row, stored, named⟩ := backed.record
    obtain ⟨invoice, found, reader⟩ := backed.reader
    exact ⟨⟨row, (operate_records done).1 row stored, named⟩,
      ⟨invoice, admission_step (operate_effect done) found, reader⟩, backed.parsed⟩
  · rw [committed]
    exact backed

theorem decodeContact_backed {store : Store} {taken : Uuid} {row : BuyerContactRow}
    {pending : PendingBuyerContact} (found : contactRecord store.db taken = some row)
    (decoded : decodeContact d.crypto d.sdk store row = .ok (some pending)) :
    Backed d store pending := by
  unfold decodeContact at decoded
  dsimp only at decoded
  split at decoded
  case h_1 creator invoice _ joined =>
    obtain ⟨intent, opened, _, parsed, _, hashed, decoded⟩ := bind₃_eq_ok.mp decoded
    cases decoded
    obtain ⟨_, _, opened⟩ := bind_eq_ok.mp opened
    cases opened
    obtain ⟨admitted, -⟩ := Option.filter_eq_some_iff.mp joined
    have hashed := ensure_eq_ok.mp hashed
    exact ⟨⟨row, lookup_mem found, names_iff.mpr ⟨rfl, rfl, hashed.symm⟩⟩,
      ⟨invoice, admitted, rfl⟩, ensure_eq_ok.mp parsed⟩
  case h_2 => cases decoded

theorem Backed.sameCreator {store : Store} {pending other : PendingBuyerContact}
    (first : Backed d store pending) (second : Backed d store other)
    (same : pending.invoiceId = other.invoiceId) : pending.creatorId = other.creatorId := by
  obtain ⟨row, stored, named⟩ := first.record
  obtain ⟨row', stored', named'⟩ := second.record
  obtain ⟨id, creator, -⟩ := names_iff.mp named
  obtain ⟨id', creator', -⟩ := names_iff.mp named'
  have one : row = row' := store.db.buyerContacts.valid.1.eq_of_key stored stored'
    (congrArg some (id.trans same)) (congrArg some id')
  rw [← creator, ← creator', one]

theorem release_holder {worker other : Nat} {creatorId : Uuid} (apart : other ≠ worker)
    (held : node.holder creatorId = some other) :
    (node.release worker).holder creatorId = some other := by
  have kept : node.holder creatorId ≠ some worker := by
    rw [held]
    exact fun same => apart (Option.some.inj same)
  exact (if_neg kept).trans held

theorem buyerContactIsPending_open {pending : PendingBuyerContact}
    (open' : buyerContactIsPending d.crypto node.store node.schedules pending = true) :
    (node.schedules pending.invoiceId).completedAt = none := by
  obtain ⟨row, -, found⟩ := List.any_eq_true.mp open'
  obtain ⟨named, unfinished⟩ := Bool.and_eq_true_iff.mp found
  rw [← (names_iff.mp named).1]
  exact Option.isNone_iff_eq_none.mp unfinished

/-- Every event keeps every attempt sound. Only the holder of a creator's lock completes
the creator's records, so an open record of another holder is another record. -/
theorem NodeSound.step (sound : NodeSound d node) (occurs : Occurs d node event node') :
    NodeSound d node' := by
  cases occurs with
  | operated operation =>
    intro worker
    exact (sound worker).frame (fun _ backed => backed.operate) (fun _ => id) fun _ _ => id
  | deferred worker taken row found =>
    intro other
    refine (sound other).frame (fun _ => id) (fun _ => id) ?_
    intro pending _ open'
    exact (completedAt_deferred ..).trans open'
  | claimed worker taken row pending free found decoded =>
    refine .of_update rfl (decodeContact_backed found decoded) ?_
    intro other _
    refine (sound other).frame (fun _ => id) (fun _ => id) ?_
    intro pending _ open'
    exact (completedAt_deferred ..).trans open'
  | opened worker pending owner buyer here key =>
    have backed := here ▸ sound worker
    refine .of_update rfl ⟨backed, key⟩ ?_
    exact fun other _ => (sound other).frame (fun _ => id) (fun _ => id) fun _ _ => id
  | resolved worker found now pending owner buyer contact here named =>
    obtain ⟨backed, key⟩ := here ▸ sound worker
    refine .of_update rfl ⟨backed, fun record member => ?_⟩ ?_
    · rw [named record member]
      exact key
    · exact fun other _ => (sound other).frame (fun _ => id) (fun _ => id) fun _ _ => id
  | acquired worker pending owner contact here free =>
    obtain ⟨backed, named⟩ := here ▸ sound worker
    refine .of_update rfl ⟨backed, named, Function.update_self ..⟩ ?_
    intro other _
    refine (sound other).frame (fun _ => id) ?_ fun _ _ => id
    intro creatorId held
    have apart : creatorId ≠ pending.creatorId := by
      rintro rfl
      rw [free] at held
      cases held
    exact (Function.update_of_ne apart ..).trans held
  | rechecked worker pending owner contact here open' =>
    obtain ⟨backed, named, held⟩ := here ▸ sound worker
    refine .of_update rfl ⟨backed, named, held, buyerContactIsPending_open open'⟩ ?_
    exact fun other _ => (sound other).frame (fun _ => id) (fun _ => id) fun _ _ => id
  | skipped worker pending owner here =>
    obtain ⟨backed, -, held, open'⟩ := here ▸ sound worker
    refine .of_update rfl ⟨backed, held, open'⟩ ?_
    exact fun other _ => (sound other).frame (fun _ => id) (fun _ => id) fun _ _ => id
  | inserted worker pending owner contact state here done =>
    obtain ⟨backed, -, held, open'⟩ := here ▸ sound worker
    refine .of_update rfl ⟨backed, held, open'⟩ ?_
    exact fun other _ => (sound other).frame (fun _ => id) (fun _ => id) fun _ _ => id
  | completed worker pending here =>
    obtain ⟨backed, held, -⟩ := here ▸ sound worker
    refine .of_update rfl trivial ?_
    intro other apart
    refine (sound other).frame (fun _ => id) (fun _ => release_holder apart) ?_
    intro pending' rechecked open'
    obtain ⟨backed', held', -⟩ := (sound other).holds rechecked
    have distinct : pending'.invoiceId ≠ pending.invoiceId := by
      intro same
      rw [backed'.sameCreator backed same, held] at held'
      exact apart (Option.some.inj held').symm
    exact (congrArg _ ((completedAt_completed ..).1 distinct)).trans open'
  | ended event worker own =>
    refine .of_update rfl trivial ?_
    intro other apart
    exact (sound other).frame (fun _ => id) (fun _ => release_holder apart) fun _ _ => id
  | edited creatorId change =>
    exact fun worker => (sound worker).frame (fun _ => id) (fun _ => id) fun _ _ => id

theorem insertBuyerContact_ok {state state' : SharedState} {owner : String}
    {contact : ContactRecord} (done : insertBuyerContact state owner contact = .ok state') :
    state' = state ∨ state.contactRecord contact.publicKey = none ∧
      state.linkedPeer contact.publicKey ≠ some .blocked ∧
      state' = { state with
        contactRecord := Function.update state.contactRecord contact.publicKey (some contact) } := by
  obtain ⟨_, _, done⟩ := bind_eq_ok.mp done
  split at done
  case isTrue =>
    cases done
    exact .inl rfl
  case isFalse fresh =>
    cases done
    simp only [not_or, Option.not_isSome_iff_eq_none] at fresh
    exact .inr ⟨fresh.2.1, fresh.2.2, rfl⟩

theorem Occurs.inserts (occurs : Occurs d node event node') (own : event.isEdit = false) :
    node'.shared = node.shared ∨ ∃ worker pending owner contact,
      node.attempts worker = .rechecked pending owner (some contact) ∧
      (node.shared pending.creatorId).contactRecord contact.publicKey = none ∧
      (node.shared pending.creatorId).linkedPeer contact.publicKey ≠ some .blocked ∧
      node'.shared = Function.update node.shared pending.creatorId
        { node.shared pending.creatorId with
          contactRecord := Function.update (node.shared pending.creatorId).contactRecord
            contact.publicKey (some contact) } := by
  cases occurs with
  | inserted worker pending owner contact state here done =>
    obtain rfl | ⟨absent, unblocked, rfl⟩ := insertBuyerContact_ok done
    · exact .inl (Function.update_eq_self ..)
    · exact .inr ⟨worker, pending, owner, contact, here, absent, unblocked, rfl⟩
  | edited creatorId change => cases own
  | _ => exact .inl rfl

/-- What an insertion of an attempt leaves as it was. -/
structure Spares (state state' : SharedState) : Prop where
  identity : state'.identity = state.identity
  linkedPeer : state'.linkedPeer = state.linkedPeer
  contacts : ∀ key, state.contactRecord key ≠ none ∨ state.linkedPeer key = some .blocked →
    state'.contactRecord key = state.contactRecord key

theorem Occurs.spares (occurs : Occurs d node event node') (own : event.isEdit = false)
    (creatorId : Uuid) : Spares (node.shared creatorId) (node'.shared creatorId) := by
  obtain same | ⟨worker, pending, owner, contact, -, absent, unblocked, shared⟩ :=
    occurs.inserts own
  · rw [same]
    exact ⟨rfl, rfl, fun _ _ => rfl⟩
  · rw [shared]
    by_cases other : creatorId = pending.creatorId
    · subst other
      rw [Function.update_self]
      refine ⟨rfl, rfl, fun key protected' => Function.update_of_ne ?_ ..⟩
      rintro rfl
      exact protected'.elim (· absent) unblocked
    · rw [Function.update_of_ne other]
      exact ⟨rfl, rfl, fun _ _ => rfl⟩

theorem Occurs.store (occurs : Occurs d node event node') :
    node'.store = node.store ∨ ∃ operation, event = .operate operation ∧
      operate d.toDeployment node.store operation = .ok node'.store := by
  cases occurs with
  | operated operation =>
    obtain ⟨store', done, committed⟩ | ⟨-, committed⟩ :=
      @ledger_commit d.toDeployment node.store operation
    · exact .inr ⟨operation, rfl, done.trans (congrArg _ committed.symm)⟩
    · exact .inl committed
  | _ => exact .inl rfl

theorem Occurs.completed_stays (occurs : Occurs d node event node') {id : Uuid}
    (completed : (node.schedules id).completedAt ≠ none) :
    (node'.schedules id).completedAt ≠ none := by
  cases occurs with
  | deferred worker taken row found => exact (completedAt_deferred ..).trans_ne completed
  | claimed worker taken row pending free found decoded =>
    exact (completedAt_deferred ..).trans_ne completed
  | completed worker pending here =>
    exact ((completedAt_completed ..).2 completed).trans_ne completed
  | _ => exact completed

theorem Occurs.records_stay (occurs : Occurs d node event node') {row : BuyerContactRow}
    (stored : row ∈ node.store.db.buyerContacts.rows) :
    row ∈ node'.store.db.buyerContacts.rows := by
  obtain same | ⟨operation, -, done⟩ := occurs.store
  · rw [same]
    exact stored
  · exact (operate_records done).1 row stored

end Attempts

section Runs

variable {d : ContactDeployment} {node node' : Node} {event : Event}
  {history earlier : List (Transition Node Event)}

def PaidBefore (d : ContactDeployment) (earlier : List (Transition Node Event))
    (invoice : InvoiceRow) : Prop :=
  ∃ past ∈ earlier, ∃ observation, past.action = .operate (.observe observation) ∧
    operate d.toDeployment past.before.store (.observe observation) = .ok past.after.store ∧
    ShowsPaid d.toDeployment past.before.store observation invoice

/-- A step that is not the creator's own writes a contact where there was none. -/
structure Inserts (transition : Transition Node Event) (creatorId : Uuid) (key : String) :
    Prop where
  own : transition.action.isEdit = false
  absent : (transition.before.shared creatorId).contactRecord key = none
  present : (transition.after.shared creatorId).contactRecord key ≠ none

/-- The attempt behind an insertion: its record is open, and its buyer has the key. -/
theorem Inserts.attempt {transition : Transition Node Event} {creatorId : Uuid} {key : String}
    (inserts : Inserts transition creatorId key) (sound : NodeSound d transition.before)
    (occurs : Occurs d transition.before transition.action transition.after) :
    ∃ pending, Backed d transition.before.store pending ∧ pending.creatorId = creatorId ∧
      d.publicKey pending.reader = some key ∧
      (transition.before.schedules pending.invoiceId).completedAt = none := by
  obtain same | ⟨worker, pending, owner, contact, here, -, -, shared⟩ :=
    occurs.inserts inserts.own
  · exact absurd (same ▸ inserts.absent) inserts.present
  · obtain ⟨backed, named, -, open'⟩ := here ▸ sound worker
    have written := inserts.present
    rw [shared] at written
    have creator : pending.creatorId = creatorId := by
      by_contra apart
      rw [Function.update_of_ne (Ne.symm apart)] at written
      exact written inserts.absent
    have buyer : contact.publicKey = key := by
      by_contra apart
      rw [creator, Function.update_self] at written
      exact written ((Function.update_of_ne (Ne.symm apart) ..).trans inserts.absent)
    exact ⟨pending, backed, creator, buyer ▸ named contact rfl, open'⟩

structure RunSound (d : ContactDeployment) (history : List (Transition Node Event))
    (node : Node) : Prop where
  attempts : NodeSound d node
  paid : ∀ row ∈ node.store.db.buyerContacts.rows, ∃ invoice, PaidBefore d history invoice ∧
    row = workRecord invoice

theorem PaidBefore.append {invoice : InvoiceRow} (paid : PaidBefore d earlier invoice)
    (later : List (Transition Node Event)) : PaidBefore d (earlier ++ later) invoice := by
  obtain ⟨past, member, shown⟩ := paid
  exact ⟨past, List.mem_append_left _ member, shown⟩

theorem RunSound.step (sound : RunSound d history node) (occurs : Occurs d node event node') :
    RunSound d (history ++ [⟨node, event, node'⟩]) node' := by
  refine ⟨sound.attempts.step occurs, ?_⟩
  intro row stored
  have earlier : row ∈ node.store.db.buyerContacts.rows →
      ∃ invoice, PaidBefore d (history ++ [⟨node, event, node'⟩]) invoice ∧
        row = workRecord invoice := by
    intro old
    obtain ⟨invoice, paid, record⟩ := sound.paid row old
    exact ⟨invoice, paid.append _, record⟩
  obtain same | ⟨operation, rfl, done⟩ := occurs.store
  · exact earlier (same ▸ stored)
  · obtain old | ⟨observation, invoice, rfl, shown, record⟩ := (operate_records done).2 row stored
    · exact earlier old
    · exact ⟨invoice, ⟨_, List.mem_append_right _ (.head _), observation, rfl, done, shown⟩,
        record⟩

theorem initial_sound (start : OffsetDateTime) (shared : Uuid → SharedState) :
    RunSound d [] (Node.initial start shared) where
  attempts _ := trivial
  paid row stored := by cases stored

theorem RunSound.insertion {creatorId : Uuid} {key : String}
    (sound : RunSound d history node) (occurs : Occurs d node event node')
    (inserts : Inserts ⟨node, event, node'⟩ creatorId key) :
    ∃ invoice admission, PaidBefore d history invoice ∧ invoice.creatorId = creatorId ∧
      node.store.admission invoice.id = some admission ∧
      d.publicKey admission.intent.readerPubky = some key := by
  obtain ⟨pending, backed, creator, named, -⟩ := inserts.attempt sound.attempts occurs
  obtain ⟨row, stored, names⟩ := backed.record
  obtain ⟨id, creator', -⟩ := names_iff.mp names
  obtain ⟨invoice, paid, rfl⟩ := sound.paid row stored
  obtain ⟨admission, admitted, reader⟩ := backed.reader
  have id : invoice.id = pending.invoiceId := id
  exact ⟨invoice, admission, paid, creator'.trans creator, id ▸ admitted, reader ▸ named⟩

structure Completed (d : ContactDeployment) (node : Node) (row : BuyerContactRow)
    (reader : String) : Prop where
  stored : row ∈ node.store.db.buyerContacts.rows
  reader : row.readerLookupHash = textHash d.crypto reader
  completed : (node.schedules row.invoiceId).completedAt ≠ none

theorem Completed.step {row : BuyerContactRow} {reader : String}
    (completed : Completed d node row reader) (occurs : Occurs d node event node') :
    Completed d node' row reader :=
  ⟨occurs.records_stay completed.stored, completed.reader,
    occurs.completed_stays completed.completed⟩

theorem Completed.not_inserts {row : BuyerContactRow} {reader key : String}
    (completed : Completed d node row reader) (parsed : d.sdk.parsesReader reader = true)
    (named : d.publicKey reader = some key) (sound : NodeSound d node)
    (occurs : Occurs d node event node') :
    ¬ Inserts ⟨node, event, node'⟩ row.creatorId key := by
  intro inserts
  obtain ⟨pending, backed, creator, named', open'⟩ := inserts.attempt sound occurs
  obtain ⟨row', stored', names⟩ := backed.record
  obtain ⟨id, creator', hash⟩ := names_iff.mp names
  have same : pending.reader = reader :=
    d.publicKey_canonical _ _ key backed.parsed parsed named' named
  have one : row' = row := by
    refine node.store.db.buyerContacts.valid.2.eq_of_key stored' completed.stored ?_ rfl
    rw [creator', hash, creator, same, completed.reader]
  refine completed.completed ?_
  rw [← one, id]
  exact open'

/-- An insertion for a creator and a buyer comes after an eligible payment of an invoice of
the two. -/
def InsertsForPaid (d : ContactDeployment) (earlier : List (Transition Node Event))
    (transition : Transition Node Event) : Prop :=
  ∀ creatorId key, Inserts transition creatorId key →
    ∃ invoice admission, PaidBefore d earlier invoice ∧ invoice.creatorId = creatorId ∧
      transition.before.store.admission invoice.id = some admission ∧
      d.publicKey admission.intent.readerPubky = some key

/-- Buyers' contacts in every run, from any shared states of the creators: an insertion
follows an eligible payment of an invoice of the creator and the buyer; whatever is not the
creator's own edit leaves existing contacts and blocked peers alone; there is one work
record for the two; and once it is completed, nothing that follows inserts the contact. -/
theorem buyer_contacts_are_saved_once (d : ContactDeployment) (start : OffsetDateTime)
    (shared : Uuid → SharedState) (events : List Event) :
    (∀ earlier transition later,
      (contacts d).history (.initial start shared) events = earlier ++ transition :: later →
      InsertsForPaid d earlier transition ∧ (transition.action.isEdit = false → ∀ creatorId,
        Spares (transition.before.shared creatorId) (transition.after.shared creatorId))) ∧
    UniqueIndex (fun row : BuyerContactRow => some (row.creatorId, row.readerLookupHash))
      ((contacts d).run (.initial start shared) events).store.db.buyerContacts.rows ∧
    ∀ first rest, events = first ++ rest → ∀ row reader key,
      Completed d ((contacts d).run (.initial start shared) first) row reader →
      d.sdk.parsesReader reader = true → d.publicKey reader = some key →
      ∀ transition ∈ (contacts d).history ((contacts d).run (.initial start shared) first) rest,
        ¬ Inserts transition row.creatorId key := by
  refine ⟨?_, ?_, ?_⟩
  · intro earlier transition later split
    refine System.history_split_rule (RunSound d)
      (fun earlier t => InsertsForPaid d earlier t ∧ (t.action.isEdit = false → ∀ creatorId,
        Spares (t.before.shared creatorId) (t.after.shared creatorId)))
      ?_ (initial_sound start shared) split
    intro history node event node' sound performed
    have occurs := occur_ok performed
    exact ⟨sound.step occurs, fun _ _ => sound.insertion occurs, occurs.spares⟩
  · exact (Database.buyerContacts _).valid.2
  · intro first rest _ row reader key completed parsed named transition member
    have sound : NodeSound d ((contacts d).run (.initial start shared) first) :=
      System.run_invariant (fun _ _ _ sound performed => sound.step (occur_ok performed))
        (initial_sound start shared).attempts
    have before := System.history_invariant
      (P := fun node => NodeSound d node ∧ Completed d node row reader)
      (fun _ _ _ holds performed =>
        ⟨holds.1.step (occur_ok performed), holds.2.step (occur_ok performed)⟩)
      ⟨sound, completed⟩ member
    exact before.1.2.not_inserts parsed named before.1.1 (occur_ok before.2)

end Runs

namespace Sample

def contactDeployment : ContactDeployment where
  toDeployment := deployment
  publicKey := some
  validProfile _ := true
  validUpdate _ _ := true
  publicKey_canonical _ _ _ _ _ named named' := Option.some.inj (named.trans named'.symm)

/-- Every creator's shared state is their own, without contacts. -/
def owned (_ : Uuid) : SharedState := ⟨some "creator", fun _ => none, fun _ => none⟩

/-- A worker claims the buyer's record and resolves the profile. -/
def resolving (worker : Nat) : List Event :=
  [.claim worker 2, .openAdapter worker, .resolve worker (some ⟨none, some "name", none⟩) 5]

def saving (worker : Nat) : List Event :=
  [.acquire worker, .recheck worker, .insert worker, .complete worker]

/-- The buyer pays, a worker claims the record, and a minute later a second one does, before
the first saves the contact. -/
def savedBuyer : List Event :=
  [.operate (.createCreator (credentials "xpub")), .operate (.createInvoice bundle),
    .operate (.observe (.observeOnce [⟨"a", none⟩] [output 0 10 1]))] ++
  resolving 0 ++ [.operate (.tick (60 * 1000000))] ++ resolving 1 ++ saving 0

def removed (state : SharedState) : SharedState :=
  { state with contactRecord := fun _ => none }

end Sample

/-- The second worker's claim does not bring back the contact that the creator removed. -/
theorem removed_contact_stays_removed :
    let saved := (contacts Sample.contactDeployment).run (.initial 0 Sample.owned) Sample.savedBuyer
    let rest := .edit 0 Sample.removed :: Sample.saving 1
    (saved.shared 0).contactRecord "reader" ≠ none ∧ saved.attempts 1 ≠ .idle ∧
      (((contacts Sample.contactDeployment).run saved rest).shared 0).contactRecord "reader" =
        none ∧
      ∀ transition ∈ (contacts Sample.contactDeployment).history saved rest,
        ¬ Inserts transition 0 "reader" := by
  intro saved rest
  obtain ⟨row, stored, facts⟩ := List.any_eq_true.mp
    (show (saved.store.db.buyerContacts.rows.any fun row => decide (row.creatorId = 0 ∧
        row.readerLookupHash = textHash Sample.contactDeployment.crypto "reader" ∧
        (saved.schedules row.invoiceId).completedAt ≠ none)) = true by decide +kernel)
  obtain ⟨creator, reader, completed⟩ := of_decide_eq_true facts
  have ended : Completed Sample.contactDeployment saved row "reader" := ⟨stored, reader, completed⟩
  obtain ⟨-, -, once⟩ := buyer_contacts_are_saved_once Sample.contactDeployment 0 Sample.owned
    (Sample.savedBuyer ++ rest)
  refine ⟨by decide +kernel, by decide +kernel, by decide +kernel, ?_⟩
  rw [← creator]
  exact once Sample.savedBuyer rest rfl row "reader" "reader" ended rfl rfl

end PaykitServer
