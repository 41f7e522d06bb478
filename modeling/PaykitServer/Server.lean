import PaykitServer.Persistence.Admission
import PaykitServer.Persistence.Invoices.Usdt
import PaykitServer.Relational.Transaction
import PaykitServer.Workers.Observer

/-!
# The server as a transaction system

Requests reach the database in any order and interleaving; each one is a
transaction. `Action` lists what a transaction can do to the observation state
and `Request` what the server asks for. A validated batch expands to one action
per observation followed by its deadline checks, so that a run's history shows
every observation with the states around it.

Process and database times are arguments of the requests. No ordering between
them is assumed here; results that need one say so.
-/

namespace PaykitServer

open Domain Bitcoin Persistence Workers
open Relational

/-- One change to the observation state. -/
inductive Action where
  | createInvoice (new : NewPayment) (createdAt : OffsetDateTime) (paymentWindowSeconds : Nat)
  | createProviderV2 (new : NewPayment) (bitcoin : PaymentDestination)
      (createdAt deadline : OffsetDateTime) (minimumConfirmations : Nat)
  | prepareSettlement (creatorId : Uuid)
  | activateSettlement (preparation : Uuid) (new : NewPayment) (now : OffsetDateTime)
      (paymentWindowSeconds : Nat)
  | observe (input : BitcoinObservationInput) (observedAt : OffsetDateTime)
  | expireUnmatched (address : String) (observedAt : OffsetDateTime)
  | expireOverdue (observedAt : OffsetDateTime)
  | observeMarketplace (input : BitcoinObservationInput) (observedAt : OffsetDateTime)
  | expireOverdueMarketplace (observedAt : OffsetDateTime)
  | reserveUsdt (owner : ReceiptOwner) (transferHash : LookupHash) (force : Bool)
      (dbNow : OffsetDateTime)
  | applyUsdt (invoice : Uuid) (transfer : VerifiedTransfer) (dbNow now : OffsetDateTime)
  | clearUsdt (invoice : Uuid) (transferHash : LookupHash) (dbNow now : OffsetDateTime)
  | applyMarketplaceUsdt (preparation : Uuid) (transfer : VerifiedTransfer)
      (dbNow : OffsetDateTime)
  | clearMarketplaceUsdt (preparation : Uuid) (transferHash : LookupHash)
      (dbNow : OffsetDateTime)

def perform (env : Environment) (db : Database) : Action → Except PersistenceError Database
  | .createInvoice new createdAt window => createInvoice env.crypto db new createdAt window
  | .createProviderV2 new bitcoin createdAt deadline minimum =>
    createProviderV2 env.crypto db new bitcoin createdAt deadline minimum
  | .prepareSettlement creatorId => prepareSettlement db creatorId
  | .activateSettlement preparation new now window =>
    activateSettlement env.crypto db preparation new now window
  | .observe input observedAt =>
    Prod.snd <$> applyBitcoinObservationInTx env.crypto db input observedAt
  | .expireUnmatched address observedAt =>
    expireUnmatchedAtDeadlineInTx env.crypto db address observedAt
  | .expireOverdue observedAt => expireOverdue db observedAt
  | .observeMarketplace input observedAt =>
    Prod.snd <$> MarketplacePreparations.applyMarketplaceObservation env.crypto db input observedAt
  | .expireOverdueMarketplace observedAt => MarketplacePreparations.expireOverdue db observedAt
  | .reserveUsdt owner transferHash force dbNow =>
    Prod.snd <$> reserveReceipt db owner transferHash force dbNow
  | .applyUsdt invoice transfer dbNow now =>
    match (db.invoice invoice).filter (·.payment.usdt.isSome) with
    | none => .ok db
    | some row => Prod.snd <$>
        Invoices.applyUsdtTransfer env.crypto db invoice row.payment transfer dbNow now
  | .clearUsdt invoice transferHash dbNow now =>
    match (db.invoice invoice).filter (·.payment.usdt.isSome) with
    | none => .ok db
    | some row =>
      Invoices.clearUsdtTransfer env.crypto db invoice row.payment transferHash dbNow now
  | .applyMarketplaceUsdt preparation transfer dbNow => Prod.snd <$>
      MarketplacePreparations.applyUsdtTransfer env.crypto db preparation transfer dbNow
  | .clearMarketplaceUsdt preparation transferHash dbNow =>
    MarketplacePreparations.clearUsdtTransfer db preparation transferHash dbNow

/-- What the server is asked to do. Batches are given as the adapter reported
them, with the targets they were requested for. -/
inductive Request where
  | createInvoice (new : NewPayment) (createdAt : OffsetDateTime) (paymentWindowSeconds : Nat)
  | createProviderV2 (new : NewPayment) (bitcoin : PaymentDestination)
      (createdAt deadline : OffsetDateTime) (minimumConfirmations : Nat)
  | prepareSettlement (creatorId : Uuid)
  | activateSettlement (preparation : Uuid) (new : NewPayment) (now : OffsetDateTime)
      (paymentWindowSeconds : Nat)
  /-- The observation-target pass. -/
  | observationTargets (observedAt : OffsetDateTime)
  /-- The read-only fence before the network call. -/
  | fenceObservationTargets (targets : List ObservationTarget) (observedAt : OffsetDateTime)
  /-- A fetched batch, committed at the given database time. -/
  | observeOnce (targets : List ObservationTarget) (outputs : List ObservedOutput)
      (observedAt : OffsetDateTime)
  | marketplaceTargets (observedAt : OffsetDateTime)
  | observeMarketplaceOnce (targets : List ObservationTarget) (outputs : List ObservedOutput)
      (observedAt : OffsetDateTime)
  | reserveUsdt (owner : ReceiptOwner) (transferHash : LookupHash) (force : Bool)
      (dbNow : OffsetDateTime)
  | applyUsdt (invoice : Uuid) (transfer : VerifiedTransfer) (dbNow now : OffsetDateTime)
  | clearUsdt (invoice : Uuid) (transferHash : LookupHash) (dbNow now : OffsetDateTime)
  | applyMarketplaceUsdt (preparation : Uuid) (transfer : VerifiedTransfer)
      (dbNow : OffsetDateTime)
  | clearMarketplaceUsdt (preparation : Uuid) (transferHash : LookupHash)
      (dbNow : OffsetDateTime)

/-- The actions of a batch: its observations in order, then its deadline checks. -/
def batchActions (batch : List BitcoinObservationInput) (observedAt : OffsetDateTime) :
    List Action :=
  batch.map (.observe · observedAt) ++ batch.map fun input => .expireUnmatched input.address observedAt

def requestActions (env : Environment) : Request → List Action
  | .createInvoice new createdAt window => [.createInvoice new createdAt window]
  | .createProviderV2 new bitcoin createdAt deadline minimum =>
    [.createProviderV2 new bitcoin createdAt deadline minimum]
  | .prepareSettlement creatorId => [.prepareSettlement creatorId]
  | .activateSettlement preparation new now window =>
    [.activateSettlement preparation new now window]
  | .observationTargets observedAt => [.expireOverdue observedAt]
  | .fenceObservationTargets _ _ => []
  | .observeOnce targets outputs observedAt =>
    match validateBatch env outputs targets with
    | .ok batch => batchActions batch observedAt
    | .error _ => []
  | .marketplaceTargets observedAt => [.expireOverdueMarketplace observedAt]
  | .observeMarketplaceOnce targets outputs observedAt =>
    match validateBatch env outputs targets with
    | .ok batch => (sortForBatch batch).map (.observeMarketplace · observedAt)
    | .error _ => []
  | .reserveUsdt owner transferHash force dbNow => [.reserveUsdt owner transferHash force dbNow]
  | .applyUsdt invoice transfer dbNow now => [.applyUsdt invoice transfer dbNow now]
  | .clearUsdt invoice transferHash dbNow now => [.clearUsdt invoice transferHash dbNow now]
  | .applyMarketplaceUsdt preparation transfer dbNow =>
    [.applyMarketplaceUsdt preparation transfer dbNow]
  | .clearMarketplaceUsdt preparation transferHash dbNow =>
    [.clearMarketplaceUsdt preparation transferHash dbNow]

/-- The actions of observation; the others admit requests. -/
def Action.isObservation : Action → Bool
  | .createInvoice .. | .createProviderV2 .. | .prepareSettlement _ | .activateSettlement .. =>
    false
  | _ => true

def Action.writer : Action → Option ReceiptOwner
  | .reserveUsdt owner _ _ _ => some owner
  | .applyUsdt invoice _ _ _ => some (.invoice invoice)
  | .clearUsdt invoice _ _ _ => some (.invoice invoice)
  | .applyMarketplaceUsdt preparation _ _ => some (.preparation preparation)
  | .clearMarketplaceUsdt preparation _ _ => some (.preparation preparation)
  | _ => none

def Action.usdtPass : Action → Option (Uuid × OffsetDateTime)
  | .applyUsdt invoice _ _ now | .clearUsdt invoice _ _ now => some (invoice, now)
  | _ => none

/-- What a USDT pass does: nothing, or it writes receipts of an invoice that accepts USDT
and projects the invoice. -/
inductive UsdtPass (crypto : Crypto) (db : Database) (invoice : Uuid) (now : OffsetDateTime) :
    Database → Prop
  | idle : UsdtPass crypto db invoice now db
  | projected {db'} (row receipts nextUuid) (found : db.invoice invoice = some row)
      (accepts : row.payment.usdt.isSome = true) (order : db.nextUuid ≤ nextUuid)
      (write : ReceiptsWrite crypto (.invoice invoice) db.usdtObservations.rows receipts.rows)
      (projects : projectPayments crypto
        { db with usdtObservations := receipts, nextUuid := nextUuid } invoice row.payment now =
          .ok db') : UsdtPass crypto db invoice now db'

theorem perform_usdtPass {env : Environment} {db db' : Database} {action : Action}
    {invoice : Uuid} {now : OffsetDateTime} (done : perform env db action = .ok db')
    (pass : action.usdtPass = some (invoice, now)) : UsdtPass env.crypto db invoice now db' := by
  cases action with
  | applyUsdt _ transfer dbNow =>
    cases pass
    simp only [perform] at done
    split at done
    · cases done
      exact .idle
    · rename_i row accepting
      obtain ⟨found, accepts⟩ := Option.filter_eq_some_iff.mp accepting
      obtain ⟨observed, applied⟩ := snd_eq_ok.mp done
      rcases Invoices.completeUsdtTransfer_ok applied with ⟨-, rfl⟩ | ⟨mid, stored, projects⟩
      · exact .idle
      · have write := storeTransfer_writes rfl lockReceipt_current stored
        obtain ⟨_, receipts, next, same, -, -, -, order⟩ :=
          (storeTransfer_ok stored).resolve_left (by simp)
        cases same
        exact .projected row receipts next found accepts order write projects
  | clearUsdt _ hash dbNow =>
    cases pass
    simp only [perform] at done
    split at done
    · cases done
      exact .idle
    · rename_i row accepting
      obtain ⟨found, accepts⟩ := Option.filter_eq_some_iff.mp accepting
      obtain ⟨mid, withdrawn, projects⟩ := bind_eq_ok.mp done
      have write : ReceiptsWrite env.crypto _ _ mid.usdtObservations.rows :=
        withdrawReceipt_writes withdrawn
      obtain ⟨receipts, rfl, -⟩ := withdrawReceipt_ok withdrawn
      exact .projected row receipts _ found accepts le_rfl write projects
  | _ => cases pass

/-- Whether a request is a statement of a USDT pass. -/
def Request.isUsdt (env : Environment) (request : Request) : Bool :=
  (requestActions env request).any (·.writer.isSome)

section Batches

variable {env : Environment} {observedAt : OffsetDateTime}

/-- A loop that counts and threads the state has the state of its actions. -/
private theorem counted_fold (apply : Database → BitcoinObservationInput →
      Except PersistenceError (Bool × Database)) (action : BitcoinObservationInput → Action)
    (performs : ∀ db input, perform env db (action input) = Prod.snd <$> apply db input)
    (batch : List BitcoinObservationInput) (applied : Nat) (db : Database) :
    Prod.snd <$> batch.foldlM
        (fun (applied, db) observation => do
          let (hit, db) ← apply db observation
          return (if hit then applied + 1 else applied, db))
        (applied, db) =
      execute (perform env) db (batch.map action) := by
  induction batch generalizing applied db with
  | nil => rfl
  | cons input batch ih =>
    rw [List.foldlM_cons, List.map_cons, execute_cons, performs]
    dsimp only
    cases apply db input with
    | error e => rfl
    | ok result => exact ih _ result.2

private theorem expire_fold (batch : List BitcoinObservationInput) (db : Database) :
    batch.foldlM
        (fun db observation =>
          expireUnmatchedAtDeadlineInTx env.crypto db observation.address observedAt) db =
      execute (perform env) db
        (batch.map fun input => .expireUnmatched input.address observedAt) := by
  induction batch generalizing db with
  | nil => rfl
  | cons input batch ih =>
    rw [List.foldlM_cons, List.map_cons, execute_cons]
    exact congrArg (_ >>= ·) (funext ih)

theorem applyBitcoinObservationBatch_eq (db : Database) (batch : List BitcoinObservationInput) :
    Prod.snd <$> applyBitcoinObservationBatch env.crypto db batch observedAt =
      execute (perform env) db (batchActions batch observedAt) := by
  cases batch with
  | nil => rfl
  | cons input batch =>
    have observed := counted_fold
      (fun db input => applyBitcoinObservationInTx env.crypto db input observedAt)
      (.observe · observedAt) (fun _ _ => rfl) (input :: batch) 0 db
    rw [batchActions, execute_append, ← observed]
    unfold applyBitcoinObservationBatch
    rw [if_neg (by simp)]
    cases (input :: batch).foldlM (fun (applied, db) observation => do
        let (hit, db) ← applyBitcoinObservationInTx env.crypto db observation observedAt
        return (if hit then applied + 1 else applied, db)) (0, db) with
    | error e => rfl
    | ok result =>
      change Prod.snd <$> (_ >>= fun db => pure (result.1, db)) = execute _ result.2 _
      rw [← expire_fold]
      cases (input :: batch).foldlM (fun db observation =>
          expireUnmatchedAtDeadlineInTx env.crypto db observation.address observedAt)
        result.2 with
      | error e => rfl
      | ok db => rfl

theorem applyMarketplaceBatch_eq (db : Database) (batch : List BitcoinObservationInput) :
    Prod.snd <$> MarketplacePreparations.applyBitcoinObservationBatch env.crypto db batch
        observedAt =
      execute (perform env) db ((sortForBatch batch).map (.observeMarketplace · observedAt)) := by
  cases batch with
  | nil => rfl
  | cons input batch =>
    rw [MarketplacePreparations.applyBitcoinObservationBatch, if_neg (by simp)]
    exact counted_fold
      (fun db input =>
        MarketplacePreparations.applyMarketplaceObservation env.crypto db input observedAt)
      (.observeMarketplace · observedAt) (fun _ _ => rfl) _ 0 db

end Batches

def server (env : Environment) : System Database Action PersistenceError Request where
  perform := perform env
  actions := requestActions env

/-- The state after a run of requests on a freshly migrated database. -/
def reached (env : Environment) (requests : List Request) : Database :=
  (server env).run Database.empty requests

/-- The actions that took effect in that run, each with the states around it. -/
def appliedActions (env : Environment) (requests : List Request) :
    List (Transition Database Action) :=
  (server env).history Database.empty requests

namespace Sample

/-- A deployment for concrete runs: a polynomial of the bytes stands in for the
keyed hash, and every text is a canonical address. -/
def environment : Environment where
  crypto := ⟨fun bytes => BitVec.ofNat 256 (bytes.foldl (fun acc byte => acc * 257 + byte.toNat) 0)⟩
  network := .regtest
  parseAddress _ address := .ok address

/-- The outputs of one transaction. -/
def outpoint (vout : UInt32) : BitcoinOutpoint :=
  ⟨"0000000000000000000000000000000000000000000000000000000000000000", vout, by decide⟩

/-- A present output that pays the sample address. -/
def output (vout : UInt32) (sats confirmations : Nat) : ObservedOutput :=
  ⟨.regtest, "a", outpoint vout, sats, confirmations, true⟩

/-- The disappearance of an output that paid the sample address. -/
def absence (vout : UInt32) (sats : Nat) : ObservedOutput :=
  ⟨.regtest, "a", outpoint vout, sats, 0, false⟩

/-- A request for 10 sats to the sample address, with or without a USDT option. -/
def payment (usdt : Option PaymentDestination) : NewPayment :=
  ⟨0, 0, 0, 0, some ⟨"a", 10⟩, usdt⟩

/-- An invoice for the sample payment that is due 100 seconds after creation. -/
def invoice : Request := .createInvoice (payment none) 0 100

end Sample

end PaykitServer
