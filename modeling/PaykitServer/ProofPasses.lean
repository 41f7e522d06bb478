import PaykitServer.Server

/-!
# Proof passes

A proof pass checks the transfer candidates of one request against the chain. It
reads what is stored about a candidate, reserves it, verifies it over the
network, and only then opens the transaction that records or withdraws the
receipt. Nothing is locked during verification, so any number of passes, of the
same request or of others, are between their statements at the same time.

The transaction that records a transfer locks the owner's row first. Its locking
read of the receipt and the insert after it are two statements: other owners may
record the same transfer in between, passes of the same owner wait for the lock.

`proofPasses` is the server with its passes in flight. Every other request is
served between two of their statements.
-/

namespace PaykitServer

open Domain Persistence Workers
open Relational

/-- Where a pass stands with one candidate. -/
inductive Phase where
  | started
  /-- The first read found a receipt to check again. -/
  | found (existing : ExistingReceipt)
  /-- No transaction is open; the chain is asked next. -/
  | ready (existing : Option ExistingReceipt)
  | verified (transfer : VerifiedTransfer)
  /-- The owner is locked and the locking read has been done. -/
  | locked (transfer : VerifiedTransfer) (receipt : Option LockedReceipt)
  /-- The receipt is to be withdrawn. -/
  | clearing
  | finished
deriving DecidableEq

/-- One candidate of a pass. `bundle` says that a status read asked for the pass,
and `scan` that it belongs to a scan of new proofs. -/
structure CandidatePass where
  owner : ReceiptOwner
  identity : String
  bundle : Bool
  scan : Bool
  phase : Phase
deriving DecidableEq

namespace CandidatePass

def transferHash (crypto : Crypto) (pass : CandidatePass) : LookupHash :=
  crypto.usdtTransferLookupHash pass.identity

def force (pass : CandidatePass) : Bool :=
  match pass.owner with
  | .invoice _ => pass.bundle
  | .preparation _ => false

/-- A background pass defers receipts it checked within the last minute. -/
def background (pass : CandidatePass) : Bool := !pass.force && pass.scan

def holdsLock (pass : CandidatePass) : Bool :=
  match pass.phase with
  | .locked _ _ => true
  | _ => false

end CandidatePass

/-- What a pass does next. Results of the network call and statement times are
given with the event. -/
inductive PassEvent where
  | read (now : OffsetDateTime)
  /-- The candidate was found among the owner's receipts, without a sender. -/
  | readUnattested
  | reserve (now : OffsetDateTime)
  | verify (result : Option VerifiedTransfer)
  | lock
  | apply (dbNow now : OffsetDateTime)
  | clear (dbNow now : OffsetDateTime)
  /-- A failed statement or an unavailable chain ends the pass. -/
  | abandon

def completeUsdtTransfer (crypto : Crypto) (db : Database) (owner : ReceiptOwner)
    (locked : Option LockedReceipt) (transfer : VerifiedTransfer) (dbNow now : OffsetDateTime) :
    Except PersistenceError (Bool × Database) :=
  match owner with
  | .invoice invoice =>
    match (db.invoice invoice).filter (·.payment.usdt.isSome) with
    | none => .ok (false, db)
    | some row =>
      Invoices.completeUsdtTransfer crypto db invoice row.payment locked transfer dbNow now
  | .preparation preparation =>
    MarketplacePreparations.completeUsdtTransfer crypto db preparation locked transfer dbNow

def clearUsdtTransfer (crypto : Crypto) (db : Database) (owner : ReceiptOwner)
    (transferHash : LookupHash) (dbNow now : OffsetDateTime) : Except PersistenceError Database :=
  match owner with
  | .invoice invoice =>
    match (db.invoice invoice).filter (·.payment.usdt.isSome) with
    | none => .ok db
    | some row => Invoices.clearUsdtTransfer crypto db invoice row.payment transferHash dbNow now
  | .preparation preparation =>
    MarketplacePreparations.clearUsdtTransfer db preparation transferHash dbNow

/-- One statement of a pass. `free` says that nobody holds the owner's lock. An
event that does not fit the phase is refused. -/
def passStep (crypto : Crypto) (db : Database) (pass : CandidatePass) (free : Bool)
    (event : PassEvent) : Except PersistenceError (Phase × Database) :=
  let owner := pass.owner
  let transferHash := pass.transferHash crypto
  match pass.phase, event with
  | .started, .read now =>
    match readExisting db owner transferHash pass.background now with
    | none => .ok (.ready none, db)
    | some existing =>
      if existing.owned && !existing.skip then .ok (.found existing, db)
      else .ok (.finished, db)
  | .started, .readUnattested =>
    if (db.usdtByTransfer transferHash).any fun row =>
        owner.owns row && !row.finalized && row.sender.isNone then .ok (.clearing, db)
    else .ok (.finished, db)
  | .found existing, .reserve now => do
    let (reserved, db) ← reserveReceipt db owner transferHash pass.force now
    return (if reserved then .ready (some existing) else .finished, db)
  -- The verifier rebuilds the identity from the candidate it was given.
  | .ready _, .verify (some transfer) =>
    .ok (.verified { transfer with identity := pass.identity }, db)
  | .ready existing, .verify none =>
    if existing.any fun receipt => receipt.present && receipt.owned then .ok (.clearing, db)
    else .ok (.finished, db)
  | .verified transfer, .lock => do
    ensure (free = true) .unavailable
    return (.locked transfer (lockReceipt db owner transferHash), db)
  | .locked transfer receipt, .apply dbNow now => do
    let (_, db) ← completeUsdtTransfer crypto db owner receipt transfer dbNow now
    return (.finished, db)
  | .clearing, .clear dbNow now => do
    ensure (free = true) .unavailable
    let db ← clearUsdtTransfer crypto db owner transferHash dbNow now
    return (.finished, db)
  | _, .abandon => .ok (.finished, db)
  | _, _ => .error .invalidInput

structure ProofState where
  db : Database
  passes : List CandidatePass

inductive ProofEvent where
  | start (owner : ReceiptOwner) (identity : String) (bundle scan : Bool)
  | pass (index : Nat) (event : PassEvent)
  /-- Any request that is not a statement of a pass. -/
  | serve (request : Request)

def ownerFree (passes : List CandidatePass) (owner : ReceiptOwner) : Bool :=
  passes.all fun pass => !(pass.owner = owner && pass.holdsLock)

def proofStep (env : Environment) (s : ProofState) :
    ProofEvent → Except PersistenceError ProofState
  | .start owner identity bundle scan =>
    .ok { s with passes := s.passes ++ [⟨owner, identity, bundle, scan, .started⟩] }
  | .pass index event => do
    let pass ← demand .invalidInput s.passes[index]?
    let (phase, db) ← passStep env.crypto s.db pass (ownerFree s.passes pass.owner) event
    return ⟨db, s.passes.set index { pass with phase := phase }⟩
  | .serve request => do
    ensure (request.isUsdt env = false) .invalidInput
    return { s with db := (server env).commit s.db request }

/-- The server with its passes in flight. -/
def proofPasses (env : Environment) : System ProofState ProofEvent PersistenceError ProofEvent where
  perform := proofStep env
  actions event := [event]

/-- The state after a run of events on a database with no pass in flight. -/
def passesReached (env : Environment) (db : Database) (events : List ProofEvent) : ProofState :=
  (proofPasses env).run ⟨db, []⟩ events

end PaykitServer
