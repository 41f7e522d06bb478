import PaykitServer.Application.Services
import PaykitServer.Operations
import PaykitServer.Persistence.Invoices.BuyerContacts

/-!
# Saving buyers as contacts

A worker resolves the profile of a claimed buyer without any lock, then takes the creator's
shared-state lock, reads the work record again, inserts the contact into the creator's
shared state, records completion, and only then lets the lock go.

`Event` lists everything that can happen, one atomic step each: an operation on the store,
a step of one of any number of workers, the end of an attempt by a failure or a crash at
any point, and whatever the creator's own applications do with the shared state. Failures
of a step are ends of its attempt. A lock is taken only when it is free.
-/

namespace PaykitServer.Paykit

open Domain Persistence Persistence.Invoices
open Application Relational

structure PaykitProfile where
  displayName : Option String
  imageUri : Option String
  extra : Option String
deriving DecidableEq

/-- What profile resolution finds: the Paykit profile, or what Pubky.app shows. -/
structure ResolvedProfile where
  paykitProfile : Option PaykitProfile
  displayName : Option String
  imageUri : Option String
deriving DecidableEq

inductive PublicationStatus where
  | notPublished
  | other (name : String)
deriving DecidableEq

structure ContactRecord where
  publicKey : String
  label : Option String
  profile : Option PaykitProfile
  profileFetchedAt : Option OffsetDateTime
  createdAt : OffsetDateTime
  updatedAt : OffsetDateTime
  publicContactMarkerStatus : PublicationStatus
  publicContactPublishedAt : Option OffsetDateTime
  publicContactRemovedAt : Option OffsetDateTime
  publicContactLastError : Option String
deriving DecidableEq

inductive LinkedPeerState where
  | blocked
  | other (name : String)
deriving DecidableEq

/-- A creator's shared state, as far as contacts are concerned. -/
structure SharedState where
  identity : Option String
  contactRecord : String → Option ContactRecord
  linkedPeer : String → Option LinkedPeerState

inductive PaykitSdkError where
  | identity
  | storage
  | invalid
deriving DecidableEq, Repr

/-- A deployment with the SDK's contact functions. A reader is accepted in its canonical
form only, so that no two accepted readers are the same key. -/
structure ContactDeployment extends Deployment where
  publicKey : String → Option String
  validProfile : PaykitProfile → Bool
  validUpdate : String → Option String → Bool
  publicKey_canonical : ∀ reader reader' key, sdk.parsesReader reader = true →
    sdk.parsesReader reader' = true → publicKey reader = some key →
    publicKey reader' = some key → reader = reader'

def trim (text : String) : String :=
  String.ofList (((text.toList.dropWhile Marketplace.isWhitespace).reverse.dropWhile
    Marketplace.isWhitespace).reverse)

/-- The contact to save for a buyer, from what resolution found; none to save for the owner
and for a buyer without a profile. -/
def resolveBuyerContact (d : ContactDeployment) (owner buyer : String)
    (found : Option ResolvedProfile) (now : OffsetDateTime) :
    Except PaykitSdkError (Option ContactRecord) :=
  if buyer = owner then .ok none
  else
    match found with
    | none => .ok none
    | some resolved => do
      let profile := resolved.paykitProfile.getD
        ⟨resolved.displayName, resolved.imageUri, none⟩
      ensure (d.validProfile profile = true) .invalid
      let label := (profile.displayName.map trim).filter (· ≠ "")
      ensure (d.validUpdate buyer label = true) .invalid
      return some {
        publicKey := buyer
        label := label
        profile := some profile
        profileFetchedAt := some now
        createdAt := now
        updatedAt := now
        publicContactMarkerStatus := .notPublished
        publicContactPublishedAt := none
        publicContactRemovedAt := none
        publicContactLastError := none }

/-- Insert a contact in one transaction of the shared state. Existing contacts and blocked
peers are left as they are. -/
def insertBuyerContact (state : SharedState) (owner : String) (contact : ContactRecord) :
    Except PaykitSdkError SharedState := do
  ensure (state.identity = some owner) .identity
  if contact.publicKey = owner ∨ (state.contactRecord contact.publicKey).isSome ∨
      state.linkedPeer contact.publicKey = some .blocked then
    return state
  else
    return { state with
      contactRecord := Function.update state.contactRecord contact.publicKey (some contact) }

structure PaykitAdapter where
  creatorId : Uuid
  creator : String
deriving DecidableEq

def creatorAdapter (crypto : Crypto) (store : Store) (creatorId : Uuid) :
    Except PersistenceError PaykitAdapter := do
  let row ← demand .corruptOrMissing
    (lookup (fun row => some row.id) creatorId store.creators.rows)
  let credentials ← Creators.decryptCredentials crypto row
  return ⟨creatorId, credentials.creator⟩

/-- Start to save a claimed buyer: the keys of the owner and of the buyer. -/
def openContact (d : ContactDeployment) (adapter : PaykitAdapter) (pending : PendingBuyerContact) :
    Except PaykitSdkError (String × String) := do
  ensure (pending.creatorId = adapter.creatorId) .identity
  let buyer ← demand .invalid (d.publicKey pending.reader)
  let owner ← demand .invalid (d.publicKey adapter.creator)
  return (owner, buyer)

/-- How far an attempt has come. From `locked` on it holds the shared-state lock. -/
inductive Attempt where
  | idle
  | claimed (pending : PendingBuyerContact)
  | resolving (pending : PendingBuyerContact) (owner buyer : String)
  | resolved (pending : PendingBuyerContact) (owner : String) (contact : Option ContactRecord)
  | locked (pending : PendingBuyerContact) (owner : String) (contact : Option ContactRecord)
  | rechecked (pending : PendingBuyerContact) (owner : String) (contact : Option ContactRecord)
  | saved (pending : PendingBuyerContact)
deriving DecidableEq

/-- The store with the schedules, the creators' shared states and their locks, and what
every worker is doing. -/
structure Node where
  store : Store
  schedules : Schedules
  shared : Uuid → SharedState
  holder : Uuid → Option Nat
  attempts : Nat → Attempt

inductive Event where
  | operate (operation : Operation)
  | claim (worker : Nat) (taken : Uuid)
  | openAdapter (worker : Nat)
  | resolve (worker : Nat) (found : Option ResolvedProfile) (now : OffsetDateTime)
  | acquire (worker : Nat)
  | recheck (worker : Nat)
  | insert (worker : Nat)
  | complete (worker : Nat)
  | abandon (worker : Nat)
  | edit (creatorId : Uuid) (change : SharedState → SharedState)

/-- The event is not possible in this state. -/
inductive Disabled where
  | disabled
deriving DecidableEq, Repr

namespace Node

/-- A worker's attempt comes to a further point. -/
def enter (node : Node) (worker : Nat) (attempt : Attempt) : Node :=
  { node with attempts := Function.update node.attempts worker attempt }

/-- An attempt ends, and with it the lock it may hold. -/
def release (node : Node) (worker : Nat) : Node :=
  { node.enter worker .idle with
    holder := fun creatorId =>
      if node.holder creatorId = some worker then none else node.holder creatorId }

/-- Go on with the result of a step; its failure ends the attempt. -/
def proceed {ε α : Type} (node : Node) (worker : Nat) (next : α → Node) : Except ε α → Node
  | .ok a => next a
  | .error _ => node.release worker

end Node

def occur (d : ContactDeployment) (node : Node) : Event → Except Disabled Node
  | .operate operation =>
    .ok { node with store := (ledger d.toDeployment).commit node.store operation }
  | .claim worker taken =>
    match node.attempts worker,
        claimBuyerContact d.crypto d.sdk node.store node.schedules taken with
    | .idle, some (.ok (some pending), schedules) =>
      .ok ({ node with schedules := schedules }.enter worker (.claimed pending))
    | .idle, some (_, schedules) => .ok { node with schedules := schedules }
    | _, _ => .error .disabled
  | .openAdapter worker =>
    match node.attempts worker with
    | .claimed pending =>
      .ok (node.proceed worker
        (fun adapter => node.proceed worker
          (fun keys => node.enter worker (.resolving pending keys.1 keys.2))
          (openContact d adapter pending))
        (creatorAdapter d.crypto node.store pending.creatorId))
    | _ => .error .disabled
  | .resolve worker found now =>
    match node.attempts worker with
    | .resolving pending owner buyer =>
      .ok (node.proceed worker
        (fun contact => node.enter worker (.resolved pending owner contact))
        (resolveBuyerContact d owner buyer found now))
    | _ => .error .disabled
  | .acquire worker =>
    match node.attempts worker with
    | .resolved pending owner contact =>
      if node.holder pending.creatorId = none then
        .ok { node.enter worker (.locked pending owner contact) with
          holder := Function.update node.holder pending.creatorId (some worker) }
      else .error .disabled
    | _ => .error .disabled
  | .recheck worker =>
    match node.attempts worker with
    | .locked pending owner contact =>
      if buyerContactIsPending d.crypto node.store node.schedules pending then
        .ok (node.enter worker (.rechecked pending owner contact))
      else .ok (node.release worker)
    | _ => .error .disabled
  | .insert worker =>
    match node.attempts worker with
    | .rechecked pending _ none => .ok (node.enter worker (.saved pending))
    | .rechecked pending owner (some contact) =>
      .ok (node.proceed worker
        (fun state => { node.enter worker (.saved pending) with
          shared := Function.update node.shared pending.creatorId state })
        (insertBuyerContact (node.shared pending.creatorId) owner contact))
    | _ => .error .disabled
  | .complete worker =>
    match node.attempts worker with
    | .saved pending =>
      .ok { node.release worker with
        schedules := completeBuyerContact d.crypto node.store node.schedules pending }
    | _ => .error .disabled
  | .abandon worker => .ok (node.release worker)
  | .edit creatorId change =>
    .ok { node with
      shared := Function.update node.shared creatorId (change (node.shared creatorId)) }

/-- Everything that happens, as a transaction system of single events. -/
def contacts (d : ContactDeployment) : System Node Event Disabled Event where
  perform := occur d
  actions event := [event]

/-- A freshly migrated node: nobody works, and the shared states are what they are. -/
def Node.initial (start : OffsetDateTime) (shared : Uuid → SharedState) : Node where
  store := Store.empty start
  schedules := fun _ => ⟨none, none⟩
  shared := shared
  holder := fun _ => none
  attempts := fun _ => .idle

end PaykitServer.Paykit
