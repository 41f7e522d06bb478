import PaykitServer.Operations

/-!
# Setup and reconnect

An authenticated companion reply is combined with what is stored for the creator
into the credentials to store. They are validated once here, before anything is
published, and once more by the transaction that stores them, which is chosen by
comparing Bitcoin accounts: a changed account is rotated, an unchanged one is
reauthenticated.

The setup lock is held throughout, so the credentials loaded at the start are the
ones the transaction finds. Receiving from counterparties before a rotation runs
in transactions of its own; its evidence is an argument here.
-/

namespace PaykitServer.RealSetup

open Persistence Relational

inductive ClaimError where
  | invalidAuthRequest
  | invalidPayload
  | invalidEnvelope
  | authenticationFailed
  | transientUnavailable
deriving DecidableEq, Repr

structure ClaimBitcoinAccount where
  accountIndex : Nat
  serializedXpub : List UInt8
deriving DecidableEq

/-- Receiving details and delegated Paykit access approved by the creator. -/
structure SetupCompanionClaim where
  bitcoinAccount : Option ClaimBitcoinAccount
  paykitIdentitySecretKey : PaykitIdentitySecretKey
  usdtAddress : Option String
deriving DecidableEq

inductive VerifiedCompanionClaim where
  | setup (claim : SetupCompanionClaim)
  | reconnect (key : PaykitIdentitySecretKey)

/-- What the deployment decides about keys: the canonical extended public key of an
account on its network, and whether a delegated key is authorized. -/
structure SetupServices where
  validateXpub : List UInt8 → Nat → Except ClaimError String
  verifyKey : CreatorCredentials → Except ClaimError Unit

/-- The authenticated flow a reply belongs to. -/
structure CreatorSetupCommit where
  creator : String
  sessionSecret : String
  reconnect : Bool

/-- A failed stage is reported without its cause. -/
def stageResult {ε α : Type} : Except ε α → Except ClaimError α
  | .ok a => .ok a
  | .error _ => .error .invalidEnvelope

@[simp] theorem stageResult_eq_ok {ε α : Type} {x : Except ε α} {a : α} :
    stageResult x = .ok a ↔ x = .ok a := by
  cases x <;> simp [stageResult]

def claimedAccount (services : SetupServices) (account : ClaimBitcoinAccount) :
    Except ClaimError BitcoinAccount := do
  let xpub ← stageResult (services.validateXpub account.serializedXpub account.accountIndex)
  return ⟨xpub, account.accountIndex⟩

structure SetupDetails where
  bitcoinAccount : Option BitcoinAccount
  usdtAddress : Option String
  key : PaykitIdentitySecretKey
  bitcoinRotationRequested : Bool

/-- What a reply and the stored credentials come to. Omitted reconnect data keeps
what is stored. -/
def receivingDetails (services : SetupServices) (flow : CreatorSetupCommit)
    (claim : VerifiedCompanionClaim) (existing : Option CreatorCredentials) :
    Except ClaimError SetupDetails :=
  match flow.reconnect, claim, existing with
  | false, .setup claim, none => do
    let account ← claim.bitcoinAccount.mapM (claimedAccount services)
    return ⟨account, claim.usdtAddress, claim.paykitIdentitySecretKey, false⟩
  | true, .setup claim, some existing =>
    match claim.bitcoinAccount with
    | none => .ok ⟨existing.bitcoinAccount, claim.usdtAddress.or existing.usdtAddress,
        claim.paykitIdentitySecretKey, false⟩
    | some account => do
      let account ← claimedAccount services account
      return ⟨some account, claim.usdtAddress.or existing.usdtAddress,
        claim.paykitIdentitySecretKey, existing.bitcoinAccount ≠ some account⟩
  | true, .reconnect key, some existing =>
    .ok ⟨existing.bitcoinAccount, existing.usdtAddress, key, false⟩
  | _, _, _ => .error .invalidPayload

def newCredentials (flow : CreatorSetupCommit) (details : SetupDetails) :
    CreatorCredentials :=
  ⟨flow.creator, flow.sessionSecret, details.key, details.bitcoinAccount, details.usdtAddress⟩

/-- Everything that is checked before credentials are stored. -/
def combinedCredentials (services : SetupServices) (flow : CreatorSetupCommit)
    (claim : VerifiedCompanionClaim) (existing : Option CreatorCredentials) :
    Except ClaimError (CreatorCredentials × Bool) := do
  let details ← receivingDetails services flow claim existing
  ensure (details.bitcoinAccount.isSome ∨ details.usdtAddress.isSome) .invalidPayload
  let credentials := newCredentials flow details
  ensure (∀ stored ∈ existing, stored.validateReauthentication credentials = .ok ())
    .invalidPayload
  services.verifyKey credentials
  return (credentials, details.bitcoinRotationRequested)

def persistCredentials (crypto : Crypto) (sdk : Application.Sdk) (store : Store)
    (existing : Option CreatorCredentials) (credentials : CreatorCredentials) (rotation : Bool)
    (evidence : List String) : Except PersistenceError Store :=
  if rotation then
    Prod.snd <$> Creators.rotateBitcoinAccountAfterReceive crypto sdk store credentials evidence
  else
    match existing with
    | some _ => Creators.reauthenticate crypto store credentials
    | none => Prod.snd <$> Creators.create crypto store credentials

def loadOptional (crypto : Crypto) (store : Store) (creator : String) :
    Except PersistenceError (Option CreatorCredentials) :=
  (store.creatorByHash (textHash crypto creator)).mapM (Creators.decryptCredentials crypto)

/-- How an attempt ended, and the store it left. -/
structure SetupOutcome where
  store : Store
  committed : Bool
  result : Except ClaimError Unit

def rotationEvidence (rotation : Bool) (received : Except ClaimError (List String)) :
    Except ClaimError (List String) :=
  if rotation then received else .ok []

/-- What an attempt hands to the transaction that stores its credentials; `received` is
what receiving before a rotation came to. -/
def checkedCommit (d : Deployment) (services : SetupServices) (flow : CreatorSetupCommit)
    (claim : VerifiedCompanionClaim) (store : Store) (received : Except ClaimError (List String)) :
    Except ClaimError (Option CreatorCredentials × CreatorCredentials × Bool × List String) := do
  let existing ← stageResult (loadOptional d.crypto store flow.creator)
  let (credentials, rotation) ← combinedCredentials services flow claim existing
  let evidence ← rotationEvidence rotation received
  return (existing, credentials, rotation, evidence)

/-- One setup or reconnect, from the reply to publication, under the creator's setup
lock. Other transactions commit while it runs; `published` is what follows the commit. -/
def publishReadbackAndCommit (d : Deployment) (services : SetupServices)
    (flow : CreatorSetupCommit) (claim : VerifiedCompanionClaim) (store : Store)
    (during : List Operation) (received : Except ClaimError (List String))
    (published : Except ClaimError Unit) : SetupOutcome :=
  let waited := (ledger d).run store during
  match checkedCommit d services flow claim store received with
  | .error e => ⟨waited, false, .error e⟩
  | .ok (existing, credentials, rotation, evidence) =>
    match persistCredentials d.crypto d.sdk waited existing credentials rotation evidence with
    | .error _ => ⟨waited, false, .error .invalidEnvelope⟩
    | .ok stored => ⟨stored, true, published⟩

section Reconnect

variable {crypto : Crypto} {sdk : Application.Sdk} {services : SetupServices} {store : Store}
variable {flow : CreatorSetupCommit} {claim : SetupCompanionClaim} {account : ClaimBitcoinAccount}
variable {row : CreatorRow} {credentials : CreatorCredentials} {rotation : Bool}
variable {evidence : List String}

variable {existing : CreatorCredentials}

theorem combinedCredentials_ok (reconnects : flow.reconnect = true)
    (carries : claim.bitcoinAccount = some account)
    (combined : combinedCredentials services flow (.setup claim) (some existing) =
      .ok (credentials, rotation)) :
    ∃ xpub, services.validateXpub account.serializedXpub account.accountIndex = .ok xpub ∧
      credentials = ⟨flow.creator, flow.sessionSecret, claim.paykitIdentitySecretKey,
        some ⟨xpub, account.accountIndex⟩, claim.usdtAddress.or existing.usdtAddress⟩ ∧
      rotation = existing.bitcoinAccountChanged credentials ∧
      existing.validateReauthentication credentials = .ok () := by
  obtain ⟨details, decided, _, _, _, valid, combined⟩ := bind₃_eq_ok.mp combined
  obtain ⟨_, _, combined⟩ := bind_eq_ok.mp combined
  cases combined
  simp only [receivingDetails, reconnects, carries] at decided
  obtain ⟨_, claimed, decided⟩ := bind_eq_ok.mp decided
  cases decided
  obtain ⟨xpub, validated, claimed⟩ := bind_eq_ok.mp claimed
  cases claimed
  exact ⟨xpub, stageResult_eq_ok.mp validated, rfl, rfl, (ensure_eq_ok.mp valid) existing rfl⟩

theorem updateCreator_stores (store : Store) (credentials : CreatorCredentials) (id : Uuid) :
    ∃ creators, Creators.updateCreator store id
        (fun row => { row with credentials := credentials }) =
          .ok { store with creators := creators } ∧
      creators.rows = updateWhere (fun row => row.id = id)
        (fun row => { row with credentials := credentials }) store.creators.rows := by
  obtain ⟨ids, hashes, generations⟩ := store.creators.valid
  have constraints : CreatorConstraints (updateWhere (fun row => row.id = id)
      (fun row => { row with credentials := credentials }) store.creators.rows) := by
    refine ⟨Iff.mpr (uniqueIndex_updateWhere fun _ _ _ => rfl) ids,
      Iff.mpr (uniqueIndex_updateWhere fun _ _ _ => rfl) hashes, ?_⟩
    intro row member
    rcases mem_updateWhere.mp member with ⟨stored, -⟩ | ⟨old, stored, -, rfl⟩
    · exact generations row stored
    · exact generations old stored
  refine ⟨⟨_, constraints⟩, ?_, rfl⟩
  simp only [Creators.updateCreator, Table.write, dif_pos constraints]
  rfl

theorem creatorByHash_updated {creators : Table CreatorRow CreatorConstraints} {hash : LookupHash}
    {update : CreatorRow → CreatorRow} (found : store.creatorByHash hash = some row)
    (rows : creators.rows =
      updateWhere (fun stored => stored.id = row.id) update store.creators.rows)
    (keeps : ∀ stored, (update stored).creatorLookupHash = stored.creatorLookupHash) :
    lookup (fun stored => some stored.creatorLookupHash) hash creators.rows =
      some (update row) := by
  rw [rows, lookup_updateWhere fun stored _ => by rw [keeps]]
  have stored : lookup (fun stored => some stored.creatorLookupHash) hash store.creators.rows =
      some row := found
  simp [stored]

theorem decryptCredentials_found
    (found : store.creatorByHash (textHash crypto credentials.creator) = some row)
    (valid : row.credentials.validateReauthentication credentials = .ok ()) :
    Creators.decryptCredentials crypto row = .ok row.credentials := by
  have hash : row.creatorLookupHash = textHash crypto credentials.creator := by
    simpa using lookup_key found
  have same : row.credentials.creator = credentials.creator := (ensure_eq_ok.mp valid).1
  have sealed : textHash crypto row.credentials.creator = row.creatorLookupHash := by
    rw [same, hash]
  simp only [Creators.decryptCredentials, ensure, if_pos sealed]
  rfl

theorem reauthenticate_stores
    (found : store.creatorByHash (textHash crypto credentials.creator) = some row)
    (valid : row.credentials.validateReauthentication credentials = .ok ())
    (unchanged : row.credentials.bitcoinAccountChanged credentials = false) :
    ∃ store' stored, Creators.reauthenticate crypto store credentials = .ok store' ∧
      store'.creatorByHash (textHash crypto credentials.creator) = some stored ∧
      stored.credentials = credentials := by
  obtain ⟨creators, updated, rows⟩ := updateCreator_stores store credentials row.id
  have located := creatorByHash_updated found rows fun _ => rfl
  refine ⟨{ store with creators := creators }, { row with credentials := credentials }, ?_,
    located, rfl⟩
  simp only [Creators.reauthenticate, found, demand, decryptCredentials_found found valid,
    ensure, unchanged, bind, Except.bind, valid, if_true]
  exact updated

theorem rotate_eq (found : store.creatorByHash (textHash crypto credentials.creator) = some row)
    (valid : row.credentials.validateReauthentication credentials = .ok ())
    (changed : row.credentials.bitcoinAccountChanged credentials = true)
    (carries : credentials.bitcoinAccount.isSome) :
    Creators.rotateBitcoinAccountAfterReceive crypto sdk store credentials evidence =
      if row.credentials.bitcoinAccount.isSome then
        Creators.retireBitcoinAccount sdk store row credentials evidence
      else .error .reauthenticationMismatch := by
  simp only [Creators.rotateBitcoinAccountAfterReceive, found, demand,
    decryptCredentials_found found valid, ensure, bind, Except.bind, valid, changed, carries,
    and_true, true_and]
  cases row.credentials.bitcoinAccount.isSome <;> rfl

theorem persistCredentials_unchanged :
    persistCredentials crypto sdk store (some existing) credentials false evidence =
      Creators.reauthenticate crypto store credentials := rfl

theorem persistCredentials_changed :
    persistCredentials crypto sdk store (some existing) credentials true evidence =
      Prod.snd <$>
        Creators.rotateBitcoinAccountAfterReceive crypto sdk store credentials evidence := rfl

/-- The transaction a reconnect reply with an account is routed to stores the
reply's account, key and USDT address exactly when the creator already has a
Bitcoin account. A creator without one passes the validation and is then refused:
the account differs, so the reply is routed to the rotation, which has no account
to rotate away from. -/
theorem reconnect_stores_iff_has_account (reconnects : flow.reconnect = true)
    (carries : claim.bitcoinAccount = some account)
    (found : store.creatorByHash (textHash crypto flow.creator) = some row)
    (combined : combinedCredentials services flow (.setup claim) (some row.credentials) =
      .ok (credentials, rotation))
    (received : rotation = true → row.credentials.bitcoinAccount.isSome →
      ∃ result, Creators.retireBitcoinAccount sdk store row credentials evidence = .ok result) :
    (persistCredentials crypto sdk store (some row.credentials) credentials rotation evidence ≠
        .error .reauthenticationMismatch ∧
      ∃ store' stored xpub,
        persistCredentials crypto sdk store (some row.credentials) credentials rotation evidence =
          .ok store' ∧
        store'.creatorByHash (textHash crypto flow.creator) = some stored ∧
        services.validateXpub account.serializedXpub account.accountIndex = .ok xpub ∧
        stored.credentials.bitcoinAccount = some ⟨xpub, account.accountIndex⟩ ∧
        stored.credentials.paykitIdentitySecret = claim.paykitIdentitySecretKey ∧
        stored.credentials.usdtAddress = claim.usdtAddress.or row.credentials.usdtAddress) ↔
      row.credentials.bitcoinAccount.isSome := by
  obtain ⟨xpub, validated, built, routed, valid⟩ :=
    combinedCredentials_ok reconnects carries combined
  have named : flow.creator = credentials.creator := by rw [built]
  have carried : credentials.bitcoinAccount.isSome := by rw [built]; rfl
  have holds : ∀ {stored : CreatorRow}, stored.credentials = credentials →
      stored.credentials.bitcoinAccount = some ⟨xpub, account.accountIndex⟩ ∧
        stored.credentials.paykitIdentitySecret = claim.paykitIdentitySecretKey ∧
        stored.credentials.usdtAddress = claim.usdtAddress.or row.credentials.usdtAddress := by
    intro stored same
    rw [same, built]
    exact ⟨rfl, rfl, rfl⟩
  rw [named] at found ⊢
  cases rotation with
  | false =>
    -- an equal account is an account
    have present : row.credentials.bitcoinAccount.isSome := by
      rw [show row.credentials.bitcoinAccount = credentials.bitcoinAccount by
        simpa [CreatorCredentials.bitcoinAccountChanged] using routed.symm]
      exact carried
    obtain ⟨store', stored, done, located, same⟩ :=
      reauthenticate_stores found valid routed.symm
    refine iff_of_true ?_ present
    rw [persistCredentials_unchanged, done]
    exact ⟨by simp, store', stored, xpub, rfl, located, validated, holds same⟩
  | true =>
    rw [persistCredentials_changed, rotate_eq found valid routed.symm carried]
    cases present : row.credentials.bitcoinAccount.isSome with
    | false =>
      refine iff_of_false ?_ (by simp)
      rintro ⟨accepted, -⟩
      exact accepted rfl
    | true =>
      obtain ⟨⟨rotated, store'⟩, retired⟩ := received rfl present
      obtain ⟨creators, _, _, _, _, _, _, rfl, -, rows, -⟩ :=
        Creators.retireBitcoinAccount_ok retired
      have located := creatorByHash_updated found rows fun _ => rfl
      refine iff_of_true ?_ rfl
      rw [if_pos rfl, retired]
      exact ⟨by simp, _, _, xpub, rfl, located, validated, holds rfl⟩

end Reconnect

namespace Sample

open PaykitServer.Sample

/-- A deployment on which every account and every key is valid. -/
def services : SetupServices where
  validateXpub _ _ := .ok "xpub"
  verifyKey _ := .ok ()

def flow : CreatorSetupCommit := ⟨"creator", "session", true⟩

/-- A reply with a Bitcoin account and no USDT address. -/
def reply : SetupCompanionClaim := ⟨some ⟨0, []⟩, ⟨1, 1⟩, none⟩

def stored (account : Option BitcoinAccount) : CreatorCredentials :=
  ⟨"creator", "session", ⟨1, 1⟩, account, some "usdt"⟩

def store (account : Option BitcoinAccount) : Store :=
  ((Creators.create environment.crypto (.empty 0) (stored account)).toOption.map Prod.snd).getD
    (.empty 0)

def creator (account : Option BitcoinAccount) : CreatorRow :=
  ⟨0, textHash environment.crypto "creator", stored account, 0, 0⟩

/-- The credentials the reply comes to. -/
def combined : CreatorCredentials :=
  ⟨"creator", "session", ⟨1, 1⟩, some ⟨"xpub", 0⟩, some "usdt"⟩

end Sample

/-- A creator with another account: the reply is stored by a rotation. -/
theorem reconnect_stores_changed_account :
    ∃ store' stored,
      persistCredentials PaykitServer.Sample.environment.crypto PaykitServer.Sample.sdk
        (Sample.store (some ⟨"old", 0⟩)) (some (Sample.stored (some ⟨"old", 0⟩)))
        Sample.combined true [] = .ok store' ∧
      store'.creatorByHash (textHash PaykitServer.Sample.environment.crypto "creator") =
        some stored ∧
      stored.credentials.bitcoinAccount = some ⟨"xpub", 0⟩ := by
  have found : (Sample.store (some ⟨"old", 0⟩)).creatorByHash
      (textHash PaykitServer.Sample.environment.crypto "creator") =
        some (Sample.creator (some ⟨"old", 0⟩)) := by decide +kernel
  have combined : combinedCredentials Sample.services Sample.flow (.setup Sample.reply)
      (some (Sample.creator (some ⟨"old", 0⟩)).credentials) = .ok (Sample.combined, true) :=
    eq_ok_of_toOption (by decide +kernel)
  have received : ∃ result, Creators.retireBitcoinAccount PaykitServer.Sample.sdk
      (Sample.store (some ⟨"old", 0⟩)) (Sample.creator (some ⟨"old", 0⟩)) Sample.combined [] =
        .ok result := exists_ok (by decide +kernel)
  obtain ⟨-, store', stored, xpub, done, located, validated, account, -, -⟩ :=
    (reconnect_stores_iff_has_account rfl rfl found combined fun _ _ => received).mpr rfl
  cases validated
  exact ⟨store', stored, done, located, account⟩

/-- A USDT-only creator that adds a first account: the reply passes every check made
before storing, and everything a rotation asks of the stored requests, and is then
refused. -/
theorem reconnect_refuses_first_account :
    (Sample.store none).creatorByHash (textHash PaykitServer.Sample.environment.crypto "creator") =
        some (Sample.creator none) ∧
      combinedCredentials Sample.services Sample.flow (.setup Sample.reply)
        (some (Sample.creator none).credentials) = .ok (Sample.combined, true) ∧
      (∃ result, Creators.retireBitcoinAccount PaykitServer.Sample.sdk (Sample.store none)
        (Sample.creator none) Sample.combined [] = .ok result) ∧
      persistCredentials PaykitServer.Sample.environment.crypto PaykitServer.Sample.sdk
        (Sample.store none) (some (Sample.stored none)) Sample.combined true [] =
          .error .reauthenticationMismatch := by
  refine ⟨by decide +kernel, eq_ok_of_toOption (by decide +kernel),
    exists_ok (by decide +kernel), eq_error_of_failure (by decide +kernel)⟩

end PaykitServer.RealSetup
