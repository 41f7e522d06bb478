import PaykitServer.Application.RequestBinding
import PaykitServer.Ledger.Creation
import PaykitServer.Ledger.Credentials

/-!
# Requests are issued on the current Bitcoin account

A service reads the account and its generation in one step and commits in a later one.
An account is never replaced without a new generation, so a transaction that finds the
generation it was told finds the account the payloads were derived from.
-/

namespace PaykitServer

open Domain Bitcoin Persistence Application
open MarketplacePreparations Relational

structure SameAccount (row row' : CreatorRow) : Prop where
  generation : row.bitcoinAccountGeneration ≤ row'.bitcoinAccountGeneration
  account : row'.bitcoinAccountGeneration = row.bitcoinAccountGeneration →
    row'.credentials.bitcoinAccount = row.credentials.bitcoinAccount

theorem SameAccount.trans {a b c : CreatorRow} (first : SameAccount a b)
    (second : SameAccount b c) : SameAccount a c := by
  refine ⟨first.generation.trans second.generation, fun same => ?_⟩
  have low := first.generation
  have high := second.generation
  exact (second.account (by omega)).trans (first.account (by omega))

theorem Installs.sameAccount {crypto : Crypto} {operation : Operation} {row row' : CreatorRow}
    (installs : Installs crypto operation row row') : SameAccount row row' := by
  obtain ⟨evolves, counted⟩ := installs.evolves
  refine ⟨evolves.accountGeneration, fun same => ?_⟩
  unfold CountsReplacement at counted
  split at counted
  · assumption
  · omega

section Runs

variable {issuer : Issuer} {store later : Store}

theorem run_account {hash : LookupHash} {row : CreatorRow}
    (reached : (ledger issuer.toDeployment).Reaches store later)
    (found : store.creatorByHash hash = some row) :
    ∃ row', later.creatorByHash hash = some row' ∧ SameAccount row row' := by
  obtain ⟨operations, rfl⟩ := reached
  refine ledger_invariant (P := fun later => ∃ row', later.creatorByHash hash = some row' ∧
    SameAccount row row') ?_ ⟨row, found, le_rfl, fun _ => rfl⟩
  rintro later operation later' ⟨row', found', same⟩ done
  obtain ⟨row'', found'', installs⟩ := creatorByHash_installed (operate_effect done) found'
  exact ⟨row'', found'', same.trans installs.sameAccount⟩

theorem receiving_ok {creator : String} {details : ReceivingDetails}
    (read : receiving issuer.crypto store creator = .ok details) :
    ∃ row, store.creatorByHash (textHash issuer.crypto creator) = some row ∧
      details.bitcoin = row.credentials.bitcoinAccount ∧
      details.bitcoinAccountGeneration = row.bitcoinAccountGeneration := by
  obtain ⟨row, found, _, _, credentials, opened, read⟩ := bind₃_eq_ok.mp read
  cases read
  obtain rfl := Creators.decryptCredentials_ok opened
  exact ⟨row, demand_eq_ok.mp found, rfl, rfl⟩

end Runs

/-- Payloads that quote the creator's current account unless their generation is refused. -/
def Current (issuer : Issuer) (store : Store) (creator : String) (payloads : PayloadFactory) :
    Prop :=
  ∃ bitcoin generation, PayloadsOf issuer bitcoin generation payloads ∧
    ∀ row, store.creatorByHash (textHash issuer.crypto creator) = some row →
      row.bitcoinAccountGeneration = generation →
      ∀ account, bitcoin = some account → row.credentials.bitcoinAccount = some account

def MayIssue (issuer : Issuer) (store : Store) : Operation → Prop
  | .createInvoice input => Current issuer store input.creator input.invoicePayloads
  | .createProviderV2 input => Current issuer store input.creator input.invoicePayloads
  | .prepare input _ => Current issuer store input.creator input.payloads
  | _ => False

/-- An address of the creator's Bitcoin account, recorded under its generation. -/
def OnCurrentAccount (issuer : Issuer) (store : Store) (creatorId : Uuid) (index : Int)
    (address : String) (generation : Option Int) : Prop :=
  ∃ creator ∈ store.creators.rows, creator.id = creatorId ∧
    generation = some creator.bitcoinAccountGeneration ∧
    ∃ account, creator.credentials.bitcoinAccount = some account ∧
      deriveBip84P2wpkhAddress issuer.keys issuer.network account index = .ok address

structure IssuedOnCurrentAccount (issuer : Issuer) (store store' : Store) : Prop where
  invoices : ∀ row ∈ store'.admissions.rows, store.admission row.id = none →
    ∀ destination, row.payment.bitcoin = some destination →
      OnCurrentAccount issuer store row.creatorId row.payment.derivationIndex destination.address
        row.bitcoinAccountGeneration
  preparations : ∀ row ∈ store'.preparations.rows, store.preparation row.id = none →
    ∀ record destination,
      fromIntent issuer.sdk row.envelope.childIndex row.envelope.paymentRequestIntent = .ok record →
      record.bitcoin = some destination →
      OnCurrentAccount issuer store row.creatorId row.envelope.childIndex destination.address
        row.bitcoinAccountGeneration

section Step

variable {issuer : Issuer} {store store' : Store} {operation : Operation}

theorem Current.onCurrentAccount {creator : String} {payloads : PayloadFactory} {row : CreatorRow}
    {index : Int} {payload : DeliveryIntentV1} {record : InvoicePaymentRecordV1}
    {destination : PaymentDestination} {generation : Option Int}
    (current : Current issuer store creator payloads)
    (found : store.creatorByHash (textHash issuer.crypto creator) = some row)
    (fenced : ∀ expected ∈ payloads.expectedBitcoinAccountGeneration,
      expected = row.bitcoinAccountGeneration)
    (named : payloads.expectedBitcoinAccountGeneration.isSome →
      generation = some row.bitcoinAccountGeneration)
    (drawn : payloads.forChildIndex index = .ok payload)
    (recorded : fromIntent issuer.sdk index payload = .ok record)
    (accepts : record.bitcoin = some destination) :
    OnCurrentAccount issuer store row.id index destination.address generation := by
  obtain ⟨bitcoin, read, derives, stored⟩ := current
  obtain ⟨expected, account, present, derived⟩ :=
    derives index payload record destination drawn recorded accepts
  refine ⟨row, lookup_mem found, rfl, named (by rw [expected]; rfl), account, ?_, derived⟩
  exact stored row found (fenced read expected).symm account present

theorem admission_of_mem {row : AdmissionRow} (member : row ∈ store.admissions.rows) :
    store.admission row.id = some row :=
  (lookup_eq_some_iff store.admissions.valid.1).mpr ⟨member, rfl⟩

theorem prepare_quotes {input : MarketplacePreparationInput} {acceptedAgo : Option Nat}
    (done : operate issuer.toDeployment store (.prepare input acceptedAgo) = .ok store') :
    store'.preparations.rows = store.preparations.rows ∨
      ∃ deadline creator intent result,
        store.creatorByHash (textHash issuer.crypto input.creator) = some creator ∧
        Quoted issuer.sdk store { input with prepareDeadline := deadline } creator intent result ∧
        store'.preparations.rows = store.preparations.rows ++ [quotedPreparation issuer.crypto
          { input with prepareDeadline := deadline } creator intent result] := by
  obtain ⟨result, prepared⟩ := snd_eq_ok.mp (persist_eq_ok.mp done)
  obtain ⟨deadline, prepared⟩ : ∃ deadline, prepare issuer.crypto issuer.sdk store
      { input with prepareDeadline := deadline } = .ok (result, _) := by
    cases acceptedAgo with
    | none => exact ⟨none, prepared⟩
    | some waited =>
      obtain ⟨deadline, -, prepared⟩ := bind_eq_ok.mp prepared
      exact ⟨some deadline, prepared⟩
  obtain ⟨creator, found, ⟨_, -, -, rfl⟩ | ⟨-, inserted⟩⟩ := prepare_ok prepared
  · exact .inl rfl
  · obtain ⟨intent, preparations, _, _, same, rows, -, -, quote⟩ := insertPreparation_ok inserted
    exact .inr ⟨deadline, creator, intent, result, found, quote, by rw [same, rows]⟩

theorem operate_issues_current (may : MayIssue issuer store operation ∨ operation.issues = false)
    (done : operate issuer.toDeployment store operation = .ok store') :
    IssuedOnCurrentAccount issuer store store' where
  invoices := by
    intro row member fresh destination accepts
    obtain same | ⟨new, id, rows, ⟨_, admissible⟩, admits⟩ := operate_admits done
    · rw [same] at member
      rw [admission_of_mem member] at fresh
      cases fresh
    rw [rows, List.mem_append, List.mem_singleton] at member
    obtain member | rfl := member
    · rw [admission_of_mem member] at fresh
      cases fresh
    have indexed := (fromIntent_ok admissible.payment).2
    show OnCurrentAccount issuer store new.creator.id new.payment.derivationIndex _
      new.bitcoinAccountGeneration
    rw [indexed]
    cases admits with
    | createInvoice input found drawn | createProviderV2 input found drawn =>
      obtain ⟨payload, drawn', recorded⟩ := drawn.payload
      refine Current.onCurrentAccount (may.resolve_right ?_) found drawn.fenced drawn.recorded
        drawn' recorded accepts
      intro idle
      cases idle
  preparations := by
    intro row member fresh record destination recorded accepts
    have quotes : Quotes issuer.toDeployment store operation row :=
      ((operate_preparations (operate_effect done)).lookup
        (by rintro row _ (_ | _ | _ | _ | _) <;> rfl)).2 fresh row (preparation_of_mem member)
    cases quotes with
    | quoted input waited _ intent' result' deadline' =>
      obtain same | ⟨deadline, creator, intent, result, found, quote, rows⟩ := prepare_quotes done
      · rw [same] at member
        rw [preparation_of_mem member] at fresh
        cases fresh
      rw [rows, List.mem_append, List.mem_singleton] at member
      obtain member | same := member
      · rw [preparation_of_mem member] at fresh
        cases fresh
      rw [same] at recorded ⊢
      refine Current.onCurrentAccount (may.resolve_right fun idle => ?_) found quote.generation ?_
        quote.payload recorded accepts
      · cases idle
      · intro expected
        obtain ⟨expected, present⟩ := Option.isSome_iff_exists.mp expected
        exact congrArg (Option.map _) present

end Step

section Services

variable {services : Services} {store : Store}

theorem Current.of_receiving {creator : String} {details : ReceivingDetails} {later : Store}
    {payloads : PayloadFactory} {bitcoin : Option BitcoinAccount}
    (read : receiving services.crypto store creator = .ok details)
    (reached : (ledger services.toDeployment).Reaches store later)
    (derives : PayloadsOf services.toIssuer bitcoin details.bitcoinAccountGeneration payloads)
    (narrowed : ∀ account, bitcoin = some account → details.bitcoin = some account) :
    Current services.toIssuer later creator payloads := by
  obtain ⟨row, found, account, generation⟩ := receiving_ok read
  refine ⟨bitcoin, _, derives, fun row' found' same chosen present => ?_⟩
  obtain ⟨row'', found'', kept⟩ := run_account reached found
  obtain rfl := Option.some.inj (found'.symm.trans found'')
  rw [kept.account (same.trans generation), ← account]
  exact narrowed chosen present

/-- From a state on, a call commits only what a service may. -/
def Application.Call.IssuesFrom {ε α : Type} (services : Services) (store : Store)
    (call : Call ε α) : Prop :=
  ∀ past later, (ledger services.toDeployment).Reaches store later →
    call.run.wp (ledger services.toDeployment)
      (fun _ found operation => MayIssue services.toIssuer found operation) (fun _ _ => True)
      (fun _ _ _ => True) past later

variable {ε α β : Type} {failures : Failures ε}

theorem Application.Failures.within_true (failures : Failures ε) : failures.Within fun _ => True :=
  ⟨fun _ => trivial, fun _ => trivial, fun _ => trivial, trivial, trivial⟩

namespace Application.Call.Reads

variable {Q : Store → α → Prop} {call : Call ε α} {next : α → Call ε β}

theorem issuesFrom (reads : call.Reads services.toDeployment Q fun _ => True) :
    call.IssuesFrom services store :=
  fun past later _ => reads _ _ past later (fun _ _ _ _ _ => trivial) fun _ _ _ _ _ => trivial

theorem found_issuesFrom (reads : call.Reads services.toDeployment Q fun _ => True)
    (continues : ∀ a found, (ledger services.toDeployment).Reaches store found → Q found a →
      (next a).IssuesFrom services found) : (call >>= next).IssuesFrom services store :=
  fun _ _ reached => reads.bind_wp
    (fun past' found a reached' holds =>
      continues a found (reached.trans reached') holds past' found (.refl _))
    fun _ _ _ _ _ => trivial

theorem then_issuesFrom (reads : call.Reads services.toDeployment Q fun _ => True)
    (continues : ∀ a, (next a).IssuesFrom services store) :
    (call >>= next).IssuesFrom services store :=
  fun _ _ reached => reads.bind_wp
    (fun past' found a reached' _ => continues a past' found (reached.trans reached'))
    fun _ _ _ _ _ => trivial

end Application.Call.Reads

open Application.Call

theorem transact_issuesFrom {request : Store → Operation}
    {result : Store → Except PersistenceError α}
    (may : ∀ later, (ledger services.toDeployment).Reaches store later →
      MayIssue services.toIssuer later (request later)) :
    (transact failures request result).IssuesFrom services store := by
  intro past later reached
  refine Process.wp_run_bind.mpr fun found reached' => ⟨may found (reached.trans reached'), ?_⟩
  dsimp only [Process.wp]
  cases (result found).mapError failures.store with
  | error => trivial
  | ok answer =>
    exact (Reads.proceed failures.within_true).bind_wp
      (fun _ _ _ _ _ => trivial) fun _ _ _ _ _ => trivial

theorem fetchLock_reads (request : CreateInvoice.CreateInvoiceRequest) :
    (CreateInvoice.fetchLock request).Reads services.toDeployment (fun _ _ => True)
      fun _ => True := by
  refine (Reads.proceed (Failures.within_true _)).bind fun _ => (Reads.consult _).bind
    fun reply => ?_
  cases reply with
  | ok lock => exact (Reads.lift fun _ _ => trivial).mono fun _ _ _ => trivial
  | error error => cases error <;> exact Reads.fail trivial

theorem quote_reads (request : CreateInvoice.CreateInvoiceRequest) (asset : CriterionAsset)
    (amount : Nat) (details : ReceivingDetails) :
    (CreateInvoice.quote services request asset amount details).Reads services.toDeployment
      (fun _ _ => True) fun _ => True :=
  (Reads.quotedPrice (Failures.within_true _) trivial _).bind fun _ =>
    (Reads.lift fun _ _ => trivial).bind fun _ => (Reads.consult _).bind fun _ =>
      (Reads.ret _).mono fun _ _ _ => trivial

theorem createInvoice_issues (request : CreateInvoice.CreateInvoiceRequest) :
    (CreateInvoice.create services request).IssuesFrom services store := by
  have any := Failures.within_true CreateInvoice.failures
  refine (Reads.lift fun _ _ => trivial).then_issuesFrom fun binding => ?_
  refine (Reads.fetch any fun _ _ _ => trivial).then_issuesFrom fun preflight => ?_
  cases preflight with
  | exactReplay => exact (Reads.fetch any fun _ _ _ => trivial).issuesFrom
  | conflict => exact (Reads.fail (Q := fun _ _ => True) trivial).issuesFrom
  | new =>
    refine (Reads.validateSession any _).then_issuesFrom fun _ =>
      (fetchLock_reads request).then_issuesFrom fun (asset, amount) =>
      (Reads.admitReader any _ _).then_issuesFrom fun _ =>
      (Reads.authorizeReader any _).then_issuesFrom fun _ =>
      (Reads.lift fun _ _ => trivial).then_issuesFrom fun _ =>
      (Reads.fetch any fun _ _ _ => trivial).found_issuesFrom fun details found _ read => ?_
    refine (Reads.lift fun _ _ => trivial).then_issuesFrom fun _ =>
      (quote_reads request asset amount _).then_issuesFrom fun offer =>
      (Reads.proceed any).then_issuesFrom fun _ =>
      transact_issuesFrom fun later reached => ?_
    exact Current.of_receiving read reached (derivedInvoicePayloads_of _) fun _ present => present

theorem gate_reads (request : ProviderV2.ProviderV2CreateRequest) :
    (ProviderV2.gate services request).Reads services.toDeployment (fun _ _ => True)
      fun _ => True := by
  refine (Reads.fetch (Failures.within_true _) fun _ _ _ => trivial).bind fun allowed => ?_
  cases allowed with
  | true => exact (Reads.ret ()).mono fun _ _ _ => trivial
  | false => exact Reads.fail trivial

theorem createProviderV2_issues (request : ProviderV2.ProviderV2CreateRequest) :
    (ProviderV2.create services request).IssuesFrom services store := by
  have any := Failures.within_true ProviderV2.failures
  refine (Reads.lift fun _ _ => trivial).then_issuesFrom fun binding => ?_
  refine (Reads.fetch any fun _ _ _ => trivial).then_issuesFrom fun preflight => ?_
  cases preflight with
  | exactReplay => exact (Reads.fetch any fun _ _ _ => trivial).issuesFrom
  | conflict => exact (Reads.fail (Q := fun _ _ => True) trivial).issuesFrom
  | new =>
    refine (gate_reads request).then_issuesFrom fun _ =>
      (Reads.validateSession any _).then_issuesFrom fun _ =>
      (gate_reads request).then_issuesFrom fun _ =>
      (Reads.admitReader any _ _).then_issuesFrom fun _ =>
      (gate_reads request).then_issuesFrom fun _ =>
      (Reads.authorizeReader any _).then_issuesFrom fun _ =>
      (gate_reads request).then_issuesFrom fun _ =>
      (Reads.fetch any fun _ _ _ => trivial).found_issuesFrom fun details found _ read => ?_
    refine (Reads.lift fun _ _ => trivial).found_issuesFrom
      fun account asked reached present => (Reads.consult _).then_issuesFrom fun reference =>
      transact_issuesFrom fun later reached' => ?_
    refine Current.of_receiving read (reached.trans reached') (providerPayloadFactory_of _ _) ?_
    rintro _ ⟨⟩
    exact demand_eq_ok.mp present

theorem preparationQuote_reads (request : Marketplace.PrepareMarketplaceRequest)
    (filter : Option (List AcceptedAsset)) (details : ReceivingDetails) :
    (Marketplace.quote services request filter details).Reads services.toDeployment
      (fun _ _ => True) fun _ => True :=
  (Reads.lift fun _ _ => trivial).bind fun _ =>
    (Reads.lift fun _ _ => trivial).bind fun _ =>
    (Reads.quotedPrice (Failures.within_true _) trivial _).bind fun _ =>
    (Reads.lift fun _ _ => trivial).bind fun _ =>
      (Reads.ret _).mono fun _ _ _ => trivial

theorem prepare_issues (request : Marketplace.PrepareMarketplaceRequest) :
    (Marketplace.prepare services request).IssuesFrom services store := by
  have any := Failures.within_true Marketplace.failures
  refine (Reads.lift fun _ _ => trivial).then_issuesFrom fun filter =>
    (Reads.lift fun _ _ => trivial).then_issuesFrom fun _ =>
    (Reads.lift fun _ _ => trivial).then_issuesFrom fun binding =>
    (Reads.fetch any fun _ _ _ => trivial).then_issuesFrom fun preflight => ?_
  cases preflight with
  | exactReplay =>
    refine (Reads.proceed any).then_issuesFrom fun _ => transact_issuesFrom fun later _ => ?_
    exact ⟨none, 0, replayOnlyPayloads_of _ _, fun _ _ _ _ absent => by cases absent⟩
  | conflict => exact (Reads.fail (Q := fun _ _ => True) trivial).issuesFrom
  | new =>
    refine (Reads.lift fun _ _ => trivial).then_issuesFrom fun _ =>
      (Reads.validateSession any _).then_issuesFrom fun _ =>
      (Reads.admitReader any _ _).then_issuesFrom fun _ =>
      (Reads.authorizeReader any _).then_issuesFrom fun _ =>
      (Reads.fetch any fun _ _ _ => trivial).found_issuesFrom fun details found _ read => ?_
    refine (preparationQuote_reads request filter _).then_issuesFrom fun offer =>
      (Reads.fetch any fun _ _ _ => trivial).then_issuesFrom fun acceptedAt =>
      (Reads.lift fun _ _ => trivial).then_issuesFrom fun _ =>
      (Reads.proceed any).then_issuesFrom fun _ =>
      transact_issuesFrom fun later reached => ?_
    exact Current.of_receiving read reached (marketplacePayloads_of _ _ _) fun account present =>
      (Option.filter_eq_some_iff.mp present).1

end Services

inductive IssuingRequest where
  | createInvoice (request : CreateInvoice.CreateInvoiceRequest)
  | createProviderV2 (request : ProviderV2.ProviderV2CreateRequest)
  | prepare (request : Marketplace.PrepareMarketplaceRequest)

inductive IssuingAnswer where
  | createInvoice (answer : Except CreateInvoiceError Invoices.AtomicInvoiceResult)
  | createProviderV2 (answer : Except ProviderV2Error Invoices.ProviderV2CreateResult)
  | prepare (answer : Except PrepareMarketplaceError MarketplacePreparationResult)

def IssuingRequest.process (services : Services) : IssuingRequest →
    Process Store Operation Question Question.Reply IssuingAnswer
  | .createInvoice request => .createInvoice <$> (CreateInvoice.create services request).run
  | .createProviderV2 request => .createProviderV2 <$> (ProviderV2.create services request).run
  | .prepare request => .prepare <$> (Marketplace.prepare services request).run

/-- A freshly migrated store and any number of calls that are about to begin. -/
def issuingCalls (services : Services) (start : OffsetDateTime) (calls : Nat → IssuingRequest) :
    Config Store Operation Question Question.Reply IssuingAnswer :=
  ⟨Store.empty start, fun index => ⟨(calls index).process services, []⟩⟩

theorem issuingCalls_guarded (services : Services) (start : OffsetDateTime)
    (calls : Nat → IssuingRequest) :
    (issuingCalls services start calls).Guarded (ledger services.toDeployment)
      (fun _ _ found operation => MayIssue services.toIssuer found operation)
      (fun _ _ _ => True) fun _ _ _ _ => True := by
  intro index
  refine ⟨Store.empty start, .refl _, ?_⟩
  show ((calls index).process services).wp _ _ _ _ _ _
  cases calls index with
  | createInvoice request =>
    exact Process.wp_bind.mpr (createInvoice_issues request [] _ (.refl _))
  | createProviderV2 request =>
    exact Process.wp_bind.mpr (createProviderV2_issues request [] _ (.refl _))
  | prepare request => exact Process.wp_bind.mpr (prepare_issues request [] _ (.refl _))

/-- In every interleaving of creations and preparations with each other and with any
other operations, each request that a transaction issues and that accepts Bitcoin has
the address of its child index under the account the transaction finds, and records the
generation of that account. -/
theorem requests_issued_on_current_account (services : Services) (start : OffsetDateTime)
    (calls : Nat → IssuingRequest)
    (turns : List (Turn Operation Question Question.Reply fun operation =>
      operation.issues = false)) :
    ∀ transition ∈ committedOperations services.toDeployment start
        ((issuingCalls services start calls).requests (ledger services.toDeployment) turns),
      IssuedOnCurrentAccount services.toIssuer transition.before transition.after := by
  intro transition member
  obtain ⟨found, operation, -, committed, may⟩ :=
    (issuingCalls_guarded services start calls).history member
  obtain ⟨rfl, rfl, done⟩ := mem_committed committed
  have may' : MayIssue services.toIssuer transition.before transition.action ∨
      transition.action.issues = false := may.symm.imp_left fun ⟨_, _, holds⟩ => holds
  exact operate_issues_current may' done

namespace Sample

/-- Every question of a preparation is answered so that it goes on. -/
def consent : ∀ question : Question, question.Reply
  | .proceed => none
  | .session _ => .ok ()
  | .lock _ => .error .unavailable
  | .registry _ => .ok (some true)
  | .authorization _ => .ok .verified
  | .usdPerBtc => none
  | .reference => ""

def orders (index : Nat) : IssuingRequest :=
  .prepare { Marketplace.Sample.request [.btc] 60 with operationId := toString index }

/-- The first preparation has read the old account when the creator rotates to a new one;
then it commits, and the second one runs. -/
def rotatedTurns : List (Turn Operation Question Question.Reply fun operation =>
    operation.issues = false) :=
  [.others (.createCreator (credentials "old")) rfl] ++
    List.replicate 10 (.advance 0 consent) ++
    [.others (.rotateBitcoinAccount (credentials "new") []) rfl] ++
    List.replicate 5 (.advance 0 consent) ++ List.replicate 15 (.advance 1 consent)

def rotatedRequests : List Operation :=
  (issuingCalls Marketplace.Sample.services 0 orders).requests
    (ledger Marketplace.Sample.services.toDeployment) rotatedTurns

def issuedAddresses (store : Store) : List (Option String × Option Int) :=
  store.preparations.rows.map fun row =>
    (((fromIntent sdk row.envelope.childIndex row.envelope.paymentRequestIntent).toOption.bind
      (·.bitcoin)).map (·.address), row.bitcoinAccountGeneration)

end Sample

/-- Both preparations request their transaction. The one that read the account before the
rotation is refused, the other one is issued on the new account. -/
theorem requests_issued_around_rotation :
    Sample.rotatedRequests.length = 4 ∧
    (committedOperations Marketplace.Sample.services.toDeployment 0
      Sample.rotatedRequests).length = 3 ∧
    ∃ transition ∈ committedOperations Marketplace.Sample.services.toDeployment 0
        Sample.rotatedRequests,
      IssuedOnCurrentAccount Marketplace.Sample.services.toIssuer transition.before
        transition.after ∧
      Sample.issuedAddresses transition.before = [] ∧
      Sample.issuedAddresses transition.after = [(some "new/0/0", some 1)] := by
  refine ⟨by decide +kernel, by decide +kernel, ?_⟩
  have last : (committedOperations Marketplace.Sample.services.toDeployment 0
      Sample.rotatedRequests)[2]?.map (fun transition => (Sample.issuedAddresses transition.before,
        Sample.issuedAddresses transition.after)) =
      some ([], [(some "new/0/0", some 1)]) := by decide +kernel
  obtain ⟨transition, found, issued⟩ := Option.map_eq_some_iff.mp last
  have member := List.mem_of_getElem? found
  obtain ⟨before, after⟩ := Prod.mk.inj issued
  exact ⟨transition, member, requests_issued_on_current_account Marketplace.Sample.services 0
    Sample.orders Sample.rotatedTurns transition member, before, after⟩

end PaykitServer
