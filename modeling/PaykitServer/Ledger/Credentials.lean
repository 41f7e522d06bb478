import PaykitServer.Ledger.Effects
import PaykitServer.RealSetup

/-!
# How a creator's credentials evolve

Credentials are created once and replaced by reconnects and account rotations. Each
transaction validates the replacement against what it finds stored, so the laws of one
replacement carry over to any two versions a run commits.
-/

namespace PaykitServer

open Domain Persistence Application
open MarketplacePreparations Relational

def Operation.installs (crypto : Crypto) (creatorHash : LookupHash) : Operation → Bool
  | .createCreator credentials | .reauthenticate credentials
  | .rotateBitcoinAccount credentials _ => textHash crypto credentials.creator = creatorHash
  | _ => false

inductive Installs (crypto : Crypto) : Operation → CreatorRow → CreatorRow → Prop where
  | kept (operation : Operation) (row : CreatorRow) (nextChildIndex : Int) :
      Installs crypto operation row { row with nextChildIndex := nextChildIndex }
  | reauthenticated (replacement : CreatorCredentials) (row : CreatorRow)
      (named : row.creatorLookupHash = textHash crypto replacement.creator)
      (valid : row.credentials.validateReauthentication replacement = .ok ())
      (unchanged : row.credentials.bitcoinAccountChanged replacement = false) :
      Installs crypto (.reauthenticate replacement) row { row with credentials := replacement }
  | rotated (replacement : CreatorCredentials) (evidence : List String) (row : CreatorRow)
      (named : row.creatorLookupHash = textHash crypto replacement.creator)
      (valid : row.credentials.validateReauthentication replacement = .ok ())
      (changed : row.credentials.bitcoinAccountChanged replacement = true) :
      Installs crypto (.rotateBitcoinAccount replacement evidence) row { row with
        credentials := replacement
        bitcoinAccountGeneration := row.bitcoinAccountGeneration + 1 }

/-- What holds between any two versions of a creator's credentials. -/
structure Evolves (row row' : CreatorRow) : Prop where
  keyGeneration : row.credentials.paykitIdentitySecret.keyGeneration ≤
    row'.credentials.paykitIdentitySecret.keyGeneration
  secret : row'.credentials.paykitIdentitySecret.keyGeneration =
      row.credentials.paykitIdentitySecret.keyGeneration →
    row'.credentials.paykitIdentitySecret = row.credentials.paykitIdentitySecret
  bitcoinAccount : row.credentials.bitcoinAccount.isSome → row'.credentials.bitcoinAccount.isSome
  usdtAddress : row.credentials.usdtAddress.isSome →
    row'.credentials.usdtAddress = row.credentials.usdtAddress
  accountGeneration : row.bitcoinAccountGeneration ≤ row'.bitcoinAccountGeneration

/-- The account generation counts the replacements of the Bitcoin account. -/
def CountsReplacement (row row' : CreatorRow) : Prop :=
  row'.bitcoinAccountGeneration =
    if row'.credentials.bitcoinAccount = row.credentials.bitcoinAccount
    then row.bitcoinAccountGeneration else row.bitcoinAccountGeneration + 1

namespace Evolves

theorem refl (row : CreatorRow) : Evolves row row :=
  ⟨le_rfl, fun _ => rfl, id, fun _ => rfl, le_rfl⟩

theorem trans {a b c : CreatorRow} (first : Evolves a b) (second : Evolves b c) : Evolves a c := by
  refine ⟨first.keyGeneration.trans second.keyGeneration, fun same => ?_,
    fun present => second.bitcoinAccount (first.bitcoinAccount present), fun present => ?_,
    first.accountGeneration.trans second.accountGeneration⟩
  · -- a key generation between two equal ones is equal to both
    have low := first.keyGeneration
    have high := second.keyGeneration
    exact (second.secret (by omega)).trans (first.secret (by omega))
  · have kept := first.usdtAddress present
    exact (second.usdtAddress (kept ▸ present)).trans kept

theorem of_valid {row row' : CreatorRow}
    (valid : row.credentials.validateReauthentication row'.credentials = .ok ())
    (generation : row.bitcoinAccountGeneration ≤ row'.bitcoinAccountGeneration) :
    Evolves row row' := by
  obtain ⟨-, account, usdt, monotone, same⟩ := ensure_eq_ok.mp valid
  refine ⟨monotone, fun equal => ?_, fun present => ?_, fun present => ?_, generation⟩
  · by_contra different
    exact same ⟨equal, different⟩
  · by_contra removed
    exact account ⟨present, by simpa using removed⟩
  · by_contra different
    exact usdt ⟨present, fun equal => different equal.symm⟩

end Evolves

theorem Installs.evolves {crypto : Crypto} {operation : Operation} {row row' : CreatorRow}
    (installs : Installs crypto operation row row') :
    Evolves row row' ∧ CountsReplacement row row' := by
  cases installs with
  | kept => exact ⟨⟨le_rfl, fun _ => rfl, id, fun _ => rfl, le_rfl⟩, (if_pos rfl).symm⟩
  | reauthenticated replacement _ _ valid unchanged =>
    refine ⟨.of_valid valid le_rfl, (if_pos ?_).symm⟩
    exact (not_not.mp (of_decide_eq_false unchanged)).symm
  | rotated replacement _ _ _ valid changed =>
    refine ⟨.of_valid valid (Int.lt_succ _).le, (if_neg ?_).symm⟩
    exact (of_decide_eq_true changed).symm

section Step

variable {d : Deployment} {store store' : Store} {operation : Operation}

variable {row : CreatorRow}

theorem creator_of_id {hash : LookupHash} {stored : CreatorRow}
    (found : store.creatorByHash hash = some row) (member : stored ∈ store.creators.rows)
    (same : decide (stored.id = row.id) = true) : stored = row ∧ row.creatorLookupHash = hash := by
  have key := lookup_key found
  exact ⟨store.creators.valid.1.eq_of_key member (lookup_mem found)
    (congrArg some (of_decide_eq_true same)) rfl, Option.some.inj key⟩

theorem operate_credentials (effect : Effect d store operation store') :
    Grows (Installs d.crypto operation)
      (fun row => operation.installs d.crypto row.creatorLookupHash = true) store.creators.rows
      store'.creators.rows := by
  have kept : ∀ row, Installs d.crypto operation row row := fun row =>
    .kept operation row row.nextChildIndex
  cases effect with
  | unchanged | ticked | completed | activated | voided | resolved | claimed | reclaimed | worked
  | reported | drained | drainRead | cleaned | observed => exact .refl fun row _ => kept row
  | created credentials creators rows =>
    rw [rows]
    exact .concat (fun row _ => kept row) (decide_eq_true rfl)
  | reauthenticated replacement row creators found rows valid unchanged =>
    rw [rows]
    refine .updateWhere (fun row _ _ => kept row) fun stored member same => ?_
    obtain ⟨rfl, named⟩ := creator_of_id found member same
    exact .reauthenticated replacement stored named valid unchanged
  | rotated replacement evidence row _ _ _ _ _ _ _ _ found rows _ _ _ valid changed =>
    rw [rows]
    refine .updateWhere (fun row _ _ => kept row) fun stored member same => ?_
    obtain ⟨rfl, named⟩ := creator_of_id found member same
    exact .rotated replacement evidence stored named valid changed.1
  | admitted _ _ _ _ _ _ _ _ _ _ _ _ _ _ _ _ advanced =>
    rw [advanced]
    exact .updateWhere (fun row _ _ => kept row) fun row _ _ => .kept _ row _
  | quoted _ _ _ _ _ _ _ _ _ _ _ _ _ _ _ _ _ advanced =>
    rw [advanced]
    exact .updateWhere (fun row _ _ => kept row) fun row _ _ => .kept _ row _

theorem Installs.creatorLookupHash {crypto : Crypto} {row' : CreatorRow}
    (installs : Installs crypto operation row row') :
    row'.creatorLookupHash = row.creatorLookupHash := by
  cases installs <;> rfl

theorem creatorByHash_installed (effect : Effect d store operation store') {hash : LookupHash}
    (found : store.creatorByHash hash = some row) :
    ∃ row', store'.creatorByHash hash = some row' ∧ Installs d.crypto operation row row' :=
  ((operate_credentials effect).lookup
    fun _ _ installs => congrArg some installs.creatorLookupHash).1 row found

theorem Installs.idle {crypto : Crypto} {row' : CreatorRow}
    (installs : Installs crypto operation row row')
    (idle : operation.installs crypto row.creatorLookupHash = false) :
    row'.credentials = row.credentials ∧
      row'.bitcoinAccountGeneration = row.bitcoinAccountGeneration := by
  cases installs with
  | kept => exact ⟨rfl, rfl⟩
  | reauthenticated replacement _ named =>
    exact absurd named.symm (of_decide_eq_false idle)
  | rotated replacement _ _ named =>
    exact absurd named.symm (of_decide_eq_false idle)

end Step

section Runs

variable {d : Deployment} {store : Store}

variable {hash : LookupHash}

theorem run_credentials (operations : List Operation) {row : CreatorRow}
    (found : store.creatorByHash hash = some row) :
    ∃ row', ((ledger d).run store operations).creatorByHash hash = some row' ∧
      Evolves row row' := by
  refine ledger_invariant (P := fun later => ∃ row', later.creatorByHash hash = some row' ∧
    Evolves row row') ?_ ⟨row, found, .refl row⟩
  rintro later operation later' ⟨row', found', evolves⟩ done
  obtain ⟨row'', found'', installs⟩ := creatorByHash_installed (operate_effect done) found'
  exact ⟨row'', found'', evolves.trans installs.evolves.1⟩

def storedCredentials (store : Store) (hash : LookupHash) : Option (CreatorCredentials × Int) :=
  (store.creatorByHash hash).map fun row => (row.credentials, row.bitcoinAccountGeneration)

theorem storedCredentials_idle {store' : Store} {operation : Operation}
    (effect : Effect d store operation store') (idle : operation.installs d.crypto hash = false) :
    storedCredentials store' hash = storedCredentials store hash := by
  unfold storedCredentials
  cases found : store.creatorByHash hash with
  | some row =>
    have key := lookup_key found
    obtain ⟨row', found', installs⟩ := creatorByHash_installed effect found
    obtain ⟨credentials, generation⟩ := installs.idle (Option.some.inj key ▸ idle)
    rw [found', Option.map_some, Option.map_some, credentials, generation]
  | none =>
    cases found' : store'.creatorByHash hash with
    | none => rfl
    | some row' =>
      have key := lookup_key found'
      have added := ((operate_credentials effect).lookup
        fun _ _ installs => congrArg some installs.creatorLookupHash).2 found row' found'
      rw [Option.some.inj key, idle] at added
      cases added

theorem run_idle {operations : List Operation}
    (idle : ∀ operation ∈ operations, operation.installs d.crypto hash = false) :
    storedCredentials ((ledger d).run store operations) hash = storedCredentials store hash := by
  induction operations generalizing store with
  | nil => rfl
  | cons operation rest ih =>
    rw [System.run_cons, ih fun later member => idle later (.tail _ member)]
    rcases ledger_commit (d := d) with ⟨store', done, same⟩ | ⟨-, same⟩
    · rw [same]
      exact storedCredentials_idle (operate_effect done) (idle operation (.head _))
    · rw [same]

end Runs

namespace RealSetup

variable {d : Deployment} {services : SetupServices} {flow : CreatorSetupCommit}
variable {claim : VerifiedCompanionClaim} {store : Store} {during : List Operation}
variable {received : Except ClaimError (List String)} {published : Except ClaimError Unit}

theorem uncommitted_store
    (failed : (publishReadbackAndCommit d services flow claim store during received
      published).committed = false) :
    (publishReadbackAndCommit d services flow claim store during received published).store =
      (ledger d).run store during := by
  unfold publishReadbackAndCommit at failed ⊢
  cases checked : checkedCommit d services flow claim store received with
  | error e => rfl
  | ok prepared =>
    obtain ⟨existing, credentials, rotation, evidence⟩ := prepared
    cases written : persistCredentials d.crypto d.sdk ((ledger d).run store during) existing
        credentials rotation evidence with
    | error e => simp only [written]
    | ok stored => simp [checked, written] at failed

theorem checkedCommit_creator {existing : Option CreatorCredentials}
    {credentials : CreatorCredentials} {rotation : Bool} {evidence : List String}
    (checked : checkedCommit d services flow claim store received =
      .ok (existing, credentials, rotation, evidence)) : credentials.creator = flow.creator := by
  obtain ⟨_, _, ⟨_, _⟩, combined, checked⟩ := bind₂_eq_ok.mp checked
  obtain ⟨_, _, checked⟩ := bind_eq_ok.mp checked
  cases checked
  obtain ⟨_, _, _, _, _, _, combined⟩ := bind₃_eq_ok.mp combined
  obtain ⟨_, _, combined⟩ := bind_eq_ok.mp combined
  cases combined
  rfl

theorem committed_operation
    (done : (publishReadbackAndCommit d services flow claim store during received
      published).committed = true) :
    ∃ operation : Operation, operation.installs d.crypto (textHash d.crypto flow.creator) = true ∧
      operate d ((ledger d).run store during) operation = .ok
        (publishReadbackAndCommit d services flow claim store during received
          published).store := by
  unfold publishReadbackAndCommit at done ⊢
  cases checked : checkedCommit d services flow claim store received with
  | error e => simp [checked] at done
  | ok prepared =>
    obtain ⟨existing, credentials, rotation, evidence⟩ := prepared
    have named := checkedCommit_creator checked
    cases written : persistCredentials d.crypto d.sdk ((ledger d).run store during) existing
        credentials rotation evidence with
    | error e => simp [checked, written] at done
    | ok stored =>
      simp only [written]
      unfold persistCredentials at written
      split at written
      · exact ⟨.rotateBitcoinAccount credentials evidence,
          decide_eq_true (congrArg _ named), persist_eq_ok.mpr written⟩
      · split at written
        · exact ⟨.reauthenticate credentials, decide_eq_true (congrArg _ named),
            persist_eq_ok.mpr written⟩
        · exact ⟨.createCreator credentials, decide_eq_true (congrArg _ named),
            persist_eq_ok.mpr written⟩

end RealSetup

/-- Credentials evolve as each reconnect and rotation permits: between any two
committed versions of a creator the key generation does not decrease and determines
the secret, a Bitcoin account is not removed and a USDT address not changed; one
commit advances the account generation by one if it replaces the Bitcoin account by a
different one, and otherwise leaves it. An attempt commits one such operation or
leaves credentials and generation as they were. -/
theorem credentials_evolve (d : Deployment) (start : OffsetDateTime) (operations : List Operation) :
    (∀ hash row, (storeAfter d start operations).creatorByHash hash = some row →
      (∀ later, ∃ row',
        (storeAfter d start (operations ++ later)).creatorByHash hash = some row' ∧
          Evolves row row') ∧
      ∀ operation, ∃ row',
        (storeAfter d start (operations ++ [operation])).creatorByHash hash = some row' ∧
          CountsReplacement row row') ∧
    ∀ services flow claim during received published,
      (∀ operation ∈ during,
        operation.installs d.crypto (textHash d.crypto flow.creator) = false) →
      if (RealSetup.publishReadbackAndCommit d services flow claim (storeAfter d start operations)
          during received published).committed then
        ∃ operation : Operation,
          operation.installs d.crypto (textHash d.crypto flow.creator) = true ∧
          (RealSetup.publishReadbackAndCommit d services flow claim (storeAfter d start operations)
            during received published).store =
              storeAfter d start (operations ++ during ++ [operation])
      else
        storedCredentials (RealSetup.publishReadbackAndCommit d services flow claim
            (storeAfter d start operations) during received published).store
            (textHash d.crypto flow.creator) =
          storedCredentials (storeAfter d start operations) (textHash d.crypto flow.creator) := by
  refine ⟨fun hash row found => ⟨fun later => ?_, fun operation => ?_⟩, ?_⟩
  · rw [storeAfter_append]
    exact run_credentials later found
  · rw [storeAfter_concat]
    rcases ledger_commit (d := d) with ⟨store', done, same⟩ | ⟨-, same⟩
    · obtain ⟨row', found', installs⟩ := creatorByHash_installed (operate_effect done) found
      rw [same]
      exact ⟨row', found', installs.evolves.2⟩
    · rw [same]
      exact ⟨row, found, (if_pos rfl).symm⟩
  · intro services flow claim during received published idle
    split
    · rename_i done
      obtain ⟨operation, installs, committed⟩ := RealSetup.committed_operation done
      refine ⟨operation, installs, ?_⟩
      rw [storeAfter_concat, storeAfter_append]
      exact (commit_of_operate committed).symm
    · rename_i failed
      rw [RealSetup.uncommitted_store (Bool.eq_false_iff.mpr failed)]
      exact run_idle idle

end PaykitServer
