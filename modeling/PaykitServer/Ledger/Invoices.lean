import PaykitServer.Ledger.Requests
import PaykitServer.Settlement.Simulation

/-!
# The accounts of invoices under every operation

What settlement reads of an invoice is opened by admission and changed by observation;
no other operation touches it. So every store that a run of operations reaches holds
coherent accounts, and what a whole run does to an invoice is what its observations do.
-/

namespace PaykitServer

open Domain Persistence Application
open Settlement MarketplacePreparations Relational

inductive AccountMoves (d : Deployment) (store : Store) (i : Uuid) (store' : Store) :
    Operation → Prop where
  | kept (operation : Operation) (same : account store'.db i = account store.db i) :
      AccountMoves d store i store' operation
  | opened (operation : Operation) (isAdmission : operation.isAdmission = true)
      (new : NewPayment) (createdAt deadline : OffsetDateTime) (provider : Option ProviderV2Row)
      (closed : account store.db i = .unopened)
      (terms : createdAt < deadline ∧
        ∀ binding ∈ provider, new.usdt = none ∧ deadline = binding.deadline)
      (opened : account store'.db i =
        .opened (new.invoiceRow d.crypto i createdAt deadline) provider) :
      AccountMoves d store i store' operation
  | observed (observation : Observation)
      (done : execute (perform d.toEnvironment) store.db
        (observation.actions d.toEnvironment store) = .ok store'.db) :
      AccountMoves d store i store' (.observe observation)

section Step

variable {d : Deployment} {store store' : Store} {operation : Operation} {i : Uuid}

theorem operate_account (coherent : AllCoherent d.crypto store.db)
    (effect : Effect d store operation store') : AccountMoves d store i store' operation := by
  cases effect with
  | observed observation _ done => exact .observed observation done
  | admitted _ isAdmission new _ _ _ _ _ _ _ _ _ _ _ _ _ _ _ _ rows bound terms =>
    obtain ⟨closed, accounts⟩ := account_admitted (fun i => (coherent i).toGrounded) rows bound
      (by rintro _ member; obtain ⟨_, _, rfl⟩ := Option.map_eq_some_iff.mp member; rfl) _
    have after := accounts i
    split at after
    · rename_i same
      subst same
      refine .opened _ isAdmission _ _ _ _ closed ⟨terms.1, ?_⟩ after
      intro _ member
      obtain ⟨binding, bound, rfl⟩ := Option.map_eq_some_iff.mp member
      exact terms.2 binding bound
    · exact .kept _ after
  | _ => exact .kept _ rfl

theorem operate_coherent (coherent : AllCoherent d.crypto store.db)
    (effect : Effect d store operation store') : AllCoherent d.crypto store'.db := by
  intro i
  cases operate_account coherent effect (i := i) with
  | kept _ same =>
    rw [same]
    exact coherent i
  | opened _ _ new createdAt deadline provider _ terms opened =>
    rw [opened]
    exact .opened new i createdAt deadline provider terms.2
  | observed observation done =>
    refine execute_rule (P := AllCoherent d.crypto) ?_ coherent done i
    exact fun _ _ _ _ coherent performed => coherent.perform performed

end Step

variable {d : Deployment} {start : OffsetDateTime} {operations : List Operation}

theorem committed_coherent {transition : Transition Store Operation}
    (member : transition ∈ committedOperations d start operations) :
    AllCoherent d.crypto transition.before.db ∧
      operate d transition.before transition.action = .ok transition.after :=
  System.history_invariant (P := fun store => AllCoherent d.crypto store.db)
    (fun _ _ _ coherent done => operate_coherent coherent (operate_effect done))
    (AllCoherent.empty d.crypto) member

/-- A step of the account of one invoice: admission opens it, and actions of
observation evolve it. -/
inductive AccountStep (env : Workers.Environment) (i : Uuid) : Account → Account → Prop
  | opened (new : NewPayment) (createdAt deadline : OffsetDateTime)
      (provider : Option ProviderV2Row) (order : createdAt < deadline)
      (terms : ∀ binding ∈ provider, new.usdt = none ∧ deadline = binding.deadline) :
      AccountStep env i .unopened
        (.opened (new.invoiceRow env.crypto i createdAt deadline) provider)
  | evolved {a a' : Account} {action : Action} (observes : action.isObservation = true)
      (evolves : Settlement.Evolves env a action a') : AccountStep env i a a'

/-- The store refines the accounts: under all operations together, the account of an
invoice moves by its own steps only. -/
theorem store_refines_accounts (d : Deployment) (start : OffsetDateTime)
    (operations : List Operation) (i : Uuid) :
    Relation.ReflTransGen (AccountStep d.toEnvironment i) .unopened
      (account (storeAfter d start operations).db i) := by
  refine (storeAfter_invariant (P := fun store => AllCoherent d.crypto store.db ∧
    Relation.ReflTransGen (AccountStep d.toEnvironment i) .unopened (account store.db i))
    ⟨AllCoherent.empty d.crypto, ?_⟩ ?_).2
  · exact (account_empty i).symm ▸ .refl
  · rintro store operation store' ⟨coherent, path⟩ done
    have effect := operate_effect done
    refine ⟨operate_coherent coherent effect, ?_⟩
    cases operate_account coherent effect (i := i) with
    | kept _ same => rwa [same]
    | opened _ _ new createdAt deadline provider closed terms opened =>
      rw [closed] at path
      rw [opened]
      exact path.tail (.opened new createdAt deadline provider terms.1 terms.2)
    | observed observation performed =>
      -- the actions of the observation, one after the other
      refine coherent.execute_rule (P := Relation.ReflTransGen _ _) ?_ path performed
      intro action member a a' _ evolves path
      exact path.tail (.evolved (observation.actions_observe action member) evolves)

end PaykitServer
