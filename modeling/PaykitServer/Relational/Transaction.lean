import PaykitServer.Relational.Statement

/-!
# Transactions, runs and their histories

A system performs transactions, and a transaction performs a list of actions.
Either every action succeeds and the transaction commits, or the state is left
as it was. The history of a run lists the actions of its committed transactions
in the order they took effect, each with the states around it; nothing that was
rolled back appears in it.

Rules carry proofs from one action to a whole run: an invariant rule, rules for
properties that mention the history, a rule that finds the action by which a
run leaves a set of states, and a rule that says exactly which requests keep a
property.
-/

namespace Relational

variable {σ α ε τ : Type}

/-- Perform actions in order, stopping at the first error. -/
def execute (perform : σ → α → Except ε σ) : σ → List α → Except ε σ
  | s, [] => .ok s
  | s, action :: rest => perform s action >>= fun s' => execute perform s' rest

/-- One performed action with the states around it. -/
structure Transition (σ α : Type) where
  before : σ
  action : α
  after : σ

/-- The performed actions of a sequence, up to the first error. -/
def transitions (perform : σ → α → Except ε σ) : σ → List α → List (Transition σ α)
  | _, [] => []
  | s, action :: rest =>
    match perform s action with
    | .ok s' => ⟨s, action, s'⟩ :: transitions perform s' rest
    | .error _ => []

section Execute

variable {perform : σ → α → Except ε σ} {s s' : σ}

theorem execute_cons {action : α} {rest : List α} :
    execute perform s (action :: rest) =
      perform s action >>= fun s' => execute perform s' rest := rfl

theorem execute_singleton {action : α} : execute perform s [action] = perform s action := by
  rw [execute_cons]
  cases perform s action <;> rfl

theorem execute_append {first rest : List α} :
    execute perform s (first ++ rest) =
      execute perform s first >>= fun s' => execute perform s' rest := by
  induction first generalizing s with
  | nil => rfl
  | cons action first ih =>
    rw [List.cons_append, execute_cons, execute_cons]
    cases perform s action with
    | error e => rfl
    | ok s' => exact ih

/-- What every action of a transaction keeps, the transaction keeps. -/
theorem execute_rule {P : σ → Prop} {actions : List α}
    (step : ∀ action ∈ actions, ∀ s s', P s → perform s action = .ok s' → P s')
    (init : P s) (done : execute perform s actions = .ok s') : P s' := by
  induction actions generalizing s with
  | nil =>
    cases done
    exact init
  | cons action rest ih =>
    obtain ⟨mid, performed, done⟩ := bind_eq_ok.mp (execute_cons ▸ done)
    refine ih (fun later member => step later (.tail _ member)) ?_ done
    exact step action (.head _) s mid init performed

theorem transitions_rule {Q : List (Transition σ α) → σ → Prop}
    (step : ∀ history s action s', Q history s → perform s action = .ok s' →
      Q (history ++ [⟨s, action, s'⟩]) s')
    {history : List (Transition σ α)} {actions : List α}
    (init : Q history s) (done : execute perform s actions = .ok s') :
    Q (history ++ transitions perform s actions) s' := by
  induction actions generalizing s history with
  | nil =>
    cases done
    simpa [transitions] using init
  | cons action rest ih =>
    obtain ⟨mid, hperform, hrest⟩ := bind_eq_ok.mp (execute_cons ▸ done)
    have extended := ih (step history s action mid init hperform) hrest
    simpa only [transitions, hperform, List.append_assoc, List.singleton_append] using extended

end Execute

/-- What a system does with a request: the actions it performs in one transaction. -/
structure System (σ α ε τ : Type) where
  perform : σ → α → Except ε σ
  actions : τ → List α

namespace System

/-- A machine of single events: an event that cannot happen leaves the state as it is. -/
def ofEvents (perform : σ → α → Except ε σ) : System σ α ε α where
  perform := perform
  actions event := [event]

variable (system : System σ α ε τ)

/-- The state after a request: unchanged unless its transaction commits. -/
def commit (s : σ) (request : τ) : σ :=
  match execute system.perform s (system.actions request) with
  | .ok s' => s'
  | .error _ => s

/-- The actions a request performed, none if it was rolled back. -/
def committed (s : σ) (request : τ) : List (Transition σ α) :=
  match execute system.perform s (system.actions request) with
  | .ok _ => transitions system.perform s (system.actions request)
  | .error _ => []

def run (s : σ) (requests : List τ) : σ := requests.foldl system.commit s

/-- The actions of all committed transactions, in the order they took effect. -/
def history : σ → List τ → List (Transition σ α)
  | _, [] => []
  | s, request :: rest => system.committed s request ++ history (system.commit s request) rest

variable {system} {s s' : σ} {request : τ} {requests : List τ}

@[simp] theorem run_nil : system.run s [] = s := rfl

@[simp] theorem run_cons :
    system.run s (request :: requests) = system.run (system.commit s request) requests := rfl

theorem run_append {first rest : List τ} :
    system.run s (first ++ rest) = system.run (system.run s first) rest := by
  simp only [run, List.foldl_append]

theorem history_append {first rest : List τ} :
    system.history s (first ++ rest) =
      system.history s first ++ system.history (system.run s first) rest := by
  induction first generalizing s with
  | nil => rfl
  | cons request first ih => simp only [List.cons_append, history, run_cons, ih, List.append_assoc]

theorem commit_of_ok (done : execute system.perform s (system.actions request) = .ok s') :
    system.commit s request = s' := by
  simp only [commit, done]

theorem commit_of_error {e : ε}
    (failed : execute system.perform s (system.actions request) = .error e) :
    system.commit s request = s := by
  simp only [commit, failed]

variable {perform : σ → α → Except ε σ} {P : σ → Prop} {earlier later : List (Transition σ α)}
  {transition : Transition σ α}

theorem ofEvents_commit {event : α}
    (performed : perform s event = .ok s') : (ofEvents perform).commit s event = s' :=
  commit_of_ok (execute_singleton.trans performed)

theorem ofEvents_history {event : α} {events : List α} (performed : perform s event = .ok s') :
    (ofEvents perform).history s (event :: events) =
      ⟨s, event, s'⟩ :: (ofEvents perform).history s' events := by
  have done : execute perform s [event] = .ok s' := execute_singleton.trans performed
  rw [history, ofEvents_commit performed]
  simp [committed, ofEvents, done, transitions, performed]

theorem history_rule_from {Q : List (Transition σ α) → σ → Prop}
    (step : ∀ history s action s', Q history s → system.perform s action = .ok s' →
      Q (history ++ [⟨s, action, s'⟩]) s')
    {past : List (Transition σ α)} (init : Q past s) :
    Q (past ++ system.history s requests) (system.run s requests) := by
  induction requests generalizing s past with
  | nil => simpa [history] using init
  | cons request requests ih =>
    have performed : Q (past ++ system.committed s request) (system.commit s request) := by
      unfold committed commit
      split
      · rename_i s' done
        exact transitions_rule step init done
      · simpa using init
    simpa only [history, run_cons, List.append_assoc] using ih performed

/-- A property of the history and the current state holds throughout every run
when it holds at the start and every action extends it. -/
theorem history_rule (Q : List (Transition σ α) → σ → Prop)
    (step : ∀ history s action s', Q history s → system.perform s action = .ok s' →
      Q (history ++ [⟨s, action, s'⟩]) s')
    (init : Q [] s) : Q (system.history s requests) (system.run s requests) := by
  simpa only [List.nil_append] using history_rule_from step init

theorem run_invariant (step : ∀ s action s', P s → system.perform s action = .ok s' → P s')
    (init : P s) : P (system.run s requests) :=
  history_rule (fun _ s => P s) (fun _ s action s' => step s action s') init

/-- When every action extends `Q` and, after what was performed before it, meets
`R`, then `R` holds at every place of a history. -/
theorem history_split_rule (Q : List (Transition σ α) → σ → Prop)
    (R : List (Transition σ α) → Transition σ α → Prop)
    (step : ∀ history s action s', Q history s → system.perform s action = .ok s' →
      Q (history ++ [⟨s, action, s'⟩]) s' ∧ R history ⟨s, action, s'⟩)
    (init : Q [] s)
    (split : system.history s requests = earlier ++ transition :: later) :
    R earlier transition := by
  suffices all : Q (system.history s requests) (system.run s requests) ∧
      ∀ earlier transition later, system.history s requests = earlier ++ transition :: later →
        R earlier transition from all.2 earlier transition later split
  refine history_rule (fun history s => Q history s ∧ ∀ earlier transition later,
    history = earlier ++ transition :: later → R earlier transition) ?_ ⟨init, by simp⟩
  rintro history s action s' ⟨holds, splits⟩ performed
  obtain ⟨extended, here⟩ := step history s action s' holds performed
  refine ⟨extended, ?_⟩
  intro earlier transition later split
  rcases List.eq_nil_or_concat later with rfl | ⟨later, last, rfl⟩
  · obtain ⟨rfl, same⟩ := List.append_inj' split rfl
    cases same
    exact here
  · rw [List.concat_eq_append, ← List.cons_append, ← List.append_assoc] at split
    obtain ⟨rfl, -⟩ := List.append_inj' split rfl
    exact splits earlier transition later rfl

/-- What holds of no action at all, and is extended by every action that meets `H`,
holds of each stretch of a history whose actions all meet `H`. -/
theorem segment_rule {H : Transition σ α → Prop} (R : List (Transition σ α) → σ → Prop)
    (invariant : ∀ s action s', P s → system.perform s action = .ok s' → P s')
    (empty : ∀ s, P s → R [] s)
    (step : ∀ stretch s action s', P s → R stretch s → H ⟨s, action, s'⟩ →
      system.perform s action = .ok s' → R (stretch ++ [⟨s, action, s'⟩]) s')
    (init : P s) {stretch : List (Transition σ α)}
    (split : system.history s requests = earlier ++ stretch ++ later)
    (meets : ∀ t ∈ stretch, H t) : ∃ s', R stretch s' := by
  suffices all : P (system.run s requests) ∧ ∀ earlier stretch later,
      system.history s requests = earlier ++ stretch ++ later → (∀ t ∈ stretch, H t) →
        ∃ s', R stretch s' ∧ (later = [] → s' = system.run s requests) by
    obtain ⟨s', holds, -⟩ := all.2 earlier stretch later split meets
    exact ⟨s', holds⟩
  refine history_rule (fun history s => P s ∧ ∀ earlier stretch later,
    history = earlier ++ stretch ++ later → (∀ t ∈ stretch, H t) →
      ∃ s', R stretch s' ∧ (later = [] → s' = s)) ?_ ⟨init, ?_⟩
  · rintro history s action s' ⟨holds, stretches⟩ performed
    have kept := invariant s action s' holds performed
    refine ⟨kept, ?_⟩
    intro earlier stretch later split meets
    rcases List.eq_nil_or_concat later with rfl | ⟨later, last, rfl⟩
    · rcases List.eq_nil_or_concat stretch with rfl | ⟨stretch, last, rfl⟩
      · exact ⟨s', empty s' kept, fun _ => rfl⟩
      · rw [List.append_nil, List.concat_eq_append, ← List.append_assoc] at split
        obtain ⟨rfl, same⟩ := List.append_inj' split rfl
        cases same
        obtain ⟨_, extended, here⟩ := stretches earlier stretch [] (by simp)
          fun t member => meets t (by simp [member])
        cases here rfl
        rw [List.concat_eq_append]
        exact ⟨s', step stretch s action s' holds extended (meets _ (by simp)) performed,
          fun _ => rfl⟩
    · rw [List.concat_eq_append, ← List.append_assoc] at split
      obtain ⟨rfl, -⟩ := List.append_inj' split rfl
      obtain ⟨s'', extended, -⟩ := stretches earlier stretch later rfl meets
      exact ⟨s'', extended, by simp⟩
  · intro earlier stretch later split _
    have nothing : stretch = [] := by
      have none := congrArg List.length split
      simp only [List.length_nil, List.length_append] at none
      exact List.eq_nil_of_length_eq_zero (by omega)
    rw [nothing]
    exact ⟨s, empty s init, fun _ => rfl⟩

theorem history_invariant (step : ∀ s action s', P s → system.perform s action = .ok s' → P s')
    (init : P s) (member : transition ∈ system.history s requests) :
    P transition.before ∧
      system.perform transition.before transition.action = .ok transition.after := by
  obtain ⟨earlier, later, split⟩ := List.append_of_mem member
  refine history_split_rule (fun _ s => P s)
    (fun _ t => P t.before ∧ system.perform t.before t.action = .ok t.after) ?_ init split
  intro _ s action s' holds performed
  exact ⟨step s action s' holds performed, holds, performed⟩

/-- What some action of the history establishes and all later ones keep holds now. -/
private def Since (system : System σ α ε τ) (P : σ → Prop) (history : List (Transition σ α))
    (s : σ) : Prop :=
  ∀ earlier transition later, history = earlier ++ transition :: later → P transition.after →
    (∀ t ∈ later, P t.before → system.perform t.before t.action = .ok t.after → P t.after) → P s

private theorem since_step (history : List (Transition σ α)) (s : σ) (action : α)
    (s' : σ) (holds : Since system P history s) (performed : system.perform s action = .ok s') :
    Since system P (history ++ [⟨s, action, s'⟩]) s' := by
  intro earlier transition later split established keeps
  rcases List.eq_nil_or_concat later with rfl | ⟨later, last, rfl⟩
  · obtain ⟨rfl, same⟩ := List.append_inj' split rfl
    cases same
    exact established
  · rw [List.concat_eq_append, ← List.cons_append, ← List.append_assoc] at split
    obtain ⟨rfl, same⟩ := List.append_inj' split rfl
    cases same
    have before := holds earlier transition later rfl established
      fun t member => keeps t (by simp [member])
    exact keeps ⟨s, action, s'⟩ (by simp) before performed

theorem history_after (split : system.history s requests = earlier ++ transition :: later)
    (established : P transition.after)
    (keeps : ∀ t ∈ later, P t.before → system.perform t.before t.action = .ok t.after → P t.after) :
    P (system.run s requests) :=
  history_rule (Since system P) since_step (by simp [Since]) earlier transition later split
    established keeps

/-- A property holds in every state of a run exactly when every request keeps it,
where the step hypothesis says what keeping it takes. -/
theorem prefixes_iff {I : σ → Prop} {K : σ → τ → Prop}
    (invariant : ∀ s request, I s → I (system.commit s request))
    (step : ∀ s request, I s → P s → (P (system.commit s request) ↔ K s request))
    (init : I s) (start : P s) :
    (∀ n, P (system.run s (requests.take n))) ↔
      ∀ n request, requests[n]? = some request → K (system.run s (requests.take n)) request := by
  induction requests generalizing s with
  | nil => simpa using start
  | cons first rest ih =>
    constructor
    · intro holds n request found
      have next : P (system.commit s first) := holds 1
      cases n with
      | zero =>
        cases found
        exact (step s first init start).mp next
      | succ n =>
        exact (ih (invariant s first init) next).mp (fun n => holds (n + 1)) n request found
    · intro keeps n
      cases n with
      | zero => exact start
      | succ n =>
        have next := (step s first init start).mpr (keeps 0 first rfl)
        exact (ih (invariant s first init) next).mpr
          (fun n request found => keeps (n + 1) request found) n

theorem leaves_before (Inside : σ → Prop) (init : Inside s)
    (split : system.history s requests = earlier ++ transition :: later)
    (outside : ¬ Inside transition.after) :
    ∃ t ∈ earlier ++ [transition], Inside t.before ∧ ¬ Inside t.after := by
  refine history_split_rule
    (fun history s => Inside s ∨ ∃ t ∈ history, Inside t.before ∧ ¬ Inside t.after)
    (fun earlier transition => ¬ Inside transition.after →
      ∃ t ∈ earlier ++ [transition], Inside t.before ∧ ¬ Inside t.after)
    ?_ (.inl init) split outside
  intro history s action s' inside performed
  have left : ¬ Inside s' → ∃ t ∈ history ++ [⟨s, action, s'⟩],
      Inside t.before ∧ ¬ Inside t.after := by
    intro out
    rcases inside with inside | ⟨t, member, leaves⟩
    · exact ⟨⟨s, action, s'⟩, by simp, inside, out⟩
    · exact ⟨t, by simp [member], leaves⟩
  by_cases stays : Inside s'
  · exact ⟨.inl stays, left⟩
  · exact ⟨.inr (left stays), left⟩

end System

end Relational
