import PaykitServer.Relational.Transaction

/-!
# Processes over a transactional system

A process alternates between transactions on a shared state and questions to the
outside. Each of its steps is atomic and sees the state it finds; between two steps
other processes and other requests may run. The past of a process records its steps.

`wp` says what a process guarantees against every such interference: what it may
request and ask after its past, and what it answers. The run rule carries these
guarantees to every interleaving of any number of processes.
-/

namespace Relational

/-- A process: it has an answer, or reads the state, commits a request, or asks a
question, and goes on with what it found. A request is chosen on the state it is
committed to, and that state is what the process goes on with. -/
inductive Process (σ τ ω : Type) (Reply : ω → Type) (ρ : Type) where
  | done (answer : ρ)
  | read (next : σ → Process σ τ ω Reply ρ)
  | commit (request : σ → τ) (next : σ → Process σ τ ω Reply ρ)
  | ask (question : ω) (next : Reply question → Process σ τ ω Reply ρ)

variable {σ τ ω ρ ρ' α ε : Type} {Reply : ω → Type}

inductive Step (σ τ ω : Type) (Reply : ω → Type) where
  | read (found : σ)
  | commit (found : σ) (request : τ)
  | ask (question : ω) (reply : Reply question)

namespace Process

def bind (next : ρ → Process σ τ ω Reply ρ') : Process σ τ ω Reply ρ → Process σ τ ω Reply ρ'
  | done answer => next answer
  | read step => read fun s => (step s).bind next
  | commit request step => commit request fun s => (step s).bind next
  | ask question step => ask question fun reply => (step reply).bind next

instance : Monad (Process σ τ ω Reply) where
  pure := done
  bind process next := process.bind next

def query (view : σ → ρ) : Process σ τ ω Reply ρ := read fun s => done (view s)

def submit (request : σ → τ) (result : σ → ρ) : Process σ τ ω Reply ρ :=
  commit request fun s => done (result s)

def consult (question : ω) : Process σ τ ω Reply (Reply question) := ask question done

end Process

def System.Reaches (system : System σ α ε τ) (s s' : σ) : Prop :=
  ∃ requests, s' = system.run s requests

namespace System.Reaches

variable {system : System σ α ε τ} {s s' s'' : σ}

theorem refl (s : σ) : system.Reaches s s := ⟨[], rfl⟩

theorem trans (first : system.Reaches s s') (second : system.Reaches s' s'') :
    system.Reaches s s'' := by
  obtain ⟨early, rfl⟩ := first
  obtain ⟨late, rfl⟩ := second
  exact ⟨early ++ late, System.run_append.symm⟩

end System.Reaches

namespace Process

section Guarantees

variable (system : System σ α ε τ) (may : List (Step σ τ ω Reply) → σ → τ → Prop)
  (asks : List (Step σ τ ω Reply) → ω → Prop)

/-- Whatever others request between its steps, the process requests and asks only what
it may, and its answer meets the postcondition. The state is the one its last step left. -/
def wp (post : List (Step σ τ ω Reply) → σ → ρ → Prop) :
    Process σ τ ω Reply ρ → List (Step σ τ ω Reply) → σ → Prop
  | done answer, past, s => post past s answer
  | read next, past, s => ∀ s', system.Reaches s s' → (next s').wp post (past ++ [.read s']) s'
  | commit request next, past, s => ∀ s', system.Reaches s s' → may past s' (request s') ∧
      (next s').wp post (past ++ [.commit s' (request s')]) (system.commit s' (request s'))
  | ask question next, past, s => asks past question ∧
      ∀ reply, (next reply).wp post (past ++ [.ask question reply]) s

variable {system may asks} {past : List (Step σ τ ω Reply)} {s : σ}
  {post : List (Step σ τ ω Reply) → σ → ρ' → Prop}

theorem wp_bind {process : Process σ τ ω Reply ρ} {next : ρ → Process σ τ ω Reply ρ'} :
    (process >>= next).wp system may asks post past s ↔
      process.wp system may asks (fun past s answer => (next answer).wp system may asks post past s)
        past s := by
  show (process.bind next).wp system may asks post past s ↔ _
  induction process generalizing past s with
  | done answer => rfl
  | read step ih => exact forall₂_congr fun s' _ => ih s'
  | commit request step ih => exact forall₂_congr fun s' _ => and_congr_right fun _ => ih s'
  | ask question step ih => exact and_congr_right fun _ => forall_congr' fun reply => ih reply

theorem wp_run_bind {δ β γ : Type} {process : ExceptT δ (Process σ τ ω Reply) β}
    {next : β → ExceptT δ (Process σ τ ω Reply) γ}
    {post : List (Step σ τ ω Reply) → σ → Except δ γ → Prop} :
    (process >>= next).run.wp system may asks post past s ↔
      process.run.wp system may asks (fun past s answer =>
        match answer with
        | .ok b => (next b).run.wp system may asks post past s
        | .error failure => post past s (.error failure)) past s := by
  refine wp_bind.trans (iff_of_eq (congrArg (fun post => Process.wp system may asks post _ _ _) ?_))
  funext past s answer
  cases answer <;> rfl

end Guarantees

end Process

section Interleaving

structure Local (σ τ ω : Type) (Reply : ω → Type) (ρ : Type) where
  process : Process σ τ ω Reply ρ
  past : List (Step σ τ ω Reply)

/-- The shared state, and the processes that work on it. -/
structure Config (σ τ ω : Type) (Reply : ω → Type) (ρ : Type) where
  state : σ
  locals : Nat → Local σ τ ω Reply ρ

/-- Who is next: a request of someone else, or a process with a reply to what it asks. -/
inductive Turn (τ ω : Type) (Reply : ω → Type) (Allowed : τ → Prop) where
  | others (request : τ) (allowed : Allowed request)
  | advance (index : Nat) (oracle : ∀ question, Reply question)

variable (system : System σ α ε τ) {Allowed : τ → Prop}

def Local.advance (s : σ) (oracle : ∀ question, Reply question)
    (here : Local σ τ ω Reply ρ) : Local σ τ ω Reply ρ :=
  match here.process with
  | .done _ => here
  | .read next => ⟨next s, here.past ++ [.read s]⟩
  | .commit request next => ⟨next s, here.past ++ [.commit s (request s)]⟩
  | .ask question next =>
    ⟨next (oracle question), here.past ++ [.ask question (oracle question)]⟩

def Local.request? (s : σ) (here : Local σ τ ω Reply ρ) : Option τ :=
  match here.process with
  | .commit request _ => some (request s)
  | .done _ | .read _ | .ask _ _ => none

namespace Config

def request? (config : Config σ τ ω Reply ρ) : Turn τ ω Reply Allowed → Option τ
  | .others request _ => some request
  | .advance index _ => (config.locals index).request? config.state

def turn (config : Config σ τ ω Reply ρ) (turn : Turn τ ω Reply Allowed) :
    Config σ τ ω Reply ρ where
  state := system.run config.state (config.request? turn).toList
  locals :=
    match turn with
    | .others _ _ => config.locals
    | .advance index oracle => Function.update config.locals index
        ((config.locals index).advance config.state oracle)

/-- The requests of a run, in the order they took effect. -/
def requests : Config σ τ ω Reply ρ → List (Turn τ ω Reply Allowed) → List τ
  | _, [] => []
  | config, turn :: turns =>
    (config.request? turn).toList ++ (config.turn system turn).requests turns

variable {system} {config : Config σ τ ω Reply ρ} {turns : List (Turn τ ω Reply Allowed)}

variable (system) (may : Nat → List (Step σ τ ω Reply) → σ → τ → Prop)
  (asks : Nat → List (Step σ τ ω Reply) → ω → Prop)
  (post : Nat → List (Step σ τ ω Reply) → σ → ρ → Prop)

/-- Every process keeps its guarantees from where its last step left the state. -/
def Guarded (config : Config σ τ ω Reply ρ) : Prop :=
  ∀ index, ∃ last, system.Reaches last config.state ∧
    (config.locals index).process.wp system (may index) (asks index) (post index)
      (config.locals index).past last

variable {system may asks post}

theorem Guarded.turn (guarded : config.Guarded system may asks post)
    (turn : Turn τ ω Reply Allowed) : (config.turn system turn).Guarded system may asks post := by
  have later : ∀ last, system.Reaches last config.state →
      system.Reaches last (config.turn system turn).state :=
    fun last reached => reached.trans ⟨_, rfl⟩
  intro other
  obtain ⟨last, reached, holds⟩ := guarded other
  cases turn with
  | others request allowed => exact ⟨last, later last reached, holds⟩
  | advance index oracle =>
    by_cases same : other = index
    · subst same
      simp only [Config.turn, request?, Function.update_self, Local.advance, Local.request?]
      cases process : (config.locals other).process with
      | done answer =>
        rw [process] at holds
        exact ⟨last, reached, by rw [process]; exact holds⟩
      | read next =>
        rw [process] at holds
        exact ⟨config.state, .refl _, holds _ reached⟩
      | commit request next =>
        rw [process] at holds
        exact ⟨_, .refl _, (holds _ reached).2⟩
      | ask question next =>
        rw [process] at holds
        exact ⟨last, reached, holds.2 (oracle question)⟩
    · refine ⟨last, later last reached, ?_⟩
      simpa only [Config.turn, Function.update_of_ne same] using holds

theorem Guarded.requested (guarded : config.Guarded system may asks post)
    {turn : Turn τ ω Reply Allowed} {request : τ} (requested : config.request? turn = some request) :
    Allowed request ∨ ∃ index, may index (config.locals index).past config.state request := by
  cases turn with
  | others other allowed =>
    cases requested
    exact .inl allowed
  | advance index oracle =>
    obtain ⟨last, reached, holds⟩ := guarded index
    simp only [request?, Local.request?] at requested
    cases process : (config.locals index).process with
    | commit other next =>
      rw [process] at requested holds
      cases requested
      exact .inr ⟨index, (holds _ reached).1⟩
    | done | read | ask =>
      rw [process] at requested
      cases requested

/-- Every action of an interleaving belongs to a request that its issuer may make. -/
theorem Guarded.history (guarded : config.Guarded system may asks post)
    {transition : Transition σ α}
    (member : transition ∈ system.history config.state (config.requests system turns)) :
    ∃ s request, system.Reaches config.state s ∧ transition ∈ system.committed s request ∧
      (Allowed request ∨ ∃ index past, may index past s request) := by
  induction turns generalizing config with
  | nil => cases member
  | cons turn turns ih =>
    rw [requests, System.history_append, List.mem_append] at member
    rcases member with here | later
    · cases requested : config.request? turn with
      | none =>
        rw [requested] at here
        cases here
      | some request =>
        rw [requested] at here
        refine ⟨config.state, request, .refl _, by simpa [System.history] using here, ?_⟩
        rcases guarded.requested requested with allowed | ⟨index, holds⟩
        · exact .inl allowed
        · exact .inr ⟨index, _, holds⟩
    · obtain ⟨s, request, reached, rest⟩ := ih (guarded.turn turn) later
      exact ⟨s, request, System.Reaches.trans ⟨_, rfl⟩ reached, rest⟩

end Config

end Interleaving

end Relational
