import PaykitServer.Operations
import PaykitServer.Persistence.Invoices.RequestStatus

/-!
# How a drain classifies requests

A drain and a status read both reduce the attempts of an invoice to one state. The
drain folds over the attempts in the order of their request identities, the status
read is one ordered query. They agree wherever an attempt is accepted or still open;
among closed attempts they break ties between equal event times differently.
-/

namespace PaykitServer

open Domain Persistence Application
open PaymentDrains Relational

def attemptsFor (store : Store) (invoiceId : Uuid) : List LifecycleRow :=
  store.lifecycles.rows.filter (·.invoiceId = some invoiceId)

/-- A state that a drain can classify. -/
def supported (state : PaymentRequestLifecycleState) : Bool :=
  state ≠ .invalidConflict && state ≠ .recoveryRequired

/-- What the classification of a drained invoice says about its request. -/
def agrees : DrainClassification → PaymentRequestLifecycleState → Bool
  | .accepted, state => state.isAccepted
  | .cancellationEnqueued, state => state = .proposed
  | .rejected, state => state = .rejected
  | .canceled, state => state = .canceled
  | .proposalExpired, state => state = .proposalExpired

/-- One attempt has a later event than another, or one as late under a greater identity. -/
def Outlasts (latest attempt : LifecycleRow) : Prop :=
  attempt.lastEventAt ≤ latest.lastEventAt ∧ (attempt.lastEventAt = latest.lastEventAt →
    attempt.sdkPaymentRequestId ≤ latest.sdkPaymentRequestId)

/-- Among the attempts with the latest event, the last one by request identity has the
greatest state text. -/
def TieOrdered (attempts : List LifecycleRow) : Prop :=
  ∀ last ∈ attempts, (∀ attempt ∈ attempts, Outlasts last attempt) →
    ∀ attempt ∈ attempts, attempt.lastEventAt = last.lastEventAt →
      attempt.requestState.asStr ≤ last.requestState.asStr

section States

variable {state other : PaymentRequestLifecycleState}

theorem asStr_injective : Function.Injective PaymentRequestLifecycleState.asStr := by
  intro state other same
  cases state <;> cases other <;> first | rfl | exact absurd same (by decide)

theorem isAccepted_iff_rank (classified : supported state = true) :
    state.isAccepted = true ↔ 5 ≤ state.rank := by
  revert classified
  cases state <;> decide

theorem proposed_iff_rank : state = .proposed ↔ state.rank = 4 := by
  cases state <;> decide

theorem terminalClassification_supported (known : supported state = true)
    (unaccepted : state.isAccepted = false) (unproposed : state ≠ .proposed) :
    ∃ c, terminalClassification state = .ok c := by
  cases state with
  | rejected | canceled | proposalExpired => exact ⟨_, rfl⟩
  | proposed => exact absurd rfl unproposed
  | accepted | proofSubmitted | activeRecurring => cases unaccepted
  | invalidConflict | recoveryRequired => cases known

theorem rank_of_terminal (known : supported state = true) (unaccepted : state.isAccepted = false)
    (unproposed : state ≠ .proposed) : state.rank = 0 := by
  obtain ⟨c, terminal⟩ := terminalClassification_supported known unaccepted unproposed
  cases state <;> first | rfl | cases terminal

theorem terminalClassification_agrees {c : DrainClassification}
    (terminal : terminalClassification state = .ok c) : agrees c other = true ↔ other = state := by
  cases state with
  | rejected | canceled | proposalExpired =>
    cases terminal
    simp [agrees]
  | _ => cases terminal

end States

section Leading

variable {attempts : List LifecycleRow} {lead latest : LifecycleRow}

/-- An attempt that is not read before another. -/
def Follows (attempt lead : LifecycleRow) : Prop :=
  toLex (attempt.requestState.rank, toLex (attempt.lastEventAt, attempt.requestState.asStr)) ≤
    toLex (lead.requestState.rank, toLex (lead.lastEventAt, lead.requestState.asStr))

theorem follows_iff {attempt : LifecycleRow} :
    Follows attempt lead ↔ attempt.requestState.rank < lead.requestState.rank ∨
      attempt.requestState.rank = lead.requestState.rank ∧
        (attempt.lastEventAt < lead.lastEventAt ∨ attempt.lastEventAt = lead.lastEventAt ∧
          attempt.requestState.asStr ≤ lead.requestState.asStr) := by
  simp only [Follows, Prod.Lex.toLex_le_toLex]

theorem not_precedes_iff {attempt : LifecycleRow} :
    attempt.precedes lead = false ↔ Follows attempt lead := by
  rw [Follows, ← not_lt, Bool.eq_false_iff, not_iff_not, Prod.Lex.toLex_lt_toLex,
    Prod.Lex.toLex_lt_toLex]
  simp only [LifecycleRow.precedes, Bool.or_eq_true, Bool.and_eq_true, decide_eq_true_eq]
  grind

theorem leadingAttempt_some (found : leadingAttempt attempts = some lead) :
    lead ∈ attempts ∧ ∀ attempt ∈ attempts, Follows attempt lead := by
  cases attempts with
  | nil => cases found
  | cons first rest =>
    cases found
    refine foldl_choose (P := fun _ _ => True) (R := Follows) (fun _ => le_rfl)
      (fun _ _ _ => le_trans) (fun best attempt _ => ?_) rest first
      (List.pairwise_of_forall fun _ _ => trivial)
    cases order : attempt.precedes best with
    | false => exact ⟨.inl rfl, le_rfl, not_precedes_iff.mp order⟩
    | true =>
      refine ⟨.inr rfl, ?_, le_rfl⟩
      have ahead : ¬ Follows attempt best := by
        rw [← not_precedes_iff, order]
        simp
      exact le_of_not_ge ahead

theorem Outlasts.trans {a b c : LifecycleRow} (first : Outlasts b a) (second : Outlasts c b) :
    Outlasts c a := by
  refine ⟨first.1.trans second.1, fun same => ?_⟩
  have early : a.lastEventAt = b.lastEventAt := le_antisymm first.1 (same ▸ second.1)
  exact (first.2 early).trans (second.2 (early ▸ same))

def parsedAttempt (attempt : LifecycleRow) : ParsedAttempt :=
  ⟨attempt.requestState, some attempt.sdkPaymentRequestId, some attempt.lastEventAt⟩

theorem latestAttempt_mem {attempts : List ParsedAttempt} {found : ParsedAttempt}
    (chosen : latestAttempt attempts = some found) : found ∈ attempts := by
  cases attempts with
  | nil => cases chosen
  | cons first rest =>
    cases chosen
    refine (foldl_choose (P := fun _ _ => True) (R := fun _ _ => True) (fun _ => trivial)
      (fun _ _ _ _ _ => trivial) (fun best attempt _ => ⟨?_, trivial, trivial⟩) rest first
      (List.pairwise_of_forall fun _ _ => trivial)).1
    split
    · exact .inr rfl
    · exact .inl rfl

theorem latestAttempt_some {found : ParsedAttempt}
    (ordered : attempts.Pairwise (·.sdkPaymentRequestId ≤ ·.sdkPaymentRequestId))
    (chosen : latestAttempt (attempts.map parsedAttempt) = some found) :
    ∃ latest ∈ attempts, found = parsedAttempt latest ∧ ∀ attempt ∈ attempts, Outlasts latest attempt := by
  cases attempts with
  | nil => cases chosen
  | cons first rest =>
    let pick := fun latest attempt : LifecycleRow =>
      if latest.lastEventAt ≤ attempt.lastEventAt then attempt else latest
    have picks : ∀ best attempt, best.sdkPaymentRequestId ≤ attempt.sdkPaymentRequestId →
        (pick best attempt = best ∨ pick best attempt = attempt) ∧
          Outlasts (pick best attempt) best ∧ Outlasts (pick best attempt) attempt := by
      intro best attempt order
      by_cases later : best.lastEventAt ≤ attempt.lastEventAt
      · rw [show pick best attempt = attempt from if_pos later]
        exact ⟨.inr rfl, ⟨later, fun _ => order⟩, le_rfl, fun _ => le_rfl⟩
      · rw [show pick best attempt = best from if_neg later]
        refine ⟨.inl rfl, ⟨le_rfl, fun _ => le_rfl⟩, le_of_not_ge later, fun same => ?_⟩
        exact absurd same.ge later
    obtain ⟨member, all⟩ := foldl_choose (R := fun attempt latest => Outlasts latest attempt)
      (fun _ => ⟨le_rfl, fun _ => le_rfl⟩) (fun _ _ _ => .trans) picks rest first ordered
    refine ⟨rest.foldl pick first, member, ?_, all⟩
    cases chosen
    rw [List.foldl_map]
    refine List.foldl_hom parsedAttempt fun latest attempt => ?_
    simp only [parsedAttempt, pick, Option.elim_some, Option.any_some, decide_eq_true_eq]
    split <;> rfl

end Leading

section Agreement

variable {store : Store} {invoiceId : Uuid} {attempts : List LifecycleRow}

def classification (store : Store) (invoiceId : Uuid) :
    Except PersistenceError DrainClassification :=
  parsedAttempts store invoiceId >>= classify

theorem mem_invoiceAttempts {attempt : LifecycleRow} :
    attempt ∈ invoiceAttempts store invoiceId ↔ attempt ∈ attemptsFor store invoiceId :=
  List.mem_insertionSort _

theorem invoiceAttempts_ordered : (invoiceAttempts store invoiceId).Pairwise
    (·.sdkPaymentRequestId ≤ ·.sdkPaymentRequestId) :=
  List.pairwise_insertionSort _ _

theorem parsedAttempts_of_attempts (attempted : attemptsFor store invoiceId ≠ []) :
    parsedAttempts store invoiceId = .ok ((invoiceAttempts store invoiceId).map parsedAttempt) := by
  unfold parsedAttempts
  split
  · rename_i none
    obtain ⟨attempt, stored⟩ := List.exists_mem_of_ne_nil _ attempted
    have listed := mem_invoiceAttempts.mpr stored
    rw [none] at listed
    cases listed
  · rfl

inductive Classified (attempts : List LifecycleRow) : DrainClassification → Prop where
  | accepted (attempt : LifecycleRow) (listed : attempt ∈ attempts)
      (accepted : attempt.requestState.isAccepted = true) : Classified attempts .accepted
  | proposed (unaccepted : ∀ attempt ∈ attempts, attempt.requestState.isAccepted = false)
      (attempt : LifecycleRow) (listed : attempt ∈ attempts)
      (proposed : attempt.requestState = .proposed) : Classified attempts .cancellationEnqueued
  | terminal (closed : ∀ attempt ∈ attempts, attempt.requestState.isAccepted = false ∧
      attempt.requestState ≠ .proposed) (latest : LifecycleRow) (listed : latest ∈ attempts)
      (last : ∀ attempt ∈ attempts, Outlasts latest attempt) (c : DrainClassification)
      (state : terminalClassification latest.requestState = .ok c) : Classified attempts c

variable {c : DrainClassification} {state : PaymentRequestLifecycleState}

theorem classify_ok (ordered : attempts.Pairwise (·.sdkPaymentRequestId ≤ ·.sdkPaymentRequestId))
    (done : classify (attempts.map parsedAttempt) = .ok c) : Classified attempts c := by
  obtain ⟨_, _, _, _, done⟩ := bind₂_eq_ok.mp done
  split at done
  · rename_i any
    cases done
    obtain ⟨_, listed, accepted⟩ := List.any_eq_true.mp any
    obtain ⟨attempt, stored, rfl⟩ := List.mem_map.mp listed
    exact .accepted attempt stored accepted
  · rename_i unaccepted
    have unaccepted : ∀ attempt ∈ attempts, attempt.requestState.isAccepted = false := by
      intro attempt stored
      have none := List.any_eq_false.mp (Bool.eq_false_iff.mpr unaccepted)
      exact Bool.eq_false_iff.mpr (none (parsedAttempt attempt) (List.mem_map_of_mem stored))
    split at done
    · rename_i any
      cases done
      obtain ⟨_, listed, proposed⟩ := List.any_eq_true.mp any
      obtain ⟨attempt, stored, rfl⟩ := List.mem_map.mp listed
      exact .proposed unaccepted attempt stored (of_decide_eq_true proposed)
    · rename_i unproposed
      obtain ⟨found, chosen, done⟩ := bind_eq_ok.mp done
      obtain ⟨latest, stored, rfl, last⟩ := latestAttempt_some ordered (demand_eq_ok.mp chosen)
      refine .terminal (fun attempt stored => ⟨unaccepted attempt stored, fun proposed => ?_⟩)
        latest stored last c done
      have none := List.any_eq_false.mp (Bool.eq_false_iff.mpr unproposed)
      exact none (parsedAttempt attempt) (List.mem_map_of_mem stored) (decide_eq_true proposed)

theorem Classified.congr {others : List LifecycleRow} (classified : Classified attempts c)
    (same : ∀ attempt, attempt ∈ attempts ↔ attempt ∈ others) : Classified others c := by
  cases classified with
  | accepted attempt listed accepted => exact .accepted attempt ((same _).mp listed) accepted
  | proposed unaccepted attempt listed proposed =>
    exact .proposed (fun attempt listed => unaccepted attempt ((same _).mpr listed)) attempt
      ((same _).mp listed) proposed
  | terminal closed latest listed last c state =>
    exact .terminal (fun attempt listed => closed attempt ((same _).mpr listed)) latest
      ((same _).mp listed) (fun attempt listed => last attempt ((same _).mpr listed)) c state

theorem classification_ok (attempted : attemptsFor store invoiceId ≠ [])
    (classified : classification store invoiceId = .ok c) :
    Classified (attemptsFor store invoiceId) c := by
  unfold classification at classified
  rw [parsedAttempts_of_attempts attempted] at classified
  exact (classify_ok invoiceAttempts_ordered classified).congr fun _ => mem_invoiceAttempts

theorem classify_supported (attempted : attempts ≠ [])
    (known : ∀ attempt ∈ attempts, supported attempt.requestState = true) :
    ∃ c, classify (attempts.map parsedAttempt) = .ok c := by
  have states : ∀ attempt ∈ attempts.map parsedAttempt, supported attempt.state = true := by
    intro attempt listed
    obtain ⟨row, stored, rfl⟩ := List.mem_map.mp listed
    exact known row stored
  have conflictFree : ∀ attempt ∈ attempts.map parsedAttempt, attempt.state ≠ .invalidConflict := by
    intro attempt listed same
    simpa [supported, same] using states attempt listed
  have recovered : ∀ attempt ∈ attempts.map parsedAttempt, attempt.state ≠ .recoveryRequired := by
    intro attempt listed same
    simpa [supported, same] using states attempt listed
  suffices rest : ∃ c, (if (attempts.map parsedAttempt).any (·.state.isAccepted) then
        (pure .accepted : Except PersistenceError DrainClassification)
      else if (attempts.map parsedAttempt).any (·.state = .proposed) then pure .cancellationEnqueued
      else do
        let latest ← demand .corruptOrMissing (latestAttempt (attempts.map parsedAttempt))
        terminalClassification latest.state) = .ok c by
    obtain ⟨c, rest⟩ := rest
    exact ⟨c, bind_eq_ok.mpr ⟨(), ensure_eq_ok.mpr conflictFree,
      bind_eq_ok.mpr ⟨(), ensure_eq_ok.mpr recovered, rest⟩⟩⟩
  split
  · exact ⟨_, rfl⟩
  · rename_i unaccepted
    split
    · exact ⟨_, rfl⟩
    · rename_i unproposed
      obtain ⟨first, rest, cons⟩ := List.exists_cons_of_ne_nil attempted
      obtain ⟨latest, chosen⟩ : ∃ latest, latestAttempt (attempts.map parsedAttempt) = some latest := by
        rw [cons]
        exact ⟨_, rfl⟩
      have listed : latest ∈ attempts.map parsedAttempt := latestAttempt_mem chosen
      have none := List.any_eq_false.mp (Bool.eq_false_iff.mpr unproposed) latest listed
      obtain ⟨c, terminal⟩ := terminalClassification_supported (states latest listed)
        (Bool.eq_false_iff.mpr
          (List.any_eq_false.mp (Bool.eq_false_iff.mpr unaccepted) latest listed))
        fun proposed => none (decide_eq_true proposed)
      rw [chosen]
      exact ⟨c, terminal⟩

/-- Among terminal attempts a drain and a status read agree unless the latest ones tie. -/
theorem terminal_agrees_iff {lead latest : LifecycleRow}
    (unique : UniqueIndex (fun row : LifecycleRow => some row.sdkPaymentRequestId) attempts)
    (ranked : ∀ attempt ∈ attempts, attempt.requestState.rank = 0)
    (listed : lead ∈ attempts) (leads : ∀ attempt ∈ attempts, Follows attempt lead)
    (stored : latest ∈ attempts) (last : ∀ attempt ∈ attempts, Outlasts latest attempt) :
    lead.requestState = latest.requestState ↔ TieOrdered attempts := by
  have below : ∀ attempt ∈ attempts, attempt.lastEventAt < lead.lastEventAt ∨
      attempt.lastEventAt = lead.lastEventAt ∧
        attempt.requestState.asStr ≤ lead.requestState.asStr := by
    intro attempt stored
    have follows := follows_iff.mp (leads attempt stored)
    rw [ranked attempt stored, ranked lead listed] at follows
    simpa using follows
  have latestTime : latest.lastEventAt = lead.lastEventAt := by
    refine le_antisymm ?_ (last lead listed).1
    rcases below latest stored with less | ⟨same, -⟩
    · exact less.le
    · exact same.le
  have tied : ∀ attempt ∈ attempts, attempt.lastEventAt = lead.lastEventAt →
      attempt.requestState.asStr ≤ lead.requestState.asStr := by
    intro attempt stored same
    rcases below attempt stored with less | ⟨-, order⟩
    · exact absurd same less.ne
    · exact order
  constructor
  · intro same final member outlasts attempt stored' tie
    have finalTime : final.lastEventAt = latest.lastEventAt :=
      le_antisymm (last final member).1 (outlasts latest stored).1
    have identity : final.sdkPaymentRequestId = latest.sdkPaymentRequestId :=
      le_antisymm ((last final member).2 finalTime) ((outlasts latest stored).2 finalTime.symm)
    obtain rfl : final = latest := unique.eq_of_key member stored (congrArg some identity) rfl
    rw [← same]
    exact tied attempt stored' (tie.trans latestTime)
  · intro ordered
    have upper := ordered latest stored last lead listed latestTime.symm
    exact asStr_injective (le_antisymm upper (tied latest stored latestTime))

/-- Where a drain and a status read look at the same attempts, they agree unless the
request is closed and its latest attempts tie. -/
theorem Classified.agrees_iff {lead : LifecycleRow} (classified : Classified attempts c)
    (unique : UniqueIndex (fun row : LifecycleRow => some row.sdkPaymentRequestId) attempts)
    (known : ∀ attempt ∈ attempts, supported attempt.requestState = true)
    (listed : lead ∈ attempts) (leads : ∀ attempt ∈ attempts, Follows attempt lead) :
    agrees c lead.requestState = true ↔ (∃ attempt ∈ attempts,
      attempt.requestState.isAccepted = true ∨ attempt.requestState = .proposed) ∨
        TieOrdered attempts := by
  cases classified with
  | accepted attempt stored accepted =>
    refine iff_of_true ?_ (.inl ⟨attempt, stored, .inl accepted⟩)
    have rank := (isAccepted_iff_rank (known attempt stored)).mp accepted
    refine (isAccepted_iff_rank (known lead listed)).mpr (le_trans rank ?_)
    rcases follows_iff.mp (leads attempt stored) with less | ⟨same, -⟩
    · exact less.le
    · exact same.le
  | proposed unaccepted attempt stored proposed =>
    refine iff_of_true (decide_eq_true (proposed_iff_rank.mpr ?_))
      (.inl ⟨attempt, stored, .inr proposed⟩)
    have low : ¬ 5 ≤ lead.requestState.rank := by
      rw [← isAccepted_iff_rank (known lead listed), unaccepted lead listed]
      simp
    have rank := proposed_iff_rank.mp proposed
    rcases follows_iff.mp (leads attempt stored) with less | ⟨same, -⟩ <;> omega
  | terminal closed latest stored last c state =>
    have none : ¬ ∃ attempt ∈ attempts,
        attempt.requestState.isAccepted = true ∨ attempt.requestState = .proposed := by
      rintro ⟨attempt, stored, accepted | proposed⟩
      · rw [(closed attempt stored).1] at accepted
        cases accepted
      · exact (closed attempt stored).2 proposed
    rw [or_iff_right none, terminalClassification_agrees state]
    refine terminal_agrees_iff unique (fun attempt stored => ?_) listed leads stored last
    exact rank_of_terminal (known attempt stored) (closed attempt stored).1
      (closed attempt stored).2

theorem requestState_some (read : Invoices.requestState store invoiceId = some state) :
    (attemptsFor store invoiceId = [] ∧ terminalFallback store invoiceId = some state) ∨
      ∃ lead ∈ attemptsFor store invoiceId, lead.requestState = state ∧
        ∀ attempt ∈ attemptsFor store invoiceId, Follows attempt lead := by
  unfold Invoices.requestState at read
  cases found : leadingAttempt (store.lifecycles.rows.filter (·.invoiceId = some invoiceId)) with
  | none =>
    rw [found] at read
    refine .inl ⟨?_, read⟩
    cases empty : attemptsFor store invoiceId with
    | nil => rfl
    | cons first rest =>
      unfold attemptsFor at empty
      rw [empty] at found
      cases found
  | some lead =>
    rw [found] at read
    obtain ⟨listed, leads⟩ := leadingAttempt_some found
    exact .inr ⟨lead, listed, Option.some.inj read, leads⟩

theorem fallback_agrees (empty : attemptsFor store invoiceId = [])
    (fallback : terminalFallback store invoiceId = some state)
    (classified : classification store invoiceId = .ok c) : agrees c state = true := by
  have none : invoiceAttempts store invoiceId = [] :=
    List.eq_nil_iff_forall_not_mem.mpr fun attempt listed => by
      have stored := mem_invoiceAttempts.mp listed
      rw [empty] at stored
      cases stored
  unfold classification parsedAttempts at classified
  rw [none, fallback] at classified
  unfold terminalFallback at fallback
  split at fallback
  · cases fallback
    cases classified
    rfl
  · split at fallback
    · cases fallback
      cases classified
      rfl
    · cases fallback

/-- A drain and a status read of the same invoice agree exactly when some attempt is open
or accepted, or the latest attempts are read in the same order by both. -/
theorem classification_agrees_iff (store : Store) (invoiceId : Uuid)
    (known : ∀ attempt ∈ attemptsFor store invoiceId, supported attempt.requestState = true) :
    (attemptsFor store invoiceId ≠ [] → (∃ c, classification store invoiceId = .ok c) ∧
      (Invoices.requestState store invoiceId).isSome = true) ∧
    ∀ c state, classification store invoiceId = .ok c →
      Invoices.requestState store invoiceId = some state →
      (agrees c state = true ↔ (∃ attempt ∈ attemptsFor store invoiceId,
        attempt.requestState.isAccepted = true ∨ attempt.requestState = .proposed) ∨
          TieOrdered (attemptsFor store invoiceId)) := by
  constructor
  · intro attempted
    constructor
    · obtain ⟨attempt, stored⟩ := List.exists_mem_of_ne_nil _ attempted
      unfold classification
      rw [parsedAttempts_of_attempts attempted]
      refine classify_supported ?_ fun attempt listed => known attempt (mem_invoiceAttempts.mp listed)
      exact List.ne_nil_of_mem (mem_invoiceAttempts.mpr stored)
    · obtain ⟨first, rest, cons⟩ := List.exists_cons_of_ne_nil attempted
      unfold attemptsFor at cons
      unfold Invoices.requestState
      rw [cons]
      rfl
  · intro c state classified read
    rcases requestState_some read with ⟨empty, fallback⟩ | ⟨lead, listed, rfl, leads⟩
    · rw [empty]
      refine iff_of_true ?_ (.inr fun last member => by cases member)
      exact fallback_agrees empty fallback classified
    · have attempted := List.ne_nil_of_mem listed
      exact (classification_ok attempted classified).agrees_iff
        (store.lifecycles.valid.1.filter _) known listed leads

namespace Sample

/-- A proposal is rejected, and its retry is canceled a second later. -/
def orderedAttempts : List Operation :=
  [.createCreator (credentials "xpub"), .createInvoice bundle, report .rejected,
    .applyLifecycle 0 ⟨"retry", "reader", paykitAppId, issuedTerms, .canceled, none, some 1, none,
      seconds 1⟩]

end Sample

/-- Two attempts of which the later one is canceled are read alike by both. -/
theorem ordered_attempts_agree :
    let store := storeAfter Sample.deployment 0 Sample.orderedAttempts
    (∀ attempt ∈ attemptsFor store 2, supported attempt.requestState = true) ∧
      agrees .canceled .canceled = true ∧ ((∃ attempt ∈ attemptsFor store 2,
        attempt.requestState.isAccepted = true ∨ attempt.requestState = .proposed) ∨
          TieOrdered (attemptsFor store 2)) := by
  have known : ∀ attempt ∈ attemptsFor (storeAfter Sample.deployment 0 Sample.orderedAttempts) 2,
      supported attempt.requestState = true := by
    decide +kernel
  refine ⟨known, rfl, ?_⟩
  exact ((classification_agrees_iff _ 2 known).2 .canceled .canceled (by decide +kernel)
    (by decide +kernel)).mp rfl

namespace Sample

/-- Two attempts to propose one invoice, whose last events have the same time. -/
def tiedAttempts : List Operation :=
  [.createCreator (credentials "xpub"), .createInvoice bundle, report .rejected,
    .applyLifecycle 0 ⟨"retry", "reader", paykitAppId, issuedTerms, .canceled, none, some 1, none,
      0⟩]

end Sample

/-- Of two closed attempts with equal event times, a drain reads the canceled one and a
status read the rejected one. -/
theorem tied_attempts_disagree :
    let store := storeAfter Sample.deployment 0 Sample.tiedAttempts
    (attemptsFor store 2).map (fun attempt => (attempt.requestState, attempt.lastEventAt)) =
        [(.rejected, 0), (.canceled, 0)] ∧
      (storeAfter Sample.deployment 0 (Sample.tiedAttempts ++ [.createDrain Sample.lock none])
        ).drains.rows.map (·.items) = [[⟨2, .canceled⟩]] ∧
      (Invoices.paymentRequestStatus Sample.deployment.crypto store "creator" "bundle").toOption.map
        (Option.map (·.requestState)) = some (some .rejected) := by
  decide +kernel

end Agreement

section Accounts

def openRequests (store : Store) (invoices : List AdmissionRow) : List (Uuid × String) :=
  invoices.flatMap fun invoice =>
    ((invoiceAttempts store invoice.id).filter (·.requestState = .proposed)).map fun attempt =>
      (invoice.id, attempt.sdkPaymentRequestId)

structure AccountsFor (store store' : Store) (invoices : List AdmissionRow) (drain : DrainRow)
    (snapshot : PaymentDrainSnapshot) : Prop where
  items : drain.items.map (·.invoiceId) = invoices.map (·.id)
  distinct : (drain.items.map (·.invoiceId)).Nodup
  classified : ∀ item ∈ drain.items, attemptsFor store item.invoiceId ≠ [] →
    (item.classification = .accepted ↔
      ∃ attempt ∈ attemptsFor store item.invoiceId, attempt.requestState.isAccepted = true) ∧
    (item.classification = .cancellationEnqueued ↔
      (∀ attempt ∈ attemptsFor store item.invoiceId, attempt.requestState.isAccepted = false) ∧
        ∃ attempt ∈ attemptsFor store item.invoiceId, attempt.requestState = .proposed) ∧
    (item.classification ≠ .accepted → item.classification ≠ .cancellationEnqueued →
      ∃ attempt ∈ attemptsFor store item.invoiceId,
        terminalClassification attempt.requestState = .ok item.classification)
  links : drain.cancellations.map (fun link => (link.invoiceId, link.sdkPaymentRequestId)) =
    openRequests store invoices
  once : (openRequests store invoices).Nodup
  rows : ∀ link ∈ drain.cancellations, ∃ row ∈ store'.outbox.rows,
    row.id = link.cancellationOutboxId ∧ row.cancellationDrainRequired = true ∧
      ∀ other ∈ store'.outbox.rows,
        other.invoiceCancellation = some (link.invoiceId, link.sdkPaymentRequestId) ↔ other = row
  acceptedCount : snapshot.acceptedCount =
    (drain.items.filter (·.classification = .accepted)).length
  terminalCount : snapshot.terminalCount = (drain.items.filter fun item =>
    item.classification ≠ .accepted && item.classification ≠ .cancellationEnqueued).length
  cancellationEnqueuedCount : snapshot.cancellationEnqueuedCount = drain.cancellations.length

variable {store : Store} {invoiceId : Uuid} {attempts : List LifecycleRow}

variable {c : DrainClassification} {invoices : List AdmissionRow}
  {found : List (DrainItem × List PreparedCancellation)}

theorem terminalClassification_ne {state : PaymentRequestLifecycleState}
    (terminal : terminalClassification state = .ok c) :
    c ≠ .accepted ∧ c ≠ .cancellationEnqueued := by
  cases state <;> cases terminal <;> simp

theorem Classified.accepted_iff (classified : Classified attempts c) :
    c = .accepted ↔ ∃ attempt ∈ attempts, attempt.requestState.isAccepted = true := by
  cases classified with
  | accepted attempt listed accepted => exact iff_of_true rfl ⟨attempt, listed, accepted⟩
  | proposed unaccepted =>
    refine iff_of_false (by simp) ?_
    rintro ⟨attempt, listed, accepted⟩
    rw [unaccepted attempt listed] at accepted
    cases accepted
  | terminal closed latest listed last c state =>
    refine iff_of_false (terminalClassification_ne state).1 ?_
    rintro ⟨attempt, listed, accepted⟩
    rw [(closed attempt listed).1] at accepted
    cases accepted

theorem Classified.proposed_iff (classified : Classified attempts c) :
    c = .cancellationEnqueued ↔
      (∀ attempt ∈ attempts, attempt.requestState.isAccepted = false) ∧
        ∃ attempt ∈ attempts, attempt.requestState = .proposed := by
  cases classified with
  | accepted attempt listed accepted =>
    refine iff_of_false (by simp) fun open_ => ?_
    rw [open_.1 attempt listed] at accepted
    cases accepted
  | proposed unaccepted attempt listed proposed =>
    exact iff_of_true rfl ⟨unaccepted, attempt, listed, proposed⟩
  | terminal closed latest listed last c state =>
    refine iff_of_false (terminalClassification_ne state).2 ?_
    rintro ⟨-, attempt, listed, proposed⟩
    exact (closed attempt listed).2 proposed

theorem Classified.terminal_mem (classified : Classified attempts c)
    (unaccepted : c ≠ .accepted) (unproposed : c ≠ .cancellationEnqueued) :
    ∃ attempt ∈ attempts, terminalClassification attempt.requestState = .ok c := by
  cases classified with
  | accepted => exact absurd rfl unaccepted
  | proposed => exact absurd rfl unproposed
  | terminal closed latest listed last c state => exact ⟨latest, listed, state⟩

theorem generationInvoices_nodup {creatorId : Uuid} {lockHash : LookupHash} {generation : Int} :
    ((generationInvoices store creatorId lockHash generation).map (·.id)).Nodup := by
  have unique := store.admissions.valid.1.filter fun row => row.creatorId = creatorId &&
    row.lockResourceLookupHash = lockHash && row.lockResourceGeneration = generation
  exact ((List.perm_insertionSort _ _).map _).nodup_iff.mpr
    (unique.nodup_map fun _ _ same => same)

theorem openRequests_nodup
    (distinct : (invoices.map (·.id)).Nodup) : (openRequests store invoices).Nodup := by
  apply List.nodup_flatMap.mpr
  constructor
  · intro invoice _
    have unique := (store.lifecycles.valid.1.filter (·.invoiceId = some invoice.id)).nodup_map
      (fun _ _ same => same)
    have attempts : ((invoiceAttempts store invoice.id).map (·.sdkPaymentRequestId)).Nodup :=
      ((List.perm_insertionSort _ _).map _).nodup_iff.mpr unique
    have proposed := (List.filter_sublist (p := fun attempt : LifecycleRow =>
      attempt.requestState = .proposed)).map (·.sdkPaymentRequestId) |>.nodup attempts
    refine List.Nodup.of_map Prod.snd ?_
    rw [List.map_map]
    exact proposed
  · refine (List.pairwise_map.mp distinct).imp ?_
    intro invoice other apart pair here there
    obtain ⟨_, _, rfl⟩ := List.mem_map.mp here
    obtain ⟨_, _, same⟩ := List.mem_map.mp there
    exact apart (congrArg Prod.fst same).symm

theorem parsedAttempts_proposed {parsed : List ParsedAttempt}
    (done : parsedAttempts store invoiceId = .ok parsed) :
    (parsed.filter (·.state = .proposed)).map (·.paymentRequestId) =
      ((invoiceAttempts store invoiceId).filter (·.requestState = .proposed)).map fun attempt =>
        some attempt.sdkPaymentRequestId := by
  unfold parsedAttempts at done
  split at done
  · rename_i none
    obtain ⟨state, fallback, done⟩ := bind_eq_ok.mp done
    cases done
    have closed : state ≠ .proposed := by
      intro same
      have ended := demand_eq_ok.mp fallback
      unfold terminalFallback at ended
      split at ended
      · cases ended
        cases same
      · split at ended
        · cases ended
          cases same
        · cases ended
    rw [none]
    simp [closed]
  · cases done
    rw [List.filter_map, List.map_map]
    rfl

theorem drainedInvoice_requests {invoice : AdmissionRow} {found : DrainItem × List PreparedCancellation}
    (drained : Drained store invoice found) :
    found.2.map (fun cancellation =>
        (cancellation.invoiceId, cancellation.paymentRequestId)) =
      openRequests store [invoice] := by
  obtain ⟨parsed, done, requests⟩ := drained.cancellations
  have proposed := congrArg (List.map fun target => (invoice.id, target))
    (parsedAttempts_proposed done)
  have apart : Function.Injective fun request : Uuid × String => (request.1, some request.2) := by
    intro request other same
    simpa [Prod.ext_iff] using same
  apply List.map_injective_iff.mpr apart
  simp only [List.map_map, openRequests, List.flatMap_singleton] at requests proposed ⊢
  exact requests.trans proposed

theorem drained_requests (drained : List.Forall₂ (Drained store) invoices found) :
    (found.flatMap (·.2)).map (fun cancellation =>
        (cancellation.invoiceId, cancellation.paymentRequestId)) =
      openRequests store invoices := by
  induction drained with
  | nil => rfl
  | cons first _ ih =>
    rw [List.flatMap_cons, List.map_append, ih, drainedInvoice_requests first]
    simp [openRequests]

theorem drained_mem {pair : DrainItem × List PreparedCancellation}
    (drained : List.Forall₂ (Drained store) invoices found) (member : pair ∈ found) :
    ∃ invoice, Drained store invoice pair := by
  induction drained with
  | nil => cases member
  | cons first _ ih =>
    rcases List.mem_cons.mp member with rfl | member
    · exact ⟨_, first⟩
    · exact ih member

theorem current_generation {creatorId : Uuid} {lockHash : LookupHash}
    {generation : LockGenerationRow}
    (current : lookup (fun row => some (row.creatorId, row.lockResourceLookupHash))
      (creatorId, lockHash)
      (insertNew (fun row => row.creatorId = creatorId && row.lockResourceLookupHash = lockHash)
        ⟨creatorId, lockHash, 0, none, none⟩ store.lockGenerations.rows) = some generation) :
    generation = (store.lockGeneration creatorId lockHash).getD
      ⟨creatorId, lockHash, 0, none, none⟩ := by
  have conflict : (fun row : LockGenerationRow =>
      decide (row.creatorId = creatorId) && decide (row.lockResourceLookupHash = lockHash)) =
        fun row => decide ((row.creatorId, row.lockResourceLookupHash) = (creatorId, lockHash)) := by
    funext row
    simp [Prod.ext_iff]
  have looked : lookup (fun row => some (row.creatorId, row.lockResourceLookupHash))
      (creatorId, lockHash)
      (insertNew (fun row => (row.creatorId, row.lockResourceLookupHash) = (creatorId, lockHash))
        ⟨creatorId, lockHash, 0, none, none⟩ store.lockGenerations.rows) =
      (store.lockGeneration creatorId lockHash).or
        (some ⟨creatorId, lockHash, 0, none, none⟩) := by
    refine (lookup_insertNew (k := (creatorId, lockHash)) ?_).trans (if_pos rfl)
    rfl
  rw [conflict, looked] at current
  cases found : store.lockGeneration creatorId lockHash with
  | none =>
    rw [found] at current
    exact (Option.some.inj current).symm
  | some stored =>
    rw [found] at current
    exact (Option.some.inj current).symm

/-- A new drain accounts for every invoice of its generation and every attempt of theirs:
one item for each invoice, by its attempts, and one cancellation for each attempt that is
still proposed. Its report counts them. -/
theorem drain_accounts_for_attempts (crypto : Crypto) (sdk : Sdk) (store store' : Store)
    (lock : PubkyLockResource) (evidence : Option (List String)) (snapshot : PaymentDrainSnapshot)
    (done : createInner crypto sdk store lock evidence = .ok (snapshot, store'))
    (new : snapshot.replayed = false) :
    ∃ creator drain, store.creatorByHash (textHash crypto lock.creator) = some creator ∧
      store'.drains.rows = store.drains.rows ++ [drain] ∧
      AccountsFor store store' (generationInvoices store creator.id
        (textHash crypto lock.canonical)
        ((store.lockGeneration creator.id (textHash crypto lock.canonical)).elim 0
          (·.currentGeneration))) drain snapshot := by
  obtain replay | ⟨creator, drain, generation, _, _, outbox, _, rfl, creatorFound, -, -, -,
    inserted, -, current, -, freezes, reported, found, written⟩ := createInner_ok done
  · obtain ⟨-, none, -⟩ | ⟨_, _, -, -, -, replayed, -⟩ := exactReplay_ok replay
    · cases none
    · cases replayed
      cases new
  refine ⟨creator, drain, creatorFound, inserted, ?_⟩
  have key := lookup_key current
  obtain ⟨own, hash⟩ := Prod.mk.inj (Option.some.inj key)
  have listed : generationInvoices store generation.creatorId generation.lockResourceLookupHash
      generation.currentGeneration = generationInvoices store creator.id
        (textHash crypto lock.canonical)
        ((store.lockGeneration creator.id (textHash crypto lock.canonical)).elim 0
          (·.currentGeneration)) := by
    rw [own, hash]
    congr 1
    have stored := congrArg LockGenerationRow.currentGeneration (current_generation current)
    rw [stored]
    cases store.lockGeneration creator.id (textHash crypto lock.canonical) <;> rfl
  have items := freezes.items
  have drained := written.drained
  rw [listed] at items drained
  have distinct : (drain.items.map (·.invoiceId)).Nodup := by
    rw [items]
    exact generationInvoices_nodup
  have requests := drained_requests drained
  subst reported
  refine ⟨items, distinct, ?_, ?_, openRequests_nodup generationInvoices_nodup, ?_,
    freezes.accepted, freezes.terminal, rfl⟩
  · intro item member attempted
    rw [written.items] at member
    obtain ⟨pair, paired, rfl⟩ := List.mem_map.mp member
    obtain ⟨invoice, found⟩ := drained_mem drained paired
    have classified : Classified (attemptsFor store pair.1.invoiceId) pair.1.classification := by
      apply classification_ok attempted
      rw [found.item]
      exact found.classified
    exact ⟨classified.accepted_iff, classified.proposed_iff, classified.terminal_mem⟩
  · rw [written.cancellations, List.map_map]
    exact requests
  · intro link member
    rw [written.cancellations] at member
    obtain ⟨cancellation, prepared, rfl⟩ := List.mem_map.mp member
    obtain ⟨row, stored, carries⟩ := written.carried cancellation prepared
    refine ⟨row, stored, carries.id, carries.required, fun other stored' => ⟨fun same => ?_, ?_⟩⟩
    · exact outbox.valid.2.2.1.eq_of_key stored' stored same carries.request
    · rintro rfl
      exact carries.request

namespace Sample

/-- One attempt of the bundle's proposal is accepted while its retry is still proposed. -/
def acceptedWithSibling : List Operation :=
  [.createCreator (credentials "xpub"), .createInvoice bundle, report .accepted,
    .applyLifecycle 0 ⟨"retry", "reader", paykitAppId, issuedTerms, .proposed, none, some 1, none,
      0⟩]

end Sample

/-- The drain of an accepted invoice cancels the proposed sibling of the accepted attempt. -/
theorem drain_accounts_for_sibling :
    let store := storeAfter Sample.deployment 0 Sample.acceptedWithSibling
    ∃ snapshot store', createInner Sample.deployment.crypto Sample.deployment.sdk store Sample.lock
        none = .ok (snapshot, store') ∧ snapshot.replayed = false ∧
      ∃ creator drain, store'.drains.rows = store.drains.rows ++ [drain] ∧
        AccountsFor store store' (generationInvoices store creator
          (textHash Sample.deployment.crypto Sample.lock.canonical)
          ((store.lockGeneration creator
            (textHash Sample.deployment.crypto Sample.lock.canonical)).elim 0
            (·.currentGeneration))) drain snapshot := by
  intro store
  obtain ⟨⟨snapshot, store'⟩, done⟩ : ∃ result, createInner Sample.deployment.crypto
      Sample.deployment.sdk store Sample.lock none = .ok result :=
    exists_ok (by decide +kernel)
  have new : snapshot.replayed = false := by
    have flag : (createInner Sample.deployment.crypto Sample.deployment.sdk store Sample.lock
        none).toOption.map (·.1.replayed) = some false := by
      decide +kernel
    rw [done] at flag
    exact Option.some.inj flag
  obtain ⟨creator, drain, -, inserted, accounts⟩ :=
    drain_accounts_for_attempts _ _ _ _ _ _ _ done new
  exact ⟨snapshot, store', done, new, creator.id, drain, inserted, accounts⟩

end Accounts

end PaykitServer
