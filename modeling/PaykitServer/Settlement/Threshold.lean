import PaykitServer.Settlement.Rails
import PaykitServer.Settlement.Reports

/-!
# First-threshold evidence

The evidence of a provider-v2 invoice is a function of the history: the sample of
the first stored report that meets the threshold on time. Nothing that comes later
changes it. `evidence_eq` proves this of the account, and `firstThreshold_eq`
carries it to the sample that status reports.
-/

namespace PaykitServer.Settlement

open Domain Bitcoin Persistence Workers
open Relational

theorem thresholdShape (outpoint : BitcoinOutpoint) (confirmations : Nat) :
    sampleShape (if min confirmations 6 = 0 then .detected else .confirmed) (some outpoint)
      (min confirmations 6) true = true := by
  split
  · rename_i unconfirmed
    simp [sampleShape, unconfirmed]
  · rename_i confirmed
    have positive : 0 < min confirmations 6 := Nat.pos_of_ne_zero confirmed
    simp [sampleShape, positive]

/-- The sample of a present output that pays enough. -/
def paidSample (input : BitcoinObservationInput) (observedAt : OffsetDateTime) :
    ProviderV2Sample :=
  ⟨observedAt, if min input.confirmations 6 = 0 then .detected else .confirmed,
    some input.outpoint, min input.confirmations 6, true,
    thresholdShape input.outpoint input.confirmations⟩

/-- The sample a performed action adds to an invoice that has no evidence yet: that of
a written present output that pays enough, is deep enough and on time. -/
def thresholdSample (i : Uuid) (destination : PaymentDestination) (minimumConfirmations : Nat)
    (deadline : OffsetDateTime) (t : Transition Database Action) : Option ProviderV2Sample :=
  match t.action with
  | .observe input observedAt =>
    if (t.before.invoice i).isSome ∧ destination.address = input.address ∧
        disposition (t.before.providerBinding i).isSome destination.requiredAmount
          ((t.before.activeObservation i).map (·.binding)) input ≠ .skip ∧
        input.matched destination.requiredAmount = true ∧
        minimumConfirmations ≤ min input.confirmations 6 ∧ observedAt ≤ deadline then
      some (paidSample input observedAt)
    else none
  | _ => none

def evidenceOf (sample : ProviderV2Sample) : Threshold :=
  ⟨sample.observedAt, sample.status, sample.outpoint, sample.confirmations⟩

section History

variable {env : Environment} {requests : List Request} {i : Uuid} {row : InvoiceRow}
variable {provider : ProviderV2Row} {destination : PaymentDestination}

theorem thresholdSample_eq_none {t : Transition Database Action} {minimum : Nat}
    {deadline : OffsetDateTime}
    (ignored : ∀ input observedAt, t.action = .observe input observedAt →
      ¬ (account t.before i).Stores destination input)
    (terms : ∀ row, t.before.invoice i = some row → row.payment.bitcoin = some destination) :
    thresholdSample i destination minimum deadline t = none := by
  unfold thresholdSample
  split
  · rename_i input observedAt performed
    refine if_neg ?_
    rintro ⟨opened, own, written, -⟩
    obtain ⟨row, stored⟩ := Option.isSome_iff_exists.mp opened
    exact ignored input observedAt performed
      ((stores_iff stored).mpr ⟨terms row stored, own, written⟩)
  · rfl

theorem thresholdSample_of_stored {db db' : Database} {input : BitcoinObservationInput}
    {observedAt deadline : OffsetDateTime} {minimum : Nat}
    (stores : (account db i).Stores destination input) :
    thresholdSample i destination minimum deadline ⟨db, .observe input observedAt, db'⟩ =
      if input.matched destination.requiredAmount = true ∧
          minimum ≤ min input.confirmations 6 ∧ observedAt ≤ deadline then
        some (paidSample input observedAt)
      else none := by
  obtain ⟨row, opened⟩ := Option.ne_none_iff_exists'.mp stores.opened
  have stored : db.invoice i = some row := opened
  obtain ⟨-, own, written⟩ := (stores_iff stored).mp stores
  simp only [thresholdSample, stored, Option.isSome_some, own, true_and]
  exact if_congr (and_iff_right written) rfl rfl

theorem evidence_eq (opened : (reached env requests).invoice i = some row)
    (bound : (reached env requests).providerBinding i = some provider)
    (quoted : row.payment.bitcoin = some destination) :
    (account (reached env requests) i).evidence =
      ((appliedActions env requests).findSome? (thresholdSample i destination
        provider.minimumConfirmations provider.deadline)).map evidenceOf := by
  suffices tracked : ∀ provider ∈ (account (reached env requests) i).provider,
      ∀ destination ∈ (account (reached env requests) i).destination,
      (account (reached env requests) i).evidence =
        ((appliedActions env requests).findSome? (thresholdSample i destination
          provider.minimumConfirmations provider.deadline)).map evidenceOf from
    tracked provider bound destination ((account_destination opened).trans quoted)
  refine opened_rule i (Q := fun history a => ∀ provider ∈ a.provider,
    ∀ destination ∈ a.destination, a.evidence = (history.findSome? (thresholdSample i destination
      provider.minimumConfirmations provider.deadline)).map evidenceOf) ?_ ?_ opened
  · -- nothing was written before admission
    intro history row provider closed provider' _ destination _
    have nothing : history.findSome? (thresholdSample i destination
        provider'.minimumConfirmations provider'.deadline) = none := by
      refine List.findSome?_eq_none_iff.mpr fun t member => ?_
      have missing : t.before.invoice i = none := closed t member
      exact thresholdSample_eq_none (fun _ _ _ stores => stores.opened missing)
        (by simp [missing])
    rw [nothing]
    rfl
  · intro history db action db' row opened coherent evolves tracked provider bound destination
      quoted
    obtain ⟨same, row', opened', terms⟩ := evolves.terms opened
    have bound' : (account db i).provider = some provider := same ▸ bound
    have quoted' : (account db i).destination = some destination := by
      rw [Account.destination, opened, Option.bind_some, ← terms.payment]
      rwa [Account.destination, opened', Option.bind_some] at quoted
    rw [List.findSome?_append, List.findSome?_singleton]
    have before := tracked provider bound' destination quoted'
    rcases evolves.report opened with ⟨kept, ignored⟩ |
      ⟨input, observedAt, destination', performed, stores, received, -⟩
    · have nothing : thresholdSample i destination provider.minimumConfirmations
          provider.deadline ⟨db, action, db'⟩ = none := by
        refine thresholdSample_eq_none
          (fun input observedAt performed => ignored input observedAt performed destination) ?_
        intro stored found
        exact (account_destination found).symm.trans quoted'
      rw [nothing, Option.or_none, kept.evidence, before]
    · subst performed
      obtain rfl := Option.some.inj (stores.quoted.symm.trans quoted')
      rw [thresholdSample_of_stored stores, received, Account.receive_of_stores stores]
      simp only [Account.sampled, bound', before]
      split
      · rw [Option.map_or]
        rfl
      · rw [Option.or_none]

end History

variable {db : Database} {i : Uuid}

theorem row_of_outpointIn {id : Uuid} {outpoint : BitcoinOutpoint}
    (resolved : outpointIn (db.bitcoinObservations.rows.map BitcoinObservationRow.evidence) i id =
      some outpoint) :
    ∃ row, db.observationById id = some row ∧ row.invoiceId = some i ∧
      row.observation.outpoint = outpoint := by
  obtain ⟨e, filtered, rfl⟩ := Option.map_eq_some_iff.mp resolved
  obtain ⟨first, own⟩ := Option.filter_eq_some_iff.mp filtered
  rw [List.find?_map] at first
  obtain ⟨row, found, rfl⟩ := Option.map_eq_some_iff.mp first
  have stored : db.bitcoinObservations.rows.find? (fun row => row.id = id) = some row := found
  exact ⟨row, by simpa [Database.observationById, lookup] using stored, of_decide_eq_true own, rfl⟩

theorem decodeProviderSample_eq {crypto : Crypto} {id : Uuid}
    {row : BitcoinObservationRow} {observedAt : OffsetDateTime} {status : PaymentStatus}
    {confirmations : Nat} {matched : Bool} (byId : db.observationById id = some row)
    (own : row.invoiceId = some i) (opens : decryptObservation crypto row = .ok row.observation)
    (valid : sampleShape status (some row.observation.outpoint) confirmations matched = true) :
    decodeProviderSample crypto db i observedAt status (some id) confirmations matched =
      .ok ⟨observedAt, status, some row.observation.outpoint, confirmations, matched, valid⟩ := by
  have shape : ProviderV2Sample.new observedAt status (some row.observation.outpoint)
      confirmations matched = .ok ⟨observedAt, status, some row.observation.outpoint,
        confirmations, matched, valid⟩ := dif_pos valid
  simp only [decodeProviderSample, byId, Option.filter_some, own, decide_true, if_true, demand]
  change (decryptObservation crypto row >>= fun record => _) = _
  rw [opens]
  simp only [bind, Except.bind, pure, Except.pure, shape]

theorem firstThreshold_eq {crypto : Crypto}
    (coherent : Coherent crypto (account db i)) {sample : Option ProviderV2Sample}
    (kept : (account db i).evidence = sample.map evidenceOf)
    (matched : ∀ s ∈ sample, s.amountMatched = true) :
    firstThresholdSatisfied crypto db i = .ok sample := by
  unfold firstThresholdSatisfied
  cases found : db.evidence i with
  | none =>
    simp only [account, found, Option.map_none] at kept
    rw [Option.map_eq_none_iff.mp kept.symm]
  | some stored =>
    have amount := (db.thresholdEvidence.valid.2 stored (lookup_mem found)).2.1
    have evidence : (account db i).evidence = some ⟨stored.observedAt, stored.status,
        outpointIn (db.bitcoinObservations.rows.map BitcoinObservationRow.evidence) i
          stored.observationId, stored.confirmations⟩ := congrArg (Option.map _) found
    obtain ⟨outpoint, resolved⟩ : ∃ outpoint, outpointIn (db.bitcoinObservations.rows.map
        BitcoinObservationRow.evidence) i stored.observationId = some outpoint :=
      Option.isSome_iff_exists.mp (coherent.evidenceResolved _ evidence)
    -- the evidence names a row of the invoice, which opens
    obtain ⟨row, byId, own, rfl⟩ := row_of_outpointIn resolved
    have opens := coherent.opens (lookup_mem byId) own
    obtain ⟨s, rfl, same⟩ := Option.map_eq_some_iff.mp (kept.symm.trans evidence)
    have paid := matched s rfl
    rw [resolved] at same
    obtain ⟨observedAt, status, output, confirmations, amount', valid⟩ := s
    cases same
    cases paid
    dsimp only
    rw [amount, decodeProviderSample_eq byId own opens valid]
    rfl

theorem thresholdSample_amountMatched {destination : PaymentDestination}
    {minimum : Nat} {deadline : OffsetDateTime} {t : Transition Database Action}
    {sample : ProviderV2Sample}
    (found : thresholdSample i destination minimum deadline t = some sample) :
    sample.amountMatched = true := by
  unfold thresholdSample at found
  split at found
  · split at found
    · cases found
      rfl
    · cases found
  · cases found

/-- The evidence of a provider-v2 invoice is the first threshold sample of the run,
and there is none exactly when the run has none. No later request changes it. -/
theorem first_threshold_is_first_sample (env : Environment) (requests : List Request) (i : Uuid)
    (row : InvoiceRow) (provider : ProviderV2Row) (destination : PaymentDestination)
    (opened : (reached env requests).invoice i = some row)
    (bound : (reached env requests).providerBinding i = some provider)
    (quoted : row.payment.bitcoin = some destination) :
    firstThresholdSatisfied env.crypto (reached env requests) i =
        .ok ((appliedActions env requests).findSome? (thresholdSample i destination
          provider.minimumConfirmations provider.deadline)) ∧
      ∀ more sample,
        firstThresholdSatisfied env.crypto (reached env requests) i = .ok (some sample) →
        firstThresholdSatisfied env.crypto (reached env (requests ++ more)) i =
          .ok (some sample) := by
  have first : ∀ requests row, (reached env requests).invoice i = some row →
      (reached env requests).providerBinding i = some provider →
      row.payment.bitcoin = some destination →
      firstThresholdSatisfied env.crypto (reached env requests) i =
        .ok ((appliedActions env requests).findSome? (thresholdSample i destination
          provider.minimumConfirmations provider.deadline)) := by
    intro requests row opened bound quoted
    refine firstThreshold_eq (reached_coherent env requests i)
      (evidence_eq opened bound quoted) ?_
    intro sample found
    obtain ⟨t, -, added⟩ := List.exists_of_findSome?_eq_some found
    exact thresholdSample_amountMatched added
  refine ⟨first requests row opened bound quoted, fun more sample satisfied => ?_⟩
  rw [first requests row opened bound quoted] at satisfied
  obtain ⟨provider', row', opened', terms⟩ := reached_terms opened more
  have split : appliedActions env (requests ++ more) =
      appliedActions env requests ++ (server env).history (reached env requests) more :=
    System.history_append
  rw [first (requests ++ more) row' opened' (provider'.trans bound) (terms.payment ▸ quoted),
    split, List.findSome?_append, Except.ok.inj satisfied, Option.some_or]

/-- A provider-v2 invoice for 10 sats at one confirmation, due 100 seconds after
creation, that is paid on time after an unconfirmed report. -/
def paidProviderV2 : List Request :=
  [.createProviderV2 (Sample.payment none) ⟨"a", 10⟩ 0 100000000 1,
    .observeOnce [⟨"a", none⟩] [Sample.output 0 10 0] 5,
    .observeOnce [⟨"a", some ⟨Sample.outpoint 0, 10⟩⟩] [Sample.output 0 10 2] 6]

/-- The confirmed report is the evidence, and it outlives the output. -/
theorem first_threshold_outlives_output :
    firstThresholdSatisfied Sample.environment.crypto
      (reached Sample.environment (paidProviderV2 ++
        [.observeOnce [⟨"a", some ⟨Sample.outpoint 0, 10⟩⟩] [Sample.absence 0 10] 7])) 0 =
      .ok (some (paidSample ⟨"a", Sample.outpoint 0, 10, 2, true⟩ 6)) := by
  obtain ⟨row, opened, quoted⟩ := Option.map_eq_some_iff.mp
    (show ((reached Sample.environment paidProviderV2).invoice 0).map (·.payment.bitcoin) =
      some (some ⟨"a", 10⟩) by decide +kernel)
  obtain ⟨first, kept⟩ := first_threshold_is_first_sample Sample.environment paidProviderV2 0 row
    ⟨0, 100000000, 1⟩ ⟨"a", 10⟩ opened (by decide +kernel) quoted
  refine kept _ _ (first.trans (congrArg Except.ok ?_))
  decide +kernel

end PaykitServer.Settlement
