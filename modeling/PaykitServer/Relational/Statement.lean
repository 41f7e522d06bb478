import Mathlib.Data.List.Nodup
import Mathlib.Data.List.Basic

/-!
# Statements over stored rows

A table is the list of its rows in storage order. Reads address a row through
a unique index; writes are the three statement shapes a relational store
offers: a conditional update, an insert that updates the conflicting row, and
an insert that leaves a conflicting row alone.

A transaction is a computation in `Except`: an error abandons every write made
so far, because the state is only returned on success. Proofs take a committed
transaction apart with `bind_eq_ok` and `ensure_eq_ok`, statement by statement.
-/

namespace Relational

variable {ε α β ρ κ : Type}

@[simp] theorem ok_bind {f : α → Except ε β} {a : α} : (.ok a >>= f) = f a := rfl

/-- A successful sequence is a successful first part and a successful rest. -/
theorem bind_eq_ok {x : Except ε α} {f : α → Except ε β} {b : β} :
    (x >>= f) = .ok b ↔ ∃ a, x = .ok a ∧ f a = .ok b := by
  cases x with
  | error e => simp [bind, Except.bind]
  | ok a => simp [bind, Except.bind]

theorem bind₂_eq_ok {γ : Type} {x : Except ε α} {f : α → Except ε β} {g : α → β → Except ε γ}
    {c : γ} : (x >>= fun a => f a >>= g a) = .ok c ↔
      ∃ a, x = .ok a ∧ ∃ b, f a = .ok b ∧ g a b = .ok c := by
  simp only [bind_eq_ok]

theorem bind₃_eq_ok {γ δ : Type} {x : Except ε α} {f : α → Except ε β} {g : α → β → Except ε γ}
    {h : α → β → γ → Except ε δ} {d : δ} :
    (x >>= fun a => f a >>= fun b => g a b >>= h a b) = .ok d ↔
      ∃ a, x = .ok a ∧ ∃ b, f a = .ok b ∧ ∃ c, g a b = .ok c ∧ h a b c = .ok d := by
  simp only [bind_eq_ok]

theorem exists_bind_ok {x : Except ε α} {f : α → Except ε β} {a : α} (first : x = .ok a)
    (rest : ∃ b, f a = .ok b) : ∃ b, (x >>= f) = .ok b := by
  subst first
  exact rest

theorem bind_eq_error {x : Except ε α} {f : α → Except ε β} {e : ε} :
    (x >>= f) = .error e ↔ x = .error e ∨ ∃ a, x = .ok a ∧ f a = .error e := by
  cases x with
  | error e' => simp [bind, Except.bind]
  | ok a => simp [bind, Except.bind]

theorem map_eq_ok {x : Except ε α} {f : α → β} {b : β} :
    f <$> x = .ok b ↔ ∃ a, x = .ok a ∧ f a = b := by
  cases x with
  | error e => simp [Functor.map, Except.map]
  | ok a => simp [Functor.map, Except.map]

theorem snd_eq_ok {x : Except ε (α × β)} {b : β} :
    Prod.snd <$> x = .ok b ↔ ∃ a, x = .ok (a, b) := by
  simp [map_eq_ok]

theorem bind_through {α' β' : Type} {x : Except ε α} {x' : Except ε α'} {f : α → Except ε β}
    {f' : α' → Except ε β'} {first : α → α'} {last : β → β'} (start : x' = first <$> x)
    (rest : ∀ a, x = .ok a → f' (first a) = last <$> f a) : (x' >>= f') = last <$> (x >>= f) := by
  subst start
  cases x with
  | error e => rfl
  | ok a => exact rest a rfl

theorem bind_through_last {β' : Type} {x : Except ε α} {f : α → Except ε β} {f' : α → Except ε β'}
    {last : β → β'} (rest : ∀ a, x = .ok a → f' a = last <$> f a) :
    (x >>= f') = last <$> (x >>= f) := by
  cases x with
  | error e => rfl
  | ok a => exact rest a rfl

theorem foldlM_through {σ σ' : Type} {turn : σ → α → Except ε σ} {turn' : σ' → α → Except ε σ'}
    {image : σ → σ'} (step : ∀ s a, turn' (image s) a = image <$> turn s a) (items : List α)
    (s : σ) : items.foldlM turn' (image s) = image <$> items.foldlM turn s := by
  induction items generalizing s with
  | nil => rfl
  | cons a items ih =>
    rw [List.foldlM_cons, List.foldlM_cons]
    exact bind_through (step s a) fun s' _ => ih s'

theorem foldlM_invariant {σ : Type} {turn : σ → α → Except ε σ} {P : σ → Prop}
    (step : ∀ s a s', P s → turn s a = .ok s' → P s') {items : List α} {s s' : σ}
    (start : P s) (done : items.foldlM turn s = .ok s') : P s' := by
  induction items generalizing s with
  | nil =>
    cases done
    exact start
  | cons a items ih =>
    rw [List.foldlM_cons] at done
    obtain ⟨next, first, rest⟩ := bind_eq_ok.mp done
    exact ih (step s a next start first) rest

theorem forall₂_mem_left {R : α → β → Prop} {items : List α} {others : List β}
    (related : List.Forall₂ R items others) {a : α} (member : a ∈ items) :
    ∃ b ∈ others, R a b := by
  induction related with
  | nil => cases member
  | cons first _ ih =>
    rcases List.mem_cons.mp member with rfl | later
    · exact ⟨_, .head _, first⟩
    · obtain ⟨b, found, here⟩ := ih later
      exact ⟨b, .tail _ found, here⟩

theorem forall₂_mem_right {R : α → β → Prop} {items : List α} {others : List β}
    (related : List.Forall₂ R items others) {b : β} (member : b ∈ others) :
    ∃ a ∈ items, R a b :=
  forall₂_mem_left related.flip member

theorem mapM_eq_ok {f : α → Except ε β} {items : List α} {results : List β} :
    items.mapM f = .ok results ↔ List.Forall₂ (fun a b => f a = .ok b) items results := by
  induction items generalizing results with
  | nil =>
    rw [List.mapM_nil, List.forall₂_nil_left_iff]
    exact ⟨fun done => (Except.ok.inj done).symm, fun none => by rw [none]; rfl⟩
  | cons a items ih =>
    rw [List.mapM_cons, List.forall₂_cons_left_iff, bind_eq_ok]
    constructor
    · rintro ⟨b, first, done⟩
      obtain ⟨rest, others, done⟩ := bind_eq_ok.mp done
      exact ⟨b, rest, first, ih.mp others, (Except.ok.inj done).symm⟩
    · rintro ⟨b, rest, first, others, rfl⟩
      exact ⟨b, first, bind_eq_ok.mpr ⟨rest, ih.mpr others, rfl⟩⟩

theorem exists_mapM_ok {f : α → Except ε β} {items : List α}
    (each : ∀ a ∈ items, ∃ b, f a = .ok b) : ∃ results, items.mapM f = .ok results := by
  induction items with
  | nil => exact ⟨[], rfl⟩
  | cons a items ih =>
    obtain ⟨b, first⟩ := each a (.head _)
    obtain ⟨results, rest⟩ := ih fun a member => each a (.tail _ member)
    exact ⟨b :: results, mapM_eq_ok.mpr (.cons first (mapM_eq_ok.mp rest))⟩

theorem eq_ok_of_toOption {x : Except ε α} {a : α} (result : x.toOption = some a) : x = .ok a := by
  cases x with
  | error e => cases result
  | ok b => exact congrArg Except.ok (Option.some.inj result)

theorem exists_ok {x : Except ε α} (succeeds : x.toOption.isSome = true) : ∃ a, x = .ok a := by
  obtain ⟨a, result⟩ := Option.isSome_iff_exists.mp succeeds
  exact ⟨a, eq_ok_of_toOption result⟩

/-- The error a computation ends with. -/
def failure : Except ε α → Option ε
  | .ok _ => none
  | .error e => some e

theorem eq_error_of_failure {x : Except ε α} {e : ε} (failed : failure x = some e) :
    x = .error e := by
  cases x with
  | error e' => exact congrArg Except.error (Option.some.inj failed)
  | ok a => cases failed

/-- Abort with `e` unless the condition holds. -/
def ensure (condition : Prop) [Decidable condition] (e : ε) : Except ε Unit :=
  if condition then .ok () else .error e

@[simp] theorem ensure_eq_ok {condition : Prop} [Decidable condition] {e : ε} {u : Unit} :
    ensure condition e = .ok u ↔ condition := by
  unfold ensure
  split <;> simp_all

@[simp] theorem ensure_true {decides : Decidable True} {e : ε} : @ensure ε True decides e = .ok () :=
  if_pos trivial

theorem ensure_eq_error {condition : Prop} [Decidable condition] {e e' : ε} :
    ensure condition e = .error e' ↔ ¬ condition ∧ e = e' := by
  unfold ensure
  split <;> simp_all

/-- Abort with `e` when the optional value is absent. -/
def demand (e : ε) : Option α → Except ε α
  | some a => .ok a
  | none => .error e

@[simp] theorem demand_some {e : ε} {a : α} : demand e (some a) = .ok a := rfl

@[simp] theorem demand_eq_ok {e : ε} {x : Option α} {a : α} :
    demand e x = .ok a ↔ x = some a := by
  cases x <;> simp [demand]

def FailsOnly (e : ε) (x : Except ε α) : Prop := ∀ e', x = .error e' → e' = e

namespace FailsOnly

theorem ok {e : ε} (a : α) : FailsOnly e (.ok a) := by
  intro e' failed
  cases failed

theorem ensure {e : ε} (condition : Prop) [Decidable condition] :
    FailsOnly e (ensure condition e) := by
  intro e' failed
  exact (ensure_eq_error.mp failed).2.symm

theorem demand {e : ε} (x : Option α) : FailsOnly e (demand e x) := by
  intro e' failed
  cases x with
  | none => exact (Except.error.inj failed).symm
  | some a => cases failed

theorem bind {e : ε} {x : Except ε α} {f : α → Except ε β} (first : FailsOnly e x)
    (next : ∀ a, FailsOnly e (f a)) : FailsOnly e (x >>= f) := by
  intro e' failed
  obtain failed | ⟨a, -, failed⟩ := bind_eq_error.mp failed
  · exact first e' failed
  · exact next a e' failed

end FailsOnly

/-- Rows covered by an index carry pairwise different keys. A row whose key is
null is outside the index, which also expresses partial unique indexes. -/
def UniqueIndex (key : ρ → Option κ) (rows : List ρ) : Prop :=
  (rows.filterMap key).Nodup

instance [DecidableEq κ] (key : ρ → Option κ) (rows : List ρ) :
    Decidable (UniqueIndex key rows) :=
  inferInstanceAs (Decidable (rows.filterMap key).Nodup)

theorem UniqueIndex.eq_of_key {key : ρ → Option κ} {rows : List ρ}
    (unique : UniqueIndex key rows) {row row' : ρ} {k : κ}
    (member : row ∈ rows) (member' : row' ∈ rows)
    (hkey : key row = some k) (hkey' : key row' = some k) : row = row' := by
  induction rows with
  | nil => cases member
  | cons head tail ih =>
    cases hhead : key head with
    | none =>
      have htail : UniqueIndex key tail := by
        simpa only [UniqueIndex, List.filterMap_cons, hhead] using unique
      have hne : row ≠ head := by rintro rfl; simp [hhead] at hkey
      have hne' : row' ≠ head := by rintro rfl; simp [hhead] at hkey'
      exact ih htail (List.mem_of_ne_of_mem hne member) (List.mem_of_ne_of_mem hne' member')
    | some j =>
      have hcons : j ∉ tail.filterMap key ∧ (tail.filterMap key).Nodup := by
        simpa only [UniqueIndex, List.filterMap_cons, hhead, List.nodup_cons] using unique
      have fresh : ∀ other ∈ tail, key other ≠ some j := by
        intro other hother hj
        exact hcons.1 (List.mem_filterMap.mpr ⟨other, hother, hj⟩)
      rcases List.mem_cons.mp member with rfl | inTail
      · rcases List.mem_cons.mp member' with rfl | inTail'
        · rfl
        · have hjk : j = k := by simpa [hhead] using hkey
          exact absurd (hjk ▸ hkey') (fresh row' inTail')
      · rcases List.mem_cons.mp member' with rfl | inTail'
        · have hjk : j = k := by simpa [hhead] using hkey'
          exact absurd (hjk ▸ hkey) (fresh row inTail)
        · exact ih hcons.2 inTail inTail'

def lookup [DecidableEq κ] (key : ρ → Option κ) (k : κ) (rows : List ρ) : Option ρ :=
  rows.find? fun row => key row = some k

def updateWhere (condition : ρ → Bool) (update : ρ → ρ) (rows : List ρ) : List ρ :=
  rows.map fun row => if condition row then update row else row

def upsert (conflict : ρ → Bool) (new : ρ) (update : ρ → ρ) (rows : List ρ) : List ρ :=
  if rows.any conflict then updateWhere conflict update rows else rows ++ [new]

def insertNew (conflict : ρ → Bool) (new : ρ) (rows : List ρ) : List ρ :=
  if rows.any conflict then rows else rows ++ [new]

section Lookup

variable [DecidableEq κ] {key : ρ → Option κ} {k : κ} {rows : List ρ} {row : ρ}

theorem lookup_mem (h : lookup key k rows = some row) : row ∈ rows :=
  List.mem_of_find?_eq_some h

theorem lookup_key (h : lookup key k rows = some row) : key row = some k := by
  simpa using List.find?_some h

theorem lookup_eq_none_iff : lookup key k rows = none ↔ ∀ row ∈ rows, key row ≠ some k := by
  simp [lookup]

theorem lookup_eq_some_iff (unique : UniqueIndex key rows) :
    lookup key k rows = some row ↔ row ∈ rows ∧ key row = some k := by
  constructor
  · intro h
    exact ⟨lookup_mem h, lookup_key h⟩
  · rintro ⟨member, hkey⟩
    cases found : lookup key k rows with
    | none => exact absurd hkey (lookup_eq_none_iff.mp found row member)
    | some other =>
      rw [unique.eq_of_key (lookup_mem found) member (lookup_key found) hkey]

theorem filter_eq_toList (unique : UniqueIndex key rows) :
    rows.filter (fun row => key row = some k) = (lookup key k rows).toList := by
  induction rows with
  | nil => rfl
  | cons head tail ih =>
    have tail' : UniqueIndex key tail := by
      unfold UniqueIndex at unique ⊢
      rw [List.filterMap_cons] at unique
      split at unique
      · exact unique
      · exact unique.of_cons
    by_cases here : key head = some k
    · have alone : ∀ row ∈ tail, ¬ key row = some k := by
        intro row member same
        simp only [UniqueIndex, List.filterMap_cons, here, List.nodup_cons] at unique
        exact unique.1 (List.mem_filterMap.mpr ⟨row, member, same⟩)
      have rest : tail.filter (fun row => key row = some k) = [] := by simpa using alone
      simp [lookup, here, rest]
    · have rest := ih tail'
      simpa [lookup, here] using rest

end Lookup

section Update

variable {condition : ρ → Bool} {update : ρ → ρ} {rows : List ρ} {row new : ρ}

theorem mem_updateWhere :
    row ∈ updateWhere condition update rows ↔
      (row ∈ rows ∧ condition row = false) ∨
        ∃ old ∈ rows, condition old = true ∧ row = update old := by
  simp only [updateWhere, List.mem_map]
  constructor
  · rintro ⟨old, member, rfl⟩
    cases hc : condition old with
    | false => exact .inl ⟨by simpa [hc] using member, by simp [hc]⟩
    | true => exact .inr ⟨old, member, hc, by simp⟩
  · rintro (⟨member, hc⟩ | ⟨old, member, hc, rfl⟩)
    · exact ⟨row, member, by simp [hc]⟩
    · exact ⟨old, member, by simp [hc]⟩

theorem filter_updateWhere {p : ρ → Bool}
    (fixes : ∀ row ∈ rows, condition row = true → p row = true → update row = row)
    (outside : ∀ row ∈ rows, condition row = true → p row = false → p (update row) = false) :
    (updateWhere condition update rows).filter p = rows.filter p := by
  induction rows with
  | nil => rfl
  | cons head tail ih =>
    have rest := ih (fun row member => fixes row (.tail _ member))
      (fun row member => outside row (.tail _ member))
    simp only [updateWhere, List.map_cons] at rest ⊢
    cases hc : condition head with
    | false => simp [List.filter_cons, rest]
    | true =>
      cases hp : p head with
      | false => simp [hp, outside head (.head _) hc hp, rest]
      | true => simp [fixes head (.head _) hc hp, List.filter_cons, rest]

theorem map_updateWhere {γ : Type} {column : ρ → γ}
    (keeps : ∀ row ∈ rows, condition row = true → column (update row) = column row) :
    (updateWhere condition update rows).map column = rows.map column := by
  simp only [updateWhere, List.map_map]
  refine List.map_congr_left fun row member => ?_
  cases hc : condition row with
  | false => simp [hc]
  | true => simp [hc, keeps row member hc]

theorem uniqueIndex_updateWhere {key : ρ → Option κ}
    (keeps : ∀ row ∈ rows, condition row = true → key (update row) = key row) :
    UniqueIndex key (updateWhere condition update rows) ↔ UniqueIndex key rows := by
  have keys := congrArg (List.filterMap id) (map_updateWhere keeps)
  simp only [List.filterMap_map, Function.id_comp] at keys
  simp only [UniqueIndex, keys]

theorem UniqueIndex.filter {key : ρ → Option κ} (unique : UniqueIndex key rows)
    (p : ρ → Bool) : UniqueIndex key (rows.filter p) :=
  List.Nodup.sublist (List.filter_sublist.filterMap key) unique

theorem UniqueIndex.append_new {key : ρ → Option κ} (unique : UniqueIndex key rows) {new : ρ}
    {k : κ} (fresh : ∀ row ∈ rows, key row ≠ some k) (named : key new = some k) :
    UniqueIndex key (rows ++ [new]) := by
  unfold UniqueIndex
  rw [List.filterMap_append]
  refine List.nodup_append.mpr ⟨unique, ?_, ?_⟩
  · simp [named]
  · intro a member b new same
    obtain ⟨row, stored, found⟩ := List.mem_filterMap.mp member
    simp only [List.filterMap_cons, named, List.filterMap_nil, List.mem_singleton] at new
    exact fresh row stored (by rw [found, same, new])

theorem UniqueIndex.nodup_map {γ : Type} {key : ρ → κ} {column : ρ → γ}
    (unique : UniqueIndex (fun row => some (key row)) rows)
    (determines : ∀ row row', column row = column row' → key row = key row') :
    (rows.map column).Nodup := by
  have apart : (rows.map key).Nodup := by
    simpa only [UniqueIndex, List.filterMap_eq_map'] using unique
  refine List.pairwise_map.mpr ((List.pairwise_map.mp apart).imp fun differ same => ?_)
  exact differ (determines _ _ same)

theorem UniqueIndex.drop {key : ρ → Option κ} (unique : UniqueIndex key rows)
    (drops : ∀ row, condition row = true → key (update row) = none) :
    UniqueIndex key (updateWhere condition update rows) := by
  suffices fewer : ((updateWhere condition update rows).filterMap key).Sublist
      (rows.filterMap key) from List.Nodup.sublist fewer unique
  clear unique
  induction rows with
  | nil => exact List.Sublist.slnil
  | cons row rows ih =>
    simp only [updateWhere, List.map_cons, List.filterMap_cons] at ih ⊢
    cases met : condition row with
    | false =>
      simp only [Bool.false_eq_true, if_false]
      cases key row with
      | none => exact ih
      | some k => exact ih.cons_cons k
    | true =>
      simp only [if_true, drops row met]
      cases key row with
      | none => exact ih
      | some k => exact ih.cons k

theorem any_updateWhere {p : ρ → Bool}
    (keeps : ∀ row ∈ rows, condition row = true → p (update row) = p row) :
    (updateWhere condition update rows).any p = rows.any p := by
  have columns := map_updateWhere keeps
  simpa only [List.any_map, Function.comp_def, id] using congrArg (List.any · id) columns

theorem filter_map_updateWhere {γ : Type} {p : ρ → Bool} {column : ρ → γ}
    (stable : ∀ row, condition row = true → p (update row) = p row)
    (keeps : ∀ row, condition row = true → column (update row) = column row) :
    ((updateWhere condition update rows).filter p).map column = (rows.filter p).map column := by
  induction rows with
  | nil => rfl
  | cons head tail ih =>
    simp only [updateWhere, List.map_cons] at ih ⊢
    cases hc : condition head with
    | false => cases hp : p head <;> simp [hp, ih]
    | true => cases hp : p head <;> simp [hp, stable head hc, keeps head hc, ih]

theorem lookup_updateWhere [DecidableEq κ] {key : ρ → Option κ} {k : κ}
    (keeps : ∀ row, condition row = true → key (update row) = key row) :
    lookup key k (updateWhere condition update rows) =
      (lookup key k rows).map fun row => if condition row then update row else row := by
  unfold lookup updateWhere
  rw [List.find?_map]
  congr 2
  funext row
  cases hc : condition row with
  | false => simp [hc]
  | true => simp [hc, keeps row hc]

theorem lookup_updateOne [DecidableEq κ] {key : ρ → κ} {k k' : κ}
    (keeps : ∀ row, key (update row) = key row) :
    lookup (fun row => some (key row)) k' (updateWhere (fun row => key row = k) update rows) =
      if k' = k then (lookup (fun row => some (key row)) k' rows).map update
      else lookup (fun row => some (key row)) k' rows := by
  rw [lookup_updateWhere fun row _ => by rw [keeps]]
  cases found : lookup (fun row => some (key row)) k' rows with
  | none => split <;> rfl
  | some row =>
    have same : key row = k' := by simpa using lookup_key found
    by_cases h : k' = k <;> simp [same, h]

end Update

section Insert

variable {conflict : ρ → Bool} {update : ρ → ρ} {rows : List ρ} {new row : ρ}

theorem upsert_of_conflict (h : rows.any conflict = true) :
    upsert conflict new update rows = updateWhere conflict update rows := by
  simp [upsert, h]

theorem upsert_of_fresh (h : rows.any conflict = false) :
    upsert conflict new update rows = rows ++ [new] := by
  simp [upsert, h]

theorem mem_upsert :
    row ∈ upsert conflict new update rows ↔ (row ∈ rows ∧ conflict row = false) ∨
      (∃ old ∈ rows, conflict old = true ∧ row = update old) ∨
      rows.any conflict = false ∧ row = new := by
  cases hc : rows.any conflict with
  | true => simp [upsert_of_conflict hc, mem_updateWhere]
  | false =>
    have free : ∀ old ∈ rows, conflict old = false := by simpa using hc
    rw [upsert_of_fresh hc, List.mem_append, List.mem_singleton]
    constructor
    · rintro (stored | rfl)
      · exact .inl ⟨stored, free row stored⟩
      · exact .inr (.inr ⟨rfl, rfl⟩)
    · rintro (⟨stored, -⟩ | ⟨old, stored, conflicts, -⟩ | ⟨-, same⟩)
      · exact .inl stored
      · cases conflicts.symm.trans (free old stored)
      · exact .inr same

theorem filter_upsert {p : ρ → Bool}
    (fixes : ∀ row ∈ rows, conflict row = true → p row = true → update row = row)
    (outside : ∀ row ∈ rows, conflict row = true → p row = false → p (update row) = false)
    (fresh : p new = false) :
    (upsert conflict new update rows).filter p = rows.filter p := by
  cases hc : rows.any conflict with
  | true => rw [upsert_of_conflict hc, filter_updateWhere fixes outside]
  | false => simp [upsert_of_fresh hc, fresh]

theorem map_upsert {γ : Type} {column : ρ → γ}
    (keeps : ∀ row ∈ rows, conflict row = true → column (update row) = column row) :
    (upsert conflict new update rows).map column =
      if rows.any conflict then rows.map column else rows.map column ++ [column new] := by
  cases hc : rows.any conflict with
  | true => rw [upsert_of_conflict hc, map_updateWhere keeps, if_pos rfl]
  | false => simp [upsert_of_fresh hc]

theorem mem_insertNew (represents : ∀ row, conflict row = true ↔ row = new) :
    row ∈ insertNew conflict new rows ↔ row ∈ rows ∨ row = new := by
  unfold insertNew
  split
  · rename_i h
    obtain ⟨stored, member, hconflict⟩ := List.any_eq_true.mp h
    rw [(represents stored).mp hconflict] at member
    constructor
    · exact .inl
    · rintro (h | rfl)
      · exact h
      · exact member
  · simp

theorem lookup_append [DecidableEq κ] {key : ρ → Option κ} {k : κ} :
    lookup key k (rows ++ [new]) =
      (lookup key k rows).or (if key new = some k then some new else none) := by
  simp only [lookup, List.find?_append, List.find?_cons, List.find?_nil]
  by_cases h : key new = some k <;> simp [h]

theorem lookup_perm [DecidableEq κ] {key : ρ → Option κ} {k : κ} {rows rows' : List ρ}
    (unique : UniqueIndex key rows) (unique' : UniqueIndex key rows') (perm : rows'.Perm rows) :
    lookup key k rows' = lookup key k rows := by
  apply Option.ext
  intro row
  rw [lookup_eq_some_iff unique, lookup_eq_some_iff unique', perm.mem_iff]

theorem lookup_forall₂ [DecidableEq κ] {key : ρ → Option κ} {k : κ} {R : ρ → ρ → Prop}
    {rows rows' : List ρ} (related : List.Forall₂ R rows rows')
    (stable : ∀ row row', R row row' → key row' = key row) :
    (lookup key k rows = none ∧ lookup key k rows' = none) ∨
      ∃ row row', lookup key k rows = some row ∧ lookup key k rows' = some row' ∧ R row row' := by
  induction related with
  | nil => exact .inl ⟨rfl, rfl⟩
  | @cons row row' rows rows' first _ ih =>
    have same := stable row row' first
    by_cases here : key row = some k
    · exact .inr ⟨row, row', by simp [lookup, here], by simp [lookup, same, here], first⟩
    · simpa [lookup, same, here] using ih

/-- Inserting under one key changes what that key finds, unless it is taken. -/
theorem lookup_insertNew [DecidableEq κ] {key : ρ → κ} {k k' : κ} (hkey : key new = k) :
    lookup (fun row => some (key row)) k' (insertNew (fun row => key row = k) new rows) =
      if k' = k then (lookup (fun row => some (key row)) k' rows).or (some new)
      else lookup (fun row => some (key row)) k' rows := by
  unfold insertNew
  split
  · rename_i taken
    obtain ⟨row, member, same⟩ := List.any_eq_true.mp taken
    split
    · rename_i hk
      subst hk
      cases found : lookup (fun row => some (key row)) k' rows with
      | some row => rfl
      | none =>
        have := lookup_eq_none_iff.mp found row member
        simp_all
    · rfl
  · unfold lookup
    rw [List.find?_append]
    split
    · rename_i hk
      simp [hk, hkey]
    · rename_i hk
      have other : ¬ key new = k' := fun h => hk (h.symm.trans hkey)
      simp [other]

end Insert

/-- A running choice over a list ends with a member that every member is below, when each
turn keeps one of the two it compares. -/
theorem foldl_choose {α : Type} {P R : α → α → Prop} {f : α → α → α}
    (refl : ∀ a, R a a) (trans : ∀ a b c, R a b → R b c → R a c)
    (picks : ∀ best a, P best a → (f best a = best ∨ f best a = a) ∧
      R best (f best a) ∧ R a (f best a)) :
    ∀ (rest : List α) (first : α), (first :: rest).Pairwise P →
      rest.foldl f first ∈ first :: rest ∧
        ∀ a ∈ first :: rest, R a (rest.foldl f first) := by
  intro rest
  induction rest with
  | nil =>
    intro first _
    exact ⟨.head _, by simpa using refl first⟩
  | cons next rest ih =>
    intro first ordered
    obtain ⟨early, later⟩ := List.pairwise_cons.mp ordered
    obtain ⟨chosen, first_below, next_below⟩ := picks first next (early next (.head _))
    have still : (f first next :: rest).Pairwise P := by
      rcases chosen with same | same
      · rw [same]
        exact List.pairwise_cons.mpr
          ⟨fun a member => early a (.tail _ member), (List.pairwise_cons.mp later).2⟩
      · rw [same]
        exact later
    obtain ⟨member, all⟩ := ih (f first next) still
    refine ⟨?_, ?_⟩
    · rcases List.mem_cons.mp member with same | member
      · rw [List.foldl_cons, same]
        rcases chosen with same | same <;> rw [same] <;> simp
      · exact .tail _ (.tail _ member)
    · intro a listed
      have top := all _ (.head _)
      rcases List.mem_cons.mp listed with rfl | listed
      · exact trans _ _ _ first_below top
      · rcases List.mem_cons.mp listed with rfl | listed
        · exact trans _ _ _ next_below top
        · exact all a (.tail _ listed)

end Relational
