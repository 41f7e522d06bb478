import PaykitServer.Relational.Statement

/-!
# How the rows of a table evolve

Between two states of a table that never loses a row, every stored row is kept
under some relation and further rows are added behind. `Grows Keeps Added` says
so once for a whole table; single statements establish it, it composes over the
statements of a transaction, and it tells what a later lookup can find.
-/

namespace Relational

variable {ρ κ : Type}

/-- Every row is kept in place, and what follows the kept rows was added. -/
inductive Grows (Keeps : ρ → ρ → Prop) (Added : ρ → Prop) : List ρ → List ρ → Prop where
  | added {new : List ρ} (all : ∀ row ∈ new, Added row) : Grows Keeps Added [] new
  | kept {row row' : ρ} {rows rows' : List ρ} (keeps : Keeps row row')
      (rest : Grows Keeps Added rows rows') : Grows Keeps Added (row :: rows) (row' :: rows')

namespace Grows

variable {Keeps Keeps' Keeps'' : ρ → ρ → Prop} {Added Added' Added'' : ρ → Prop}
variable {rows rows' rows'' new : List ρ} {row row' : ρ}

theorem refl (keeps : ∀ row ∈ rows, Keeps row row) : Grows Keeps Added rows rows := by
  induction rows with
  | nil => exact .added (by simp)
  | cons row rows ih =>
    exact .kept (keeps row (.head _)) (ih fun row member => keeps row (.tail _ member))

theorem updateWhere {condition : ρ → Bool} {update : ρ → ρ}
    (others : ∀ row ∈ rows, condition row = false → Keeps row row)
    (updated : ∀ row ∈ rows, condition row = true → Keeps row (update row)) :
    Grows Keeps Added rows (Relational.updateWhere condition update rows) := by
  induction rows with
  | nil => exact .added (by simp [Relational.updateWhere])
  | cons row rows ih =>
    have rest := ih (fun row member => others row (.tail _ member))
      (fun row member => updated row (.tail _ member))
    refine .kept ?_ rest
    cases met : condition row with
    | false => simpa [met] using others row (.head _) met
    | true => simpa [met] using updated row (.head _) met

theorem concat {added : ρ} (keeps : ∀ row ∈ rows, Keeps row row) (new : Added added) :
    Grows Keeps Added rows (rows ++ [added]) := by
  induction rows with
  | nil => exact .added (by simpa using new)
  | cons row rows ih =>
    exact .kept (keeps row (.head _)) (ih fun row member => keeps row (.tail _ member))

theorem insertNew {conflict : ρ → Bool} {added : ρ} (keeps : ∀ row ∈ rows, Keeps row row)
    (new : Added added) : Grows Keeps Added rows (Relational.insertNew conflict added rows) := by
  unfold Relational.insertNew
  split
  · exact .refl keeps
  · exact .concat keeps new

theorem mono (grows : Grows Keeps Added rows rows')
    (keeps : ∀ row ∈ rows, ∀ row', Keeps row row' → Keeps' row row')
    (added : ∀ row, Added row → Added' row) : Grows Keeps' Added' rows rows' := by
  induction grows with
  | added all => exact .added fun row member => added row (all row member)
  | kept kept rest ih =>
    exact .kept (keeps _ (.head _) _ kept) (ih fun row member => keeps row (.tail _ member))

theorem eq_append (grows : Grows Eq Added rows rows') :
    ∃ new, rows' = rows ++ new ∧ ∀ row ∈ new, Added row := by
  induction grows with
  | @added new all => exact ⟨new, rfl, all⟩
  | kept keeps _ ih =>
    obtain ⟨new, rfl, all⟩ := ih
    exact ⟨new, by rw [keeps, List.cons_append], all⟩

theorem of_mem (grows : Grows Keeps Added rows rows') (member : row' ∈ rows') :
    (∃ row ∈ rows, Keeps row row') ∨ Added row' := by
  induction grows with
  | added all => exact .inr (all row' member)
  | kept keeps rest ih =>
    rcases List.mem_cons.mp member with rfl | later
    · exact .inl ⟨_, .head _, keeps⟩
    · rcases ih later with ⟨row, stored, kept⟩ | fresh
      · exact .inl ⟨row, .tail _ stored, kept⟩
      · exact .inr fresh

theorem mem (grows : Grows Keeps Added rows rows') (member : row ∈ rows) :
    ∃ row' ∈ rows', Keeps row row' := by
  induction grows with
  | added => cases member
  | kept keeps rest ih =>
    rcases List.mem_cons.mp member with rfl | later
    · exact ⟨_, .head _, keeps⟩
    · obtain ⟨row', stored, kept⟩ := ih later
      exact ⟨row', .tail _ stored, kept⟩

theorem map_eq {γ : Type} {column : ρ → γ} (grows : Grows Keeps (fun _ => False) rows rows')
    (keeps : ∀ row row', Keeps row row' → column row' = column row) :
    rows'.map column = rows.map column := by
  induction rows generalizing rows' with
  | nil =>
    cases grows with
    | added all => rw [List.eq_nil_iff_forall_not_mem.mpr all]
  | cons row rows ih =>
    cases grows with
    | kept kept rest => rw [List.map_cons, List.map_cons, keeps _ _ kept, ih rest]

theorem filterMap_eq {γ : Type} {column : ρ → Option γ} (grows : Grows Keeps Added rows rows')
    (keeps : ∀ row row', Keeps row row' → column row' = column row)
    (added : ∀ row, Added row → column row = none) :
    rows'.filterMap column = rows.filterMap column := by
  induction grows with
  | added all => exact List.filterMap_eq_nil_iff.mpr fun row member => added row (all row member)
  | kept kept rest ih =>
    rw [List.filterMap_cons, List.filterMap_cons, keeps _ _ kept, ih]

theorem trans (first : Grows Keeps Added rows rows') (second : Grows Keeps' Added' rows' rows'')
    (keeps : ∀ a b c, Keeps a b → Keeps' b c → Keeps'' a c)
    (early : ∀ b c, Added b → Keeps' b c → Added'' c) (late : ∀ c, Added' c → Added'' c) :
    Grows Keeps'' Added'' rows rows'' := by
  induction first generalizing rows'' with
  | added all =>
    refine .added fun row'' member => ?_
    rcases second.of_mem member with ⟨row', stored, kept⟩ | fresh
    · exact early row' row'' (all row' stored) kept
    · exact late row'' fresh
  | kept kept rest ih =>
    cases second with
    | kept kept' rest' => exact .kept (keeps _ _ _ kept kept') (ih rest')

/-- A key that rows keep finds the kept row; a key that found nothing can only
find an added row. -/
theorem lookup [DecidableEq κ] {key : ρ → Option κ} {k : κ} (grows : Grows Keeps Added rows rows')
    (stable : ∀ row row', Keeps row row' → key row' = key row) :
    (∀ row, Relational.lookup key k rows = some row →
      ∃ row', Relational.lookup key k rows' = some row' ∧ Keeps row row') ∧
    (Relational.lookup key k rows = none →
      ∀ row', Relational.lookup key k rows' = some row' → Added row') := by
  induction grows with
  | added all =>
    refine ⟨?_, fun _ row' found => all row' (lookup_mem found)⟩
    intro row found
    cases found
  | @kept row row' rows rows' keeps rest ih =>
    have same := stable _ _ keeps
    by_cases here : key row = some k
    · refine ⟨fun found hfound => ?_, fun missing => ?_⟩
      · obtain rfl : row = found := by simpa [Relational.lookup, here] using hfound
        exact ⟨row', by simp [Relational.lookup, same, here], keeps⟩
      · simp [Relational.lookup, here] at missing
    · simpa [Relational.lookup, same, here] using ih

end Grows

end Relational
