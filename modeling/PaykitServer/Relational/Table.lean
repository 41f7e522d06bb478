import PaykitServer.Relational.Statement

/-!
# Tables under declared constraints

A stored table carries the proof that its rows meet the constraints declared
by its schema (keys, unique indexes and row checks). A write statement
succeeds exactly when the rows it leaves behind still meet them; otherwise it
fails and the surrounding transaction is abandoned. No operation therefore has
to re-prove that keys are unique: every table value in existence already is.
-/

namespace Relational

/-- Rows in storage order that meet the declared constraints. -/
structure Table (ρ : Type) (Constraints : List ρ → Prop) where
  rows : List ρ
  valid : Constraints rows

namespace Table

variable {ε ρ : Type} {Constraints : List ρ → Prop}

@[ext] theorem ext {t t' : Table ρ Constraints} (h : t.rows = t'.rows) : t = t' := by
  cases t
  cases t'
  cases h
  rfl

/-- Store the rows a statement computed, failing with `e` on a violation. -/
def write [DecidablePred Constraints] (e : ε) (rows : List ρ) : Except ε (Table ρ Constraints) :=
  if h : Constraints rows then .ok ⟨rows, h⟩ else .error e

@[simp] theorem write_eq_ok [DecidablePred Constraints] {e : ε} {rows : List ρ}
    {t : Table ρ Constraints} : write e rows = .ok t ↔ t.rows = rows := by
  unfold write
  constructor
  · intro h
    split at h
    · cases h
      rfl
    · cases h
  · rintro rfl
    rw [dif_pos t.valid]

end Table

end Relational
