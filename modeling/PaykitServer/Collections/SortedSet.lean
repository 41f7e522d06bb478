import Mathlib.Data.List.Sort

/-!
# Sets kept in increasing order

A set of elements of a linear order, held as the list of its elements in
increasing order, so that iterating over it is reading the list. The order is a
field, so every set there is has each element once and in its place.
-/

namespace Collections

variable {α : Type} [LinearOrder α]

/-- The elements in increasing order, each once. -/
@[ext] structure SortedSet (α : Type) [LinearOrder α] where
  elements : List α
  increasing : elements.Pairwise (· < ·)
  deriving DecidableEq

namespace SortedSet

instance : Membership α (SortedSet α) := ⟨fun set a => a ∈ set.elements⟩

instance (a : α) (set : SortedSet α) : Decidable (a ∈ set) :=
  inferInstanceAs (Decidable (a ∈ set.elements))

variable {a : α} {set : SortedSet α} {list : List α}

@[simp] theorem mem_elements : a ∈ set.elements ↔ a ∈ set := Iff.rfl

def empty : SortedSet α := ⟨[], .nil⟩

@[simp] theorem not_mem_empty : a ∉ (empty : SortedSet α) := List.not_mem_nil

def isEmpty (set : SortedSet α) : Bool := set.elements.isEmpty

theorem isEmpty_iff : set.isEmpty = true ↔ ∀ a, a ∉ set := by
  rw [isEmpty, List.isEmpty_iff, List.eq_nil_iff_forall_not_mem]
  rfl

/-- Put an element in its place, unless it is there. -/
def insert (a : α) : List α → List α
  | [] => [a]
  | b :: rest => if a < b then a :: b :: rest else if a = b then b :: rest else b :: insert a rest

theorem mem_insert {b : α} : b ∈ insert a list ↔ b = a ∨ b ∈ list := by
  induction list with
  | nil => simp [insert]
  | cons c rest ih =>
    rw [insert]
    split
    · simp
    · split
      · rename_i same
        simp [same]
      · simp only [List.mem_cons, ih]
        tauto

theorem insert_increasing (increasing : list.Pairwise (· < ·)) :
    (insert a list).Pairwise (· < ·) := by
  induction list with
  | nil => simp [insert]
  | cons b rest ih =>
    obtain ⟨least, tail⟩ := List.pairwise_cons.mp increasing
    rw [insert]
    split
    · rename_i below
      refine List.pairwise_cons.mpr ⟨?_, increasing⟩
      intro c member
      cases member with
      | head => exact below
      | tail _ member => exact below.trans (least c member)
    · rename_i notBelow
      split
      · exact increasing
      · rename_i other
        refine List.pairwise_cons.mpr ⟨?_, ih tail⟩
        intro c member
        rcases mem_insert.mp member with rfl | member
        · exact lt_of_le_of_ne (not_lt.mp notBelow) (Ne.symm other)
        · exact least c member

def extend (set : SortedSet α) (list : List α) : SortedSet α where
  elements := list.foldr insert set.elements
  increasing := by
    induction list with
    | nil => exact set.increasing
    | cons a rest ih => exact insert_increasing ih

@[simp] theorem mem_extend :
    a ∈ set.extend list ↔ a ∈ set ∨ a ∈ list := by
  change a ∈ list.foldr insert set.elements ↔ _
  induction list with
  | nil => simp
  | cons b rest ih =>
    rw [List.foldr_cons, mem_insert, ih, List.mem_cons]
    tauto

def ofList (list : List α) : SortedSet α := empty.extend list

@[simp] theorem mem_ofList : a ∈ ofList list ↔ a ∈ list := by
  simp [ofList]

def union (first second : SortedSet α) : SortedSet α := first.extend second.elements

@[simp] theorem mem_union {first second : SortedSet α} :
    a ∈ first.union second ↔ a ∈ first ∨ a ∈ second := by
  simp [union]

def remove (set : SortedSet α) (a : α) : SortedSet α where
  elements := set.elements.filter (· ≠ a)
  increasing := set.increasing.filter _

@[simp] theorem mem_remove {b : α} : b ∈ set.remove a ↔ b ∈ set ∧ b ≠ a := by
  change b ∈ set.elements.filter (· ≠ a) ↔ _
  simp

end SortedSet

end Collections
