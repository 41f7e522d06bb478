import Mathlib.Data.List.Basic
import Mathlib.Logic.Function.Basic

/-!
# Encodings that can be told apart

Values are written one after the other. What is read back is unambiguous when each
encoding can be told apart from every other whatever follows it. `Delimited` says so for
one encoder; it holds of encodings of one length, of encodings behind their length, of
pairs and lists of such encodings; two rows before a separator they do not contain are told apart
as well.
-/

namespace Collections

variable {α β γ : Type}

/-- Encodings that are told apart whatever follows them. -/
def Delimited (encode : α → List γ) : Prop :=
  ∀ a b s t, encode a ++ s = encode b ++ t → a = b ∧ s = t

theorem append_separator_inj {stop : γ} {u v s t : List γ} (free : stop ∉ u) (free' : stop ∉ v)
    (same : u ++ stop :: s = v ++ stop :: t) : u = v ∧ s = t := by
  induction u generalizing v with
  | nil =>
    cases v with
    | nil => exact ⟨rfl, (List.cons.inj same).2⟩
    | cons c v => exact absurd (.head _) ((List.cons.inj same).1 ▸ free')
  | cons c u ih =>
    cases v with
    | nil => exact absurd (.head _) ((List.cons.inj same).1 ▸ free)
    | cons c' v =>
      obtain ⟨rfl, behind⟩ := List.cons.inj same
      obtain ⟨rfl, rest⟩ := ih (fun there => free (.tail _ there))
        (fun there => free' (.tail _ there)) behind
      exact ⟨rfl, rest⟩

namespace Delimited

variable {f : α → List γ} {g : β → List γ}

theorem injective (delimited : Delimited f) : Function.Injective f := by
  intro a b same
  exact (delimited a b [] [] (by rw [same])).1

theorem of_length (injective : Function.Injective f)
    (length : ∀ a b, (f a).length = (f b).length) : Delimited f := by
  intro a b s t same
  obtain ⟨encoded, rest⟩ := List.append_inj same (length a b)
  exact ⟨injective encoded, rest⟩

theorem comp (delimited : Delimited f) {h : β → α} (injective : Function.Injective h) :
    Delimited fun b => f (h b) := by
  intro a b s t same
  obtain ⟨encoded, rest⟩ := delimited _ _ s t same
  exact ⟨injective encoded, rest⟩

theorem append (first : Delimited f) (second : Delimited g) :
    Delimited fun pair : α × β => f pair.1 ++ g pair.2 := by
  rintro ⟨a, b⟩ ⟨a', b'⟩ s t same
  simp only [List.append_assoc] at same
  obtain ⟨rfl, behind⟩ := first _ _ _ _ same
  obtain ⟨rfl, rest⟩ := second _ _ _ _ behind
  exact ⟨rfl, rest⟩

theorem counted {count : Nat → List γ} (injective : Function.Injective f)
    (width : ∀ m n, (count m).length = (count n).length)
    (counts : ∀ a b, count (f a).length = count (f b).length → (f a).length = (f b).length) :
    Delimited fun a => count (f a).length ++ f a := by
  intro a b s t same
  simp only [List.append_assoc] at same
  obtain ⟨counted, same⟩ := List.append_inj same (width _ _)
  obtain ⟨encoded, rest⟩ := List.append_inj same (counts a b counted)
  exact ⟨injective encoded, rest⟩

theorem flatMap (delimited : Delimited f) (some' : ∀ a, f a ≠ []) :
    Function.Injective fun values : List α => values.flatMap f := by
  intro values
  induction values with
  | nil =>
    intro others same
    cases others with
    | nil => rfl
    | cons b others => exact absurd (List.append_eq_nil_iff.mp same.symm).1 (some' b)
  | cons a values ih =>
    intro others same
    cases others with
    | nil => exact absurd (List.append_eq_nil_iff.mp same).1 (some' a)
    | cons b others =>
      obtain ⟨rfl, rest⟩ := delimited a b _ _ same
      rw [ih rest]

end Delimited

end Collections
