import Mathlib.Data.List.Infix
import DriverClasses.Proofs.Text.Pieces

/-!
# Where pieces stand

Pieces that are put together with a separator between neighbours stand one behind the other, each
at a place that the lengths of those in front of it fix (`mem_placed_iff`), and the text reads on
from there with that piece (`prefix_drop_widths`).  What holds no separator and stands in the text
stands in one of the pieces (`exists_infix_of_infix_join`).
-/

namespace DriverClasses.Text

variable {α : Type} {sep : α} {p x : List α} {ps : List (List α)} {k n : Nat}

/-- The room that pieces take with a separator behind each. -/
def widths : List (List α) → Nat
  | [] => 0
  | p :: ps => p.length + 1 + widths ps

/-- The pieces with the places where they start, the first of them at `k`. -/
def placed (k : Nat) : List (List α) → List (Nat × List α)
  | [] => []
  | p :: ps => (k, p) :: placed (k + p.length + 1) ps

@[simp] theorem widths_nil : widths ([] : List (List α)) = 0 := rfl

@[simp] theorem widths_cons (p : List α) (ps : List (List α)) :
    widths (p :: ps) = p.length + 1 + widths ps := rfl

theorem map_snd_placed (k : Nat) (ps : List (List α)) : (placed k ps).map (·.2) = ps := by
  induction ps generalizing k with
  | nil => rfl
  | cons p ps ih => rw [placed, List.map_cons, ih]

theorem mem_placed_iff :
    (n, p) ∈ placed k ps ↔ ∃ before after, ps = before ++ p :: after ∧ n = k + widths before := by
  induction ps generalizing k with
  | nil => simp [placed]
  | cons q qs ih =>
    rw [placed, List.mem_cons, ih, Prod.mk.injEq]
    constructor
    · rintro (⟨rfl, rfl⟩ | ⟨before, after, rfl, rfl⟩)
      · exact ⟨[], qs, rfl, rfl⟩
      · exact ⟨q :: before, after, rfl, by rw [widths_cons]; omega⟩
    · rintro ⟨before, after, hsplit, rfl⟩
      cases before with
      | nil =>
        obtain ⟨rfl, rfl⟩ := List.cons.inj hsplit
        exact .inl ⟨rfl, rfl⟩
      | cons r before =>
        obtain ⟨rfl, rfl⟩ := List.cons.inj hsplit
        exact .inr ⟨before, after, rfl, by rw [widths_cons]; omega⟩

/-- A piece ends, with its separator, before the next one starts. -/
theorem pairwise_placed (k : Nat) (ps : List (List α)) :
    (placed k ps).Pairwise fun a b => a.1 + a.2.length < b.1 := by
  induction ps generalizing k with
  | nil => exact .nil
  | cons p ps ih =>
    refine .cons (fun b hb => ?_) (ih _)
    obtain ⟨before, -, -, hplace⟩ := mem_placed_iff.mp hb
    dsimp only
    omega

theorem exists_join_append (sep : α) (before : List (List α)) {after : List (List α)}
    (h : after ≠ []) :
    ∃ front, front.length = widths before
      ∧ join sep (before ++ after) = front ++ join sep after := by
  induction before with
  | nil => exact ⟨[], rfl, rfl⟩
  | cons p before ih =>
    obtain ⟨front, hfront, hjoin⟩ := ih
    refine ⟨p ++ sep :: front, ?_, ?_⟩
    · rw [List.length_append, List.length_cons, hfront, widths_cons]
      omega
    · rw [List.cons_append, join_cons sep p (by simp [h]), hjoin, List.append_assoc,
        List.cons_append]

theorem prefix_drop_widths (before : List (List α)) (p : List α) (after : List (List α)) :
    p <+: (join sep (before ++ p :: after)).drop (widths before) := by
  obtain ⟨front, hfront, hjoin⟩ := exists_join_append sep before
    (List.cons_ne_nil p after)
  rw [hjoin, ← hfront, List.drop_left]
  exact prefix_join_cons sep p after

theorem exists_infix_of_infix_join (hsep : sep ∉ x) :
    ∀ {ps : List (List α)}, ps ≠ [] → x <:+: join sep ps → ∃ p ∈ ps, x <:+: p
  | [], hne, _ => absurd rfl hne
  | [p], _, h => ⟨p, List.mem_cons_self, h⟩
  | p :: q :: ps, _, h => by
    rcases infix_append_cons hsep p h with hfirst | hrest
    · exact ⟨p, List.mem_cons_self, hfirst⟩
    · obtain ⟨r, hr, hinside⟩ := exists_infix_of_infix_join hsep (List.cons_ne_nil q ps) hrest
      exact ⟨r, List.mem_cons_of_mem p hr, hinside⟩

end DriverClasses.Text
