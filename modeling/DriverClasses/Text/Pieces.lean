/-!
# Cutting at a separator

`pieces sep s` cuts a text, or a list of bytes, at every `sep`; the pieces are never fewer than one,
none of them holds the separator, and joining them with it gives `s` back (`join_pieces`).  `cut`
cuts at the first separator only.
-/

namespace DriverClasses.Text

variable {α : Type} [DecidableEq α]

/-- The stretches between the separators, the empty ones included. -/
def pieces (sep : α) : List α → List (List α)
  | [] => [[]]
  | c :: r =>
    if c = sep then [] :: pieces sep r
    else
      match pieces sep r with
      | [] => [[c]]
      | p :: ps => (c :: p) :: ps

/-- The pieces with the separator between neighbours. -/
def join (sep : α) : List (List α) → List α
  | [] => []
  | [p] => p
  | p :: q :: ps => p ++ sep :: join sep (q :: ps)

/-- What stands before and after the first `sep`, if there is one. -/
def cut (sep : α) : List α → Option (List α × List α)
  | [] => none
  | c :: r => if c = sep then some ([], r) else (cut sep r).map fun (a, b) => (c :: a, b)

/-- The separator replaced by another character. -/
def replaceChar (old new : Char) (s : List Char) : List Char :=
  s.map fun c => if c = old then new else c

/-- Equality up to the case of ASCII letters. -/
def sameIgnoringCase (a b : List Char) : Bool := a.map Char.toLower == b.map Char.toLower

theorem pieces_ne_nil (sep : α) (s : List α) : pieces sep s ≠ [] := by
  cases s with
  | nil => simp [pieces]
  | cons c r =>
    by_cases hc : c = sep
    · simp [pieces, hc]
    · cases h : pieces sep r <;> simp [pieces, hc, h]

omit [DecidableEq α] in
theorem join_cons (sep : α) (p : List α) {ps : List (List α)} (h : ps ≠ []) :
    join sep (p :: ps) = p ++ sep :: join sep ps := by
  cases ps with
  | nil => exact absurd rfl h
  | cons q ps => rfl

theorem join_pieces (sep : α) (s : List α) : join sep (pieces sep s) = s := by
  induction s with
  | nil => rfl
  | cons c r ih =>
    by_cases hc : c = sep
    · rw [pieces, if_pos hc, join_cons sep [] (pieces_ne_nil sep r), ih, hc]; rfl
    · cases h : pieces sep r with
      | nil => exact absurd h (pieces_ne_nil sep r)
      | cons p ps =>
        rw [h] at ih
        cases ps with
        | nil => simp_all [pieces, join]
        | cons q ps => simp_all [pieces, join]

theorem not_mem_of_mem_pieces {sep : α} {s p : List α} (h : p ∈ pieces sep s) :
    sep ∉ p := by
  induction s generalizing p with
  | nil => simp_all [pieces]
  | cons c r ih =>
    by_cases hc : c = sep
    · rw [pieces, if_pos hc] at h
      rcases List.mem_cons.1 h with rfl | h
      · simp
      · exact ih h
    · cases hr : pieces sep r with
      | nil => exact absurd hr (pieces_ne_nil sep r)
      | cons q qs =>
        rw [pieces, if_neg hc, hr] at h
        rcases List.mem_cons.1 h with rfl | h
        · have hq : sep ∉ q := ih (by rw [hr]; simp)
          simp only [List.mem_cons, not_or]
          exact ⟨fun he => hc he.symm, hq⟩
        · exact ih (by rw [hr]; simp [h])

/-- What does not hold the separator is one piece. -/
theorem pieces_eq_singleton {sep : α} {s : List α} (h : sep ∉ s) : pieces sep s = [s] := by
  induction s with
  | nil => rfl
  | cons c r ih =>
    simp only [List.mem_cons, not_or] at h
    rw [pieces, if_neg (fun he => h.1 he.symm), ih h.2]

/-- A piece without the separator in front of one comes out by itself. -/
theorem pieces_append {sep : α} {p : List α} (h : sep ∉ p) (s : List α) :
    pieces sep (p ++ sep :: s) = p :: pieces sep s := by
  induction p with
  | nil => simp [pieces]
  | cons c r ih =>
    simp only [List.mem_cons, not_or] at h
    rw [List.cons_append, pieces, if_neg (fun he => h.1 he.symm), ih h.2]

end DriverClasses.Text
