import Mathlib.Data.List.ModifyLast
import DriverClasses.Text.Pieces

/-!
# Pieces of texts that are put together

What is cut at a separator is put together again by `join`, and the other way about as long as no
piece holds the separator (`pieces_join`).  A text behind another one with no separator in it
belongs to the last piece (`pieces_append_of_not_mem`), and it does not matter whether a separator
is replaced before the cut (`pieces_replaceChar`).  What holds no separator and stands in a text
stands in one of its pieces (`infix_append_cons`).  `cut` cuts at the first separator
(`cut_eq_some_iff`).
-/

namespace DriverClasses.Text

section Pieces

variable {α : Type} [DecidableEq α] {sep : α}

theorem pieces_append_cons (s t : List α) :
    pieces sep (s ++ sep :: t) = pieces sep s ++ pieces sep t := by
  induction s with
  | nil => simp [pieces]
  | cons c r ih =>
    rw [List.cons_append, pieces, pieces, ih]
    split
    · rfl
    · cases h : pieces sep r with
      | nil => exact absurd h (pieces_ne_nil sep r)
      | cons p ps => rfl

theorem pieces_join {ps : List (List α)} (hne : ps ≠ []) (hsep : ∀ p ∈ ps, sep ∉ p) :
    pieces sep (join sep ps) = ps := by
  induction ps with
  | nil => exact absurd rfl hne
  | cons p ps ih =>
    have hp := hsep p List.mem_cons_self
    by_cases hps : ps = []
    · subst hps
      exact pieces_eq_singleton hp
    · rw [join_cons sep p hps, pieces_append hp,
        ih hps fun q hq => hsep q (List.mem_cons_of_mem _ hq)]

omit [DecidableEq α] in
theorem eq_or_mem_of_mem_join {c : α} :
    ∀ ps : List (List α), c ∈ join sep ps → c = sep ∨ ∃ p ∈ ps, c ∈ p
  | [], h => by simp [join] at h
  | [p], h => .inr ⟨p, List.mem_cons_self, h⟩
  | p :: q :: ps, h => by
    rw [join, List.mem_append, List.mem_cons] at h
    rcases h with h | h | h
    · exact .inr ⟨p, List.mem_cons_self, h⟩
    · exact .inl h
    · refine (eq_or_mem_of_mem_join (q :: ps) h).imp_right ?_
      rintro ⟨r, hr, hc⟩
      exact ⟨r, List.mem_cons_of_mem p hr, hc⟩

omit [DecidableEq α] in
theorem modifyLast_cons (f : α → α) (a : α) {l : List α} (h : l ≠ []) :
    (a :: l).modifyLast f = a :: l.modifyLast f :=
  List.modifyLast_append_of_right_ne_nil f [a] l h

omit [DecidableEq α] in
theorem modifyLast_singleton (f : α → α) (a : α) : [a].modifyLast f = [f a] :=
  List.modifyLast_concat f a []

omit [DecidableEq α] in
theorem mem_or_of_mem_modifyLast {f : α → α} {l : List α} {x : α} (h : x ∈ l.modifyLast f) :
    x ∈ l ∨ ∃ y ∈ l, x = f y := by
  rcases l.eq_nil_or_concat with rfl | ⟨front, last, rfl⟩
  · exact .inl h
  · rw [List.concat_eq_append] at h ⊢
    rw [List.modifyLast_concat, List.mem_append, List.mem_singleton] at h
    rcases h with h | rfl
    · exact .inl (List.mem_append_left _ h)
    · exact .inr ⟨last, by simp, rfl⟩

omit [DecidableEq α] in
theorem modifyLast_ne_nil {f : α → α} {l : List α} (h : l ≠ []) : l.modifyLast f ≠ [] := by
  rcases l.eq_nil_or_concat with rfl | ⟨front, last, rfl⟩
  · exact absurd rfl h
  · rw [List.concat_eq_append, List.modifyLast_concat]
    simp

theorem pieces_append_of_not_mem (s : List α) {t : List α} (ht : sep ∉ t) :
    pieces sep (s ++ t) = (pieces sep s).modifyLast (· ++ t) := by
  induction s with
  | nil => rw [List.nil_append, pieces_eq_singleton ht, pieces, modifyLast_singleton]; rfl
  | cons c r ih =>
    rw [List.cons_append, pieces, pieces, ih]
    split
    · rw [modifyLast_cons _ _ (pieces_ne_nil sep r)]
    · cases h : pieces sep r with
      | nil => exact absurd h (pieces_ne_nil sep r)
      | cons p ps =>
        by_cases hps : ps = []
        · subst hps
          simp only [modifyLast_singleton, List.cons_append]
        · simp only [modifyLast_cons _ _ hps]

omit [DecidableEq α] in
theorem join_eq_intercalate (sep : α) : ∀ ps : List (List α), join sep ps = [sep].intercalate ps
  | [] => rfl
  | [p] => List.intercalate_singleton.symm
  | p :: q :: ps => by
    rw [join, join_eq_intercalate sep (q :: ps), List.intercalate_cons_cons, List.append_assoc,
      List.singleton_append]

omit [DecidableEq α] in
theorem prefix_join_cons (sep : α) (p : List α) (ps : List (List α)) :
    p <+: join sep (p :: ps) := by
  cases ps with
  | nil => exact List.prefix_rfl
  | cons q ps => exact List.prefix_append _ _

omit [DecidableEq α] in
theorem infix_join_of_mem (sep : α) {p : List α} {ps : List (List α)} (h : p ∈ ps) :
    p <:+: join sep ps := by
  obtain ⟨before, after, rfl⟩ := List.append_of_mem h
  clear h
  induction before with
  | nil => exact (prefix_join_cons sep p after).isInfix
  | cons q before ih =>
    rw [List.cons_append, join_cons sep q (by simp)]
    exact ih.trans ((List.suffix_cons sep _).trans (List.suffix_append q _)).isInfix

theorem infix_of_mem_pieces {p s : List α} (h : p ∈ pieces sep s) : p <:+: s := by
  have hinside := infix_join_of_mem sep h
  rwa [join_pieces] at hinside

omit [DecidableEq α] in
theorem prefix_of_prefix_append_cons {x a b : List α} (hsep : sep ∉ x)
    (h : x <+: a ++ sep :: b) : x <+: a := by
  have hfront : a ++ [sep] <+: a ++ sep :: b := ⟨b, by simp⟩
  rcases List.prefix_or_prefix_of_prefix h hfront with hx | hx
  · rcases List.prefix_concat_iff.mp hx with rfl | hx
    · exact absurd (List.mem_append_right a List.mem_cons_self) hsep
    · exact hx
  · exact absurd (hx.subset (List.mem_append_right a List.mem_cons_self)) hsep

omit [DecidableEq α] in
/-- What does not hold the separator and stands in a text stands on one side of it. -/
theorem infix_append_cons {x b : List α} (hsep : sep ∉ x) :
    ∀ a : List α, x <:+: a ++ sep :: b → x <:+: a ∨ x <:+: b
  | [], h => by
    rcases List.infix_cons_iff.mp h with h | h
    · exact .inl (prefix_of_prefix_append_cons (a := []) hsep h).isInfix
    · exact .inr h
  | c :: a, h => by
    rcases List.infix_cons_iff.mp h with h | h
    · exact .inl (prefix_of_prefix_append_cons (a := c :: a) hsep h).isInfix
    · rcases infix_append_cons hsep a h with h | h
      · exact .inl (h.trans (List.suffix_cons c a).isInfix)
      · exact .inr h

theorem cut_eq_none_iff {s : List α} : cut sep s = none ↔ sep ∉ s := by
  induction s with
  | nil => simp [cut]
  | cons c r ih =>
    rw [cut, List.mem_cons, not_or]
    by_cases hc : c = sep
    · simp [hc]
    · rw [if_neg hc, Option.map_eq_none_iff, ih]
      simp [Ne.symm hc]

theorem cut_eq_some_iff {s a b : List α} :
    cut sep s = some (a, b) ↔ s = a ++ sep :: b ∧ sep ∉ a := by
  induction s generalizing a with
  | nil => simp [cut]
  | cons c r ih =>
    rw [cut]
    by_cases hc : c = sep
    · cases a with
      | nil => simp [hc, eq_comm]
      | cons d a =>
        simp only [if_pos hc, List.cons_append, List.cons.injEq, List.mem_cons, not_or]
        refine iff_of_false (by simp) ?_
        rintro ⟨⟨hd, -⟩, hne, -⟩
        exact hne (hc ▸ hd)
    · cases a with
      | nil => simp [hc]
      | cons d a =>
        simp only [if_neg hc, Option.map_eq_some_iff, Prod.exists, Prod.mk.injEq, List.cons.injEq,
          List.cons_append, List.mem_cons, not_or]
        constructor
        · rintro ⟨a, b, hcut, ⟨rfl, rfl⟩, rfl⟩
          obtain ⟨hr, ha⟩ := ih.mp hcut
          exact ⟨⟨rfl, hr⟩, fun he => hc he.symm, ha⟩
        · rintro ⟨⟨rfl, hr⟩, -, ha⟩
          exact ⟨a, b, ih.mpr ⟨hr, ha⟩, ⟨rfl, rfl⟩, rfl⟩

end Pieces

/-- Stripping the front gets no further than what stays. -/
theorem dropWhile_append_cons {α : Type} {p : α → Bool} {c : α} (hc : p c = false) (s t : List α) :
    (s ++ c :: t).dropWhile p = s.dropWhile p ++ c :: t := by
  induction s with
  | nil => simp [hc]
  | cons d s ih => cases hd : p d <;> simp [hd, ih]

/-- What is left when both ends are stripped stands in the text. -/
theorem stripped_isInfix {α : Type} (p : α → Bool) (s : List α) :
    ((s.dropWhile p).reverse.dropWhile p).reverse <:+: s := by
  have h := List.reverse_prefix.mpr (List.dropWhile_suffix (l := (s.dropWhile p).reverse) p)
  rw [List.reverse_reverse] at h
  exact h.isInfix.trans (List.dropWhile_suffix p).isInfix

/-- It does not matter whether a separator is replaced before the cut. -/
theorem pieces_replaceChar {old new : Char} {s : List Char} (h : new ∉ s) :
    pieces new (replaceChar old new s) = pieces old s := by
  induction s with
  | nil => rfl
  | cons c r ih =>
    simp only [List.mem_cons, not_or] at h
    have ih := ih h.2
    unfold replaceChar at ih ⊢
    rw [List.map_cons, pieces, pieces, ih]
    by_cases hc : c = old
    · rw [if_pos hc, if_pos rfl, if_pos hc]
    · rw [if_neg hc, if_neg (fun he => h.1 he.symm), if_neg hc]

end DriverClasses.Text
