import Mathlib.Data.List.TakeWhile
import DriverClasses.Proofs.Text.Placed
import DriverClasses.Text.Blank

/-!
# What trimming leaves in place

Trimming takes nothing from the inside of a text: what stands in it, and neither starts nor ends
with a blank, still stands in it when it is trimmed (`infix_trimChars`).  Nor does it matter how
many blanks there are at the ends (`trimChars_padded`).
-/

namespace DriverClasses.Text

theorem trimChars_isInfix (s : List Char) : trimChars s <:+: s := stripped_isInfix isBlank s

theorem trimChars_prefix_trimStart (s : List Char) : trimChars s <+: trimStart s := by
  have h := List.reverse_prefix.mpr (List.dropWhile_suffix (l := (trimStart s).reverse) isBlank)
  rwa [List.reverse_reverse] at h

/-- How many blanks a text starts with. -/
def blanks (s : List Char) : Nat := (s.takeWhile isBlank).length

/-- The blanks in front are all that trimming the start takes away. -/
theorem drop_blanks (s : List Char) : s.drop (blanks s) = trimStart s := by
  have h : s.takeWhile isBlank ++ trimStart s = s := List.takeWhile_append_dropWhile
  calc s.drop (s.takeWhile isBlank).length
      = (s.takeWhile isBlank ++ trimStart s).drop (s.takeWhile isBlank).length := by rw [h]
    _ = trimStart s := List.drop_left

theorem trimChars_prefix_drop (s : List Char) : trimChars s <+: s.drop (blanks s) := by
  rw [drop_blanks]
  exact trimChars_prefix_trimStart s

theorem blanks_add_length_le (s : List Char) : blanks s + (trimChars s).length ≤ s.length := by
  have h := congrArg List.length (List.takeWhile_append_dropWhile (p := isBlank) (l := s))
  rw [List.length_append] at h
  have hlength := (trimChars_prefix_trimStart s).length_le
  unfold trimStart at hlength
  unfold blanks
  omega

/-! ### Padding -/

theorem trimStart_append_of_blank {a : List Char} (ha : ∀ c ∈ a, isBlank c = true)
    (s : List Char) : trimStart (a ++ s) = trimStart s :=
  List.dropWhile_append_of_pos ha

theorem trimStart_append_cons {c : Char} (hc : isBlank c = false) (s t : List Char) :
    trimStart (s ++ c :: t) = trimStart s ++ c :: t :=
  dropWhile_append_cons hc s t

theorem trimEnd_append_of_blank {a : List Char} (ha : ∀ c ∈ a, isBlank c = true)
    (s : List Char) : trimEnd (s ++ a) = trimEnd s := by
  rw [trimEnd_eq, List.reverse_append,
    trimStart_append_of_blank fun c hc => ha c (List.mem_reverse.mp hc)]
  rfl

theorem exists_blank_append_trimEnd (s : List Char) :
    ∃ a, (∀ c ∈ a, isBlank c = true) ∧ s = trimEnd s ++ a := by
  refine ⟨(s.reverse.takeWhile isBlank).reverse, fun c hc => ?_, ?_⟩
  · exact List.mem_takeWhile_imp (List.mem_reverse.mp hc)
  · have hsplit := congrArg List.reverse
      (List.takeWhile_append_dropWhile (p := isBlank) (l := s.reverse))
    rw [List.reverse_append, List.reverse_reverse] at hsplit
    exact hsplit.symm

theorem trimChars_append_of_blank {a : List Char} (ha : ∀ c ∈ a, isBlank c = true)
    (s : List Char) : trimChars (s ++ a) = trimChars s := by
  induction s with
  | nil =>
    have hnil : trimStart a = [] := List.dropWhile_eq_nil_iff.mpr ha
    rw [List.nil_append, trimChars, hnil]
    rfl
  | cons c s ih =>
    cases hc : isBlank c with
    | false =>
      have hstart : ∀ t, trimStart (c :: t) = c :: t := fun t => by simp [trimStart, hc]
      rw [trimChars, trimChars, List.cons_append, hstart, hstart, ← List.cons_append,
        trimEnd_append_of_blank ha]
    | true =>
      have hstart : ∀ t, trimStart (c :: t) = trimStart t := fun t => by simp [trimStart, hc]
      rw [trimChars, trimChars, List.cons_append, hstart, hstart]
      exact ih

/-- Padding is what trimming takes away. -/
theorem trimChars_padded {a b : List Char} (hb : ∀ c ∈ b, isBlank c = true)
    (ha : ∀ c ∈ a, isBlank c = true) (s : List Char) : trimChars (b ++ (s ++ a)) = trimChars s := by
  have hstart : trimChars (b ++ (s ++ a)) = trimChars (s ++ a) :=
    congrArg trimEnd (trimStart_append_of_blank hb _)
  rw [hstart, trimChars_append_of_blank ha]

/-! ### Trimmed texts -/

/-- A text that trimming leaves alone starts with no blank. -/
theorem isBlank_of_trimmed {c : Char} {r : List Char} (h : trimChars (c :: r) = c :: r) :
    isBlank c = false := by
  rcases Bool.eq_false_or_eq_true (isBlank c) with hc | hc
  · -- Otherwise trimming would take that blank away.
    have hlength := (trimChars_prefix_trimStart (c :: r)).length_le
    have hstart : trimStart (c :: r) = trimStart r := by simp [trimStart, hc]
    have hrest := (List.dropWhile_suffix (l := r) isBlank).length_le
    rw [h, hstart, List.length_cons] at hlength
    unfold trimStart at hlength
    omega
  · exact hc

theorem trimEnd_of_trimmed {x : List Char} (h : trimChars x = x) : trimEnd x = x := by
  conv_lhs => rw [← h]
  unfold trimChars
  rw [trimEnd_trimEnd]
  exact h

/-- Nor does it end with one. -/
theorem isBlank_of_trimEnd {s : List Char} {c : Char} (h : trimEnd (s ++ [c]) = s ++ [c]) :
    isBlank c = false := by
  rw [trimEnd_eq, List.reverse_append, List.reverse_singleton, List.singleton_append,
    List.reverse_eq_iff, List.reverse_append, List.reverse_singleton, List.singleton_append] at h
  exact trimStart_head (s := c :: s.reverse) (by rw [h]; rfl)

/-- What stands between texts that need no trimming is none of its business. -/
theorem trimChars_append {a b : List Char} (ha : trimChars a = a) (hane : a ≠ [])
    (hb : trimChars b = b) (hbne : b ≠ []) (middle : List Char) :
    trimChars (a ++ (middle ++ b)) = a ++ (middle ++ b) := by
  obtain ⟨c, r, rfl⟩ := List.exists_cons_of_ne_nil hane
  obtain ⟨front, d, rfl⟩ := (List.eq_nil_or_concat' b).resolve_left hbne
  have hstart : trimStart (c :: r ++ (middle ++ (front ++ [d])))
      = c :: r ++ (middle ++ (front ++ [d])) := by
    simp [trimStart, isBlank_of_trimmed ha]
  unfold trimChars
  rw [hstart, ← List.append_assoc middle, ← List.append_assoc,
    trimEnd_append_singleton _ (isBlank_of_trimEnd (trimEnd_of_trimmed hb))]

theorem trimChars_join {sep : Char} :
    ∀ {ps : List (List Char)}, (∀ p ∈ ps, trimChars p = p ∧ p ≠ []) →
      trimChars (join sep ps) = join sep ps
  | [], _ => rfl
  | [p], h => (h p List.mem_cons_self).1
  | p :: q :: ps, h => by
    have hrest : ∀ r ∈ q :: ps, trimChars r = r ∧ r ≠ [] := fun r hr =>
      h r (List.mem_cons_of_mem p hr)
    have hne : join sep (q :: ps) ≠ [] := fun hnil =>
      (hrest q List.mem_cons_self).2 (List.prefix_nil.mp (hnil ▸ prefix_join_cons sep q ps))
    obtain ⟨hp, hpne⟩ := h p List.mem_cons_self
    exact trimChars_append hp hpne (trimChars_join hrest) hne [sep]

theorem infix_trimStart {c : Char} {r : List Char} (hc : isBlank c = false) :
    ∀ s : List Char, c :: r <:+: s → c :: r <:+: trimStart s
  | [], h => h
  | d :: s, h => by
    cases hd : isBlank d with
    | false =>
      have hstart : trimStart (d :: s) = d :: s := by simp [trimStart, hd]
      rwa [hstart]
    | true =>
      have hstart : trimStart (d :: s) = trimStart s := by simp [trimStart, hd]
      rw [hstart]
      rcases List.infix_cons_iff.mp h with hfront | hinside
      · have heq := (List.cons_prefix_cons.mp hfront).1
        rw [heq, hd] at hc
        cases hc
      · exact infix_trimStart hc s hinside

theorem infix_trimEnd {x s : List Char} (hx : trimEnd x = x) (hne : x ≠ []) (h : x <:+: s) :
    x <:+: trimEnd s := by
  obtain ⟨front, c, rfl⟩ := (List.eq_nil_or_concat' x).resolve_left hne
  have hreversed : c :: front.reverse <:+: s.reverse := by
    simpa using List.reverse_infix.mpr h
  rw [trimEnd_eq, ← List.reverse_infix, List.reverse_reverse]
  simpa using infix_trimStart (isBlank_of_trimEnd hx) _ hreversed

theorem infix_trimChars {x s : List Char} (hx : trimChars x = x) (hne : x ≠ []) (h : x <:+: s) :
    x <:+: trimChars s := by
  refine infix_trimEnd (trimEnd_of_trimmed hx) hne ?_
  cases x with
  | nil => exact absurd rfl hne
  | cons c r => exact infix_trimStart (isBlank_of_trimmed hx) s h

end DriverClasses.Text
