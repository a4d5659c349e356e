import DriverClasses.Text.Digit
import DriverClasses.Text.Blank

/-!
# Which texts are numbers, and which say anything

A number is read from decimal digits with or without a plus in front, and from nothing else
(`decimal?_eq_some_iff`); leading zeros do not matter.
-/

namespace DriverClasses.Text

/-- The text is a way to write the number. -/
def Writes (s : String) (n : Nat) : Prop :=
  ∃ digits : List Char, digits ≠ [] ∧ (∀ c ∈ digits, c.isDigit = true)
    ∧ (s.toList = digits ∨ s.toList = '+' :: digits) ∧ n = Nat.ofDigitChars 10 digits 0

theorem isDecimalDigit_eq (c : Char) : isDecimalDigit c = c.isDigit := rfl

theorem hexDigit?_of_isDigit {c : Char} (h : c.isDigit = true) :
    hexDigit? c = some (c.toNat - '0'.toNat) := by
  rw [← isDecimalDigit_eq, isDecimalDigit, Bool.and_eq_true, decide_eq_true_iff,
    decide_eq_true_iff] at h
  exact if_pos h

/-- Ten times what comes before, and one digit more. -/
theorem foldl_digits {digits : List Char} (h : ∀ c ∈ digits, c.isDigit = true) (n : Nat) :
    digits.foldl (fun n c => n * 10 + (hexDigit? c).getD 0) n = Nat.ofDigitChars 10 digits n := by
  induction digits generalizing n with
  | nil => rfl
  | cons c digits ih =>
    rw [List.foldl_cons, hexDigit?_of_isDigit (h c List.mem_cons_self), Option.getD_some,
      Nat.mul_comm, ih fun d hd => h d (List.mem_cons_of_mem _ hd)]
    rfl

theorem natOfDigits_eq {digits : List Char} (h : ∀ c ∈ digits, c.isDigit = true) :
    natOfDigits 10 digits = Nat.ofDigitChars 10 digits 0 := foldl_digits h 0

theorem dropPlus_of_digits {digits : List Char} (h : ∀ c ∈ digits, c.isDigit = true) :
    dropPlus digits = digits := by
  unfold dropPlus
  split
  · have hplus := h '+' List.mem_cons_self
    simp [Char.isDigit] at hplus
  · rfl

theorem eq_or_eq_cons_dropPlus (s : List Char) : s = dropPlus s ∨ s = '+' :: dropPlus s := by
  unfold dropPlus
  split
  · exact .inr rfl
  · exact .inl rfl

theorem decimal?_eq_some_iff {s : String} {n : Nat} : decimal? s = some n ↔ Writes s n := by
  unfold decimal?
  dsimp only
  constructor
  · intro h
    split at h
    · rename_i hdigits
      obtain ⟨hne, hall⟩ := hdigits
      rw [List.all_eq_true] at hall
      rw [Option.some.injEq, natOfDigits_eq hall] at h
      exact ⟨dropPlus s.toList, hne, hall, eq_or_eq_cons_dropPlus s.toList, h.symm⟩
    · cases h
  · rintro ⟨digits, hne, hall, hs, rfl⟩
    have hdrop : dropPlus s.toList = digits := by
      rcases hs with hs | hs <;> rw [hs]
      · exact dropPlus_of_digits hall
      · rfl
    rw [hdrop, if_pos ⟨hne, List.all_eq_true.mpr hall⟩, natOfDigits_eq hall]

theorem toList_toString (n : Nat) : (toString n).toList = Nat.toDigits 10 n := by
  rw [Nat.toString_eq_repr, Nat.toList_repr]

theorem isDigit_of_mem_toString {n : Nat} {c : Char} (h : c ∈ (toString n).toList) :
    c.isDigit = true := by
  rw [toList_toString] at h
  exact Nat.isDigit_of_mem_toDigits (by decide) (by decide) h

theorem writes_toString (n : Nat) : Writes (toString n) n :=
  ⟨(toString n).toList, toList_toString n ▸ Nat.toDigits_ne_nil,
    fun _ => isDigit_of_mem_toString, .inl rfl,
    toList_toString n ▸ Nat.ofDigitChars_ten_toDigits.symm⟩

/-! ### Trimming -/

theorem nonBlank?_eq_some_iff {s t : String} : nonBlank? s = some t ↔ t = trim s ∧ t ≠ "" := by
  unfold nonBlank?
  dsimp only
  split
  · rename_i h
    rw [String.isEmpty_iff] at h
    constructor
    · rintro ⟨⟩
    · rintro ⟨rfl, hne⟩
      exact absurd h hne
  · rename_i h
    rw [String.isEmpty_iff] at h
    constructor
    · rintro ⟨⟩
      exact ⟨rfl, h⟩
    · rintro ⟨rfl, -⟩
      rfl

theorem nonBlank?_eq_none {s : String} (h : trim s = "") : nonBlank? s = none := by
  simp [nonBlank?, h]

theorem nonBlank?_of_ne {s : String} (h : trim s ≠ "") : nonBlank? s = some (trim s) :=
  nonBlank?_eq_some_iff.mpr ⟨rfl, h⟩

theorem isSome_nonBlank? (s : String) : (nonBlank? s).isSome = decide (trim s ≠ "") := by
  rw [Bool.eq_iff_iff, Option.isSome_iff_exists, decide_eq_true_iff]
  simp only [nonBlank?_eq_some_iff]
  exact ⟨fun ⟨t, ht, hne⟩ => ht ▸ hne, fun hne => ⟨_, rfl, hne⟩⟩

theorem trimChars_of_clean {s : List Char} (h : ∀ c ∈ s, isBlank c = false) : trimChars s = s := by
  have hkept : ∀ t : List Char, (∀ c ∈ t, isBlank c = false) → t.dropWhile isBlank = t := by
    intro t ht
    cases t with
    | nil => rfl
    | cons c t => exact List.dropWhile_cons_of_neg (by simp [ht c List.mem_cons_self])
  unfold trimChars trimEnd trimStart
  rw [hkept s h, hkept s.reverse fun c hc => h c (List.mem_reverse.mp hc), List.reverse_reverse]

theorem isBlank_of_isDigit {c : Char} (h : c.isDigit = true) : isBlank c = false := by
  rw [Char.isDigit_iff_toNat] at h
  simp only [Char.reduceToNat] at h
  unfold isBlank
  simp
  omega

/-- No digit is blank. -/
theorem trim_toString (n : Nat) : trim (toString n) = toString n := by
  unfold trim
  rw [trimChars_of_clean fun c hc => isBlank_of_isDigit (isDigit_of_mem_toString hc),
    String.ofList_toList]

theorem toString_ne_empty (n : Nat) : toString n ≠ "" := by
  intro h
  have hdigits := toList_toString n
  rw [h] at hdigits
  exact Nat.toDigits_ne_nil hdigits.symm

theorem nonBlank?_toString (n : Nat) : nonBlank? (toString n) = some (toString n) :=
  nonBlank?_eq_some_iff.mpr ⟨(trim_toString n).symm, toString_ne_empty n⟩

end DriverClasses.Text
