import Mathlib.Tactic.SplitIfs
import DriverClasses.Proofs.Text.Utf8

/-!
# Reading UTF-8

Bytes are read as a text just in case they are what is written for it (`ofUtf8?_eq_some_iff`).  The
one direction says that nothing that is written gets lost, and the other that there is no second way
to write a text: a leading byte announces which values may follow it, so that every character that
is read has the shortest form there is for it.
-/

namespace DriverClasses.Text

variable {a : UInt8} {r : Bytes} {c : Char} {count low high value used v : Nat}

theorem ofNat_eq_of_toNat_eq {b : UInt8} {n : Nat} (h : n = b.toNat) : UInt8.ofNat n = b := by
  rw [h, UInt8.ofNat_toNat]

theorem toNat_ofNat_of_lt {n : Nat} (h : n < 256) : (UInt8.ofNat n).toNat = n := by
  rw [UInt8.toNat_ofNat']
  omega

theorem toNat_val_ofNat (h : v < 0xD800 ∨ 0xDFFF < v ∧ v < 0x110000) :
    (Char.ofNat v).val.toNat = v := by
  have hvalid : v.isValidChar := h
  rw [Char.ofNat, dif_pos hvalid]
  rfl

/-! ### From the bytes to the character -/

/-- The value that a leading byte carries, and the range of the byte after it, leave only values
that need as many bytes as the leading byte announces. -/
theorem announced_cases (h : announced a = some (count, low, high, value)) :
    count = 0 ∧ a.toNat < 0x80 ∧ value = a.toNat
      ∨ count = 1 ∧ a.toNat = value + 0xC0 ∧ 2 ≤ value ∧ value < 0x20 ∧ 0x80 ≤ low ∧ high ≤ 0xBF
      ∨ count = 2 ∧ a.toNat = value + 0xE0 ∧ value < 0x10 ∧ 0x80 ≤ low ∧ high ≤ 0xBF
        ∧ (value = 0 → 0xA0 ≤ low) ∧ (value = 13 → high ≤ 0x9F)
      ∨ count = 3 ∧ a.toNat = value + 0xF0 ∧ value < 5 ∧ 0x80 ≤ low ∧ high ≤ 0xBF
        ∧ (value = 0 → 0x90 ≤ low) ∧ (value = 4 → high ≤ 0x8F) := by
  unfold announced at h
  dsimp only at h
  split_ifs at h <;> cases h <;> omega

theorem followers_zero (h : followers 0 low high value r = (some v, used)) :
    v = value ∧ used = 0 := by
  simp only [followers, Prod.mk.injEq, Option.some.injEq] at h
  exact ⟨h.1.symm, h.2.symm⟩

theorem followers_succ (h : followers (count + 1) low high value r = (some v, used)) :
    ∃ b rest n, r = b :: rest ∧ low ≤ b.toNat ∧ b.toNat ≤ high ∧ used = n + 1
      ∧ followers count 0x80 0xBF (value * 64 + b.toNat % 64) rest = (some v, n) := by
  cases r with
  | nil => simp [followers] at h
  | cons b rest =>
    unfold followers at h
    split at h
    · rename_i hb
      rw [Bool.and_eq_true, decide_eq_true_iff, decide_eq_true_iff] at hb
      simp only [Prod.mk.injEq] at h
      exact ⟨b, rest, _, rfl, hb.1, hb.2, h.2.symm, Prod.ext h.1 rfl⟩
    · simp at h

/-- The bytes that are read as a character are those that are written for it. -/
theorem utf8EncodeChar_of_firstScalar (h : firstScalar a r = (some c, used)) :
    ∃ tail rest, r = tail ++ rest ∧ used = tail.length
      ∧ String.utf8EncodeChar c = a :: tail := by
  unfold firstScalar at h
  split at h
  · simp at h
  · rename_i count low high value hannounced
    simp only [Prod.mk.injEq, Option.map_eq_some_iff] at h
    obtain ⟨⟨v, hv, rfl⟩, hused⟩ := h
    have hread := Prod.ext (y := (some v, used)) hv hused
    clear hv hused
    unfold String.utf8EncodeChar
    dsimp only
    rcases announced_cases hannounced with ⟨rfl, hone⟩ | ⟨rfl, htwo⟩ | ⟨rfl, hthree⟩ | ⟨rfl, hfour⟩
    · obtain ⟨rfl, rfl⟩ := followers_zero hread
      refine ⟨[], r, rfl, rfl, ?_⟩
      rw [toNat_val_ofNat (by omega), if_pos (by omega), ofNat_eq_of_toNat_eq hone.2]
    · obtain ⟨b, rest, n, rfl, hlow, hhigh, rfl, hread₁⟩ := followers_succ hread
      obtain ⟨rfl, rfl⟩ := followers_zero hread₁
      refine ⟨[b], rest, rfl, rfl, ?_⟩
      rw [toNat_val_ofNat (by omega), if_neg (by omega), if_pos (by omega)]
      rw [ofNat_eq_of_toNat_eq (b := a) (by omega), ofNat_eq_of_toNat_eq (b := b) (by omega)]
    · obtain ⟨b, rest, n, rfl, hlow, hhigh, rfl, hread₁⟩ := followers_succ hread
      obtain ⟨b', rest, n, rfl, hlow', hhigh', rfl, hread₂⟩ := followers_succ hread₁
      obtain ⟨rfl, rfl⟩ := followers_zero hread₂
      refine ⟨[b, b'], rest, rfl, rfl, ?_⟩
      rw [toNat_val_ofNat (by omega), if_neg (by omega), if_neg (by omega), if_pos (by omega)]
      rw [ofNat_eq_of_toNat_eq (b := a) (by omega), ofNat_eq_of_toNat_eq (b := b) (by omega),
        ofNat_eq_of_toNat_eq (b := b') (by omega)]
    · obtain ⟨b, rest, n, rfl, hlow, hhigh, rfl, hread₁⟩ := followers_succ hread
      obtain ⟨b', rest, n, rfl, hlow', hhigh', rfl, hread₂⟩ := followers_succ hread₁
      obtain ⟨b'', rest, n, rfl, hlow'', hhigh'', rfl, hread₃⟩ := followers_succ hread₂
      obtain ⟨rfl, rfl⟩ := followers_zero hread₃
      refine ⟨[b, b', b''], rest, rfl, rfl, ?_⟩
      rw [toNat_val_ofNat (by omega), if_neg (by omega), if_neg (by omega), if_neg (by omega)]
      rw [ofNat_eq_of_toNat_eq (b := a) (by omega), ofNat_eq_of_toNat_eq (b := b) (by omega),
        ofNat_eq_of_toNat_eq (b := b') (by omega), ofNat_eq_of_toNat_eq (b := b'') (by omega)]

/-! ### From the character to the bytes -/

theorem announced_of_lt_80 (ha : a.toNat < 0x80) : announced a = some (0, 0x80, 0xBF, a.toNat) := by
  unfold announced
  exact if_pos ha

theorem announced_two (ha : a.toNat = value + 0xC0) (hlow : 2 ≤ value) (hhigh : value < 0x20) :
    announced a = some (1, 0x80, 0xBF, value) := by
  unfold announced
  dsimp only
  rw [if_neg (by omega), if_neg (by omega), if_pos (by omega), ha, Nat.add_sub_cancel]

theorem announced_three (ha : a.toNat = value + 0xE0) (hvalue : value < 0x10) :
    ∃ low high, announced a = some (2, low, high, value)
      ∧ (low = 0x80 ∨ low = 0xA0 ∧ value = 0) ∧ (high = 0xBF ∨ high = 0x9F ∧ value = 13) := by
  unfold announced
  dsimp only
  rw [if_neg (by omega), if_neg (by omega), if_neg (by omega)]
  by_cases hfirst : value = 0
  · exact ⟨0xA0, 0xBF, by rw [if_pos (by omega), hfirst], by omega, by omega⟩
  · rw [if_neg (by omega)]
    by_cases hsurrogates : value = 13
    · exact ⟨0x80, 0x9F, by rw [if_pos (by omega), hsurrogates], by omega, by omega⟩
    · exact ⟨0x80, 0xBF, by rw [if_neg (by omega), if_pos (by omega), ha, Nat.add_sub_cancel],
        by omega, by omega⟩

theorem announced_four (ha : a.toNat = value + 0xF0) (hvalue : value < 5) :
    ∃ low high, announced a = some (3, low, high, value)
      ∧ (low = 0x80 ∨ low = 0x90 ∧ value = 0) ∧ (high = 0xBF ∨ high = 0x8F ∧ value = 4) := by
  unfold announced
  dsimp only
  rw [if_neg (by omega), if_neg (by omega), if_neg (by omega), if_neg (by omega),
    if_neg (by omega), if_neg (by omega)]
  by_cases hfirst : value = 0
  · exact ⟨0x90, 0xBF, by rw [if_pos (by omega), hfirst], by omega, by omega⟩
  · rw [if_neg (by omega)]
    by_cases hlast : value = 4
    · exact ⟨0x80, 0x8F, by rw [if_neg (by omega), if_pos (by omega), hlast], by omega, by omega⟩
    · exact ⟨0x80, 0xBF, by rw [if_pos (by omega), ha, Nat.add_sub_cancel], by omega, by omega⟩

theorem followers_cons {b : UInt8} (hlow : low ≤ b.toNat) (hhigh : b.toNat ≤ high)
    (h : followers count 0x80 0xBF (value * 64 + b.toNat % 64) r = (some v, used)) :
    followers (count + 1) low high value (b :: r) = (some v, used + 1) := by
  unfold followers
  rw [if_pos (by simp [hlow, hhigh]), h]

theorem firstScalar_of_followers (ha : announced a = some (count, low, high, value))
    (h : followers count low high value r = (some v, used)) :
    firstScalar a r = (some (Char.ofNat v), used) := by
  unfold firstScalar
  rw [ha]
  dsimp only
  rw [h]
  rfl

/-- What is written for a character is read as that character, whatever comes after it. -/
theorem firstScalar_utf8EncodeChar (c : Char) (r : Bytes) :
    ∃ a tail, String.utf8EncodeChar c = a :: tail
      ∧ firstScalar a (tail ++ r) = (some c, tail.length) := by
  have hvalid : c.val.toNat < 0xD800 ∨ 0xDFFF < c.val.toNat ∧ c.val.toNat < 0x110000 := c.valid
  obtain ⟨n, hn, hc⟩ : ∃ n, c.val.toNat = n ∧ c = Char.ofNat n :=
    ⟨_, rfl, (Char.ofNat_toNat c).symm⟩
  unfold String.utf8EncodeChar
  dsimp only
  rw [hn] at hvalid ⊢
  clear hn
  subst hc
  -- The value of a byte that is written is known, as long as it is below 256.
  have hbyte : ∀ m, m < 256 → (UInt8.ofNat m).toNat = m := fun m => toNat_ofNat_of_lt
  split_ifs with hone htwo hthree
  · refine ⟨_, [], rfl, firstScalar_of_followers (announced_of_lt_80 ?_) ?_⟩ <;>
      rw [hbyte n (by omega)]
    · omega
    · rfl
  · have ha := announced_two (hbyte (n / 64 % 32 + 0xC0) (by omega)) (by omega) (by omega)
    have hb := hbyte (n % 64 + 0x80) (by omega)
    refine ⟨_, [_], rfl, firstScalar_of_followers ha
      (followers_cons (by omega) (by omega) ?_)⟩
    rw [hb, followers]
    congr
    omega
  · obtain ⟨low, high, ha, hlow, hhigh⟩ :=
      announced_three (hbyte (n / 4096 % 16 + 0xE0) (by omega)) (by omega)
    have hb := hbyte (n / 64 % 64 + 0x80) (by omega)
    have hb' := hbyte (n % 64 + 0x80) (by omega)
    refine ⟨_, [_, _], rfl, firstScalar_of_followers ha (followers_cons (by omega) (by omega)
      (followers_cons (by omega) (by omega) ?_))⟩
    rw [hb, hb', followers]
    congr
    omega
  · obtain ⟨low, high, ha, hlow, hhigh⟩ :=
      announced_four (hbyte (n / 262144 % 8 + 0xF0) (by omega)) (by omega)
    have hb := hbyte (n / 4096 % 64 + 0x80) (by omega)
    have hb' := hbyte (n / 64 % 64 + 0x80) (by omega)
    have hb'' := hbyte (n % 64 + 0x80) (by omega)
    refine ⟨_, [_, _, _], rfl, firstScalar_of_followers ha (followers_cons (by omega) (by omega)
      (followers_cons (by omega) (by omega) (followers_cons (by omega) (by omega) ?_)))⟩
    rw [hb, hb', hb'', followers]
    congr
    omega

/-! ### Texts -/

theorem scanFrom_append (skipped r : Bytes) :
    scanFrom skipped.length (skipped ++ r) = scan r := by
  induction skipped with
  | nil => rfl
  | cons b skipped ih => exact ih

theorem scan_utf8Chars (s : List Char) : scan (utf8Chars s) = s.map some := by
  induction s with
  | nil => rfl
  | cons c s ih =>
    obtain ⟨a, tail, hencode, hfirst⟩ := firstScalar_utf8EncodeChar c (utf8Chars s)
    have hcons : utf8Chars (c :: s) = a :: (tail ++ utf8Chars s) := by
      simp [utf8Chars, hencode]
    rw [hcons, scan, scanFrom, hfirst]
    dsimp only
    rw [scanFrom_append, List.map_cons, ih]

/-- Where no stretch is ill-formed, the bytes are those that are written for what is read. -/
theorem utf8Chars_of_scan {bytes : Bytes} {s : List Char} (h : scan bytes = s.map some) :
    bytes = utf8Chars s := by
  induction s generalizing bytes with
  | nil =>
    cases bytes with
    | nil => rfl
    | cons a r => simp [scan, scanFrom] at h
  | cons c s ih =>
    cases bytes with
    | nil => simp [scan, scanFrom] at h
    | cons a r =>
      rw [scan, scanFrom, List.map_cons, List.cons.injEq] at h
      obtain ⟨hfirst, hrest⟩ := h
      obtain ⟨tail, rest, rfl, hused, hencode⟩ :=
        utf8EncodeChar_of_firstScalar (Prod.ext (y := (some c, (firstScalar a r).2)) hfirst rfl)
      have hscan : scan rest = s.map some := by
        rw [← scanFrom_append tail rest, ← hused]
        exact hrest
      rw [ih hscan]
      simp [utf8Chars, hencode]

theorem mapM_id_eq_some_iff {α : Type} {xs : List (Option α)} {ys : List α} :
    xs.mapM id = some ys ↔ xs = ys.map some := by
  induction xs generalizing ys with
  | nil => cases ys <;> simp
  | cons x xs ih =>
    cases x with
    | none => cases ys <;> simp
    | some y =>
      cases ys with
      | nil => simp [Option.bind_eq_some_iff]
      | cons z zs => simpa [Option.bind_eq_some_iff, ih] using and_comm

/-- Bytes are a text in UTF-8 just in case they are what is written for it. -/
theorem ofUtf8?_eq_some_iff {bytes : Bytes} {s : String} :
    ofUtf8? bytes = some s ↔ bytes = utf8 s := by
  unfold ofUtf8? utf8
  rw [Option.map_eq_some_iff]
  constructor
  · rintro ⟨chars, hchars, rfl⟩
    rw [String.toList_ofList]
    exact utf8Chars_of_scan (mapM_id_eq_some_iff.mp hchars)
  · rintro rfl
    exact ⟨s.toList, mapM_id_eq_some_iff.mpr (scan_utf8Chars _), String.ofList_toList⟩

theorem ofUtf8?_utf8 (s : String) : ofUtf8? (utf8 s) = some s := ofUtf8?_eq_some_iff.mpr rfl

end DriverClasses.Text
