import DriverClasses.Proofs.Location.Drives
import DriverClasses.Proofs.Text.Blank
import DriverClasses.Text.Digit

/-!
# Entries of a segment

An entry of a segment is a stretch of it without padding, and it has one of three forms: the whole
segment in the form of a URL, a path without a colon, or a path on a drive
(`entryForm_of_mem_segmentEntries`).  Of itself it is the only entry
(`segmentEntries_of_entryForm`).  A piece of the segment that is not blank stands in one of the
entries (`exists_entry_of_mem_pieces`).
-/

namespace DriverClasses.Location

open DriverClasses.Text

variable {segment e : List Char}

/-! ### Schemes and drives -/

theorem scheme?_of_notMem {s : List Char} (h : ':' ∉ s) : scheme? s = none := by
  unfold scheme?
  rw [cut_eq_none_iff.mpr h]

theorem scheme?_letter (c : Char) (r : List Char) : scheme? (c :: ':' :: r) = none := by
  unfold scheme?
  by_cases hc : c = ':'
  · have hcut : cut ':' (c :: ':' :: r) = some ([], ':' :: r) := by simp [cut, hc]
    rw [hcut]
    rfl
  · have hcut : cut ':' (c :: ':' :: r) = some ([c], r) := by simp [cut, hc]
    rw [hcut]
    rfl

theorem isUrlForm_of_scheme?_none {s : List Char} (h : scheme? s = none) : isUrlForm s = false := by
  unfold isUrlForm
  rw [h]

theorem toNat_of_isAlpha {c : Char} (h : c.isAlpha = true) : 65 ≤ c.toNat ∧ c.toNat ≤ 122 := by
  have hcases : ('A' ≤ c ∧ c ≤ 'Z') ∨ ('a' ≤ c ∧ c ≤ 'z') := by
    have h : (decide ('A' ≤ c ∧ c ≤ 'Z') || (decide ('a' ≤ c) && decide (c ≤ 'z'))) = true := h
    simpa using h
  rcases hcases with ⟨hlow, hhigh⟩ | ⟨hlow, hhigh⟩
  · exact ⟨toNat_le_of_le hlow, Nat.le_trans (toNat_le_of_le hhigh) (by decide)⟩
  · exact ⟨Nat.le_trans (by decide) (toNat_le_of_le hlow), toNat_le_of_le hhigh⟩

theorem isBlank_of_isAlpha {c : Char} (h : c.isAlpha = true) : isBlank c = false := by
  have hrange := toNat_of_isAlpha h
  unfold isBlank
  simp only [Bool.or_eq_false_iff, Bool.and_eq_false_iff, decide_eq_false_iff_not,
    beq_eq_false_iff_ne]
  omega

theorem trimChars_letter {c : Char} (hc : c.isAlpha = true) : trimChars [c] = [c] := by
  simp [trimChars, trimStart, trimEnd, isBlank_of_isAlpha hc]

theorem trimChars_drive {c : Char} (h : c.isAlpha = true) (r : List Char) :
    trimChars (c :: ':' :: r) = c :: ':' :: trimEnd r := by
  have hblank := isBlank_of_isAlpha h
  have hstart : trimStart (c :: ':' :: r) = c :: ':' :: r := by simp [trimStart, hblank]
  unfold trimChars
  rw [hstart, trimEnd_cons _ hblank, trimEnd_cons _ (by decide)]

/-! ### The forms of an entry -/

/-- A letter, a colon, a backslash, and no colon behind that. -/
def IsDrivePath (s : List Char) : Prop :=
  ∃ c path, s = c :: ':' :: '\\' :: path ∧ c.isAlpha = true ∧ ':' ∉ path

theorem IsDrivePath.scheme?_eq {s : List Char} (h : IsDrivePath s) : scheme? s = none := by
  obtain ⟨c, path, rfl, -, -⟩ := h
  exact scheme?_letter c _

theorem IsDrivePath.trimChars {s : List Char} (h : IsDrivePath s) :
    IsDrivePath (trimChars s) := by
  obtain ⟨c, path, rfl, hc, hpath⟩ := h
  refine ⟨c, trimEnd path, ?_, hc, fun hmem => hpath ?_⟩
  · rw [trimChars_drive hc, trimEnd_cons _ (by decide)]
  · have hreversed := (List.dropWhile_suffix (l := path.reverse) isBlank).subset
      (List.mem_reverse.mp hmem)
    exact List.mem_reverse.mp hreversed

/-- The forms that an entry of a segment has. -/
inductive EntryForm (segment : List Char) : List Char → Prop
  | url : isUrlForm (trimChars segment) = true → EntryForm segment (trimChars segment)
  | path {e : List Char} : ':' ∉ e → EntryForm segment e
  | drive {e : List Char} : IsDrivePath e → EntryForm segment e

theorem segmentEntries_of_url (h : isUrlForm (trimChars segment) = true) :
    segmentEntries segment = [trimChars segment] := by
  simp only [segmentEntries, if_pos h]

theorem segmentEntries_of_plain (h : isUrlForm (trimChars segment) = false) :
    segmentEntries segment
      = (joinDrives (pieces ':' (trimChars segment))).map Text.trimChars := by
  simp only [segmentEntries, h, Bool.false_eq_true, if_false]

theorem trimChars_of_mem_segmentEntries (h : e ∈ segmentEntries segment) : trimChars e = e := by
  simp only [segmentEntries] at h
  split at h
  · rw [List.mem_singleton.mp h, trimChars_trimChars]
  · obtain ⟨q, -, rfl⟩ := List.mem_map.mp h
    exact trimChars_trimChars q

/-- What comes out of the pieces of a text has no colon, unless it is a path on a drive. -/
theorem notMem_or_isDrivePath {s q : List Char} (h : q ∈ joinDrives (pieces ':' s)) :
    ':' ∉ q ∨ IsDrivePath q := by
  obtain ⟨before, hout⟩ := mem_joinDrives_iff.mp h
  cases hout with
  | drive hsplit hdrive =>
    obtain ⟨c, path, rfl, hc, rfl⟩ := isDrive_iff.mp hdrive
    have hmem : '\\' :: path ∈ pieces ':' s := by simp [hsplit]
    exact .inr ⟨c, path, rfl, hc, fun hcolon =>
      not_mem_of_mem_pieces hmem (List.mem_cons_of_mem _ hcolon)⟩
  | piece hsplit _ _ =>
    have hmem : q ∈ pieces ':' s := by simp [hsplit]
    exact .inl (not_mem_of_mem_pieces hmem)

theorem entryForm_of_mem_segmentEntries (h : e ∈ segmentEntries segment) :
    EntryForm segment e := by
  cases hurl : isUrlForm (trimChars segment) with
  | true =>
    rw [segmentEntries_of_url hurl, List.mem_singleton] at h
    rw [h]
    exact .url hurl
  | false =>
    rw [segmentEntries_of_plain hurl] at h
    obtain ⟨q, hq, rfl⟩ := List.mem_map.mp h
    rcases notMem_or_isDrivePath hq with hcolon | hdrive
    · exact .path fun hmem => hcolon ((trimChars_isInfix q).subset hmem)
    · exact .drive hdrive.trimChars

theorem pieces_drivePath {c : Char} {path : List Char} (hc : c.isAlpha = true)
    (hpath : ':' ∉ path) : pieces ':' (c :: ':' :: '\\' :: path) = [[c], '\\' :: path] := by
  have hcolon : ':' ∉ [c] := by
    rw [List.mem_singleton]
    rintro rfl
    exact absurd hc (by decide)
  have hrest : ':' ∉ '\\' :: path := by simp [hpath]
  exact (pieces_append hcolon _).trans (congrArg _ (pieces_eq_singleton hrest))

/-- An entry is recognized for what it is when it stands alone. -/
theorem segmentEntries_of_entryForm (h : EntryForm segment e) (htrim : trimChars e = e) :
    segmentEntries e = [e] := by
  cases h with
  | url hurl =>
    rw [segmentEntries_of_url (by rwa [trimChars_trimChars]), trimChars_trimChars]
  | path hcolon =>
    have hplain := isUrlForm_of_scheme?_none (scheme?_of_notMem hcolon)
    rw [segmentEntries_of_plain (by rwa [htrim]), htrim, pieces_eq_singleton hcolon]
    exact congrArg ([·]) htrim
  | drive hdrive =>
    have hplain := isUrlForm_of_scheme?_none hdrive.scheme?_eq
    rw [segmentEntries_of_plain (by rwa [htrim]), htrim]
    obtain ⟨c, path, rfl, hc, hpath⟩ := hdrive
    rw [pieces_drivePath hc hpath]
    simpa [joinDrives, isDriveLetter, startsBackslash, hc] using htrim

/-! ### Stretches -/

theorem infix_of_mem_segmentEntries (h : e ∈ segmentEntries segment) : e <:+: segment := by
  cases hurl : isUrlForm (trimChars segment) with
  | true =>
    rw [segmentEntries_of_url hurl, List.mem_singleton] at h
    rw [h]
    exact trimChars_isInfix segment
  | false =>
    rw [segmentEntries_of_plain hurl] at h
    obtain ⟨q, hq, rfl⟩ := List.mem_map.mp h
    exact ((trimChars_isInfix q).trans (infix_of_mem_joinDrives hq)).trans
      (trimChars_isInfix segment)

theorem exists_entry_of_mem_pieces {p : List Char} (hp : p ∈ pieces ':' segment)
    (hne : trimChars p ≠ []) : ∃ e ∈ segmentEntries segment, trimChars p <:+: e := by
  have htrim := trimChars_trimChars p
  have hcolon : ':' ∉ trimChars p := fun hmem =>
    not_mem_of_mem_pieces hp ((trimChars_isInfix p).subset hmem)
  have hinside : trimChars p <:+: trimChars segment :=
    infix_trimChars htrim hne ((trimChars_isInfix p).trans (infix_of_mem_pieces hp))
  cases hurl : isUrlForm (trimChars segment) with
  | true =>
    rw [segmentEntries_of_url hurl]
    exact ⟨_, List.mem_singleton_self _, hinside⟩
  | false =>
    rw [segmentEntries_of_plain hurl]
    -- Trimming the segment may have shortened the piece, but what is left stands in a piece still.
    rw [← join_pieces ':' (trimChars segment)] at hinside
    obtain ⟨r, hr, hpr⟩ := exists_infix_of_infix_join hcolon (pieces_ne_nil ':' _) hinside
    obtain ⟨q, hq, hrq⟩ := exists_infix_of_mem hr
    exact ⟨_, List.mem_map_of_mem hq, infix_trimChars htrim hne (hpr.trans hrq)⟩

/-! ### First occurrences -/

section Firsts

variable {α : Type} [DecidableEq α]

theorem firsts_of_nodup {xs : List α} (h : xs.Nodup) : firsts xs = xs := by
  induction xs with
  | nil => rfl
  | cons x xs ih =>
    obtain ⟨hx, hxs⟩ := List.nodup_cons.mp h
    rw [firsts, ih hxs, List.filter_eq_self.mpr]
    intro y hy
    simpa using fun heq : y = x => hx (heq ▸ hy)

/-- Where the later one of two elements is, the earlier one was before. -/
theorem pairwise_firsts (xs : List α) :
    (firsts xs).Pairwise fun x y => ∀ before after, xs = before ++ y :: after → x ∈ before := by
  induction xs with
  | nil => exact .nil
  | cons x xs ih =>
    rw [firsts]
    refine .cons (fun y hy before after hsplit => ?_) ?_
    · have hne : y ≠ x := by simpa using (List.mem_filter.mp hy).2
      cases before with
      | nil => exact absurd (List.cons.inj hsplit).1.symm hne
      | cons a before => exact (List.cons.inj hsplit).1 ▸ List.mem_cons_self
    · refine (ih.sublist List.filter_sublist).imp_of_mem fun {a b} ha hb hab => ?_
      intro before after hsplit
      have hne : b ≠ x := by simpa using (List.mem_filter.mp hb).2
      cases before with
      | nil => exact absurd (List.cons.inj hsplit).1.symm hne
      | cons c before =>
        exact List.mem_cons_of_mem c (hab before after (List.cons.inj hsplit).2)

end Firsts

/-! ### Entries of a path list -/

section PathList

variable {raw : List Char}

theorem mem_entries_iff :
    e ∈ entries raw ↔ e ≠ [] ∧ ∃ segment ∈ pieces ';' raw, e ∈ segmentEntries segment := by
  unfold entries
  rw [mem_firsts, List.mem_filter, List.mem_flatMap, decide_eq_true_iff, and_comm]

theorem trimChars_of_mem_entries (h : e ∈ entries raw) : trimChars e = e := by
  obtain ⟨-, segment, -, hmem⟩ := mem_entries_iff.mp h
  exact trimChars_of_mem_segmentEntries hmem

theorem notMem_of_mem_entries (h : e ∈ entries raw) : ';' ∉ e := by
  obtain ⟨-, segment, hsegment, hmem⟩ := mem_entries_iff.mp h
  exact fun hsemicolon =>
    not_mem_of_mem_pieces hsegment ((infix_of_mem_segmentEntries hmem).subset hsemicolon)

/-- The entries with semicolons between them are a path list with these entries. -/
theorem entries_join (raw : List Char) : entries (join ';' (entries raw)) = entries raw := by
  by_cases hnil : entries raw = []
  · rw [hnil]
    decide
  · have halone : ∀ e ∈ entries raw, segmentEntries e = [e] := fun e he => by
      obtain ⟨-, segment, -, hmem⟩ := mem_entries_iff.mp he
      exact segmentEntries_of_entryForm (entryForm_of_mem_segmentEntries hmem)
        (trimChars_of_mem_entries he)
    have hfull : ∀ e ∈ entries raw, decide (e ≠ []) = true := fun e he =>
      decide_eq_true (mem_entries_iff.mp he).1
    calc entries (join ';' (entries raw))
        = firsts (((entries raw).flatMap segmentEntries).filter (· ≠ [])) := by
          rw [entries, pieces_join hnil fun _ he => notMem_of_mem_entries he]
      _ = firsts (entries raw) := by
          rw [List.flatMap_congr halone, List.flatMap_singleton', List.filter_eq_self.mpr hfull]
      _ = entries raw := firsts_of_nodup (nodup_firsts _)

/-- It needs no trimming either. -/
theorem trimChars_join_entries (raw : List Char) :
    trimChars (join ';' (entries raw)) = join ';' (entries raw) :=
  trimChars_join fun _ he => ⟨trimChars_of_mem_entries he, (mem_entries_iff.mp he).1⟩

end PathList

end DriverClasses.Location
