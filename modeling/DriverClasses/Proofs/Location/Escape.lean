import Mathlib.Data.List.Infix
import DriverClasses.Proofs.Location.Form
import DriverClasses.Proofs.Location.Written
import DriverClasses.Proofs.Text.Utf8

/-!
# The byte 0 in the path of a location

No location that is accepted holds the character U+0000, and so no plain path holds the byte 0.  In
a URL the byte may be written `%00`, and reading the URL lets that through: the path of a location
holds the byte 0 just in case it comes from a URL with `%00` in its path, and `%00` then stands in
the text that was given, breaks left out (`nul_mem_path_iff`).  So a text without `%00` in it does
name a path without the byte.
-/

namespace DriverClasses.Location

open DriverClasses.Text

/-- How a URL writes the byte 0. -/
def escapedNul : List Char := ['%', '0', '0']

/-! ### Decoding -/

theorem hexDigit?_eq_zero_iff {c : Char} : hexDigit? c = some 0 ↔ c = '0' := by
  constructor
  · intro h
    unfold hexDigit? at h
    split at h
    · rename_i hc
      have hle := toNat_le_of_le hc.1
      simp only [Option.some.injEq] at h
      exact Char.toNat_inj.mp (by omega)
    · split at h
      · simp at h
      · split at h <;> simp at h
  · rintro rfl
    rfl

theorem escaped?_eq_zero_iff {s : List Char} : escaped? s = some 0 ↔ ['0', '0'] <+: s := by
  constructor
  · intro h
    unfold escaped? at h
    split at h
    · rename_i a b r
      split at h
      · rename_i m n hm hn
        have hbound : m * 16 + n < 256 := by
          have := lt_of_hexDigit? hm
          have := lt_of_hexDigit? hn
          omega
        have hzero : m * 16 + n = 0 := by
          have h := congrArg UInt8.toNat (Option.some.inj h)
          rw [UInt8.toNat_ofNat'] at h
          simp at h
          omega
        obtain ⟨rfl, rfl⟩ : m = 0 ∧ n = 0 := by omega
        rw [hexDigit?_eq_zero_iff.mp hm, hexDigit?_eq_zero_iff.mp hn]
        exact List.prefix_append ['0', '0'] r
      · cases h
    · cases h
  · rintro ⟨r, rfl⟩
    rfl

theorem isHexDigit_of_escaped? {s : List Char} {b : UInt8} (h : escaped? s = some b) :
    ∃ x y r, s = x :: y :: r ∧ isHexDigit x = true ∧ isHexDigit y = true := by
  unfold escaped? at h
  split at h
  · rename_i x y r
    split at h
    · rename_i m n hm hn
      exact ⟨x, y, r, rfl, by simp [isHexDigit, hm], by simp [isHexDigit, hn]⟩
    · cases h
  · cases h

theorem nul_mem_utf8EncodeChar_iff {c : Char} : 0 ∈ String.utf8EncodeChar c ↔ c = '\x00' := by
  constructor
  · intro h
    exact Char.toNat_inj.mp (toNat_of_mem_utf8EncodeChar (by decide) h)
  · rintro rfl
    decide

theorem nul_mem_utf8Chars_iff {s : List Char} : 0 ∈ utf8Chars s ↔ '\x00' ∈ s :=
  asciiByte_mem_utf8Chars (a := '\x00') (by decide)

theorem escape_cons_iff {x : Char} (hx : isHexDigit x = true) (s : List Char) :
    (escapedNul <:+: x :: s ∨ '\x00' ∈ x :: s) ↔ (escapedNul <:+: s ∨ '\x00' ∈ s) := by
  have hpercent : x ≠ '%' := by
    rintro rfl
    exact absurd hx (by decide)
  have hnul : x ≠ '\x00' := by
    rintro rfl
    exact absurd hx (by decide)
  have hstart : ¬escapedNul <+: x :: s := by
    rintro ⟨t, ht⟩
    exact hpercent (List.cons.inj ht).1.symm
  rw [List.infix_cons_iff, List.mem_cons, or_iff_right hstart, or_iff_right hnul.symm]

/-- By the recursion of the decoder; what it skips are the digits of an escape. -/
theorem nul_mem_percentDecodeFrom_iff (skip : Nat) (s : List Char) :
    0 ∈ percentDecodeFrom skip s ↔ escapedNul <:+: s.drop skip ∨ '\x00' ∈ s.drop skip := by
  induction skip, s using percentDecodeFrom.induct with
  | case1 skip => simp [percentDecodeFrom, escapedNul]
  | case2 skip c r ih => rw [percentDecodeFrom, ih, List.drop_succ_cons]
  | case3 c r b hescape ih =>
    replace hescape : c = '%' ∧ escaped? r = some b := by
      split at hescape
      · exact ⟨‹_›, hescape⟩
      · cases hescape
    obtain ⟨rfl, hescape⟩ := hescape
    obtain ⟨x, y, t, rfl, hx, hy⟩ := isHexDigit_of_escaped? hescape
    have hbyte : 0 = b ↔ escapedNul <+: '%' :: x :: y :: t := by
      unfold escapedNul
      rw [List.cons_prefix_cons, ← escaped?_eq_zero_iff, hescape]
      simp [eq_comm]
    have hdecode : percentDecodeFrom 0 ('%' :: x :: y :: t)
        = b :: percentDecodeFrom 2 (x :: y :: t) := by
      rw [percentDecodeFrom.eq_3, if_pos rfl, hescape]
    -- The digits that are skipped neither start an escape nor are U+0000.
    have htail := (escape_cons_iff hx (y :: t)).trans (escape_cons_iff hy t)
    rw [hdecode, List.mem_cons, ih, hbyte, List.drop_succ_cons, List.drop_succ_cons, List.drop_zero,
      List.drop_zero, List.infix_cons_iff, List.mem_cons,
      or_iff_right (show '\x00' ≠ '%' by decide), ← htail, or_assoc]
  | case4 c r hplain ih =>
    have hdecode : percentDecodeFrom 0 (c :: r)
        = String.utf8EncodeChar c ++ percentDecodeFrom 0 r := by
      rw [percentDecodeFrom, hplain]
    have hstart : ¬escapedNul <+: c :: r := by
      intro h
      obtain ⟨rfl, hzeros⟩ := List.cons_prefix_cons.mp h
      rw [if_pos rfl, escaped?_eq_zero_iff.mpr hzeros] at hplain
      cases hplain
    rw [hdecode, List.mem_append, nul_mem_utf8EncodeChar_iff, ih, List.drop_zero, List.drop_zero,
      List.infix_cons_iff, List.mem_cons]
    simp only [hstart, false_or]
    rw [eq_comm, or_left_comm]

theorem nul_mem_closeDrive_iff {path : Bytes} : 0 ∈ FileUrl.closeDrive path ↔ 0 ∈ path := by
  unfold FileUrl.closeDrive
  split
  · dsimp only
    split
    · simp
    · exact Iff.rfl
  · exact Iff.rfl

theorem nul_mem_localPath_iff {url : FileUrl} :
    0 ∈ url.localPath ↔ escapedNul <:+: url.path ∨ '\x00' ∈ url.path :=
  nul_mem_closeDrive_iff.trans (nul_mem_percentDecodeFrom_iff 0 url.path)

/-! ### Reading -/

/-- The URL that a location holds is a stretch of its text. -/
theorem HoldsUrl.exists_read {s : List Char} {url : FileUrl} (h : HoldsUrl s url) :
    ∃ t, t <:+: s ∧ FileUrl.parse t = .ok url := by
  cases h with
  | file _ _ hurl => exact ⟨s, List.infix_rfl, hurl.read⟩
  | @jar scheme inner archive innerScheme rest hscheme _ hcut _ _ hurl =>
    obtain ⟨rfl, -⟩ := scheme?_eq_some_iff.mp hscheme
    obtain ⟨rfl, -⟩ := cutSeparator_eq_some_iff.mp hcut
    exact ⟨archive, ⟨scheme ++ [':'], separator, by simp⟩, hurl.read⟩

/-- A stretch of the path of the URL that a location holds stands in the location. -/
theorem HoldsUrl.infix_of_infix_path {s x : List Char} {url : FileUrl} (h : HoldsUrl s url)
    (hslash : '/' ∉ x) (hcolon : ':' ∉ x) (hx : x <:+: url.path) :
    x <:+: UrlPath.dropBreaks s := by
  obtain ⟨t, ht, hread⟩ := h.exists_read
  exact (FileUrl.infix_of_parse hslash hcolon hread hx).trans (UrlPath.infix_dropBreaks ht)

/-- The byte 0 gets into the path of a location through `%00` in the path of a URL and in no other
way. -/
theorem nul_mem_path_iff {raw : String} {location : Location}
    (h : Location.parse raw = .ok location) :
    ((0 : UInt8) ∈ location.path
        ↔ ∃ url, HoldsUrl location.text.toList url ∧ escapedNul <:+: url.path)
      ∧ ((0 : UInt8) ∈ location.path → escapedNul <:+: UrlPath.dropBreaks raw.toList) := by
  obtain ⟨htext, hpath⟩ := parse_eq_ok_iff.mp h
  obtain ⟨hne, hnul, hform⟩ := pathOf_eq_ok_iff.mp hpath
  rw [htext, String.toList_ofList]
  have hcases : (0 : UInt8) ∈ location.path →
      ∃ url, HoldsUrl (trimChars raw.toList) url ∧ escapedNul <:+: url.path := by
    intro hmem
    rcases hform with ⟨-, hplain⟩ | ⟨url, hurl, hlocal⟩
    · rw [hplain] at hmem
      exact absurd (nul_mem_utf8Chars_iff.mp hmem) hnul
    · rw [hlocal] at hmem
      refine ⟨url, hurl, (nul_mem_localPath_iff.mp hmem).resolve_right fun hraw => hnul ?_⟩
      have hstretch := hurl.infix_of_infix_path (x := ['\x00']) (by decide) (by decide)
        ((List.singleton_infix_iff _ _).mpr hraw)
      exact (List.mem_filter.mp ((List.singleton_infix_iff _ _).mp hstretch)).1
  refine ⟨⟨hcases, ?_⟩, fun hmem => ?_⟩
  · rintro ⟨url, hurl, hescape⟩
    have hlocal : pathOf (trimChars raw.toList) = .ok url.localPath :=
      pathOf_eq_ok_iff.mpr ⟨hne, hnul, .inr ⟨url, hurl, rfl⟩⟩
    rw [hpath] at hlocal
    rw [Except.ok.inj hlocal]
    exact nul_mem_localPath_iff.mpr (.inl hescape)
  · obtain ⟨url, hurl, hescape⟩ := hcases hmem
    exact (hurl.infix_of_infix_path (by decide) (by decide) hescape).trans
      (UrlPath.infix_dropBreaks (stripped_isInfix isBlank raw.toList))

/-- A file name with the byte 0 in it, which no file system has. -/
def nulFile : Location := { text := "file:///a%00b", path := [0x2F, 0x61, 0x00, 0x62] }

theorem nulFile_holds_escape :
    Location.parse "file:///a%00b" = .ok nulFile
      ∧ (∃ url, HoldsUrl nulFile.text.toList url ∧ escapedNul <:+: url.path)
      ∧ escapedNul <:+: UrlPath.dropBreaks "file:///a%00b".toList := by
  have hparse : Location.parse "file:///a%00b" = .ok nulFile := by rfl
  have hnul : (0 : UInt8) ∈ nulFile.path := by decide
  have hboth := nul_mem_path_iff hparse
  exact ⟨hparse, hboth.1.mp hnul, hboth.2 hnul⟩

/-- The byte is not refused when it is written as an escape. -/
theorem not_nul_notMem_path :
    ¬∀ raw location, Location.parse raw = .ok location → (0 : UInt8) ∉ location.path := by
  intro h
  exact h "file:///a%00b" nulFile (by rfl) (by decide)

end DriverClasses.Location
