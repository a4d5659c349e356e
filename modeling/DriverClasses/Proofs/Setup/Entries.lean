import DriverClasses.Proofs.Loading.Shape
import DriverClasses.Proofs.Location.Entries
import DriverClasses.Proofs.Location.Form
import DriverClasses.Proofs.Setup.Paths
import DriverClasses.Proofs.Text.Pieces

/-!
# What a path list names

Path lists and locations are read apart, and each reader judges for itself what a URL is.  They
agree (`splitPathList_agrees`): an entry starts with a scheme only if it is a whole segment in the
form of a URL, so any other entry is a path that stands for itself.  The reason is that any other
entry has no colon, or is a path on a drive, and a single letter in front of a colon is no scheme
(`form_of_mem_splitPathList`).
-/

namespace DriverClasses.Setup

open DriverClasses.ClassFile DriverClasses.Text DriverClasses.Location DriverClasses.Loading

/-- The text starts with a scheme, and the scheme is `file` or `jar`, or two slashes follow it. -/
def HasUrlForm (s : List Char) : Prop :=
  ∃ scheme rest, scheme? s = some (scheme, rest)
    ∧ (isFileScheme scheme = true ∨ isJarScheme scheme = true ∨ ['/', '/'] <+: rest)

/-- The entry is all that stands between two semicolons, without padding, and has the form of a
URL. -/
structure IsUrlSegment (raw entry : String) : Prop where
  form : HasUrlForm entry.toList
  whole : ∃ segment ∈ pieces ';' raw.toList, entry.toList = trimChars segment

theorem isUrlForm_iff {s : List Char} : isUrlForm s = true ↔ HasUrlForm s := by
  unfold isUrlForm HasUrlForm
  cases hscheme : scheme? s with
  | none => simp
  | some cutScheme =>
    obtain ⟨scheme, rest⟩ := cutScheme
    have hslashes : "//".toList.isPrefixOf rest = true ↔ ['/', '/'] <+: rest :=
      List.isPrefixOf_iff_prefix
    simp only [Bool.or_eq_true, hslashes, Option.some.injEq, Prod.mk.injEq, or_assoc]
    constructor
    · intro h
      exact ⟨scheme, rest, ⟨rfl, rfl⟩, h⟩
    · rintro ⟨_, _, ⟨rfl, rfl⟩, h⟩
      exact h

/-! ### Entries -/

theorem segment_of_mem_splitPathList {raw e : String} (h : e ∈ splitPathList raw) :
    e.toList ≠ [] ∧ ∃ segment ∈ pieces ';' raw.toList, e.toList ∈ segmentEntries segment :=
  mem_entries_iff.mp (mem_splitPathList_iff.mp h)

theorem form_of_mem_splitPathList {raw e : String} (h : e ∈ splitPathList raw) :
    IsUrlSegment raw e ∨ ':' ∉ e.toList ∨ IsDrivePath e.toList := by
  obtain ⟨-, segment, hsegment, hmem⟩ := segment_of_mem_splitPathList h
  generalize hchars : e.toList = chars at hmem ⊢
  cases entryForm_of_mem_segmentEntries hmem with
  | url hform => exact .inl ⟨hchars ▸ isUrlForm_iff.mp hform, segment, hsegment, hchars⟩
  | path hcolon => exact .inr (.inl hcolon)
  | drive hdrive => exact .inr (.inr hdrive)

/-- An entry starts with a scheme just in case it is a URL that the list keeps whole. -/
theorem isUrlSegment_iff {raw e : String} (h : e ∈ splitPathList raw) :
    IsUrlSegment raw e ↔ scheme? e.toList ≠ none := by
  constructor
  · rintro ⟨⟨scheme, rest, hscheme, -⟩, -⟩ hnone
    rw [hscheme] at hnone
    cases hnone
  · intro hscheme
    rcases form_of_mem_splitPathList h with hurl | hcolon | hdrive
    · exact hurl
    · exact absurd (scheme?_of_notMem hcolon) hscheme
    · exact absurd hdrive.scheme?_eq hscheme

theorem parse_of_scheme?_none {raw e : String} (h : e ∈ splitPathList raw)
    (hnul : '\x00' ∉ e.toList) (hscheme : scheme? e.toList = none) :
    Location.parse e = .ok { text := e, path := utf8 e } := by
  rw [parse_eq_ok_iff, trimChars_of_mem_splitPathList h]
  exact ⟨(String.ofList_toList).symm, pathOf_eq_ok_iff.mpr
    ⟨(segment_of_mem_splitPathList h).1, hnul, .inl ⟨hscheme, rfl⟩⟩⟩

/-- A scheme other than `file` and `jar` is refused by its name. -/
theorem parse_of_foreign {raw e : String} (h : e ∈ splitPathList raw) (hnul : '\x00' ∉ e.toList)
    {scheme rest : List Char} (hscheme : scheme? e.toList = some (scheme, rest))
    (hfile : isFileScheme scheme = false) (hjar : isJarScheme scheme = false) :
    Location.parse e = .error (.scheme (String.ofList scheme)) := by
  have hne := (segment_of_mem_splitPathList h).1
  unfold Location.parse Location.pathOf
  dsimp only
  rw [trimChars_of_mem_splitPathList h, if_neg hne, if_neg hnul, hscheme]
  simp [hfile, hjar, Except.map]

/-! ### Contexts over a path list -/

/-- Locations that are refused together are refused at the first of them that is. -/
theorem exists_refused_of_mapM {raws : List String} {error : LoadError}
    (h : raws.mapM sourceOf = .error error) :
    ∃ before raw after, raws = before ++ raw :: after
      ∧ (∀ p ∈ before, ∃ source, sourceOf p = .ok source) ∧ sourceOf raw = .error error := by
  induction raws with
  | nil => cases h
  | cons raw raws ih =>
    rw [List.mapM_cons] at h
    cases hsource : sourceOf raw with
    | error other =>
      simp only [hsource, bind, Except.bind, Except.error.injEq] at h
      exact ⟨[], raw, raws, rfl, by simp, h ▸ hsource⟩
    | ok source =>
      cases hrest : raws.mapM sourceOf with
      | ok rest => simp [hsource, hrest, bind, Except.bind, pure, Except.pure] at h
      | error other =>
        simp only [hsource, hrest, bind, Except.bind, Except.error.injEq] at h
        obtain ⟨before, e, after, rfl, hbefore, he⟩ := ih (h ▸ hrest)
        refine ⟨raw :: before, e, after, rfl, fun p hp => ?_, he⟩
        rcases List.mem_cons.mp hp with rfl | hp
        · exact ⟨source, hsource⟩
        · exact hbefore p hp

theorem refusal_of_sourceOf {raw : String} {error : LoadError} (h : sourceOf raw = .error error) :
    ∃ refusal, Location.parse raw = .error refusal ∧ error = .invalidLocation raw refusal := by
  unfold sourceOf at h
  split at h
  · cases h
  · rename_i refusal hparse
    exact ⟨refusal, hparse, (Except.error.inj h).symm⟩

/-- How the readers of path lists and of locations agree on the path list `raw`. -/
structure Agrees (raw : String) : Prop where
  /-- What one reader keeps whole as a URL is what the other one takes for a URL. -/
  urls : ∀ e ∈ splitPathList raw, IsUrlSegment raw e ↔ scheme? e.toList ≠ none
  /-- Any other entry stands for itself. -/
  paths : ∀ e ∈ splitPathList raw, '\x00' ∉ e.toList →
    IsUrlSegment raw e ∨ Location.parse e = .ok { text := e, path := utf8 e }
  /-- A URL of another kind is refused. -/
  foreign : ∀ e ∈ splitPathList raw, '\x00' ∉ e.toList → ∀ scheme rest,
    scheme? e.toList = some (scheme, rest) → isFileScheme scheme = false →
    isJarScheme scheme = false →
    sourceOf e = .error (.invalidLocation e (.scheme (String.ofList scheme)))
  /-- No context is made only where an entry is such a URL, or has U+0000 in it. -/
  refused : ∀ (f : Forest) parent policy error,
    f.create parent policy (splitPathList raw) = .error error →
    ∃ before e after refusal, splitPathList raw = before ++ e :: after
      ∧ (∀ p ∈ before, ∃ source, sourceOf p = .ok source)
      ∧ Location.parse e = .error refusal ∧ error = .invalidLocation e refusal
      ∧ (IsUrlSegment raw e ∨ '\x00' ∈ e.toList)
  /-- A context that is made has the entries for its locations. -/
  made : ∀ (f : Forest) parent policy id f',
    f.create parent policy (splitPathList raw) = .ok (id, f') →
    ∃ c, f'.contexts = f.contexts ++ [c] ∧ c.id = id ∧ c.locations = splitPathList raw
      ∧ (f.WellFormed → f'.context? id = some c)

theorem splitPathList_agrees (raw : String) : Agrees raw where
  urls _ he := isUrlSegment_iff he
  paths e he hnul := by
    by_cases hscheme : scheme? e.toList = none
    · exact .inr (parse_of_scheme?_none he hnul hscheme)
    · exact .inl ((isUrlSegment_iff he).mpr hscheme)
  foreign e he hnul scheme rest hscheme hfile hjar := by
    unfold sourceOf
    rw [parse_of_foreign he hnul hscheme hfile hjar]
  refused f parent policy error h := by
    rw [Forest.create_eq_map] at h
    cases hsources : (splitPathList raw).mapM sourceOf with
    | ok sources =>
      rw [hsources] at h
      cases h
    | error other =>
      rw [hsources] at h
      obtain rfl : other = error := Except.error.inj h
      obtain ⟨before, e, after, hsplit, hbefore, he⟩ := exists_refused_of_mapM hsources
      obtain ⟨refusal, hparse, herror⟩ := refusal_of_sourceOf he
      have hmem : e ∈ splitPathList raw := by
        rw [hsplit]
        exact List.mem_append_right before List.mem_cons_self
      refine ⟨before, e, after, refusal, hsplit, hbefore, hparse, herror, ?_⟩
      by_cases hnul : '\x00' ∈ e.toList
      · exact .inr hnul
      · refine .inl ((isUrlSegment_iff hmem).mpr fun hscheme => ?_)
        rw [parse_of_scheme?_none hmem hnul hscheme] at hparse
        cases hparse
  made f parent policy id f' h := by
    rw [Forest.create_eq_map] at h
    cases hsources : (splitPathList raw).mapM sourceOf with
    | error error =>
      rw [hsources] at h
      cases h
    | ok sources =>
      rw [hsources] at h
      obtain ⟨rfl, rfl⟩ := Prod.mk.inj (Except.ok.inj h)
      refine ⟨_, rfl, rfl, origins_of_splitPathList hsources, fun hf => ?_⟩
      rw [Forest.context?_append, hf.context?_nextId, Option.none_or, if_pos rfl]

example : splitPathList "lib:C:\\d;FILE:/a:b ;s3://c:1;lib"
    = ["lib", "C:\\d", "FILE:/a:b", "s3://c:1"] := by decide +kernel

end DriverClasses.Setup
