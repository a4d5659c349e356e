import Mathlib.Data.Nat.Find
import Mathlib.Order.Bounds.Defs
import DriverClasses.Proofs.Setup.Entries

/-!
# Where the entries of a path list stand

An entry is what trimming leaves of something between separators: of a whole segment that has the
form of a URL, and in any other segment of a drive, or of a piece between colons that belongs to no
drive (`Stands`).  A path list lists what stands in it, each entry once and in the order in which
they come up first, and no piece of it is lost (`splitPathList_lists`).
-/

namespace DriverClasses.Setup

open DriverClasses.Text DriverClasses.Location

variable {raw segment e : List Char} {k place : Nat}

/-- The text stands in a path list as an entry, and starts at this place. -/
inductive Stands (raw : List Char) : (place : Nat) → List Char → Prop
  | url {before after : List (List Char)} {segment : List Char} :
      pieces ';' raw = before ++ segment :: after → HasUrlForm (trimChars segment) →
      Stands raw (widths before + blanks segment) (trimChars segment)
  | path {before after front : List (List Char)} {segment q : List Char} :
      pieces ';' raw = before ++ segment :: after → ¬ HasUrlForm (trimChars segment) →
      PutOut (pieces ':' (trimChars segment)) front q →
      Stands raw (widths before + blanks segment + widths front + blanks q) (trimChars q)

theorem Stands.prefix_drop (h : Stands raw place e) : e <+: raw.drop place := by
  have hsegment : ∀ {before after segment}, pieces ';' raw = before ++ segment :: after →
      trimChars segment <+: raw.drop (widths before + blanks segment) := by
    intro before after segment hsplit
    have hwhole : segment <+: raw.drop (widths before) := by
      rw [← join_pieces ';' raw, hsplit]
      exact prefix_drop_widths before segment after
    rw [← List.drop_drop]
    exact (trimChars_prefix_drop segment).trans (hwhole.drop _)
  cases h with
  | url hsplit _ => exact hsegment hsplit
  | path hsplit _ hout =>
    obtain ⟨prior, rest, hprior, hjoin⟩ := hout.exists_append
    rw [join_pieces] at hjoin
    have hput := (hsegment hsplit).drop prior.length
    rw [hjoin, List.drop_left, hprior, List.drop_drop] at hput
    rw [← List.drop_drop]
    exact (trimChars_prefix_drop _).trans (((List.prefix_append _ rest).trans hput).drop _)

/-! ### Entries with their places -/

/-- The entries of a segment that starts at `k`, with their places. -/
def stretchesOf (k : Nat) (segment : List Char) : List (Nat × List Char) :=
  if isUrlForm (trimChars segment) then [(k + blanks segment, trimChars segment)]
  else
    (placed (k + blanks segment) (joinDrives (pieces ':' (trimChars segment)))).map fun a =>
      (a.1 + blanks a.2, trimChars a.2)

/-- All that stands in a path list as an entry, with its places. -/
def stretches (raw : List Char) : List (Nat × List Char) :=
  (placed 0 (pieces ';' raw)).flatMap fun a => stretchesOf a.1 a.2

theorem map_snd_stretchesOf (k : Nat) (segment : List Char) :
    (stretchesOf k segment).map (·.2) = segmentEntries segment := by
  unfold stretchesOf segmentEntries
  dsimp only
  split
  · rfl
  · conv_rhs => rw [← map_snd_placed (k + blanks segment) (joinDrives _)]
    rw [List.map_map, List.map_map]
    rfl

theorem map_snd_stretches (raw : List Char) :
    (stretches raw).map (·.2) = (pieces ';' raw).flatMap segmentEntries := by
  conv_rhs => rw [← map_snd_placed 0 (pieces ';' raw)]
  unfold stretches
  rw [List.map_flatMap, List.flatMap_map]
  exact List.flatMap_congr fun a _ => map_snd_stretchesOf a.1 a.2

theorem mem_stretches_iff : (place, e) ∈ stretches raw ↔ Stands raw place e := by
  unfold stretches
  rw [List.mem_flatMap]
  constructor
  · rintro ⟨⟨k, segment⟩, hsegment, hmem⟩
    obtain ⟨before, after, hsplit, rfl⟩ := mem_placed_iff.mp hsegment
    rw [Nat.zero_add] at hmem
    unfold stretchesOf at hmem
    split at hmem
    · rename_i hform
      obtain ⟨rfl, rfl⟩ := Prod.mk.inj (List.mem_singleton.mp hmem)
      exact .url hsplit (isUrlForm_iff.mp hform)
    · rename_i hform
      obtain ⟨⟨n, q⟩, hq, heq⟩ := List.mem_map.mp hmem
      obtain ⟨front, hout, rfl⟩ := mem_placed_joinDrives_iff.mp hq
      obtain ⟨rfl, rfl⟩ := Prod.mk.inj heq
      exact .path hsplit (fun h => hform (isUrlForm_iff.mpr h)) hout
  · intro h
    cases h with
    | @url before after segment hsplit hform =>
      refine ⟨(widths before, segment), mem_placed_iff.mpr ⟨before, after, hsplit, by simp⟩, ?_⟩
      simp [stretchesOf, isUrlForm_iff.mpr hform]
    | @path before after front segment q hsplit hform hout =>
      refine ⟨(widths before, segment), mem_placed_iff.mpr ⟨before, after, hsplit, by simp⟩, ?_⟩
      unfold stretchesOf
      rw [if_neg fun h => hform (isUrlForm_iff.mp h)]
      exact List.mem_map.mpr ⟨(_, q), mem_placed_joinDrives_iff.mpr ⟨front, hout, rfl⟩, rfl⟩

theorem mem_stretchesOf_bounds {a : Nat × List Char} (h : a ∈ stretchesOf k segment) :
    k ≤ a.1 ∧ a.1 + a.2.length ≤ k + segment.length := by
  have hsegment := blanks_add_length_le segment
  unfold stretchesOf at h
  split at h
  · rw [List.mem_singleton.mp h]
    dsimp only
    omega
  · obtain ⟨⟨n, q⟩, hq, rfl⟩ := List.mem_map.mp h
    obtain ⟨front, hout, rfl⟩ := mem_placed_joinDrives_iff.mp hq
    obtain ⟨prior, rest, hprior, hjoin⟩ := hout.exists_append
    have hlength := congrArg List.length hjoin
    rw [join_pieces, List.length_append, List.length_append, hprior] at hlength
    have hinside := blanks_add_length_le q
    dsimp only
    omega

theorem pairwise_stretches (raw : List Char) : (stretches raw).Pairwise fun a b => a.1 < b.1 := by
  have hbehind : ∀ {a b : Nat × List Char}, a.1 + a.2.length < b.1 →
      a.1 + blanks a.2 < b.1 + blanks b.2 := by
    intro a b h
    have hblanks := blanks_add_length_le a.2
    omega
  unfold stretches
  rw [List.pairwise_flatMap]
  constructor
  · rintro ⟨k, segment⟩ -
    unfold stretchesOf
    split
    · exact List.pairwise_singleton _ _
    · exact List.pairwise_map.mpr ((pairwise_placed _ _).imp hbehind)
  · refine (pairwise_placed 0 (pieces ';' raw)).imp fun {a b} hab x hx y hy => ?_
    have hx := (mem_stretchesOf_bounds hx).2
    have hy := (mem_stretchesOf_bounds hy).1
    omega

/-! ### Their order -/

theorem mem_entries_iff_stands : e ∈ entries raw ↔ e ≠ [] ∧ ∃ place, Stands raw place e := by
  rw [mem_entries_iff, ← List.mem_flatMap, ← map_snd_stretches]
  simp only [List.mem_map, Prod.exists, exists_eq_right, mem_stretches_iff]

/-- Wherever the later one of two entries stands, the earlier one stands further in front. -/
theorem pairwise_entries (raw : List Char) : (entries raw).Pairwise fun e e' =>
    ∀ place, Stands raw place e' → ∃ k < place, Stands raw k e := by
  unfold entries
  refine (pairwise_firsts _).imp_of_mem fun {e e'} _ he' hfirst place hplace => ?_
  have hne : e' ≠ [] := of_decide_eq_true (List.mem_filter.mp (mem_firsts.mp he')).2
  obtain ⟨before, after, hsplit⟩ := List.append_of_mem (mem_stretches_iff.mpr hplace)
  have hentries : ((pieces ';' raw).flatMap segmentEntries).filter (· ≠ [])
      = (before.map (·.2)).filter (· ≠ []) ++ e' :: (after.map (·.2)).filter (· ≠ []) := by
    rw [← map_snd_stretches, hsplit, List.map_append, List.map_cons, List.filter_append,
      List.filter_cons_of_pos (by simpa using hne)]
  have hmem := (List.mem_filter.mp (hfirst _ _ hentries)).1
  obtain ⟨⟨k, e⟩, hbefore, rfl⟩ := List.mem_map.mp hmem
  refine ⟨k, ?_, mem_stretches_iff.mp ?_⟩
  · have hpairwise := pairwise_stretches raw
    rw [hsplit, List.pairwise_append] at hpairwise
    exact hpairwise.2.2 _ hbefore _ List.mem_cons_self
  · rw [hsplit]
    exact List.mem_append_left _ hbefore

theorem exists_isLeast_of_stands (h : Stands raw place e) :
    ∃ k, IsLeast {place | Stands raw place e} k := by
  classical
  have hex : ∃ place, Stands raw place e := ⟨place, h⟩
  exact ⟨Nat.find hex, Nat.find_spec hex, fun _ hn => Nat.find_min' hex hn⟩

/-! ### The law -/

/-- What the entries of the path list `raw` are, and what they have to do with each other. -/
structure Lists (raw : String) : Prop where
  /-- No entry is empty or padded, and none holds a semicolon. -/
  trimmed : ∀ e ∈ splitPathList raw, e ≠ "" ∧ trim e = e
  undivided : ∀ e ∈ splitPathList raw, ';' ∉ e.toList
  /-- With a colon in it, an entry is a URL that was a whole segment, or a path on a drive. -/
  colons : ∀ e ∈ splitPathList raw, ':' ∈ e.toList → IsUrlSegment raw e ∨ IsDrivePath e.toList
  /-- The entries are what stands in the path list, -/
  stands : ∀ e, e ∈ splitPathList raw ↔ e ≠ "" ∧ ∃ place, Stands raw.toList place e.toList
  /-- which is to say that it reads so from that place on. -/
  written : ∀ place e, Stands raw.toList place e → e <+: raw.toList.drop place
  /-- No entry is there twice, and one comes before another one if it stands first further in
  front. -/
  nodup : (splitPathList raw).Nodup
  ordered : (splitPathList raw).Pairwise fun e e' => ∃ k k',
    IsLeast {place | Stands raw.toList place e.toList} k
      ∧ IsLeast {place | Stands raw.toList place e'.toList} k' ∧ k < k'
  /-- A piece that is not blank is part of an entry. -/
  complete : ∀ segment ∈ pieces ';' raw.toList, ∀ p ∈ pieces ':' segment, trimChars p ≠ [] →
    ∃ e ∈ splitPathList raw, trimChars p <:+: e.toList
  /-- The loop over the pieces of a segment comes to its end. -/
  ends : ∀ segment ∈ pieces ';' raw.toList, ∃ turns ≤ (pieces ':' (trimChars segment)).length,
    turn^[turns] ([], pieces ':' (trimChars segment))
      = (joinDrives (pieces ':' (trimChars segment)), [])

theorem splitPathList_lists (raw : String) : Lists raw where
  trimmed e he := by
    refine ⟨?_, trim_of_mem_splitPathList he⟩
    rintro rfl
    exact (segment_of_mem_splitPathList he).1 rfl
  undivided e he := notMem_of_mem_entries (mem_splitPathList_iff.mp he)
  colons e he hcolon := by
    rcases form_of_mem_splitPathList he with hurl | hnone | hdrive
    · exact .inl hurl
    · exact absurd hcolon hnone
    · exact .inr hdrive
  stands e := by
    rw [mem_splitPathList_iff, mem_entries_iff_stands]
    exact and_congr_left' (not_congr String.toList_eq_nil_iff)
  written _ _ h := h.prefix_drop
  nodup := (nodup_firsts _).map fun _ _ h => String.ofList_injective h
  ordered := by
    refine List.pairwise_map.mpr ((pairwise_entries raw.toList).imp_of_mem ?_)
    intro e e' he he' hfront
    obtain ⟨-, place, hplace⟩ := mem_entries_iff_stands.mp he
    obtain ⟨-, place', hplace'⟩ := mem_entries_iff_stands.mp he'
    obtain ⟨k, hk⟩ := exists_isLeast_of_stands hplace
    obtain ⟨k', hk'⟩ := exists_isLeast_of_stands hplace'
    obtain ⟨n, hn, hstands⟩ := hfront k' hk'.1
    rw [String.toList_ofList, String.toList_ofList]
    exact ⟨k, k', hk, hk', Nat.lt_of_le_of_lt (hk.2 hstands) hn⟩
  complete segment hsegment p hp hne := by
    obtain ⟨e, he, hinside⟩ := exists_entry_of_mem_pieces hp hne
    have hfull : e ≠ [] := by
      rintro rfl
      exact hne (List.infix_nil.mp hinside)
    refine ⟨String.ofList e, mem_splitPathList_iff.mpr ?_, ?_⟩ <;> rw [String.toList_ofList]
    · exact mem_entries_iff.mpr ⟨hfull, segment, hsegment, he⟩
    · exact hinside
  ends segment _ := exists_iterate_turn [] _

example : splitPathList "b:C: ;C;/x::b:D:\\e" = ["b", "C", "/x", "D:\\e"] := by decide +kernel

end DriverClasses.Setup
