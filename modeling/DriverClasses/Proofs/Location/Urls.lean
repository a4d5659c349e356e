import Mathlib.Data.List.Nodup
import DriverClasses.Proofs.Location.Entries

/-!
# URLs in path lists

A URL of files is kept whole where it is a segment by itself.  Behind a colon it is not looked for:
there the segment starts with a path, so it is a list of paths, and the URL is cut at its colons
like the rest of it (`splitPathList_url`).
-/

namespace DriverClasses.Location

open DriverClasses.Text

/-- A path from the root that a colon ends. -/
structure IsRootedPath (p : List Char) : Prop where
  rooted : ∃ r, p = '/' :: r
  trimmed : trimChars p = p
  colonless : ':' ∉ p
  undivided : ';' ∉ p

/-- A `file:` or `jar:` URL that stands between semicolons. -/
structure IsFileUrl (u : List Char) : Prop where
  scheme : ∃ scheme rest, scheme? u = some (scheme, rest)
    ∧ (isFileScheme scheme = true ∨ isJarScheme scheme = true)
  trimmed : trimChars u = u
  undivided : ';' ∉ u

variable {p u : List Char} {ps : List (List Char)}

theorem IsRootedPath.ne_nil (h : IsRootedPath p) : p ≠ [] := by
  obtain ⟨r, rfl⟩ := h.rooted
  exact List.cons_ne_nil _ _

theorem IsRootedPath.not_isDriveLetter (h : IsRootedPath p) : isDriveLetter p = false := by
  obtain ⟨r, rfl⟩ := h.rooted
  cases r with
  | nil => decide
  | cons c r => rfl

theorem IsFileUrl.isUrlForm (h : IsFileUrl u) : isUrlForm u = true := by
  obtain ⟨scheme, rest, hscheme, hkind⟩ := h.scheme
  unfold Location.isUrlForm
  rw [hscheme]
  rcases hkind with hkind | hkind <;> simp [hkind]

theorem IsFileUrl.ne_nil (h : IsFileUrl u) : u ≠ [] := by
  rintro rfl
  exact absurd h.isUrlForm (by decide)

theorem IsFileUrl.segmentEntries_eq (h : IsFileUrl u) : segmentEntries u = [u] := by
  rw [segmentEntries_of_url (by rw [h.trimmed]; exact h.isUrlForm), h.trimmed]

theorem isUrlForm_of_slash (r : List Char) : isUrlForm ('/' :: r) = false := by
  refine isUrlForm_of_scheme?_none ?_
  have hcut : cut ':' ('/' :: r) = (cut ':' r).map fun parts => ('/' :: parts.1, parts.2) := rfl
  have hnone : ∀ a, isScheme ('/' :: a) = false := fun a => by cases a <;> rfl
  unfold scheme?
  rw [hcut]
  cases cut ':' r with
  | none => rfl
  | some parts => simp [hnone]

/-! ### Segments of rooted paths -/

theorem segmentEntries_of_slash {r : List Char} (h : trimChars ('/' :: r) = '/' :: r) :
    segmentEntries ('/' :: r) = (joinDrives (pieces ':' ('/' :: r))).map trimChars := by
  rw [segmentEntries_of_plain (by rw [h]; exact isUrlForm_of_slash r), h]

theorem joinDrives_of_rooted (hps : ∀ p ∈ ps, IsRootedPath p) (qs : List (List Char)) :
    joinDrives (ps ++ qs) = ps ++ joinDrives qs := by
  induction ps with
  | nil => rfl
  | cons p ps ih =>
    have hp := (hps p List.mem_cons_self).not_isDriveLetter
    have hfront : joinDrives ([p] ++ (ps ++ qs)) = [p] ++ joinDrives (ps ++ qs) :=
      joinDrives_append fun q hq => by rwa [← Option.mem_some_iff.mp hq]
    rw [List.cons_append, ← List.singleton_append, hfront, ih fun q hq =>
      hps q (List.mem_cons_of_mem p hq)]
    rfl

theorem map_trimChars_of_rooted (hps : ∀ p ∈ ps, IsRootedPath p) : ps.map trimChars = ps :=
  (List.map_congr_left fun p hp => (hps p hp).trimmed).trans (List.map_id ps)

theorem pieces_join_append (hps : ∀ p ∈ ps, IsRootedPath p) (u : List Char) :
    pieces ':' (join ':' (ps ++ [u])) = ps ++ pieces ':' u := by
  induction ps with
  | nil => rfl
  | cons p ps ih =>
    rw [List.cons_append, join_cons ':' p (by simp),
      pieces_append (hps p List.mem_cons_self).colonless,
      ih fun q hq => hps q (List.mem_cons_of_mem p hq), List.cons_append]

theorem exists_join_eq_slash (hps : ∀ p ∈ ps, IsRootedPath p) (hne : ps ≠ [])
    (qs : List (List Char)) : ∃ r, join ':' (ps ++ qs) = '/' :: r := by
  obtain ⟨p, ps, rfl⟩ := List.exists_cons_of_ne_nil hne
  obtain ⟨r, rfl⟩ := (hps p List.mem_cons_self).rooted
  obtain ⟨rest, hrest⟩ := prefix_join_cons ':' ('/' :: r) (ps ++ qs)
  exact ⟨r ++ rest, hrest.symm⟩

/-- What stands behind rooted paths in one segment is cut like them. -/
theorem segmentEntries_join_append (hps : ∀ p ∈ ps, IsRootedPath p) (hne : ps ≠ [])
    (htrim : trimChars u = u) (hu : u ≠ []) :
    segmentEntries (join ':' (ps ++ [u])) = ps ++ (joinDrives (pieces ':' u)).map trimChars := by
  have hall : ∀ p ∈ ps ++ [u], trimChars p = p ∧ p ≠ [] := by
    intro p hp
    rcases List.mem_append.mp hp with hp | hp
    · exact ⟨(hps p hp).trimmed, (hps p hp).ne_nil⟩
    · rw [List.mem_singleton.mp hp]
      exact ⟨htrim, hu⟩
  obtain ⟨r, hslash⟩ := exists_join_eq_slash hps hne [u]
  have hjoin : trimChars (join ':' (ps ++ [u])) = join ':' (ps ++ [u]) := trimChars_join hall
  rw [hslash] at hjoin
  rw [hslash, segmentEntries_of_slash hjoin, ← hslash, pieces_join_append hps,
    joinDrives_of_rooted hps, List.map_append, map_trimChars_of_rooted hps]

theorem segmentEntries_join (hps : ∀ p ∈ ps, IsRootedPath p) (hne : ps ≠ []) :
    segmentEntries (join ':' ps) = ps := by
  obtain ⟨r, hslash⟩ := exists_join_eq_slash hps hne []
  rw [List.append_nil] at hslash
  have hjoin : trimChars (join ':' ps) = join ':' ps :=
    trimChars_join fun p hp => ⟨(hps p hp).trimmed, (hps p hp).ne_nil⟩
  have hjoinDrives := joinDrives_of_rooted hps []
  rw [List.append_nil, joinDrives, List.append_nil] at hjoinDrives
  rw [hslash] at hjoin
  rw [hslash, segmentEntries_of_slash hjoin, ← hslash,
    pieces_join hne fun p hp => (hps p hp).colonless, hjoinDrives, map_trimChars_of_rooted hps]

/-! ### First occurrences -/

theorem firsts_append_of_nodup {α : Type} [DecidableEq α] {xs : List α} (hxs : xs.Nodup)
    (ys : List α) :
    ∃ rest, firsts (xs ++ ys) = xs ++ rest ∧ ∀ y, y ∈ rest ↔ y ∈ ys ∧ y ∉ xs := by
  induction xs with
  | nil => exact ⟨firsts ys, rfl, fun y => by simp [mem_firsts]⟩
  | cons x xs ih =>
    obtain ⟨hx, hxs⟩ := List.nodup_cons.mp hxs
    obtain ⟨rest, hfirsts, hrest⟩ := ih hxs
    have hkeep : xs.filter (· ≠ x) = xs := List.filter_eq_self.mpr fun y hy => by
      simpa using fun heq : y = x => hx (heq ▸ hy)
    refine ⟨rest.filter (· ≠ x), ?_, fun y => ?_⟩
    · rw [List.cons_append, firsts, hfirsts, List.filter_append, hkeep, List.cons_append]
    · rw [List.mem_filter, hrest, decide_eq_true_iff, List.mem_cons, not_or, and_assoc,
        and_comm (a := y ∉ xs)]

/-! ### Path lists -/

theorem semicolon_notMem_join (hps : ∀ p ∈ ps, ';' ∉ p) : ';' ∉ join ':' ps := fun hmem => by
  rcases eq_or_mem_of_mem_join ps hmem with heq | ⟨p, hp, hmem⟩
  · exact absurd heq (by decide)
  · exact hps p hp hmem

theorem entries_of_url (hu : IsFileUrl u) : entries u = [u] := by
  have hfull : ∀ e ∈ [u], decide (e ≠ []) = true := fun e he =>
    decide_eq_true (List.mem_singleton.mp he ▸ hu.ne_nil)
  rw [entries, pieces_eq_singleton hu.undivided, List.flatMap_singleton, hu.segmentEntries_eq,
    List.filter_eq_self.mpr hfull]
  rfl

/-- What comes out of a path list in which a URL stands behind paths and a semicolon. -/
theorem entries_semicolon (hps : ∀ p ∈ ps, IsRootedPath p) (hnodup : ps.Nodup)
    (hu : IsFileUrl u) : entries (join ':' ps ++ ';' :: u) = ps ++ [u] := by
  have hpaths : (segmentEntries (join ':' ps)).filter (· ≠ []) = ps := by
    by_cases hne : ps = []
    · rw [hne]
      decide
    · rw [segmentEntries_join hps hne, List.filter_eq_self]
      exact fun p hp => decide_eq_true (hps p hp).ne_nil
  have hurl : [u].filter (· ≠ []) = [u] := List.filter_eq_self.mpr fun e he =>
    decide_eq_true (List.mem_singleton.mp he ▸ hu.ne_nil)
  have hnew : u ∉ ps := fun hmem => by
    obtain ⟨r, rfl⟩ := (hps u hmem).rooted
    exact absurd hu.isUrlForm (by rw [isUrlForm_of_slash]; decide)
  have hdistinct : (ps ++ [u]).Nodup := by
    rw [List.nodup_append]
    exact ⟨hnodup, List.nodup_singleton u, fun p hp q hq heq =>
      hnew (List.mem_singleton.mp hq ▸ heq ▸ hp)⟩
  rw [entries, pieces_append_cons,
    pieces_eq_singleton (semicolon_notMem_join fun p hp => (hps p hp).undivided),
    pieces_eq_singleton hu.undivided, List.flatMap_append, List.flatMap_singleton,
    List.flatMap_singleton, List.filter_append, hpaths, hu.segmentEntries_eq, hurl,
    firsts_of_nodup hdistinct]

/-- What comes out of a path list in which a URL stands behind paths and a colon. -/
theorem entries_colon (hps : ∀ p ∈ ps, IsRootedPath p) (hne : ps ≠ []) (hnodup : ps.Nodup)
    (hu : IsFileUrl u) :
    ∃ rest, entries (join ':' (ps ++ [u])) = ps ++ rest
      ∧ ∀ e, e ∈ rest ↔ (e ≠ [] ∧ ∃ q ∈ joinDrives (pieces ':' u), trimChars q = e) ∧ e ∉ ps := by
  have hundivided : ∀ p ∈ ps ++ [u], ';' ∉ p := fun p hp => by
    rcases List.mem_append.mp hp with hp | hp
    · exact (hps p hp).undivided
    · exact List.mem_singleton.mp hp ▸ hu.undivided
  have hfull : ps.filter (· ≠ []) = ps :=
    List.filter_eq_self.mpr fun p hp => decide_eq_true (hps p hp).ne_nil
  obtain ⟨rest, hfirsts, hrest⟩ := firsts_append_of_nodup hnodup
    (((joinDrives (pieces ':' u)).map trimChars).filter (· ≠ []))
  refine ⟨rest, ?_, fun e => ?_⟩
  · rw [entries, pieces_eq_singleton (semicolon_notMem_join hundivided), List.flatMap_singleton,
      segmentEntries_join_append hps hne hu.trimmed hu.ne_nil, List.filter_append, hfull, hfirsts]
  · rw [hrest, List.mem_filter, List.mem_map, decide_eq_true_iff, and_comm (a := e ≠ [])]

/-- A piece of a URL is not the URL. -/
theorem IsFileUrl.ne_trimChars (hu : IsFileUrl u) {q : List Char}
    (hq : q ∈ joinDrives (pieces ':' u)) : u ≠ trimChars q := by
  rintro heq
  obtain ⟨scheme, rest, hscheme, -⟩ := hu.scheme
  have hnone : scheme? (trimChars q) = none := by
    rcases notMem_or_isDrivePath hq with hcolon | hdrive
    · exact scheme?_of_notMem fun hmem => hcolon ((trimChars_isInfix q).subset hmem)
    · exact hdrive.trimChars.scheme?_eq
  rw [← heq, hscheme] at hnone
  cases hnone

/-! ### The law -/

section Texts

variable {raw u : String} {ps out : List String}

theorem splitPathList_eq_of_entries (h : entries raw.toList = out.map String.toList) :
    splitPathList raw = out := by
  rw [splitPathList, h, List.map_map]
  exact (List.map_congr_left fun _ _ => String.ofList_toList).trans (List.map_id out)

theorem toList_intercalate_colon (ps : List String) :
    (":".intercalate ps).toList = join ':' (ps.map String.toList) := by
  rw [String.toList_intercalate, join_eq_intercalate]
  rfl

theorem exists_map_toList (qs : List (List Char)) : ∃ ps : List String, qs = ps.map String.toList :=
  ⟨qs.map String.ofList, by simp [Function.comp_def]⟩

theorem mem_map_toList {e : String} : e.toList ∈ ps.map String.toList ↔ e ∈ ps :=
  List.mem_map_of_injective fun _ _ h => String.toList_inj.mp h

theorem nodup_map_toList (h : ps.Nodup) : (ps.map String.toList).Nodup :=
  h.map fun _ _ h => String.toList_inj.mp h

theorem forall_mem_map_toList (h : ∀ p ∈ ps, IsRootedPath p.toList) :
    ∀ p ∈ ps.map String.toList, IsRootedPath p := by
  intro q hq
  obtain ⟨p, hp, rfl⟩ := List.mem_map.mp hq
  exact h p hp

/-- Behind paths and a colon a URL is cut: what comes out are its pieces. -/
theorem splitPathList_colon (hps : ∀ p ∈ ps, IsRootedPath p.toList) (hne : ps ≠ [])
    (hnodup : ps.Nodup) (hu : IsFileUrl u.toList) :
    ∃ rest, splitPathList (":".intercalate (ps ++ [u])) = ps ++ rest ∧ u ∉ rest
      ∧ ∀ e, e ∈ rest ↔ (e ≠ "" ∧ ∃ q ∈ joinDrives (pieces ':' u.toList), trimChars q = e.toList)
          ∧ e ∉ ps := by
  have hne' : ps.map String.toList ≠ [] := fun hnil => hne (List.map_eq_nil_iff.mp hnil)
  obtain ⟨rest, hentries, hrest⟩ :=
    entries_colon (forall_mem_map_toList hps) hne' (nodup_map_toList hnodup) hu
  obtain ⟨rest, rfl⟩ := exists_map_toList rest
  have hmem : ∀ e, e ∈ rest
      ↔ (e ≠ "" ∧ ∃ q ∈ joinDrives (pieces ':' u.toList), trimChars q = e.toList) ∧ e ∉ ps :=
    fun e => by rw [← mem_map_toList, hrest, mem_map_toList, Ne, String.toList_eq_nil_iff]
  refine ⟨rest, splitPathList_eq_of_entries ?_, fun hu' => ?_, hmem⟩
  · rw [toList_intercalate_colon, List.map_append, List.map_append, List.map_singleton, hentries]
  · obtain ⟨⟨-, q, hq, heq⟩, -⟩ := (hmem u).mp hu'
    exact hu.ne_trimChars hq heq.symm

/-- What becomes of the URL `u` in path lists with the paths `ps` in front of it. -/
structure KeepsUrl (ps : List String) (u : String) : Prop where
  alone : splitPathList u = [u]
  semicolon : splitPathList (":".intercalate ps ++ ";" ++ u) = ps ++ [u]
  /-- Behind a colon the paths come out first, and then what comes out of the pieces of the URL. -/
  colon : ps ≠ [] → ∃ rest, splitPathList (":".intercalate (ps ++ [u])) = ps ++ rest ∧ u ∉ rest
    ∧ ∀ e, e ∈ rest ↔ (e ≠ "" ∧ ∃ q ∈ joinDrives (pieces ':' u.toList), trimChars q = e.toList)
        ∧ e ∉ ps
  /-- So there it is whole only if no path is in front of it. -/
  kept_iff : splitPathList (":".intercalate (ps ++ [u])) = ps ++ [u] ↔ ps = []

theorem splitPathList_url (hps : ∀ p ∈ ps, IsRootedPath p.toList) (hnodup : ps.Nodup)
    (hu : IsFileUrl u.toList) : KeepsUrl ps u := by
  have halone : splitPathList u = [u] := splitPathList_eq_of_entries (entries_of_url hu)
  refine ⟨halone, splitPathList_eq_of_entries ?_, fun hne => splitPathList_colon hps hne hnodup hu,
    fun hkept => ?_, fun hnil => ?_⟩
  · rw [String.toList_append, String.toList_append, toList_intercalate_colon, List.append_assoc,
      List.map_append]
    exact entries_semicolon (forall_mem_map_toList hps) (nodup_map_toList hnodup) hu
  · by_contra hne
    obtain ⟨rest, hsplit, hnew, -⟩ := splitPathList_colon hps hne hnodup hu
    rw [hkept] at hsplit
    exact hnew (List.append_cancel_left hsplit ▸ List.mem_singleton_self u)
  · rw [hnil]
    exact halone

theorem isRootedPath_a : IsRootedPath "/a".toList :=
  ⟨⟨['a'], rfl⟩, by decide, by decide, by decide⟩

theorem isFileUrl_b : IsFileUrl "FILE:/b".toList :=
  ⟨⟨"FILE".toList, "/b".toList, by decide, by decide⟩, by decide, by decide⟩

theorem splitPathList_url_a :
    IsRootedPath "/a".toList ∧ IsFileUrl "FILE:/b".toList ∧ KeepsUrl ["/a"] "FILE:/b" :=
  ⟨isRootedPath_a, isFileUrl_b,
    splitPathList_url (by simpa using isRootedPath_a) (List.nodup_singleton _) isFileUrl_b⟩

theorem not_url_kept_behind_colon :
    ¬∀ (ps : List String) (u : String), (∀ p ∈ ps, IsRootedPath p.toList) → ps.Nodup →
      IsFileUrl u.toList → splitPathList (":".intercalate (ps ++ [u])) = ps ++ [u] := by
  intro h
  have hkept := h ["/a"] "FILE:/b" (by simpa using isRootedPath_a) (List.nodup_singleton _)
    isFileUrl_b
  exact absurd hkept (by decide +kernel)

end Texts

end DriverClasses.Location
