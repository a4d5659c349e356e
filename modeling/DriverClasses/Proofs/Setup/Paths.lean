import Mathlib.Data.List.Forall2
import DriverClasses.Loading.Context
import DriverClasses.Proofs.Location.Entries

/-!
# Path lists as locations

The entries of a path list are trimmed, and a location is named by its text as it was given, without
padding.  So the sources that are made of a path list are named by its entries
(`origins_of_splitPathList`).
-/

namespace DriverClasses.Setup

open DriverClasses.Text DriverClasses.Location DriverClasses.Loading

theorem mem_splitPathList_iff {raw p : String} :
    p ∈ splitPathList raw ↔ p.toList ∈ entries raw.toList := by
  unfold splitPathList
  rw [List.mem_map]
  constructor
  · rintro ⟨entry, hentry, rfl⟩
    rwa [String.toList_ofList]
  · intro hentry
    exact ⟨p.toList, hentry, String.ofList_toList⟩

theorem trimChars_of_mem_splitPathList {raw p : String} (h : p ∈ splitPathList raw) :
    trimChars p.toList = p.toList :=
  trimChars_of_mem_entries (mem_splitPathList_iff.mp h)

theorem trim_of_mem_splitPathList {raw p : String} (h : p ∈ splitPathList raw) : trim p = p := by
  unfold trim
  rw [trimChars_of_mem_splitPathList h, String.ofList_toList]

theorem origin_of_sourceOf {raw : String} {source : ClassSource}
    (h : sourceOf raw = .ok source) : source.origin = trim raw := by
  unfold sourceOf at h
  split at h
  · rename_i location hparse
    unfold Location.parse at hparse
    cases hpath : Location.pathOf (trimChars raw.toList) with
    | error refusal => simp [hpath, Except.map] at hparse
    | ok path =>
      simp only [hpath, Except.map, Except.ok.injEq] at hparse h
      rw [← h, ← hparse]
      rfl
  · cases h

/-- Locations that are accepted together are accepted one by one. -/
theorem forall₂_of_mapM {raws : List String} {sources : List ClassSource}
    (h : raws.mapM sourceOf = .ok sources) :
    List.Forall₂ (fun raw source => sourceOf raw = .ok source) raws sources := by
  induction raws generalizing sources with
  | nil =>
    obtain rfl : [] = sources := Except.ok.inj h
    exact .nil
  | cons raw raws ih =>
    rw [List.mapM_cons] at h
    cases hsource : sourceOf raw with
    | error error => simp [hsource, bind, Except.bind] at h
    | ok source =>
      cases hrest : raws.mapM sourceOf with
      | error error => simp [hsource, hrest, bind, Except.bind] at h
      | ok rest =>
        simp only [hsource, hrest, bind, Except.bind, pure, Except.pure, Except.ok.injEq] at h
        rw [← h]
        exact .cons hsource (ih hrest)

theorem origins_of_mapM {raws : List String} {sources : List ClassSource}
    (h : raws.mapM sourceOf = .ok sources) : sources.map (·.origin) = raws.map trim := by
  have hall := forall₂_of_mapM h
  clear h
  induction hall with
  | nil => rfl
  | cons hsource _ ih => rw [List.map_cons, List.map_cons, origin_of_sourceOf hsource, ih]

theorem origins_of_splitPathList {raw : String} {sources : List ClassSource}
    (h : (splitPathList raw).mapM sourceOf = .ok sources) :
    sources.map (·.origin) = splitPathList raw := by
  rw [origins_of_mapM h]
  exact (List.map_congr_left fun p hp => trim_of_mem_splitPathList hp).trans (List.map_id _)

end DriverClasses.Setup
