import DriverClasses.Proofs.Files.Proper
import DriverClasses.Proofs.Loading.Below

/-!
# When a class is not found

Where every location is a directory or nothing at all, a class is not found just in case no
location contains its file and none is obstructed (`load_eq_classNotFound_iff`): an obstructed
location is one that fails for a reason other than absence, as when a file stands in the place of a
package.  Such a location makes the class a malformed one, though there is no file for it anywhere
(`load_fileInTheWay`).
-/

namespace DriverClasses.Loading

open DriverClasses.ClassFile DriverClasses.Text DriverClasses.Files

/-! ### What a location has for a class -/

/-- The location is the directory at this place. -/
def IsAt (files : FileTree) (location : Location) (home : Place) : Prop :=
  files.locate location.path = .ok home ∧ files.item? home = some .directory

/-- The file of the class stands in the directory that the location is. -/
def Contains (files : FileTree) (location : Location) (name : String) : Prop :=
  ∃ home bytes, IsAt files location home ∧ files.item? (home ++ steps name) = some (.file bytes)

/-- The class cannot be looked for in the location. -/
inductive Obstructed (files : FileTree) (location : Location) (name : String) : Prop
  /-- The location itself cannot be looked for. -/
  | unreachable {e : FileError} : files.stat location.path = .error e → e ≠ .notFound →
      Obstructed files location name
  /-- The path of the file is longer than a path may be. -/
  | overlong {home : Place} : IsAt files location home →
      pathLimit ≤ (entryPath location.path (entryName name)).length →
      Obstructed files location name
  /-- A file or a name that is too long is in the way to the file. -/
  | blocked {home : Place} : IsAt files location home → files.Blocked home (steps name) →
      Obstructed files location name

/-- What a location answers when it is asked for a class. -/
inductive Looked (files : FileTree) (location : Location) (name : String) (limit : Nat) :
    Lookup → Prop
  | obstructed {e : FileError} : Obstructed files location name →
      Looked files location name limit (.failed (.file e))
  | contained {home : Place} {bytes : Bytes} : ¬ Obstructed files location name →
      IsAt files location home → files.item? (home ++ steps name) = some (.file bytes) →
      Looked files location name limit
        ((Content.ofFile bytes).readCapped (entryName name) limit)
  | lacking : ¬ Obstructed files location name → ¬ Contains files location name →
      Looked files location name limit .absent

theorem IsAt.stat_eq {files : FileTree} {location : Location} {home : Place}
    (h : IsAt files location home) : files.stat location.path = .ok .directory :=
  FileTree.stat_eq_ok_iff.mpr ⟨home, h⟩

theorem IsAt.unique {files : FileTree} {location : Location} {home home' : Place}
    (h : IsAt files location home) (h' : IsAt files location home') : home' = home :=
  Except.ok.inj (h'.1.symm.trans h.1)

theorem readCapped_ne_absent (content : Content) (entry : String) (limit : Nat) :
    content.readCapped entry limit ≠ .absent := by
  unfold Content.readCapped
  split
  · simp
  · split
    · simp
    · split
      · simp
      · split <;> simp

section Lookup

variable {files : FileTree} {location : Location} {name : String} {home : Place}

/-- What stands where a class is looked for, as the steps from the directory lead there. -/
theorem IsAt.stat_entry (h : IsAt files location home) (hname : isBinaryName name = true) :
    files.stat (entryPath location.path (entryName name))
      = if pathLimit ≤ (entryPath location.path (entryName name)).length then .error .nameTooLong
        else (files.follow home (steps name)).bind fun place =>
          (files.item? place).elim (.error .notFound) .ok := by
  obtain ⟨-, hne, -, -⟩ := FileTree.locate_eq_ok_iff.mp h.1
  unfold FileTree.stat
  rw [entryPath_entryName hname hne,
    FileTree.locate_below h.1 (steps_ne_nil name) (isStep_of_mem_steps hname)]
  split
  · rfl
  · cases files.follow home (steps name) with
    | error e => rfl
    | ok place =>
      simp only [bind, Except.bind]
      cases files.item? place <;> rfl

theorem IsAt.obstructed_iff (h : IsAt files location home) :
    Obstructed files location name
      ↔ pathLimit ≤ (entryPath location.path (entryName name)).length
        ∨ files.Blocked home (steps name) := by
  constructor
  · rintro (⟨he, -⟩ | ⟨-, hlong⟩ | ⟨hat, hblocked⟩)
    · rw [h.stat_eq] at he
      cases he
    · exact .inl hlong
    · exact .inr (h.unique hat ▸ hblocked)
  · rintro (hlong | hblocked)
    · exact .overlong h hlong
    · exact .blocked h hblocked

theorem IsAt.contains_iff (h : IsAt files location home) :
    Contains files location name
      ↔ ∃ bytes, files.item? (home ++ steps name) = some (.file bytes) := by
  constructor
  · rintro ⟨home', bytes, hat, hfile⟩
    exact ⟨bytes, h.unique hat ▸ hfile⟩
  · rintro ⟨bytes, hfile⟩
    exact ⟨home, bytes, h, hfile⟩

theorem IsAt.looked (h : IsAt files location home) (hfiles : files.Proper)
    (hname : isBinaryName name = true) (limit : Nat) :
    Looked files location name limit
      (findInLocation location files (entryName name) limit) := by
  rw [findInLocation_of_directory h.stat_eq]
  unfold findInDirectory
  rw [h.stat_entry hname]
  by_cases hlong : pathLimit ≤ (entryPath location.path (entryName name)).length
  · rw [if_pos hlong]
    exact .obstructed (.overlong h hlong)
  · rw [if_neg hlong]
    have hobstructed : files.Blocked home (steps name) ↔ Obstructed files location name := by
      rw [h.obstructed_iff, or_iff_right hlong]
    have hfollowed := hfiles.followed (isStep_of_mem_steps hname) (Option.isSome_of_eq_some h.2)
    generalize files.follow home (steps name) = ending at hfollowed
    cases hfollowed with
    | there hthere =>
      obtain ⟨item, hitem⟩ := Option.isSome_iff_exists.mp hthere
      have hfree := mt hobstructed.mpr (hfiles.not_blocked_of_some hitem)
      simp only [Except.bind, hitem, Option.elim_some]
      cases item with
      | file bytes => exact .contained hfree h hitem
      | directory => exact .lacking hfree (by simp [h.contains_iff, hitem])
    | missing hnone hfree =>
      exact .lacking (mt hobstructed.mpr hfree) (by simp [h.contains_iff, hnone])
    | @blocked e hnone hblocked he =>
      have hway : Obstructed files location name := hobstructed.mp hblocked
      cases e with
      | notFound => exact absurd rfl he
      | _ => exact .obstructed hway

/-- A location that is a directory or nothing answers in one of the three ways. -/
theorem looked (hfiles : files.Proper) (hname : isBinaryName name = true)
    (hplace : ∀ bytes, files.stat location.path ≠ .ok (.file bytes)) (limit : Nat) :
    Looked files location name limit
      (findInLocation location files (entryName name) limit) := by
  cases hstat : files.stat location.path with
  | ok item =>
    cases item with
    | file bytes => exact absurd hstat (hplace bytes)
    | directory =>
      obtain ⟨home, hat⟩ := FileTree.stat_eq_ok_iff.mp hstat
      exact IsAt.looked hat hfiles hname limit
  | error e =>
    have hnowhere : ∀ home, ¬ IsAt files location home := by
      intro home hat
      rw [hat.stat_eq] at hstat
      cases hstat
    unfold findInLocation
    rw [hstat]
    cases e with
    | notFound =>
      refine .lacking ?_ fun ⟨home, _, hat, _⟩ => hnowhere home hat
      rintro (⟨he, hne⟩ | ⟨hat, -⟩ | ⟨hat, -⟩)
      · rw [hstat] at he
        exact hne (Except.error.inj he).symm
      · exact hnowhere _ hat
      · exact hnowhere _ hat
    | _ => exact .obstructed (.unreachable hstat (by decide))

theorem Looked.eq_absent_iff {limit : Nat} {lookup : Lookup}
    (h : Looked files location name limit lookup) :
    lookup = .absent ↔ ¬ Contains files location name ∧ ¬ Obstructed files location name := by
  cases h with
  | obstructed hobstructed => simp [hobstructed]
  | contained hfree hat hfile =>
    have hcontains : Contains files location name := ⟨_, _, hat, hfile⟩
    simp [readCapped_ne_absent, hcontains]
  | lacking hfree hnone => simp [hfree, hnone]

/-- Where the file of the class is not, nothing is read. -/
theorem Looked.absent_or_failed {limit : Nat} {lookup : Lookup}
    (h : Looked files location name limit lookup) (hnone : ¬ Contains files location name) :
    lookup = .absent ∨ ∃ fault, lookup = .failed fault := by
  cases h with
  | obstructed _ => exact .inr ⟨_, rfl⟩
  | contained _ hat hfile => exact absurd ⟨_, _, hat, hfile⟩ hnone
  | lacking _ _ => exact .inl rfl

end Lookup

/-! ### Classes that are not found -/

namespace Forest

variable {f : Forest} {ops : List Operation} {c : Context} {name : String}

theorem Sound.load_eq_missing_iff (hf : f.Sound ops) (hc : c ∈ f.contexts)
    (hsearches : f.Searches c name) (files : FileTree) :
    (f.load files c.id name).1 = .failed (.classNotFound name c.sources.length)
      ↔ ∀ s ∈ c.sources, s.Lacks files c.policy name := by
  constructor
  · intro hload
    obtain ⟨result, g, h⟩ := hf.exists_loads hc files name
    rw [h.load_eq hf hc] at hload
    cases h with
    | unnamed _ _ hname =>
      rw [hsearches.binary] at hname
      cases hname
    | missing _ hlacks => exact hlacks
    | cached _ => cases hload
    | inherited _ _ => cases hload
    | linked _ _ _ _ _ _ => cases hload
    | malformed _ _ _ _ _ => cases hload
    | crashed _ _ _ _ => cases hload
  · intro hlacks
    rw [(Loads.missing hsearches hlacks).load_eq hf hc]

/-- Whatever source a malformed class is blamed on has something for the class. -/
theorem Sound.source_of_malformed (hf : f.Sound ops) (hc : c ∈ f.contexts) {files : FileTree}
    {origin : String} {defect : Defect}
    (hload : (f.load files c.id name).1 = .failed (.malformedClass name origin defect)) :
    f.Searches c name
      ∧ ∃ s ∈ c.sources, s.origin = origin ∧ ¬ s.Lacks files c.policy name := by
  obtain ⟨result, g, h⟩ := hf.exists_loads hc files name
  rw [h.load_eq hf hc] at hload
  cases h with
  | @malformed before after s _ hsearches hsplit _ _ hfails =>
    simp only [LoadResult.failed.injEq, LoadError.malformedClass.injEq, true_and] at hload
    refine ⟨hsearches, s, by rw [hsplit]; simp, hload.1, fun hlacks => ?_⟩
    unfold ClassSource.Lacks at hlacks
    rcases hfails with ⟨hfind⟩ | ⟨hfind, -⟩ <;> rw [hlacks] at hfind <;> cases hfind
  | unnamed _ _ _ => cases hload
  | missing _ _ => cases hload
  | cached _ => cases hload
  | inherited _ _ => cases hload
  | linked _ _ _ _ _ _ => cases hload
  | crashed _ _ _ _ => cases hload

/-- Where no source has anything to read and some source fails, a class is malformed. -/
theorem Sound.malformed_of_not_found (hf : f.Sound ops) (hc : c ∈ f.contexts)
    (hsearches : f.Searches c name) {files : FileTree}
    (hnone : ∀ s ∈ c.sources, s.Lacks files c.policy name
      ∨ ∃ fault, s.find files (entryName name) c.policy.maxEntryBytes = .failed fault)
    {s : ClassSource} (hs : s ∈ c.sources) (hnot : ¬ s.Lacks files c.policy name) :
    ∃ origin defect, (f.load files c.id name).1
      = .failed (.malformedClass name origin defect) := by
  obtain ⟨result, g, h⟩ := hf.exists_loads hc files name
  rw [h.load_eq hf hc]
  cases h with
  | cached hmem => exact absurd hmem (hsearches.not_cached _)
  | inherited _ habove => exact absurd habove (hsearches.not_above _)
  | unnamed _ _ hname =>
    rw [hsearches.binary] at hname
    cases hname
  | malformed _ _ _ _ _ => exact ⟨_, _, rfl⟩
  | missing _ hlacks => exact absurd (hlacks s hs) hnot
  | @linked before after t _ _ _ _ hsplit _ hprovides _ _ =>
    rcases hnone t (by rw [hsplit]; simp) with hlacks | ⟨fault, hfailed⟩
    · exact absurd (hlacks.symm.trans hprovides.1) (by simp)
    · exact absurd (hfailed.symm.trans hprovides.1) (by simp)
  | @crashed before after t _ _ hsplit _ hcrashes =>
    rcases hnone t (by rw [hsplit]; simp) with hlacks | ⟨fault, hfailed⟩
    · exact absurd (hlacks.symm.trans hcrashes) (by simp)
    · exact absurd (hfailed.symm.trans hcrashes) (by simp)

/-- A class that is searched for among directories and places where nothing is, is not found just in
case no location contains its file and none is obstructed.  If it is malformed, then the location
that is to blame contains its file or is obstructed, and an obstructed location makes it malformed
even if there is no file for it anywhere. -/
theorem load_eq_classNotFound_iff (ops : List Operation) {files : FileTree}
    (hfiles : files.Proper) {c : Context} (hc : c ∈ (({} : Forest).after ops).contexts)
    {name : String} (hsearches : (({} : Forest).after ops).Searches c name)
    {locations : List Location} (hsources : c.sources = locations.map .ofLocation)
    (hplaces : ∀ location ∈ locations, ∀ bytes, files.stat location.path ≠ .ok (.file bytes)) :
    (((({} : Forest).after ops).load files c.id name).1
          = .failed (.classNotFound name locations.length)
        ↔ ∀ location ∈ locations,
            ¬ Contains files location name ∧ ¬ Obstructed files location name)
      ∧ (∀ origin defect, ((({} : Forest).after ops).load files c.id name).1
            = .failed (.malformedClass name origin defect) →
          ∃ location ∈ locations, location.text = origin
            ∧ (Contains files location name ∨ Obstructed files location name))
      ∧ ((∀ location ∈ locations, ¬ Contains files location name) →
          (∃ location ∈ locations, Obstructed files location name) →
          ∃ origin defect, ((({} : Forest).after ops).load files c.id name).1
            = .failed (.malformedClass name origin defect)) := by
  have hf := sound_after ops
  have hlooked := fun location hmem =>
    looked hfiles hsearches.binary (hplaces location hmem) c.policy.maxEntryBytes
  have hlacks : ∀ location ∈ locations, (ClassSource.ofLocation location).Lacks files c.policy name
      ↔ ¬ Contains files location name ∧ ¬ Obstructed files location name :=
    fun location hmem => (hlooked location hmem).eq_absent_iff
  refine ⟨?_, fun origin defect hload => ?_, fun hnone hsome => ?_⟩
  · have hmissing := hf.load_eq_missing_iff hc hsearches files
    rw [hsources, List.length_map, List.forall_mem_map] at hmissing
    rw [hmissing]
    exact forall₂_congr hlacks
  · obtain ⟨-, s, hs, horigin, hnot⟩ := hf.source_of_malformed hc hload
    rw [hsources] at hs
    obtain ⟨location, hmem, rfl⟩ := List.mem_map.mp hs
    rw [hlacks location hmem, ← not_or, not_not] at hnot
    exact ⟨location, hmem, horigin, hnot⟩
  · obtain ⟨location, hmem, hobstructed⟩ := hsome
    have hsource := List.mem_map_of_mem (f := ClassSource.ofLocation) hmem
    rw [← hsources] at hsource
    refine hf.malformed_of_not_found hc hsearches ?_ hsource
      (mt (hlacks location hmem).mp fun h => h.2 hobstructed)
    rw [hsources, List.forall_mem_map]
    exact fun other hother => (hlooked other hother).absent_or_failed (hnone other hother)

/-! ### A file in the way -/

/-- The file `com` stands in the directory of classes, and nothing else does. -/
def fileInTheWay : FileTree :=
  { items := [([utf8 "classes"], .directory), ([utf8 "classes", utf8 "com"], .file [])] }

theorem proper_fileInTheWay : fileInTheWay.Proper := FileTree.proper_of_items (by decide +kernel)

theorem searches_classes {name : String} (hname : isBinaryName name = true) :
    (({} : Forest).after classesRun).Searches classesContext name := by
  rw [after_classesRun]
  refine ⟨fun h hmem => by simp [classesContext] at hmem, fun h habove => ?_, hname⟩
  cases habove with
  | parent hp => simp [parent?, context?, classesContext, Context.parent?] at hp
  | beyond hp => simp [parent?, context?, classesContext, Context.parent?] at hp

theorem isAt_fileInTheWay : IsAt fileInTheWay classesLocation [utf8 "classes"] :=
  ⟨by decide +kernel, by decide +kernel⟩

theorem classes_is_no_file : ∀ location ∈ [classesLocation], ∀ bytes,
    fileInTheWay.stat location.path ≠ .ok (.file bytes) := by
  intro location hlocation bytes
  rw [List.mem_singleton.mp hlocation, isAt_fileInTheWay.stat_eq]
  simp

theorem not_contains_fileInTheWay : ¬ Contains fileInTheWay classesLocation "com.Driver" := by
  rw [isAt_fileInTheWay.contains_iff]
  rintro ⟨bytes, hfile⟩
  have hnone : fileInTheWay.item? ([utf8 "classes"] ++ steps "com.Driver") = none := by
    decide +kernel
  rw [hnone] at hfile
  cases hfile

theorem load_fileInTheWay :
    ((({} : Forest).after classesRun).load fileInTheWay classesContext.id "com.Driver").1
      = .failed (.malformedClass "com.Driver" "/classes" (.unreadable (.file .notADirectory))) := by
  rw [after_classesRun]
  decide +kernel

/-- The file is in the way of one class, and another class is not found. -/
theorem load_eq_classNotFound_fileInTheWay :
    fileInTheWay.Proper ∧ classesContext ∈ (({} : Forest).after classesRun).contexts
      ∧ (({} : Forest).after classesRun).Searches classesContext "org.Driver"
      ∧ (({} : Forest).after classesRun).Searches classesContext "com.Driver"
      ∧ (∀ location ∈ [classesLocation], ∀ bytes,
          fileInTheWay.stat location.path ≠ .ok (.file bytes))
      ∧ ((({} : Forest).after classesRun).load fileInTheWay classesContext.id "org.Driver").1
          = .failed (.classNotFound "org.Driver" 1)
      ∧ ¬ Contains fileInTheWay classesLocation "org.Driver"
      ∧ ¬ Obstructed fileInTheWay classesLocation "org.Driver"
      ∧ ¬ Contains fileInTheWay classesLocation "com.Driver"
      ∧ Obstructed fileInTheWay classesLocation "com.Driver" := by
  have hmem : classesContext ∈ (({} : Forest).after classesRun).contexts := by
    simp [after_classesRun]
  have horg := @searches_classes "org.Driver" (by decide +kernel)
  have hcom := @searches_classes "com.Driver" (by decide +kernel)
  have hload : ((({} : Forest).after classesRun).load fileInTheWay classesContext.id "org.Driver").1
      = .failed (.classNotFound "org.Driver" 1) := by
    rw [after_classesRun]
    decide +kernel
  obtain ⟨hcontains, hobstructed⟩ := (load_eq_classNotFound_iff classesRun proper_fileInTheWay
    hmem horg rfl classes_is_no_file).1.mp hload classesLocation (List.mem_singleton_self _)
  obtain ⟨location, hlocation, -, hway⟩ := (load_eq_classNotFound_iff classesRun
    proper_fileInTheWay hmem hcom rfl classes_is_no_file).2.1 _ _ load_fileInTheWay
  rw [List.mem_singleton.mp hlocation] at hway
  exact ⟨proper_fileInTheWay, hmem, horg, hcom, classes_is_no_file, hload, hcontains, hobstructed,
    not_contains_fileInTheWay, hway.resolve_left not_contains_fileInTheWay⟩

/-- A class that has no file in any location need not be one that is not found. -/
theorem not_classNotFound_of_no_file :
    ¬ ∀ (ops : List Operation) (files : FileTree) (c : Context) (name : String)
        (locations : List Location), files.Proper → c ∈ (({} : Forest).after ops).contexts →
        (({} : Forest).after ops).Searches c name → c.sources = locations.map .ofLocation →
        (∀ location ∈ locations, ∀ bytes, files.stat location.path ≠ .ok (.file bytes)) →
        (((({} : Forest).after ops).load files c.id name).1
              = .failed (.classNotFound name locations.length)
            ↔ ∀ location ∈ locations, ¬ Contains files location name) := by
  intro hall
  have hmem : classesContext ∈ (({} : Forest).after classesRun).contexts := by
    simp [after_classesRun]
  have hload := (hall classesRun fileInTheWay classesContext "com.Driver" [classesLocation]
    proper_fileInTheWay hmem (searches_classes (by decide +kernel)) rfl classes_is_no_file).mpr
    fun location hlocation => List.mem_singleton.mp hlocation ▸ not_contains_fileInTheWay
  rw [load_fileInTheWay] at hload
  cases hload

end Forest

end DriverClasses.Loading
