import DriverClasses.Proofs.ClassFile.FileNames
import DriverClasses.Proofs.Files.Descent
import DriverClasses.Proofs.Loading.Answer
import DriverClasses.Proofs.Loading.Isolation
import DriverClasses.Proofs.Text.Utf8

/-!
# Class names stay below their directory

The file that a directory is asked for is named by the segments of the class name and by nothing
else, so whatever the name is, the file is below the directory (`load_staysBelow`).  A name with a
segment that could lead elsewhere is no binary name, and no source is asked for it.
-/

namespace DriverClasses.Loading

open DriverClasses.ClassFile DriverClasses.Text DriverClasses.Files

/-! ### The path of an entry -/

/-- The steps from a directory of classes to the file of one. -/
def steps (name : String) : List Bytes := (fileNames name).map utf8Chars

theorem steps_ne_nil (name : String) : steps name ≠ [] := by
  simp [steps, fileNames_ne_nil]

theorem isStep_of_isPlain {s : List Char} (h : IsPlain s) : IsStep (utf8Chars s) where
  not_empty := utf8Chars_ne_nil h.not_empty
  not_here heq := h.not_here (utf8Chars_inj.mp heq)
  not_up heq := h.not_up (utf8Chars_inj.mp heq)
  no_slash hmem :=
    (h.clean '/' ((asciiByte_mem_utf8Chars (a := '/') (by decide)).mp hmem)).1 rfl
  no_nul hmem :=
    (h.clean '\x00' ((asciiByte_mem_utf8Chars (a := '\x00') (by decide)).mp hmem)).2.2.2 rfl

theorem isStep_of_mem_steps {name : String} (h : isBinaryName name = true) :
    ∀ n ∈ steps name, IsStep n := by
  intro n hn
  obtain ⟨part, hpart, rfl⟩ := List.mem_map.mp hn
  exact isStep_of_isPlain (isPlain_of_mem_fileNames h hpart)

theorem entryPath_entryName {name : String} (h : isBinaryName name = true) {root : Bytes}
    (hroot : root ≠ []) :
    entryPath root (entryName name) = withSlash root ++ join slash (steps name) := by
  unfold entryPath
  rw [pieces_entryName h, ← List.foldl_map]
  exact foldl_push (steps_ne_nil name) (isStep_of_mem_steps h) hroot

theorem findInLocation_of_directory {location : Location} {files : FileTree}
    (h : files.stat location.path = .ok .directory) (entry : String) (limit : Nat) :
    findInLocation location files entry limit
      = findInDirectory files location.path entry limit := by
  unfold findInLocation
  rw [h]

/-! ### What a lookup opens -/

/-- What the directory at `root` is asked for when the class `name` is looked up in it. -/
structure StaysBelow (files : FileTree) (location : Location) (name : String) (limit : Nat) :
    Prop where
  /-- The segments of the name, the last one with `.class` behind it, are written behind the path
  of the directory, with slashes between. -/
  spelled : entryPath location.path (entryName name)
    = withSlash location.path ++ join slash (steps name)
  plain : ∀ part ∈ fileNames name, IsPlain part
  /-- To go there is to go to the directory first. -/
  names_eq : namesOn (entryPath location.path (entryName name))
    = namesOn location.path ++ steps name
  absolute_iff : isAbsolute (entryPath location.path (entryName name)) = isAbsolute location.path
  /-- The place that is reached is as many steps below that of the directory. -/
  below : ∀ place, files.locate (entryPath location.path (entryName name)) = .ok place →
    ∃ home, files.locate location.path = .ok home ∧ place = home ++ steps name
  /-- What stands at this path is all that the answer depends on. -/
  reads_only : ∀ other : FileTree, other.stat location.path = .ok .directory →
    other.stat (entryPath location.path (entryName name))
      = files.stat (entryPath location.path (entryName name)) →
    findInLocation location other (entryName name) limit
      = findInLocation location files (entryName name) limit

theorem staysBelow {files : FileTree} {location : Location} {name : String}
    (hname : isBinaryName name = true) (hroot : files.stat location.path = .ok .directory)
    (limit : Nat) : StaysBelow files location name limit := by
  obtain ⟨home, hhome, -⟩ := FileTree.stat_eq_ok_iff.mp hroot
  obtain ⟨-, hne, -, -⟩ := FileTree.locate_eq_ok_iff.mp hhome
  have hsteps := isStep_of_mem_steps hname
  have hspelled := entryPath_entryName hname hne
  refine ⟨hspelled, fun part hpart => isPlain_of_mem_fileNames hname hpart, ?_, ?_, ?_, ?_⟩
  · rw [hspelled, namesOn_below _ (steps_ne_nil name) hsteps]
  · rw [hspelled, isAbsolute_below hne]
  · intro place hplace
    rw [hspelled, FileTree.locate_below hhome (steps_ne_nil name) hsteps] at hplace
    split at hplace
    · cases hplace
    · exact ⟨home, hhome, FileTree.eq_append_of_follow hsteps hplace⟩
  · intro other hother hstat
    rw [findInLocation_of_directory hother, findInLocation_of_directory hroot]
    unfold findInDirectory
    rw [hstat]

/-! ### What a load asks for -/

namespace Forest

variable {f : Forest} {ops : List Operation} {c : Context} {name : String}

theorem exists_questions_scanContext (files : FileTree) (c : Context) (name : String)
    (f : Forest) :
    ∃ count, (f.scanContext files c name).2.consultations
      = f.consultations ++ questions c name count := by
  unfold scanContext
  obtain ⟨scanEnd, asked⟩ := scan files c.policy name c.sources
  refine ⟨asked, ?_⟩
  cases scanEnd <;> rfl

theorem exists_context_of_mem_asks_load {files : FileTree} {id : Nat} {q : Consultation}
    (hq : q ∈ f.asks (.load files id name)) :
    ∃ c, f.context? id = some c ∧ f.resident? id name = none ∧ isBinaryName name = true
      ∧ q.contextId = c.id ∧ q.entry = entryName name ∧ q.limit = c.policy.maxEntryBytes := by
  have hnone : ∀ result, f.load files id name ≠ (result, f) := by
    intro result hload
    rw [asks_of_load hload (List.append_nil _).symm] at hq
    cases hq
  cases hres : f.resident? id name with
  | some h => exact absurd (load_of_resident hres files) (hnone _)
  | none =>
    have hload := load_of_not_resident hres files
    by_cases hname : isBinaryName name = true
    · rw [if_pos hname] at hload
      cases hc : f.context? id with
      | none =>
        rw [hc] at hload
        exact absurd hload (hnone _)
      | some c =>
        rw [hc] at hload
        obtain ⟨count, hcount⟩ := exists_questions_scanContext files c name f
        rw [asks_of_load hload hcount] at hq
        obtain ⟨position, -, rfl⟩ := List.mem_map.mp hq
        exact ⟨c, rfl, rfl, hname, rfl, rfl, rfl⟩
    · rw [if_neg hname] at hload
      exact absurd hload (hnone _)

/-- A load asks the sources of its context for the entry of the class, and only if it has to. -/
theorem Sound.mem_asks_load (hf : f.Sound ops) (hc : c ∈ f.contexts) {files : FileTree}
    {q : Consultation} (hq : q ∈ f.asks (.load files c.id name)) :
    f.Searches c name ∧ q.contextId = c.id ∧ q.entry = entryName name
      ∧ q.limit = c.policy.maxEntryBytes := by
  obtain ⟨d, hd, hres, hname, hquestion⟩ := exists_context_of_mem_asks_load hq
  rw [hf.wellFormed.context?_of_mem hc, Option.some.injEq] at hd
  obtain ⟨hown, habove⟩ := (hf.resident?_eq_none_iff hc).mp hres
  exact ⟨⟨hown, habove, hname⟩, hd ▸ hquestion⟩

/-- Only binary names are names of loaded classes. -/
theorem Sound.binary_of_cached? (hf : f.Sound ops) {i : Nat} {h : LoadedClass}
    (hcached : f.cached? i name = some h) : isBinaryName name = true := by
  obtain ⟨c, hcontext, -⟩ := Option.bind_eq_some_iff.mp hcached
  have hmem := (mem_cacheOf hcontext).mp (hf.cached?_eq_some_iff.mp hcached)
  exact (hf.genuine hcontext _ hmem).binary

theorem Sound.load_of_not_binary (hf : f.Sound ops) (files : FileTree) (id : Nat)
    (hname : isBinaryName name = false) :
    f.load files id name = (.failed (.classNotFound name 0), f) := by
  have hres : f.resident? id name = none := by
    rw [Option.eq_none_iff_forall_not_mem]
    intro h hmem
    obtain ⟨_, owner, _, -, howner, -⟩ := resident?_eq_some_iff.mp hmem
    rw [hf.binary_of_cached? howner] at hname
    cases hname
  rw [load_of_not_resident hres, hname]
  rfl

/-- Whatever class is loaded, each directory among the sources that are asked is asked for a file
below it, by the segments of the name.  A name with a segment that is not plain is no binary name,
and whatever is no binary name is answered without asking any source. -/
theorem load_staysBelow (ops : List Operation) (files : FileTree) {c : Context}
    (hc : c ∈ (({} : Forest).after ops).contexts) (name : String) :
    (∀ q ∈ (({} : Forest).after ops).asks (.load files c.id name),
        q.contextId = c.id ∧ q.entry = entryName name
          ∧ ∀ location, c.sources[q.position]? = some (.ofLocation location) →
            files.stat location.path = .ok .directory →
            StaysBelow files location name q.limit)
      ∧ (isBinaryName name = false ∨ (∃ part ∈ fileNames name, ¬ IsPlain part) →
          (({} : Forest).after ops).load files c.id name
            = (.failed (.classNotFound name 0), ({} : Forest).after ops)) := by
  have hf := sound_after ops
  refine ⟨fun q hq => ?_, fun hname => hf.load_of_not_binary files c.id ?_⟩
  · obtain ⟨hsearches, hid, hentry, -⟩ := hf.mem_asks_load hc hq
    exact ⟨hid, hentry, fun location _ hroot => staysBelow hsearches.binary hroot q.limit⟩
  · rcases hname with hname | ⟨part, hpart, hplain⟩
    · exact hname
    · exact Bool.eq_false_iff.mpr fun hname => hplain (isPlain_of_mem_fileNames hname hpart)

/-! ### A directory of classes -/

def classesLocation : Location := { text := "/classes", path := utf8 "/classes" }

def classesContext : Context :=
  { id := 1, ancestors := [], policy := {}, sources := [.ofLocation classesLocation], cache := [] }

def classesRun : List Operation := [.create none {} ["/classes"]]

/-- There is nothing in the directory. -/
def classesTree : FileTree := { items := [([utf8 "classes"], .directory)] }

theorem after_classesRun :
    ({} : Forest).after classesRun = { contexts := [classesContext] } := by
  have hparse : Location.parse "/classes" = .ok classesLocation := by decide +kernel
  simp [classesRun, perform, admits, create, sourceOf, hparse, bind, Except.bind, pure,
    Except.pure, nextId, classesContext]

theorem load_staysBelow_classes :
    classesContext ∈ (({} : Forest).after classesRun).contexts
      ∧ (({} : Forest).after classesRun).asks (.load classesTree classesContext.id "org.Driver")
          = [⟨1, 0, "org/Driver.class", 16777216⟩]
      ∧ classesTree.stat classesLocation.path = .ok .directory
      ∧ StaysBelow classesTree classesLocation "org.Driver" 16777216
      ∧ steps "org.Driver" = [utf8 "org", utf8 "Driver.class"]
      ∧ fileNames "../Driver" = [[], [], "/Driver.class".toList]
      ∧ (({} : Forest).after classesRun).load classesTree classesContext.id "../Driver"
          = (.failed (.classNotFound "../Driver" 0), ({} : Forest).after classesRun) := by
  have hmem : classesContext ∈ (({} : Forest).after classesRun).contexts := by
    simp [after_classesRun]
  have hasks : (({} : Forest).after classesRun).asks
      (.load classesTree classesContext.id "org.Driver")
        = [⟨1, 0, "org/Driver.class", 16777216⟩] := by
    rw [after_classesRun]
    decide +kernel
  have hroot : classesTree.stat classesLocation.path = .ok .directory := by decide +kernel
  have hplain : ¬ IsPlain "/Driver.class".toList := fun h => (h.clean '/' (by decide)).1 rfl
  have hnames : fileNames "../Driver" = [[], [], "/Driver.class".toList] := by decide +kernel
  refine ⟨hmem, hasks, hroot, ?_, by decide +kernel, hnames, ?_⟩
  · obtain ⟨-, -, hbelow⟩ := (load_staysBelow classesRun classesTree hmem "org.Driver").1
      ⟨1, 0, "org/Driver.class", 16777216⟩ (hasks ▸ List.mem_singleton_self _)
    exact hbelow classesLocation rfl hroot
  · refine (load_staysBelow classesRun classesTree hmem "../Driver").2 (.inr ⟨_, ?_, hplain⟩)
    rw [hnames]
    simp

end Forest

end DriverClasses.Loading
