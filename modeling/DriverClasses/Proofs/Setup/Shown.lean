import DriverClasses.Proofs.Setup.Account
import DriverClasses.Proofs.Setup.Omitted

/-!
# Path lists in reports

The log and the error of a load show a path list as one text, its entries with semicolons between
them.  That text is a path list with the same entries (`splitPathList_shownPaths`).  So it tells
which context of a host is meant, for no two of them are shown alike, and whoever gives it to the
host again gets to the same context (`shownPaths_identify`).
-/

namespace DriverClasses.Setup

open DriverClasses.Files DriverClasses.ClassFile DriverClasses.Loading DriverClasses.Registry
open DriverClasses.Location DriverClasses.Text

/-! ### The text -/

theorem toList_shownPaths (raw : String) :
    (shownPaths (splitPathList raw)).toList = join ';' (entries raw.toList) := by
  have hentries : (splitPathList raw).map String.toList = entries raw.toList := by
    simp [splitPathList]
  unfold shownPaths
  rw [String.toList_intercalate, hentries, join_eq_intercalate]
  rfl

theorem splitPathList_shownPaths (raw : String) :
    splitPathList (shownPaths (splitPathList raw)) = splitPathList raw := by
  unfold splitPathList
  exact congrArg _ ((congrArg entries (toList_shownPaths raw)).trans (entries_join raw.toList))

theorem splitPathList_inj {raw raw' : String}
    (h : shownPaths (splitPathList raw) = shownPaths (splitPathList raw')) :
    splitPathList raw = splitPathList raw' := by
  rw [← splitPathList_shownPaths raw, h, splitPathList_shownPaths]

/-- As the value of an option the text is read as it is. -/
theorem nonBlank?_shownPaths {raw : String} (h : splitPathList raw ≠ []) :
    nonBlank? (shownPaths (splitPathList raw)) = some (shownPaths (splitPathList raw)) := by
  have htrim : trim (shownPaths (splitPathList raw)) = shownPaths (splitPathList raw) := by
    rw [← String.toList_inj, trim, String.toList_ofList, toList_shownPaths, trimChars_join_entries]
  have hne : shownPaths (splitPathList raw) ≠ "" := fun hempty => by
    rw [← splitPathList_shownPaths, hempty] at h
    exact h (by decide)
  unfold nonBlank?
  simp [htrim, hne]

/-! ### Reports -/

/-- The report of a set-up shows a path list as this text. -/
inductive SetupReport.Shows (report : SetupReport) (text : String) : Prop
  | created {id : Nat} {paths : List String} : .contextCreated id paths ∈ report.events →
      text = shownPaths paths → Shows report text
  | unloaded {name : String} {paths : List String} {error : LoadError} :
      report.outcome = .failed (.load name paths error) → text = shownPaths paths →
      Shows report text

variable {factories : Factories} {policy : LinkPolicy} {files : FileTree} {options : DriverOptions}
  {d d' : Deployment} {id own : Nat} {paths other : List String} {events : List Event}

namespace Deployment

theorem created_of_contextFor (h : d.contextFor paths = .ok (id, events, d'))
    (hmem : .contextCreated own other ∈ events) : other = paths ∧ own = id := by
  obtain ⟨more, hmore, rfl⟩ := contextFor_events h
  obtain ⟨entry, hentry, heq⟩ := List.mem_map.mp hmem
  obtain ⟨rfl, rfl⟩ := Event.contextCreated.inj heq
  rcases contextFor_cases h with ⟨-, rfl⟩ | ⟨-, f, -, rfl⟩
  · rw [List.self_eq_append_right.mp hmore] at hentry
    cases hentry
  · rw [← List.append_cancel_left hmore, List.mem_singleton] at hentry
    rw [hentry]
    exact ⟨rfl, rfl⟩

theorem created_notMem_bindIn (files : FileTree) (options : DriverOptions) (d : Deployment)
    (id : Nat) : .contextCreated own other ∉ (d.bindIn files options id).2.1 := by
  unfold bindIn
  cases d.resident? id options.driverClass with
  | some found => simp
  | none =>
    simp only [loadAndEnlist]
    cases d.forest.load files id options.driverClass with
    | mk result f =>
      cases result with
      | crashed reason => simp
      | failed error => simp
      | loaded loaded =>
        simp only [enlist]
        cases instantiate _ loaded with
        | error fault => simp
        | ok made =>
          obtain ⟨driver, d'⟩ := made
          simp only [register]
          cases d'.manager.register driver <;> simp

/-- The context that a set-up reports as new is the one that the table has for its path list. -/
theorem created_of_setup
    (hmem : .contextCreated own other ∈ (d.setup files options).1.events) :
    other = options.paths ∧ options.paths ≠ []
      ∧ (d.setup files options).2.host.context? options.paths = some own := by
  simp only [setup, events_close] at hmem ⊢
  unfold Deployment.bind at hmem ⊢
  by_cases hpaths : options.paths = []
  · simp [hpaths, Outcome.warnings] at hmem
  · rw [if_neg hpaths] at hmem ⊢
    cases hfound : d.contextFor options.paths with
    | error error => simp [hfound, Outcome.warnings] at hmem
    | ok result =>
      obtain ⟨id, created, found⟩ := result
      simp only [hfound, List.mem_append, created_notMem_bindIn, or_false] at hmem ⊢
      rcases hmem with hmem | hmem
      · obtain ⟨rfl, rfl⟩ := created_of_contextFor hfound hmem
        exact ⟨rfl, hpaths, (ends_bindIn files options found own).grown.context?
          (context?_of_contextFor hfound)⟩
      · unfold Outcome.warnings at hmem
        split at hmem <;> simp at hmem

/-- A load that fails says so with the path list of the set-up. -/
theorem paths_of_unloaded {name : String} {error : LoadError}
    (h : (d.setup files options).1.outcome = .failed (.load name paths error)) :
    paths = options.paths ∧ options.paths ≠ [] := by
  have hgoes := goes_setup files options d
  rw [h] at hgoes
  generalize (d.setup files options).2 = e at hgoes
  cases hgoes with
  | refused hne => exact ⟨rfl, hne⟩
  | ended hne _ hends =>
    cases hends with
    | unloaded => exact ⟨rfl, hne⟩

end Deployment

open Deployment

/-! ### The law -/

/-- What can be done with a text that the report of a set-up shows. -/
structure Recalls (d : Deployment) (files : FileTree) (options : DriverOptions) (text : String) :
    Prop where
  /-- It splits into the locations of the set-up. -/
  split : splitPathList text = options.paths
  /-- Among the pairs of a server definition it is read as it is. -/
  pairs : ∀ name driverClass, nonBlank? name = some driverClass →
    DriverOptions.ofPairs [(OptionKey.driverPath.text, text), (OptionKey.driverClass.text, name)]
      = .ok { driverPath := text, driverClass }
  /-- A set-up with it does what one with the original path list does, here and elsewhere. -/
  bind : ∀ (files' : FileTree) (e : Deployment),
    e.bind files' { options with driverPath := text } = e.bind files' options
  /-- It leads to the context of the set-up from then on, and no other context is made. -/
  context : ∀ id, (d.setup files options).2.host.context? options.paths = some id →
    ∀ later d', (d.setup files options).2.Runs later d' →
      d'.contextFor (splitPathList text) = .ok (id, [], d')

theorem recalls_of_shows {text : String} (h : (d.setup files options).1.Shows text) :
    Recalls d files options text := by
  have hshown : text = shownPaths options.paths ∧ options.paths ≠ [] := by
    cases h with
    | created hmem htext =>
      obtain ⟨rfl, hne, -⟩ := created_of_setup hmem
      exact ⟨htext, hne⟩
    | unloaded houtcome htext =>
      obtain ⟨rfl, hne⟩ := paths_of_unloaded houtcome
      exact ⟨htext, hne⟩
  obtain ⟨rfl, hne⟩ := hshown
  have hsplit : splitPathList (shownPaths options.paths) = options.paths :=
    splitPathList_shownPaths options.driverPath
  refine ⟨hsplit, fun name driverClass hname => ?_, fun files' e => ?_,
    fun id hid later d' hrun => ?_⟩
  · have hvalue : nonBlank? (shownPaths options.paths) = some (shownPaths options.paths) :=
      nonBlank?_shownPaths hne
    simp [DriverOptions.ofPairs, lastValue?, OptionKey.text, hvalue, hname]
  · have hpaths : ({ options with driverPath := shownPaths options.paths } : DriverOptions).paths
        = options.paths := hsplit
    unfold Deployment.bind bindIn loadAndEnlist
    rw [hpaths]
  · have hfound := context?_of_prefix hrun.contexts hid
    rw [hsplit]
    exact contextFor_of_context? hfound

/-- How the texts that are shown for path lists tell the contexts of a host apart. -/
structure Identifies (factories : Factories) (policy : LinkPolicy) : Prop where
  /-- The entries of a path list, shown as one text, are a path list with the same entries. -/
  fixed : ∀ raw, splitPathList (shownPaths (splitPathList raw)) = splitPathList raw
  /-- Path lists with other entries are shown differently, -/
  injective : ∀ raw raw', shownPaths (splitPathList raw) = shownPaths (splitPathList raw') →
    splitPathList raw = splitPathList raw'
  /-- so the text for a context of the host is the text for this one alone. -/
  contexts : ∀ actions d, (Deployment.start factories policy).Runs actions d →
    ∀ entry ∈ d.host.contexts, splitPathList (shownPaths entry.1) = entry.1
      ∧ ∀ other ∈ d.host.contexts, shownPaths other.1 = shownPaths entry.1 → other = entry
  /-- A context is reported as new with the text that leads to it. -/
  created : ∀ (d : Deployment) files options id paths,
    .contextCreated id paths ∈ (d.setup files options).1.events →
      (d.setup files options).2.host.context? (splitPathList (shownPaths paths)) = some id
  /-- What a set-up reports can be given to the host again. -/
  recalled : ∀ (d : Deployment) files options text, (d.setup files options).1.Shows text →
    Recalls d files options text

theorem shownPaths_identify (factories : Factories) (policy : LinkPolicy) :
    Identifies factories policy where
  fixed := splitPathList_shownPaths
  injective _ _ h := splitPathList_inj h
  contexts actions d hrun entry hentry := by
    have hd := hrun.unmanned (.start factories policy)
    obtain ⟨raw, hraw⟩ := (hd.serves entry hentry).listed
    refine ⟨by rw [hraw, splitPathList_shownPaths], fun other hother hshown => ?_⟩
    obtain ⟨raw', hraw'⟩ := (hd.serves other hother).listed
    rw [hraw, hraw'] at hshown
    have hpaths : other.1 = entry.1 := by rw [hraw, hraw', splitPathList_inj hshown]
    exact List.inj_on_of_nodup_map hd.nodup_paths hother hentry hpaths
  created d files options id paths hmem := by
    obtain ⟨rfl, -, hid⟩ := created_of_setup hmem
    rw [DriverOptions.paths, splitPathList_shownPaths]
    exact hid
  recalled _ _ _ _ h := recalls_of_shows h

/-- A set-up that finds no class, and that nobody has asked for before. -/
def paddedSetup : SetupReport × Deployment :=
  (Deployment.start cellarFactories {}).setup {} { driverPath := " /a ;/a:", driverClass := "A" }

/-- It reports a new context, and the text of the report leads to that context. -/
theorem shownPaths_identify_padded :
    .contextCreated 1 ["/a"] ∈ paddedSetup.1.events
      ∧ paddedSetup.2.contextFor (splitPathList "/a") = .ok (1, [], paddedSetup.2) := by
  have hcreated : .contextCreated 1 ["/a"] ∈ paddedSetup.1.events := by decide +kernel
  have hshown : "/a" = shownPaths ["/a"] := by decide +kernel
  have hcontext : paddedSetup.2.host.context? (splitPathList " /a ;/a:") = some 1 := by
    decide +kernel
  refine ⟨hcreated, ?_⟩
  exact ((shownPaths_identify cellarFactories {}).recalled _ _ _ "/a"
    (.created hcreated hshown)).context 1 hcontext [] _ .start

example : shownPaths (splitPathList " lib ;;C:\\d: lib;s3://b:1 ") = "lib;C:\\d;s3://b:1" := by
  decide +kernel

end DriverClasses.Setup
