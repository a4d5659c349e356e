import DriverClasses.CommandLine.Basic
import DriverClasses.Proofs.Loading.Bare
import DriverClasses.Proofs.Setup.Account

/-!
# What a probe says of a set-up

A probe and a set-up each make a context for the path list, among other contexts and under another
id, and the set-up keeps its own in a table and looks for a class that is there already.  In a host
without contexts there is none, and both ask the same sources the same questions.  So what the probe
finds is what the set-up loads, whether or not it can make a driver of it, and where one of them
fails the other one fails for the same reason (`probe_agrees`).
-/

namespace DriverClasses.Setup

open DriverClasses.Files DriverClasses.Loading DriverClasses.Registry

/-! ### A set-up that loads its class -/

/-- A set-up in the context `id` that has loaded the class `h` comes to an end, and if it is not
with a driver of this class then that is not for want of the class. -/
structure Brings (id : Nat) (h : LoadedClass) (outcome : Outcome) : Prop where
  ended : ∀ reason, outcome ≠ .crashed reason
  loads : ∀ name paths error, outcome ≠ .failed (.load name paths error)
  binds : ∀ b, outcome = .bound b → b.contextId = id ∧ b.loadedClass = h

theorem Brings.bound {id : Nat} {h : LoadedClass} {b : Binding} (hid : b.contextId = id)
    (hclass : b.loadedClass = h) : Brings id h (.bound b) := by
  refine ⟨fun _ hcrashed => ?_, fun _ _ _ hfailed => ?_, fun other hother => ?_⟩
  · cases hcrashed
  · cases hfailed
  · obtain rfl := Outcome.bound.inj hother
    exact ⟨hid, hclass⟩

theorem Brings.unregistered (id : Nat) (h : LoadedClass) (fault : RegistryError) :
    Brings id h (.failed (.registry fault)) := by
  refine ⟨fun _ hcrashed => ?_, fun _ _ _ hfailed => ?_, fun _ hbound => ?_⟩
  · cases hcrashed
  · rw [Outcome.failed.injEq] at hfailed
    cases hfailed
  · cases hbound

theorem Ends.brings {files : FileTree} {options : DriverOptions} {d e : Deployment} {id : Nat}
    {outcome : Outcome} (hends : Ends files options d id outcome e)
    (hnone : d.resident? id options.driverClass = none) {h : LoadedClass} {f : Forest}
    (hload : d.forest.load files id options.driverClass = (.loaded h, f)) :
    Brings id h outcome ∧ e.host = d.host ∧ e.forest = f := by
  have hown : ∀ {k g}, d.forest.load files id options.driverClass = (.loaded k, g) →
      k = h ∧ g = f := by
    intro k g hk
    rw [hload, Prod.mk.injEq, LoadResult.loaded.injEq] at hk
    exact ⟨hk.1.symm, hk.2.symm⟩
  cases hends with
  | reused hresident =>
    rw [hnone] at hresident
    cases hresident
  | crashed _ hother | unloaded _ hother =>
    rw [hload] at hother
    cases hother
  | unmade _ hsame | astray _ hsame =>
    obtain ⟨rfl, rfl⟩ := hown hsame
    exact ⟨.unregistered id _ _, rfl, rfl⟩
  | registered _ hsame | outrun _ hsame =>
    obtain ⟨rfl, rfl⟩ := hown hsame
    exact ⟨.bound rfl rfl, rfl, rfl⟩

end DriverClasses.Setup

namespace DriverClasses.CommandLine

open DriverClasses.ClassFile DriverClasses.Files DriverClasses.Loading DriverClasses.Location
open DriverClasses.Registry DriverClasses.Setup

variable {files : FileTree} {policy : LinkPolicy} {sources : List ClassSource}
  {driverPath driverClass : String} {options : DriverOptions} {finding : Finding}
  {result : ProbeResult} {outcome : Outcome} {d e : Deployment}

/-! ### Probes -/

/-- The error that a probe shows, wherever it comes from. -/
def ProbeResult.error? : ProbeResult → Option LoadError
  | misplaced error | failed error => some error
  | found _ | crashed _ => none

/-- What a probe makes of its load. -/
def ProbeResult.ofLoad (locations : List String) : LoadResult → ProbeResult
  | .loaded loadedClass => .found { loadedClass, locations }
  | .failed error => .failed error
  | .crashed reason => .crashed reason

/-- The forest of a probe. -/
def probeForest (policy : LinkPolicy) (sources : List ClassSource) : Forest :=
  { contexts := [.bare 1 policy sources] }

theorem create_probeForest {raws : List String} (hsources : raws.mapM sourceOf = .ok sources) :
    ({} : Forest).create none policy raws = .ok (1, probeForest policy sources) :=
  Forest.create_of_sources hsources {} policy

theorem probe_of_refusal {error : LoadError}
    (hsources : (splitPathList driverPath).mapM sourceOf = .error error) :
    probe files policy driverPath driverClass = .misplaced error := by
  rw [probe, Forest.create_of_refusal hsources]

theorem probe_of_sources (hsources : (splitPathList driverPath).mapM sourceOf = .ok sources) :
    probe files policy driverPath driverClass
      = .ofLoad (sources.map (·.origin))
          ((probeForest policy sources).load files 1 driverClass).1 := by
  cases hload : (probeForest policy sources).load files 1 driverClass with
  | mk result g =>
    simp only [probe, create_probeForest hsources, hload]
    cases result with
    | loaded h =>
      have hc : (probeForest policy sources).context? 1 = some (.bare 1 policy sources) := rfl
      rw [Forest.context?_of_load_bare hc hload]
      rfl
    | failed error | crashed reason => rfl

/-- A probe gives up only where the policy admits entries that no buffer can hold. -/
theorem lt_of_probe_eq_crashed {reason : String}
    (h : probe files policy driverPath driverClass = .crashed reason) :
    largestBuffer < policy.maxEntryBytes := by
  cases hsources : (splitPathList driverPath).mapM sourceOf with
  | error error =>
    rw [probe_of_refusal hsources] at h
    cases h
  | ok sources =>
    rw [probe_of_sources hsources] at h
    have hreached : probeForest policy sources
        = ({} : Forest).after [.create none policy (splitPathList driverPath)] := by
      rw [Forest.after_cons, Forest.perform_create_none (create_probeForest hsources)]
      rfl
    have hsound := hreached ▸ Forest.sound_after [.create none policy (splitPathList driverPath)]
    have hlocated : (probeForest policy sources).Located := by
      intro c hc
      rw [List.mem_singleton.mp hc]
      exact Deployment.located_of_mapM hsources
    cases hload : (probeForest policy sources).load files 1 driverClass with
    | mk result g =>
      rw [hload] at h
      cases result with
      | loaded own | failed error => cases h
      | crashed own => exact hlocated.lt_of_crashed hsound rfl hload

/-! ### Probes and set-ups -/

/-- The members of a report that say nothing of other contexts. -/
def Finding.described (finding : Finding) : Report := finding.report.filter (·.1 ≠ "context_id")

/-- What a probe finds is the class `h`, which a set-up has left in the context of its path list. -/
structure Finding.Foretells (finding : Finding) (options : DriverOptions) (outcome : Outcome)
    (e : Deployment) (id : Nat) (c : Context) (h : LoadedClass) : Prop where
  made : e.host.context? options.paths = some id
  context : e.forest.context? id = some c
  cached : e.forest.cached? id options.driverClass = some h
  class_eq : finding.loadedClass.unmarked = h.unmarked
  locations_eq : finding.locations = c.locations
  described_eq : finding.described
    = { loadedClass := h, locations := c.locations : Finding }.described
  brings : Brings id h outcome

/-- The probe and the set-up of a path list and a class agree. -/
structure Agrees (options : DriverOptions) (result : ProbeResult) (outcome : Outcome)
    (e : Deployment) : Prop where
  found_iff : (∃ finding, result = .found finding)
    ↔ (∀ reason, outcome ≠ .crashed reason)
      ∧ ∀ name paths error, outcome ≠ .failed (.load name paths error)
  foretells : ∀ finding, result = .found finding →
    ∃ id c h, finding.Foretells options outcome e id c h
  error_iff : ∀ error, result.error? = some error
    ↔ outcome = .failed (.load options.driverClass options.paths error)
  crashed_iff : ∀ reason, result = .crashed reason ↔ outcome = .crashed reason

theorem described_congr {h : LoadedClass} {locations : List String}
    (hclass : finding.loadedClass.unmarked = h.unmarked)
    (hlocations : finding.locations = locations) :
    finding.described = { loadedClass := h, locations : Finding }.described := by
  obtain ⟨own, found⟩ := finding
  simp only [LoadedClass.unmarked, LoadedClass.mk.injEq] at hclass
  simp only at hlocations
  obtain ⟨-, hheader, horigin, hdigest, -⟩ := hclass
  simp [Finding.described, Finding.report, hheader, horigin, hdigest, hlocations]

theorem Agrees.failed {error : LoadError} (hresult : result.error? = some error) :
    Agrees options result (.failed (.load options.driverClass options.paths error)) e where
  found_iff := by
    refine iff_of_false ?_ fun h => h.2 _ _ _ rfl
    rintro ⟨finding, rfl⟩
    cases hresult
  foretells finding hfinding := by
    rw [hfinding] at hresult
    cases hresult
  error_iff other := by
    rw [hresult, Option.some.injEq, Outcome.failed.injEq, HostError.load.injEq]
    exact ⟨fun h => ⟨rfl, rfl, h⟩, fun h => h.2.2⟩
  crashed_iff reason := by
    refine iff_of_false ?_ fun h => nomatch h
    rintro rfl
    cases hresult

theorem Agrees.crashed (reason : String) :
    Agrees options (.crashed reason) (.crashed reason) e where
  found_iff := iff_of_false (fun ⟨_, h⟩ => nomatch h) fun h => h.1 reason rfl
  foretells _ h := nomatch h
  error_iff _ := iff_of_false (fun h => nomatch h) fun h => nomatch h
  crashed_iff other := by rw [ProbeResult.crashed.injEq, Outcome.crashed.injEq]

theorem Agrees.found {id : Nat} {c : Context} {h : LoadedClass}
    (hforetells : finding.Foretells options outcome e id c h) :
    Agrees options (.found finding) outcome e where
  found_iff := iff_of_true ⟨finding, rfl⟩ ⟨hforetells.brings.ended, hforetells.brings.loads⟩
  foretells other hother := by
    obtain rfl := ProbeResult.found.inj hother
    exact ⟨id, c, h, hforetells⟩
  error_iff error := iff_of_false (fun h => nomatch h) (hforetells.brings.loads _ _ error)
  crashed_iff reason := iff_of_false (fun h => nomatch h) (hforetells.brings.ended reason)

/-- A set-up in a context that has loaded nothing agrees with a probe whose load went alike. -/
theorem Agrees.ofLoads {id : Nat} (hmade : d.host.context? options.paths = some id)
    (hc : d.forest.context? id = some (.bare id policy sources))
    (hends : Ends files options d id outcome e) {probed : LoadResult}
    (halike : probed.unmarked = (d.forest.load files id options.driverClass).1.unmarked) :
    Agrees options (.ofLoad (sources.map (·.origin)) probed) outcome e := by
  have hnone : d.resident? id options.driverClass = none := by
    rw [Deployment.resident?, Forest.cached?_of_bare hc]
    rfl
  cases hload : d.forest.load files id options.driverClass with
  | mk result f =>
    rw [hload] at halike
    cases result with
    | loaded h =>
      obtain ⟨own, rfl, hclass⟩ := LoadResult.unmarked_eq_loaded_iff.mp halike
      obtain ⟨hbrings, hhost, rfl⟩ := hends.brings hnone hload
      have hleft := Forest.context?_of_load_bare hc hload
      have hcached : e.forest.cached? id options.driverClass = some h := by
        unfold Forest.cached?
        rw [hleft]
        exact List.lookup_cons_self
      exact .found ⟨by rw [hhost, hmade], hleft, hcached, hclass, rfl, described_congr hclass rfl,
        hbrings⟩
    | failed error =>
      obtain rfl := LoadResult.unmarked_eq_failed_iff.mp halike
      rw [← hends.bindIn_eq.1, (Ends.unloaded hnone hload).bindIn_eq.1]
      exact .failed rfl
    | crashed reason =>
      obtain rfl := LoadResult.unmarked_eq_crashed_iff.mp halike
      rw [← hends.bindIn_eq.1, (Ends.crashed hnone hload).bindIn_eq.1]
      exact .crashed reason

/-- A host without contexts agrees with a probe under its policy, whatever else there is. -/
theorem agrees_setup (files : FileTree) (options : DriverOptions) (d : Deployment)
    (hforest : d.forest.WellFormed) (hfresh : d.host.contexts = []) (hpaths : options.paths ≠ []) :
    Agrees options (probe files d.host.policy options.driverPath options.driverClass)
      (d.setup files options).1.outcome (d.setup files options).2 := by
  have hnone : d.host.context? options.paths = none := by
    rw [Host.context?, hfresh]
    rfl
  cases hsources : options.paths.mapM sourceOf with
  | error error =>
    have hcontext : d.contextFor options.paths = .error error := by
      simp [Deployment.contextFor, hnone, Forest.create_of_refusal hsources, Bind.bind, Except.bind]
    rw [(Goes.refused hpaths hcontext).setup_eq.1, probe_of_refusal hsources]
    exact .failed rfl
  | ok sources =>
    have hc := Forest.context?_append_bare hforest d.host.policy sources
    have hcontext : d.contextFor options.paths
        = .ok (d.forest.nextId, [.contextCreated d.forest.nextId options.paths],
          { d with
            host := { d.host with
              contexts := d.host.contexts ++ [(options.paths, d.forest.nextId)] }
            forest := { d.forest with
              contexts := d.forest.contexts ++ [.bare d.forest.nextId d.host.policy sources] } }) := by
      simp [Deployment.contextFor, hnone, Forest.create_of_sources hsources, Bind.bind, Except.bind,
        pure, Except.pure]
    have hgoes := (Goes.ended hpaths hcontext (ends_bindIn files options _ _)).setup_eq
    rw [hgoes.1, hgoes.2, probe_of_sources hsources]
    have hbare : (probeForest d.host.policy sources).context? 1
        = some (.bare 1 d.host.policy sources) := rfl
    exact .ofLoads (Deployment.context?_append _ hnone) hc (ends_bindIn files options _ _)
      (Forest.unmarked_load_eq hbare hc files options.driverClass)

/-- A probe agrees with the set-up of a host that has set up nothing before, among any contexts that
others have made and any drivers that are registered.  Neither gives up unless the policy admits
entries that no buffer can hold. -/
theorem probe_agrees (factories : Factories) (policy : LinkPolicy) (manager : Manager)
    (ops : List Operation) (files : FileTree) {driverPath : String} (driverClass : String)
    (hpaths : splitPathList driverPath ≠ []) {report : SetupReport} {e : Deployment}
    (hsetup : Deployment.setup files { driverPath, driverClass }
      { host := { factories, policy }, manager, forest := ({} : Forest).after ops } = (report, e)) :
    Agrees { driverPath, driverClass } (probe files policy driverPath driverClass) report.outcome e
      ∧ (policy.maxEntryBytes ≤ largestBuffer →
          ((∃ finding, probe files policy driverPath driverClass = .found finding)
            ↔ ∀ name paths error, report.outcome ≠ .failed (.load name paths error))) := by
  have hagrees := agrees_setup files { driverPath, driverClass }
    { host := { factories, policy }, manager, forest := ({} : Forest).after ops }
    (Forest.sound_after ops).wellFormed rfl hpaths
  rw [hsetup] at hagrees
  refine ⟨hagrees, fun hlimit => hagrees.found_iff.trans (and_iff_right fun reason hcrashed => ?_)⟩
  exact absurd (lt_of_probe_eq_crashed ((hagrees.crashed_iff reason).mpr hcrashed))
    (Nat.not_lt.mpr hlimit)

/-! ### A class without a factory -/

/-- What is found of the class `A` in the shed. -/
def shedFinding : Finding where
  loadedClass :=
    { serial := 0, header := Forest.leastHeader, origin := "/b"
      digest := Digest.sha256Hex Forest.leastClass, contextId := 1 }
  locations := ["/b"]

theorem probe_shed : probe shed {} "/b" "A" = .found shedFinding := by decide +kernel

/-- A host that can make no driver loads the class for all that. -/
theorem shedFinding_foretells :
    splitPathList "/b" ≠ [] ∧ probe shed {} "/b" "A" = .found shedFinding
      ∧ ∃ id c h, shedFinding.Foretells { driverPath := "/b", driverClass := "A" }
          ((Deployment.start {} {}).setup shed { driverPath := "/b", driverClass := "A" }).1.outcome
          ((Deployment.start {} {}).setup shed { driverPath := "/b", driverClass := "A" }).2 id c h := by
  have hpaths : splitPathList "/b" ≠ [] := by decide +kernel
  have hagrees := (probe_agrees {} {} {} [] shed "A" hpaths rfl).1
  exact ⟨hpaths, probe_shed, hagrees.foretells shedFinding probe_shed⟩

end DriverClasses.CommandLine
