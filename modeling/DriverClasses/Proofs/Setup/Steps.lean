import DriverClasses.Proofs.Loading.Gathered
import DriverClasses.Proofs.Setup.Endings
import DriverClasses.Setup.Interleaving

/-!
# Steps of set-ups that run at once

A run gives steps to the set-ups of a machine in any order, and the files may be others at each of
them.  `Did` says all that one step can do to the stage of a set-up and to what they share, and
`did_stepSetup` that it does nothing else.  Whatever it does, the deployment has only grown
(`Did.grown`).
-/

namespace DriverClasses.Setup

open DriverClasses.Files DriverClasses.ClassFile DriverClasses.Loading DriverClasses.Registry
open DriverClasses.Location

/-- What one step of a set-up can do. -/
inductive Did (files : FileTree) (options : DriverOptions) (s : SetupShared) :
    SetupStage → SetupStage → SetupShared → Prop
  | still (outcome : Outcome) : Did files options s (.returned outcome) (.returned outcome) s
  | unusable {error : HostError} :
      (∀ fault, error ≠ .registry fault) →
      Did files options s .findContext (.returned (.failed error)) s
  | found {id : Nat} :
      s.deployment.host.context? options.paths = some id →
      Did files options s .findContext (.checkResident id) s
  | opened {id : Nat} {f : Forest} :
      options.paths ≠ [] → s.deployment.host.context? options.paths = none →
      s.deployment.forest.create none s.deployment.host.policy options.paths = .ok (id, f) →
      Did files options s .findContext (.checkResident id)
        { s with deployment := { s.deployment with
          host := { s.deployment.host with
            contexts := s.deployment.host.contexts ++ [(options.paths, id)] }
          forest := f } }
  | resident {id : Nat} {h : LoadedClass} :
      s.deployment.forest.cached? id options.driverClass = some h →
      Did files options s (.checkResident id) (.findDriver id h) s
  | absent (id : Nat) : Did files options s (.checkResident id) (.loading id .checkCache) s
  | reused {id : Nat} {h : LoadedClass} {driver : Driver} :
      s.deployment.manager.forClass? h = some driver →
      Did files options s (.findDriver id h)
        (.returned (.bound { contextId := id, loadedClass := h, driver, reused := true })) s
  | driverless (id : Nat) (h : LoadedClass) :
      Did files options s (.findDriver id h) (.loading id .checkCache) s
  | loading {id : Nat} {stage : Stage} :
      Did files options s (.loading id stage)
        (.loading id (stepCall files id options.driverClass s.loads stage).1)
        (s.withLoads (stepCall files id options.driverClass s.loads stage).2)
  | loaded {id : Nat} {stage : Stage} {h : LoadedClass} :
      (stepCall files id options.driverClass s.loads stage).1 = .returned (.loaded h) →
      Did files options s (.loading id stage) (.making id h)
        (s.withLoads (stepCall files id options.driverClass s.loads stage).2)
  | unloaded {id : Nat} {stage : Stage} {result : LoadResult} {outcome : Outcome} :
      (stepCall files id options.driverClass s.loads stage).1 = .returned result →
      outcome.contextId? = none → (∀ fault, outcome ≠ .failed (.registry fault)) →
      Did files options s (.loading id stage) (.returned outcome)
        (s.withLoads (stepCall files id options.driverClass s.loads stage).2)
  | unmade {id : Nat} {h : LoadedClass} {fault : RegistryError} :
      s.deployment.host.factories.instantiate h = .error fault →
      Did files options s (.making id h) (.returned (.failed (.registry fault))) s
  | made {id : Nat} {h : LoadedClass} {blueprint : Blueprint} :
      s.deployment.host.factories.instantiate h = .ok blueprint →
      Did files options s (.making id h)
        (.registering id h { blueprint with serial := s.deployment.made })
        { s with deployment := { s.deployment with made := s.deployment.made + 1 } }
  | registered {id : Nat} {h : LoadedClass} {driver : Driver} :
      s.deployment.manager.forClass? driver.loadedClass = none →
      Did files options s (.registering id h driver)
        (.returned (.bound { contextId := id, loadedClass := h, driver, reused := false }))
        { s with deployment := { s.deployment with
          manager := { drivers := s.deployment.manager.drivers ++ [driver] } } }
  | refused {id : Nat} {h : LoadedClass} {driver other : Driver} :
      s.deployment.manager.forClass? driver.loadedClass = some other →
      Did files options s (.registering id h driver)
        (.settling id h
          (.alreadyRegistered driver.name driver.loadedClass.contextId)) s
  | settled (id : Nat) (h : LoadedClass) (error : RegistryError) :
      Did files options s (.settling id h error) (.returned (s.deployment.settle id h error)) s

theorem did_findContext (files : FileTree) (options : DriverOptions) (s : SetupShared) :
    Did files options s .findContext (stepSetup files options s .findContext).1
      (stepSetup files options s .findContext).2 := by
  by_cases hpaths : options.paths = []
  · simp only [stepSetup, if_pos hpaths]
    exact .unusable (by simp)
  · simp only [stepSetup, if_neg hpaths]
    cases hfound : s.deployment.contextFor options.paths with
    | error error => exact .unusable (by simp)
    | ok result =>
      obtain ⟨id, created, d⟩ := result
      rcases Deployment.contextFor_cases hfound with ⟨hid, rfl⟩ | ⟨hnone, f, hcreate, rfl⟩
      · exact .found hid
      · exact .opened hpaths hnone hcreate

theorem did_loading (files : FileTree) (options : DriverOptions) (s : SetupShared) (id : Nat)
    (stage : Stage) :
    Did files options s (.loading id stage) (stepSetup files options s (.loading id stage)).1
      (stepSetup files options s (.loading id stage)).2 := by
  have hstays : Did files options s (.loading id stage)
      (.loading id (stepCall files id options.driverClass s.loads stage).1)
      (s.withLoads (stepCall files id options.driverClass s.loads stage).2) := .loading
  have hreturned : ∀ {result}, (stepCall files id options.driverClass s.loads stage).1
      = .returned result → Did files options s (.loading id stage)
        (.ofLoad options id result)
        (s.withLoads (stepCall files id options.driverClass s.loads stage).2) := by
    intro result hresult
    cases result with
    | loaded h => exact .loaded hresult
    | failed error => exact .unloaded hresult rfl (by simp)
    | crashed reason => exact .unloaded hresult rfl (by simp)
  simp only [stepSetup]
  cases hafter : (stepCall files id options.driverClass s.loads stage).1 with
  | returned result => exact hreturned hafter
  | _ =>
    rw [hafter] at hstays
    exact hstays

theorem did_stepSetup (files : FileTree) (options : DriverOptions) (s : SetupShared)
    (stage : SetupStage) :
    Did files options s stage (stepSetup files options s stage).1
      (stepSetup files options s stage).2 := by
  cases stage with
  | findContext => exact did_findContext files options s
  | checkResident id =>
    cases hcached : s.deployment.forest.cached? id options.driverClass with
    | none => simp only [stepSetup, hcached]; exact .absent id
    | some h => simp only [stepSetup, hcached]; exact .resident hcached
  | findDriver id h =>
    cases hdriver : s.deployment.manager.forClass? h with
    | none => simp only [stepSetup, hdriver]; exact .driverless id h
    | some driver => simp only [stepSetup, hdriver]; exact .reused hdriver
  | loading id stage => exact did_loading files options s id stage
  | making id h =>
    simp only [stepSetup, Deployment.instantiate]
    cases hmade : s.deployment.host.factories.instantiate h with
    | error fault => exact .unmade hmade
    | ok blueprint => exact .made hmade
  | registering id h driver =>
    simp only [stepSetup, Manager.register]
    cases hother : s.deployment.manager.forClass? driver.loadedClass with
    | none => exact .registered hother
    | some other => exact .refused hother
  | settling id h error => exact .settled id h error
  | returned outcome => exact .still outcome

variable {files : FileTree} {options : DriverOptions} {s s' : SetupShared}
  {before after : SetupStage}

open Deployment in
theorem Did.grown (h : Did files options s before after s') :
    s.deployment.Grown s'.deployment := by
  cases h with
  | opened _ _ hcreate => exact .created hcreate
  | @loading id stage =>
    exact ⟨rfl, rfl, List.prefix_rfl, Forest.extends_stepCall _ _ _ s.loads stage,
      List.prefix_rfl, Nat.le_refl _⟩
  | @loaded id stage =>
    exact ⟨rfl, rfl, List.prefix_rfl, Forest.extends_stepCall _ _ _ s.loads stage,
      List.prefix_rfl, Nat.le_refl _⟩
  | @unloaded id stage =>
    exact ⟨rfl, rfl, List.prefix_rfl, Forest.extends_stepCall _ _ _ s.loads stage,
      List.prefix_rfl, Nat.le_refl _⟩
  | made => exact ⟨rfl, rfl, List.prefix_rfl, .refl _, List.prefix_rfl, Nat.le_succ _⟩
  | registered =>
    exact ⟨rfl, rfl, List.prefix_rfl, .refl _, List.prefix_append _ _, Nat.le_refl _⟩
  | _ => exact .refl _

namespace SetupMachine

/-- The call of this number sets these options up, and has come to this stage. -/
def At (m : SetupMachine) (i : Nat) (options : DriverOptions) (stage : SetupStage) : Prop :=
  m.calls[i]? = some { options, stage }

/-- Set-ups of these options, none of which has taken a step. -/
def start (d : Deployment) (options : List DriverOptions) : SetupMachine :=
  { calls := options.map fun options => { options }, shared := { deployment := d } }

/-- The machines that are reached from one. -/
inductive Runs (m₀ : SetupMachine) : SetupMachine → Prop
  | start : Runs m₀ m₀
  | step {m : SetupMachine} (files : FileTree) (i : Nat) : Runs m₀ m → Runs m₀ (m.step files i)

/-- A set-up has come to a stage, and what is shared has changed. -/
def advance (m : SetupMachine) (i : Nat) (options : DriverOptions) (stage : SetupStage)
    (shared : SetupShared) : SetupMachine :=
  { calls := m.calls.set i { options, stage }, shared }

variable {m m₀ : SetupMachine} {i j : Nat} {options' : DriverOptions} {stage stage' : SetupStage}

theorem At.unique (h : m.At i options stage) (h' : m.At i options' stage') :
    options' = options ∧ stage' = stage := by
  unfold At at h h'
  rw [h, Option.some.injEq, SetupCall.mk.injEq] at h'
  exact ⟨h'.1.symm, h'.2.symm⟩

theorem stage_of_at_start {d : Deployment} {calls : List DriverOptions}
    (h : (start d calls).At i options stage) : stage = .findContext := by
  unfold At start at h
  rw [List.getElem?_map, Option.map_eq_some_iff] at h
  obtain ⟨own, -, hown⟩ := h
  rw [SetupCall.mk.injEq] at hown
  exact hown.2.symm

theorem at_advance (h : m.At i options before) (after : SetupStage) (s : SetupShared) :
    (m.advance i options after s).At j options' stage
      ↔ j = i ∧ options' = options ∧ stage = after ∨ j ≠ i ∧ m.At j options' stage := by
  unfold At at h
  unfold At advance
  rw [Machine.getElem?_set_eq_some_iff h, SetupCall.mk.injEq]

/-- What the steps of the set-ups keep, runs keep. -/
theorem Runs.invariant {P : SetupMachine → Prop} (start : P m₀)
    (step : ∀ {m i files options before after s}, P m → m.At i options before →
      Did files options m.shared before after s → P (m.advance i options after s))
    (hrun : m₀.Runs m) : P m := by
  induction hrun with
  | start => exact start
  | @step m files i _ ih =>
    unfold SetupMachine.step
    cases hcall : m.calls[i]? with
    | none => exact ih
    | some call => exact step ih hcall (did_stepSetup files call.options m.shared call.stage)

theorem Runs.run (hm : m₀.Runs m) (files : FileTree) (schedule : List Nat) :
    m₀.Runs (m.run files schedule) := by
  induction schedule generalizing m with
  | nil => exact hm
  | cons i schedule ih => exact ih (hm.step files i)

end SetupMachine

end DriverClasses.Setup
