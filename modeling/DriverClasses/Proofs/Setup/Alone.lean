import DriverClasses.Proofs.Loading.Alone
import DriverClasses.Proofs.Setup.Failures
import DriverClasses.Proofs.Setup.Steps

/-!
# A set-up that runs alone

`Deployment.setup` does at one go what a set-up does in its steps while the others rest: it returns
the same outcome and leaves the same deployment, and the pending loads are those of before
(`exists_setup_alone`).  Each part of the work is followed from the stage it begins at
(`EndsAlone`), the load among them through the steps of a call that is alone (`reaches_ofLoad`).

So set-ups one after the other are one of the ways in which set-ups run at once, and what is said of
all runs of a machine holds of them (`exists_runs_after`).
-/

namespace DriverClasses.Setup

open DriverClasses.Files DriverClasses.ClassFile DriverClasses.Loading DriverClasses.Registry

/-- One step of a set-up that is alone. -/
def stepSetupAlone (files : FileTree) (options : DriverOptions) (state : SetupStage × SetupShared) :
    SetupStage × SetupShared :=
  stepSetup files options state.2 state.1

namespace SetupMachine

variable {m : SetupMachine} {i : Nat} {options : DriverOptions} {before : SetupStage}

theorem advance_self (hat : m.At i options before) : m.advance i options before m.shared = m := by
  unfold advance
  rw [set_of_getElem? hat]

theorem step_advance (hat : m.At i options before) (files : FileTree)
    (state : SetupStage × SetupShared) :
    (m.advance i options state.1 state.2).step files i
      = m.advance i options (stepSetupAlone files options state).1
          (stepSetupAlone files options state).2 := by
  have hself : (m.advance i options state.1 state.2).At i options state.1 :=
    (at_advance hat state.1 state.2).mpr (.inl ⟨rfl, rfl, rfl⟩)
  unfold At at hself
  simp only [step, hself]
  simp only [advance, stepSetupAlone, List.set_set]

/-- A set-up that alone takes steps goes where these lead it. -/
theorem run_alone (hat : m.At i options before) (files : FileTree) (steps : Nat)
    (state : SetupStage × SetupShared) :
    (m.advance i options state.1 state.2).run files (List.replicate steps i)
      = m.advance i options ((stepSetupAlone files options)^[steps] state).1
          ((stepSetupAlone files options)^[steps] state).2 := by
  unfold run
  exact foldl_replicate (fun state => m.advance i options state.1 state.2)
    (step_advance hat files) steps state

end SetupMachine

section EndsAlone

variable (files : FileTree) (options : DriverOptions)

/-- The set-up goes along with the load it waits for, to the stage that follows its result. -/
theorem reaches_ofLoad {id : Nat} {result : LoadResult} {shared : Shared} (steps : Nat) :
    ∀ (stage : Stage) (s : SetupShared),
      (stepAlone files id options.driverClass)^[steps] (stage, s.loads)
        = (.returned result, shared) →
      Reaches (stepSetupAlone files options) (.loading id stage, s)
        (.ofLoad options id result, s.withLoads shared) := by
  induction steps with
  | zero =>
    intro stage s h
    rw [Function.iterate_zero_apply, Prod.mk.injEq] at h
    obtain ⟨rfl, rfl⟩ := h
    exact .head (.refl _ _)
  | succ steps ih =>
    intro stage s h
    rw [Function.iterate_succ_apply] at h
    refine .head ?_
    simp only [stepSetupAlone, stepSetup]
    simp only [stepAlone] at h
    cases hstep : stepCall files id options.driverClass s.loads stage with
    | mk stage' shared' =>
      rw [hstep] at h
      cases stage' with
      | returned result' =>
        -- a call that has returned stays so, whatever steps are left
        rw [Function.iterate_fixed rfl, Prod.mk.injEq, Stage.returned.injEq] at h
        obtain ⟨rfl, rfl⟩ := h
        exact .refl _ _
      | _ => exact ih _ (s.withLoads shared') h

/-- A set-up that is alone ends, from this stage on, as a part of the work does, and leaves these
loads pending. -/
def EndsAlone (inFlight : List ((Nat × String) × Nat)) (stage : SetupStage) (s : SetupShared)
    (work : Outcome × List Event × Deployment) : Prop :=
  ∃ announced, Reaches (stepSetupAlone files options) (stage, s)
    (.returned work.1, { deployment := work.2.2, inFlight, announced })

variable {files options} {inFlight : List ((Nat × String) × Nat)}
  {announced : List (Option Announcement)}

theorem EndsAlone.head {stage : SetupStage} {s : SetupShared}
    {work : Outcome × List Event × Deployment}
    (h : EndsAlone files options inFlight (stepSetup files options s stage).1
      (stepSetup files options s stage).2 work) :
    EndsAlone files options inFlight stage s work := by
  obtain ⟨announced, hreaches⟩ := h
  exact ⟨announced, .head hreaches⟩

theorem endsAlone_returned {d : Deployment} {outcome : Outcome} {events : List Event} :
    EndsAlone files options inFlight (.returned outcome) { deployment := d, inFlight, announced }
      (outcome, events, d) :=
  ⟨announced, .refl _ _⟩

theorem endsAlone_register (d : Deployment) (id : Nat) (loaded : LoadedClass) (driver : Driver) :
    EndsAlone files options inFlight (.registering id loaded driver)
      { deployment := d, inFlight, announced } (d.register id loaded driver) := by
  refine .head ?_
  simp only [stepSetup, Deployment.register]
  cases d.manager.register driver with
  | ok manager => exact endsAlone_returned
  | error error => exact .head endsAlone_returned

theorem endsAlone_enlist (d : Deployment) (id : Nat) (loaded : LoadedClass) :
    EndsAlone files options inFlight (.making id loaded) { deployment := d, inFlight, announced }
      (d.enlist id loaded) := by
  refine .head ?_
  simp only [stepSetup, Deployment.enlist]
  cases d.instantiate loaded with
  | error error => exact endsAlone_returned
  | ok made => exact endsAlone_register made.2 id loaded made.1

theorem endsAlone_loadAndEnlist (hfree : ∀ id, inFlight.lookup (id, options.driverClass) = none)
    (d : Deployment) (id : Nat) :
    EndsAlone files options inFlight (.loading id .checkCache)
      { deployment := d, inFlight, announced } (d.loadAndEnlist files options id) := by
  obtain ⟨loads, steps, hload⟩ :=
    reaches_load (s := { forest := d.forest, inFlight, announced }) files (hfree id)
  have hreaches := reaches_ofLoad files options steps .checkCache
    { deployment := d, inFlight, announced } hload
  have hends : EndsAlone files options inFlight
      (.ofLoad options id (d.forest.load files id options.driverClass).1)
      { deployment := { d with forest := (d.forest.load files id options.driverClass).2 }
        inFlight, announced := loads } (d.loadAndEnlist files options id) := by
    unfold Deployment.loadAndEnlist
    cases d.forest.load files id options.driverClass with
    | mk result f =>
      cases result with
      | loaded loaded => exact endsAlone_enlist _ id loaded
      | failed error => exact endsAlone_returned
      | crashed reason => exact endsAlone_returned
  obtain ⟨announced, hends⟩ := hends
  exact ⟨announced, hreaches.trans hends⟩

theorem endsAlone_bindIn (hfree : ∀ id, inFlight.lookup (id, options.driverClass) = none)
    (d : Deployment) (id : Nat) :
    EndsAlone files options inFlight (.checkResident id) { deployment := d, inFlight, announced }
      (d.bindIn files options id) := by
  refine .head ?_
  simp only [stepSetup, Deployment.bindIn, Deployment.resident?]
  cases d.forest.cached? id options.driverClass with
  | none => exact endsAlone_loadAndEnlist hfree d id
  | some loaded =>
    refine .head ?_
    simp only [stepSetup]
    cases hdriver : d.manager.forClass? loaded with
    | none => simpa [hdriver] using endsAlone_loadAndEnlist hfree d id
    | some driver => simpa [hdriver] using endsAlone_returned

theorem endsAlone_bind (hfree : ∀ id, inFlight.lookup (id, options.driverClass) = none)
    (d : Deployment) :
    EndsAlone files options inFlight .findContext { deployment := d, inFlight, announced }
      (d.bind files options) := by
  refine .head ?_
  unfold Deployment.bind
  by_cases hpaths : options.paths = []
  · simp only [stepSetup, if_pos hpaths]
    exact endsAlone_returned
  · simp only [stepSetup, if_neg hpaths]
    cases d.contextFor options.paths with
    | error error => exact endsAlone_returned
    | ok found =>
      obtain ⟨id, created, d⟩ := found
      exact endsAlone_bindIn hfree d id

end EndsAlone

/-- A set-up that takes all its steps while the others rest, and while no load of its class is
pending, returns the outcome that `setup` reports and leaves the deployment that `setup` leaves. -/
theorem exists_setup_alone {m : SetupMachine} {i : Nat} {options : DriverOptions}
    (hat : m.At i options .findContext)
    (hfree : ∀ id, m.shared.inFlight.lookup (id, options.driverClass) = none) (files : FileTree) :
    ∃ bound announced, ∀ steps, bound ≤ steps →
      m.run files (List.replicate steps i)
        = m.advance i options (.returned (m.shared.deployment.setup files options).1.outcome)
            { m.shared with
              deployment := (m.shared.deployment.setup files options).2, announced } := by
  obtain ⟨announced, hreaches⟩ : EndsAlone files options m.shared.inFlight .findContext m.shared
      (m.shared.deployment.bind files options) := endsAlone_bind hfree m.shared.deployment
  obtain ⟨bound, hbound⟩ := hreaches.stays rfl
  refine ⟨bound, announced, fun steps hle => ?_⟩
  have hrun := SetupMachine.run_alone hat files steps (.findContext, m.shared)
  rw [hbound steps hle, SetupMachine.advance_self hat] at hrun
  simp only [Deployment.setup, Deployment.outcome_close]
  exact hrun

namespace SetupMachine

/-- Set-ups that have ended so. -/
def ended (calls : List Call) (outcomes : List Outcome) : List SetupCall :=
  calls.zipWith (fun call outcome => { options := call.options, stage := .returned outcome })
    outcomes

/-- Behind set-ups that have ended, others are run one after the other. -/
theorem exists_runs_ended {m₀ : SetupMachine} :
    ∀ (calls : List Call) (before : List SetupCall) (d : Deployment)
      (announced : List (Option Announcement)),
      m₀.Runs { calls := before ++ calls.map fun call => { options := call.options }
                shared := { deployment := d, announced } } →
      ∃ announced, m₀.Runs { calls := before ++ ended calls (d.outcomes calls)
                             shared := { deployment := d.after calls, announced } }
  | [], _, _, announced, hrun => ⟨announced, hrun⟩
  | call :: calls, before, d, announced, hrun => by
    have hat : At { calls := before ++ (call :: calls).map fun call => { options := call.options }
                    shared := { deployment := d, announced } }
        before.length call.options .findContext := by
      simp [At]
    obtain ⟨bound, told, hsteps⟩ := exists_setup_alone hat (fun _ => rfl) call.files
    have hnext := hrun.run call.files (List.replicate bound before.length)
    rw [hsteps bound (Nat.le_refl bound)] at hnext
    simp only [advance, List.map_cons, List.set_append_right _ _ (Nat.le_refl _), Nat.sub_self,
      List.set_cons_zero] at hnext
    rw [List.append_cons] at hnext
    obtain ⟨announced, hends⟩ := exists_runs_ended calls _ _ told hnext
    rw [List.append_assoc] at hends
    exact ⟨announced, hends⟩

end SetupMachine

/-- Set-ups one after the other, at files that may change between them, are a run of the machine. -/
theorem exists_runs_after (d : Deployment) (calls : List Call) :
    ∃ announced, (SetupMachine.start d (calls.map (·.options))).Runs
      { calls := SetupMachine.ended calls (d.outcomes calls)
        shared := { deployment := d.after calls, announced } } := by
  refine SetupMachine.exists_runs_ended calls [] d [] ?_
  have hstart : SetupMachine.start d (calls.map (·.options))
      = { calls := calls.map fun call => { options := call.options }
          shared := { deployment := d } } := by
    simp [SetupMachine.start]
  rw [hstart]
  exact .start

end DriverClasses.Setup
