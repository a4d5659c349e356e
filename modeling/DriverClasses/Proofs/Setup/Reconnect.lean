import DriverClasses.Proofs.Setup.Endings

/-!
# Setting a driver up again

A set-up that has succeeded leaves its class in the context of its path list, and the class stays
there.  So a later set-up of the same path list and class finds it without a question to a source,
and as long as nobody takes the driver out of the manager it finds that too and changes nothing.
If the driver was taken out, a new one is made of the class and comes behind the others
(`reconnect_of_runs`).
-/

namespace DriverClasses.Setup

open DriverClasses.Files DriverClasses.ClassFile DriverClasses.Loading DriverClasses.Registry
open DriverClasses.Location

namespace Deployment

variable {factories : Factories} {policy : LinkPolicy} {d d' : Deployment} {h : LoadedClass}
  {driver : Driver}

/-- The deployment with other factories. -/
def withFactories (d : Deployment) (factories : Factories) : Deployment :=
  { d with host := { d.host with factories } }

theorem withFactories_of_eq (h : d.host.factories = factories) : d.withFactories factories = d := by
  rw [← h]
  rfl

/-! ### A set-up whose class is there -/

theorem setup_eq {options : DriverOptions} {id : Nat} {outcome : Outcome} {events : List Event}
    {e : Deployment} (hpaths : options.paths ≠ [])
    (hid : d.host.context? options.paths = some id) {files : FileTree}
    (hbind : d.bindIn files options id = (outcome, events, e)) :
    d.setup files options = (.close options outcome events, e) := by
  unfold setup bind
  rw [if_neg hpaths, contextFor_of_context? hid]
  simp only [hbind, List.nil_append]

/-- A driver that is registered for the class is handed out, whatever the factories. -/
theorem setup_of_registered {options : DriverOptions} {id : Nat} (hpaths : options.paths ≠ [])
    (hid : d.host.context? options.paths = some id)
    (hcached : d.forest.cached? id options.driverClass = some h)
    (hdriver : d.manager.forClass? h = some driver) (files : FileTree) (factories : Factories) :
    (d.withFactories factories).setup files options
      = (.close options (.bound { contextId := id, loadedClass := h, driver, reused := true })
          [.driverReused options.driverClass id], d.withFactories factories) := by
  have hresident : (d.withFactories factories).resident? id options.driverClass
      = some (h, driver) := resident?_eq_some_iff.mpr ⟨hcached, hdriver⟩
  have hfound : (d.withFactories factories).host.context? options.paths = some id := hid
  refine setup_eq hpaths hfound ?_
  unfold bindIn
  rw [hresident]

theorem bindIn_of_unregistered {options : DriverOptions} {id : Nat}
    (hcached : d.forest.cached? id options.driverClass = some h)
    (hnone : d.manager.forClass? h = none) (files : FileTree) :
    d.bindIn files options id = d.enlist id h := by
  have hresident : d.resident? id options.driverClass = none := by
    rw [resident?_eq_none_iff]
    intro own hown
    rw [hcached, Option.some.injEq] at hown
    rw [← hown, hnone]
  have hload := Forest.load_of_resident (Forest.resident?_of_cached? hcached) files
  simp only [bindIn, hresident, loadAndEnlist, hload]

/-- Without a driver for the class, the factory decides. -/
theorem setup_of_unmade {options : DriverOptions} {id : Nat} (hpaths : options.paths ≠ [])
    (hid : d.host.context? options.paths = some id)
    (hcached : d.forest.cached? id options.driverClass = some h)
    (hnone : d.manager.forClass? h = none) {fault : RegistryError}
    (hmade : d.host.factories.instantiate h = .error fault) (files : FileTree) :
    d.setup files options = (.close options (.failed (.registry fault)) [], d) := by
  refine setup_eq hpaths hid ?_
  rw [bindIn_of_unregistered hcached hnone]
  simp only [enlist, instantiate, hmade, Bind.bind, Except.bind]

theorem setup_of_made {options : DriverOptions} {id : Nat} (hpaths : options.paths ≠ [])
    (hid : d.host.context? options.paths = some id)
    (hcached : d.forest.cached? id options.driverClass = some h)
    (hnone : d.manager.forClass? h = none) {blueprint : Blueprint}
    (hmade : d.host.factories.instantiate h = .ok blueprint)
    (hclass : blueprint.loadedClass = h) (files : FileTree) :
    d.setup files options
      = (.close options
          (.bound
            { contextId := id, loadedClass := h, driver := { blueprint with serial := d.made }
              reused := false })
          [.driverRegistered h.name h.contextId, .driverLoaded h.name h.origin h.digest id],
        { d with
          manager := { drivers := d.manager.drivers ++ [{ blueprint with serial := d.made }] }
          made := d.made + 1 }) := by
  refine setup_eq hpaths hid ?_
  have hregister : d.manager.register { blueprint with serial := d.made }
      = .ok { drivers := d.manager.drivers ++ [{ blueprint with serial := d.made }] } :=
    Manager.register_of_forClass?_eq_none (by rw [hclass, hnone])
  rw [bindIn_of_unregistered hcached hnone]
  simp only [enlist, instantiate, hmade, Bind.bind, Except.bind, pure, Except.pure, register,
    hregister, Driver.name, hclass]

/-! ### What stays until then -/

theorem extends_act (d : Deployment) (action : Action) :
    d.forest.Extends (d.act action).forest := by
  cases action with
  | setup files options => exact (goes_setup files options d).grown.forest
  | register driver =>
    cases hregister : d.manager.register driver <;> simp only [act, hregister] <;>
      exact .refl d.forest
  | deregister loaded => exact .refl d.forest
  | operate op => exact d.forest.extends_perform op

theorem Runs.extends {actions : List Action} (hrun : d.Runs actions d') :
    d.forest.Extends d'.forest := by
  induction hrun with
  | start => exact .refl d.forest
  | act _ _ ih => exact ih.trans (extends_act _ _)

/-- Only who deregisters a class takes its driver out. -/
theorem forClass?_act {action : Action}
    (hkept : ∀ own, action = .deregister own → own.serial ≠ h.serial)
    (hdriver : d.manager.forClass? h = some driver) :
    (d.act action).manager.forClass? h = some driver := by
  cases action with
  | setup files options => exact (goes_setup files options d).grown.forClass? hdriver
  | register other =>
    cases hregister : d.manager.register other with
    | error error =>
      simp only [act, hregister]
      exact hdriver
    | ok manager =>
      obtain ⟨-, rfl⟩ := Manager.register_eq_ok_iff.mp hregister
      simp only [act, hregister]
      unfold Manager.forClass? at hdriver ⊢
      rw [List.find?_append, hdriver, Option.some_or]
  | deregister own =>
    exact (d.manager.forClass?_deregister_of_ne (hkept own rfl)).trans hdriver
  | operate op => exact hdriver

theorem Runs.forClass? {actions : List Action} (hrun : d.Runs actions d')
    (hkept : ∀ own, .deregister own ∈ actions → own.serial ≠ h.serial)
    (hdriver : d.manager.forClass? h = some driver) : d'.manager.forClass? h = some driver := by
  induction hrun with
  | start => exact hdriver
  | act _ _ ih =>
    refine forClass?_act (fun own hown => hkept own ?_)
      (ih fun own hown => hkept own (List.mem_append_left _ hown))
    exact List.mem_append_right _ (List.mem_singleton.mpr hown.symm)

/-! ### The law -/

/-- A set-up of a path list and a class that were set up before, whatever has happened to the host
since.  As long as nobody has deregistered the class, it hands out what it handed out then, as
something reused, and changes nothing; nor have the factories a say in it.  If there is no driver
for the class any more, the context and the class are still those, no source is asked, and the
factory for the class decides: either it fails, and that is how the set-up ends, or the driver that
it makes comes behind all others of the manager and is handed out. -/
theorem reconnect_of_runs (hfaithful : Faithful factories) {actions later : List Action}
    (hrun : (Deployment.start factories policy).Runs actions d) {files : FileTree}
    {options : DriverOptions} {b : Binding}
    (hbound : (d.setup files options).1.outcome = .bound b)
    (hlater : (d.setup files options).2.Runs later d') {again : DriverOptions}
    (hpaths : again.paths = options.paths) (hclass : again.driverClass = options.driverClass)
    (files' : FileTree) :
    ((∀ own, .deregister own ∈ later → own.serial ≠ b.loadedClass.serial) → ∀ factories',
        (d'.withFactories factories').setup files' again
          = (.close again (.bound { b with reused := true })
              [.driverReused again.driverClass b.contextId], d'.withFactories factories'))
      ∧ (d'.manager.forClass? b.loadedClass = none →
        (∀ fault, factories.instantiate b.loadedClass = .error fault →
          d'.setup files' again = (.close again (.failed (.registry fault)) [], d'))
        ∧ ∀ blueprint, factories.instantiate b.loadedClass = .ok blueprint →
          d'.setup files' again
            = (.close again
                (.bound { b with driver := { blueprint with serial := d'.made }, reused := false })
                [.driverRegistered b.loadedClass.name b.loadedClass.contextId,
                  .driverLoaded b.loadedClass.name b.loadedClass.origin b.loadedClass.digest
                    b.contextId],
              { d' with
                manager :=
                  { drivers := d'.manager.drivers ++ [{ blueprint with serial := d'.made }] }
                made := d'.made + 1 })) := by
  obtain ⟨hd, -⟩ := (Coherent.start factories policy).runs hfaithful hrun
  obtain ⟨hd₁, -, hsettles⟩ := hd.setup hfaithful files options
  obtain ⟨id, hid, hdelivers⟩ := hsettles.delivers b hbound
  obtain ⟨hd', hgrown⟩ := hd₁.runs hfaithful hlater
  have hid' := context?_of_prefix hgrown hid
  have hne := (hd'.serves _ (mem_of_context? hid')).ne_nil
  have hcached := hlater.extends.cached? hdelivers.cached
  rw [← hpaths] at hid' hne
  rw [← hclass] at hcached
  rw [← hdelivers.contextId_eq] at hid' hcached
  refine ⟨fun hkept factories' => ?_, fun hnone => ⟨fun fault hmade => ?_,
    fun blueprint hmade => ?_⟩⟩
  · have hdriver := Manager.forClass?_of_mem hd₁.nodup_classes hdelivers.registered
    rw [hdelivers.class_eq] at hdriver
    exact setup_of_registered hne hid' hcached (hlater.forClass? hkept hdriver) files' factories'
  · rw [← hd'.factories_eq] at hmade
    exact setup_of_unmade hne hid' hcached hnone hmade files'
  · have hown := hfaithful.instantiate hmade
    rw [← hd'.factories_eq] at hmade
    exact setup_of_made hne hid' hcached hnone hmade hown files'

/-! ### A driver that is taken out -/

theorem cellarOpened_bound :
    ∃ b, (cellarOpened.setup {} cellarOptions).1.outcome = .bound b
      ∧ b.loadedClass = Forest.cellarHandle := by
  have h : (match (cellarOpened.setup {} cellarOptions).1.outcome with
      | .bound b => decide (b.loadedClass = Forest.cellarHandle)
      | _ => false) = true := by decide +kernel
  split at h
  · rename_i b hb
    exact ⟨b, hb, of_decide_eq_true h⟩
  · cases h

/-- As long as the driver is there it is handed out, and once somebody has taken it out the next
set-up makes another one. -/
theorem reconnect_cellarOpened :
    ∃ b, (cellarOpened.setup {} cellarOptions).1.outcome = .bound b
      ∧ ((cellarOpened.setup {} cellarOptions).2.setup {}
            { cellarOptions with driverPath := "/drivers" }).1.outcome
          = .bound { b with reused := true }
      ∧ (((cellarOpened.setup {} cellarOptions).2.act (.deregister b.loadedClass)).setup {}
            { cellarOptions with driverPath := "/drivers" }).1.outcome
          = .bound { b with
              driver := { Blueprint.ofStart "jdbc:a:" Forest.cellarHandle with serial := 1 }
              reused := false } := by
  obtain ⟨b, hbound, hclass⟩ := cellarOpened_bound
  have hfaithful := faithful_known.register_ofStart "A" "jdbc:a:"
  have hpaths : ({ cellarOptions with driverPath := "/drivers" } : DriverOptions).paths
      = cellarOptions.paths := by decide +kernel
  have hmade : cellarFactories.instantiate b.loadedClass
      = .ok (.ofStart "jdbc:a:" Forest.cellarHandle) := by
    rw [hclass]
    rfl
  have hserial : (cellarOpened.setup {} cellarOptions).2.made = 1 := by decide +kernel
  have hsetup : cellarOpened.Admits (.setup {} cellarOptions) := trivial
  have hderegister : (cellarOpened.setup {} cellarOptions).2.Admits (.deregister b.loadedClass) :=
    trivial
  have hkept := reconnect_of_runs hfaithful runs_cellarOpened hbound .start hpaths rfl {}
  have hremoved := reconnect_of_runs hfaithful runs_cellarOpened hbound
    (Runs.start.act hderegister) hpaths rfl {}
  refine ⟨b, hbound, ?_, ?_⟩
  · have h := hkept.1 (fun own hown => absurd hown List.not_mem_nil) cellarFactories
    obtain ⟨hd, -⟩ := (Coherent.start cellarFactories {}).runs hfaithful
      (runs_cellarOpened.act hsetup)
    have hfactories : (cellarOpened.setup {} cellarOptions).2.host.factories = cellarFactories :=
      hd.factories_eq
    rw [withFactories_of_eq hfactories] at h
    rw [h, outcome_close]
  · obtain ⟨-, h⟩ := hremoved.2 (Manager.forClass?_deregister _ _)
    have hremade : ((cellarOpened.setup {} cellarOptions).2.act (.deregister b.loadedClass)).made
        = 1 := hserial
    rw [h _ hmade, outcome_close, hremade]

end Deployment

end DriverClasses.Setup
