import DriverClasses.Proofs.Setup.Bindings

/-!
# How a set-up ends

`Ends` lists what the work of a set-up can come to once its context is known, with the deployment
that it leaves, and `Goes` what a whole set-up can come to.  A set-up goes one of these ways
(`goes_setup`) and no other (`Ends.bindIn_eq`).  Whichever it is, the deployment has only grown
(`Goes.grown`).
-/

namespace DriverClasses.Setup

open DriverClasses.Files DriverClasses.ClassFile DriverClasses.Loading DriverClasses.Registry
open DriverClasses.Location

namespace Deployment

theorem resident?_eq_some_iff {d : Deployment} {id : Nat} {name : String} {h : LoadedClass}
    {driver : Driver} :
    d.resident? id name = some (h, driver)
      ↔ d.forest.cached? id name = some h ∧ d.manager.forClass? h = some driver := by
  unfold resident?
  cases d.forest.cached? id name with
  | none => simp
  | some own => cases hown : d.manager.forClass? own <;> grind

theorem resident?_eq_none_iff {d : Deployment} {id : Nat} {name : String} :
    d.resident? id name = none
      ↔ ∀ h, d.forest.cached? id name = some h → d.manager.forClass? h = none := by
  unfold resident?
  cases d.forest.cached? id name with
  | none => simp
  | some own => cases hown : d.manager.forClass? own <;> simp [hown]

end Deployment

/-- The id of the context that a set-up delivers. -/
def Outcome.contextId? : Outcome → Option Nat
  | bound b => some b.contextId
  | failed _ | crashed _ => none

/-- The ways in which the work of a set-up in the context `id` can end. -/
inductive Ends (files : FileTree) (options : DriverOptions) (d : Deployment) (id : Nat) :
    Outcome → Deployment → Prop
  | reused {h : LoadedClass} {driver : Driver} :
      d.resident? id options.driverClass = some (h, driver) →
      Ends files options d id
        (.bound { contextId := id, loadedClass := h, driver, reused := true }) d
  | crashed {reason : String} {f : Forest} :
      d.resident? id options.driverClass = none →
      d.forest.load files id options.driverClass = (.crashed reason, f) →
      Ends files options d id (.crashed reason) { d with forest := f }
  | unloaded {error : LoadError} {f : Forest} :
      d.resident? id options.driverClass = none →
      d.forest.load files id options.driverClass = (.failed error, f) →
      Ends files options d id (.failed (.load options.driverClass options.paths error))
        { d with forest := f }
  | unmade {h : LoadedClass} {f : Forest} {fault : RegistryError} :
      d.resident? id options.driverClass = none →
      d.forest.load files id options.driverClass = (.loaded h, f) →
      d.host.factories.instantiate h = .error fault →
      Ends files options d id (.failed (.registry fault)) { d with forest := f }
  | registered {h : LoadedClass} {f : Forest} {blueprint : Blueprint} :
      d.resident? id options.driverClass = none →
      d.forest.load files id options.driverClass = (.loaded h, f) →
      d.host.factories.instantiate h = .ok blueprint →
      d.manager.forClass? blueprint.loadedClass = none →
      Ends files options d id
        (.bound
          { contextId := id, loadedClass := h, driver := { blueprint with serial := d.made }
            reused := false })
        { d with
          manager := { drivers := d.manager.drivers ++ [{ blueprint with serial := d.made }] }
          forest := f
          made := d.made + 1 }
  /-- The driver that was made is one for a class with a driver, and so is the class. -/
  | outrun {h : LoadedClass} {f : Forest} {blueprint : Blueprint} {other driver : Driver} :
      d.resident? id options.driverClass = none →
      d.forest.load files id options.driverClass = (.loaded h, f) →
      d.host.factories.instantiate h = .ok blueprint →
      d.manager.forClass? blueprint.loadedClass = some other →
      d.manager.forClass? h = some driver →
      Ends files options d id
        (.bound { contextId := id, loadedClass := h, driver, reused := true })
        { d with forest := f, made := d.made + 1 }
  /-- The driver that was made is one for some other class, and that has a driver. -/
  | astray {h : LoadedClass} {f : Forest} {blueprint : Blueprint} {other : Driver} :
      d.resident? id options.driverClass = none →
      d.forest.load files id options.driverClass = (.loaded h, f) →
      d.host.factories.instantiate h = .ok blueprint →
      d.manager.forClass? blueprint.loadedClass = some other →
      d.manager.forClass? h = none →
      Ends files options d id
        (.failed (.registry
          (.alreadyRegistered blueprint.loadedClass.name blueprint.loadedClass.contextId)))
        { d with forest := f, made := d.made + 1 }

variable {files : FileTree} {options : DriverOptions} {d e : Deployment} {id : Nat}
  {outcome : Outcome}

theorem ends_bindIn (files : FileTree) (options : DriverOptions) (d : Deployment) (id : Nat) :
    Ends files options d id (d.bindIn files options id).1 (d.bindIn files options id).2.2 := by
  unfold Deployment.bindIn
  cases hresident : d.resident? id options.driverClass with
  | some found => exact .reused hresident
  | none =>
    simp only [Deployment.loadAndEnlist]
    cases hload : d.forest.load files id options.driverClass with
    | mk result f =>
      cases result with
      | crashed reason => exact .crashed hresident hload
      | failed error => exact .unloaded hresident hload
      | loaded h =>
        simp only [Deployment.enlist, Deployment.instantiate]
        cases hmade : d.host.factories.instantiate h with
        | error fault => exact .unmade hresident hload hmade
        | ok blueprint =>
          simp only [Bind.bind, Except.bind, pure, Except.pure, Deployment.register,
            Manager.register]
          cases hother : d.manager.forClass? blueprint.loadedClass with
          | none => exact .registered hresident hload hmade hother
          | some other =>
            simp only [Deployment.settle]
            cases hown : d.manager.forClass? h with
            | some driver => exact .outrun hresident hload hmade hother hown
            | none => exact .astray hresident hload hmade hother hown

theorem Ends.bindIn_eq (h : Ends files options d id outcome e) :
    (d.bindIn files options id).1 = outcome ∧ (d.bindIn files options id).2.2 = e := by
  cases h with
  | reused hresident => simp [Deployment.bindIn, hresident]
  | crashed hnone hload => simp [Deployment.bindIn, Deployment.loadAndEnlist, hnone, hload]
  | unloaded hnone hload => simp [Deployment.bindIn, Deployment.loadAndEnlist, hnone, hload]
  | unmade hnone hload hmade =>
    simp [Deployment.bindIn, Deployment.loadAndEnlist, Deployment.enlist, Deployment.instantiate,
      hnone, hload, hmade, Bind.bind, Except.bind]
  | registered hnone hload hmade hnew =>
    simp [Deployment.bindIn, Deployment.loadAndEnlist, Deployment.enlist, Deployment.instantiate,
      Deployment.register, Manager.register, hnone, hload, hmade, hnew, Bind.bind, Except.bind,
      pure, Except.pure]
  | outrun hnone hload hmade hother hown =>
    simp [Deployment.bindIn, Deployment.loadAndEnlist, Deployment.enlist, Deployment.instantiate,
      Deployment.register, Manager.register, Deployment.settle, hnone, hload, hmade, hother, hown,
      Bind.bind, Except.bind, pure, Except.pure]
  | astray hnone hload hmade hother hown =>
    simp [Deployment.bindIn, Deployment.loadAndEnlist, Deployment.enlist, Deployment.instantiate,
      Deployment.register, Manager.register, Deployment.settle, Driver.name, hnone, hload, hmade,
      hother, hown, Bind.bind, Except.bind, pure, Except.pure]

/-- The ways in which a set-up can go. -/
inductive Goes (files : FileTree) (options : DriverOptions) (d : Deployment) :
    Outcome → Deployment → Prop
  | pathless : options.paths = [] →
      Goes files options d (.failed (.missingOption .driverPath)) d
  | refused {error : LoadError} :
      options.paths ≠ [] → d.contextFor options.paths = .error error →
      Goes files options d (.failed (.load options.driverClass options.paths error)) d
  | ended {id : Nat} {events : List Event} {found e : Deployment} {outcome : Outcome} :
      options.paths ≠ [] → d.contextFor options.paths = .ok (id, events, found) →
      Ends files options found id outcome e → Goes files options d outcome e

theorem goes_setup (files : FileTree) (options : DriverOptions) (d : Deployment) :
    Goes files options d (d.setup files options).1.outcome (d.setup files options).2 := by
  simp only [Deployment.setup, Deployment.outcome_close]
  unfold Deployment.bind
  by_cases hpaths : options.paths = []
  · rw [if_pos hpaths]
    exact .pathless hpaths
  · rw [if_neg hpaths]
    cases hfound : d.contextFor options.paths with
    | error error => exact .refused hpaths hfound
    | ok result =>
      obtain ⟨id, created, found⟩ := result
      exact .ended hpaths hfound (ends_bindIn files options found id)

theorem Goes.setup_eq (h : Goes files options d outcome e) :
    (d.setup files options).1.outcome = outcome ∧ (d.setup files options).2 = e := by
  simp only [Deployment.setup, Deployment.outcome_close]
  unfold Deployment.bind
  cases h with
  | pathless hpaths => simp [hpaths]
  | refused hpaths hfound => simp [hpaths, hfound]
  | ended hpaths hfound hends => simpa [hpaths, hfound] using hends.bindIn_eq

/-! ### What a set-up leaves -/

namespace Deployment

theorem contextFor_of_context? {paths : List String} {id : Nat}
    (hid : d.host.context? paths = some id) : d.contextFor paths = .ok (id, [], d) := by
  unfold contextFor
  rw [hid]

/-- What the table has once there is one entry more. -/
theorem context?_of_append {h : Host} {paths other : List String} {j : Nat}
    (hj : ({ h with contexts := h.contexts ++ [(paths, id)] } : Host).context? other = some j) :
    h.context? other = some j ∨ other = paths ∧ j = id := by
  unfold Host.context? at hj ⊢
  rw [List.lookup_append] at hj
  rcases Option.or_eq_some_iff.mp hj with hold | ⟨-, hnew⟩
  · exact .inl hold
  · obtain ⟨before, after, hsplit, -⟩ := List.lookup_eq_some_iff.mp hnew
    have hmem : (other, j) ∈ [(paths, id)] := hsplit ▸ List.mem_append_right _ List.mem_cons_self
    rw [List.mem_singleton, Prod.mk.injEq] at hmem
    exact .inr hmem

theorem extends_load {f g : Forest} {name : String} {result : LoadResult}
    (h : f.load files id name = (result, g)) : f.Extends g := by
  have hforest := f.extends_perform (.load files id name)
  simpa only [Forest.perform, h] using hforest

/-- What a deployment can grow to. -/
structure Grown (d e : Deployment) : Prop where
  factories_eq : e.host.factories = d.host.factories
  policy_eq : e.host.policy = d.host.policy
  contexts : d.host.contexts <+: e.host.contexts
  forest : d.forest.Extends e.forest
  drivers : d.manager.drivers <+: e.manager.drivers
  made_le : d.made ≤ e.made

namespace Grown

theorem refl (d : Deployment) : d.Grown d :=
  ⟨rfl, rfl, List.prefix_rfl, .refl d.forest, List.prefix_rfl, Nat.le_refl _⟩

theorem trans {d e k : Deployment} (hde : d.Grown e) (hek : e.Grown k) : d.Grown k :=
  ⟨hek.factories_eq.trans hde.factories_eq, hek.policy_eq.trans hde.policy_eq,
    hde.contexts.trans hek.contexts, hde.forest.trans hek.forest, hde.drivers.trans hek.drivers,
    Nat.le_trans hde.made_le hek.made_le⟩

theorem context? (h : d.Grown e) {paths : List String} {id : Nat}
    (hid : d.host.context? paths = some id) : e.host.context? paths = some id :=
  context?_of_prefix h.contexts hid

theorem forClass? (h : d.Grown e) {loaded : LoadedClass} {driver : Driver}
    (hdriver : d.manager.forClass? loaded = some driver) :
    e.manager.forClass? loaded = some driver := by
  obtain ⟨more, hmore⟩ := h.drivers
  unfold Manager.forClass? at hdriver ⊢
  rw [← hmore, List.find?_append, hdriver, Option.some_or]

theorem created {paths : List String} {f : Forest}
    (hcreate : d.forest.create none d.host.policy paths = .ok (id, f)) :
    d.Grown { d with
      host := { d.host with contexts := d.host.contexts ++ [(paths, id)] }
      forest := f } := by
  have hforest := Forest.extends_perform d.forest (.create none d.host.policy paths)
  rw [Forest.perform_create_none hcreate] at hforest
  exact ⟨rfl, rfl, List.prefix_append _ _, hforest, List.prefix_rfl, Nat.le_refl _⟩

theorem contextFor {paths : List String} {events : List Event}
    (h : d.contextFor paths = .ok (id, events, e)) : d.Grown e := by
  rcases contextFor_cases h with ⟨-, rfl⟩ | ⟨-, f, hcreate, rfl⟩
  · exact .refl _
  · exact .created hcreate

end Grown

end Deployment

open Deployment

theorem Ends.grown (h : Ends files options d id outcome e) : d.Grown e := by
  cases h with
  | reused => exact .refl _
  | crashed _ hload | unloaded _ hload | unmade _ hload =>
    exact ⟨rfl, rfl, List.prefix_rfl, extends_load hload, List.prefix_rfl, Nat.le_refl _⟩
  | registered _ hload =>
    exact ⟨rfl, rfl, List.prefix_rfl, extends_load hload, List.prefix_append _ _, Nat.le_succ _⟩
  | outrun _ hload | astray _ hload =>
    exact ⟨rfl, rfl, List.prefix_rfl, extends_load hload, List.prefix_rfl, Nat.le_succ _⟩

theorem Goes.grown (h : Goes files options d outcome e) : d.Grown e := by
  cases h with
  | pathless => exact .refl _
  | refused => exact .refl _
  | ended _ hfound hends => exact (Grown.contextFor hfound).trans hends.grown

/-! ### The table of a run -/

namespace Deployment

theorem contexts_act (d : Deployment) (action : Action) :
    d.host.contexts <+: (d.act action).host.contexts := by
  cases action with
  | setup files options => exact (goes_setup files options d).grown.contexts
  | register driver =>
    cases hregister : d.manager.register driver <;> simp only [act, hregister] <;>
      exact List.prefix_rfl
  | deregister loaded => exact List.prefix_rfl
  | operate op => exact List.prefix_rfl

theorem Runs.contexts {actions : List Action} (hrun : d.Runs actions d') :
    d.host.contexts <+: d'.host.contexts := by
  induction hrun with
  | start => exact List.prefix_rfl
  | act _ _ ih => exact ih.trans (contexts_act _ _)

end Deployment

end DriverClasses.Setup
