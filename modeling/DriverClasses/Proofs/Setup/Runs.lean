import DriverClasses.Proofs.Loading.Identity
import DriverClasses.Proofs.Setup.Paths
import DriverClasses.Registry.Lemmas
import DriverClasses.Setup.Host

/-!
# Runs of a host

A run of a host is a list of set-ups, among which others register drivers, take them out, and
operate on the forest in which the host has its contexts.  Files may change at any time.  A class
comes from a load and from nowhere else, so a driver that others register is one for a class that
some context of the forest has (`Admits`).

`Coherent` is what every action keeps: each path list of the table has a context that is isolated
and lists it first, and each driver of the manager is one for a class that a context has, no two of
them for the same.
-/

namespace DriverClasses.Setup

open DriverClasses.Files DriverClasses.ClassFile DriverClasses.Loading DriverClasses.Registry
open DriverClasses.Location

inductive Action where
  | setup (files : FileTree) (options : DriverOptions)
  /-- Somebody registers a driver with the manager of the host, or takes the one for a class out. -/
  | register (driver : Driver)
  | deregister (loaded : LoadedClass)
  | operate (op : Operation)

/-- The class is one that its context has loaded. -/
def Owned (f : Forest) (h : LoadedClass) : Prop := f.cached? h.contextId h.name = some h

namespace Deployment

def start (factories : Factories) (policy : LinkPolicy) : Deployment :=
  { host := { factories, policy }, manager := {}, forest := {} }

/-- What an action leads to. -/
def act (d : Deployment) : Action → Deployment
  | .setup files options => (d.setup files options).2
  | .register driver =>
    match d.manager.register driver with
    | .ok manager => { d with manager }
    | .error _ => d
  | .deregister loaded => { d with manager := (d.manager.deregister loaded).2 }
  | .operate op => { d with forest := (d.forest.perform op).2 }

def Admits (d : Deployment) : Action → Prop
  | .register driver => Owned d.forest driver.loadedClass
  | .setup _ _ | .deregister _ | .operate _ => True

inductive Runs (d : Deployment) : List Action → Deployment → Prop
  | start : Runs d [] d
  | act {actions : List Action} {d' : Deployment} {action : Action} :
      Runs d actions d' → d'.Admits action → Runs d (actions ++ [action]) (d'.act action)

end Deployment

/-! ### What is kept -/

theorem nodup_map_append {α β : Type} {f : α → β} {xs : List α} (hxs : (xs.map f).Nodup) {x : α}
    (hx : ∀ y ∈ xs, f y ≠ f x) : ((xs ++ [x]).map f).Nodup := by
  rw [List.map_append, List.map_singleton, List.nodup_append]
  refine ⟨hxs, List.nodup_singleton _, fun a ha b hb => ?_⟩
  obtain ⟨y, hy, rfl⟩ := List.mem_map.mp ha
  rw [List.mem_singleton.mp hb]
  exact hx y hy

/-- The context that the table has for a path list. -/
structure Serves (f : Forest) (policy : LinkPolicy) (paths : List String) (id : Nat) : Prop where
  listed : ∃ raw, paths = splitPathList raw
  ne_nil : paths ≠ []
  context : ∃ c, f.context? id = some c ∧ c.ancestors = [] ∧ c.policy = policy
    ∧ paths <+: c.locations

theorem Serves.mono {f g : Forest} {policy : LinkPolicy} {paths : List String} {id : Nat}
    (h : Serves f policy paths id) (hfg : f.Extends g) : Serves g policy paths id := by
  obtain ⟨c, hc, hisolated, hpolicy, hpaths⟩ := h.context
  obtain ⟨d, hd, hcd⟩ := hfg.contexts hc
  exact ⟨h.listed, h.ne_nil, d, hd, hcd.ancestors_eq.trans hisolated, hcd.policy_eq.trans hpolicy,
    hpaths.trans (hcd.sources_prefix.map _)⟩

theorem Serves.ancestors_eq_nil {f : Forest} {policy : LinkPolicy} {paths : List String} {id : Nat}
    (h : Serves f policy paths id) : f.ancestors id = [] := by
  obtain ⟨c, hc, hisolated, -⟩ := h.context
  rw [Forest.ancestors_of_context? hc, hisolated]

namespace Deployment

structure Coherent (factories : Factories) (policy : LinkPolicy) (d : Deployment) : Prop where
  factories_eq : d.host.factories = factories
  policy_eq : d.host.policy = policy
  sound : ∃ ops, d.forest.Sound ops
  serves : ∀ e ∈ d.host.contexts, Serves d.forest policy e.1 e.2
  nodup_paths : (d.host.contexts.map (·.1)).Nodup
  nodup_ids : (d.host.contexts.map (·.2)).Nodup
  owned : ∀ driver ∈ d.manager.drivers, Owned d.forest driver.loadedClass
  nodup_classes : (d.manager.drivers.map (·.loadedClass.serial)).Nodup

namespace Coherent

variable {factories : Factories} {policy : LinkPolicy} {d : Deployment}

theorem start (factories : Factories) (policy : LinkPolicy) :
    (Deployment.start factories policy).Coherent factories policy where
  factories_eq := rfl
  policy_eq := rfl
  sound := ⟨[], Forest.sound_empty⟩
  serves _ he := absurd he List.not_mem_nil
  nodup_paths := List.nodup_nil
  nodup_ids := List.nodup_nil
  owned _ hdriver := absurd hdriver List.not_mem_nil
  nodup_classes := List.nodup_nil

theorem operate (hd : d.Coherent factories policy) (op : Operation) :
    { d with forest := (d.forest.perform op).2 }.Coherent factories policy := by
  have hgrown := Forest.extends_perform d.forest op
  obtain ⟨ops, hsound⟩ := hd.sound
  exact { hd with
    sound := ⟨_, hsound.performed op⟩
    serves := fun e he => (hd.serves e he).mono hgrown
    owned := fun driver hdriver => hgrown.cached? (hd.owned driver hdriver) }

theorem register (hd : d.Coherent factories policy) {driver : Driver} {manager : Manager}
    (howned : Owned d.forest driver.loadedClass) (h : d.manager.register driver = .ok manager) :
    { d with manager }.Coherent factories policy := by
  obtain ⟨hnone, rfl⟩ := Manager.register_eq_ok_iff.mp h
  refine { hd with
    owned := fun other hother => ?_
    nodup_classes := nodup_map_append hd.nodup_classes (Manager.forClass?_eq_none_iff.mp hnone) }
  rw [List.mem_append, List.mem_singleton] at hother
  rcases hother with hother | rfl
  · exact hd.owned other hother
  · exact howned

theorem deregister (hd : d.Coherent factories policy) (loaded : LoadedClass) :
    { d with manager := (d.manager.deregister loaded).2 }.Coherent factories policy :=
  { hd with
    owned := fun driver hdriver => hd.owned driver (List.mem_filter.mp hdriver).1
    nodup_classes := hd.nodup_classes.sublist (List.filter_sublist.map _) }

theorem owned_of_cached? (hd : d.Coherent factories policy) {id : Nat} {name : String}
    {h : LoadedClass} (hcached : d.forest.cached? id name = some h) : Owned d.forest h := by
  obtain ⟨ops, hsound⟩ := hd.sound
  obtain ⟨hid, hname⟩ := hsound.of_cached? hcached
  rw [Owned, hid, hname, hcached]

/-- Two classes of one number, one of them that of a driver, are one class. -/
theorem class_eq (hd : d.Coherent factories policy) {h : LoadedClass} {driver : Driver}
    (howned : Owned d.forest h) (hdriver : d.manager.forClass? h = some driver) :
    driver.loadedClass = h := by
  obtain ⟨ops, hsound⟩ := hd.sound
  obtain ⟨hmem, hserial⟩ := Manager.mem_of_forClass? hdriver
  have hentry := hsound.cached?_eq_some_iff.mp (hd.owned driver hmem)
  have hentry' := hsound.cached?_eq_some_iff.mp howned
  exact congrArg Prod.snd (hsound.eq_of_serial _ _ _ hentry _ hentry' hserial).2

end Coherent

end Deployment

end DriverClasses.Setup
