import DriverClasses.Proofs.Loading.Answer
import DriverClasses.Proofs.Setup.Runs

/-!
# What set-ups deliver

A set-up keeps a deployment coherent, and what it delivers belongs together: the context of its
path list, a class of the name that the context has loaded, and the driver that the manager has for
this class (`Coherent.setup`).  A registration is never refused.  The class has either just been
linked, and then no driver can be one for it, or it was there already without one.
-/

namespace DriverClasses.Setup

open DriverClasses.Files DriverClasses.ClassFile DriverClasses.Loading DriverClasses.Registry
open DriverClasses.Location

/-- What any of the factories makes of a class is a driver for that class. -/
def Faithful (factories : Factories) : Prop :=
  ∀ e ∈ factories.entries, ∀ loaded blueprint, e.2 loaded = .ok blueprint →
    blueprint.loadedClass = loaded

theorem Faithful.instantiate {factories : Factories} (h : Faithful factories)
    {loaded : LoadedClass} {blueprint : Blueprint}
    (hmade : factories.instantiate loaded = .ok blueprint) : blueprint.loadedClass = loaded := by
  unfold Factories.instantiate Factories.resolve at hmade
  cases hfind : factories.find? loaded.name with
  | none => simp [hfind, bind, Except.bind] at hmade
  | some factory =>
    obtain ⟨before, after, hsplit, -⟩ := List.lookup_eq_some_iff.mp hfind
    have hmem : (loaded.name, factory) ∈ factories.entries := by
      rw [hsplit]
      exact List.mem_append_right _ List.mem_cons_self
    simp only [hfind, bind, Except.bind] at hmade
    exact h _ hmem loaded blueprint hmade

/-- What is made for a class without a driver is registered. -/
theorem Faithful.register_made {factories : Factories} (h : Faithful factories)
    {loaded : LoadedClass} {blueprint : Blueprint}
    (hmade : factories.instantiate loaded = .ok blueprint) {m : Manager}
    (hnew : m.forClass? loaded = none) (serial : Nat) :
    m.register { blueprint with serial }
      = .ok { drivers := m.drivers ++ [{ blueprint with serial }] } :=
  Manager.register_of_forClass?_eq_none (by rw [h.instantiate hmade, hnew])

theorem Faithful.register_ofStart {factories : Factories} (h : Faithful factories)
    (name start : String) : Faithful (factories.register name (.ofStart start)) := by
  intro e he loaded blueprint hmade
  rcases List.mem_cons.mp he with rfl | he
  · rw [← Except.ok.inj hmade]
    rfl
  · exact h e (List.mem_filter.mp he).1 loaded blueprint hmade

theorem faithful_known : Faithful .known := by
  unfold Factories.known
  refine List.foldlRecOn _ _ (fun e he => absurd he List.not_mem_nil) fun factories h driver _ => ?_
  exact h.register_ofStart driver.1 driver.2

/-- A binding whose parts belong together. -/
structure Delivers (d : Deployment) (id : Nat) (name : String) (b : Binding) : Prop where
  contextId_eq : b.contextId = id
  cached : d.forest.cached? id name = some b.loadedClass
  class_eq : b.driver.loadedClass = b.loadedClass
  registered : b.driver ∈ d.manager.drivers

/-- The outcome of a set-up is such a binding in the context of its path list, or a failure.  That
the class has a driver already is nothing that a set-up finds out: only a factory can say so. -/
structure Settles (factories : Factories) (d : Deployment) (paths : List String) (name : String)
    (outcome : Outcome) : Prop where
  delivers : ∀ b, outcome = .bound b →
    ∃ id, d.host.context? paths = some id ∧ Delivers d id name b
  blames : ∀ other contextId,
    outcome = .failed (.registry (.alreadyRegistered other contextId)) →
      ∃ loaded, factories.instantiate loaded = .error (.alreadyRegistered other contextId)

namespace Settles

variable {factories : Factories} {d : Deployment} {paths : List String} {name : String}

theorem bound {id : Nat} {b : Binding} (hid : d.host.context? paths = some id)
    (hb : Delivers d id name b) : Settles factories d paths name (.bound b) := by
  refine ⟨fun other hother => ?_, fun _ _ hfailed => ?_⟩
  · rw [Outcome.bound.injEq] at hother
    exact ⟨id, hid, hother ▸ hb⟩
  · cases hfailed

theorem crashed (reason : String) : Settles factories d paths name (.crashed reason) := by
  refine ⟨fun _ hbound => ?_, fun _ _ hfailed => ?_⟩
  · cases hbound
  · cases hfailed

theorem failed {error : HostError} (herror : ∀ fault, error ≠ .registry fault) :
    Settles factories d paths name (.failed error) := by
  refine ⟨fun _ hbound => ?_, fun _ _ hfailed => ?_⟩
  · cases hbound
  · rw [Outcome.failed.injEq] at hfailed
    exact absurd hfailed (herror _)

theorem unmade {loaded : LoadedClass} {fault : RegistryError}
    (hmade : factories.instantiate loaded = .error fault) :
    Settles factories d paths name (.failed (.registry fault)) := by
  refine ⟨fun _ hbound => ?_, fun other contextId hfailed => ⟨loaded, ?_⟩⟩
  · cases hbound
  · rw [Outcome.failed.injEq, HostError.registry.injEq] at hfailed
    rw [hmade, hfailed]

end Settles

namespace Deployment

variable {factories : Factories} {policy : LinkPolicy} {d d' : Deployment}

/-! ### The context -/

theorem create_eq_ok {f f' : Forest} {raws : List String} {id : Nat}
    (h : f.create none policy raws = .ok (id, f')) :
    ∃ sources, raws.mapM sourceOf = .ok sources ∧ id = f.nextId
      ∧ f' = { f with contexts := f.contexts ++
          [{ id := f.nextId, ancestors := [], policy, sources, cache := [] }] } := by
  rw [Forest.create_eq_map] at h
  cases hsources : raws.mapM sourceOf with
  | error error =>
    rw [hsources] at h
    cases h
  | ok sources =>
    rw [hsources] at h
    obtain ⟨rfl, rfl⟩ := Prod.mk.inj (Except.ok.inj h)
    exact ⟨sources, rfl, rfl, rfl⟩

/-- A context is found, or it is made and comes behind the others. -/
theorem contextFor_cases {paths : List String} {id : Nat} {events : List Event}
    (h : d.contextFor paths = .ok (id, events, d')) :
    d.host.context? paths = some id ∧ d' = d
      ∨ d.host.context? paths = none ∧ ∃ f, d.forest.create none d.host.policy paths = .ok (id, f)
        ∧ d' = { d with
            host := { d.host with contexts := d.host.contexts ++ [(paths, id)] }
            forest := f } := by
  unfold contextFor at h
  cases hfound : d.host.context? paths with
  | some own =>
    simp only [hfound, Except.ok.injEq, Prod.mk.injEq] at h
    obtain ⟨rfl, -, rfl⟩ := h
    exact .inl ⟨rfl, rfl⟩
  | none =>
    cases hcreate : d.forest.create none d.host.policy paths with
    | error error => simp [hfound, hcreate, Bind.bind, Except.bind] at h
    | ok made =>
      obtain ⟨own, f⟩ := made
      simp only [hfound, hcreate, Bind.bind, Except.bind, pure, Except.pure, Except.ok.injEq,
        Prod.mk.injEq] at h
      obtain ⟨rfl, -, rfl⟩ := h
      exact .inr ⟨rfl, f, rfl, rfl⟩

theorem context?_append {h : Host} {paths : List String} (id : Nat)
    (hnone : h.context? paths = none) :
    ({ h with contexts := h.contexts ++ [(paths, id)] } : Host).context? paths = some id := by
  unfold Host.context? at hnone ⊢
  rw [List.lookup_append, hnone, Option.none_or, List.lookup_cons_self]

theorem mem_of_context? {h : Host} {paths : List String} {id : Nat}
    (hid : h.context? paths = some id) : (paths, id) ∈ h.contexts := by
  obtain ⟨before, after, hsplit, -⟩ := List.lookup_eq_some_iff.mp hid
  rw [hsplit]
  exact List.mem_append_right _ List.mem_cons_self

theorem context?_of_prefix {h h' : Host} (hgrown : h.contexts <+: h'.contexts)
    {paths : List String} {id : Nat} (hid : h.context? paths = some id) :
    h'.context? paths = some id := by
  obtain ⟨more, hmore⟩ := hgrown
  unfold Host.context? at hid ⊢
  rw [← hmore, List.lookup_append, hid, Option.some_or]

namespace Coherent

theorem created (hd : d.Coherent factories policy) {raw : String} {id : Nat} {f : Forest}
    (hne : splitPathList raw ≠ []) (hnone : d.host.context? (splitPathList raw) = none)
    (hcreate : d.forest.create none policy (splitPathList raw) = .ok (id, f)) :
    { d with
      host := { d.host with contexts := d.host.contexts ++ [(splitPathList raw, id)] }
      forest := f }.Coherent factories policy := by
  have hkept := hd.operate (.create none policy (splitPathList raw))
  rw [Forest.perform_create_none hcreate] at hkept
  obtain ⟨sources, hsources, rfl, rfl⟩ := create_eq_ok hcreate
  obtain ⟨ops, hsound⟩ := hd.sound
  have hfresh := hsound.wellFormed.context?_nextId
  refine { hkept with
    policy_eq := hd.policy_eq
    serves := fun e he => ?_
    nodup_paths := nodup_map_append hd.nodup_paths fun e he heq => ?_
    nodup_ids := nodup_map_append hd.nodup_ids fun e he heq => ?_ }
  · rw [List.mem_append, List.mem_singleton] at he
    rcases he with he | rfl
    · exact hkept.serves e he
    · refine ⟨⟨raw, rfl⟩, hne,
        { id := d.forest.nextId, ancestors := [], policy, sources, cache := [] }, ?_, rfl, rfl, ?_⟩
      · rw [Forest.context?_append, hfresh, Option.none_or, if_pos rfl]
      · exact ⟨[], (List.append_nil _).trans (origins_of_splitPathList hsources).symm⟩
  · have hlookup := List.lookup_eq_none_iff.mp hnone e he
    simp [heq] at hlookup
  · -- The contexts of the table are there, and the one that is made was not.
    obtain ⟨c, hc, -⟩ := (hd.serves e he).context
    rw [heq, hfresh] at hc
    cases hc

theorem contextFor (hd : d.Coherent factories policy) {raw : String} {id : Nat}
    {events : List Event} (hne : splitPathList raw ≠ [])
    (h : d.contextFor (splitPathList raw) = .ok (id, events, d')) :
    d'.Coherent factories policy ∧ d'.host.context? (splitPathList raw) = some id
      ∧ d.host.contexts <+: d'.host.contexts := by
  rcases contextFor_cases h with ⟨hfound, rfl⟩ | ⟨hnone, f, hcreate, rfl⟩
  · exact ⟨hd, hfound, List.prefix_rfl⟩
  · rw [hd.policy_eq] at hcreate
    exact ⟨hd.created hne hnone hcreate, context?_append id hnone, List.prefix_append _ _⟩

/-! ### The class and its driver -/

/-- A driver that is made for a class without one is registered. -/
theorem enlist (hd : d.Coherent factories policy) (hfaithful : Faithful factories)
    {paths : List String} {id : Nat} (hid : d.host.context? paths = some id) {name : String}
    {loaded : LoadedClass} (hcached : d.forest.cached? id name = some loaded)
    (hnew : d.manager.forClass? loaded = none) {outcome : Outcome} {events : List Event}
    (h : d.enlist id loaded = (outcome, events, d')) :
    d'.Coherent factories policy ∧ d'.host = d.host
      ∧ Settles factories d' paths name outcome := by
  unfold Deployment.enlist Deployment.instantiate at h
  rw [hd.factories_eq] at h
  cases hmade : factories.instantiate loaded with
  | error error =>
    simp only [hmade, Bind.bind, Except.bind, Prod.mk.injEq] at h
    obtain ⟨rfl, -, rfl⟩ := h
    exact ⟨hd, rfl, .unmade hmade⟩
  | ok blueprint =>
    have hclass : blueprint.loadedClass = loaded := hfaithful.instantiate hmade
    have howned : Owned d.forest blueprint.loadedClass := hclass ▸ hd.owned_of_cached? hcached
    have hregister := hfaithful.register_made hmade hnew d.made
    simp only [hmade, Bind.bind, Except.bind, Pure.pure, Except.pure, Deployment.register,
      hregister, Prod.mk.injEq] at h
    obtain ⟨rfl, -, rfl⟩ := h
    have hmore : { d with made := d.made + 1 }.Coherent factories policy := { hd with }
    have hdriver : Delivers
        { d with
          manager := { drivers := d.manager.drivers ++ [{ blueprint with serial := d.made }] }
          made := d.made + 1 }
        id name
        { contextId := id, loadedClass := loaded, driver := { blueprint with serial := d.made }
          reused := false } :=
      ⟨rfl, hcached, hclass, List.mem_append_right _ List.mem_cons_self⟩
    exact ⟨hmore.register howned hregister, rfl, .bound hid hdriver⟩

/-- A load in an isolated context hands out a class without a driver, unless the class was there
before and had one. -/
theorem load (hd : d.Coherent factories policy) {files : FileTree} {paths : List String} {id : Nat}
    {name : String} {loaded : LoadedClass} {f : Forest}
    (hserves : Serves d.forest policy paths id)
    (hnew : ∀ h, d.forest.cached? id name = some h → d.manager.forClass? h = none)
    (hload : d.forest.load files id name = (.loaded loaded, f)) :
    { d with forest := f }.Coherent factories policy ∧ f.cached? id name = some loaded
      ∧ d.manager.forClass? loaded = none := by
  have hf : (d.forest.perform (.load files id name)).2 = f := by
    simp only [Forest.perform, hload]
  have hgrown := Forest.extends_perform d.forest (.load files id name)
  have hkept := hd.operate (.load files id name)
  rw [hf] at hgrown hkept
  have hcached : f.cached? id name = some loaded := by
    have hres := Forest.resident?_of_load hload
    unfold Forest.resident? Forest.inherited? at hres
    rwa [(hserves.mono hgrown).ancestors_eq_nil, List.findSome?_nil, Option.or_none] at hres
  refine ⟨hkept, hcached, ?_⟩
  cases hdriver : d.manager.forClass? loaded with
  | none => rfl
  | some driver =>
    -- A class that a driver is for was in the cache before.
    obtain ⟨ops, hsound⟩ := hkept.sound
    obtain ⟨hid, hname⟩ := hsound.of_cached? hcached
    have hclass := hkept.class_eq (hkept.owned_of_cached? hcached) hdriver
    have hold := hd.owned driver (Manager.mem_of_forClass? hdriver).1
    rw [Owned, hclass, hid, hname] at hold
    rw [← hdriver, hnew loaded hold]

theorem loadAndEnlist (hd : d.Coherent factories policy) (hfaithful : Faithful factories)
    {files : FileTree} {options : DriverOptions} {id : Nat}
    (hid : d.host.context? options.paths = some id)
    (hnew : ∀ h, d.forest.cached? id options.driverClass = some h →
      d.manager.forClass? h = none) {outcome : Outcome} {events : List Event}
    (h : d.loadAndEnlist files options id = (outcome, events, d')) :
    d'.Coherent factories policy ∧ d'.host = d.host
      ∧ Settles factories d' options.paths options.driverClass outcome := by
  have hserves := hd.serves _ (mem_of_context? hid)
  unfold Deployment.loadAndEnlist at h
  cases hload : d.forest.load files id options.driverClass with
  | mk result f =>
    have hkept := hd.operate (.load files id options.driverClass)
    simp only [Forest.perform, hload] at hkept h
    cases result with
    | crashed reason =>
      simp only [Prod.mk.injEq] at h
      obtain ⟨rfl, -, rfl⟩ := h
      exact ⟨hkept, rfl, .crashed reason⟩
    | failed error =>
      simp only [Prod.mk.injEq] at h
      obtain ⟨rfl, -, rfl⟩ := h
      exact ⟨hkept, rfl, .failed (by simp)⟩
    | loaded loaded =>
      obtain ⟨-, hcached, hnone⟩ := hd.load hserves hnew hload
      exact hkept.enlist hfaithful hid hcached hnone h

theorem bindIn (hd : d.Coherent factories policy) (hfaithful : Faithful factories)
    {files : FileTree} {options : DriverOptions} {id : Nat}
    (hid : d.host.context? options.paths = some id) {outcome : Outcome} {events : List Event}
    (h : d.bindIn files options id = (outcome, events, d')) :
    d'.Coherent factories policy ∧ d'.host = d.host
      ∧ Settles factories d' options.paths options.driverClass outcome := by
  unfold Deployment.bindIn at h
  cases hresident : d.resident? id options.driverClass with
  | some found =>
    obtain ⟨loaded, driver⟩ := found
    obtain ⟨own, hcached, hown⟩ := Option.bind_eq_some_iff.mp hresident
    obtain ⟨other, hdriver, hpair⟩ := Option.bind_eq_some_iff.mp hown
    obtain ⟨rfl, rfl⟩ : own = loaded ∧ other = driver := by
      simpa using hpair
    simp only [hresident, Prod.mk.injEq] at h
    obtain ⟨rfl, -, rfl⟩ := h
    have hclass := hd.class_eq (hd.owned_of_cached? hcached) hdriver
    exact ⟨hd, rfl,
      .bound hid ⟨rfl, hcached, hclass, (Manager.mem_of_forClass? hdriver).1⟩⟩
  | none =>
    simp only [hresident] at h
    refine hd.loadAndEnlist hfaithful hid (fun own hcached => ?_) h
    have hnone := Option.bind_eq_none_iff.mp hresident own hcached
    exact Option.eq_none_iff_forall_ne_some.mpr (by simpa using hnone)

end Coherent

theorem outcome_close (options : DriverOptions) (outcome : Outcome) (events : List Event) :
    (SetupReport.close options outcome events).outcome = outcome := by
  cases outcome <;> rfl

/-- A set-up keeps what is coherent so and the contexts of the table, and delivers what belongs
together. -/
theorem Coherent.setup (hd : d.Coherent factories policy) (hfaithful : Faithful factories)
    (files : FileTree) (options : DriverOptions) :
    (d.setup files options).2.Coherent factories policy
      ∧ d.host.contexts <+: (d.setup files options).2.host.contexts
      ∧ Settles factories (d.setup files options).2 options.paths options.driverClass
          (d.setup files options).1.outcome := by
  simp only [Deployment.setup, outcome_close]
  unfold Deployment.bind
  by_cases hne : options.paths = []
  · rw [if_pos hne]
    exact ⟨hd, List.prefix_rfl, .failed (by simp)⟩
  · rw [if_neg hne]
    cases hcontext : d.contextFor options.paths with
    | error error => exact ⟨hd, List.prefix_rfl, .failed (by simp)⟩
    | ok found =>
      obtain ⟨id, created, d₁⟩ := found
      obtain ⟨hd₁, hid, hgrown⟩ := hd.contextFor hne hcontext
      cases hbind : d₁.bindIn files options id with
      | mk outcome rest =>
        obtain ⟨events, d₂⟩ := rest
        obtain ⟨hd₂, hhost, hsettles⟩ := hd₁.bindIn hfaithful hid hbind
        simp only [hbind]
        exact ⟨hd₂, hhost ▸ hgrown, hsettles⟩

/-! ### Runs -/

theorem Coherent.act (hd : d.Coherent factories policy) (hfaithful : Faithful factories)
    {action : Action} (hadmits : d.Admits action) :
    (d.act action).Coherent factories policy
      ∧ d.host.contexts <+: (d.act action).host.contexts := by
  cases action with
  | setup files options =>
    obtain ⟨hkept, hgrown, -⟩ := hd.setup hfaithful files options
    exact ⟨hkept, hgrown⟩
  | register driver =>
    cases hregister : d.manager.register driver with
    | error error =>
      simp only [Deployment.act, hregister]
      exact ⟨hd, List.prefix_rfl⟩
    | ok manager =>
      simp only [Deployment.act, hregister]
      exact ⟨hd.register hadmits hregister, List.prefix_rfl⟩
  | deregister loaded => exact ⟨hd.deregister loaded, List.prefix_rfl⟩
  | operate op => exact ⟨hd.operate op, List.prefix_rfl⟩

theorem Coherent.runs (hd : d.Coherent factories policy) (hfaithful : Faithful factories)
    {actions : List Action} (hrun : d.Runs actions d') :
    d'.Coherent factories policy ∧ d.host.contexts <+: d'.host.contexts := by
  induction hrun with
  | start => exact ⟨hd, List.prefix_rfl⟩
  | act _ hadmits ih =>
    obtain ⟨hkept, hgrown⟩ := ih
    obtain ⟨hkept', hgrown'⟩ := hkept.act hfaithful hadmits
    exact ⟨hkept', hgrown.trans hgrown'⟩

/-- In every state that a run of a host leads to: each path list of the table has a context that
is isolated, has the policy of the host and lists the paths first; no two path lists have one
context, and none gets another one later; the manager has no two drivers for one class.  A set-up
that succeeds then delivers the context of its path list, a class of the name that is loaded there,
and a driver for the class that the manager has; and none fails because the class has a driver
already, unless that is the very answer of a factory. -/
theorem coherent_of_runs (hfaithful : Faithful factories) {actions : List Action}
    (hrun : (Deployment.start factories policy).Runs actions d) :
    (∀ e ∈ d.host.contexts, Serves d.forest policy e.1 e.2)
      ∧ (d.host.contexts.map (·.1)).Nodup ∧ (d.host.contexts.map (·.2)).Nodup
      ∧ (∀ more d', d.Runs more d' → ∀ paths id, d.host.context? paths = some id →
          d'.host.context? paths = some id)
      ∧ (d.manager.drivers.map (·.loadedClass.serial)).Nodup
      ∧ ∀ files options, Settles factories (d.setup files options).2 options.paths
          options.driverClass (d.setup files options).1.outcome := by
  obtain ⟨hd, -⟩ := (Coherent.start factories policy).runs hfaithful hrun
  refine ⟨hd.serves, hd.nodup_paths, hd.nodup_ids, fun more d' hmore paths id hid => ?_,
    hd.nodup_classes, fun files options => ?_⟩
  · obtain ⟨-, hgrown⟩ := hd.runs hfaithful hmore
    exact context?_of_prefix hgrown hid
  · obtain ⟨-, -, hsetup⟩ := hd.setup hfaithful files options
    exact hsetup

/-! ### A host with one driver -/

def cellarFactories : Factories := Factories.known.register "A" (.ofStart "jdbc:a:")

def cellarOptions : DriverOptions := { driverPath := "/drivers; ", driverClass := "A" }

/-- The first set-up makes a context and finds no class; then the context is given a source. -/
def cellarActions : List Action :=
  [.setup {} cellarOptions, .operate (.addSource 1 Forest.cellar), .setup {} cellarOptions]

def cellarDeployment : Deployment :=
  cellarActions.foldl act (.start cellarFactories {})

theorem runs_cellarDeployment :
    (Deployment.start cellarFactories {}).Runs cellarActions cellarDeployment := by
  have hsetup : ∀ (d : Deployment) files options, d.Admits (.setup files options) :=
    fun _ _ _ => trivial
  have hoperate : ∀ (d : Deployment) op, d.Admits (.operate op) := fun _ _ => trivial
  exact ((Runs.start.act (hsetup _ _ _)).act (hoperate _ _)).act (hsetup _ _ _)

theorem cellarDeployment_bound :
    ∃ b, (cellarDeployment.setup {} cellarOptions).1.outcome = .bound b ∧ b.reused = true := by
  have h : (match (cellarDeployment.setup {} cellarOptions).1.outcome with
      | .bound b => b.reused
      | _ => false) = true := by decide +kernel
  split at h
  · rename_i b hb
    exact ⟨b, hb, h⟩
  · cases h

/-- The next set-up finds the class and its driver in the context of the path list. -/
theorem cellarDeployment_delivers :
    cellarDeployment.host.contexts = [(["/drivers"], 1)]
      ∧ Serves cellarDeployment.forest {} ["/drivers"] 1
      ∧ ∃ b, b.reused = true ∧ Delivers (cellarDeployment.setup {} cellarOptions).2 1 "A" b := by
  obtain ⟨hserves, -, -, -, -, hsetup⟩ :=
    coherent_of_runs (faithful_known.register_ofStart "A" "jdbc:a:") runs_cellarDeployment
  have hcontexts : cellarDeployment.host.contexts = [(["/drivers"], 1)] := by decide +kernel
  obtain ⟨b, hbound, hreused⟩ := cellarDeployment_bound
  obtain ⟨id, hid, hdelivers⟩ := (hsetup {} cellarOptions).delivers b hbound
  have hone : (cellarDeployment.setup {} cellarOptions).2.host.context? cellarOptions.paths
      = some 1 := by decide +kernel
  rw [hone, Option.some.injEq] at hid
  subst hid
  exact ⟨hcontexts, hserves _ (hcontexts ▸ List.mem_cons_self), b, hreused, hdelivers⟩

/-- The context is there and has a source with the class, and nobody has set the class up. -/
def cellarOpened : Deployment :=
  ((Deployment.start cellarFactories {}).act (.setup {} cellarOptions)).act
    (.operate (.addSource 1 Forest.cellar))

theorem runs_cellarOpened :
    (Deployment.start cellarFactories {}).Runs
      [.setup {} cellarOptions, .operate (.addSource 1 Forest.cellar)] cellarOpened := by
  have hsetup : ∀ (d : Deployment) files options, d.Admits (.setup files options) :=
    fun _ _ _ => trivial
  have hoperate : ∀ (d : Deployment) op, d.Admits (.operate op) := fun _ _ => trivial
  exact (Runs.start.act (hsetup _ _ _)).act (hoperate _ _)

end Deployment

end DriverClasses.Setup
