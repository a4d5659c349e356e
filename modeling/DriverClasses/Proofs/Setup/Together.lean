import DriverClasses.Proofs.Setup.Loads

/-!
# One driver for all who ask

However set-ups overlap, those of one path list work in one context, and those of one path list and
class that succeed have one class handle and one driver.  One of them has made it, unless it was
there before them all, and a registration that was refused ends with the driver of the one that came
first (`concerted_of_runs`).
-/

namespace DriverClasses.Setup

open DriverClasses.Files DriverClasses.ClassFile DriverClasses.Loading DriverClasses.Registry
open DriverClasses.Location

variable {files : FileTree} {options : DriverOptions} {s : SetupShared}
  {before after : SetupStage} {m m₀ : SetupMachine} {i j id : Nat} {factories : Factories}
  {policy : LinkPolicy} {d e : Deployment} {driver : Driver} {h : LoadedClass} {name : String}

theorem Settles.mono {paths : List String} {outcome : Outcome}
    (hs : Settles factories d paths name outcome) (hgrown : d.Grown e) :
    Settles factories e paths name outcome := by
  refine ⟨fun b hb => ?_, hs.blames⟩
  obtain ⟨id, hid, hdelivers⟩ := hs.delivers b hb
  exact ⟨id, hgrown.context? hid, hdelivers.contextId_eq, hgrown.forest.cached? hdelivers.cached,
    hdelivers.class_eq, hgrown.drivers.subset hdelivers.registered⟩

/-- What is so of a set-up at this stage. -/
def Fits (factories : Factories) (d : Deployment) (options : DriverOptions) : SetupStage → Prop
  | .findContext | .checkResident _ | .loading _ _ => True
  | .findDriver id h | .making id h => d.forest.cached? id options.driverClass = some h
  | .registering id h driver =>
    d.forest.cached? id options.driverClass = some h ∧ driver.loadedClass = h
  | .settling id h error =>
    d.forest.cached? id options.driverClass = some h
      ∧ (∃ other own, error = .alreadyRegistered other own)
      ∧ ∃ driver, d.manager.forClass? h = some driver
  | .returned outcome => Settles factories d options.paths options.driverClass outcome

theorem Fits.mono {stage : SetupStage} (hfits : Fits factories d options stage)
    (hgrown : d.Grown e) : Fits factories e options stage := by
  cases stage with
  | findContext | checkResident | loading => trivial
  | findDriver id h => exact hgrown.forest.cached? hfits
  | making id h => exact hgrown.forest.cached? hfits
  | registering id h driver => exact ⟨hgrown.forest.cached? hfits.1, hfits.2⟩
  | settling id h error =>
    obtain ⟨hcached, herror, driver, hdriver⟩ := hfits
    exact ⟨hgrown.forest.cached? hcached, herror, driver, hgrown.forClass? hdriver⟩
  | returned outcome => exact Settles.mono hfits hgrown

/-- What is so of the set-ups that run from `d`, and of what they share. -/
structure Kept (factories : Factories) (d : Deployment) (m : SetupMachine) : Prop where
  factories_eq : m.shared.deployment.host.factories = factories
  grown : d.Grown m.shared.deployment
  placed : m.Placed
  loads : m.Loads
  nodup_ids : (m.shared.deployment.host.contexts.map (·.2)).Nodup
  opened : ∀ entry ∈ m.shared.deployment.host.contexts,
    (m.shared.deployment.forest.context? entry.2).isSome
  owned : ∀ driver ∈ m.shared.deployment.manager.drivers,
    ∃ id name, m.shared.deployment.forest.cached? id name = some driver.loadedClass
  nodup_classes : (m.shared.deployment.manager.drivers.map (·.loadedClass.serial)).Nodup
  fits : ∀ {i options stage}, m.At i options stage →
    Fits factories m.shared.deployment options stage

namespace Kept

open SetupMachine

theorem start (hd : d.Coherent factories policy) (calls : List DriverOptions) :
    Kept factories d (.start d calls) where
  factories_eq := hd.factories_eq
  grown := .refl d
  placed := placed_start d calls
  loads := loads_start hd calls
  nodup_ids := hd.nodup_ids
  opened entry hentry := by
    obtain ⟨c, hc, -⟩ := (hd.serves entry hentry).context
    exact Option.isSome_of_eq_some hc
  owned driver hdriver := ⟨_, _, hd.owned driver hdriver⟩
  nodup_classes := hd.nodup_classes
  fits hat := by
    rw [stage_of_at_start hat]
    trivial

/-- The driver that is found for a class in a cache is one for that class. -/
theorem class_eq (hm : Kept factories d m)
    (hcached : m.shared.deployment.forest.cached? id name = some h)
    (hdriver : m.shared.deployment.manager.forClass? h = some driver) :
    driver.loadedClass = h ∧ driver ∈ m.shared.deployment.manager.drivers := by
  obtain ⟨hmem, hserial⟩ := Manager.mem_of_forClass? hdriver
  obtain ⟨own, other, hown⟩ := hm.owned driver hmem
  obtain ⟨-, -, hclass⟩ := hm.loads.eq_of_serial hown hcached hserial
  exact ⟨hclass, hmem⟩

/-- A driver that is found for the class of a set-up settles it. -/
theorem settles (hm : Kept factories d m) (hat : m.At i options before)
    (hid : before.contextId? = some id)
    (hcached : m.shared.deployment.forest.cached? id options.driverClass = some h)
    (hdriver : m.shared.deployment.manager.forClass? h = some driver) (reused : Bool) :
    Settles factories m.shared.deployment options.paths options.driverClass
      (.bound { contextId := id, loadedClass := h, driver, reused }) := by
  obtain ⟨hclass, hmem⟩ := hm.class_eq hcached hdriver
  exact .bound (hm.placed hat hid) ⟨rfl, hcached, hclass, hmem⟩

theorem fits_step (hm : Kept factories d m) (hfaithful : Faithful factories)
    (hat : m.At i options before) (hdid : Did files options m.shared before after s) :
    Fits factories s.deployment options after := by
  have hbefore := hm.fits hat
  cases hdid with
  | still => exact hbefore
  | unusable herror => exact Settles.failed herror
  | found | opened | absent | driverless | loading => trivial
  | resident hcached => exact hcached
  | reused hdriver => exact hm.settles hat rfl hbefore hdriver true
  | loaded hresult => exact hm.loads.cached?_of_loaded hm.placed hat hresult
  | unloaded _ hnone hfault =>
    refine ⟨fun b hb => ?_, fun other own hfailed => absurd hfailed (hfault _)⟩
    rw [hb] at hnone
    cases hnone
  | unmade hmade =>
    rw [hm.factories_eq] at hmade
    exact Settles.unmade hmade
  | made hmade =>
    rw [hm.factories_eq] at hmade
    exact ⟨hbefore, hfaithful.instantiate hmade⟩
  | registered hnone =>
    obtain ⟨hcached, hclass⟩ := hbefore
    refine Settles.bound (hm.placed hat rfl) ⟨rfl, hcached, hclass, ?_⟩
    exact List.mem_append_right _ List.mem_cons_self
  | refused hother =>
    -- The driver is one for the class of the set-up, so the one in its way is, too.
    obtain ⟨hcached, rfl⟩ := hbefore
    exact ⟨hcached, ⟨_, _, rfl⟩, _, hother⟩
  | settled =>
    obtain ⟨hcached, ⟨other, own, rfl⟩, driver, hdriver⟩ := hbefore
    have hsettles := hm.settles hat rfl hcached hdriver true
    unfold Deployment.settle
    rw [hdriver]
    exact hsettles

/-- The manager after a step: a set-up has registered its driver and returns with it, or the
manager is the one of before and no set-up that has made a driver has come to return. -/
theorem manager_step (hm : Kept factories d m) (hat : m.At i options before)
    (hdid : Did files options m.shared before after s) :
    s.deployment.manager = m.shared.deployment.manager
        ∧ (∀ b, after = .returned (.bound b) → b.reused = false → before = after)
      ∨ ∃ id h driver, before = .registering id h driver
        ∧ after = .returned (.bound { contextId := id, loadedClass := h, driver, reused := false })
        ∧ m.shared.deployment.forest.cached? id options.driverClass = some h
        ∧ driver.loadedClass = h ∧ m.shared.deployment.manager.forClass? h = none
        ∧ s.deployment.manager
          = { drivers := m.shared.deployment.manager.drivers ++ [driver] } := by
  cases hdid with
  | registered hnone =>
    obtain ⟨hcached, rfl⟩ := hm.fits hat
    exact .inr ⟨_, _, _, rfl, rfl, hcached, rfl, hnone, rfl⟩
  | still => exact .inl ⟨rfl, fun _ _ _ => rfl⟩
  | reused =>
    refine .inl ⟨rfl, fun b hafter hnew => ?_⟩
    cases hafter
    cases hnew
  | unloaded _ hnone =>
    refine .inl ⟨rfl, fun b hafter _ => ?_⟩
    cases hafter
    cases hnone
  | settled id h error =>
    refine .inl ⟨rfl, fun b hafter hnew => ?_⟩
    rw [SetupStage.returned.injEq] at hafter
    unfold Deployment.settle at hafter
    split at hafter
    · split at hafter
      · cases hafter
        cases hnew
      · cases hafter
    · cases hafter
  | _ => exact .inl ⟨rfl, fun b hafter _ => by cases hafter⟩

/-- The table after a step. -/
theorem contexts_step (hm : Kept factories d m)
    (hdid : Did files options m.shared before after s) :
    s.deployment.host.contexts = m.shared.deployment.host.contexts
      ∨ ∃ entry, s.deployment.host.contexts = m.shared.deployment.host.contexts ++ [entry]
        ∧ m.shared.deployment.forest.context? entry.2 = none
        ∧ (s.deployment.forest.context? entry.2).isSome := by
  cases hdid with
  | opened _ _ hcreate =>
    obtain ⟨sources, -, rfl, rfl⟩ := Deployment.create_eq_ok hcreate
    have hnone := hm.loads.context?_nextId
    refine .inr ⟨_, rfl, hnone, ?_⟩
    rw [Forest.context?_append, hnone, Option.none_or, if_pos rfl]
    rfl
  | _ => exact .inl rfl

/-- No context goes. -/
theorem isSome_step (hdid : Did files options m.shared before after s) {own : Nat}
    (hown : (m.shared.deployment.forest.context? own).isSome) :
    (s.deployment.forest.context? own).isSome := by
  obtain ⟨c, hc⟩ := Option.isSome_iff_exists.mp hown
  obtain ⟨c', hc', -⟩ := hdid.grown.forest.contexts hc
  exact Option.isSome_of_eq_some hc'

theorem step (hm : Kept factories d m) (hfaithful : Faithful factories)
    (hat : m.At i options before) (hdid : Did files options m.shared before after s) :
    Kept factories d (m.advance i options after s) where
  factories_eq := hdid.grown.factories_eq.trans hm.factories_eq
  grown := hm.grown.trans hdid.grown
  placed := Placed.step hm.placed hat hdid
  loads := hm.loads.step hm.placed hat hdid
  nodup_ids := by
    change (s.deployment.host.contexts.map (·.2)).Nodup
    rcases hm.contexts_step hdid with hsame | ⟨entry, hmore, hnew, -⟩
    · rw [hsame]
      exact hm.nodup_ids
    · rw [hmore]
      refine nodup_map_append hm.nodup_ids fun other hother heq => ?_
      have hthere := hm.opened other hother
      rw [heq, hnew] at hthere
      cases hthere
  opened := by
    change ∀ entry ∈ s.deployment.host.contexts, _
    intro entry hentry
    rcases hm.contexts_step hdid with hsame | ⟨new, hmore, -, hthere⟩
    · rw [hsame] at hentry
      exact isSome_step hdid (hm.opened entry hentry)
    · rw [hmore, List.mem_append, List.mem_singleton] at hentry
      rcases hentry with hentry | rfl
      · exact isSome_step hdid (hm.opened entry hentry)
      · exact hthere
  owned := by
    change ∀ driver ∈ s.deployment.manager.drivers, _
    intro driver hdriver
    rcases hm.manager_step hat hdid with ⟨hsame, -⟩ | ⟨id, h, new, -, -, hcached, hclass, -, hmore⟩
    · rw [hsame] at hdriver
      obtain ⟨own, name, hown⟩ := hm.owned driver hdriver
      exact ⟨own, name, hdid.grown.forest.cached? hown⟩
    · rw [hmore, List.mem_append, List.mem_singleton] at hdriver
      rcases hdriver with hdriver | rfl
      · obtain ⟨own, name, hown⟩ := hm.owned driver hdriver
        exact ⟨own, name, hdid.grown.forest.cached? hown⟩
      · exact ⟨id, options.driverClass, hdid.grown.forest.cached? (hclass ▸ hcached)⟩
  nodup_classes := by
    change (s.deployment.manager.drivers.map (·.loadedClass.serial)).Nodup
    rcases hm.manager_step hat hdid with ⟨hsame, -⟩ | ⟨_, _, driver, -, -, -, rfl, hnone, hmore⟩
    · rw [hsame]
      exact hm.nodup_classes
    · rw [hmore]
      exact nodup_map_append hm.nodup_classes (Manager.forClass?_eq_none_iff.mp hnone)
  fits := by
    intro j other stage hj
    rcases (at_advance hat _ _).mp hj with ⟨rfl, rfl, rfl⟩ | ⟨-, hj⟩
    · exact hm.fits_step hfaithful hat hdid
    · exact (hm.fits hj).mono hdid.grown

end Kept

/-! ### Who has made what -/

/-- The set-up has delivered a driver that it has made itself. -/
def Made (m : SetupMachine) (i : Nat) (options : DriverOptions) (b : Binding) : Prop :=
  m.At i options (.returned (.bound b)) ∧ b.reused = false

/-- The drivers that the manager has got meanwhile, and the set-ups that have made them. -/
structure Credits (d : Deployment) (gained : List Driver) (m : SetupMachine) : Prop where
  drivers_eq : m.shared.deployment.manager.drivers = d.manager.drivers ++ gained
  of_gained : ∀ driver ∈ gained, ∃ i options b, Made m i options b ∧ b.driver = driver
  of_made : ∀ {i options b}, Made m i options b → b.driver ∈ gained
  once : ∀ {i j options options' b b'}, Made m i options b → Made m j options' b' →
    b.loadedClass = b'.loadedClass → i = j

namespace Credits

open SetupMachine

variable {gained : List Driver}

theorem start (d : Deployment) (calls : List DriverOptions) : Credits d [] (.start d calls) where
  drivers_eq := (List.append_nil _).symm
  of_gained _ hdriver := absurd hdriver List.not_mem_nil
  of_made hmade := by cases stage_of_at_start hmade.1
  once hmade := by cases stage_of_at_start hmade.1

/-- There is a driver for the class of who has made one. -/
theorem forClass?_ne_none (hm : Kept factories d m) {b : Binding} (hmade : Made m i options b) :
    m.shared.deployment.manager.forClass? b.loadedClass ≠ none := by
  intro hnone
  obtain ⟨id, -, hdelivers⟩ := Settles.delivers (hm.fits hmade.1) b rfl
  exact Manager.forClass?_eq_none_iff.mp hnone b.driver hdelivers.registered
    (congrArg LoadedClass.serial hdelivers.class_eq)

/-- Who has delivered a driver has done so. -/
theorem made_advance (hat : m.At i options before)
    (hdid : Did files options m.shared before after s) {other : DriverOptions} {b : Binding}
    (hmade : Made m j other b) : Made (m.advance i options after s) j other b := by
  refine ⟨(at_advance hat _ _).mpr ?_, hmade.2⟩
  by_cases hij : j = i
  · subst hij
    obtain ⟨rfl, rfl⟩ := hat.unique hmade.1
    cases hdid
    exact .inl ⟨rfl, rfl, rfl⟩
  · exact .inr ⟨hij, hmade.1⟩

theorem step (hc : Credits d gained m) (hm : Kept factories d m) (hat : m.At i options before)
    (hdid : Did files options m.shared before after s) :
    ∃ gained, Credits d gained (m.advance i options after s) := by
  have hkept : ∀ {j other b}, Made m j other b → Made (m.advance i options after s) j other b :=
    made_advance hat hdid
  rcases hm.manager_step hat hdid with ⟨hsame, hstays⟩ |
    ⟨id, h, driver, rfl, rfl, -, -, hnone, hmore⟩
  · have hback : ∀ {j other b}, Made (m.advance i options after s) j other b →
        Made m j other b := by
      rintro j other b ⟨hj, hnew⟩
      rcases (at_advance hat _ _).mp hj with ⟨rfl, rfl, hafter⟩ | ⟨-, hj⟩
      · rw [hstays b hafter.symm hnew, ← hafter] at hat
        exact ⟨hat, hnew⟩
      · exact ⟨hj, hnew⟩
    refine ⟨gained, ?_, fun driver hdriver => ?_, fun hmade => hc.of_made (hback hmade),
      fun hmade hmade' => hc.once (hback hmade) (hback hmade')⟩
    · exact (congrArg Manager.drivers hsame).trans hc.drivers_eq
    · obtain ⟨j, other, b, hmade, hb⟩ := hc.of_gained driver hdriver
      exact ⟨j, other, b, hkept hmade, hb⟩
  · have hback : ∀ {j other b}, Made (m.advance i options (.returned (.bound
        { contextId := id, loadedClass := h, driver, reused := false })) s) j other b →
        j = i ∧ b = { contextId := id, loadedClass := h, driver, reused := false }
          ∨ Made m j other b := by
      rintro j other b ⟨hj, hnew⟩
      rcases (at_advance hat _ _).mp hj with ⟨rfl, rfl, hafter⟩ | ⟨-, hj⟩
      · cases hafter
        exact .inl ⟨rfl, rfl⟩
      · exact .inr ⟨hj, hnew⟩
    refine ⟨gained ++ [driver], ?_, fun other hother => ?_, fun hmade => ?_,
      fun hmade hmade' hclass => ?_⟩
    · change s.deployment.manager.drivers = _
      rw [hmore, hc.drivers_eq, List.append_assoc]
    · rcases List.mem_append.mp hother with hother | hother
      · obtain ⟨j, options', b, hmade, hb⟩ := hc.of_gained other hother
        exact ⟨j, options', b, hkept hmade, hb⟩
      · rw [List.mem_singleton.mp hother]
        exact ⟨i, options, _, ⟨(at_advance hat _ _).mpr (.inl ⟨rfl, rfl, rfl⟩), rfl⟩, rfl⟩
    · rcases hback hmade with ⟨-, rfl⟩ | hmade
      · exact List.mem_append_right _ List.mem_cons_self
      · exact List.mem_append_left _ (hc.of_made hmade)
    · -- Who had made a driver for the class before would have had it registered.
      rcases hback hmade with ⟨rfl, rfl⟩ | hold <;> rcases hback hmade' with ⟨rfl, rfl⟩ | hold'
      · rfl
      · exact absurd (hclass ▸ hnone) (forClass?_ne_none hm hold')
      · exact absurd (hclass.symm ▸ hnone) (forClass?_ne_none hm hold)
      · exact hc.once hold hold' hclass

end Credits

/-! ### The law -/

/-- What set-ups come to that run at once from `d`, while the manager gains these drivers. -/
structure Concerted (factories : Factories) (d : Deployment) (gained : List Driver)
    (m : SetupMachine) : Prop where
  /-- Those of one path list work in one context. -/
  context_eq : ∀ {i j options options' stage stage' id id'}, m.At i options stage →
    m.At j options' stage' → options'.paths = options.paths → stage.contextId? = some id →
    stage'.contextId? = some id' → id' = id
  /-- Those of one path list and class deliver the same. -/
  delivery_eq : ∀ {i j options options' b b'}, m.At i options (.returned (.bound b)) →
    m.At j options' (.returned (.bound b')) → options'.paths = options.paths →
    options'.driverClass = options.driverClass →
    b'.contextId = b.contextId ∧ b'.loadedClass = b.loadedClass ∧ b'.driver = b.driver
  /-- Those that deliver the same driver are of one path list and class. -/
  options_eq : ∀ {i j options options' b b'}, m.At i options (.returned (.bound b)) →
    m.At j options' (.returned (.bound b')) → b'.driver = b.driver →
    options'.paths = options.paths ∧ options'.driverClass = options.driverClass
  registered : ∀ {i options b}, m.At i options (.returned (.bound b)) →
    b.driver.loadedClass = b.loadedClass
      ∧ m.shared.deployment.manager.forClass? b.loadedClass = some b.driver
  drivers_eq : m.shared.deployment.manager.drivers = d.manager.drivers ++ gained
  nodup_classes : (m.shared.deployment.manager.drivers.map (·.loadedClass.serial)).Nodup
  of_gained : ∀ driver ∈ gained, ∃ i options b, Made m i options b ∧ b.driver = driver
  /-- One of them has made the driver, or it was there and none has. -/
  maker : ∀ {i options b}, m.At i options (.returned (.bound b)) →
    b.driver ∈ gained ∧ (∃! j, ∃ options' b', Made m j options' b'
        ∧ options'.paths = options.paths ∧ options'.driverClass = options.driverClass)
      ∨ b.driver ∈ d.manager.drivers ∧ ∀ j options' b', Made m j options' b' →
        options'.paths = options.paths → options'.driverClass ≠ options.driverClass
  /-- That the class has a driver already is nothing that a set-up finds out. -/
  blames : ∀ {i options other own},
    m.At i options (.returned (.failed (.registry (.alreadyRegistered other own)))) →
    ∃ loaded, factories.instantiate loaded = .error (.alreadyRegistered other own)

namespace Kept

variable {gained : List Driver}

theorem delivers (hm : Kept factories d m) {b : Binding}
    (hat : m.At i options (.returned (.bound b))) :
    m.shared.deployment.host.context? options.paths = some b.contextId
      ∧ Delivers m.shared.deployment b.contextId options.driverClass b := by
  obtain ⟨id, hid, hdelivers⟩ := Settles.delivers (hm.fits hat) b rfl
  rw [← hdelivers.contextId_eq] at hid hdelivers
  exact ⟨hid, hdelivers⟩

theorem forClass?_of_delivers (hm : Kept factories d m) {b : Binding}
    (hdelivers : Delivers m.shared.deployment id name b) :
    m.shared.deployment.manager.forClass? b.loadedClass = some b.driver := by
  rw [← hdelivers.class_eq]
  exact Manager.forClass?_of_mem hm.nodup_classes hdelivers.registered

theorem delivery_eq (hm : Kept factories d m) {options' : DriverOptions} {b b' : Binding}
    (hi : m.At i options (.returned (.bound b))) (hj : m.At j options' (.returned (.bound b')))
    (hpaths : options'.paths = options.paths)
    (hclass : options'.driverClass = options.driverClass) :
    b'.contextId = b.contextId ∧ b'.loadedClass = b.loadedClass ∧ b'.driver = b.driver := by
  obtain ⟨hid, hdelivers⟩ := hm.delivers hi
  obtain ⟨hid', hdelivers'⟩ := hm.delivers hj
  rw [hpaths, hid, Option.some.injEq] at hid'
  have hcached := hdelivers'.cached
  rw [← hid', hclass, hdelivers.cached, Option.some.injEq] at hcached
  have hdriver := hm.forClass?_of_delivers hdelivers'
  rw [← hcached, hm.forClass?_of_delivers hdelivers, Option.some.injEq] at hdriver
  exact ⟨hid'.symm, hcached.symm, hdriver.symm⟩

/-- A driver is one for its class, and the class is in one cache only. -/
theorem options_eq (hm : Kept factories d m) {options' : DriverOptions} {b b' : Binding}
    (hi : m.At i options (.returned (.bound b))) (hj : m.At j options' (.returned (.bound b')))
    (hdriver : b'.driver = b.driver) :
    options'.paths = options.paths ∧ options'.driverClass = options.driverClass := by
  obtain ⟨hid, hdelivers⟩ := hm.delivers hi
  obtain ⟨hid', hdelivers'⟩ := hm.delivers hj
  have hclass : b'.loadedClass = b.loadedClass := by
    rw [← hdelivers'.class_eq, hdriver, hdelivers.class_eq]
  obtain ⟨hsame, hname, -⟩ := hm.loads.eq_of_serial hdelivers'.cached hdelivers.cached
    (congrArg LoadedClass.serial hclass)
  rw [hsame] at hid'
  have hentry := List.inj_on_of_nodup_map hm.nodup_ids (Deployment.mem_of_context? hid')
    (Deployment.mem_of_context? hid) rfl
  exact ⟨(Prod.mk.inj hentry).1, hname⟩

theorem concerted (hm : Kept factories d m) (hc : Credits d gained m) :
    Concerted factories d gained m where
  context_eq hi hj hpaths hid hid' := by
    have hown := hm.placed hi hid
    rw [← hpaths, hm.placed hj hid', Option.some.injEq] at hown
    exact hown
  delivery_eq := hm.delivery_eq
  options_eq := hm.options_eq
  registered hi := by
    obtain ⟨-, hdelivers⟩ := hm.delivers hi
    exact ⟨hdelivers.class_eq, hm.forClass?_of_delivers hdelivers⟩
  drivers_eq := hc.drivers_eq
  nodup_classes := hm.nodup_classes
  of_gained := hc.of_gained
  maker {i options b} hi := by
    by_cases hgained : b.driver ∈ gained
    · obtain ⟨j, options', b', hmade, hdriver⟩ := hc.of_gained _ hgained
      obtain ⟨hpaths, hclass⟩ := hm.options_eq hi hmade.1 hdriver
      refine .inl ⟨hgained, j, ⟨options', b', hmade, hpaths, hclass⟩, ?_⟩
      rintro k ⟨options'', b'', hmade', hpaths', hclass'⟩
      obtain ⟨-, hsame, -⟩ := hm.delivery_eq hmade.1 hmade'.1 (hpaths'.trans hpaths.symm)
        (hclass'.trans hclass.symm)
      exact hc.once hmade' hmade hsame
    · obtain ⟨-, hdelivers⟩ := hm.delivers hi
      have hmem := hdelivers.registered
      rw [hc.drivers_eq, List.mem_append] at hmem
      refine .inr ⟨hmem.resolve_right hgained, fun j options' b' hmade hpaths hclass => ?_⟩
      obtain ⟨-, -, hdriver⟩ := hm.delivery_eq hi hmade.1 hpaths hclass
      exact hgained (hdriver ▸ hc.of_made hmade)
  blames hi := Settles.blames (hm.fits hi) _ _ rfl

end Kept

/-- Set-ups of any options run at once on a host that some run has led to, in any order of their
steps and with any files at each. -/
theorem concerted_of_runs (hfaithful : Faithful factories) {actions : List Action}
    (hrun : (Deployment.start factories policy).Runs actions d) (calls : List DriverOptions)
    {m : SetupMachine} (hm : (SetupMachine.start d calls).Runs m) :
    ∃ gained, Concerted factories d gained m := by
  obtain ⟨hd, -⟩ := (Deployment.Coherent.start factories policy).runs hfaithful hrun
  have hall : Kept factories d m ∧ ∃ gained, Credits d gained m :=
    hm.invariant (P := fun m => Kept factories d m ∧ ∃ gained, Credits d gained m)
      ⟨.start hd calls, [], .start d calls⟩
      fun ⟨hkept, gained, hcredits⟩ hat hdid =>
        ⟨hkept.step hfaithful hat hdid, hcredits.step hkept hat hdid⟩
  obtain ⟨hkept, gained, hcredits⟩ := hall
  exact ⟨gained, hkept.concerted hcredits⟩

/-! ### A race -/

namespace SetupMachine

/-- Two set-ups of one class, from path lists that are spelt differently. -/
def cellarRaceStart : SetupMachine :=
  .start Deployment.cellarOpened
    [Deployment.cellarOptions, { Deployment.cellarOptions with driverPath := "/drivers" }]

/-- They take turns, so that each has made a driver before one is registered. -/
def cellarRace : SetupMachine := cellarRaceStart.run {} (turns 2 16)

/-- What is asked for by the set-up of this number, and whether it has delivered a driver that was
registered before. -/
def delivered? (m : SetupMachine) (i : Nat) : Option (List String × String × Bool) := do
  let call ← m.calls[i]?
  match call.stage with
  | .returned (.bound b) => some (call.options.paths, call.options.driverClass, b.reused)
  | _ => none

theorem exists_at_of_delivered? {paths : List String} {reused : Bool}
    (hm : m.delivered? i = some (paths, name, reused)) :
    ∃ options b, m.At i options (.returned (.bound b)) ∧ options.paths = paths
      ∧ options.driverClass = name ∧ b.reused = reused := by
  obtain ⟨⟨options, stage⟩, hcall, hstage⟩ := Option.bind_eq_some_iff.mp hm
  dsimp only at hstage
  split at hstage
  · rename_i b
    simp only [Option.some.injEq, Prod.mk.injEq] at hstage
    obtain ⟨rfl, rfl, rfl⟩ := hstage
    exact ⟨options, b, hcall, rfl, rfl, rfl⟩
  · cases hstage

/-- One has made the driver that both deliver, and another one was made for nothing. -/
theorem concerted_cellarRace :
    cellarRace.shared.deployment.made = 2
      ∧ ∃ options options' b b', cellarRace.At 0 options (.returned (.bound b))
        ∧ cellarRace.At 1 options' (.returned (.bound b')) ∧ b.reused = false ∧ b'.reused = true
        ∧ b'.driver = b.driver
        ∧ cellarRace.shared.deployment.manager.forClass? b.loadedClass = some b.driver := by
  have hfaithful := faithful_known.register_ofStart "A" "jdbc:a:"
  have hstart : cellarRaceStart.Runs cellarRaceStart := .start
  obtain ⟨gained, hall⟩ := concerted_of_runs hfaithful Deployment.runs_cellarOpened
    [Deployment.cellarOptions, { Deployment.cellarOptions with driverPath := "/drivers" }]
    (hstart.run {} (turns 2 16))
  have hfirst : cellarRace.delivered? 0 = some (["/drivers"], "A", false) := by decide +kernel
  have hsecond : cellarRace.delivered? 1 = some (["/drivers"], "A", true) := by decide +kernel
  obtain ⟨options, b, hat, hpaths, hclass, hnew⟩ := exists_at_of_delivered? hfirst
  obtain ⟨options', b', hat', hpaths', hclass', hreused⟩ := exists_at_of_delivered? hsecond
  obtain ⟨-, -, hdriver⟩ := hall.delivery_eq hat hat' (hpaths'.trans hpaths.symm)
    (hclass'.trans hclass.symm)
  exact ⟨by decide +kernel, options, options', b, b', hat, hat', hnew, hreused, hdriver,
    (hall.registered hat).2⟩

end SetupMachine

end DriverClasses.Setup
