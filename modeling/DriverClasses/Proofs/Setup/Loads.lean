import DriverClasses.Proofs.Setup.Steps

/-!
# The loads among set-ups

Set-ups that run at once load classes at once, each in the context of its path list.  So there is a
machine of loads beside them, in which the set-up of each number loads its class, and which has the
forest of the set-ups (`Shown`).  A set-up gets to its context before it loads, and this is the one
that the table will have for the path list.
-/

namespace DriverClasses.Setup

open DriverClasses.Files DriverClasses.ClassFile DriverClasses.Loading DriverClasses.Registry
open DriverClasses.Location

/-- The context of a set-up, once it has one. -/
def SetupStage.contextId? : SetupStage → Option Nat
  | .findContext => none
  | .checkResident id | .findDriver id _ | .loading id _ | .making id _ | .registering id _ _
  | .settling id _ _ => some id
  | .returned outcome => outcome.contextId?

/-- Where the load of a set-up is. -/
def SetupStage.Shows : SetupStage → Stage → Prop
  | .findContext, l | .checkResident _, l | .findDriver _ _, l => l = .checkCache
  | .loading _ stage, l => l = stage
  | .making _ _, l | .registering _ _ _, l | .settling _ _ _, l | .returned _, l =>
    l = .checkCache ∨ ∃ result, l = .returned result

theorem contextId?_settle {d : Deployment} {id own : Nat} {h : LoadedClass}
    {error : RegistryError} (hown : (d.settle id h error).contextId? = some own) : own = id := by
  unfold Deployment.settle at hown
  split at hown
  · split at hown
    · exact (Option.some.inj hown).symm
    · cases hown
  · cases hown

variable {files : FileTree} {options : DriverOptions} {s : SetupShared}
  {before after : SetupStage} {m m₀ : SetupMachine} {i id : Nat} {factories : Factories}
  {policy : LinkPolicy} {d : Deployment}

namespace SetupMachine

/-- Each set-up that has a context has the one that the table has for its path list. -/
def Placed (m : SetupMachine) : Prop :=
  ∀ {i options stage id}, m.At i options stage → stage.contextId? = some id →
    m.shared.deployment.host.context? options.paths = some id

theorem placed_start (d : Deployment) (calls : List DriverOptions) : (start d calls).Placed := by
  intro i options stage id hat hid
  rw [stage_of_at_start hat] at hid
  cases hid

theorem Placed.step (h : m.Placed) (hat : m.At i options before)
    (hdid : Did files options m.shared before after s) : (m.advance i options after s).Placed := by
  intro j other stage own hj hown
  rcases (at_advance hat _ _).mp hj with ⟨rfl, rfl, rfl⟩ | ⟨-, hj⟩
  · have hkept : ∀ {own}, before.contextId? = some own →
        s.deployment.host.context? other.paths = some own := fun hid =>
      hdid.grown.context? (h hat hid)
    cases hdid with
    | still => exact hkept hown
    | unusable => cases hown
    | found hfound =>
      cases hown
      exact hfound
    | opened _ hnone =>
      cases hown
      exact Deployment.context?_append _ hnone
    | unloaded _ hnone =>
      change Outcome.contextId? _ = _ at hown
      rw [hnone] at hown
      cases hown
    | unmade => cases hown
    | settled =>
      rw [contextId?_settle hown]
      exact hkept rfl
    | _ => exact hkept hown
  · exact hdid.grown.context? (h hj hown)

/-! ### The machine of the loads -/

/-- The machine shows the loads of the set-ups, in the contexts that the table gives them. -/
structure Shown (table : List String → Nat) (m : SetupMachine) (l : Machine) : Prop where
  shared_eq : l.shared = m.shared.loads
  length_eq : l.calls.length = m.calls.length
  shown : ∀ {i options stage}, m.At i options stage →
    ∃ at_, l.At i (table options.paths) options.driverClass at_ ∧ stage.Shows at_
      ∧ (at_ = .checkCache
        ∨ m.shared.deployment.host.context? options.paths = some (table options.paths))

/-- The contexts of the table. -/
def Listed (m : SetupMachine) (id : Nat) : Prop :=
  ∃ paths, m.shared.deployment.host.context? paths = some id

/-- However the table will go on, there is a machine that shows the loads. -/
def Loads (m : SetupMachine) : Prop :=
  ∀ table : List String → Nat,
    (∀ {paths id}, m.shared.deployment.host.context? paths = some id → table paths = id) →
    ∃ l log, Shown table m l ∧ Gathered m.Listed log l

theorem loads_start (hd : d.Coherent factories policy) (calls : List DriverOptions) :
    (start d calls).Loads := by
  intro table htable
  obtain ⟨ops, hsound⟩ := hd.sound
  refine ⟨.start d.forest (calls.map fun options => (table options.paths, options.driverClass)), [],
    ⟨rfl, by simp [Machine.start, start], fun {i options stage} hat => ?_⟩, ?_⟩
  · cases stage_of_at_start hat
    refine ⟨.checkCache, ?_, rfl, .inl rfl⟩
    unfold At start at hat
    rw [List.getElem?_map, Option.map_eq_some_iff] at hat
    obtain ⟨own, hown, heq⟩ := hat
    rw [SetupCall.mk.injEq] at heq
    unfold Machine.At Machine.start
    rw [List.getElem?_map, List.getElem?_map, hown, heq.1]
    rfl
  · refine .start hsound ?_ _
    rintro id ⟨paths, hid⟩
    obtain ⟨c, hc, halone, -⟩ := (hd.serves _ (Deployment.mem_of_context? hid)).context
    exact ⟨c, hc, halone⟩

/-- A step that is none of a load, and that opens no context. -/
theorem Loads.step_beside (h : m.Loads) (hat : m.At i options before)
    (hloads : s.loads = m.shared.loads) (hhost : s.deployment.host = m.shared.deployment.host)
    (hshows : ∀ {l}, before.Shows l → after.Shows l) : (m.advance i options after s).Loads := by
  intro table htable
  have htable' : ∀ {paths id}, m.shared.deployment.host.context? paths = some id →
      table paths = id := fun hid => htable (by rw [advance, hhost, hid])
  obtain ⟨l, log, hshown, hgathered⟩ := h table htable'
  refine ⟨l, log, ⟨hshown.shared_eq.trans hloads.symm, ?_, fun {j other stage} hj => ?_⟩,
    hgathered.mono ?_⟩
  · rw [hshown.length_eq]
    simp [advance]
  · change ∃ at_, _ ∧ _ ∧ (_ ∨ s.deployment.host.context? _ = _)
    rw [hhost]
    rcases (at_advance hat _ _).mp hj with ⟨rfl, rfl, rfl⟩ | ⟨-, hj⟩
    · obtain ⟨at_, hown, hbefore, hplace⟩ := hshown.shown hat
      exact ⟨at_, hown, hshows hbefore, hplace⟩
    · exact hshown.shown hj
  · rintro id ⟨paths, hid⟩
    exact ⟨paths, by rw [← hhost]; exact hid⟩

/-- A set-up opens the context of its path list. -/
theorem Loads.step_opened (h : m.Loads) (hat : m.At i options .findContext) {f : Forest}
    (hnone : m.shared.deployment.host.context? options.paths = none)
    (hcreate : m.shared.deployment.forest.create none m.shared.deployment.host.policy
      options.paths = .ok (id, f)) :
    (m.advance i options (.checkResident id)
      { m.shared with deployment := { m.shared.deployment with
        host := { m.shared.deployment.host with
          contexts := m.shared.deployment.host.contexts ++ [(options.paths, id)] }
        forest := f } }).Loads := by
  intro table htable
  obtain ⟨sources, -, rfl, rfl⟩ := Deployment.create_eq_ok hcreate
  have hold : ∀ {paths id}, m.shared.deployment.host.context? paths = some id →
      table paths = id := fun hid =>
    htable (Deployment.context?_of_prefix (List.prefix_append _ _) hid)
  obtain ⟨l, log, hshown, hgathered⟩ := h table hold
  let c : Context :=
    { id := m.shared.deployment.forest.nextId
      ancestors := []
      policy := m.shared.deployment.host.policy
      sources
      cache := [] }
  have hforest : l.shared.forest = m.shared.deployment.forest := by
    rw [hshown.shared_eq]
    rfl
  have hid : c.id = l.shared.forest.nextId := by rw [hforest]
  refine ⟨l.withContext c, log, ⟨?_, ?_, fun {j other stage} hj => ?_⟩,
    (hgathered.opened hid rfl rfl fun {j name stage} hj => ?_).mono ?_⟩
  · unfold Machine.withContext
    rw [hshown.shared_eq]
    rfl
  · exact hshown.length_eq.trans (by simp [advance])
  · rcases (at_advance hat _ _).mp hj with ⟨rfl, rfl, rfl⟩ | ⟨-, hj⟩
    · obtain ⟨at_, hown, hbefore, -⟩ := hshown.shown hat
      exact ⟨at_, hown, hbefore, .inl hbefore⟩
    · obtain ⟨at_, hown, hbefore, hplace⟩ := hshown.shown hj
      exact ⟨at_, hown, hbefore, hplace.imp_right
        (Deployment.context?_of_prefix (List.prefix_append _ _))⟩
  · -- Only the context of a path list in the table has calls that have begun.
    have hlt : j < m.calls.length := by
      rw [← hshown.length_eq]
      exact (List.getElem?_eq_some_iff.mp hj).1
    have hcall : m.At j m.calls[j].options m.calls[j].stage := List.getElem?_eq_getElem hlt
    obtain ⟨at_, hown, -, hplace⟩ := hshown.shown hcall
    obtain ⟨hsame, -, rfl⟩ := hj.unique hown
    refine hplace.resolve_right fun hplaced => ?_
    have hthere := (hgathered.held _ ⟨_, hplaced⟩).context
    rw [hsame, hid, hgathered.wellFormed.context?_nextId] at hthere
    cases hthere
  · rintro own ⟨paths, hown⟩
    rcases Deployment.context?_of_append hown with hown | ⟨-, rfl⟩
    · exact .inl ⟨paths, hown⟩
    · exact .inr rfl

/-- A step of the load of a set-up. -/
theorem Loads.step_load (h : m.Loads) (hplaced : m.Placed) {stage : Stage}
    (hat : m.At i options (.loading id stage))
    (hshows : after.Shows (stepCall files id options.driverClass m.shared.loads stage).1) :
    (m.advance i options after (m.shared.withLoads
      (stepCall files id options.driverClass m.shared.loads stage).2)).Loads := by
  intro table htable
  obtain ⟨l, log, hshown, hgathered⟩ := h table htable
  have hid := hplaced hat rfl
  obtain ⟨at_, hown, hbefore, -⟩ := hshown.shown hat
  obtain rfl : at_ = stage := hbefore
  rw [htable hid] at hown
  have hturn := hgathered.turn hown files
  rw [hshown.shared_eq] at hturn
  refine ⟨_, _, ⟨rfl, ?_, fun {j other stage} hj => ?_⟩, hturn⟩
  · exact (List.length_set.trans hshown.length_eq).trans (by simp [advance])
  · rcases (at_advance hat _ _).mp hj with ⟨rfl, rfl, rfl⟩ | ⟨hne, hj⟩
    · rw [htable hid]
      exact ⟨_, Machine.at_advance_self hown _ _, hshows, .inr hid⟩
    · obtain ⟨at_, hother, hbefore, hplace⟩ := hshown.shown hj
      exact ⟨at_, Machine.at_advance_of_ne hown _ _ hne hother, hbefore, hplace⟩

theorem Loads.step (h : m.Loads) (hplaced : m.Placed) (hat : m.At i options before)
    (hdid : Did files options m.shared before after s) : (m.advance i options after s).Loads := by
  cases hdid with
  | still => exact h.step_beside hat rfl rfl id
  | unusable => exact h.step_beside hat rfl rfl .inl
  | found => exact h.step_beside hat rfl rfl id
  | opened _ hnone hcreate => exact h.step_opened hat hnone hcreate
  | resident => exact h.step_beside hat rfl rfl id
  | absent => exact h.step_beside hat rfl rfl id
  | reused => exact h.step_beside hat rfl rfl .inl
  | driverless => exact h.step_beside hat rfl rfl id
  | loading => exact h.step_load hplaced hat rfl
  | loaded hresult => exact h.step_load hplaced hat (.inr ⟨_, hresult⟩)
  | unloaded hresult => exact h.step_load hplaced hat (.inr ⟨_, hresult⟩)
  | unmade => exact h.step_beside hat rfl rfl id
  | made => exact h.step_beside hat rfl rfl id
  | registered => exact h.step_beside hat rfl rfl id
  | refused => exact h.step_beside hat rfl rfl id
  | settled => exact h.step_beside hat rfl rfl id

/-! ### What the machine says -/

theorem Loads.exists_gathered (h : m.Loads) :
    ∃ l log, l.shared = m.shared.loads ∧ Gathered m.Listed log l := by
  obtain ⟨l, log, hshown, hgathered⟩ :=
    h (fun paths => (m.shared.deployment.host.context? paths).getD 0) fun hid => by
      rw [hid, Option.getD_some]
  exact ⟨l, log, hshown.shared_eq, hgathered⟩

theorem Loads.context?_nextId (h : m.Loads) :
    m.shared.deployment.forest.context? m.shared.deployment.forest.nextId = none := by
  obtain ⟨l, log, hshared, hgathered⟩ := h.exists_gathered
  have hnone := hgathered.wellFormed.context?_nextId
  rw [hshared] at hnone
  exact hnone

/-- No two caches have a class of one number. -/
theorem Loads.eq_of_serial (h : m.Loads) {name other : String} {own got : LoadedClass} {j : Nat}
    (hown : m.shared.deployment.forest.cached? id name = some own)
    (hgot : m.shared.deployment.forest.cached? j other = some got)
    (heq : own.serial = got.serial) : id = j ∧ name = other ∧ own = got := by
  obtain ⟨l, log, hshared, hgathered⟩ := h.exists_gathered
  refine hgathered.numbered.eq_of_serial (.inl ?_) (.inl ?_) heq
  · rw [hshared]
    exact hown
  · rw [hshared]
    exact hgot

/-- What a load hands to its set-up is in the cache. -/
theorem Loads.cached?_of_loaded (h : m.Loads) (hplaced : m.Placed) {stage : Stage}
    (hat : m.At i options (.loading id stage)) {own : LoadedClass}
    (hresult : (stepCall files id options.driverClass m.shared.loads stage).1
      = .returned (.loaded own)) :
    (stepCall files id options.driverClass m.shared.loads stage).2.forest.cached? id
      options.driverClass = some own := by
  have hid := hplaced hat rfl
  obtain ⟨l, log, hshown, hgathered⟩ :=
    h (fun paths => (m.shared.deployment.host.context? paths).getD 0) fun hown => by
      rw [hown, Option.getD_some]
  obtain ⟨at_, hown, hbefore, -⟩ := hshown.shown hat
  obtain rfl : at_ = stage := hbefore
  rw [hid, Option.getD_some] at hown
  have hturn := hgathered.turn hown files
  rw [hshown.shared_eq, hresult] at hturn
  exact hturn.cached?_of_returned ⟨_, hid⟩ (Machine.at_advance_self hown _ _)

end SetupMachine

end DriverClasses.Setup
