import DriverClasses.Proofs.Loading.Isolation
import DriverClasses.Proofs.Setup.Renumber

/-!
# Set-ups that might as well not have been

A set-up that fails for want of a path, of a location or of the class leaves a context with an
empty cache at most.  `Mirrors` relates a deployment to one whose host was never asked for such a
set-up: the contexts that both have differ in their ids only, and those that the first has alone
are as they were made.  A set-up on both sides keeps the relation and ends alike
(`Mirrors.setup`), and so does one on the first side that fails in this way
(`Mirrors.setup_of_vain`).
-/

namespace DriverClasses.Setup

open DriverClasses.Files DriverClasses.ClassFile DriverClasses.Loading DriverClasses.Registry
open DriverClasses.Location

/-- The set-up failed for want of an option, of a location or of the class. -/
def Outcome.vain : Outcome → Bool
  | failed (.missingOption _) => true
  | failed (.load _ _ _) => true
  | failed (.registry _) | bound _ | crashed _ => false

namespace Deployment

variable {factories : Factories} {policy : LinkPolicy} {d d' e e' : Deployment}
  {paths : List String} {id : Nat} {events : List Event}

/-! ### The table without the drivers -/

/-- The deployment with nothing registered. -/
def unmanned (d : Deployment) : Deployment := { d with manager := {} }

theorem contextFor_unmanned (h : d.contextFor paths = .ok (id, events, d')) :
    d.unmanned.contextFor paths = .ok (id, events, d'.unmanned) := by
  unfold contextFor at h ⊢
  have hsame : d.unmanned.host = d.host := rfl
  have hforest : d.unmanned.forest = d.forest := rfl
  rw [hsame, hforest]
  cases hfound : d.host.context? paths with
  | some own =>
    simp only [hfound, Except.ok.injEq, Prod.mk.injEq] at h ⊢
    obtain ⟨rfl, rfl, rfl⟩ := h
    exact ⟨rfl, rfl, rfl⟩
  | none =>
    cases hcreate : d.forest.create none d.host.policy paths with
    | error error => simp [hfound, hcreate, Bind.bind, Except.bind] at h
    | ok made =>
      simp only [hfound, hcreate, Bind.bind, Except.bind, pure, Except.pure, Except.ok.injEq,
        Prod.mk.injEq] at h ⊢
      obtain ⟨rfl, rfl, rfl⟩ := h
      exact ⟨rfl, rfl, rfl⟩

theorem context?_of_contextFor (h : d.contextFor paths = .ok (id, events, d')) :
    d'.host.context? paths = some id := by
  rcases contextFor_cases h with ⟨hfound, rfl⟩ | ⟨hnone, f, -, rfl⟩
  · exact hfound
  · exact context?_append id hnone

end Deployment

open Deployment

variable {factories : Factories} {policy : LinkPolicy} {files : FileTree} {options : DriverOptions}
  {d d' e e' : Deployment} {id : Nat} {outcome : Outcome}

theorem Ends.host_eq (h : Ends files options d id outcome e) : e.host = d.host := by
  cases h <;> rfl

theorem Ends.forest_eq (h : Ends files options d id outcome e) :
    e.forest = d.forest ∨ e.forest = (d.forest.load files id options.driverClass).2 := by
  cases h with
  | reused => exact .inl rfl
  | crashed _ hload | unloaded _ hload | unmade _ hload | registered _ hload | outrun _ hload
  | astray _ hload => exact .inr (by rw [hload])

theorem Goes.unmanned (h : Goes files options d outcome e)
    (hd : d.unmanned.Coherent factories policy) : e.unmanned.Coherent factories policy := by
  cases h with
  | pathless => exact hd
  | refused => exact hd
  | @ended id _ found _ _ hne hfound hends =>
    obtain ⟨hkept, -, -⟩ := hd.contextFor hne (contextFor_unmanned hfound)
    have hloaded := hkept.operate (.load files id options.driverClass)
    have hforest := hends.forest_eq
    have hhost := hends.host_eq
    obtain ⟨host, manager, forest, made⟩ := e
    dsimp only at hforest hhost
    subst hhost
    rcases hforest with rfl | rfl
    · exact { hkept with }
    · exact { hloaded with }

/-- What others do with the drivers has no part in the table. -/
theorem Deployment.Runs.unmanned {actions : List Action} (hrun : d.Runs actions d')
    (hd : d.unmanned.Coherent factories policy) : d'.unmanned.Coherent factories policy := by
  induction hrun with
  | start => exact hd
  | @act _ found action _ _ ih =>
    cases action with
    | setup files options => exact (goes_setup files options found).unmanned ih
    | register driver =>
      cases hregister : found.manager.register driver <;> simp only [Deployment.act, hregister] <;>
        exact ih
    | deregister loaded => exact ih
    | operate op => exact ih.operate op

/-! ### Two deployments -/

structure Mirrors (ρ : Nat → Nat) (d e : Deployment) : Prop where
  factories_eq : d.host.factories = e.host.factories
  policy_eq : d.host.policy = e.host.policy
  made_eq : d.made = e.made
  manager_eq : d.manager = e.manager.renumber ρ
  context? : ∀ {paths i}, e.host.context? paths = some i → d.host.context? paths = some (ρ i)
  forest : d.forest.Renumbered ρ (fun i => ∃ paths, e.host.context? paths = some i) e.forest
  /-- What `d` has alone is as it was made. -/
  idle : ∀ {paths j}, d.host.context? paths = some j → e.host.context? paths = none →
    ∃ sources, paths.mapM sourceOf = .ok sources
      ∧ d.forest.context? j
        = some { id := j, ancestors := [], policy := d.host.policy, sources, cache := [] }

namespace Mirrors

variable {ρ : Nat → Nat} {paths : List String} {events : List Event}

theorem refl_start (ρ : Nat → Nat) (factories : Factories) (policy : LinkPolicy) :
    Mirrors ρ (.start factories policy) (.start factories policy) where
  factories_eq := rfl
  policy_eq := rfl
  made_eq := rfl
  manager_eq := rfl
  context? h := by cases h
  forest := ⟨rfl, fun i ⟨paths, h⟩ => by cases h⟩
  idle h := by cases h


/-! ### The contexts -/

/-- A context that `d` alone makes is idle. -/
theorem created (h : Mirrors ρ d e) (hd : d.forest.WellFormed)
    (hnone : d.host.context? paths = none) {f : Forest}
    (hcreate : d.forest.create none d.host.policy paths = .ok (id, f)) :
    Mirrors ρ
      { d with
        host := { d.host with contexts := d.host.contexts ++ [(paths, id)] }
        forest := f } e := by
  obtain ⟨sources, hsources, rfl, rfl⟩ := create_eq_ok hcreate
  have hstays : ∀ {j c}, d.forest.context? j = some c → (({ d.forest with
      contexts := d.forest.contexts ++
        [{ id := d.forest.nextId, ancestors := [], policy := d.host.policy, sources, cache := [] }]
      } : Forest).context? j) = some c := by
    intro j c hc
    rw [Forest.context?_append, hc, Option.some_or]
  refine { h with
    context? := fun hi => ?_
    forest := ⟨h.forest.linked_eq, fun i hi => ?_⟩
    idle := fun {other j} hj hother => ?_ }
  · exact context?_of_prefix (List.prefix_append _ _) (h.context? hi)
  · obtain ⟨c, hc, halone, hown⟩ := h.forest.context i hi
    exact ⟨c, hc, halone, hstays hown⟩
  · rcases context?_of_append hj with hold | ⟨rfl, rfl⟩
    · obtain ⟨own, hparsed, hidle⟩ := h.idle hold hother
      exact ⟨own, hparsed, hstays hidle⟩
    · refine ⟨sources, hsources, ?_⟩
      rw [Forest.context?_append, hd.context?_nextId, Option.none_or, if_pos rfl]

/-- A context that `d` has alone, and that `e` makes now, is the same in both. -/
theorem adopted (h : Mirrors ρ d e) (he : e.forest.WellFormed) {j : Nat}
    (hj : d.host.context? paths = some j) (hnone : e.host.context? paths = none) :
    ∃ f, e.forest.create none e.host.policy paths = .ok (e.forest.nextId, f)
      ∧ (ρ e.forest.nextId = j → Mirrors ρ d
        { e with
          host := { e.host with contexts := e.host.contexts ++ [(paths, e.forest.nextId)] }
          forest := f }) := by
  obtain ⟨sources, hsources, hidle⟩ := h.idle hj hnone
  refine ⟨{ e.forest with contexts := e.forest.contexts ++
      [{ id := e.forest.nextId, ancestors := [], policy := e.host.policy, sources, cache := [] }] },
    ?_, fun hρ => ?_⟩
  · simp [Forest.create, hsources, Bind.bind, Except.bind, pure, Except.pure]
  · refine { h with
      context? := fun {other i} hi => ?_
      forest := ⟨h.forest.linked_eq, fun i hi => ?_⟩
      idle := fun {other i} hi hother => h.idle hi ?_ }
    · rcases context?_of_append hi with hold | ⟨rfl, rfl⟩
      · exact h.context? hold
      · rw [hρ, hj]
    · obtain ⟨other, hother⟩ := hi
      rcases context?_of_append hother with hold | ⟨rfl, rfl⟩
      · obtain ⟨c, hc, halone, hown⟩ := h.forest.context i ⟨other, hold⟩
        refine ⟨c, ?_, halone, hown⟩
        rw [Forest.context?_append, hc, Option.some_or]
      · refine ⟨{
          id := e.forest.nextId
          ancestors := []
          policy := e.host.policy
          sources
          cache := [] }, ?_, rfl, ?_⟩
        · rw [Forest.context?_append, he.context?_nextId, Option.none_or, if_pos rfl]
        · rw [hρ, hidle, h.policy_eq]
          simp [Context.renumber, hρ]
    · rw [Host.context?, List.lookup_append] at hother
      exact (Option.or_eq_none_iff.mp hother).1

/-- If a path list has a context with `d`, then it has the one that belongs to it with `e`. -/
theorem contextFor (h : Mirrors ρ d e) (hd : d.forest.WellFormed) (he : e.forest.WellFormed)
    {j : Nat} (hfound : d.contextFor paths = .ok (j, events, d'))
    (hρ : ∀ i made e', e.contextFor paths = .ok (i, made, e') → ρ i = j) :
    ∃ i made e', e.contextFor paths = .ok (i, made, e') ∧ ρ i = j ∧ Mirrors ρ d' e' := by
  have hcreates : ∀ {k : Deployment}, Mirrors ρ k e → k.host.context? paths = some j →
      e.host.context? paths = none →
      ∃ i made e', e.contextFor paths = .ok (i, made, e') ∧ ρ i = j ∧ Mirrors ρ k e' := by
    intro k hk hj hnone
    obtain ⟨f, hcreate, hadopted⟩ := hk.adopted he hj hnone
    have hmade : e.contextFor paths = .ok (e.forest.nextId,
        [.contextCreated e.forest.nextId paths],
        { e with
          host := { e.host with contexts := e.host.contexts ++ [(paths, e.forest.nextId)] }
          forest := f }) := by
      unfold Deployment.contextFor
      simp only [hnone, hcreate, Bind.bind, Except.bind, pure, Except.pure]
    have hid := hρ _ _ _ hmade
    exact ⟨_, _, _, hmade, hid, hadopted hid⟩
  rcases contextFor_cases hfound with ⟨hj, rfl⟩ | ⟨hnone, f, hcreate, rfl⟩
  · cases hi : e.host.context? paths with
    | none => exact hcreates h hj hi
    | some i =>
      have hown : e.contextFor paths = .ok (i, [], e) := contextFor_of_context? hi
      exact ⟨i, [], e, hown, hρ _ _ _ hown, h⟩
  · have hnone' : e.host.context? paths = none := by
      cases hi : e.host.context? paths with
      | none => rfl
      | some i =>
        rw [h.context? hi] at hnone
        cases hnone
    exact hcreates (h.created hd hnone hcreate) (context?_append j hnone) hnone'

/-! ### The class and its driver -/

theorem resident?_eq (h : Mirrors ρ d e) {i : Nat} (hi : e.host.context? paths = some i)
    (name : String) :
    d.resident? (ρ i) name
      = (e.resident? i name).map fun found => (found.1.renumber ρ, found.2.renumber ρ) := by
  unfold Deployment.resident?
  rw [h.forest.cached? ⟨paths, hi⟩, h.manager_eq]
  cases e.forest.cached? i name with
  | none => rfl
  | some own =>
    simp only [Option.map_some, Option.bind_eq_bind, Option.bind_some, Manager.forClass?_renumber]
    cases e.manager.forClass? own <;> rfl

/-- A load of the same class in the context of the same path list, where it has no driver yet. -/
theorem load (h : Mirrors ρ d e) (hρ : Function.Injective ρ)
    (hd : d.unmanned.Coherent factories policy) {i : Nat} (hi : e.host.context? paths = some i)
    {name : String} {result : LoadResult} {g : Forest} (hnone : e.resident? i name = none)
    (hload : e.forest.load files i name = (result, g)) :
    ∃ f, d.resident? (ρ i) name = none ∧ d.forest.load files (ρ i) name = (result.renumber ρ, f)
      ∧ Mirrors ρ { d with forest := f } { e with forest := g } := by
  obtain ⟨hresult, hforest⟩ := h.forest.load hρ ⟨paths, hi⟩ files name
  rw [hload] at hresult hforest
  have hnone' : d.resident? (ρ i) name = none := by
    rw [h.resident?_eq hi, hnone, Option.map_none]
  refine ⟨(d.forest.load files (ρ i) name).2, hnone', Prod.ext hresult rfl, { h with
    forest := hforest
    idle := fun {other j} hj hother => ?_ }⟩
  have hne : j ≠ ρ i := by
    rintro rfl
    have hsame := List.inj_on_of_nodup_map hd.nodup_ids (mem_of_context? hj)
      (mem_of_context? (h.context? hi)) rfl
    rw [(Prod.mk.inj hsame).1, hi] at hother
    cases hother
  obtain ⟨sources, hparsed, hidle⟩ := h.idle hj hother
  refine ⟨sources, hparsed, ?_⟩
  rw [← hidle]
  exact Forest.context?_load_of_ne d.forest files name hne

/-- The work of a set-up comes to the same. -/
theorem ends (h : Mirrors ρ d e) (hρ : Function.Injective ρ)
    (huniform : e.host.factories.Uniform) (hd : d.unmanned.Coherent factories policy) {i : Nat}
    (hi : e.host.context? options.paths = some i) (hends : Ends files options e i outcome e') :
    ∃ d', Ends files options d (ρ i) (outcome.renumber ρ) d' ∧ Mirrors ρ d' e' := by
  have hfree : ∀ {own}, e.manager.forClass? own = none →
      d.manager.forClass? (own.renumber ρ) = none := by
    intro own hown
    rw [h.manager_eq, Manager.forClass?_renumber, hown, Option.map_none]
  have htaken : ∀ {own driver}, e.manager.forClass? own = some driver →
      d.manager.forClass? (own.renumber ρ) = some (driver.renumber ρ) := by
    intro own driver hown
    rw [h.manager_eq, Manager.forClass?_renumber, hown, Option.map_some]
  have hmade : ∀ {own result}, e.host.factories.instantiate own = result →
      d.host.factories.instantiate (own.renumber ρ) = renumberMade ρ result := by
    intro own result hown
    rw [h.factories_eq, huniform.instantiate hρ, hown]
  cases hends with
  | reused hfound =>
    have hresident := h.resident?_eq hi options.driverClass
    rw [hfound] at hresident
    exact ⟨d, .reused hresident, h⟩
  | crashed hnone hload =>
    obtain ⟨f, hresident, hown, hkept⟩ := h.load hρ hd hi hnone hload
    exact ⟨_, .crashed hresident hown, hkept⟩
  | unloaded hnone hload =>
    obtain ⟨f, hresident, hown, hkept⟩ := h.load hρ hd hi hnone hload
    exact ⟨_, .unloaded hresident hown, hkept⟩
  | unmade hnone hload hfault =>
    obtain ⟨f, hresident, hown, hkept⟩ := h.load hρ hd hi hnone hload
    exact ⟨_, .unmade hresident hown (hmade hfault), hkept⟩
  | @registered own _ blueprint hnone hload hblueprint hnew =>
    obtain ⟨f, hresident, hown, hkept⟩ := h.load hρ hd hi hnone hload
    have hregistered : Ends files options d (ρ i) _ _ :=
      .registered hresident hown (hmade hblueprint) (hfree hnew)
    rw [h.made_eq] at hregistered
    refine ⟨_, hregistered, { hkept with made_eq := rfl, manager_eq := ?_ }⟩
    have hdrivers := congrArg Manager.drivers h.manager_eq
    simp only [Manager.renumber, List.map_append, List.map_cons, List.map_nil] at hdrivers ⊢
    rw [hdrivers]
    rfl
  | outrun hnone hload hblueprint hother hdriver =>
    obtain ⟨f, hresident, hown, hkept⟩ := h.load hρ hd hi hnone hload
    exact ⟨_, .outrun hresident hown (hmade hblueprint) (htaken hother) (htaken hdriver),
      { hkept with made_eq := congrArg (· + 1) h.made_eq }⟩
  | astray hnone hload hblueprint hother hdriver =>
    obtain ⟨f, hresident, hown, hkept⟩ := h.load hρ hd hi hnone hload
    exact ⟨_, .astray hresident hown (hmade hblueprint) (htaken hother) (hfree hdriver),
      { hkept with made_eq := congrArg (· + 1) h.made_eq }⟩

/-! ### A set-up -/

theorem setup (h : Mirrors ρ d e) (hρ : Function.Injective ρ)
    (huniform : e.host.factories.Uniform) (hd : d.unmanned.Coherent factories policy)
    (he : e.forest.WellFormed) (hgoes : Goes files options d outcome d')
    (hkept : outcome.vain = false)
    (hids : ∀ i j, (e.setup files options).2.host.context? options.paths = some i →
      d'.host.context? options.paths = some j → ρ i = j) :
    outcome = ((e.setup files options).1.outcome).renumber ρ
      ∧ Mirrors ρ d' (e.setup files options).2 := by
  cases hgoes with
  | pathless => cases hkept
  | refused => cases hkept
  | @ended j _ found _ _ hpaths hfound hends =>
    obtain ⟨ops, hsound⟩ := hd.sound
    -- The tables only grow, so that the ids of afterwards are those of now.
    have hj := hends.grown.context? (context?_of_contextFor hfound)
    have hsetup : ∀ {i made k}, e.contextFor options.paths = .ok (i, made, k) →
        (e.setup files options).1.outcome = (k.bindIn files options i).1
          ∧ (e.setup files options).2 = (k.bindIn files options i).2.2 := fun hmade =>
      (Goes.ended hpaths hmade (ends_bindIn files options _ _)).setup_eq
    obtain ⟨i, made, k, hmade, rfl, hk⟩ := h.contextFor hsound.wellFormed he hfound
      fun i made k hmade => by
        have hi := (ends_bindIn files options k i).grown.context? (context?_of_contextFor hmade)
        rw [← (hsetup hmade).2] at hi
        exact hids i j hi hj
    have huniform' : k.host.factories.Uniform := by
      rw [(Grown.contextFor hmade).factories_eq]
      exact huniform
    obtain ⟨hd', -, -⟩ := hd.contextFor hpaths (contextFor_unmanned hfound)
    obtain ⟨d'', hown, hlast⟩ := hk.ends hρ huniform' hd' (context?_of_contextFor hmade)
      (ends_bindIn files options k i)
    obtain ⟨houtcome, hleft⟩ := hends.bindIn_eq
    obtain ⟨houtcome', hleft'⟩ := hown.bindIn_eq
    rw [← houtcome, ← hleft, houtcome', hleft', (hsetup hmade).1, (hsetup hmade).2]
    exact ⟨rfl, hlast⟩

/-- A load that fails leaves the contexts as they are. -/
theorem unloaded (h : Mirrors ρ d e) {name : String} {error : LoadError} {f : Forest}
    (hload : d.forest.load files id name = (.failed error, f)) :
    Mirrors ρ { d with forest := f } e := by
  rcases d.forest.load_cases files id name with ⟨own, -, hown⟩ | ⟨c, position, s, header, bytes, -,
    hown⟩ | ⟨result, consultations, -, hown⟩
  · rw [hload] at hown
    cases hown
  · rw [hload] at hown
    cases hown
  · rw [hload, Prod.mk.injEq] at hown
    obtain ⟨-, rfl⟩ := hown
    exact { h with
      forest := ⟨h.forest.linked_eq, h.forest.context⟩
      idle := h.idle }

/-- A set-up that fails in vain might as well not have been. -/
theorem setup_of_vain (h : Mirrors ρ d e) (hd : d.forest.WellFormed)
    (hgoes : Goes files options d outcome d') (hvain : outcome.vain = true) : Mirrors ρ d' e := by
  cases hgoes with
  | pathless => exact h
  | refused => exact h
  | @ended j _ found _ _ hpaths hfound hends =>
    have hmade : Mirrors ρ found e := by
      rcases contextFor_cases hfound with ⟨-, rfl⟩ | ⟨hnone, f, hcreate, rfl⟩
      · exact h
      · exact h.created hd hnone hcreate
    cases hends with
    | unloaded _ hload => exact hmade.unloaded hload
    | _ => cases hvain

end Mirrors

end DriverClasses.Setup
