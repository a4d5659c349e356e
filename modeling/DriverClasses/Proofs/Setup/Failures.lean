import DriverClasses.Proofs.Setup.Omitted

/-!
# What a set-up leaves that does not succeed

It leaves the drivers as they are, and all contexts but the one of its path list, which it may have
made (`Goes.spared`).  Nor does it leave a mark on what comes later: without the set-ups that failed
for want of a path, of a location or of the class, the others end as they do with them, but for the
ids of the contexts (`Mirrors.answers`).
-/

namespace DriverClasses.Setup

open DriverClasses.Files DriverClasses.ClassFile DriverClasses.Loading DriverClasses.Registry
open DriverClasses.Location DriverClasses.Text

variable {factories : Factories} {policy : LinkPolicy} {files : FileTree} {options : DriverOptions}
  {d d' e e' : Deployment} {id : Nat} {outcome : Outcome} {paths : List String}

/-! ### The table, the contexts and the drivers -/

/-- What a set-up of a path list without success can have done to a deployment. -/
structure Spared (paths : List String) (d d' : Deployment) : Prop where
  manager_eq : d'.manager = d.manager
  context?_eq : ∀ i, d'.host.context? paths ≠ some i → d'.forest.context? i = d.forest.context? i
  table : d'.host = d.host ∧ d'.forest.nextId = d.forest.nextId
    ∨ d.host.context? paths = none ∧ d'.forest.nextId = d.forest.nextId + 1
      ∧ d'.host
        = { d.host with contexts := d.host.contexts ++ [(paths, d.forest.nextId)] }
  unusable : (paths = [] ∨ ∃ raw ∈ paths, ∃ error, sourceOf raw = .error error) → d' = d

theorem Spared.refl (paths : List String) (d : Deployment) : Spared paths d d :=
  ⟨rfl, fun _ _ => rfl, .inl ⟨rfl, rfl⟩, fun _ => rfl⟩

theorem exists_sourceOf_of_mapM {raws : List String} {sources : List ClassSource}
    (h : raws.mapM sourceOf = .ok sources) {raw : String} (hraw : raw ∈ raws) :
    ∃ source, sourceOf raw = .ok source := by
  have hall := forall₂_of_mapM h
  clear h
  induction hall with
  | nil => cases hraw
  | cons hsource _ ih =>
    rcases List.mem_cons.mp hraw with rfl | hraw
    · exact ⟨_, hsource⟩
    · exact ih hraw

namespace Deployment

/-- Every location in the table was accepted once. -/
def Accepted (d : Deployment) : Prop :=
  ∀ entry ∈ d.host.contexts, ∃ sources, entry.1.mapM sourceOf = .ok sources

theorem Accepted.contextFor (hd : d.Accepted) {events : List Event}
    (h : d.contextFor paths = .ok (id, events, d')) :
    d'.Accepted ∧ ∃ sources, paths.mapM sourceOf = .ok sources := by
  rcases contextFor_cases h with ⟨hfound, rfl⟩ | ⟨-, f, hcreate, rfl⟩
  · exact ⟨hd, hd _ (mem_of_context? hfound)⟩
  · obtain ⟨sources, hsources, -, -⟩ := create_eq_ok hcreate
    refine ⟨fun entry hentry => ?_, sources, hsources⟩
    rcases List.mem_append.mp hentry with hentry | hentry
    · exact hd entry hentry
    · rw [List.mem_singleton.mp hentry]
      exact ⟨sources, hsources⟩

theorem Accepted.goes (hd : d.Accepted) (h : Goes files options d outcome e) : e.Accepted := by
  cases h with
  | pathless => exact hd
  | refused => exact hd
  | ended _ hfound hends =>
    obtain ⟨hkept, -⟩ := hd.contextFor hfound
    unfold Accepted
    rw [hends.host_eq]
    exact hkept

theorem Accepted.act (hd : d.Accepted) (action : Action) : (d.act action).Accepted := by
  cases action with
  | setup files options => exact hd.goes (goes_setup files options d)
  | register driver =>
    cases hregister : d.manager.register driver <;> simp only [Deployment.act, hregister] <;>
      exact hd
  | deregister loaded => exact hd
  | operate op => exact hd

theorem Runs.accepted {actions : List Action} (hrun : d.Runs actions d') (hd : d.Accepted) :
    d'.Accepted := by
  induction hrun with
  | start => exact hd
  | act _ _ ih => exact ih.act _

end Deployment

open Deployment

theorem Ends.manager_eq (h : Ends files options d id outcome e)
    (hfailed : ∀ b, outcome ≠ .bound b) : e.manager = d.manager := by
  cases h with
  | registered => exact absurd rfl (hfailed _)
  | _ => rfl

theorem nextId_load (f : Forest) (files : FileTree) (id : Nat) (name : String) :
    (f.load files id name).2.nextId = f.nextId := by
  rcases f.load_cases files id name with ⟨h, -, hload⟩ | ⟨c, position, s, header, bytes, -, hload⟩ |
    ⟨_, _, -, hload⟩ <;> rw [hload]
  · exact congrArg (· + 1) (Forest.length_contexts_modify _ _ _)
  · rfl

theorem Ends.nextId_eq (h : Ends files options d id outcome e) :
    e.forest.nextId = d.forest.nextId := by
  rcases h.forest_eq with heq | heq
  · rw [heq]
  · rw [heq, nextId_load]

/-- Only the context in which it works can be another one after it. -/
theorem Ends.context?_eq (h : Ends files options d id outcome e) {i : Nat} (hi : i ≠ id) :
    e.forest.context? i = d.forest.context? i := by
  rcases h.forest_eq with heq | heq
  · rw [heq]
  · rw [heq, Forest.context?_load_of_ne d.forest files options.driverClass hi]

theorem Goes.spared (h : Goes files options d outcome e) (hd : d.Accepted)
    (hfailed : ∀ b, outcome ≠ .bound b) : Spared options.paths d e := by
  cases h with
  | pathless => exact .refl _ d
  | refused => exact .refl _ d
  | @ended id _ found _ _ hpaths hfound hends =>
    have hid := hends.grown.context? (context?_of_contextFor hfound)
    obtain ⟨-, sources, hsources⟩ := hd.contextFor hfound
    have husable : ¬(options.paths = []
        ∨ ∃ raw ∈ options.paths, ∃ error, sourceOf raw = .error error) := by
      rintro (hnil | ⟨raw, hraw, error, herror⟩)
      · exact hpaths hnil
      · obtain ⟨source, hsource⟩ := exists_sourceOf_of_mapM hsources hraw
        rw [hsource] at herror
        cases herror
    have hother : ∀ {i}, e.host.context? options.paths ≠ some i → i ≠ id := by
      rintro i hi rfl
      exact hi hid
    rcases contextFor_cases hfound with ⟨-, rfl⟩ | ⟨hnone, f, hcreate, rfl⟩
    · exact ⟨hends.manager_eq hfailed, fun i hi => hends.context?_eq (hother hi),
        .inl ⟨hends.host_eq, hends.nextId_eq⟩, fun h => absurd h husable⟩
    · obtain ⟨sources, -, rfl, rfl⟩ := create_eq_ok hcreate
      refine ⟨hends.manager_eq hfailed, fun i hi => ?_, .inr ⟨hnone, ?_, hends.host_eq⟩,
        fun h => absurd h husable⟩
      · rw [hends.context?_eq (hother hi), Forest.context?_append,
          if_neg (hother hi).symm, Option.or_none]
      · rw [hends.nextId_eq]
        simp [Forest.nextId]

/-! ### Later set-ups -/

structure Call where
  files : FileTree
  options : DriverOptions

namespace Deployment

/-- What some set-ups lead to. -/
def after (d : Deployment) : List Call → Deployment
  | [] => d
  | call :: calls => (d.setup call.files call.options).2.after calls

/-- How they end, one after the other. -/
def outcomes (d : Deployment) : List Call → List Outcome
  | [] => []
  | call :: calls =>
    (d.setup call.files call.options).1.outcome
      :: (d.setup call.files call.options).2.outcomes calls

/-- Those of them that do not end in vain. -/
def telling (d : Deployment) : List Call → List Call
  | [] => []
  | call :: calls =>
    if (d.setup call.files call.options).1.outcome.vain then
      (d.setup call.files call.options).2.telling calls
    else call :: (d.setup call.files call.options).2.telling calls

theorem grown_after (d : Deployment) (calls : List Call) : d.Grown (d.after calls) := by
  induction calls generalizing d with
  | nil => exact .refl d
  | cons call calls ih => exact (goes_setup call.files call.options d).grown.trans (ih _)

theorem Coherent.unmanned_after (calls : List Call) (hd : d.unmanned.Coherent factories policy) :
    (d.after calls).unmanned.Coherent factories policy := by
  induction calls generalizing d with
  | nil => exact hd
  | cons call calls ih => exact ih ((goes_setup call.files call.options d).unmanned hd)

end Deployment

theorem Mirrors.outcomes {ρ : Nat → Nat} (h : Mirrors ρ d e) (hρ : Function.Injective ρ)
    (huniform : e.host.factories.Uniform) (hd : d.unmanned.Coherent factories policy)
    (he : e.unmanned.Coherent factories policy) (calls : List Call)
    (hids : ∀ paths i j, (e.after (d.telling calls)).host.context? paths = some i →
      (d.after calls).host.context? paths = some j → ρ i = j) :
    (d.outcomes calls).filter (!·.vain)
      = (e.outcomes (d.telling calls)).map (·.renumber ρ) := by
  induction calls generalizing d e with
  | nil => rfl
  | cons call calls ih =>
    have hgoes := goes_setup call.files call.options d
    have hgoes' := goes_setup call.files call.options e
    obtain ⟨ops, hsound⟩ := hd.sound
    obtain ⟨ops', hsound'⟩ := he.sound
    have hlast := grown_after (d.setup call.files call.options).2 calls
    have hlast' := grown_after (e.setup call.files call.options).2
      ((d.setup call.files call.options).2.telling calls)
    by_cases hvain : (d.setup call.files call.options).1.outcome.vain = true
    · simp only [telling, if_pos hvain] at hids ⊢
      have hkept := h.setup_of_vain hsound.wellFormed hgoes hvain
      rw [Deployment.outcomes, List.filter_cons_of_neg (by simp [hvain])]
      exact ih hkept huniform (hgoes.unmanned hd) he hids
    · simp only [telling, if_neg hvain] at hids ⊢
      obtain ⟨houtcome, hkept⟩ := h.setup hρ huniform hd hsound'.wellFormed hgoes
        (Bool.eq_false_iff.mpr hvain) fun i j hi hj =>
          hids call.options.paths i j (hlast'.context? hi) (hlast.context? hj)
      rw [Deployment.outcomes, List.filter_cons_of_pos (by simp [hvain]), Deployment.outcomes,
        List.map_cons, ← houtcome]
      refine congrArg _ (ih hkept ?_ (hgoes.unmanned hd) (hgoes'.unmanned he) hids)
      rw [hgoes'.grown.factories_eq]
      exact huniform

/-- The ids of one deployment as the numbers that another one gives to the same path lists. -/
theorem exists_renumbering (hd : d.unmanned.Coherent factories policy)
    (he : e.unmanned.Coherent factories policy) :
    ∃ ρ : Nat → Nat, Function.Injective ρ ∧ ∀ paths i j,
      e.host.context? paths = some i → d.host.context? paths = some j → ρ i = j := by
  classical
  let matched : Nat → Nat → Prop := fun i j =>
    ∃ paths, e.host.context? paths = some i ∧ d.host.context? paths = some j
  have hright : ∀ {i j j'}, matched i j → matched i j' → j = j' := by
    rintro i j j' ⟨p, hi, hj⟩ ⟨p', hi', hj'⟩
    have hsame := List.inj_on_of_nodup_map he.nodup_ids (mem_of_context? hi)
      (mem_of_context? hi') rfl
    rw [(Prod.mk.inj hsame).1, hj', Option.some.injEq] at hj
    exact hj.symm
  have hleft : ∀ {i i' j}, matched i j → matched i' j → i = i' := by
    rintro i i' j ⟨p, hi, hj⟩ ⟨p', hi', hj'⟩
    have hsame := List.inj_on_of_nodup_map hd.nodup_ids (mem_of_context? hj)
      (mem_of_context? hj') rfl
    rw [(Prod.mk.inj hsame).1, hi', Option.some.injEq] at hi
    exact hi.symm
  have hlow : ∀ {i j}, matched i j → j < d.forest.nextId := by
    rintro i j ⟨p, -, hj⟩
    obtain ⟨ops, hsound⟩ := hd.sound
    obtain ⟨c, hc, -⟩ := (hd.serves _ (mem_of_context? hj)).context
    exact hsound.wellFormed.lt_nextId hc
  -- Ids without a path list in the other deployment go beyond all that it has.
  refine ⟨fun i => if h : ∃ j, matched i j then h.choose else i + d.forest.nextId, ?_, ?_⟩
  · intro i i' heq
    dsimp only at heq
    split at heq <;> split at heq
    · rename_i h h'
      have hown := h.choose_spec
      rw [heq] at hown
      exact hleft hown h'.choose_spec
    · rename_i h h'
      have hown := hlow h.choose_spec
      omega
    · rename_i h h'
      have hown := hlow h'.choose_spec
      omega
    · omega
  · intro paths i j hi hj
    have hij : matched i j := ⟨paths, hi, hj⟩
    have h : ∃ j, matched i j := ⟨j, hij⟩
    dsimp only
    rw [dif_pos h]
    exact hright h.choose_spec hij

/-- In every state that a run of a host leads to, a set-up without success leaves the drivers as
they are, and all contexts but that of its path list.  The table gains this one context at most, and
nothing at all is changed if there is no path or a location is refused.

And if the set-ups that failed for want of an option, of a location or of the class are left out of
a run of set-ups, each with the files of its time, the others end as they did, but for the ids of
contexts.  For this a factory must not look at these ids. -/
theorem failures_leave_no_trace (factories : Factories) (policy : LinkPolicy) :
    (∀ actions d, (Deployment.start factories policy).Runs actions d → ∀ files options,
        (∀ b, (d.setup files options).1.outcome ≠ .bound b) →
        Spared options.paths d (d.setup files options).2)
      ∧ (factories.Uniform → ∀ calls, ∃ ρ : Nat → Nat, Function.Injective ρ
        ∧ ((Deployment.start factories policy).outcomes calls).filter (!·.vain)
          = ((Deployment.start factories policy).outcomes
              ((Deployment.start factories policy).telling calls)).map (·.renumber ρ)) := by
  constructor
  · intro actions d hrun files options hfailed
    have hstart : (Deployment.start factories policy).Accepted := fun _ h =>
      absurd h List.not_mem_nil
    exact (goes_setup files options d).spared (hrun.accepted hstart) hfailed
  · intro huniform calls
    have hstart : (Deployment.start factories policy).unmanned.Coherent factories policy :=
      .start factories policy
    obtain ⟨ρ, hρ, hids⟩ := exists_renumbering (hstart.unmanned_after calls)
      (hstart.unmanned_after ((Deployment.start factories policy).telling calls))
    exact ⟨ρ, hρ, (Mirrors.refl_start ρ factories policy).outcomes hρ huniform hstart hstart calls
      hids⟩

/-! ### A failure before a success -/

theorem contextId?_renumber (ρ : Nat → Nat) (outcome : Outcome) :
    (outcome.renumber ρ).contextId? = outcome.contextId?.map ρ := by
  cases outcome <;> rfl

/-- A directory with the class. -/
def shed : FileTree :=
  { items := [([utf8 "b"], .directory), ([utf8 "b", utf8 "A.class"], .file Forest.leastClass)] }

/-- The first one finds nothing, and its context is the first of the host. -/
def shedCalls : List Call :=
  [{ files := {}, options := { driverPath := "/a", driverClass := "A" } },
    { files := shed, options := { driverPath := "/b", driverClass := "A" } }]

def shedHost : Deployment := .start cellarFactories {}

/-- The failure leaves no trace but the number of the context that comes after it. -/
theorem shed_leaves_no_trace :
    Spared ["/a"] shedHost (shedHost.setup {} { driverPath := "/a", driverClass := "A" }).2
      ∧ ∃ ρ : Nat → Nat, ρ 1 = 2 ∧ (shedHost.outcomes shedCalls).filter (!·.vain)
          = (shedHost.outcomes (shedHost.telling shedCalls)).map (·.renumber ρ) := by
  have huniform : cellarFactories.Uniform :=
    Factories.uniform_known.register "A" (Factory.uniform_ofStart "jdbc:a:")
  obtain ⟨hspared, hlaw⟩ := failures_leave_no_trace cellarFactories {}
  constructor
  · have hpaths : ({ driverPath := "/a", driverClass := "A" } : DriverOptions).paths = ["/a"] := by
      decide +kernel
    have hfailed := hspared [] shedHost .start {} { driverPath := "/a", driverClass := "A" }
    rw [hpaths] at hfailed
    refine hfailed fun b hb => ?_
    have hvain : (shedHost.setup {} { driverPath := "/a", driverClass := "A" }).1.outcome.vain
        = true := by decide +kernel
    rw [hb] at hvain
    cases hvain
  · obtain ⟨ρ, -, hsame⟩ := hlaw huniform shedCalls
    refine ⟨ρ, ?_, hsame⟩
    have hfull : ((shedHost.outcomes shedCalls).filter (!·.vain)).map (·.contextId?)
        = [some 2] := by
      decide +kernel
    have hrest : (shedHost.outcomes (shedHost.telling shedCalls)).map (·.contextId?)
        = [some 1] := by
      decide +kernel
    have hids : ([some 1] : List (Option Nat)).map (Option.map ρ) = [some 2] := by
      rw [← hrest, ← hfull, shedHost, hsame, List.map_map, List.map_map]
      exact List.map_congr_left fun outcome _ => (contextId?_renumber ρ outcome).symm
    simpa using hids

end DriverClasses.Setup
