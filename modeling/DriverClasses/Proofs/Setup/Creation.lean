import DriverClasses.Proofs.Setup.Entries
import DriverClasses.Proofs.Setup.Shown

/-!
# All or nothing

A context is made with all of its locations or not at all, and the first text that is no location is
to blame (`WellFormed.createsWhole`).  A location comes behind the sources of its context or is
refused likewise.  Whatever is refused leaves everything as it was.  In particular it takes no id:
the contexts of a run are numbered in the order in which they were made, be it by an operation,
below a parent or not, or by the host for a path list (`allOrNothing_of_run`).
-/

namespace DriverClasses.Loading

open DriverClasses.ClassFile DriverClasses.Text DriverClasses.Files DriverClasses.Setup

/-- The text is a location. -/
def IsLocation (raw : String) : Prop := ∃ location, Location.parse raw = .ok location

/-- The first of the texts that is no location, and why it is none. -/
structure FirstRefused (raws : List String) (raw : String) (refusal : Location.Refusal) : Prop where
  first : ∃ before after, raws = before ++ raw :: after ∧ ∀ p ∈ before, IsLocation p
  refused : Location.parse raw = .error refusal

/-- The id that an answer gives to a new context. -/
def Answer.createdId? : Answer → Option Nat
  | .created id => some id
  | .appended | .refused _ | .orphaned | .cached _ | .texts _ | .ended _ => none

theorem sourceOf_of_parse {raw : String} {location : Location}
    (h : Location.parse raw = .ok location) : sourceOf raw = .ok (.ofLocation location) := by
  unfold sourceOf
  rw [h]

theorem sourceOf_of_refusal {raw : String} {refusal : Location.Refusal}
    (h : Location.parse raw = .error refusal) :
    sourceOf raw = .error (.invalidLocation raw refusal) := by
  unfold sourceOf
  rw [h]

theorem isLocation_of_sourceOf {raw : String} {source : ClassSource}
    (h : sourceOf raw = .ok source) : IsLocation raw := by
  unfold sourceOf at h
  split at h
  · exact ⟨_, ‹_›⟩
  · cases h

theorem mapM_sourceOf_of_isLocation {raws : List String} (h : ∀ raw ∈ raws, IsLocation raw) :
    ∃ sources, raws.mapM sourceOf = .ok sources := by
  cases hsources : raws.mapM sourceOf with
  | ok sources => exact ⟨sources, rfl⟩
  | error error =>
    obtain ⟨before, raw, after, rfl, -, herror⟩ := exists_refused_of_mapM hsources
    obtain ⟨location, hlocation⟩ := h raw (List.mem_append_right before List.mem_cons_self)
    rw [sourceOf_of_parse hlocation] at herror
    cases herror

theorem isLocation_of_mapM {raws : List String} {sources : List ClassSource}
    (h : raws.mapM sourceOf = .ok sources) : ∀ raw ∈ raws, IsLocation raw := fun _ hraw => by
  obtain ⟨source, hsource⟩ := exists_sourceOf_of_mapM h hraw
  exact isLocation_of_sourceOf hsource

theorem exists_firstRefused_of_mapM {raws : List String} {error : LoadError}
    (h : raws.mapM sourceOf = .error error) :
    ∃ raw refusal, FirstRefused raws raw refusal ∧ error = .invalidLocation raw refusal := by
  obtain ⟨before, raw, after, hsplit, hbefore, herror⟩ := exists_refused_of_mapM h
  obtain ⟨refusal, hparse, rfl⟩ := refusal_of_sourceOf herror
  refine ⟨raw, refusal, ⟨⟨before, after, hsplit, fun p hp => ?_⟩, hparse⟩, rfl⟩
  obtain ⟨source, hsource⟩ := hbefore p hp
  exact isLocation_of_sourceOf hsource

namespace Forest

variable {f : Forest} {op : Operation}

/-! ### One creation, one append -/

/-- What comes of a creation. -/
structure CreatesWhole (f : Forest) (parent : Option Nat) (policy : LinkPolicy)
    (raws : List String) : Prop where
  made_iff : (∃ id g, f.create parent policy raws = .ok (id, g)) ↔ ∀ raw ∈ raws, IsLocation raw
  made : ∀ id g, f.create parent policy raws = .ok (id, g) → id = f.nextId ∧ ∃ c,
    g = { f with contexts := f.contexts ++ [c] } ∧ c.id = id ∧ c.parent? = parent
      ∧ c.policy = policy ∧ c.locations = raws.map trim ∧ c.cache = []
      ∧ g.context? id = some c ∧ ∀ i ≠ id, g.context? i = f.context? i
  refused : ∀ error, f.create parent policy raws = .error error →
    ∃ raw refusal, FirstRefused raws raw refusal ∧ error = .invalidLocation raw refusal

theorem WellFormed.createsWhole (hf : f.WellFormed) (parent : Option Nat) (policy : LinkPolicy)
    (raws : List String) : CreatesWhole f parent policy raws := by
  have hcreate := create_eq_map f parent policy raws
  cases hsources : raws.mapM sourceOf with
  | error error =>
    rw [hsources] at hcreate
    have hfirst := exists_firstRefused_of_mapM hsources
    refine ⟨⟨fun ⟨id, g, h⟩ => ?_, fun h => ?_⟩, fun id g h => ?_, fun other h => ?_⟩
    · rw [hcreate] at h
      cases h
    · obtain ⟨sources, hok⟩ := mapM_sourceOf_of_isLocation h
      rw [hsources] at hok
      cases hok
    · rw [hcreate] at h
      cases h
    · rw [hcreate] at h
      exact Except.error.inj h ▸ hfirst
  | ok sources =>
    rw [hsources] at hcreate
    refine ⟨⟨fun _ => isLocation_of_mapM hsources, fun _ => ⟨_, _, hcreate⟩⟩, fun id g h => ?_,
      fun other h => ?_⟩
    · rw [hcreate] at h
      obtain ⟨rfl, rfl⟩ := Prod.mk.inj (Except.ok.inj h)
      refine ⟨rfl, _, rfl, rfl, by cases parent <;> rfl, rfl, origins_of_mapM hsources, rfl, ?_,
        fun i hi => ?_⟩
      · rw [context?_append, hf.context?_nextId, Option.none_or, if_pos rfl]
      · rw [context?_append, if_neg (Ne.symm hi), Option.or_none]
    · rw [hcreate] at h
      cases h

/-- What one more source does. -/
structure AddsOne (f : Forest) (id : Nat) (source : ClassSource) : Prop where
  own : ∀ c, f.context? id = some c →
    (f.addSource id source).context? id = some { c with sources := c.sources ++ [source] }
  others : ∀ i ≠ id, (f.addSource id source).context? i = f.context? i
  caches : ∀ i, (f.addSource id source).cacheOf i = f.cacheOf i
  nextId_eq : (f.addSource id source).nextId = f.nextId

theorem addsOne (f : Forest) (id : Nat) (source : ClassSource) : AddsOne f id source where
  own c hc := by
    rw [addSource, context?_modify_self f id _ fun c => id_addSource c source, hc]
    rfl
  others i hi := context?_modify_of_ne f _ (fun c => id_addSource c source) hi
  caches i := cacheOf_addSource f id i source
  nextId_eq := congrArg (· + 1) (length_contexts_modify f id _)

/-- What comes of an append. -/
structure AppendsWhole (f : Forest) (id : Nat) (raw : String) : Prop where
  appended : ∀ location, Location.parse raw = .ok location → location.text = trim raw
    ∧ f.addLocation id raw = .ok (f.addSource id (.ofLocation location))
  refused : ∀ refusal, Location.parse raw = .error refusal →
    f.addLocation id raw = .error (.invalidLocation raw refusal)

theorem appendsWhole (f : Forest) (id : Nat) (raw : String) : AppendsWhole f id raw where
  appended location h := by
    unfold addLocation
    rw [sourceOf_of_parse h]
    exact ⟨origin_of_sourceOf (sourceOf_of_parse h), rfl⟩
  refused refusal h := by
    unfold addLocation
    rw [sourceOf_of_refusal h]
    rfl

theorem perform_of_refused {error : LoadError} (h : (f.perform op).1 = .refused error) :
    (f.perform op).2 = f := by
  cases op with
  | create parent policy raws =>
    simp only [perform] at h ⊢
    split at h
    · rename_i hadmits
      rw [if_pos hadmits]
      cases hcreate : f.create parent policy raws with
      | error other => rfl
      | ok made =>
        rw [hcreate] at h
        cases h
    · cases h
  | addLocation id raw =>
    simp only [perform] at h ⊢
    cases hadd : f.addLocation id raw with
    | error other => rfl
    | ok g =>
      rw [hadd] at h
      cases h
  | addSource => cases h
  | isLoaded => cases h
  | loadedNames => cases h
  | locations => cases h
  | load files id name => cases h

/-! ### Ids -/

def ids (f : Forest) : List Nat := f.contexts.map (·.id)

theorem ids_modify (f : Forest) (id : Nat) {change : Context → Context}
    (hid : ∀ c, (change c).id = c.id) : (f.modify id change).ids = f.ids := by
  unfold ids modify
  rw [List.map_map]
  refine List.map_congr_left fun c _ => ?_
  by_cases hc : c.id = id <;> simp [hc, hid]

theorem ids_addSource (f : Forest) (id : Nat) (source : ClassSource) :
    (f.addSource id source).ids = f.ids :=
  ids_modify f id fun c => id_addSource c source

theorem ids_load (f : Forest) (files : FileTree) (id : Nat) (name : String) :
    (f.load files id name).2.ids = f.ids := by
  rcases f.load_cases files id name with ⟨h, -, hload⟩ | ⟨c, position, s, header, bytes, -, hload⟩ |
    ⟨_, _, -, hload⟩ <;> rw [hload]
  · exact ids_modify _ _ fun c => id_store c name _
  · rfl

theorem ids_perform (f : Forest) (op : Operation) :
    (f.perform op).2.ids = f.ids ++ (f.perform op).1.createdId?.toList := by
  cases op with
  | create parent policy raws =>
    simp only [perform]
    split
    · rw [create_eq_map]
      cases raws.mapM sourceOf with
      | error error => exact (List.append_nil _).symm
      | ok sources => exact List.map_append
    · exact (List.append_nil _).symm
  | addLocation id raw =>
    simp only [perform, addLocation]
    cases sourceOf raw with
    | error error => exact (List.append_nil _).symm
    | ok source => exact (ids_addSource f id source).trans (List.append_nil _).symm
  | addSource id source => exact (ids_addSource f id source).trans (List.append_nil _).symm
  | isLoaded => exact (List.append_nil _).symm
  | loadedNames => exact (List.append_nil _).symm
  | locations => exact (List.append_nil _).symm
  | load files id name => exact (ids_load f files id name).trans (List.append_nil _).symm

end Forest

end DriverClasses.Loading

namespace DriverClasses.Setup

open DriverClasses.Files DriverClasses.ClassFile DriverClasses.Loading DriverClasses.Registry

namespace Deployment

variable {d d' : Deployment} {paths : List String} {id : Nat}

/-! ### Contexts of the host -/

/-- What comes of a search for the context of a path list. -/
structure OpensWhole (d : Deployment) (paths : List String) : Prop where
  found : ∀ id, d.host.context? paths = some id → d.contextFor paths = .ok (id, [], d)
  made : d.host.context? paths = none → ∀ id g,
    d.forest.create none d.host.policy paths = .ok (id, g) →
    d.contextFor paths = .ok (id, [.contextCreated id paths],
      { d with
        host := { d.host with contexts := d.host.contexts ++ [(paths, id)] }
        forest := g })
  /-- No set-up leaves anything of a context that could not be made. -/
  refused : d.host.context? paths = none → ∀ error,
    d.forest.create none d.host.policy paths = .error error →
    d.contextFor paths = .error error ∧ ∀ files options, options.paths = paths → paths ≠ [] →
      (d.setup files options).1.outcome = .failed (.load options.driverClass paths error)
        ∧ (d.setup files options).2 = d

theorem opensWhole (d : Deployment) (paths : List String) : OpensWhole d paths where
  found _ h := contextFor_of_context? h
  made hnone id g hcreate := by
    unfold contextFor
    rw [hnone, hcreate]
    rfl
  refused hnone error hcreate := by
    have hrefused : d.contextFor paths = .error error := by
      unfold contextFor
      rw [hnone, hcreate]
      rfl
    refine ⟨hrefused, fun files options hpaths hne => ?_⟩
    subst hpaths
    exact (Goes.refused hne hrefused).setup_eq

/-! ### The contexts that a run makes -/

/-- The ids of the contexts that an action says it has made. -/
def newIds (d : Deployment) : Action → List Nat
  | .setup files options => ((d.setup files options).1.events.filterMap (·.created?)).map (·.2)
  | .operate op => (d.forest.perform op).1.createdId?.toList
  | .register _ | .deregister _ => []

/-- The ids of all contexts that some actions make, in order. -/
def creations (d : Deployment) : List Action → List Nat
  | [] => []
  | action :: later => d.newIds action ++ (d.act action).creations later

theorem ids_contextFor {created : List Event} (h : d.contextFor paths = .ok (id, created, d')) :
    d'.forest.ids = d.forest.ids ++ (created.filterMap (·.created?)).map (·.2) := by
  have hopens := opensWhole d paths
  cases hfound : d.host.context? paths with
  | some own =>
    rw [hopens.found own hfound] at h
    cases h
    exact (List.append_nil _).symm
  | none =>
    cases hcreate : d.forest.create none d.host.policy paths with
    | error error =>
      rw [(hopens.refused hfound error hcreate).1] at h
      cases h
    | ok made =>
      obtain ⟨own, g⟩ := made
      rw [hopens.made hfound own g hcreate] at h
      cases h
      obtain ⟨sources, -, rfl, rfl⟩ := create_eq_ok hcreate
      exact List.map_append

theorem created_bindIn (files : FileTree) (options : DriverOptions) (d : Deployment) (id : Nat) :
    (d.bindIn files options id).2.1.filterMap (·.created?) = [] := by
  refine List.filterMap_eq_nil_iff.mpr fun event hevent => ?_
  cases event with
  | contextCreated own other => exact absurd hevent (created_notMem_bindIn files options d id)
  | _ => rfl

theorem created_warnings (options : DriverOptions) (outcome : Outcome) :
    (outcome.warnings options).filterMap (·.created?) = [] := by
  cases outcome <;> rfl

theorem ids_bindIn (files : FileTree) (options : DriverOptions) (d : Deployment) (id : Nat) :
    (d.bindIn files options id).2.2.forest.ids = d.forest.ids := by
  rcases (ends_bindIn files options d id).forest_eq with hforest | hforest <;> rw [hforest]
  exact Forest.ids_load _ _ _ _

theorem ids_setup (files : FileTree) (options : DriverOptions) (d : Deployment) :
    (d.setup files options).2.forest.ids
      = d.forest.ids ++ ((d.setup files options).1.events.filterMap (·.created?)).map (·.2) := by
  simp only [setup, events_close, List.filterMap_append, created_warnings, List.append_nil]
  unfold Deployment.bind
  by_cases hpaths : options.paths = []
  · rw [if_pos hpaths]
    exact (List.append_nil _).symm
  · rw [if_neg hpaths]
    cases hfound : d.contextFor options.paths with
    | error error => exact (List.append_nil _).symm
    | ok result =>
      obtain ⟨id, created, found⟩ := result
      dsimp only
      rw [List.filterMap_append, created_bindIn, List.append_nil, ids_bindIn, ids_contextFor hfound]

theorem ids_act (d : Deployment) (action : Action) :
    (d.act action).forest.ids = d.forest.ids ++ d.newIds action := by
  cases action with
  | setup files options => exact ids_setup files options d
  | register driver =>
    cases hregister : d.manager.register driver <;>
      simp only [act, hregister, newIds, List.append_nil]
  | deregister loaded => exact (List.append_nil _).symm
  | operate op => exact Forest.ids_perform d.forest op

theorem ids_foldl_act (d : Deployment) (actions : List Action) :
    (actions.foldl act d).forest.ids = d.forest.ids ++ d.creations actions := by
  induction actions generalizing d with
  | nil => exact (List.append_nil _).symm
  | cons action actions ih =>
    rw [List.foldl_cons, ih, ids_act, creations, List.append_assoc]

theorem wellFormed_setup (hd : d.forest.WellFormed) (files : FileTree) (options : DriverOptions) :
    (d.setup files options).2.forest.WellFormed := by
  have hgoes := goes_setup files options d
  generalize (d.setup files options).1.outcome = outcome at hgoes
  generalize (d.setup files options).2 = e at hgoes ⊢
  cases hgoes with
  | pathless => exact hd
  | refused => exact hd
  | @ended id _ found _ _ _ hfound hends =>
    have hkept : found.forest.WellFormed := by
      rcases contextFor_cases hfound with ⟨-, rfl⟩ | ⟨-, f, hcreate, rfl⟩
      · exact hd
      · have hmade := hd.change
          (Forest.change_perform d.forest (.create none d.host.policy options.paths))
        rwa [Forest.perform_create_none hcreate] at hmade
    rcases hends.forest_eq with hforest | hforest <;> rw [hforest]
    · exact hkept
    · exact hkept.change (Forest.change_load _ files id options.driverClass)

theorem wellFormed_act (hd : d.forest.WellFormed) (action : Action) :
    (d.act action).forest.WellFormed := by
  cases action with
  | setup files options => exact wellFormed_setup hd files options
  | register driver =>
    cases hregister : d.manager.register driver <;> simp only [act, hregister] <;> exact hd
  | deregister loaded => exact hd
  | operate op => exact hd.change (Forest.change_perform d.forest op)

theorem wellFormed_foldl_act (hd : d.forest.WellFormed) (actions : List Action) :
    (actions.foldl act d).forest.WellFormed := by
  induction actions generalizing d with
  | nil => exact hd
  | cons action actions ih => exact ih (wellFormed_act hd action)

/-! ### The law -/

/-- What creations and appends can do to a deployment. -/
structure AllOrNothing (d : Deployment) : Prop where
  creates : ∀ parent policy raws, d.forest.CreatesWhole parent policy raws
  opens : ∀ paths, d.OpensWhole paths
  appends : ∀ id raw, d.forest.AppendsWhole id raw
  adds : ∀ id source, d.forest.AddsOne id source
  refused : ∀ op error, (d.forest.perform op).1 = .refused error → d.act (.operate op) = d

/-- At any point of a run creations and appends do all or nothing, and the contexts that the run has
made, whoever made them, have the numbers from one on, in order. -/
theorem allOrNothing_of_run (factories : Factories) (policy : LinkPolicy) (actions : List Action) :
    AllOrNothing (actions.foldl act (start factories policy))
      ∧ (start factories policy).creations actions
        = List.range' 1 ((start factories policy).creations actions).length
      ∧ (actions.foldl act (start factories policy)).forest.contexts.map (·.id)
        = (start factories policy).creations actions := by
  have hids := ids_foldl_act (start factories policy) actions
  have hwell := wellFormed_foldl_act (d := start factories policy) Forest.wellFormed_empty actions
  generalize actions.foldl act (start factories policy) = d at hids hwell
  change d.forest.contexts.map (·.id) = [] ++ _ at hids
  rw [List.nil_append] at hids
  refine ⟨⟨fun parent policy raws => hwell.createsWhole parent policy raws, opensWhole d,
    Forest.appendsWhole d.forest, Forest.addsOne d.forest, fun op error herror => ?_⟩, ?_, hids⟩
  · simp only [act, Forest.perform_of_refused herror]
  · rw [← hids, List.length_map]
    exact hwell.ids

example : (start { entries := [] } {}).creations
    [.operate (.create none {} ["/a", " /a "]), .operate (.create (some 1) {} ["/b", "s3://c"]),
      .setup {} { driverPath := "s3://c", driverClass := "A" },
      .setup {} { driverPath := "/c", driverClass := "A" },
      .operate (.create (some 1) {} [])] = [1, 2, 3] := by decide +kernel

end Deployment

end DriverClasses.Setup
