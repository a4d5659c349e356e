import DriverClasses.Proofs.Loading.Buffers
import DriverClasses.Proofs.Setup.Failures

/-!
# What the events tell

The events of the set-ups of a run, read one after the other, are an account of it: the contexts of
the host in their order, the drivers that were loaded with the class that each is for, and those
that were handed out again (`accounts_of_runs`).  A set-up that fails warns of it once and tells of
no driver, and the span of a set-up says how it ended.  Only a set-up that comes to no end at all
leaves its span open, and there is none as long as the limit on entries is one that a buffer can
reach.
-/

namespace DriverClasses.Setup

open DriverClasses.Files DriverClasses.ClassFile DriverClasses.Loading DriverClasses.Registry
open DriverClasses.Location DriverClasses.Text

/-! ### What an event tells of -/

/-- An entry of the table of contexts. -/
def Event.created? : Event → Option (List String × Nat)
  | contextCreated id paths => some (paths, id)
  | _ => none

/-- A class with a new driver: its name, origin and digest, and the context of the set-up. -/
def Event.loaded? : Event → Option (String × String × String × Nat)
  | driverLoaded name origin digest id => some (name, origin, digest, id)
  | _ => none

/-- A class whose driver was there, and the context of the set-up. -/
def Event.reused? : Event → Option (String × Nat)
  | driverReused name id => some (name, id)
  | _ => none

/-- What a warning says: the class, the path list and the error. -/
def Event.warning? : Event → Option (String × String × String)
  | setupFailed name paths error => some (name, paths, error)
  | _ => none

def Outcome.binding? : Outcome → Option Binding
  | bound b => some b
  | failed _ | crashed _ => none

/-- The options of a set-up. -/
def Action.options? : Action → Option DriverOptions
  | setup _ options => some options
  | register _ | deregister _ | operate _ => none

/-! ### The events of one set-up -/

/-- What a set-up tells of its driver. -/
def Outcome.tidings : Outcome → List Event
  | bound b =>
    if b.reused then [.driverReused b.loadedClass.name b.contextId]
    else
      [.driverRegistered b.loadedClass.name b.loadedClass.contextId,
        .driverLoaded b.loadedClass.name b.loadedClass.origin b.loadedClass.digest b.contextId]
  | failed _ | crashed _ => []

def Outcome.warnings (options : DriverOptions) : Outcome → List Event
  | failed error => [.setupFailed options.driverClass options.driverPath error.message]
  | bound _ | crashed _ => []

theorem created_announced (more : List (List String × Nat)) :
    (more.map fun e => Event.contextCreated e.2 e.1).filterMap (·.created?) = more := by
  rw [List.filterMap_map]
  exact List.filterMap_some

theorem filterMap_announced {α : Type} (tell : Event → Option α)
    (h : ∀ id paths, tell (.contextCreated id paths) = none) (more : List (List String × Nat)) :
    (more.map fun e => Event.contextCreated e.2 e.1).filterMap tell = [] := by
  rw [List.filterMap_map]
  exact List.filterMap_eq_nil_iff.mpr fun e _ => h e.2 e.1

theorem loaded_tidings (outcome : Outcome) :
    outcome.tidings.filterMap (·.loaded?)
      = (outcome.binding?.toList.filter (!·.reused)).map fun b =>
          (b.loadedClass.name, b.loadedClass.origin, b.loadedClass.digest, b.contextId) := by
  cases outcome with
  | bound b => cases h : b.reused <;> simp [Outcome.tidings, Outcome.binding?, Event.loaded?, h]
  | failed error => rfl
  | crashed reason => rfl

theorem reused_tidings (outcome : Outcome) :
    outcome.tidings.filterMap (·.reused?)
      = (outcome.binding?.toList.filter (·.reused)).map fun b =>
          (b.loadedClass.name, b.contextId) := by
  cases outcome with
  | bound b => cases h : b.reused <;> simp [Outcome.tidings, Outcome.binding?, Event.reused?, h]
  | failed error => rfl
  | crashed reason => rfl

/-- Each of the parts tells of something else. -/
theorem told_by_parts {more : List (List String × Nat)} {outcome : Outcome}
    {options : DriverOptions} {events : List Event}
    (h : events = more.map (fun e => .contextCreated e.2 e.1) ++ outcome.tidings
      ++ outcome.warnings options) :
    events.filterMap (·.created?) = more
      ∧ events.filterMap (·.loaded?) = outcome.tidings.filterMap (·.loaded?)
      ∧ events.filterMap (·.reused?) = outcome.tidings.filterMap (·.reused?)
      ∧ events.filterMap (·.warning?) = (outcome.warnings options).filterMap (·.warning?) := by
  subst h
  simp only [List.filterMap_append, created_announced]
  rw [filterMap_announced (·.loaded?) fun _ _ => rfl,
    filterMap_announced (·.reused?) fun _ _ => rfl,
    filterMap_announced (·.warning?) fun _ _ => rfl]
  cases outcome with
  | bound b =>
    cases hb : b.reused <;>
      simp [Outcome.tidings, Outcome.warnings, Event.created?, Event.warning?, hb]
  | failed error =>
    simp [Outcome.tidings, Outcome.warnings, Event.created?, Event.loaded?, Event.reused?]
  | crashed reason => simp [Outcome.tidings, Outcome.warnings]

namespace Deployment

variable {factories : Factories} {policy : LinkPolicy} {d d' : Deployment} {actions : List Action}

theorem contextFor_events {paths : List String} {id : Nat} {events : List Event}
    (h : d.contextFor paths = .ok (id, events, d')) :
    ∃ more, d'.host.contexts = d.host.contexts ++ more
      ∧ events = more.map fun e => .contextCreated e.2 e.1 := by
  unfold contextFor at h
  cases hfound : d.host.context? paths with
  | some own =>
    simp only [hfound, Except.ok.injEq, Prod.mk.injEq] at h
    obtain ⟨-, rfl, rfl⟩ := h
    exact ⟨[], (List.append_nil _).symm, rfl⟩
  | none =>
    cases hcreate : d.forest.create none d.host.policy paths with
    | error error => simp [hfound, hcreate, Bind.bind, Except.bind] at h
    | ok made =>
      obtain ⟨own, f⟩ := made
      simp only [hfound, hcreate, Bind.bind, Except.bind, pure, Except.pure, Except.ok.injEq,
        Prod.mk.injEq] at h
      obtain ⟨-, rfl, rfl⟩ := h
      exact ⟨[(paths, own)], rfl, rfl⟩

namespace Coherent

/-- A driver that is made is registered, so it is never told of a driver that was there. -/
theorem events_enlist (hd : d.Coherent factories policy) (hfaithful : Faithful factories)
    {loaded : LoadedClass} (hnew : d.manager.forClass? loaded = none) (id : Nat) :
    (d.enlist id loaded).2.1 = (d.enlist id loaded).1.tidings := by
  unfold Deployment.enlist Deployment.instantiate
  rw [hd.factories_eq]
  cases hmade : factories.instantiate loaded with
  | error error => rfl
  | ok blueprint =>
    have hclass : blueprint.loadedClass = loaded := hfaithful.instantiate hmade
    have hregister := hfaithful.register_made hmade hnew d.made
    simp only [Bind.bind, Except.bind, Pure.pure, Except.pure, Deployment.register, hregister]
    simp [Outcome.tidings, Driver.name, hclass]

theorem events_bindIn (hd : d.Coherent factories policy) (hfaithful : Faithful factories)
    {options : DriverOptions} {id : Nat} (hid : d.host.context? options.paths = some id)
    (files : FileTree) :
    (d.bindIn files options id).2.1 = (d.bindIn files options id).1.tidings := by
  unfold Deployment.bindIn
  cases hresident : d.resident? id options.driverClass with
  | some found =>
    obtain ⟨loaded, driver⟩ := found
    obtain ⟨hcached, -⟩ := resident?_eq_some_iff.mp hresident
    obtain ⟨ops, hsound⟩ := hd.sound
    rw [← (hsound.of_cached? hcached).2]
    rfl
  | none =>
    have hnew := resident?_eq_none_iff.mp hresident
    simp only [Deployment.loadAndEnlist]
    cases hload : d.forest.load files id options.driverClass with
    | mk result f =>
      cases result with
      | crashed reason => rfl
      | failed error => rfl
      | loaded loaded =>
        -- Had the class a driver, then it would have been resident together with it.
        obtain ⟨hkept, -, hnone⟩ := hd.load (hd.serves _ (mem_of_context? hid)) hnew hload
        exact hkept.events_enlist hfaithful hnone id

end Coherent

theorem events_close (options : DriverOptions) (outcome : Outcome) (events : List Event) :
    (SetupReport.close options outcome events).events = events ++ outcome.warnings options := by
  cases outcome with
  | failed error => rfl
  | bound b => exact (List.append_nil _).symm
  | crashed reason => exact (List.append_nil _).symm

/-- The events of a set-up are those of the contexts that it adds to the table, then what it tells
of its driver, then its warning. -/
theorem Coherent.events_setup (hd : d.Coherent factories policy) (hfaithful : Faithful factories)
    (files : FileTree) (options : DriverOptions) :
    ∃ more, (d.setup files options).2.host.contexts = d.host.contexts ++ more
      ∧ (d.setup files options).1.events
        = more.map (fun e => .contextCreated e.2 e.1)
          ++ (d.setup files options).1.outcome.tidings
          ++ (d.setup files options).1.outcome.warnings options := by
  simp only [Deployment.setup, outcome_close, events_close]
  unfold Deployment.bind
  by_cases hne : options.paths = []
  · rw [if_pos hne]
    exact ⟨[], (List.append_nil _).symm, rfl⟩
  · rw [if_neg hne]
    cases hcontext : d.contextFor options.paths with
    | error error => exact ⟨[], (List.append_nil _).symm, rfl⟩
    | ok found =>
      obtain ⟨id, created, d₁⟩ := found
      obtain ⟨more, hmore, rfl⟩ := contextFor_events hcontext
      obtain ⟨hd₁, hid, -⟩ := hd.contextFor hne hcontext
      have hevents := hd₁.events_bindIn hfaithful hid files
      have hhost := (ends_bindIn files options d₁ id).host_eq
      refine ⟨more, ?_, ?_⟩
      · dsimp only
        rw [hhost, hmore]
      · dsimp only
        rw [hevents]

/-! ### The reports of a run -/

/-- The report that an action comes with, if it is a set-up. -/
def told (d : Deployment) : Action → List (DriverOptions × SetupReport)
  | .setup files options => [(options, (d.setup files options).1)]
  | .register _ | .deregister _ | .operate _ => []

/-- The reports of all set-ups among some actions, each with the options. -/
def reports (d : Deployment) : List Action → List (DriverOptions × SetupReport)
  | [] => []
  | action :: later => d.told action ++ (d.act action).reports later

def events (d : Deployment) (actions : List Action) : List Event :=
  (d.reports actions).flatMap (·.2.events)

def bindings (d : Deployment) (actions : List Action) : List Binding :=
  (d.reports actions).filterMap (·.2.outcome.binding?)

theorem reports_append (d : Deployment) (actions later : List Action) :
    d.reports (actions ++ later) = d.reports actions ++ (actions.foldl act d).reports later := by
  induction actions generalizing d with
  | nil => rfl
  | cons action actions ih =>
    rw [List.cons_append, reports, ih, reports, List.append_assoc]
    rfl

theorem Runs.eq_foldl (hrun : d.Runs actions d') :
    d' = actions.foldl Deployment.act d := by
  induction hrun with
  | start => rfl
  | act _ _ ih => rw [List.foldl_append, ← ih]; rfl

theorem Runs.reports_concat (hrun : d.Runs actions d') (action : Action) :
    d.reports (actions ++ [action]) = d.reports actions ++ d'.told action := by
  rw [reports_append, ← hrun.eq_foldl, reports, reports, List.append_nil]

/-- What the report of a set-up says about its end. -/
structure Closes (options : DriverOptions) (report : SetupReport) : Prop where
  bound : ∀ b, report.outcome = .bound b →
    report.span =
        { driverClass := options.driverClass, driverPath := options.driverPath
          status := some "ok", error := none, contextId := some b.contextId }
      ∧ report.events.filterMap (·.warning?) = []
  failed : ∀ error, report.outcome = .failed error →
    report.span =
        { driverClass := options.driverClass, driverPath := options.driverPath
          status := some "error", error := some error.message, contextId := none }
      ∧ report.events.filterMap (·.warning?)
        = [(options.driverClass, options.driverPath, error.message)]
      ∧ report.events.filterMap (·.loaded?) = [] ∧ report.events.filterMap (·.reused?) = []
  crashed : ∀ reason, report.outcome = .crashed reason →
    report.span =
        { driverClass := options.driverClass, driverPath := options.driverPath
          status := none, error := none, contextId := none }
      ∧ report.events.filterMap (·.warning?) = []
      ∧ report.events.filterMap (·.loaded?) = [] ∧ report.events.filterMap (·.reused?) = []

/-- The reports of the set-ups among some actions account for what they lead to. -/
structure Accounts (d : Deployment) (actions : List Action) (d' : Deployment) : Prop where
  calls : (d.reports actions).map (·.1) = actions.filterMap (·.options?)
  created : (d.events actions).filterMap (·.created?) = d'.host.contexts
  loaded : (d.events actions).filterMap (·.loaded?)
    = ((d.bindings actions).filter (!·.reused)).map fun b =>
        (b.loadedClass.name, b.loadedClass.origin, b.loadedClass.digest, b.contextId)
  reused : (d.events actions).filterMap (·.reused?)
    = ((d.bindings actions).filter (·.reused)).map fun b => (b.loadedClass.name, b.contextId)
  closes : ∀ r ∈ d.reports actions, Closes r.1 r.2

theorem Coherent.closes (hd : d.Coherent factories policy) (hfaithful : Faithful factories)
    (files : FileTree) (options : DriverOptions) : Closes options (d.setup files options).1 := by
  obtain ⟨more, -, hevents⟩ := hd.events_setup hfaithful files options
  obtain ⟨-, hloaded, hreused, hwarning⟩ := told_by_parts hevents
  -- How the span is closed depends on the outcome and not on the events.
  have hspan : (d.setup files options).1.span
      = (SetupReport.close options (d.setup files options).1.outcome []).span := by
    simp only [Deployment.setup, outcome_close]
    cases (d.bind files options).1 <;> rfl
  generalize (d.setup files options).1 = report at hloaded hreused hwarning hspan
  refine ⟨fun b hb => ?_, fun error herror => ?_, fun reason hreason => ?_⟩
  · rw [hspan, hwarning, hb]
    exact ⟨rfl, rfl⟩
  · rw [hspan, hwarning, hloaded, hreused, herror]
    exact ⟨rfl, rfl, rfl, rfl⟩
  · rw [hspan, hwarning, hloaded, hreused, hreason]
    exact ⟨rfl, rfl, rfl, rfl⟩

theorem Accounts.setup (h : Accounts d actions d') (hrun : d.Runs actions d')
    (hd : d'.Coherent factories policy) (hfaithful : Faithful factories) (files : FileTree)
    (options : DriverOptions) :
    Accounts d (actions ++ [.setup files options]) (d'.act (.setup files options)) := by
  obtain ⟨more, hmore, hevents⟩ := hd.events_setup hfaithful files options
  obtain ⟨hcreated, hloaded, hreused, -⟩ := told_by_parts hevents
  have hreports := hrun.reports_concat (.setup files options)
  have hall : d.events (actions ++ [.setup files options])
      = d.events actions ++ (d'.setup files options).1.events := by
    simp [events, hreports, told]
  have hbindings : d.bindings (actions ++ [.setup files options])
      = d.bindings actions ++ (d'.setup files options).1.outcome.binding?.toList := by
    rw [bindings, hreports, List.filterMap_append]
    cases hb : (d'.setup files options).1.outcome.binding? <;> simp [bindings, told, hb]
  refine ⟨?_, ?_, ?_, ?_, ?_⟩
  · rw [hreports, List.map_append, List.filterMap_append, h.calls]
    rfl
  · rw [hall, List.filterMap_append, h.created, hcreated]
    exact hmore.symm
  · rw [hall, List.filterMap_append, h.loaded, hloaded, loaded_tidings, hbindings,
      List.filter_append, List.map_append]
  · rw [hall, List.filterMap_append, h.reused, hreused, reused_tidings, hbindings,
      List.filter_append, List.map_append]
  · intro r hr
    rw [hreports, List.mem_append] at hr
    rcases hr with hr | hr
    · exact h.closes r hr
    · rw [List.mem_singleton.mp hr]
      exact hd.closes hfaithful files options

theorem Accounts.of_told_nil (h : Accounts d actions d') (hrun : d.Runs actions d')
    {action : Action} (htold : d'.told action = []) (hoptions : action.options? = none)
    (hcontexts : (d'.act action).host.contexts = d'.host.contexts) :
    Accounts d (actions ++ [action]) (d'.act action) := by
  have hreports := hrun.reports_concat action
  rw [htold, List.append_nil] at hreports
  refine ⟨?_, ?_, ?_, ?_, ?_⟩
  · simp [hreports, h.calls, hoptions]
  · rw [events, hreports, hcontexts]
    exact h.created
  · rw [events, bindings, hreports]
    exact h.loaded
  · rw [events, bindings, hreports]
    exact h.reused
  · rw [hreports]
    exact h.closes

theorem Accounts.act (h : Accounts d actions d') (hrun : d.Runs actions d')
    (hd : d'.Coherent factories policy) (hfaithful : Faithful factories) (action : Action) :
    Accounts d (actions ++ [action]) (d'.act action) := by
  cases action with
  | setup files options => exact h.setup hrun hd hfaithful files options
  | register driver =>
    refine h.of_told_nil hrun rfl rfl ?_
    cases hregister : d'.manager.register driver <;> simp only [Deployment.act, hregister]
  | deregister loaded => exact h.of_told_nil hrun rfl rfl rfl
  | operate op => exact h.of_told_nil hrun rfl rfl rfl

/-! ### Set-ups that come to no end -/

theorem located_of_mapM {raws : List String} {sources : List ClassSource}
    (h : raws.mapM sourceOf = .ok sources) :
    ∀ s ∈ sources, ∃ location, s = .ofLocation location := by
  have hall := forall₂_of_mapM h
  clear h
  induction hall with
  | nil => exact fun s hs => absurd hs List.not_mem_nil
  | @cons raw source _ _ hsource _ ih =>
    refine List.forall_mem_cons.mpr ⟨?_, ih⟩
    unfold sourceOf at hsource
    split at hsource
    · rename_i location _
      exact ⟨location, (Except.ok.inj hsource).symm⟩
    · cases hsource

theorem located_contextFor (hd : d.forest.Located) {paths : List String} {id : Nat}
    {events : List Event} (h : d.contextFor paths = .ok (id, events, d')) : d'.forest.Located := by
  rcases contextFor_cases h with ⟨-, rfl⟩ | ⟨-, f, hcreate, rfl⟩
  · exact hd
  · obtain ⟨sources, hsources, -, rfl⟩ := create_eq_ok hcreate
    intro c hc
    rcases List.mem_append.mp hc with hc | hc
    · exact hd c hc
    · rw [List.mem_singleton.mp hc]
      exact located_of_mapM hsources

theorem located_setup (hd : d.forest.Located) (files : FileTree) (options : DriverOptions) :
    (d.setup files options).2.forest.Located := by
  have hgoes := goes_setup files options d
  generalize (d.setup files options).1.outcome = outcome at hgoes
  generalize (d.setup files options).2 = e at hgoes ⊢
  cases hgoes with
  | pathless => exact hd
  | refused => exact hd
  | ended _ hfound hends =>
    have hlocated := located_contextFor hd hfound
    rcases hends.forest_eq with hforest | hforest <;> rw [hforest]
    · exact hlocated
    · exact hlocated.load _ _ _

/-- As long as nobody else operates on the forest, its contexts have locations only. -/
theorem Runs.located (hrun : d.Runs actions d') (hd : d.forest.Located)
    (hown : ∀ op, .operate op ∉ actions) : d'.forest.Located := by
  induction hrun with
  | start => exact hd
  | @act _ before action _ _ ih =>
    have hbefore := ih fun op hop => hown op (List.mem_append_left _ hop)
    cases action with
    | setup files options => exact located_setup hbefore files options
    | register driver =>
      cases hregister : before.manager.register driver <;>
        simp only [Deployment.act, hregister] <;> exact hbefore
    | deregister loaded => exact hbefore
    | operate op =>
      exact absurd (List.mem_append_right _ (List.mem_singleton.mpr rfl)) (hown op)

theorem Coherent.not_crashed (hd : d.Coherent factories policy) (hlocated : d.forest.Located)
    (hlimit : policy.maxEntryBytes ≤ largestBuffer) (files : FileTree) (options : DriverOptions)
    (reason : String) : (d.setup files options).1.outcome ≠ .crashed reason := by
  intro hcrashed
  have hgoes := goes_setup files options d
  rw [hcrashed] at hgoes
  generalize (d.setup files options).2 = e at hgoes
  cases hgoes with
  | ended hne hfound hends =>
    obtain ⟨hd₁, hid, -⟩ := hd.contextFor hne hfound
    obtain ⟨c, hc, -, hpolicy, -⟩ := (hd₁.serves _ (mem_of_context? hid)).context
    obtain ⟨ops, hsound⟩ := hd₁.sound
    cases hends with
    | crashed _ hload =>
      have hlarge := (located_contextFor hlocated hfound).lt_of_crashed hsound hc hload
      rw [hpolicy] at hlarge
      omega

theorem told_not_crashed (hd : d.Coherent factories policy) (hlocated : d.forest.Located)
    (hlimit : policy.maxEntryBytes ≤ largestBuffer) (action : Action) :
    ∀ r ∈ d.told action, ∀ reason, r.2.outcome ≠ .crashed reason := by
  cases action with
  | setup files options =>
    intro r hr reason
    rw [List.mem_singleton.mp hr]
    exact hd.not_crashed hlocated hlimit files options reason
  | register driver | deregister loaded | operate op =>
    exact fun r hr => absurd hr List.not_mem_nil

/-! ### The account of a run -/

/-- The events of a run of a host account for the contexts of its table and for the bindings that
its set-ups have handed out, and every set-up says how it ended, unless it comes to no end.  None
comes to no end in a run of set-ups, registrations and deregistrations whose limit on entries is no
larger than a buffer can be. -/
theorem accounts_of_runs (hfaithful : Faithful factories)
    (hrun : (Deployment.start factories policy).Runs actions d) :
    Accounts (.start factories policy) actions d
      ∧ ((∀ op, .operate op ∉ actions) → policy.maxEntryBytes ≤ largestBuffer →
          ∀ r ∈ (Deployment.start factories policy).reports actions, ∀ reason,
            r.2.outcome ≠ .crashed reason) := by
  induction hrun with
  | start =>
    exact ⟨⟨rfl, rfl, rfl, rfl, fun r hr => absurd hr List.not_mem_nil⟩,
      fun _ _ r hr => absurd hr List.not_mem_nil⟩
  | @act earlier before action hbefore _ ih =>
    obtain ⟨haccounts, hended⟩ := ih
    obtain ⟨hd, -⟩ := (Coherent.start factories policy).runs hfaithful hbefore
    refine ⟨haccounts.act hbefore hd hfaithful action, fun hown hlimit r hr reason => ?_⟩
    have hown' : ∀ op, .operate op ∉ earlier := fun op hop => hown op (List.mem_append_left _ hop)
    have hlocated := hbefore.located (fun c hc => absurd hc List.not_mem_nil) hown'
    rw [hbefore.reports_concat, List.mem_append] at hr
    rcases hr with hr | hr
    · exact hended hown' hlimit r hr reason
    · exact told_not_crashed hd hlocated hlimit action r hr reason

/-- The first set-up fails, the second one loads the driver, and the third one finds it there. -/
def shedRun : List Action :=
  [.setup {} { driverPath := "/a", driverClass := "A" },
    .setup shed { driverPath := "/b", driverClass := "A" },
    .setup {} { driverPath := "/b;", driverClass := "A" }]

theorem runs_shedRun :
    (Deployment.start cellarFactories {}).Runs shedRun
      (shedRun.foldl Deployment.act (.start cellarFactories {})) := by
  have hsetup : ∀ (d : Deployment) files options, d.Admits (.setup files options) :=
    fun _ _ _ => trivial
  exact ((Runs.start.act (hsetup _ _ _)).act (hsetup _ _ _)).act (hsetup _ _ _)

theorem accounts_shedRun :
    ((Deployment.start cellarFactories {}).events shedRun).filterMap (·.created?)
        = [(["/a"], 1), (["/b"], 2)]
      ∧ ((Deployment.start cellarFactories {}).events shedRun).filterMap (·.reused?) = [("A", 2)]
      ∧ ∀ r ∈ (Deployment.start cellarFactories {}).reports shedRun, Closes r.1 r.2
        ∧ ∀ reason, r.2.outcome ≠ .crashed reason := by
  have hfaithful : Faithful cellarFactories := faithful_known.register_ofStart "A" "jdbc:a:"
  obtain ⟨haccounts, hended⟩ := accounts_of_runs hfaithful runs_shedRun
  refine ⟨?_, ?_, fun r hr => ⟨haccounts.closes r hr, hended ?_ (by decide) r hr⟩⟩
  · rw [haccounts.created]
    decide +kernel
  · rw [haccounts.reused]
    decide +kernel
  · simp [shedRun]

/-! ### An archive with a declared size beyond all buffers -/

/-- The archive has one member, of which it says that it has 2 ^ 63 bytes. -/
def overstatedArchive : Bytes :=
  [0x50, 0x4B, 3, 4, 0x14, 0, 0, 0, 0, 0, 0, 0, 0x21, 0, 0xD5, 0x1B, 0x8F, 0xF7, 0x19, 0, 0, 0,
    0xFF, 0xFF, 0xFF, 0xFF, 7, 0, 0, 0] ++ utf8 "A.class" ++ Forest.leastClass
  ++ [0x50, 0x4B, 1, 2, 0x14, 3, 0x14, 0, 0, 0, 0, 0, 0, 0, 0x21, 0, 0xD5, 0x1B, 0x8F, 0xF7, 0x19, 0,
    0, 0, 0xFF, 0xFF, 0xFF, 0xFF, 7, 0, 0x0C, 0, 0, 0, 0, 0, 0, 0, 0, 0, 0, 0, 0, 0, 0, 0]
  ++ utf8 "A.class" ++ [1, 0, 8, 0, 0, 0, 0, 0, 0, 0, 0, 0x80]
  ++ [0x50, 0x4B, 5, 6, 0, 0, 0, 0, 1, 0, 1, 0, 0x41, 0, 0, 0, 0x3E, 0, 0, 0, 0, 0]

def overstatedFiles : FileTree := { items := [([utf8 "a.jar"], .file overstatedArchive)] }

def overstatedRun : List Action :=
  [.setup overstatedFiles { driverPath := "/a.jar", driverClass := "A" }]

/-- Without a limit on entries, a set-up can be left with an open span. -/
theorem not_every_span_closed :
    ¬∀ (factories : Factories) (policy : LinkPolicy) (actions : List Action) (d : Deployment),
      Faithful factories → (Deployment.start factories policy).Runs actions d →
      (∀ op, .operate op ∉ actions) →
      ∀ r ∈ (Deployment.start factories policy).reports actions,
        r.2.span.status = some "ok" ∨ r.2.span.status = some "error" := by
  intro h
  have hsetup : ∀ (d : Deployment) files options, d.Admits (.setup files options) :=
    fun _ _ _ => trivial
  have hopen : ((Deployment.start cellarFactories { maxEntryBytes := 2 ^ 64 - 1 }).reports
      overstatedRun).map (·.2.span.status) = [none] := by decide +kernel
  have hclosed := h cellarFactories { maxEntryBytes := 2 ^ 64 - 1 } overstatedRun _
    (faithful_known.register_ofStart "A" "jdbc:a:") (Runs.start.act (hsetup _ _ _))
    (by simp [overstatedRun])
  obtain ⟨r, hr, hstatus⟩ := List.mem_map.mp (hopen ▸ List.mem_singleton.mpr rfl)
  rcases hclosed r hr with hok | herror
  · rw [hstatus] at hok
    cases hok
  · rw [hstatus] at herror
    cases herror

end Deployment

end DriverClasses.Setup
