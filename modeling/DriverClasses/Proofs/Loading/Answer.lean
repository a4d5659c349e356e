import DriverClasses.Proofs.Loading.Identity

/-!
# What a load answers

`Forest.Loads` lists the answers that a load can give, each with the forest that it leaves, in
terms of what each source has for the class.  On every forest that a run leads to, a load gives an
answer just in case it is listed (`load_eq_iff_loads`).  Only a load that links a class changes a
context, and then by one entry of one cache.
-/

namespace DriverClasses.Loading

open DriverClasses.ClassFile DriverClasses.Text DriverClasses.Files

/-! ### What a source has for a class -/

namespace ClassSource

variable (s : ClassSource) (files : FileTree) (policy : LinkPolicy) (name : String)

/-- The source has bytes for the class, and they link. -/
def Provides (header : Header) (bytes : Bytes) : Prop :=
  s.find files (entryName name) policy.maxEntryBytes = .found bytes
    ∧ link policy name bytes = .ok header

/-- The source cannot be read, or has bytes for the class that do not link. -/
inductive Fails : Defect → Prop
  | unreadable {fault : SourceFault} :
      s.find files (entryName name) policy.maxEntryBytes = .failed fault → Fails (.unreadable fault)
  | unlinkable {bytes : Bytes} {fault : Fault} :
      s.find files (entryName name) policy.maxEntryBytes = .found bytes →
      link policy name bytes = .error fault → Fails (.unlinkable fault)

/-- The source has nothing under the name of the class. -/
def Lacks : Prop := s.find files (entryName name) policy.maxEntryBytes = .absent

/-- The source gives up without an answer. -/
def Crashes (reason : String) : Prop :=
  s.find files (entryName name) policy.maxEntryBytes = .crashed reason

/-- The source does not end the search. -/
def Passes : Prop := s.Lacks files policy name ∨ ∃ defect, s.Fails files policy name defect

variable {s files policy name}

theorem fails_iff {defect : Defect} :
    s.Fails files policy name defect ↔ verdict files policy name s = .defective defect := by
  rw [verdict_eq_defective_iff]
  constructor
  · rintro (⟨hfind⟩ | ⟨hfind, hlink⟩)
    · exact .inl ⟨_, hfind, rfl⟩
    · exact .inr ⟨_, _, hfind, hlink, rfl⟩
  · rintro (⟨fault, hfind, rfl⟩ | ⟨bytes, fault, hfind, hlink, rfl⟩)
    · exact .unreadable hfind
    · exact .unlinkable hfind hlink

theorem passes_iff :
    s.Passes files policy name ↔ (verdict files policy name s).passes = true := by
  unfold Passes Lacks
  rw [← verdict_eq_absent_iff]
  simp only [fails_iff]
  cases verdict files policy name s <;> simp [Verdict.passes]

end ClassSource

namespace Forest

/-! ### What is held above a context -/

/-- The class that the nearest ancestor with one has in its cache. -/
inductive HeldAbove (f : Forest) (name : String) : Nat → LoadedClass → Prop
  | parent {id p : Nat} {h : LoadedClass} :
      f.parent? id = some p → f.cached? p name = some h → HeldAbove f name id h
  | beyond {id p : Nat} {h : LoadedClass} :
      f.parent? id = some p → f.cached? p name = none → HeldAbove f name p h →
      HeldAbove f name id h

theorem WellFormed.inherited?_eq_cons {f : Forest} (hf : f.WellFormed) {id p : Nat}
    (hp : f.parent? id = some p) (name : String) :
    f.inherited? id name = (f.cached? p name).or (f.inherited? p name) := by
  rw [hf.inherited?_eq, hp]
  rfl

theorem WellFormed.inherited?_of_heldAbove {f : Forest} (hf : f.WellFormed) {id : Nat}
    {name : String} {h : LoadedClass} (hheld : f.HeldAbove name id h) :
    f.inherited? id name = some h := by
  induction hheld with
  | parent hp hcached => rw [hf.inherited?_eq_cons hp, hcached, Option.some_or]
  | beyond hp hnone _ ih => rw [hf.inherited?_eq_cons hp, hnone, Option.none_or, ih]

/-- By induction on the number of ancestors. -/
theorem WellFormed.heldAbove_of_inherited? {f : Forest} (hf : f.WellFormed) {name : String}
    {h : LoadedClass} : ∀ (above : List Nat) {id : Nat}, f.ancestors id = above →
      f.inherited? id name = some h → f.HeldAbove name id h
  | [], id, habove, hinherited => by simp [inherited?, habove] at hinherited
  | p :: above, id, habove, hinherited => by
    have hp : f.parent? id = some p := by rw [parent?_eq_head?, habove, List.head?_cons]
    rw [hf.inherited?_eq_cons hp] at hinherited
    cases hcached : f.cached? p name with
    | some own =>
      rw [hcached, Option.some_or, Option.some.injEq] at hinherited
      exact .parent hp (hinherited ▸ hcached)
    | none =>
      rw [hcached, Option.none_or] at hinherited
      exact .beyond hp hcached
        (hf.heldAbove_of_inherited? above (hf.chain habove).2 hinherited)

theorem WellFormed.inherited?_eq_some_iff {f : Forest} (hf : f.WellFormed) {id : Nat}
    {name : String} {h : LoadedClass} :
    f.inherited? id name = some h ↔ f.HeldAbove name id h :=
  ⟨hf.heldAbove_of_inherited? _ rfl, hf.inherited?_of_heldAbove⟩

/-! ### The answers -/

/-- The questions that a load puts to the first `count` sources of a context. -/
def questions (c : Context) (name : String) (count : Nat) : List Consultation :=
  (List.range count).map fun position =>
    { contextId := c.id, position, entry := entryName name, limit := c.policy.maxEntryBytes }

/-- A load has to search the sources of its context. -/
structure Searches (f : Forest) (c : Context) (name : String) : Prop where
  not_cached : ∀ h, (name, h) ∉ c.cache
  not_above : ∀ h, ¬ f.HeldAbove name c.id h
  binary : isBinaryName name = true

/-- No cache has a class of this number. -/
def Unused (f : Forest) (serial : Nat) : Prop :=
  ∀ d ∈ f.contexts, ∀ e ∈ d.cache, e.2.serial ≠ serial

/-- The answers of a load of `name` in the context `c`, each with the forest that is left. -/
inductive Loads (f : Forest) (files : FileTree) (c : Context) (name : String) :
    LoadResult → Forest → Prop
  | cached {h : LoadedClass} : (name, h) ∈ c.cache → Loads f files c name (.loaded h) f
  | inherited {h : LoadedClass} :
      (∀ own, (name, own) ∉ c.cache) → f.HeldAbove name c.id h →
      Loads f files c name (.loaded h) f
  | unnamed :
      (∀ own, (name, own) ∉ c.cache) → (∀ h, ¬ f.HeldAbove name c.id h) →
      isBinaryName name = false →
      Loads f files c name (.failed (.classNotFound name 0)) f
  /-- The sources before the first one that provides the class are passed over. -/
  | linked {before after : List ClassSource} {s : ClassSource} {header : Header} {bytes : Bytes}
      {h : LoadedClass} :
      f.Searches c name → c.sources = before ++ s :: after →
      (∀ t ∈ before, t.Passes files c.policy name) →
      s.Provides files c.policy name header bytes →
      h = { serial := f.linked, header, origin := s.origin, digest := Digest.sha256Hex bytes,
            contextId := c.id } →
      f.Unused h.serial →
      Loads f files c name (.loaded h)
        { contexts := f.contexts.map fun d => if d.id = c.id then d.store name h else d
          linked := f.linked + 1
          consultations := f.consultations ++ questions c name (before.length + 1) }
  /-- No source provides the class, and the first one that fails is to blame. -/
  | malformed {before after : List ClassSource} {s : ClassSource} {defect : Defect} :
      f.Searches c name → c.sources = before ++ s :: after →
      (∀ t ∈ c.sources, t.Passes files c.policy name) →
      (∀ t ∈ before, t.Lacks files c.policy name) → s.Fails files c.policy name defect →
      Loads f files c name (.failed (.malformedClass name s.origin defect))
        { f with consultations := f.consultations ++ questions c name c.sources.length }
  | missing :
      f.Searches c name → (∀ t ∈ c.sources, t.Lacks files c.policy name) →
      Loads f files c name (.failed (.classNotFound name c.sources.length))
        { f with consultations := f.consultations ++ questions c name c.sources.length }
  /-- A source that gives up ends the load. -/
  | crashed {before after : List ClassSource} {s : ClassSource} {reason : String} :
      f.Searches c name → c.sources = before ++ s :: after →
      (∀ t ∈ before, t.Passes files c.policy name) → s.Crashes files c.policy name reason →
      Loads f files c name (.crashed reason)
        { f with consultations := f.consultations ++ questions c name (before.length + 1) }

variable {f : Forest} {ops : List Operation} {c : Context} {name : String}

theorem Sound.cached?_eq_none_iff (hf : f.Sound ops) (hc : c ∈ f.contexts) :
    f.cached? c.id name = none ↔ ∀ h, (name, h) ∉ c.cache := by
  rw [Option.eq_none_iff_forall_not_mem]
  refine forall_congr' fun h => not_congr ?_
  rw [Option.mem_def, hf.cached?_eq_some_iff, mem_cacheOf (hf.wellFormed.context?_of_mem hc)]

theorem Sound.inherited?_eq_none_iff (hf : f.Sound ops) {id : Nat} :
    f.inherited? id name = none ↔ ∀ h, ¬ f.HeldAbove name id h := by
  rw [Option.eq_none_iff_forall_not_mem]
  exact forall_congr' fun h => not_congr hf.wellFormed.inherited?_eq_some_iff

theorem Sound.resident?_eq_none_iff (hf : f.Sound ops) (hc : c ∈ f.contexts) :
    f.resident? c.id name = none
      ↔ (∀ h, (name, h) ∉ c.cache) ∧ ∀ h, ¬ f.HeldAbove name c.id h := by
  unfold resident?
  rw [Option.or_eq_none_iff, hf.cached?_eq_none_iff hc, hf.inherited?_eq_none_iff]

theorem Sound.unused (hf : f.Sound ops) : f.Unused f.linked := by
  intro d hd e he
  have hctx := hf.wellFormed.context?_of_mem hd
  exact Nat.ne_of_lt (hf.serial_lt d.id e ((mem_cacheOf hctx).mpr he))

theorem Sound.load_of_searches (hf : f.Sound ops) (hc : c ∈ f.contexts)
    (hsearches : f.Searches c name) (files : FileTree) :
    f.load files c.id name = f.scanContext files c name := by
  have hres := (hf.resident?_eq_none_iff hc).mpr ⟨hsearches.not_cached, hsearches.not_above⟩
  rw [load_of_not_resident hres, if_pos hsearches.binary, hf.wellFormed.context?_of_mem hc]

theorem Loads.load_eq (hf : f.Sound ops) (hc : c ∈ f.contexts) {files : FileTree}
    {result : LoadResult} {g : Forest} (h : f.Loads files c name result g) :
    f.load files c.id name = (result, g) := by
  have hpass : ∀ {sources : List ClassSource},
      (∀ t ∈ sources, t.Passes files c.policy name) →
        ∀ t ∈ sources, (verdict files c.policy name t).passes = true :=
    fun h t ht => ClassSource.passes_iff.mp (h t ht)
  have hctx := hf.wellFormed.context?_of_mem hc
  cases h with
  | cached hmem =>
    have hcached := hf.cached?_eq_some_iff.mpr ((mem_cacheOf hctx).mpr hmem)
    exact load_of_resident (resident?_of_cached? hcached) files
  | inherited hown habove =>
    refine load_of_resident ?_ files
    unfold resident?
    rw [(hf.cached?_eq_none_iff hc).mpr hown, Option.none_or]
    exact hf.wellFormed.inherited?_eq_some_iff.mpr habove
  | unnamed hown habove hname =>
    rw [load_of_not_resident ((hf.resident?_eq_none_iff hc).mpr ⟨hown, habove⟩), hname]
    rfl
  | linked hsearches hsplit hbefore hs hh _ =>
    rw [hf.load_of_searches hc hsearches, hh]
    exact scanContext_of_linked hsplit (hpass hbefore) (verdict_eq_linked_iff.mpr hs)
  | malformed hsearches hsplit hall hbefore hs =>
    rw [hf.load_of_searches hc hsearches, scanContext, scan,
      (Scanned.blamed hsplit (hpass hall) (fun t ht => verdict_eq_absent_iff.mpr (hbefore t ht))
        (ClassSource.fails_iff.mp hs)).eq]
    rfl
  | missing hsearches hall =>
    rw [hf.load_of_searches hc hsearches, scanContext, scan,
      (Scanned.missing fun t ht => verdict_eq_absent_iff.mpr (hall t ht)).eq]
    rfl
  | crashed hsearches hsplit hbefore hs =>
    rw [hf.load_of_searches hc hsearches, scanContext, scan,
      (Scanned.crashed hsplit (hpass hbefore) (verdict_eq_crashed_iff.mpr hs)).eq]
    rfl

/-- One of the answers is always right. -/
theorem Sound.exists_loads (hf : f.Sound ops) (hc : c ∈ f.contexts) (files : FileTree)
    (name : String) : ∃ result g, f.Loads files c name result g := by
  have hpass : ∀ {sources : List ClassSource},
      (∀ t ∈ sources, (verdict files c.policy name t).passes = true) →
        ∀ t ∈ sources, t.Passes files c.policy name :=
    fun h t ht => ClassSource.passes_iff.mpr (h t ht)
  have hctx := hf.wellFormed.context?_of_mem hc
  cases hcached : f.cached? c.id name with
  | some h => exact ⟨_, _, .cached ((mem_cacheOf hctx).mp (hf.cached?_eq_some_iff.mp hcached))⟩
  | none =>
    have hown := (hf.cached?_eq_none_iff hc).mp hcached
    cases hinherited : f.inherited? c.id name with
    | some h => exact ⟨_, _, .inherited hown (hf.wellFormed.inherited?_eq_some_iff.mp hinherited)⟩
    | none =>
      have habove := hf.inherited?_eq_none_iff.mp hinherited
      by_cases hname : isBinaryName name = true
      · have hsearches : f.Searches c name := ⟨hown, habove, hname⟩
        obtain ⟨r, hr⟩ := exists_scanned (verdict files c.policy name) name c.sources
        cases hr with
        | linked hsplit hbefore hs =>
          exact ⟨_, _, .linked hsearches hsplit (hpass hbefore) (verdict_eq_linked_iff.mp hs) rfl
            hf.unused⟩
        | crashed hsplit hbefore hs =>
          exact ⟨_, _, .crashed hsearches hsplit (hpass hbefore) (verdict_eq_crashed_iff.mp hs)⟩
        | blamed hsplit hall hbefore hs =>
          exact ⟨_, _, .malformed hsearches hsplit (hpass hall)
            (fun t ht => verdict_eq_absent_iff.mp (hbefore t ht)) (ClassSource.fails_iff.mpr hs)⟩
        | missing hall =>
          exact ⟨_, _, .missing hsearches fun t ht => verdict_eq_absent_iff.mp (hall t ht)⟩
      · exact ⟨_, _, .unnamed hown habove (by simpa using hname)⟩

theorem Sound.load_eq_iff (hf : f.Sound ops) (hc : c ∈ f.contexts) {files : FileTree}
    {result : LoadResult} {g : Forest} :
    f.load files c.id name = (result, g) ↔ f.Loads files c name result g := by
  refine ⟨fun hload => ?_, Loads.load_eq hf hc⟩
  obtain ⟨result', g', h⟩ := hf.exists_loads hc files name
  rw [h.load_eq hf hc, Prod.mk.injEq] at hload
  obtain ⟨rfl, rfl⟩ := hload
  exact h

/-- On every forest that a run leads to, a load in one of its contexts gives an answer and leaves a
forest just in case `Loads` lists the two. -/
theorem load_eq_iff_loads (ops : List Operation) {c : Context}
    (hc : c ∈ (({} : Forest).after ops).contexts) (files : FileTree) (name : String)
    (result : LoadResult) (g : Forest) :
    (({} : Forest).after ops).load files c.id name = (result, g)
      ↔ (({} : Forest).after ops).Loads files c name result g :=
  (sound_after ops).load_eq_iff hc

/-! ### A context with two shelves -/

/-- A class file of the name `A` and nothing else. -/
def leastClass : Bytes :=
  [0xCA, 0xFE, 0xBA, 0xBE, 0, 0, 0, 52, 0, 3, 1, 0, 1, 65, 7, 0, 1, 0, 1, 0, 2, 0, 0, 0, 0]

def leastHeader : Header :=
  { name := "A", superName := none, interfaces := [], major := 52, minor := 0, access := 1 }

theorem link_leastClass : link {} "A" leastClass = .ok leastHeader := by decide +kernel

/-- A source that has one answer to every question. -/
def constantSource (origin : String) (lookup : Lookup) : ClassSource :=
  { origin, find := fun _ _ _ => lookup }

/-- A source that cannot be read. -/
def attic : ClassSource := constantSource "attic" (.failed (.reading "dust"))

/-- A source that has the class `A`. -/
def cellar : ClassSource := constantSource "cellar" (.found leastClass)

/-- An isolated context with a source that cannot be read and then one that has `A`. -/
def twoShelves : Context :=
  { id := 1, ancestors := [], policy := {}, sources := [attic, cellar], cache := [] }

def twoShelvesRun : List Operation :=
  [.create none {} [], .addSource 1 attic, .addSource 1 cellar]

def cellarHandle : LoadedClass :=
  { serial := 0, header := leastHeader, origin := "cellar"
    digest := Digest.sha256Hex leastClass, contextId := 1 }

theorem after_twoShelvesRun :
    ({} : Forest).after twoShelvesRun = { contexts := [twoShelves] } := rfl

/-- The failure of the first shelf is passed over for the class of the second. -/
theorem load_twoShelves :
    twoShelves ∈ (({} : Forest).after twoShelvesRun).contexts
      ∧ (({} : Forest).after twoShelvesRun).load {} twoShelves.id "A"
        = (.loaded cellarHandle,
            { contexts := [twoShelves.store "A" cellarHandle]
              linked := 1
              consultations := [⟨1, 0, "A.class", 16777216⟩, ⟨1, 1, "A.class", 16777216⟩] }) := by
  have hmem : twoShelves ∈ (({} : Forest).after twoShelvesRun).contexts := by
    simp [after_twoShelvesRun]
  refine ⟨hmem, (load_eq_iff_loads twoShelvesRun hmem {} "A" _ _).mpr ?_⟩
  rw [after_twoShelvesRun]
  have hsearches : Searches { contexts := [twoShelves] } twoShelves "A" := by
    refine ⟨fun h hmem => by simp [twoShelves] at hmem, fun h habove => ?_, by decide⟩
    cases habove with
    | parent hp => simp [parent?, context?, twoShelves, Context.parent?] at hp
    | beyond hp => simp [parent?, context?, twoShelves, Context.parent?] at hp
  have hattic : attic.Passes {} {} "A" := .inr ⟨_, .unreadable rfl⟩
  have hunused : Unused { contexts := [twoShelves] } cellarHandle.serial := by
    intro d hd e he
    rw [List.mem_singleton.mp hd] at he
    simp [twoShelves] at he
  have hsplit : twoShelves.sources = [attic] ++ cellar :: [] := rfl
  exact .linked hsearches hsplit (fun t ht => List.mem_singleton.mp ht ▸ hattic)
    ⟨rfl, link_leastClass⟩ rfl hunused

end Forest

end DriverClasses.Loading
