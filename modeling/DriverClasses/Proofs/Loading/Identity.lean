import Mathlib.Data.List.Induction
import DriverClasses.Proofs.Loading.Line

/-!
# The identity of classes

Two handles are one class just in case they have the same context and the same name, wherever in a
run they were handed out: from a cache, by an ancestor, or by the load that has linked the class.
`Forest.Sound` is what every operation keeps: each entry of a cache is a class that some load of
the run has linked under the name of the entry (`Genuine`), and no two entries, of one cache or of
two, have the same serial number.
-/

namespace DriverClasses.Loading

open DriverClasses.ClassFile DriverClasses.Text DriverClasses.Files

/-- The questions that an operation puts to sources. -/
def Forest.asks (f : Forest) (op : Operation) : List Consultation :=
  (f.perform op).2.consultations.drop f.consultations.length

/-- The class under a name in the cache of `c` is one that a source of `c`, asked by a load among
`ops`, had for it, and that the policy of `c` accepts. -/
structure Genuine (ops : List Operation) (c : Context) (name : String) (h : LoadedClass) :
    Prop where
  binary : isBinaryName name = true
  name_eq : h.name = name
  contextId_eq : h.contextId = c.id
  oldest_le : 45 ≤ h.header.major
  le_newest : h.header.major ≤ c.policy.newestMajor
  declares : ∀ interface ∈ c.policy.requiredInterface, interface ∈ h.header.interfaces
  provided : ∃ before files after position source bytes,
    ops = before ++ .load files c.id name :: after
      ∧ ⟨c.id, position, entryName name, c.policy.maxEntryBytes⟩
          ∈ (({} : Forest).after before).asks (.load files c.id name)
      ∧ c.sources[position]? = some source ∧ source.origin = h.origin
      ∧ source.find files (entryName name) c.policy.maxEntryBytes = .found bytes
      ∧ Header.read? bytes = .ok h.header ∧ Digest.sha256Hex bytes = h.digest

/-- What is genuine stays so while operations are added and the context grows. -/
theorem Genuine.mono {ops : List Operation} {c d : Context} {name : String} {h : LoadedClass}
    (hg : Genuine ops c name h) (hid : d.id = c.id) (hcd : c.Extends d) (more : List Operation) :
    Genuine (ops ++ more) d name h := by
  obtain ⟨before, files, after, position, source, bytes, hops, hasked, hsource, horigin, hfind,
    hread, hdigest⟩ := hg.provided
  have hpolicy := hcd.policy_eq
  refine ⟨hg.binary, hg.name_eq, hid ▸ hg.contextId_eq, hg.oldest_le, hpolicy ▸ hg.le_newest,
    hpolicy ▸ hg.declares, before, files, after ++ more, position, source, bytes, ?_, ?_,
    hcd.source? hsource, horigin, ?_, hread, hdigest⟩
  · rw [hops, hid, List.append_assoc, List.cons_append]
  · rw [hid, hpolicy]
    exact hasked
  · rw [hpolicy]
    exact hfind

namespace Forest

theorem mem_asks_of_gain {f : Forest} {op : Operation} {c : Context} {name : String}
    {position : Nat} {h : LoadedClass} (hgain : (f.perform op).2 = f.gain c name (position + 1) h) :
    ⟨c.id, position, entryName name, c.policy.maxEntryBytes⟩ ∈ f.asks op := by
  have hconsultations : (f.gain c name (position + 1) h).consultations
      = f.consultations ++ (List.range (position + 1)).map fun position =>
          ⟨c.id, position, entryName name, c.policy.maxEntryBytes⟩ := rfl
  rw [asks, hgain, hconsultations, List.drop_left]
  exact List.mem_map.mpr ⟨position, List.mem_range.mpr (Nat.lt_succ_self _), rfl⟩

theorem Finds.genuine {ops : List Operation} {files : FileTree} {id : Nat} {name : String}
    {c d : Context} {position : Nat} {s : ClassSource} {header : Header} {bytes : Bytes}
    {h : LoadedClass}
    (hfinds : (({} : Forest).after ops).Finds files id name c position s header bytes)
    (hgain : ((({} : Forest).after ops).perform (.load files id name)).2
      = (({} : Forest).after ops).gain c name (position + 1) h)
    (hh : h = (({} : Forest).after ops).handle c s header bytes)
    (hid : d.id = c.id) (hcd : c.Extends d) :
    Genuine (ops ++ [.load files id name]) d name h := by
  obtain ⟨hread, ⟨holdest, hnewest⟩, hname, hdeclares⟩ := link_eq_ok_iff.mp hfinds.links
  have hpolicy := hcd.policy_eq
  have hcid : c.id = id := id_of_context? hfinds.context
  have hasked := mem_asks_of_gain hgain
  subst hh hcid
  refine ⟨hfinds.binary, hname, hid.symm, holdest, hpolicy ▸ hnewest, hpolicy ▸ hdeclares,
    ops, files, [], position, s, bytes, ?_, ?_, hcd.source? hfinds.source, rfl, ?_, hread, rfl⟩
  · rw [hid]
  · rw [hid, hpolicy]
    exact hasked
  · rw [hpolicy]
    exact hfinds.found

/-- The caches of a forest that the operations `ops` have led to. -/
structure Sound (ops : List Operation) (f : Forest) : Prop where
  reached : f = ({} : Forest).after ops
  wellFormed : f.WellFormed
  nodup_names : ∀ i, ((f.cacheOf i).map (·.1)).Nodup
  genuine : ∀ {i c}, f.context? i = some c → ∀ e ∈ c.cache, Genuine ops c e.1 e.2
  serial_lt : ∀ i, ∀ e ∈ f.cacheOf i, e.2.serial < f.linked
  eq_of_serial : ∀ i j, ∀ e ∈ f.cacheOf i, ∀ e' ∈ f.cacheOf j,
    e.2.serial = e'.2.serial → i = j ∧ e = e'

/-- An entry that is new in a cache comes from the load that was just made. -/
theorem mem_cacheOf_change {f g : Forest} {op : Operation} (h : Change f op g) {i : Nat}
    {e : String × LoadedClass} (he : e ∈ g.cacheOf i) :
    e ∈ f.cacheOf i
      ∨ ∃ files c position s header bytes, op = .load files i e.1
        ∧ f.Finds files i e.1 c position s header bytes
        ∧ g = f.gain c e.1 (position + 1) e.2 ∧ e.2 = f.handle c s header bytes := by
  rcases cacheOf_change h i with hsame | ⟨files, name, c, position, s, header, bytes, hop, hfinds,
    hgain, hcache⟩
  · exact .inl (hsame ▸ he)
  · rw [hcache, List.mem_append, List.mem_singleton] at he
    rcases he with he | rfl
    · exact .inl he
    · exact .inr ⟨files, c, position, s, header, bytes, hop, hfinds, hgain, rfl⟩

theorem mem_cacheOf {f : Forest} {i : Nat} {c : Context} (hc : f.context? i = some c)
    {e : String × LoadedClass} : e ∈ f.cacheOf i ↔ e ∈ c.cache := by
  rw [cacheOf_of_context? hc]

theorem Finds.name_not_mem {f : Forest} {files : FileTree} {id : Nat} {name : String} {c : Context}
    {position : Nat} {s : ClassSource} {header : Header} {bytes : Bytes}
    (hfinds : f.Finds files id name c position s header bytes) :
    name ∉ (f.cacheOf id).map (·.1) := by
  have hnone := resident?_eq_none_iff.mp hfinds.not_resident id List.mem_cons_self
  rw [cached?_eq_lookup] at hnone
  exact not_mem_names_of_lookup hnone

theorem Sound.nodup_names_change {ops : List Operation} {f g : Forest} {op : Operation}
    (hf : f.Sound ops) (h : Change f op g) (i : Nat) : ((g.cacheOf i).map (·.1)).Nodup := by
  rcases cacheOf_change h i with hsame | ⟨_, name, _, _, _, _, _, _, hfinds, _, hcache⟩
  · rw [hsame]
    exact hf.nodup_names i
  · rw [hcache]
    exact nodup_names_append (hf.nodup_names i) hfinds.name_not_mem _

theorem Sound.genuine_perform {ops : List Operation} {f : Forest} (hf : f.Sound ops)
    (op : Operation) {i : Nat} {d : Context} (hd : (f.perform op).2.context? i = some d)
    {e : String × LoadedClass} (he : e ∈ d.cache) : Genuine (ops ++ [op]) d e.1 e.2 := by
  have hgrown : ∀ c, f.context? i = some c → d.id = c.id ∧ c.Extends d := by
    intro c hc
    obtain ⟨d', hd', hcd⟩ := (extends_perform f op).contexts hc
    rw [hd, Option.some.injEq] at hd'
    exact ⟨(id_of_context? hd).trans (id_of_context? hc).symm, hd' ▸ hcd⟩
  rcases mem_cacheOf_change (change_perform f op) ((mem_cacheOf hd).mpr he) with hold |
    ⟨files, c, position, s, header, bytes, rfl, hfinds, hgain, hhandle⟩
  · cases hc : f.context? i with
    | none => simp [cacheOf, hc] at hold
    | some c =>
      obtain ⟨hid, hcd⟩ := hgrown c hc
      exact (hf.genuine hc e ((mem_cacheOf hc).mp hold)).mono hid hcd [op]
  · obtain ⟨hid, hcd⟩ := hgrown c hfinds.context
    have hreached := hf.reached
    subst hreached
    exact hfinds.genuine hgain hhandle hid hcd

theorem Sound.serial_lt_change {ops : List Operation} {f g : Forest} {op : Operation}
    (hf : f.Sound ops) (h : Change f op g) {i : Nat} {e : String × LoadedClass}
    (he : e ∈ g.cacheOf i) : e.2.serial < g.linked := by
  rcases mem_cacheOf_change h he with hold | ⟨_, _, _, _, _, _, _, _, hgain, hhandle⟩
  · exact Nat.lt_of_lt_of_le (hf.serial_lt i e hold) (Extends.of_change h).linked_le
  · rw [hhandle, hgain]
    exact Nat.lt_succ_self _

/-- An entry that is new has a number that no older entry has. -/
theorem Sound.eq_of_serial_change {ops : List Operation} {f g : Forest} {op : Operation}
    (hf : f.Sound ops) (h : Change f op g) {i j : Nat} {e e' : String × LoadedClass}
    (he : e ∈ g.cacheOf i) (he' : e' ∈ g.cacheOf j) (hserial : e.2.serial = e'.2.serial) :
    i = j ∧ e = e' := by
  rcases mem_cacheOf_change h he with hold | ⟨_, _, _, _, _, _, hop, _, _, hhandle⟩ <;>
    rcases mem_cacheOf_change h he' with hold' | ⟨_, _, _, _, _, _, hop', _, _, hhandle'⟩
  · exact hf.eq_of_serial i j e hold e' hold' hserial
  · have hlt := hf.serial_lt i e hold
    rw [hserial, hhandle'] at hlt
    exact absurd hlt (Nat.lt_irrefl _)
  · have hlt := hf.serial_lt j e' hold'
    rw [← hserial, hhandle] at hlt
    exact absurd hlt (Nat.lt_irrefl _)
  · -- One load puts one entry into one cache.
    rw [hop, Operation.load.injEq] at hop'
    obtain ⟨-, rfl, hname⟩ := hop'
    exact ⟨rfl, List.inj_on_of_nodup_map (hf.nodup_names_change h i) he he' hname⟩

theorem Sound.performed {ops : List Operation} {f : Forest} (hf : f.Sound ops) (op : Operation) :
    (f.perform op).2.Sound (ops ++ [op]) where
  reached := by rw [after_append, ← hf.reached, after_cons, after_nil]
  wellFormed := hf.wellFormed.change (change_perform f op)
  nodup_names := hf.nodup_names_change (change_perform f op)
  genuine hd _ he := hf.genuine_perform op hd he
  serial_lt _ _ he := hf.serial_lt_change (change_perform f op) he
  eq_of_serial _ _ _ he _ he' := hf.eq_of_serial_change (change_perform f op) he he'

theorem sound_empty : ({} : Forest).Sound [] where
  reached := rfl
  wellFormed := wellFormed_empty
  nodup_names _ := List.nodup_nil
  genuine hc := by simp [context?] at hc
  serial_lt _ e he := by simp [cacheOf, context?] at he
  eq_of_serial _ _ e he := by simp [cacheOf, context?] at he

theorem sound_after (ops : List Operation) : (({} : Forest).after ops).Sound ops := by
  induction ops using List.reverseRecOn with
  | nil => exact sound_empty
  | append_singleton ops op ih =>
    rw [after_append]
    exact ih.performed op

/-! ### Handles that are handed out -/

theorem Sound.cached?_eq_some_iff {ops : List Operation} {f : Forest} (hf : f.Sound ops) {i : Nat}
    {name : String} {h : LoadedClass} : f.cached? i name = some h ↔ (name, h) ∈ f.cacheOf i := by
  rw [cached?_eq_lookup, List.lookup_eq_some_iff]
  constructor
  · rintro ⟨before, after, hsplit, -⟩
    rw [hsplit]
    exact List.mem_append_right _ List.mem_cons_self
  · intro hmem
    obtain ⟨before, after, hsplit⟩ := List.append_of_mem hmem
    refine ⟨before, after, hsplit, fun e he => ?_⟩
    have hnodup := hf.nodup_names i
    rw [hsplit, List.map_append, List.nodup_append] at hnodup
    have hne := hnodup.2.2 e.1 (List.mem_map_of_mem he) name (by simp)
    simpa [bne_iff_ne] using hne.symm

theorem Sound.of_cached? {ops : List Operation} {f : Forest} (hf : f.Sound ops) {i : Nat}
    {name : String} {h : LoadedClass} (hc : f.cached? i name = some h) :
    h.contextId = i ∧ h.name = name := by
  obtain ⟨c, hcontext, -⟩ := Option.bind_eq_some_iff.mp hc
  have hmem := (mem_cacheOf hcontext).mp (hf.cached?_eq_some_iff.mp hc)
  have hgenuine := hf.genuine hcontext _ hmem
  exact ⟨hgenuine.contextId_eq.trans (id_of_context? hcontext), hgenuine.name_eq⟩

theorem resident?_of_load {f g : Forest} {files : FileTree} {id : Nat} {name : String}
    {h : LoadedClass} (hload : f.load files id name = (.loaded h, g)) :
    g.resident? id name = some h := by
  rcases of_load_eq_loaded hload with ⟨hres, rfl⟩ |
    ⟨c, position, s, header, bytes, hfinds, rfl, rfl⟩
  · exact hres
  · have hid : c.id = id := id_of_context? hfinds.context
    subst hid
    have hnone := resident?_eq_none_iff.mp hfinds.not_resident c.id List.mem_cons_self
    exact resident?_of_cached?
      (cached?_store_self f _ (Option.isSome_of_eq_some hfinds.context) hnone)

theorem Sound.cached?_of_resident? {ops : List Operation} {f : Forest} (hf : f.Sound ops)
    {id : Nat} {name : String} {h : LoadedClass} (hres : f.resident? id name = some h) :
    f.cached? h.contextId h.name = some h := by
  obtain ⟨below, owner, above, -, howner, -⟩ := resident?_eq_some_iff.mp hres
  obtain ⟨hid, hname⟩ := hf.of_cached? howner
  rw [hid, hname, howner]

theorem Sound.cached?_of_answer {ops : List Operation} {f : Forest} {op : Operation}
    (hsound : (f.perform op).2.Sound ops) {h : LoadedClass}
    (hanswer : (f.perform op).1.handle? = some h) :
    (f.perform op).2.cached? h.contextId h.name = some h := by
  cases op with
  | isLoaded id name => exact hsound.cached?_of_resident? (resident?_of_cached? hanswer)
  | load files id name =>
    cases hload : f.load files id name with
    | mk result g =>
      simp only [perform, hload] at hanswer hsound ⊢
      cases result with
      | loaded own =>
        simp only [Answer.handle?, Option.some.injEq] at hanswer
        subst hanswer
        exact hsound.cached?_of_resident? (resident?_of_load hload)
      | failed error => simp [Answer.handle?] at hanswer
      | crashed reason => simp [Answer.handle?] at hanswer
  | create parent policy raws =>
    simp only [perform] at hanswer
    split at hanswer
    · split at hanswer <;> simp [Answer.handle?] at hanswer
    · simp [Answer.handle?] at hanswer
  | addLocation id raw =>
    simp only [perform] at hanswer
    split at hanswer <;> simp [Answer.handle?] at hanswer
  | addSource id source => simp [perform, Answer.handle?] at hanswer
  | loadedNames id => simp [perform, Answer.handle?] at hanswer
  | locations id => simp [perform, Answer.handle?] at hanswer

/-- What a run hands out. -/
def handedOut (ops : List Operation) : List LoadedClass :=
  (({} : Forest).answers ops).filterMap (·.handle?)

/-- Whatever a run has handed out is in the cache of its context under its name. -/
theorem cached?_of_mem_handedOut {ops : List Operation} {h : LoadedClass}
    (hmem : h ∈ handedOut ops) :
    (({} : Forest).after ops).cached? h.contextId h.name = some h := by
  induction ops using List.reverseRecOn with
  | nil => simp [handedOut, answers] at hmem
  | append_singleton ops op ih =>
    have hsound := sound_after (ops ++ [op])
    rw [after_append] at hsound ⊢
    unfold handedOut at hmem ih
    rw [answers_append, List.filterMap_append, List.mem_append] at hmem
    rcases hmem with hold | hnew
    · exact (extends_perform _ op).cached? (ih hold)
    · exact hsound.cached?_of_answer (by simpa [answers] using hnew)

/-- In every forest that a run leads to: each entry of a cache is genuine; two handles that the run
has handed out are one class just in case they have the same context and the same name; and no
cache has a name twice or loses an entry, however the run goes on, nor do two contexts share an
id. -/
theorem identity_after (ops : List Operation) :
    (∀ c ∈ (({} : Forest).after ops).contexts, ∀ name h, (name, h) ∈ c.cache →
        Genuine ops c name h)
      ∧ (∀ h ∈ handedOut ops, ∀ k ∈ handedOut ops,
          (h.serial = k.serial ↔ h.contextId = k.contextId ∧ h.name = k.name)
            ∧ (h.serial = k.serial → h = k))
      ∧ (∀ c ∈ (({} : Forest).after ops).contexts, (c.cache.map (·.1)).Nodup
          ∧ ∀ more, ∃ d, (({} : Forest).after (ops ++ more)).context? c.id = some d
            ∧ c.cache <+: d.cache)
      ∧ ((({} : Forest).after ops).contexts.map (·.id)).Nodup := by
  have hsound := sound_after ops
  refine ⟨fun c hc name h hmem => ?_, fun h hh k hk => ?_, fun c hc => ⟨?_, fun more => ?_⟩,
    hsound.wellFormed.nodup_ids⟩
  · exact hsound.genuine (hsound.wellFormed.context?_of_mem hc) (name, h) hmem
  · have hcached := cached?_of_mem_handedOut hh
    have kcached := cached?_of_mem_handedOut hk
    have hone : h.serial = k.serial → h = k := fun hserial =>
      congrArg Prod.snd (hsound.eq_of_serial _ _ _ (hsound.cached?_eq_some_iff.mp hcached) _
        (hsound.cached?_eq_some_iff.mp kcached) hserial).2
    refine ⟨⟨fun hserial => ?_, fun ⟨hid, hname⟩ => ?_⟩, hone⟩
    · rw [hone hserial]
      exact ⟨rfl, rfl⟩
    · rw [hid, hname, kcached, Option.some.injEq] at hcached
      rw [hcached]
  · have hnodup := hsound.nodup_names c.id
    rwa [cacheOf_of_context? (hsound.wellFormed.context?_of_mem hc)] at hnodup
  · rw [after_append]
    obtain ⟨d, hd, hcd⟩ :=
      (extends_after _ more).contexts (hsound.wellFormed.context?_of_mem hc)
    exact ⟨d, hd, hcd.cache_prefix⟩

end Forest

end DriverClasses.Loading
