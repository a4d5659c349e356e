import DriverClasses.Proofs.Loading.Shape

/-!
# What a run keeps

No operation takes anything away: contexts keep their ids, policies and ancestors, and sources,
caches and the record of questions only grow at their ends.  `Forest.Extends` says so of two
forests, and `extends_after` of the forests before and after a run.
-/

namespace DriverClasses.Loading

open DriverClasses.ClassFile DriverClasses.Text DriverClasses.Files

/-- What a context can grow to. -/
structure Context.Extends (c d : Context) : Prop where
  policy_eq : d.policy = c.policy
  ancestors_eq : d.ancestors = c.ancestors
  sources_prefix : c.sources <+: d.sources
  cache_prefix : c.cache <+: d.cache

namespace Context.Extends

theorem refl (c : Context) : c.Extends c := ⟨rfl, rfl, List.prefix_rfl, List.prefix_rfl⟩

theorem trans {c d e : Context} (hcd : c.Extends d) (hde : d.Extends e) : c.Extends e :=
  ⟨hde.policy_eq.trans hcd.policy_eq, hde.ancestors_eq.trans hcd.ancestors_eq,
    hcd.sources_prefix.trans hde.sources_prefix, hcd.cache_prefix.trans hde.cache_prefix⟩

theorem addSource (c : Context) (source : ClassSource) : c.Extends (c.addSource source) :=
  ⟨rfl, rfl, List.prefix_append _ _, List.prefix_rfl⟩

theorem store (c : Context) (name : String) (h : LoadedClass) : c.Extends (c.store name h) :=
  ⟨rfl, rfl, List.prefix_rfl, List.prefix_append _ _⟩

theorem cached? {c d : Context} (hcd : c.Extends d) {name : String} {h : LoadedClass}
    (hc : c.cached? name = some h) : d.cached? name = some h := by
  obtain ⟨more, hmore⟩ := hcd.cache_prefix
  unfold Context.cached? at hc ⊢
  rw [← hmore, List.lookup_append, hc, Option.some_or]

theorem source? {c d : Context} (hcd : c.Extends d) {position : Nat} {s : ClassSource}
    (hs : c.sources[position]? = some s) : d.sources[position]? = some s := by
  obtain ⟨more, hmore⟩ := hcd.sources_prefix
  obtain ⟨hlt, -⟩ := List.getElem?_eq_some_iff.mp hs
  rw [← hmore, List.getElem?_append_left hlt, hs]

end Context.Extends

namespace Forest

/-- What a forest can grow to. -/
structure Extends (f g : Forest) : Prop where
  contexts : ∀ {id : Nat} {c : Context}, f.context? id = some c →
    ∃ d, g.context? id = some d ∧ c.Extends d
  linked_le : f.linked ≤ g.linked
  consultations_prefix : f.consultations <+: g.consultations

namespace Extends

theorem refl (f : Forest) : f.Extends f :=
  ⟨fun {_ c} hc => ⟨c, hc, .refl c⟩, Nat.le_refl _, List.prefix_rfl⟩

theorem trans {f g k : Forest} (hfg : f.Extends g) (hgk : g.Extends k) : f.Extends k := by
  refine ⟨fun {id c} hc => ?_, Nat.le_trans hfg.linked_le hgk.linked_le,
    hfg.consultations_prefix.trans hgk.consultations_prefix⟩
  obtain ⟨d, hd, hcd⟩ := hfg.contexts hc
  obtain ⟨e, he, hde⟩ := hgk.contexts hd
  exact ⟨e, he, hcd.trans hde⟩

/-- A change of one context that only lets it grow lets the forest grow. -/
theorem modify (f : Forest) (id : Nat) {change : Context → Context}
    (hid : ∀ c, (change c).id = c.id) (hchange : ∀ c : Context, c.Extends (change c)) :
    f.Extends (f.modify id change) := by
  refine ⟨fun {i c} hc => ?_, Nat.le_refl _, List.prefix_rfl⟩
  rw [context?_modify f id i change hid, hc]
  by_cases h : c.id = id
  · exact ⟨change c, by simp [h], hchange c⟩
  · exact ⟨c, by simp [h], .refl c⟩

theorem addSource (f : Forest) (id : Nat) (source : ClassSource) :
    f.Extends (f.addSource id source) :=
  modify f id (fun c => id_addSource c source) fun c => .addSource c source

theorem store (f : Forest) (id : Nat) (name : String) (h : LoadedClass) :
    f.Extends (f.store id name h) :=
  modify f id (fun c => id_store c name h) fun c => .store c name h

theorem of_change {f g : Forest} {op : Operation} (h : Change f op g) : f.Extends g := by
  cases h with
  | asked op consultations =>
    exact ⟨fun {_ c} hc => ⟨c, hc, .refl c⟩, Nat.le_refl _, List.prefix_append _ _⟩
  | created =>
    refine ⟨fun {id c} hc => ⟨c, ?_, .refl c⟩, Nat.le_refl _, List.prefix_rfl⟩
    rw [context?_append_of_isSome _ (Option.isSome_of_eq_some hc), hc]
  | sourced op id source => exact addSource f id source
  | @linked _ _ name c _ s header bytes =>
    have hstore := store f c.id name (f.handle c s header bytes)
    exact ⟨hstore.contexts, Nat.le_succ _, List.prefix_append _ _⟩

theorem cached? {f g : Forest} (hfg : f.Extends g) {id : Nat} {name : String} {h : LoadedClass}
    (hf : f.cached? id name = some h) : g.cached? id name = some h := by
  obtain ⟨c, hc, hname⟩ := Option.bind_eq_some_iff.mp hf
  obtain ⟨d, hd, hcd⟩ := hfg.contexts hc
  exact Option.bind_eq_some_iff.mpr ⟨d, hd, hcd.cached? hname⟩

theorem ancestors_eq {f g : Forest} (hfg : f.Extends g) {id : Nat}
    (hf : (f.context? id).isSome) : g.ancestors id = f.ancestors id := by
  obtain ⟨c, hc⟩ := Option.isSome_iff_exists.mp hf
  obtain ⟨d, hd, hcd⟩ := hfg.contexts hc
  rw [ancestors_of_context? hc, ancestors_of_context? hd, hcd.ancestors_eq]

end Extends

/-! ### What is in a cache -/

/-- The entries of the cache of a context. -/
def cacheOf (f : Forest) (id : Nat) : List (String × LoadedClass) :=
  ((f.context? id).map (·.cache)).getD []

theorem cached?_eq_lookup (f : Forest) (id : Nat) (name : String) :
    f.cached? id name = (f.cacheOf id).lookup name := by
  unfold cached? cacheOf
  cases f.context? id with
  | none => rfl
  | some c => rfl

theorem not_mem_names_of_lookup {entries : List (String × LoadedClass)} {name : String}
    (h : entries.lookup name = none) : name ∉ entries.map (·.1) := by
  intro hmem
  obtain ⟨e, he, rfl⟩ := List.mem_map.mp hmem
  simpa using List.lookup_eq_none_iff.mp h e he

theorem nodup_names_append {entries : List (String × LoadedClass)} {name : String}
    (hnodup : (entries.map (·.1)).Nodup) (hname : name ∉ entries.map (·.1)) (h : LoadedClass) :
    ((entries ++ [(name, h)]).map (·.1)).Nodup := by
  rw [List.map_append, List.map_singleton, List.nodup_append]
  refine ⟨hnodup, List.nodup_singleton _, fun a ha b hb hab => ?_⟩
  rw [hab, List.mem_singleton.mp hb] at ha
  exact hname ha

theorem cacheOf_of_context? {f : Forest} {id : Nat} {c : Context} (hc : f.context? id = some c) :
    f.cacheOf id = c.cache := by
  unfold cacheOf
  rw [hc]
  rfl

theorem cacheOf_addSource (f : Forest) (id i : Nat) (source : ClassSource) :
    (f.addSource id source).cacheOf i = f.cacheOf i := by
  unfold cacheOf addSource
  rw [context?_modify f id i _ fun c => id_addSource c source]
  cases f.context? i with
  | none => rfl
  | some c => by_cases h : c.id = id <;> simp [h, Context.addSource]

theorem cacheOf_store_of_ne (f : Forest) {id i : Nat} (name : String) (h : LoadedClass)
    (hne : i ≠ id) : (f.store id name h).cacheOf i = f.cacheOf i := by
  unfold cacheOf store
  rw [context?_modify_of_ne f _ (fun c => id_store c name h) hne]

theorem cacheOf_store_self {f : Forest} {id : Nat} (name : String) (h : LoadedClass)
    (hid : (f.context? id).isSome) :
    (f.store id name h).cacheOf id = f.cacheOf id ++ [(name, h)] := by
  obtain ⟨c, hc⟩ := Option.isSome_iff_exists.mp hid
  unfold cacheOf store
  rw [context?_modify_self f id _ fun c => id_store c name h, hc]
  rfl

/-- A class that is stored leaves what a cache has under other names alone. -/
theorem cached?_store_of_name_ne (f : Forest) (id i : Nat) {name other : String}
    (h : LoadedClass) (hne : other ≠ name) :
    (f.store id name h).cached? i other = f.cached? i other := by
  by_cases hi : i = id
  · subst hi
    by_cases hsome : (f.context? i).isSome
    · have hother : (other == name) = false := beq_eq_false_iff_ne.mpr hne
      rw [cached?_eq_lookup, cached?_eq_lookup, cacheOf_store_self name h hsome,
        List.lookup_append, List.lookup_cons, hother, List.lookup_nil, Option.or_none]
    · rw [Option.not_isSome_iff_eq_none] at hsome
      unfold cached? store
      rw [context?_modify_self f i _ fun c => id_store c name h, hsome]
      rfl
  · rw [cached?_eq_lookup, cached?_eq_lookup, cacheOf_store_of_ne f name h hi]

/-- A cache changes only by a load that has found the class, and then by one entry at its end. -/
theorem cacheOf_change {f g : Forest} {op : Operation} (h : Change f op g) (i : Nat) :
    g.cacheOf i = f.cacheOf i
      ∨ ∃ files name c position s header bytes, op = .load files i name
        ∧ f.Finds files i name c position s header bytes
        ∧ g = f.gain c name (position + 1) (f.handle c s header bytes)
        ∧ g.cacheOf i = f.cacheOf i ++ [(name, f.handle c s header bytes)] := by
  cases h with
  | asked op consultations => exact .inl rfl
  | created =>
    left
    unfold cacheOf
    rw [context?_append]
    cases hi : f.context? i with
    | some d => rfl
    | none => split <;> rfl
  | sourced op id source => exact .inl (cacheOf_addSource f id i source)
  | @linked files id name c position s header bytes hfinds =>
    have hid : c.id = id := id_of_context? hfinds.context
    subst hid
    by_cases hi : i = c.id
    · subst hi
      refine .inr ⟨files, name, c, position, s, header, bytes, rfl, hfinds, rfl, ?_⟩
      exact cacheOf_store_self name _ (Option.isSome_of_eq_some hfinds.context)
    · exact .inl (cacheOf_store_of_ne f name _ hi)

/-! ### Growth -/

theorem extends_perform (f : Forest) (op : Operation) : f.Extends (f.perform op).2 :=
  .of_change (change_perform f op)

theorem extends_after (f : Forest) (ops : List Operation) : f.Extends (f.after ops) :=
  after_induction (P := f.Extends) (fun g op hg => hg.trans (extends_perform g op)) (.refl f) ops

end Forest

end DriverClasses.Loading
