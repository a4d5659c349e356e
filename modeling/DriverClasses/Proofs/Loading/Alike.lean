import DriverClasses.Proofs.Loading.Identity

/-!
# Forests that are alike

Serial numbers are given out across a whole forest, so two runs number their classes differently as
soon as one of them has linked a class more, wherever that was.  Without the numbers, a class is its
context, its name and whatever else was read of it.

Two forests are `Alike` along a line when its contexts differ in serial numbers at most.  The same
change of one context on both keeps them alike, and a change off the line is no difference at all.
-/

namespace DriverClasses.Loading

open DriverClasses.ClassFile DriverClasses.Text DriverClasses.Files

/-! ### Without serial numbers -/

def LoadedClass.unnumbered (h : LoadedClass) : LoadedClass := { h with serial := 0 }

def LoadResult.unnumbered : LoadResult → LoadResult
  | .loaded h => .loaded h.unnumbered
  | .failed error => .failed error
  | .crashed reason => .crashed reason

def Answer.unnumbered : Answer → Answer
  | .cached handle => .cached (handle.map (·.unnumbered))
  | .ended result => .ended result.unnumbered
  | answer => answer

namespace Context

def unnumbered (c : Context) : Context :=
  { c with cache := c.cache.map fun e => (e.1, e.2.unnumbered) }

theorem cached?_unnumbered (c : Context) (name : String) :
    c.unnumbered.cached? name = (c.cached? name).map (·.unnumbered) := by
  unfold unnumbered cached?
  induction c.cache with
  | nil => rfl
  | cons e cache ih =>
    rw [List.map_cons, List.lookup_cons, List.lookup_cons]
    cases name == e.1 with
    | true => rfl
    | false => exact ih

theorem unnumbered_store (c : Context) (name : String) (h : LoadedClass) :
    (c.store name h).unnumbered = c.unnumbered.store name h.unnumbered := by
  simp [unnumbered, store]

theorem loadedNames_unnumbered (c : Context) : c.unnumbered.loadedNames = c.loadedNames := by
  simp [unnumbered, loadedNames, Function.comp_def]

end Context

namespace Forest

/-! ### Forests that are alike along a line -/

structure Alike (line : List Nat) (f g : Forest) : Prop where
  length_eq : g.contexts.length = f.contexts.length
  isSome_eq : ∀ i, (g.context? i).isSome = (f.context? i).isSome
  ancestors_eq : ∀ i, g.ancestors i = f.ancestors i
  context_eq : ∀ i ∈ line,
    (g.context? i).map (·.unnumbered) = (f.context? i).map (·.unnumbered)

namespace Alike

variable {line : List Nat} {f g k : Forest} {id : Nat} {name : String}

theorem refl (line : List Nat) (f : Forest) : Alike line f f :=
  ⟨rfl, fun _ => rfl, fun _ => rfl, fun _ _ => rfl⟩

theorem symm (h : Alike line f g) : Alike line g f :=
  ⟨h.length_eq.symm, fun i => (h.isSome_eq i).symm, fun i => (h.ancestors_eq i).symm,
    fun i hi => (h.context_eq i hi).symm⟩

theorem trans (h : Alike line f g) (h' : Alike line g k) : Alike line f k :=
  ⟨h'.length_eq.trans h.length_eq, fun i => (h'.isSome_eq i).trans (h.isSome_eq i),
    fun i => (h'.ancestors_eq i).trans (h.ancestors_eq i),
    fun i hi => (h'.context_eq i hi).trans (h.context_eq i hi)⟩

theorem exists_context (h : Alike line f g) (hid : id ∈ line) {c : Context}
    (hc : f.context? id = some c) :
    ∃ d, g.context? id = some d ∧ d.unnumbered = c.unnumbered := by
  have heq := h.context_eq id hid
  rw [hc, Option.map_some, Option.map_eq_some_iff] at heq
  exact heq

theorem context?_eq_none (h : Alike line f g) (hc : f.context? id = none) :
    g.context? id = none := by
  rw [← Option.not_isSome_iff_eq_none, h.isSome_eq, hc]
  simp

theorem cached?_eq (h : Alike line f g) (hid : id ∈ line) (name : String) :
    (g.cached? id name).map (·.unnumbered) = (f.cached? id name).map (·.unnumbered) := by
  unfold cached?
  cases hc : f.context? id with
  | none => rw [h.context?_eq_none hc]
  | some c =>
    obtain ⟨d, hd, hcd⟩ := h.exists_context hid hc
    rw [hd, Option.bind_some, Option.bind_some, ← Context.cached?_unnumbered, hcd,
      Context.cached?_unnumbered]

theorem resident?_eq (h : Alike line f g) (hid : ∀ i ∈ f.line id, i ∈ line) (name : String) :
    (g.resident? id name).map (·.unnumbered) = (f.resident? id name).map (·.unnumbered) := by
  have hline : g.line id = f.line id := by
    unfold Forest.line
    rw [h.ancestors_eq]
  rw [resident?_eq_findSome?, resident?_eq_findSome?, List.map_findSome?, List.map_findSome?,
    hline]
  revert hid
  generalize f.line id = below
  intro hbelow
  induction below with
  | nil => rfl
  | cons i below ih =>
    rw [List.findSome?_cons, List.findSome?_cons, ih fun j hj => hbelow j (.tail _ hj),
      Function.comp_apply, Function.comp_apply, h.cached?_eq (hbelow i List.mem_cons_self)]

/-- Changes of one context that keep its id and ancestors, and are like changes if it is on the
line. -/
theorem modify (h : Alike line f g) (id : Nat) {change change' : Context → Context}
    (hid : ∀ c, (change c).id = c.id ∧ (change' c).id = c.id)
    (hancestors : ∀ c, (change c).ancestors = c.ancestors ∧ (change' c).ancestors = c.ancestors)
    (hchange : id ∈ line → ∀ c d : Context, d.unnumbered = c.unnumbered →
      (change' d).unnumbered = (change c).unnumbered) :
    Alike line (f.modify id change) (g.modify id change') := by
  have hf := fun i => context?_modify f id i change fun c => (hid c).1
  have hg := fun i => context?_modify g id i change' fun c => (hid c).2
  refine ⟨?_, fun i => ?_, fun i => ?_, fun i hi => ?_⟩
  · rw [length_contexts_modify, length_contexts_modify, h.length_eq]
  · rw [hf, hg, Option.isSome_map, Option.isSome_map, h.isSome_eq]
  · have hancestors_eq := h.ancestors_eq i
    unfold Forest.ancestors at hancestors_eq ⊢
    rw [hf, hg, Option.map_map, Option.map_map]
    convert hancestors_eq using 3
    · funext d
      by_cases hd : d.id = id <;> simp [hd, hancestors d]
    · funext c
      by_cases hc : c.id = id <;> simp [hc, hancestors c]
  · rw [hf, hg, Option.map_map, Option.map_map]
    cases hc : f.context? i with
    | none => rw [h.context?_eq_none hc]; rfl
    | some c =>
      obtain ⟨d, hd, hcd⟩ := h.exists_context hi hc
      have hids : d.id = c.id := (id_of_context? hd).trans (id_of_context? hc).symm
      rw [hd]
      simp only [Option.map_some, Function.comp_apply, hids]
      by_cases hown : c.id = id
      · have hline : id ∈ line := by rwa [← hown, id_of_context? hc]
        rw [if_pos hown, if_pos hown, hchange hline c d hcd]
      · rw [if_neg hown, if_neg hown, hcd]

/-- What is done to a context off the line makes no difference. -/
theorem modify_of_not_mem (f : Forest) (hoff : id ∉ line) {change : Context → Context}
    (hid : ∀ c, (change c).id = c.id) (hancestors : ∀ c, (change c).ancestors = c.ancestors) :
    Alike line f (f.modify id change) := by
  have hsame : f.modify id (fun c => c) = f := by simp [Forest.modify]
  have h : Alike line (f.modify id fun c => c) (f.modify id change) :=
    (refl line f).modify id (fun c => ⟨rfl, hid c⟩) (fun c => ⟨rfl, hancestors c⟩)
      fun hmem => absurd hmem hoff
  rwa [hsame] at h

theorem addSource (h : Alike line f g) (id : Nat) (source : ClassSource) :
    Alike line (f.addSource id source) (g.addSource id source) := by
  refine h.modify id (fun c => ⟨rfl, rfl⟩) (fun c => ⟨rfl, rfl⟩) fun _ c d hcd => ?_
  have hadd : ∀ e : Context, (e.addSource source).unnumbered = e.unnumbered.addSource source :=
    fun e => rfl
  rw [hadd, hadd, hcd]

theorem store (h : Alike line f g) (id : Nat) (name : String) {own own' : LoadedClass}
    (hown : own'.unnumbered = own.unnumbered) :
    Alike line (f.store id name own) (g.store id name own') := by
  refine h.modify id (fun c => ⟨rfl, rfl⟩) (fun c => ⟨rfl, rfl⟩) fun _ c d hcd => ?_
  rw [Context.unnumbered_store, Context.unnumbered_store, hcd, hown]

/-- Forests with the same contexts are alike, whatever was linked and asked. -/
theorem of_contexts {f' g' : Forest} (h : Alike line f g) (hf : f'.contexts = f.contexts)
    (hg : g'.contexts = g.contexts) : Alike line f' g' := by
  have hcontext : ∀ i, f'.context? i = f.context? i ∧ g'.context? i = g.context? i := by
    intro i
    unfold context?
    rw [hf, hg]
    exact ⟨rfl, rfl⟩
  refine ⟨?_, fun i => ?_, fun i => ?_, fun i hi => ?_⟩
  · rw [hf, hg, h.length_eq]
  · rw [(hcontext i).1, (hcontext i).2, h.isSome_eq]
  · unfold Forest.ancestors
    rw [(hcontext i).1, (hcontext i).2]
    exact h.ancestors_eq i
  · rw [(hcontext i).1, (hcontext i).2, h.context_eq i hi]

theorem append (h : Alike line f g) (c : Context) :
    Alike line { f with contexts := f.contexts ++ [c] }
      { g with contexts := g.contexts ++ [c] } := by
  refine ⟨?_, fun i => ?_, fun i => ?_, fun i hi => ?_⟩
  · rw [List.length_append, List.length_append, h.length_eq]
  · rw [context?_append, context?_append, Option.isSome_or, Option.isSome_or, h.isSome_eq]
  · have hancestors := h.ancestors_eq i
    unfold Forest.ancestors at hancestors ⊢
    rw [context?_append, context?_append]
    cases hd : f.context? i with
    | none => rw [h.context?_eq_none hd]
    | some d =>
      obtain ⟨e, he⟩ := Option.isSome_iff_exists.mp ((h.isSome_eq i).trans (by rw [hd]; rfl))
      rw [hd, he] at hancestors
      rw [he]
      exact hancestors
  · rw [context?_append, context?_append]
    cases hd : f.context? i with
    | none => rw [h.context?_eq_none hd]
    | some d =>
      obtain ⟨e, he, hde⟩ := h.exists_context hi hd
      rw [he, Option.some_or, Option.some_or, Option.map_some, Option.map_some, hde]

end Alike

end Forest

end DriverClasses.Loading
