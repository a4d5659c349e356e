import DriverClasses.Proofs.Setup.Endings

/-!
# Other numbers for contexts

The id of a context is a name and nothing more: a load in an isolated context does the same
whatever ids there are, and so do the manager and a factory that does not look at the id
(`Renumbered.load`, `Manager.forClass?_renumber`, `Uniform.instantiate`).
-/

namespace DriverClasses.Loading

open DriverClasses.ClassFile DriverClasses.Files

def LoadedClass.renumber (ρ : Nat → Nat) (h : LoadedClass) : LoadedClass :=
  { h with contextId := ρ h.contextId }

theorem LoadedClass.name_renumber (ρ : Nat → Nat) (h : LoadedClass) :
    (h.renumber ρ).name = h.name := rfl

def LoadResult.renumber (ρ : Nat → Nat) : LoadResult → LoadResult
  | loaded h => loaded (h.renumber ρ)
  | failed error => failed error
  | crashed reason => crashed reason

namespace Context

def renumber (ρ : Nat → Nat) (c : Context) : Context :=
  { c with
    id := ρ c.id
    ancestors := c.ancestors.map ρ
    cache := c.cache.map fun e => (e.1, e.2.renumber ρ) }

theorem cached?_renumber (ρ : Nat → Nat) (c : Context) (name : String) :
    (c.renumber ρ).cached? name = (c.cached? name).map (·.renumber ρ) := by
  unfold cached? renumber
  induction c.cache with
  | nil => rfl
  | cons e cache ih =>
    rw [List.map_cons, List.lookup_cons, List.lookup_cons, ih]
    cases name == e.1 <;> rfl

theorem renumber_store (ρ : Nat → Nat) (c : Context) (name : String) (h : LoadedClass) :
    (c.store name h).renumber ρ = (c.renumber ρ).store name (h.renumber ρ) := by
  simp [store, renumber]

end Context

namespace Forest

theorem load_of_isolated {f : Forest} {id : Nat} {c : Context} (hc : f.context? id = some c)
    (halone : c.ancestors = []) (files : FileTree) (name : String) :
    f.load files id name
      = match c.cached? name with
        | some h => (.loaded h, f)
        | none =>
          if isBinaryName name then f.scanContext files c name
          else (.failed (.classNotFound name 0), f) := by
  have hown : f.cached? id name = c.cached? name := by
    unfold cached?
    rw [hc, Option.bind_some]
  have hnone : f.inherited? id name = none := by
    rw [inherited?, ancestors_of_context? hc, halone, List.findSome?_nil]
  unfold load
  rw [hown]
  cases c.cached? name with
  | some h => rfl
  | none => simp only [hnone, hc]

/-- The contexts of `g` that are shown are isolated, and `f` has them under other ids. -/
structure Renumbered (ρ : Nat → Nat) (shown : Nat → Prop) (f g : Forest) : Prop where
  linked_eq : f.linked = g.linked
  context : ∀ i, shown i → ∃ c, g.context? i = some c ∧ c.ancestors = []
    ∧ f.context? (ρ i) = some (c.renumber ρ)

namespace Renumbered

variable {ρ : Nat → Nat} {shown : Nat → Prop} {f g : Forest}

theorem store (h : Renumbered ρ shown f g) (hρ : Function.Injective ρ) (i : Nat) (name : String)
    (own : LoadedClass) :
    Renumbered ρ shown (f.store (ρ i) name (own.renumber ρ)) (g.store i name own) := by
  refine ⟨h.linked_eq, fun j hj => ?_⟩
  obtain ⟨c, hc, halone, hother⟩ := h.context j hj
  have hid : ∀ own (c : Context), (c.store name own).id = c.id := fun _ _ => rfl
  by_cases hij : j = i
  · subst hij
    refine ⟨c.store name own, ?_, halone, ?_⟩
    · rw [Forest.store, context?_modify_self g j _ (hid own), hc, Option.map_some]
    · rw [Forest.store, context?_modify_self f (ρ j) _ (hid _), hother, Option.map_some,
        Context.renumber_store]
  · refine ⟨c, ?_, halone, ?_⟩
    · rw [Forest.store, context?_modify_of_ne g _ (hid own) hij, hc]
    · rw [Forest.store, context?_modify_of_ne f _ (hid _) (hρ.ne hij), hother]

theorem scanContext (h : Renumbered ρ shown f g) (hρ : Function.Injective ρ) (files : FileTree)
    (c : Context) (name : String) :
    (f.scanContext files (c.renumber ρ) name).1 = ((g.scanContext files c name).1).renumber ρ
      ∧ Renumbered ρ shown (f.scanContext files (c.renumber ρ) name).2
          (g.scanContext files c name).2 := by
  unfold Forest.scanContext
  cases hscan : scan files c.policy name c.sources with
  | mk scanEnd asked =>
    have hscan' : scan files (c.renumber ρ).policy name (c.renumber ρ).sources
        = (scanEnd, asked) := hscan
    simp only [hscan']
    cases scanEnd with
    | failed error => exact ⟨rfl, h.linked_eq, h.context⟩
    | crashed reason => exact ⟨rfl, h.linked_eq, h.context⟩
    | linked origin header bytes =>
      have hcounted : Renumbered ρ shown
          { f with
            linked := f.linked + 1
            consultations := (f.record (ρ c.id) (entryName name) c.policy.maxEntryBytes
              asked).consultations }
          { g with
            linked := g.linked + 1
            consultations := (g.record c.id (entryName name) c.policy.maxEntryBytes
              asked).consultations } := ⟨congrArg (· + 1) h.linked_eq, h.context⟩
      have hown : (f.newClass (ρ c.id) origin header bytes).1
          = ((g.newClass c.id origin header bytes).1).renumber ρ := by
        simp only [newClass, LoadedClass.renumber, h.linked_eq]
      refine ⟨congrArg LoadResult.loaded hown, ?_⟩
      have hstored := hcounted.store hρ c.id name (g.newClass c.id origin header bytes).1
      rw [← hown] at hstored
      exact hstored

/-- A load in a context that is shown ends alike and leaves the contexts alike. -/
theorem load (h : Renumbered ρ shown f g) (hρ : Function.Injective ρ) {i : Nat} (hi : shown i)
    (files : FileTree) (name : String) :
    (f.load files (ρ i) name).1 = ((g.load files i name).1).renumber ρ
      ∧ Renumbered ρ shown (f.load files (ρ i) name).2 (g.load files i name).2 := by
  obtain ⟨c, hc, halone, hother⟩ := h.context i hi
  have halone' : (c.renumber ρ).ancestors = [] := List.map_eq_nil_iff.mpr halone
  rw [load_of_isolated hc halone, load_of_isolated hother halone', Context.cached?_renumber]
  cases c.cached? name with
  | some own => exact ⟨rfl, h⟩
  | none =>
    simp only [Option.map_none]
    by_cases hname : isBinaryName name = true
    · simp only [if_pos hname]
      exact h.scanContext hρ files c name
    · simp only [if_neg hname]
      exact ⟨rfl, h⟩

theorem cached? (h : Renumbered ρ shown f g) {i : Nat} (hi : shown i) (name : String) :
    f.cached? (ρ i) name = (g.cached? i name).map (·.renumber ρ) := by
  obtain ⟨c, hc, -, hother⟩ := h.context i hi
  unfold Forest.cached?
  rw [hc, hother, Option.bind_some, Option.bind_some, Context.cached?_renumber]

end Renumbered

end Forest

end DriverClasses.Loading

namespace DriverClasses.Registry

open DriverClasses.Loading

def Blueprint.renumber (ρ : Nat → Nat) (b : Blueprint) : Blueprint :=
  { b with loadedClass := b.loadedClass.renumber ρ }

def Driver.renumber (ρ : Nat → Nat) (d : Driver) : Driver :=
  { d with loadedClass := d.loadedClass.renumber ρ }

def RegistryError.renumber (ρ : Nat → Nat) : RegistryError → RegistryError
  | alreadyRegistered name id => alreadyRegistered name (ρ id)
  | noSuitableDriver url => noSuitableDriver url
  | noFactory name => noFactory name
  | instantiation name reason => instantiation name reason

def Manager.renumber (ρ : Nat → Nat) (m : Manager) : Manager :=
  { drivers := m.drivers.map (·.renumber ρ) }

theorem Manager.forClass?_renumber (ρ : Nat → Nat) (m : Manager) (h : LoadedClass) :
    (m.renumber ρ).forClass? (h.renumber ρ) = (m.forClass? h).map (·.renumber ρ) := by
  unfold forClass? renumber
  rw [List.find?_map]
  rfl

def renumberMade (ρ : Nat → Nat) : Except RegistryError Blueprint → Except RegistryError Blueprint
  | .ok blueprint => .ok (blueprint.renumber ρ)
  | .error fault => .error (fault.renumber ρ)

/-- The factory treats the id of a context as a name: it passes it on, and does nothing else
with it. -/
def Factory.Uniform (make : Factory) : Prop :=
  ∀ ρ, Function.Injective ρ → ∀ loaded, make (loaded.renumber ρ) = renumberMade ρ (make loaded)

theorem Factory.uniform_ofStart (start : String) : Factory.Uniform (.ofStart start) :=
  fun _ _ _ => rfl

theorem Factory.uniform_requiring (interface start : String) :
    Factory.Uniform (.requiring interface start) := by
  intro ρ _ loaded
  unfold Factory.requiring
  have hheader : (loaded.renumber ρ).header = loaded.header := rfl
  rw [hheader]
  split <;> rfl

namespace Factories

def Uniform (factories : Factories) : Prop := ∀ e ∈ factories.entries, Factory.Uniform e.2

theorem Uniform.register {factories : Factories} (h : factories.Uniform) (name : String)
    {make : Factory} (hmake : make.Uniform) : (factories.register name make).Uniform := by
  intro e he
  rcases List.mem_cons.mp he with rfl | he
  · exact hmake
  · exact h e (List.mem_filter.mp he).1

theorem uniform_known : Uniform .known := by
  unfold known
  refine List.foldlRecOn _ _ (fun e he => absurd he List.not_mem_nil) fun factories h driver _ => ?_
  exact h.register driver.1 (Factory.uniform_ofStart driver.2)

theorem Uniform.instantiate {factories : Factories} (h : factories.Uniform) {ρ : Nat → Nat}
    (hρ : Function.Injective ρ) (loaded : LoadedClass) :
    factories.instantiate (loaded.renumber ρ) = renumberMade ρ (factories.instantiate loaded) := by
  unfold Factories.instantiate resolve
  rw [LoadedClass.name_renumber]
  cases hfind : factories.find? loaded.name with
  | none => rfl
  | some make =>
    obtain ⟨before, after, hsplit, -⟩ := List.lookup_eq_some_iff.mp hfind
    have hmem : (loaded.name, make) ∈ factories.entries := by
      rw [hsplit]
      exact List.mem_append_right _ List.mem_cons_self
    exact h _ hmem ρ hρ loaded

end Factories

end DriverClasses.Registry

namespace DriverClasses.Setup

def HostError.renumber (ρ : Nat → Nat) : HostError → HostError
  | missingOption key => missingOption key
  | load driverClass paths error => load driverClass paths error
  | registry error => registry (error.renumber ρ)

def Binding.renumber (ρ : Nat → Nat) (b : Binding) : Binding :=
  { contextId := ρ b.contextId
    loadedClass := b.loadedClass.renumber ρ
    driver := b.driver.renumber ρ
    reused := b.reused }

def Outcome.renumber (ρ : Nat → Nat) : Outcome → Outcome
  | bound b => bound (b.renumber ρ)
  | failed error => failed (error.renumber ρ)
  | crashed reason => crashed reason

end DriverClasses.Setup
