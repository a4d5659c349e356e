import DriverClasses.Loading.Load

/-!
# What the operations on a forest change

A forest is seen through `context?`.  A change of one context keeps the others, a new context comes
behind those that were there, and a class that is stored is the one that its context has under the
name from then on.
-/

namespace DriverClasses.Loading

namespace Forest

theorem context?_modify (f : Forest) (id i : Nat) (change : Context → Context)
    (hid : ∀ c, (change c).id = c.id) :
    (f.modify id change).context? i
      = (f.context? i).map fun c => if c.id = id then change c else c := by
  unfold modify context?
  rw [List.find?_map]
  congr 2
  funext c
  by_cases h : c.id = id <;> simp [h, hid]

theorem id_of_context? {f : Forest} {i : Nat} {c : Context} (h : f.context? i = some c) :
    c.id = i := by
  unfold context? at h
  simpa using List.find?_some h

theorem context?_modify_self (f : Forest) (id : Nat) (change : Context → Context)
    (hid : ∀ c, (change c).id = c.id) :
    (f.modify id change).context? id = (f.context? id).map change := by
  rw [context?_modify f id id change hid]
  cases h : f.context? id with
  | none => rfl
  | some c => simp [id_of_context? h]

theorem context?_modify_of_ne (f : Forest) {id i : Nat} (change : Context → Context)
    (hid : ∀ c, (change c).id = c.id) (hne : i ≠ id) :
    (f.modify id change).context? i = f.context? i := by
  rw [context?_modify f id i change hid]
  cases h : f.context? i with
  | none => rfl
  | some c =>
    have hc : c.id ≠ id := by rw [id_of_context? h]; exact hne
    simp [hc]

theorem length_contexts_modify (f : Forest) (id : Nat) (change : Context → Context) :
    (f.modify id change).contexts.length = f.contexts.length := by
  simp [modify]

@[simp] theorem id_addSource (c : Context) (source : ClassSource) :
    (c.addSource source).id = c.id := rfl

@[simp] theorem id_store (c : Context) (name : String) (loaded : LoadedClass) :
    (c.store name loaded).id = c.id := rfl

/-- One more source changes neither caches nor ancestors. -/
theorem cached?_addSource (f : Forest) (id i : Nat) (source : ClassSource) (name : String) :
    (f.addSource id source).cached? i name = f.cached? i name := by
  unfold cached? addSource
  rw [context?_modify f id i _ (fun c => id_addSource c source)]
  cases f.context? i with
  | none => rfl
  | some c => by_cases h : c.id = id <;> simp [h, Context.cached?, Context.addSource]

theorem ancestors_addSource (f : Forest) (id i : Nat) (source : ClassSource) :
    (f.addSource id source).ancestors i = f.ancestors i := by
  unfold ancestors addSource
  rw [context?_modify f id i _ (fun c => id_addSource c source)]
  cases f.context? i with
  | none => rfl
  | some c => by_cases h : c.id = id <;> simp [h, Context.addSource]

theorem ancestors_store (f : Forest) (id i : Nat) (name : String) (loaded : LoadedClass) :
    (f.store id name loaded).ancestors i = f.ancestors i := by
  unfold ancestors store
  rw [context?_modify f id i _ (fun c => id_store c name loaded)]
  cases f.context? i with
  | none => rfl
  | some c => by_cases h : c.id = id <;> simp [h, Context.store]

theorem cached?_store_of_ne (f : Forest) {id i : Nat} (name other : String)
    (loaded : LoadedClass) (hne : i ≠ id) :
    (f.store id name loaded).cached? i other = f.cached? i other := by
  unfold cached? store
  rw [context?_modify_of_ne f _ (fun c => id_store c name loaded) hne]

/-- A name that the context has no class for gets the class that is stored. -/
theorem cached?_store_self (f : Forest) {id : Nat} {name : String} (loaded : LoadedClass)
    (hc : (f.context? id).isSome) (hn : f.cached? id name = none) :
    (f.store id name loaded).cached? id name = some loaded := by
  unfold cached? store
  rw [context?_modify_self f id _ (fun c => id_store c name loaded)]
  obtain ⟨c, hc⟩ := Option.isSome_iff_exists.mp hc
  have hl : c.cache.lookup name = none := by simpa [cached?, hc, Context.cached?] using hn
  simp [hc, Context.cached?, Context.store, List.lookup_append, hl]

end Forest

end DriverClasses.Loading
