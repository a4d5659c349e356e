import Mathlib.Data.List.Nodup
import DriverClasses.Proofs.Loading.Run

/-!
# The shape of a forest

Ids count from one, and the ancestors of a context are its parent and the parent's ancestors
(`WellFormed`).  No operation breaks this, so every forest that is reached from the empty one is
well formed (`wellFormed_after`).
-/

namespace DriverClasses.Loading

open DriverClasses.ClassFile DriverClasses.Text DriverClasses.Files

namespace Forest

structure WellFormed (f : Forest) : Prop where
  ids : f.contexts.map (·.id) = List.range' 1 f.contexts.length
  chain : ∀ {id p : Nat} {above : List Nat},
    f.ancestors id = p :: above → (f.context? p).isSome ∧ f.ancestors p = above

theorem WellFormed.nodup_ids {f : Forest} (hf : f.WellFormed) :
    (f.contexts.map (·.id)).Nodup := by
  rw [hf.ids]
  exact List.nodup_range'

theorem WellFormed.context?_of_mem {f : Forest} (hf : f.WellFormed) {c : Context}
    (hc : c ∈ f.contexts) : f.context? c.id = some c := by
  cases hfind : f.context? c.id with
  | none =>
    unfold context? at hfind
    simpa using List.find?_eq_none.mp hfind c hc
  | some d =>
    have hd : d ∈ f.contexts := List.mem_of_find?_eq_some hfind
    rw [List.inj_on_of_nodup_map hf.nodup_ids hd hc (id_of_context? hfind)]

theorem mem_of_context? {f : Forest} {id : Nat} {c : Context} (hc : f.context? id = some c) :
    c ∈ f.contexts :=
  List.mem_of_find?_eq_some hc

theorem WellFormed.lt_nextId {f : Forest} (hf : f.WellFormed) {id : Nat} {c : Context}
    (hc : f.context? id = some c) : id < f.nextId := by
  have hmem : id ∈ f.contexts.map (·.id) :=
    List.mem_map.mpr ⟨c, mem_of_context? hc, id_of_context? hc⟩
  rw [hf.ids, List.mem_range'_1] at hmem
  unfold nextId
  omega

theorem WellFormed.context?_nextId {f : Forest} (hf : f.WellFormed) :
    f.context? f.nextId = none := by
  rw [Option.eq_none_iff_forall_not_mem]
  intro c hc
  exact absurd (hf.lt_nextId hc) (Nat.lt_irrefl _)

theorem context?_append (f : Forest) (c : Context) (i : Nat) :
    ({ f with contexts := f.contexts ++ [c] } : Forest).context? i
      = (f.context? i).or (if c.id = i then some c else none) := by
  unfold context?
  rw [List.find?_append, List.find?_singleton]
  simp only [beq_iff_eq]

theorem context?_append_of_isSome {f : Forest} (c : Context) {i : Nat}
    (hi : (f.context? i).isSome) :
    ({ f with contexts := f.contexts ++ [c] } : Forest).context? i = f.context? i := by
  obtain ⟨d, hd⟩ := Option.isSome_iff_exists.mp hi
  rw [context?_append, hd, Option.some_or]

theorem context?_gain (f : Forest) (c : Context) (name : String) (asked : Nat)
    (h : LoadedClass) (i : Nat) :
    (f.gain c name asked h).context? i = (f.store c.id name h).context? i := rfl

theorem isSome_context?_store (f : Forest) (id : Nat) (name : String) (h : LoadedClass)
    (i : Nat) : ((f.store id name h).context? i).isSome = (f.context? i).isSome := by
  unfold store
  rw [context?_modify f id i _ fun c => id_store c name h, Option.isSome_map]

theorem isSome_context?_addSource (f : Forest) (id : Nat) (source : ClassSource) (i : Nat) :
    ((f.addSource id source).context? i).isSome = (f.context? i).isSome := by
  unfold addSource
  rw [context?_modify f id i _ fun c => id_addSource c source, Option.isSome_map]

theorem ancestors_of_context? {f : Forest} {id : Nat} {c : Context}
    (hc : f.context? id = some c) : f.ancestors id = c.ancestors := by
  unfold ancestors
  rw [hc]
  rfl

theorem ancestors_of_context?_none {f : Forest} {id : Nat} (hc : f.context? id = none) :
    f.ancestors id = [] := by
  unfold ancestors
  rw [hc]
  rfl

theorem create_eq_map (f : Forest) (parent : Option Nat) (policy : LinkPolicy)
    (raws : List String) :
    f.create parent policy raws = (raws.mapM sourceOf).map fun sources =>
      (f.nextId, { f with contexts := f.contexts ++ [{
        id := f.nextId, ancestors := (parent.map fun p => p :: f.ancestors p).getD []
        policy, sources, cache := [] }] }) := by
  unfold create
  cases raws.mapM sourceOf with
  | error error => rfl
  | ok sources => cases parent <;> rfl

/-- There is always room for an isolated context. -/
theorem perform_create_none {f g : Forest} {policy : LinkPolicy} {raws : List String} {id : Nat}
    (h : f.create none policy raws = .ok (id, g)) :
    f.perform (.create none policy raws) = (.created id, g) := by
  simp [perform, admits, h]

/-- A context that is made is nobody's ancestor yet, and its own ancestors are there. -/
theorem WellFormed.created {f : Forest} (hf : f.WellFormed) {parent : Option Nat}
    (hparent : f.admits parent) {c : Context} (hid : c.id = f.nextId)
    (hancestors : c.ancestors = (parent.map fun p => p :: f.ancestors p).getD []) :
    ({ f with contexts := f.contexts ++ [c] } : Forest).WellFormed := by
  have hkeep : ∀ i, (f.context? i).isSome →
      ({ f with contexts := f.contexts ++ [c] } : Forest).ancestors i = f.ancestors i := by
    intro i hi
    unfold ancestors
    rw [context?_append_of_isSome c hi]
  have hthere : ∀ i, (f.context? i).isSome →
      (({ f with contexts := f.contexts ++ [c] } : Forest).context? i).isSome := by
    intro i hi
    rw [context?_append_of_isSome c hi]
    exact hi
  refine ⟨?_, ?_⟩
  · rw [List.map_append, hf.ids, List.length_append, List.map_singleton, hid,
      List.length_singleton, List.range'_1_concat, nextId, Nat.add_comm]
  · intro id p above hid'
    -- The contexts of old keep their ancestors, and the new one has those of its parent.
    by_cases hsome : (f.context? id).isSome
    · rw [hkeep id hsome] at hid'
      obtain ⟨hp, habove⟩ := hf.chain hid'
      exact ⟨hthere p hp, (hkeep p hp).trans habove⟩
    · rw [Option.not_isSome_iff_eq_none] at hsome
      unfold ancestors at hid'
      rw [context?_append, hsome, Option.none_or] at hid'
      split at hid'
      · simp only [Option.map_some, Option.getD_some, hancestors] at hid'
        cases parent with
        | none => simp at hid'
        | some q =>
          simp only [Option.map_some, Option.getD_some, List.cons.injEq] at hid'
          obtain ⟨rfl, rfl⟩ := hid'
          have hq : (f.context? q).isSome := by simpa [admits] using hparent
          exact ⟨hthere q hq, hkeep q hq⟩
      · simp at hid'

theorem WellFormed.store {f : Forest} (hf : f.WellFormed) (id : Nat) (name : String)
    (h : LoadedClass) : (f.store id name h).WellFormed := by
  refine ⟨?_, ?_⟩
  · unfold Forest.store modify
    simp only [List.map_map, List.length_map, ← hf.ids]
    refine List.map_congr_left fun d _ => ?_
    by_cases hd : d.id = id <;> simp [hd]
  · intro i p above hi
    rw [ancestors_store] at hi ⊢
    rw [isSome_context?_store]
    exact hf.chain hi

theorem WellFormed.change {f g : Forest} {op : Operation} (hf : f.WellFormed)
    (h : Change f op g) : g.WellFormed := by
  cases h with
  | asked op consultations => exact ⟨hf.ids, hf.chain⟩
  | created hadmits hsources => exact hf.created hadmits rfl rfl
  | sourced op id source =>
    refine ⟨?_, ?_⟩
    · unfold addSource modify
      simp only [List.map_map, List.length_map, ← hf.ids]
      refine List.map_congr_left fun c _ => ?_
      by_cases hc : c.id = id <;> simp [hc]
    · intro i p above hi
      rw [ancestors_addSource] at hi ⊢
      rw [isSome_context?_addSource]
      exact hf.chain hi
  | @linked _ _ name c _ s header bytes =>
    have hstored := hf.store c.id name (f.handle c s header bytes)
    exact ⟨hstored.ids, hstored.chain⟩

theorem wellFormed_empty : ({} : Forest).WellFormed :=
  ⟨rfl, fun h => by simp [ancestors, context?] at h⟩

theorem WellFormed.after {f : Forest} (hf : f.WellFormed) (ops : List Operation) :
    (f.after ops).WellFormed :=
  after_induction (fun f op hf => hf.change (change_perform f op)) hf ops

theorem wellFormed_after (ops : List Operation) : (({} : Forest).after ops).WellFormed :=
  wellFormed_empty.after ops

end Forest

end DriverClasses.Loading
