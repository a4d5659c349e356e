import DriverClasses.Proofs.Loading.Joins
import DriverClasses.Proofs.Loading.Line

/-!
# Whose class a call returns

However calls overlap, what one returns is in the cache of its own context or of an ancestor, and
a leader that has put nothing into the cache of its context yet finds nothing there under the name
(`held_of_runs`).
-/

namespace DriverClasses.Loading

open DriverClasses.ClassFile DriverClasses.Text DriverClasses.Files

namespace Forest

/-- What the cache of some context of the line of `id` has under a name. -/
def OnLine (f : Forest) (id : Nat) (name : String) (h : LoadedClass) : Prop :=
  ∃ a ∈ f.line id, f.cached? a name = some h

theorem OnLine.self {f : Forest} {id : Nat} {name : String} {h : LoadedClass}
    (hc : f.cached? id name = some h) : f.OnLine id name h :=
  ⟨id, List.mem_cons_self, hc⟩

theorem OnLine.of_inherited? {f : Forest} {id : Nat} {name : String} {h : LoadedClass}
    (hc : f.inherited? id name = some h) : f.OnLine id name h := by
  obtain ⟨a, ha, hcached⟩ := List.exists_of_findSome?_eq_some hc
  exact ⟨a, List.mem_cons_of_mem _ ha, hcached⟩

/-- A forest in which no cache has lost anything and the line is the same. -/
theorem OnLine.mono {f g : Forest} {id : Nat} {name : String} {h : LoadedClass}
    (hline : g.line id = f.line id)
    (hgrown : ∀ a, f.cached? a name = some h → g.cached? a name = some h)
    (hf : f.OnLine id name h) : g.OnLine id name h := by
  obtain ⟨a, ha, hcached⟩ := hf
  exact ⟨a, hline ▸ ha, hgrown a hcached⟩

theorem line_store (f : Forest) (id i : Nat) (name : String) (h : LoadedClass) :
    (f.store id name h).line i = f.line i := by
  unfold line
  rw [ancestors_store]

theorem line_addSource (f : Forest) (id i : Nat) (source : ClassSource) :
    (f.addSource id source).line i = f.line i := by
  unfold line
  rw [ancestors_addSource]

end Forest

/-- What is so of the calls in a context `id` at every point of a run from `f`. -/
structure Held (f : Forest) (id : Nat) (m : Machine) : Prop where
  context : (m.shared.forest.context? id).isSome
  line_eq : m.shared.forest.line id = f.line id
  uncached : ∀ {i : Nat} {name : String} {stage : Stage} {k : Nat},
    m.At i id name stage → stage.seeks? = some k → m.shared.forest.cached? id name = none
  onLine : ∀ {i : Nat} {name : String} {stage : Stage} {h : LoadedClass},
    m.At i id name stage → stage.outcome? = some (.loaded h) → m.shared.forest.OnLine id name h

namespace Held

variable {f : Forest} {id : Nat} {log : List Turn} {m : Machine} {i id' : Nat} {name : String}
  {before after : Stage}

theorem start {c : Context} (hc : f.context? id = some c) (targets : List (Nat × String)) :
    Held f id (.start f targets) where
  context := Option.isSome_of_eq_some hc
  line_eq := rfl
  uncached hat hk := by
    rw [Machine.stage_of_at_start hat] at hk
    simp [Stage.seeks?] at hk
  onLine hat hk := by
    rw [Machine.stage_of_at_start hat] at hk
    simp [Stage.outcome?] at hk

/-- A turn that puts nothing into the cache of the context, and that takes nothing from any. -/
theorem turn_alike (h : Held f id m) (hat : m.At i id' name before) {s : Shared}
    (hcontext : (s.forest.context? id).isSome)
    (hline : s.forest.line id = m.shared.forest.line id)
    (hgrown : ∀ a other own, m.shared.forest.cached? a other = some own →
      s.forest.cached? a other = some own)
    (hsame : ∀ other, s.forest.cached? id other = m.shared.forest.cached? id other)
    (huncached : ∀ k, id' = id → after.seeks? = some k →
      m.shared.forest.cached? id name = none)
    (honLine : ∀ own, id' = id → after.outcome? = some (.loaded own) →
      m.shared.forest.OnLine id name own) :
    Held f id (m.advance i id' name after s) := by
  refine ⟨hcontext, hline.trans h.line_eq, fun {j other stage k} hafter hk => ?_,
    fun {j other stage own} hafter hown => ?_⟩
  · refine (hsame other).trans ?_
    rcases (Machine.at_advance hat _ _).mp hafter with ⟨rfl, rfl, rfl, rfl⟩ | ⟨-, hj⟩
    · exact huncached k rfl hk
    · exact h.uncached hj hk
  · refine Forest.OnLine.mono hline (fun a => hgrown a other own) ?_
    rcases (Machine.at_advance hat _ _).mp hafter with ⟨rfl, rfl, rfl, rfl⟩ | ⟨-, hj⟩
    · exact honLine own rfl hown
    · exact h.onLine hj hown

/-- A turn that changes no context. -/
theorem turn_contexts (h : Held f id m) (hat : m.At i id' name before) {s : Shared}
    (hcontexts : s.forest.contexts = m.shared.forest.contexts)
    (huncached : ∀ k, id' = id → after.seeks? = some k →
      m.shared.forest.cached? id name = none)
    (honLine : ∀ own, id' = id → after.outcome? = some (.loaded own) →
      m.shared.forest.OnLine id name own) :
    Held f id (m.advance i id' name after s) := by
  have hcontext : ∀ a, s.forest.context? a = m.shared.forest.context? a := by
    intro a
    unfold Forest.context?
    rw [hcontexts]
  have hcached : ∀ a other, s.forest.cached? a other = m.shared.forest.cached? a other := by
    intro a other
    unfold Forest.cached?
    rw [hcontext]
  have hline : s.forest.line id = m.shared.forest.line id := by
    unfold Forest.line Forest.ancestors
    rw [hcontext]
  refine h.turn_alike hat ?_ hline (fun a other own hown => ?_) (hcached id) huncached honLine
  · rw [hcontext]
    exact h.context
  · rw [hcached]
    exact hown

/-- A turn of one who was looking for the class, and goes on to. -/
theorem turn_sought (h : Held f id m) (hat : m.At i id' name before) {s : Shared}
    (hcontexts : s.forest.contexts = m.shared.forest.contexts) {k k' : Nat}
    (hbefore : before.seeks? = some k) (hafter : after.seeks? = some k') :
    Held f id (m.advance i id' name after s) := by
  refine h.turn_contexts hat hcontexts ?_ fun own _ hown => ?_
  · rintro _ rfl -
    exact h.uncached hat hbefore
  · cases after <;> simp_all [Stage.outcome?, Stage.seeks?]

theorem turn_stored {k : Nat} {own : LoadedClass} (h : Held f id m) (ht : Tickets log m)
    (hat : m.At i id name (.storing k own)) :
    Held f id (m.advance i id name (.leaving k (.loaded own))
      { m.shared with forest := m.shared.forest.store id name own }) := by
  have hnone := h.uncached hat rfl
  have hself := Forest.cached?_store_self _ own h.context hnone
  have hline := Forest.line_store m.shared.forest id id name own
  refine ⟨?_, hline.trans h.line_eq, fun {j other stage k'} hafter hk => ?_,
    fun {j other stage got} hafter hgot => ?_⟩
  · change ((m.shared.forest.store id name own).context? id).isSome
    rw [Forest.isSome_context?_store]
    exact h.context
  · rcases (Machine.at_advance hat _ _).mp hafter with ⟨rfl, -, -, rfl⟩ | ⟨hne, hj⟩
    · simp [Stage.seeks?] at hk
    · refine (Forest.cached?_store_of_name_ne _ _ _ own ?_).trans (h.uncached hj hk)
      rintro rfl
      -- The other call would be a second leader for the class.
      have hleads := Option.isSome_of_eq_some (Stage.leads?_of_seeks? hk)
      exact hne (ht.eq_of_leads hj hat hleads rfl)
  · rcases (Machine.at_advance hat _ _).mp hafter with ⟨rfl, -, rfl, rfl⟩ | ⟨-, hj⟩
    · simp only [Stage.outcome?, Option.some.injEq, LoadResult.loaded.injEq] at hgot
      exact .self (hgot ▸ hself)
    · exact .mono hline (fun a => (Forest.Extends.store _ _ _ _).cached?) (h.onLine hj hgot)

/-- One who has waited returns what its leader has, and the leader is in the same context. -/
theorem onLine_of_told (h : Held f id m) (ht : Tickets log m) (hj : Joins log m) {k : Nat}
    (hat : m.At i id name (.waiting k)) {own : LoadedClass}
    (ha : m.shared.announcement? k = some (.ok own)) : m.shared.forest.OnLine id name own := by
  obtain ⟨⟨leader, hled⟩, -⟩ := hj.of_joined (hj.of_waiting hat)
  obtain ⟨result, hleader, hresult⟩ := ht.of_announcement? hled ha
  cases result with
  | loaded other =>
    cases hresult
    exact h.onLine hleader rfl
  | failed error => simp [LoadResult.announcement] at hresult
  | crashed reason => simp [LoadResult.announcement] at hresult

theorem turn (h : Held f id m) (ht : Tickets log m) (hj : Joins log m)
    (hat : m.At i id' name before) {s : Shared} (htook : Took id' name m.shared before after s) :
    Held f id (m.advance i id' name after s) := by
  cases htook with
  | still stage =>
    refine h.turn_contexts hat rfl ?_ ?_
    · rintro k rfl hk
      exact h.uncached hat hk
    · rintro own rfl hown
      exact h.onLine hat hown
  | moved _ hafter =>
    refine h.turn_contexts hat rfl ?_ ?_
    · simp [Stage.seeks?_of_starts hafter]
    · cases after <;> simp_all [Stage.outcome?, Stage.starts]
  | answered _ hresult =>
    refine h.turn_contexts hat rfl (by simp [Stage.seeks?]) ?_
    rintro own rfl hown
    simp only [Stage.outcome?, Option.some.injEq] at hown
    rcases hresult own hown with hcached | habove
    · exact .self hcached
    · exact .of_inherited? habove
  | joined => exact h.turn_contexts hat rfl (by simp [Stage.seeks?]) (by simp [Stage.outcome?])
  | led hnone =>
    refine h.turn_contexts hat rfl ?_ (by simp [Stage.outcome?])
    rintro k rfl -
    exact hnone
  | @told k a ha =>
    refine h.turn_contexts hat rfl (by simp [Stage.seeks?]) ?_
    rintro own rfl hown
    cases a with
    | ok other =>
      simp only [Stage.outcome?, LoadResult.ofAnnouncement, Option.some.injEq,
        LoadResult.loaded.injEq] at hown
      exact hown ▸ h.onLine_of_told ht hj hat ha
    | error error => simp [Stage.outcome?, LoadResult.ofAnnouncement] at hown
  | begun => exact h.turn_sought hat rfl rfl rfl
  | asked => exact h.turn_sought hat rfl rfl rfl
  | linked => exact h.turn_sought hat rfl rfl rfl
  | failed _ hresult =>
    refine h.turn_contexts hat rfl (by simp [Stage.seeks?]) ?_
    rintro own rfl hown
    simp only [Stage.outcome?, Option.some.injEq] at hown
    exact absurd hown (hresult own)
  | @stored k own =>
    by_cases hid : id' = id
    · subst hid
      exact h.turn_stored ht hat
    · refine h.turn_alike hat ?_ (Forest.line_store _ _ _ _ _)
        (fun a other own' => (Forest.Extends.store _ _ _ _).cached?)
        (fun other => Forest.cached?_store_of_ne _ _ _ _ (Ne.symm hid))
        (fun _ heq => absurd heq hid) fun _ heq => absurd heq hid
      rw [Forest.isSome_context?_store]
      exact h.context
  | left =>
    refine h.turn_contexts hat rfl (by simp [Stage.seeks?]) ?_
    rintro own rfl hown
    exact h.onLine hat hown
  | announced =>
    refine h.turn_contexts hat rfl (by simp [Stage.seeks?]) ?_
    rintro own rfl hown
    exact h.onLine hat hown

theorem supply (h : Held f id m) (id' : Nat) (source : ClassSource) :
    Held f id (m.supply id' source) where
  context := by
    change ((m.shared.forest.addSource id' source).context? id).isSome
    rw [Forest.isSome_context?_addSource]
    exact h.context
  line_eq := (Forest.line_addSource _ _ _ _).trans h.line_eq
  uncached hat hk := (Forest.cached?_addSource _ _ _ _ _).trans (h.uncached hat hk)
  onLine hat hown := .mono (Forest.line_addSource _ _ _ _)
    (fun a => (Forest.Extends.addSource _ _ _).cached?) (h.onLine hat hown)

end Held

theorem held_of_runs {f : Forest} {id : Nat} {c : Context} (hc : f.context? id = some c)
    {targets : List (Nat × String)} {log : List Turn} {m : Machine}
    (hrun : (Machine.start f targets).Runs log m) : Held f id m := by
  have hall : (Tickets log m ∧ Joins log m) ∧ Held f id m :=
    hrun.invariant (P := fun log m => (Tickets log m ∧ Joins log m) ∧ Held f id m)
      ⟨⟨.start f targets, .start f targets⟩, .start hc targets⟩
      (fun ⟨⟨ht, hj⟩, hk⟩ hat htook =>
        ⟨⟨ht.turn hat htook, hj.turn ht hat htook⟩, hk.turn ht hj hat htook⟩)
      fun ⟨⟨ht, hj⟩, hk⟩ => ⟨⟨ht.supply _ _, hj.supply _ _⟩, hk.supply _ _⟩
  exact hall.2

end DriverClasses.Loading
