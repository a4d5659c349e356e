import DriverClasses.Proofs.Loading.Held
import DriverClasses.Proofs.Loading.Identity

/-!
# Calls in isolated contexts

Calls run at once, and contexts are opened while they do.  `Gathered` is so of them throughout: in
the contexts that are listed, all of them isolated, a call returns what the cache has, and no two
caches have a class of one number, nor has one a class that some leader is about to put into
another.  A turn keeps this (`Gathered.turn`), and so does a new context (`Gathered.opened`).
-/

namespace DriverClasses.Loading

open DriverClasses.ClassFile DriverClasses.Text DriverClasses.Files

/-! ### What a step does to the forest -/

namespace Forest

theorem Extends.asked (f : Forest) (count : Nat) (more : List Consultation) :
    f.Extends { f with
      linked := f.linked + count
      consultations := f.consultations ++ more } :=
  ⟨fun {_ c} hc => ⟨c, hc, .refl c⟩, Nat.le_add_right _ _, List.prefix_append _ _⟩

theorem cached?_of_store {f : Forest} {id i : Nat} {name other : String} {h own : LoadedClass}
    (hown : (f.store id name h).cached? i other = some own) :
    f.cached? i other = some own ∨ i = id ∧ other = name ∧ own = h := by
  by_cases hi : i = id
  · subst hi
    by_cases hother : other = name
    · subst hother
      cases hcached : f.cached? i other with
      | some old =>
        rw [(Extends.store f i other h).cached? hcached] at hown
        exact .inl hown
      | none =>
        have hsome : (f.context? i).isSome := by
          rw [← isSome_context?_store f i other h i]
          obtain ⟨c, hc, -⟩ := Option.bind_eq_some_iff.mp hown
          exact Option.isSome_of_eq_some hc
        rw [cached?_store_self f h hsome hcached, Option.some.injEq] at hown
        exact .inr ⟨rfl, rfl, hown.symm⟩
    · rw [cached?_store_of_name_ne f i i h hother] at hown
      exact .inl hown
  · rw [cached?_store_of_ne f name other h hi] at hown
    exact .inl hown

theorem extends_scanStep (files : FileTree) (id : Nat) (name : String) (ticket asked : Nat)
    (failure : Option LoadError) (s : Shared) (rest : List ClassSource) :
    s.forest.Extends (scanStep files id name ticket asked failure s rest).2.forest := by
  cases rest with
  | nil => exact .refl _
  | cons source rest =>
    unfold scanStep
    cases s.forest.context? id with
    | none => exact .refl _
    | some c =>
      cases hverdict : verdict files c.policy name source with
      | linked header bytes => simp only [hverdict]; exact .asked s.forest 1 _
      | _ => simp only [hverdict]; exact .asked s.forest 0 _

theorem extends_stepCall (files : FileTree) (id : Nat) (name : String) (s : Shared)
    (stage : Stage) : s.forest.Extends (stepCall files id name s stage).2.forest := by
  cases stage with
  | checkCache =>
    simp only [stepCall]
    split <;> exact .refl _
  | checkAncestors =>
    simp only [stepCall]
    split
    · exact .refl _
    · split <;> exact .refl _
  | enter =>
    simp only [stepCall, enterStep]
    split
    · exact .refl _
    · split <;> exact .refl _
  | waiting ticket =>
    simp only [stepCall]
    split <;> exact .refl _
  | scanning ticket asked failure rest => exact extends_scanStep _ _ _ _ _ _ _ _
  | storing ticket h => exact .store _ _ _ _
  | snapshot | leaving | announcing | returned => exact .refl _

end Forest

/-- The class that a call has linked gets the next number. -/
theorem serial_of_storing {files : FileTree} {id : Nat} {name : String} {s : Shared}
    {ticket asked ticket' : Nat} {failure : Option LoadError} {rest : List ClassSource}
    {h : LoadedClass}
    (hstep : (stepCall files id name s (.scanning ticket asked failure rest)).1
      = .storing ticket' h) : h.serial = s.forest.linked := by
  cases rest with
  | nil => cases hstep
  | cons source rest =>
    simp only [stepCall, scanStep] at hstep
    cases hc : s.forest.context? id with
    | none => simp [hc] at hstep
    | some c =>
      cases hverdict : verdict files c.policy name source with
      | linked header bytes =>
        simp only [hc, hverdict, Stage.storing.injEq] at hstep
        rw [← hstep.2]
        rfl
      | _ => simp [hc, hverdict] at hstep

/-- A turn changes no context, or it puts a class into a cache; and it may link a class. -/
theorem Took.forest_cases {id : Nat} {name : String} {s s' : Shared} {before after : Stage}
    (h : Took id name s before after s') :
    (s'.forest.contexts = s.forest.contexts ∧ s.forest.linked ≤ s'.forest.linked
        ∧ ∀ k own, after = .storing k own → before = after)
      ∨ (s'.forest.contexts = s.forest.contexts ∧ s'.forest.linked = s.forest.linked + 1
        ∧ ∃ k asked failure rest own, before = .scanning k asked failure rest
          ∧ after = .storing k own)
      ∨ ∃ k own, before = .storing k own ∧ after = .leaving k (.loaded own)
        ∧ s'.forest = s.forest.store id name own := by
  cases h with
  | linked => exact .inr (.inl ⟨rfl, rfl, _, _, _, _, _, rfl, rfl⟩)
  | stored => exact .inr (.inr ⟨_, _, rfl, rfl, rfl⟩)
  | still => exact .inl ⟨rfl, Nat.le_refl _, fun _ _ _ => rfl⟩
  | moved _ hafter =>
    refine .inl ⟨rfl, Nat.le_refl _, ?_⟩
    rintro k own rfl
    simp [Stage.starts] at hafter
  | _ => exact .inl ⟨rfl, Nat.le_refl _, fun _ _ hafter => by simp at hafter⟩

theorem Forest.WellFormed.took {id : Nat} {name : String} {s s' : Shared} {before after : Stage}
    (hs : s.forest.WellFormed) (h : Took id name s before after s') : s'.forest.WellFormed := by
  have hsame : s'.forest.contexts = s.forest.contexts → s'.forest.WellFormed := by
    intro hcontexts
    have hcontext : ∀ i, s'.forest.context? i = s.forest.context? i := by
      intro i
      unfold Forest.context?
      rw [hcontexts]
    have hancestors : ∀ i, s'.forest.ancestors i = s.forest.ancestors i := by
      intro i
      unfold Forest.ancestors
      rw [hcontext]
    refine ⟨by rw [hcontexts]; exact hs.ids, fun {i p above} hi => ?_⟩
    rw [hancestors] at hi ⊢
    rw [hcontext]
    exact hs.chain hi
  rcases h.forest_cases with ⟨hcontexts, -⟩ | ⟨hcontexts, -⟩ | ⟨k, own, -, -, hforest⟩
  · exact hsame hcontexts
  · exact hsame hcontexts
  · rw [hforest]
    exact hs.store id name own

/-! ### The classes that are about -/

/-- The class is in the cache of the context under the name, or a call is about to put it there. -/
def Machine.Carries (m : Machine) (id : Nat) (name : String) (h : LoadedClass) : Prop :=
  m.shared.forest.cached? id name = some h ∨ ∃ i k, m.At i id name (.storing k h)

/-- No two classes that are about have one number. -/
structure Numbered (m : Machine) : Prop where
  serial_lt : ∀ {id name h}, m.Carries id name h → h.serial < m.shared.forest.linked
  eq_of_serial : ∀ {id name h id' name' h'}, m.Carries id name h → m.Carries id' name' h' →
    h.serial = h'.serial → id = id' ∧ name = name' ∧ h = h'

namespace Numbered

variable {m : Machine} {i id : Nat} {name : String} {before after : Stage} {s : Shared}

/-- If all classes that are about were about before, their numbers are fine. -/
theorem of_carries {m' : Machine} (h : Numbered m)
    (hlinked : m.shared.forest.linked ≤ m'.shared.forest.linked)
    (hold : ∀ {a other own}, m'.Carries a other own → m.Carries a other own) : Numbered m' :=
  ⟨fun hown => Nat.lt_of_lt_of_le (h.serial_lt (hold hown)) hlinked,
    fun hown hother => h.eq_of_serial (hold hown) (hold hother)⟩

theorem turn (h : Numbered m) (hat : m.At i id name before)
    (htook : Took id name m.shared before after s)
    (hserial : ∀ k asked failure rest k' own, before = .scanning k asked failure rest →
      after = .storing k' own → own.serial = m.shared.forest.linked) :
    Numbered (m.advance i id name after s) := by
  have hcached : s.forest.contexts = m.shared.forest.contexts → ∀ a other,
      s.forest.cached? a other = m.shared.forest.cached? a other := by
    intro hcontexts a other
    unfold Forest.cached? Forest.context?
    rw [hcontexts]
  rcases htook.forest_cases with ⟨hcontexts, hlinked, hstoring⟩ |
    ⟨hcontexts, hlinked, k, asked, failure, rest, new, hbefore, rfl⟩ |
    ⟨k, own, rfl, rfl, hforest⟩
  · refine h.of_carries hlinked ?_
    rintro a other own (hown | ⟨j, k, hj⟩)
    · exact .inl ((hcached hcontexts a other).symm.trans hown)
    · rcases (Machine.at_advance hat _ _).mp hj with ⟨rfl, rfl, rfl, hafter⟩ | ⟨-, hj⟩
      · rw [hstoring k own hafter.symm, ← hafter] at hat
        exact .inr ⟨j, k, hat⟩
      · exact .inr ⟨j, k, hj⟩
  · -- The class that is new has the number that none had so far.
    have hnew : new.serial = m.shared.forest.linked := hserial _ _ _ _ _ _ hbefore rfl
    have hold : ∀ {a other own}, (m.advance i id name (.storing k new) s).Carries a other own →
        m.Carries a other own ∨ a = id ∧ other = name ∧ own = new := by
      rintro a other own (hown | ⟨j, k', hj⟩)
      · exact .inl (.inl ((hcached hcontexts a other).symm.trans hown))
      · rcases (Machine.at_advance hat _ _).mp hj with ⟨-, rfl, rfl, hafter⟩ | ⟨-, hj⟩
        · rw [Stage.storing.injEq] at hafter
          exact .inr ⟨rfl, rfl, hafter.2⟩
        · exact .inl (.inr ⟨j, k', hj⟩)
    have hlinked' : (m.advance i id name (.storing k new) s).shared.forest.linked
        = m.shared.forest.linked + 1 := hlinked
    refine ⟨fun hown => ?_, fun hown hother heq => ?_⟩
    · rw [hlinked']
      rcases hold hown with hown | ⟨-, -, rfl⟩
      · exact Nat.lt_succ_of_lt (h.serial_lt hown)
      · rw [hnew]
        exact Nat.lt_succ_self _
    · rcases hold hown with hown' | ⟨rfl, rfl, rfl⟩ <;>
        rcases hold hother with hother' | ⟨rfl, rfl, rfl⟩
      · exact h.eq_of_serial hown' hother' heq
      · have hlt := h.serial_lt hown'
        omega
      · have hlt := h.serial_lt hother'
        omega
      · exact ⟨rfl, rfl, rfl⟩
  · have hlinked : s.forest.linked = m.shared.forest.linked := by
      rw [hforest]
      rfl
    refine h.of_carries (Nat.le_of_eq hlinked.symm) ?_
    rintro a other got (hgot | ⟨j, k', hj⟩)
    · change s.forest.cached? a other = some got at hgot
      rw [hforest] at hgot
      rcases Forest.cached?_of_store hgot with hold | ⟨rfl, rfl, rfl⟩
      · exact .inl hold
      · exact .inr ⟨i, k, hat⟩
    · rcases (Machine.at_advance hat _ _).mp hj with ⟨-, -, -, hafter⟩ | ⟨-, hj⟩
      · cases hafter
      · exact .inr ⟨j, k', hj⟩

end Numbered

theorem Forest.Sound.numbered {f : Forest} {ops : List Operation} (hf : f.Sound ops)
    (targets : List (Nat × String)) : Numbered (.start f targets) := by
  have hcarried : ∀ {id name h}, (Machine.start f targets).Carries id name h →
      (name, h) ∈ f.cacheOf id := by
    rintro id name h (hcached | ⟨i, k, hat⟩)
    · exact hf.cached?_eq_some_iff.mp hcached
    · cases Machine.stage_of_at_start hat
  refine ⟨fun hown => hf.serial_lt _ _ (hcarried hown), fun hown hother heq => ?_⟩
  obtain ⟨hid, hentry⟩ := hf.eq_of_serial _ _ _ (hcarried hown) _ (hcarried hother) heq
  rw [Prod.mk.injEq] at hentry
  exact ⟨hid, hentry⟩

/-! ### Contexts that are opened -/

namespace Machine

/-- There is one more context. -/
def withContext (m : Machine) (c : Context) : Machine :=
  { m with shared := { m.shared with
      forest := { m.shared.forest with contexts := m.shared.forest.contexts ++ [c] } } }

variable {m : Machine} {c : Context} {id : Nat}

theorem cached?_withContext (m : Machine) (hcache : c.cache = []) (id : Nat) (name : String) :
    (m.withContext c).shared.forest.cached? id name = m.shared.forest.cached? id name := by
  have hcontext := Forest.context?_append m.shared.forest c id
  unfold Forest.cached?
  change (Forest.context? { m.shared.forest with
    contexts := m.shared.forest.contexts ++ [c] } id).bind _ = _
  rw [hcontext]
  cases m.shared.forest.context? id with
  | some d => rfl
  | none =>
    by_cases hid : c.id = id
    · simp [hid, Context.cached?, hcache]
    · simp [hid]

theorem line_withContext (c : Context) (hid : (m.shared.forest.context? id).isSome) :
    (m.withContext c).shared.forest.line id = m.shared.forest.line id := by
  have hcontext := Forest.context?_append_of_isSome c hid
  unfold Forest.line Forest.ancestors
  exact congrArg (fun found => id :: (found.map (·.ancestors)).getD []) hcontext

end Machine

/-- What is so of calls in the contexts that are listed, throughout. -/
structure Gathered (listed : Nat → Prop) (log : List Turn) (m : Machine) : Prop where
  wellFormed : m.shared.forest.WellFormed
  tickets : Tickets log m
  joins : Joins log m
  numbered : Numbered m
  held : ∀ id, listed id → Held m.shared.forest id m
  alone : ∀ id, listed id → m.shared.forest.ancestors id = []

namespace Gathered

variable {listed : Nat → Prop} {log : List Turn} {m : Machine} {i id : Nat} {name : String}
  {stage : Stage}

theorem start {f : Forest} {ops : List Operation} (hf : f.Sound ops)
    (hlisted : ∀ id, listed id → ∃ c, f.context? id = some c ∧ c.ancestors = [])
    (targets : List (Nat × String)) : Gathered listed [] (.start f targets) where
  wellFormed := hf.wellFormed
  tickets := .start f targets
  joins := .start f targets
  numbered := hf.numbered targets
  held id hid := by
    obtain ⟨c, hc, -⟩ := hlisted id hid
    exact .start hc targets
  alone id hid := by
    obtain ⟨c, hc, halone⟩ := hlisted id hid
    exact (Forest.ancestors_of_context? hc).trans halone

theorem mono (h : Gathered listed log m) {listed' : Nat → Prop}
    (hfewer : ∀ id, listed' id → listed id) : Gathered listed' log m :=
  { h with
    held := fun id hid => h.held id (hfewer id hid)
    alone := fun id hid => h.alone id (hfewer id hid) }

theorem turn (h : Gathered listed log m) (hat : m.At i id name stage) (files : FileTree) :
    Gathered listed
      (log ++ [⟨i, id, name, stage, (stepCall files id name m.shared stage).1⟩])
      (m.advance i id name (stepCall files id name m.shared stage).1
        (stepCall files id name m.shared stage).2) := by
  have htook := took_stepCall files id name m.shared stage
  have hgrown := Forest.extends_stepCall files id name m.shared stage
  refine ⟨h.wellFormed.took htook, h.tickets.turn hat htook, h.joins.turn h.tickets hat htook,
    h.numbered.turn hat htook ?_, fun j hj => ?_, fun j hj => ?_⟩
  · rintro k asked failure rest k' own rfl hafter
    exact serial_of_storing hafter
  · have hheld := (h.held j hj).turn h.tickets h.joins hat htook
    exact ⟨hheld.context, rfl, hheld.uncached, hheld.onLine⟩
  · exact (hgrown.ancestors_eq (h.held j hj).context).trans (h.alone j hj)

/-- A new context that no call has got to yet. -/
theorem opened (h : Gathered listed log m) {c : Context} (hid : c.id = m.shared.forest.nextId)
    (halone : c.ancestors = []) (hcache : c.cache = [])
    (hidle : ∀ {i name stage}, m.At i c.id name stage → stage = .checkCache) :
    Gathered (fun id => listed id ∨ id = c.id) log (m.withContext c) := by
  have hcached := m.cached?_withContext hcache
  have hparent : m.shared.forest.admits none := rfl
  have hthere : (m.withContext c).shared.forest.context? c.id = some c := by
    refine (Forest.context?_append m.shared.forest c c.id).trans ?_
    rw [hid, h.wellFormed.context?_nextId, ← hid, Option.none_or, if_pos rfl]
  refine ⟨h.wellFormed.created hparent hid halone, ?_, ⟨h.joins.of_waiting, h.joins.of_joined⟩, ?_,
    fun j hj => ?_, fun j hj => ?_⟩
  · exact ⟨h.tickets.pending_iff, h.tickets.eq_of_holds, h.tickets.of_holds, h.tickets.of_led,
      h.tickets.countP_leads, h.tickets.countP_completes⟩
  · exact h.numbered.of_carries (Nat.le_refl _) fun hown =>
      hown.imp_left (hcached _ _).symm.trans
  · rcases hj with hj | rfl
    · have hheld := h.held j hj
      refine ⟨?_, rfl, fun hat hk => (hcached j _).trans (hheld.uncached hat hk),
        fun hat hown => ?_⟩
      · exact (congrArg Option.isSome (Forest.context?_append_of_isSome c hheld.context)).trans
          hheld.context
      · exact (hheld.onLine hat hown).mono (Machine.line_withContext c hheld.context)
          fun a hold => (hcached a _).trans hold
    · refine ⟨Option.isSome_of_eq_some hthere, rfl, fun hat hk => ?_, fun hat hown => ?_⟩
      · cases hidle hat
        cases hk
      · cases hidle hat
        cases hown
  · rcases hj with hj | rfl
    · have hline := Machine.line_withContext c (h.held j hj).context
      rw [Forest.line, Forest.line, List.cons.injEq] at hline
      exact hline.2.trans (h.alone j hj)
    · exact (Forest.ancestors_of_context? hthere).trans halone

theorem cached?_of_returned (h : Gathered listed log m) (hid : listed id) {own : LoadedClass}
    (hat : m.At i id name (.returned (.loaded own))) :
    m.shared.forest.cached? id name = some own := by
  obtain ⟨a, ha, hcached⟩ := (h.held id hid).onLine hat rfl
  rw [Forest.line, h.alone id hid, List.mem_singleton] at ha
  rw [← ha, hcached]

end Gathered

end DriverClasses.Loading
