import DriverClasses.Proofs.Loading.Tickets

/-!
# Waiting for a load, and leading one

`Joins` is about the calls that wait: each waits for a load of its own class, and returns with what
was announced of that load.  `Pursuits` is about those that lead: each is in the course of its scan,
or goes by what the scan has come to.  Both hold throughout a run, with `Tickets`.
-/

namespace DriverClasses.Loading

/-- A call that has joined a load waits for it still, or has returned what was announced of it. -/
def Told (s : Shared) (k : Nat) (stage : Stage) : Prop :=
  stage = .waiting k
    ∨ ∃ a, s.announcement? k = some a ∧ stage = .returned (.ofAnnouncement a)

structure Joins (log : List Turn) (m : Machine) : Prop where
  of_waiting : ∀ {i id : Nat} {name : String} {k : Nat},
    m.At i id name (.waiting k) → ⟨i, id, name, .enter, .waiting k⟩ ∈ log
  of_joined : ∀ {i id : Nat} {name : String} {k : Nat},
    ⟨i, id, name, .enter, .waiting k⟩ ∈ log →
      (∃ j, ⟨j, id, name, .enter, .snapshot k⟩ ∈ log)
        ∧ ∃ stage, m.At i id name stage ∧ Told m.shared k stage

namespace Joins

variable {log : List Turn} {m : Machine} {i id : Nat} {name : String} {before after : Stage}

theorem start (f : Forest) (targets : List (Nat × String)) : Joins [] (.start f targets) where
  of_waiting hat := by simpa using Machine.stage_of_at_start hat
  of_joined h := by simp at h

theorem turn (h : Joins log m) (ht : Tickets log m) (hat : m.At i id name before) {s : Shared}
    (htook : Took id name m.shared before after s) :
    Joins (log ++ [⟨i, id, name, before, after⟩]) (m.advance i id name after s) := by
  refine ⟨fun {j id' name' k} hafter => ?_, fun {j id' name' k} hjoined => ?_⟩
  · rcases (Machine.at_advance hat _ _).mp hafter with ⟨rfl, rfl, rfl, rfl⟩ | ⟨-, hj⟩
    · rcases htook.to_waiting with rfl | ⟨rfl, -⟩
      · exact List.mem_append_left _ (h.of_waiting hat)
      · exact List.mem_append_right _ (List.mem_singleton.mpr rfl)
    · exact List.mem_append_left _ (h.of_waiting hj)
  · rw [List.mem_append, List.mem_singleton, Turn.mk.injEq] at hjoined
    rcases hjoined with hold | ⟨rfl, rfl, rfl, rfl, rfl⟩
    · obtain ⟨⟨leader, hled⟩, stage, hj, hstage⟩ := h.of_joined hold
      refine ⟨⟨leader, List.mem_append_left _ hled⟩, ?_⟩
      refine Machine.exists_at_advance hat s (p := Told s k) ?_ ⟨stage, hj, ?_⟩
      · rintro - (rfl | ⟨a, ha, rfl⟩)
        · rcases htook.of_waiting with rfl | ⟨a, ha, rfl⟩
          · exact .inl rfl
          · exact .inr ⟨a, ht.announcement?_turn hat htook ha, rfl⟩
        · exact .inr ⟨a, ha, htook.of_returned⟩
      · exact hstage.imp_right fun ⟨a, ha, hreturned⟩ =>
          ⟨a, ht.announcement?_turn hat htook ha, hreturned⟩
    · rcases htook.to_waiting with hbefore | ⟨-, hpending⟩
      · simp at hbefore
      · obtain ⟨leader, stage, hleader, hk⟩ := (ht.pending_iff _ _ _).mp hpending
        obtain ⟨hled, -⟩ := ht.of_holds hleader (Stage.holds?_of_leads? hk)
        exact ⟨⟨leader, List.mem_append_left _ hled⟩, _, Machine.at_advance_self hat _ _, .inl rfl⟩

theorem supply (h : Joins log m) (id : Nat) (source : ClassSource) :
    Joins log (m.supply id source) :=
  ⟨h.of_waiting, h.of_joined⟩

end Joins

/-- The scan for this load has come to this result with the turn. -/
inductive Turn.Concludes : Turn → Nat → LoadResult → Prop
  | failed {i id asked k : Nat} {name : String} {failure : Option LoadError}
      {rest : List ClassSource} {result : LoadResult} :
      Concludes ⟨i, id, name, .scanning k asked failure rest, .leaving k result⟩ k result
  | linked {i id asked k : Nat} {name : String} {failure : Option LoadError}
      {rest : List ClassSource} {h : LoadedClass} :
      Concludes ⟨i, id, name, .scanning k asked failure rest, .storing k h⟩ k (.loaded h)

/-- A call that leads a load scans for it still, or goes by what its scan has come to. -/
inductive Pursued (log : List Turn) (i k : Nat) : Stage → Prop
  | snapshot : Pursued log i k (.snapshot k)
  | scanning {asked : Nat} {failure : Option LoadError} {rest : List ClassSource} :
      Pursued log i k (.scanning k asked failure rest)
  | ended {stage : Stage} {result : LoadResult} {t : Turn} :
      stage.ended? = some result → t ∈ log → t.call = i → t.Concludes k result →
      Pursued log i k stage

theorem Pursued.mono {log : List Turn} {i k : Nat} {stage : Stage} (h : Pursued log i k stage)
    (t : Turn) : Pursued (log ++ [t]) i k stage := by
  cases h with
  | snapshot => exact .snapshot
  | scanning => exact .scanning
  | ended hended hmem hcall hconcludes =>
    exact .ended hended (List.mem_append_left _ hmem) hcall hconcludes

/-- Each call that has become a leader pursues its load. -/
def Pursuits (log : List Turn) (m : Machine) : Prop :=
  ∀ i id name k, ⟨i, id, name, .enter, .snapshot k⟩ ∈ log →
    ∃ stage, m.At i id name stage ∧ Pursued log i k stage

namespace Pursuits

variable {log : List Turn} {m : Machine} {i id : Nat} {name : String} {before after : Stage}

theorem turn (h : Pursuits log m) (hat : m.At i id name before) {s : Shared}
    (htook : Took id name m.shared before after s) :
    Pursuits (log ++ [⟨i, id, name, before, after⟩]) (m.advance i id name after s) := by
  intro j id' name' k hled
  have hlast : (⟨i, id, name, before, after⟩ : Turn) ∈ log ++ [⟨i, id, name, before, after⟩] :=
    List.mem_append_right _ (List.mem_singleton.mpr rfl)
  rw [List.mem_append, List.mem_singleton, Turn.mk.injEq] at hled
  rcases hled with hold | ⟨rfl, rfl, rfl, rfl, rfl⟩
  · obtain ⟨stage, hj, hstage⟩ := h j id' name' k hold
    refine Machine.exists_at_advance hat s ?_ ⟨stage, hj, hstage.mono _⟩
    rintro rfl hbefore
    cases hbefore with
    | snapshot =>
      cases htook with
      | still => exact .snapshot
      | begun => exact .scanning
      | moved hstarts => simp [Stage.starts] at hstarts
      | answered hstarts => simp [Stage.starts] at hstarts
    | scanning =>
      cases htook with
      | still => exact .scanning
      | asked => exact .scanning
      | linked => exact .ended rfl hlast rfl .linked
      | failed => exact .ended rfl hlast rfl .failed
      | moved hstarts => simp [Stage.starts] at hstarts
      | answered hstarts => simp [Stage.starts] at hstarts
    | ended hended hmem hcall hconcludes =>
      exact .ended (htook.ended?_eq hended) hmem hcall hconcludes
  · exact ⟨_, Machine.at_advance_self hat _ _, .snapshot⟩

end Pursuits

theorem Machine.Runs.tickets {f : Forest} {targets : List (Nat × String)} {log : List Turn}
    {m : Machine} (hrun : (Machine.start f targets).Runs log m) :
    Tickets log m ∧ Joins log m :=
  hrun.invariant (P := fun log m => Tickets log m ∧ Joins log m)
    ⟨.start f targets, .start f targets⟩
    (fun h hat htook => ⟨h.1.turn hat htook, h.2.turn h.1 hat htook⟩)
    fun h => ⟨h.1.supply _ _, h.2.supply _ _⟩

theorem Machine.Runs.pursuits {m₀ m : Machine} {log : List Turn} (hrun : m₀.Runs log m) :
    Pursuits log m :=
  hrun.invariant (P := Pursuits) (fun _ _ _ _ h => by simp at h)
    (fun h hat htook => h.turn hat htook) fun h => h

end DriverClasses.Loading
