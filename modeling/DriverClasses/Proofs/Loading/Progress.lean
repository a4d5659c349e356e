import Mathlib.Algebra.GroupWithZero.Nat
import DriverClasses.Proofs.Loading.Joins

/-!
# All calls return

A call that waits is ready to go on once something was announced of its load, and every other call
that has not returned is ready at any time.  While calls are left, one of them is ready: if all
that are left wait, the leaders of their loads do not (`exists_ready`).  A step of a call that is
ready lowers the rank of the machine, and no step raises it, so when each call gets its turn again
and again, all have returned in the end (`returned_of_rounds`).
-/

namespace DriverClasses.Loading

open DriverClasses.ClassFile DriverClasses.Text DriverClasses.Files

/-- How many sources a context has. -/
def Forest.sourceCount (f : Forest) (id : Nat) : Nat :=
  ((f.context? id).map (·.sources.length)).getD 0

namespace Stage

/-- A bound on the steps that a call has before it, when its context has `n` sources. -/
def rank (n : Nat) : Stage → Nat
  | .checkCache => n + 8
  | .checkAncestors => n + 7
  | .enter => n + 6
  | .snapshot _ => n + 5
  | .scanning _ _ _ rest => rest.length + 4
  | .storing _ _ => 3
  | .leaving _ _ => 2
  | .announcing _ _ | .waiting _ => 1
  | .returned _ => 0

/-- A step of the call leads further. -/
def Ready (s : Shared) : Stage → Prop
  | .returned _ => False
  | .waiting ticket => (s.announcement? ticket).isSome
  | _ => True

theorem Ready.mono {s s' : Shared} {stage : Stage}
    (h : ∀ k a, s.announcement? k = some a → s'.announcement? k = some a)
    (hready : stage.Ready s) : stage.Ready s' := by
  cases stage with
  | waiting ticket =>
    obtain ⟨a, ha⟩ := Option.isSome_iff_exists.mp hready
    exact Option.isSome_of_eq_some (h ticket a ha)
  | returned result => exact hready
  | _ => trivial

theorem ready_of_holds? {s : Shared} {stage : Stage} {k : Nat} (h : stage.holds? = some k) :
    stage.Ready s := by
  cases stage <;> simp_all [holds?, Ready]

end Stage

theorem rank_enterStep_lt (id : Nat) (name : String) (s : Shared) (n : Nat) :
    (enterStep id name s).1.rank n < Stage.enter.rank n := by
  unfold enterStep
  cases s.forest.cached? id name with
  | some h => simp [Stage.rank]
  | none =>
    cases s.pending? id name with
    | some ticket => simp [Stage.rank]
    | none => simp [Stage.rank]

theorem rank_scanStep_lt (files : FileTree) (id : Nat) (name : String) (ticket asked : Nat)
    (failure : Option LoadError) (s : Shared) (rest : List ClassSource) (n : Nat) :
    (scanStep files id name ticket asked failure s rest).1.rank n
      < (Stage.scanning ticket asked failure rest).rank n := by
  cases rest with
  | nil => simp [scanStep, Stage.rank]
  | cons source rest =>
    unfold scanStep
    cases s.forest.context? id with
    | none => simp only [Stage.rank]; omega
    | some c =>
      cases hverdict : verdict files c.policy name source <;>
        simp only [hverdict, Stage.rank, List.length_cons] <;> omega

theorem rank_stepCall_lt (files : FileTree) (id : Nat) (name : String) {s : Shared} {stage : Stage}
    (hready : stage.Ready s) :
    (stepCall files id name s stage).1.rank (s.forest.sourceCount id)
      < stage.rank (s.forest.sourceCount id) := by
  cases stage with
  | checkCache =>
    unfold stepCall
    cases s.forest.cached? id name <;> simp [Stage.rank]
  | checkAncestors =>
    unfold stepCall
    cases s.forest.inherited? id name with
    | some h => simp [Stage.rank]
    | none => by_cases hname : isBinaryName name = true <;> simp [hname, Stage.rank]
  | enter => exact rank_enterStep_lt id name s _
  | waiting ticket =>
    obtain ⟨a, ha⟩ := Option.isSome_iff_exists.mp hready
    simp [stepCall, ha, Stage.rank]
  | snapshot ticket =>
    simp only [stepCall, Stage.rank, Forest.sourceCount]
    cases s.forest.context? id <;> simp
  | scanning ticket asked failure rest =>
    exact rank_scanStep_lt files id name ticket asked failure s rest _
  | storing ticket h => simp [stepCall, Stage.rank]
  | leaving ticket result => simp [stepCall, Stage.rank]
  | announcing ticket result => simp [stepCall, Stage.rank]
  | returned result => exact hready.elim

theorem stepCall_of_not_ready (files : FileTree) (id : Nat) (name : String) {s : Shared}
    {stage : Stage} (hready : ¬ stage.Ready s) : stepCall files id name s stage = (stage, s) := by
  cases stage with
  | waiting ticket =>
    have hnone : s.announcement? ticket = none := by simpa [Stage.Ready] using hready
    simp [stepCall, hnone]
  | returned result => rfl
  | _ => exact absurd trivial hready

theorem Took.sourceCount_eq {id : Nat} {name : String} {s s' : Shared} {before after : Stage}
    (h : Took id name s before after s') (i : Nat) :
    s'.forest.sourceCount i = s.forest.sourceCount i := by
  cases h with
  | stored =>
    unfold Forest.sourceCount Forest.store
    rw [Forest.context?_modify _ _ _ _ fun c => Forest.id_store c name _]
    cases s.forest.context? i with
    | none => rfl
    | some c => by_cases hc : c.id = id <;> simp [hc, Context.store]
  | _ => rfl

theorem sum_map_set {α : Type} (g : α → Nat) : ∀ {l : List α} {i : Nat} {a : α} (b : α),
    l[i]? = some a → ((l.set i b).map g).sum + g a = (l.map g).sum + g b
  | [], _, _, _, h => by simp at h
  | x :: l, 0, a, b, h => by
    rw [List.getElem?_cons_zero, Option.some.injEq] at h
    simp only [h, List.set_cons_zero, List.map_cons, List.sum_cons]
    omega
  | x :: l, i + 1, a, b, h => by
    rw [List.getElem?_cons_succ] at h
    have ih := sum_map_set g b h
    simp only [List.set_cons_succ, List.map_cons, List.sum_cons]
    omega

namespace Machine

/-- A bound on the steps that the calls have before them. -/
def rank (m : Machine) : Nat :=
  (m.calls.map fun call => call.stage.rank (m.shared.forest.sourceCount call.contextId)).sum

/-- The call of this number can go on. -/
def Ready (m : Machine) (i : Nat) : Prop :=
  ∃ id name stage, m.At i id name stage ∧ stage.Ready m.shared

def Returned (m : Machine) : Prop := ∀ call ∈ m.calls, call.result?.isSome

variable {m : Machine} {i : Nat}

theorem rank_advance {id : Nat} {name : String} {before after : Stage} {s : Shared}
    (hat : m.At i id name before) (htook : Took id name m.shared before after s) :
    (m.advance i id name after s).rank + before.rank (m.shared.forest.sourceCount id)
      = m.rank + after.rank (m.shared.forest.sourceCount id) := by
  unfold rank advance
  simp only [htook.sourceCount_eq]
  exact sum_map_set (fun call => call.stage.rank (m.shared.forest.sourceCount call.contextId)) _ hat

theorem rank_step_lt (hready : m.Ready i) (files : FileTree) :
    (m.step files (.step i)).rank < m.rank := by
  obtain ⟨id, name, stage, hat, hstage⟩ := hready
  have hlt := rank_stepCall_lt files id name hstage
  have hsum := rank_advance hat (took_stepCall files id name m.shared stage)
  rw [step_eq_advance hat]
  omega

/-- A call that cannot go on changes nothing. -/
theorem step_of_not_ready (hready : ¬ m.Ready i) (files : FileTree) :
    m.step files (.step i) = m := by
  cases hcall : m.calls[i]? with
  | none => simp only [step, hcall]
  | some call =>
    obtain ⟨id, name, stage⟩ := call
    have hat : m.At i id name stage := hcall
    have hstage : ¬ stage.Ready m.shared := fun h => hready ⟨id, name, stage, hat, h⟩
    rw [step_eq_advance hat, stepCall_of_not_ready files id name hstage]
    unfold advance
    obtain ⟨hlt, hget⟩ := List.getElem?_eq_some_iff.mp hcall
    rw [← hget, List.set_getElem_self]

theorem rank_step_le (m : Machine) (files : FileTree) (i : Nat) :
    (m.step files (.step i)).rank ≤ m.rank := by
  by_cases hready : m.Ready i
  · exact Nat.le_of_lt (rank_step_lt hready files)
  · exact Nat.le_of_eq (by rw [step_of_not_ready hready])

theorem rank_run_le (files : FileTree) : ∀ (schedule : List Nat) (m : Machine),
    (m.run files (schedule.map .step)).rank ≤ m.rank
  | [], _ => Nat.le_refl _
  | i :: schedule, m =>
    Nat.le_trans (rank_run_le files schedule (m.step files (.step i))) (rank_step_le m files i)

theorem returned_iff_rank_eq_zero : m.Returned ↔ m.rank = 0 := by
  have hcall : ∀ (call : Call) (n : Nat), call.result?.isSome ↔ call.stage.rank n = 0 := by
    intro call n
    obtain ⟨id, name, stage⟩ := call
    cases stage <;> simp [Call.result?, Stage.rank]
  unfold Returned rank
  rw [List.sum_eq_zero_iff_forall_eq_nat]
  simp only [List.forall_mem_map]
  exact forall₂_congr fun call _ => hcall call _

variable {m₀ : Machine} {f : Forest} {targets : List (Nat × String)} {log : List Turn}

/-- The leader of a load that nothing was announced of can go on. -/
theorem exists_ready (hrun : (start f targets).Runs log m) (hleft : ¬ m.Returned) :
    ∃ i, m.Ready i := by
  obtain ⟨htickets, hjoins⟩ := hrun.tickets
  obtain ⟨call, hcall⟩ := not_forall.mp hleft
  obtain ⟨hmem, hresult⟩ := Classical.not_imp.mp hcall
  obtain ⟨i, hi⟩ := List.mem_iff_getElem?.mp hmem
  obtain ⟨id, name, stage⟩ := call
  have hat : m.At i id name stage := hi
  by_cases hready : stage.Ready m.shared
  · exact ⟨i, id, name, stage, hat, hready⟩
  · cases stage with
    | returned result => simp [Call.result?] at hresult
    | waiting k =>
      -- Nothing was announced of the load, so its leader holds it still.
      have hnone : m.shared.announcement? k = none := by simpa [Stage.Ready] using hready
      obtain ⟨⟨leader, hled⟩, -⟩ := hjoins.of_joined (hjoins.of_waiting hat)
      obtain ⟨stage, hleader, hk | ⟨result, -, ha⟩⟩ := htickets.of_led hled
      · exact ⟨leader, id, name, stage, hleader, Stage.ready_of_holds? hk⟩
      · rw [hnone] at ha
        exact absurd ha (by simp)
    | _ => exact absurd trivial hready

theorem Runs.step (hrun : m₀.Runs log m) (files : FileTree) (i : Nat) :
    ∃ more, m₀.Runs (log ++ more) (m.step files (.step i)) := by
  cases hcall : m.calls[i]? with
  | none =>
    have hstep : m.step files (.step i) = m := by simp only [Machine.step, hcall]
    exact ⟨[], by rwa [hstep, List.append_nil]⟩
  | some call =>
    obtain ⟨id, name, stage⟩ := call
    exact ⟨_, hrun.turn files (show m.At i id name stage from hcall)⟩

theorem Runs.run (hrun : m₀.Runs log m) (files : FileTree) : ∀ (schedule : List Nat),
    ∃ more, m₀.Runs (log ++ more) (m.run files (schedule.map .step)) := by
  intro schedule
  induction schedule generalizing log m with
  | nil => exact ⟨[], by rwa [List.append_nil]⟩
  | cons i schedule ih =>
    obtain ⟨more, hstep⟩ := hrun.step files i
    obtain ⟨rest, hrest⟩ := ih hstep
    exact ⟨more ++ rest, by rwa [← List.append_assoc]⟩

/-- A call that can go on can do so until its next turn. -/
theorem Ready.step (hrun : (start f targets).Runs log m) (hready : m.Ready i) {j : Nat}
    (hne : i ≠ j) (files : FileTree) : (m.step files (.step j)).Ready i := by
  by_cases hj : m.Ready j
  · obtain ⟨id, name, stage, hat, hstage⟩ := hready
    obtain ⟨id', name', before, hbefore, -⟩ := hj
    have htook := took_stepCall files id' name' m.shared before
    rw [step_eq_advance hbefore]
    exact ⟨id, name, stage, at_advance_of_ne hbefore _ _ hne hat,
      hstage.mono fun k a ha => hrun.tickets.1.announcement?_turn hbefore htook ha⟩
  · rw [step_of_not_ready hj]
    exact hready

/-- A round in which a call that can go on gets its turn. -/
theorem rank_round_lt (files : FileTree) (hrun : (start f targets).Runs log m)
    (hready : m.Ready i) {round : List Nat} (hi : i ∈ round) :
    (m.run files (round.map .step)).rank < m.rank := by
  induction round generalizing log m with
  | nil => simp at hi
  | cons j round ih =>
    by_cases hij : i = j
    · subst hij
      exact Nat.lt_of_le_of_lt (rank_run_le files round _) (rank_step_lt hready files)
    · -- The turn of another call leaves this one ready, and the rank no higher.
      obtain ⟨more, hstep⟩ := hrun.step files j
      have hrest : i ∈ round := (List.mem_cons.mp hi).resolve_left hij
      have hlt := ih hstep (hready.step hrun hij files) hrest
      exact Nat.lt_of_lt_of_le hlt (rank_step_le m files j)

theorem lt_length_of_ready (hready : m.Ready i) : i < m.calls.length := by
  obtain ⟨_, _, _, hat, -⟩ := hready
  exact (List.getElem?_eq_some_iff.mp hat).1

theorem length_step (m : Machine) (files : FileTree) (i : Nat) :
    (m.step files (.step i)).calls.length = m.calls.length := by
  cases hcall : m.calls[i]? with
  | none => simp only [step, hcall]
  | some call => simp [step, hcall]

theorem length_run (files : FileTree) : ∀ (schedule : List Nat) (m : Machine),
    (m.run files (schedule.map .step)).calls.length = m.calls.length
  | [], _ => rfl
  | i :: schedule, m =>
    (length_run files schedule (m.step files (.step i))).trans (length_step m files i)

theorem run_append (m : Machine) (files : FileTree) (schedule more : List Nat) :
    m.run files ((schedule ++ more).map .step)
      = (m.run files (schedule.map .step)).run files (more.map .step) := by
  unfold run
  rw [List.map_append, List.foldl_append]

/-- When every call gets a turn in each of enough rounds, all calls return. -/
theorem returned_of_rounds (files : FileTree) (hrun : (start f targets).Runs log m)
    {rounds : List (List Nat)} (hfair : ∀ round ∈ rounds, ∀ i < m.calls.length, i ∈ round)
    (hlength : m.rank ≤ rounds.length) : (m.run files (rounds.flatten.map .step)).Returned := by
  induction rounds generalizing log m with
  | nil =>
    rw [returned_iff_rank_eq_zero]
    exact Nat.le_zero.mp hlength
  | cons round rounds ih =>
    rw [List.flatten_cons, run_append]
    obtain ⟨more, hround⟩ := hrun.run files round
    refine ih hround (fun other hother i hi => ?_) ?_
    · rw [length_run] at hi
      exact hfair other (List.mem_cons_of_mem _ hother) i hi
    · by_cases hleft : m.Returned
      · have hle := rank_run_le files round m
        rw [returned_iff_rank_eq_zero.mp hleft] at hle
        exact Nat.le_trans hle (Nat.zero_le _)
      · obtain ⟨i, hready⟩ := exists_ready hrun hleft
        have hlt := rank_round_lt files hrun hready
          (hfair round List.mem_cons_self i (lt_length_of_ready hready))
        rw [List.length_cons] at hlength
        omega

end Machine

end DriverClasses.Loading
