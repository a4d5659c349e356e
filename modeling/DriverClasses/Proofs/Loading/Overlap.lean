import DriverClasses.Proofs.Loading.Held
import DriverClasses.Proofs.Loading.Progress
import DriverClasses.Proofs.Loading.Stability

/-!
# Loads that overlap along a line

A call looks into the ancestors of its context once, before it takes the lock, and not again.  Two
calls in one context return one class as long as one context of the line has a class of the name
(`eq_or_holders_of_runs`).  Two of them may have one: a leader that is overtaken by a whole load in
the parent goes on to link a class of its own, while the next call in its context is handed that of
the parent (`outpaced_two_classes`).
-/

namespace DriverClasses.Loading

open DriverClasses.ClassFile DriverClasses.Text DriverClasses.Files

/-- Two calls for one class in one context that have both got it return one handle, or two contexts
of the line have a class of the name, and these are what the calls return. -/
theorem eq_or_holders_of_runs {f : Forest} {id : Nat} {c : Context} (hc : f.context? id = some c)
    {targets : List (Nat × String)} {log : List Turn} {m : Machine}
    (hrun : (Machine.start f targets).Runs log m) {i j : Nat} {name : String} {h k : LoadedClass}
    (hi : m.At i id name (.returned (.loaded h))) (hj : m.At j id name (.returned (.loaded k))) :
    h = k ∨ ∃ a ∈ f.line id, ∃ b ∈ f.line id, a ≠ b
      ∧ m.shared.forest.cached? a name = some h ∧ m.shared.forest.cached? b name = some k := by
  have hheld := held_of_runs hc hrun
  obtain ⟨a, ha, hah⟩ := hheld.onLine hi rfl
  obtain ⟨b, hb, hbk⟩ := hheld.onLine hj rfl
  rw [hheld.line_eq] at ha hb
  by_cases hab : a = b
  · left
    rw [hab, hbk, Option.some.injEq] at hah
    exact hah.symm
  · exact .inr ⟨a, ha, b, hb, hab, hah, hbk⟩

/-! ### A load that is overtaken -/

namespace Forest

def overlapRun : List Operation := generationsRun ++ [.addSource 2 cellar]

/-- The class that the second context links when the first one has linked its own. -/
def lateHandle : LoadedClass := { cellarHandle with serial := 1, contextId := 2 }

end Forest

open Forest

/-- Two calls for `A` in the second context, and one in its parent.  Both have a source for it. -/
def overlapStart : Machine :=
  .start (generations.addSource 2 cellar) [(2, "A"), (1, "A"), (2, "A")]

/-- The first call has become a leader when that in the parent runs from its beginning to its end;
then the other one in the context runs, and the first goes on. -/
def outpacedTurns : List Nat := [0, 0, 0] ++ List.replicate 8 1 ++ [2, 2] ++ List.replicate 6 0

def outpaced : Machine := overlapStart.run {} (outpacedTurns.map .step)

theorem outpaced_results :
    outpaced.calls.map (fun call => (call.contextId, call.name, call.result?))
      = [(2, "A", some (.loaded lateHandle)), (1, "A", some (.loaded cellarHandle)),
        (2, "A", some (.loaded cellarHandle))] := by
  decide +kernel

theorem Machine.at_of_result? {m : Machine} {i id : Nat} {name : String} {result : LoadResult}
    (h : (m.calls.map fun call => (call.contextId, call.name, call.result?))[i]?
      = some (id, name, some result)) : m.At i id name (.returned result) := by
  rw [List.getElem?_map, Option.map_eq_some_iff] at h
  obtain ⟨⟨id', name', stage⟩, hcall, hview⟩ := h
  rw [Prod.mk.injEq, Prod.mk.injEq] at hview
  obtain ⟨rfl, rfl, hresult⟩ := hview
  cases stage <;> simp_all [Call.result?, Machine.At]

theorem outpaced_at :
    outpaced.At 0 2 "A" (.returned (.loaded lateHandle))
      ∧ outpaced.At 2 2 "A" (.returned (.loaded cellarHandle)) := by
  constructor <;> refine Machine.at_of_result? ?_ <;> rw [outpaced_results] <;> rfl

theorem exists_runs_outpaced : ∃ log, overlapStart.Runs log outpaced := by
  have hstart : overlapStart.Runs [] overlapStart := .start
  obtain ⟨log, hrun⟩ := hstart.run {} outpacedTurns
  exact ⟨_, hrun⟩

theorem lateHandle_ne : lateHandle ≠ cellarHandle := fun heq =>
  absurd (congrArg LoadedClass.serial heq) (by decide)

/-- Calls for one class in one context need not get one handle. -/
theorem outpaced_two_classes :
    ¬ ∀ (ops : List Operation) (targets : List (Nat × String)) (log : List Turn) (m : Machine),
        (Machine.start (({} : Forest).after ops) targets).Runs log m →
        ∀ (i j id : Nat) (name : String) (h k : LoadedClass),
          m.At i id name (.returned (.loaded h)) → m.At j id name (.returned (.loaded k)) →
            h = k := by
  intro hall
  obtain ⟨log, hrun⟩ := exists_runs_outpaced
  obtain ⟨hfirst, hsecond⟩ := outpaced_at
  exact lateHandle_ne
    (hall overlapRun [(2, "A"), (1, "A"), (2, "A")] log outpaced hrun 0 2 2 "A" _ _ hfirst hsecond)

/-- The two handles are those of the context and of its parent. -/
theorem outpaced_holders :
    ∃ a ∈ [2, 1], ∃ b ∈ [2, 1], a ≠ b
      ∧ outpaced.shared.forest.cached? a "A" = some lateHandle
      ∧ outpaced.shared.forest.cached? b "A" = some cellarHandle := by
  obtain ⟨log, hrun⟩ := exists_runs_outpaced
  obtain ⟨hfirst, hsecond⟩ := outpaced_at
  have hcontext : (generations.addSource 2 cellar).context? 2
      = some { id := 2, ancestors := [1], policy := {}, sources := [cellar], cache := [] } := rfl
  exact (eq_or_holders_of_runs hcontext hrun hfirst hsecond).resolve_left lateHandle_ne

end DriverClasses.Loading
