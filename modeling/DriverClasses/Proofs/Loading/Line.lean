import DriverClasses.Proofs.Loading.Growth

/-!
# Lines of contexts

The *line* of a context is the context itself and then its ancestors.  The class that is resident
in a context is that of the first on its line with one, and all before that one on the line have
the same class resident (`WellFormed.resident?_of_mem`).  Looking along the line is the same as
going up from parent to parent (`WellFormed.inherited?_eq`).
-/

namespace DriverClasses.Loading

open DriverClasses.ClassFile DriverClasses.Text DriverClasses.Files

namespace Forest

def line (f : Forest) (id : Nat) : List Nat := id :: f.ancestors id

def parent? (f : Forest) (id : Nat) : Option Nat := (f.context? id).bind (·.parent?)

theorem parent?_eq_head? (f : Forest) (id : Nat) : f.parent? id = (f.ancestors id).head? := by
  unfold parent? ancestors
  cases f.context? id with
  | none => rfl
  | some c => rfl

theorem resident?_eq_findSome? (f : Forest) (id : Nat) (name : String) :
    f.resident? id name = (f.line id).findSome? fun i => f.cached? i name := by
  unfold resident? line inherited?
  rw [List.findSome?_cons]
  cases f.cached? id name with
  | none => rfl
  | some h => rfl

theorem resident?_eq_some_iff {f : Forest} {id : Nat} {name : String} {h : LoadedClass} :
    f.resident? id name = some h
      ↔ ∃ below owner above, f.line id = below ++ owner :: above
        ∧ f.cached? owner name = some h ∧ ∀ i ∈ below, f.cached? i name = none := by
  rw [resident?_eq_findSome?, List.findSome?_eq_some_iff]

theorem resident?_eq_none_iff {f : Forest} {id : Nat} {name : String} :
    f.resident? id name = none ↔ ∀ i ∈ f.line id, f.cached? i name = none := by
  rw [resident?_eq_findSome?, List.findSome?_eq_none_iff]

theorem resident?_of_cached? {f : Forest} {id : Nat} {name : String} {h : LoadedClass}
    (hc : f.cached? id name = some h) : f.resident? id name = some h := by
  unfold resident?
  rw [hc, Option.some_or]

theorem WellFormed.line_parent {f : Forest} (hf : f.WellFormed) {id p : Nat} {above : List Nat}
    (h : f.line id = id :: p :: above) : f.line p = p :: above := by
  unfold line at h ⊢
  rw [List.cons.injEq] at h
  rw [(hf.chain h.2).2]

/-- The line of a context on a line is the rest of that line. -/
theorem WellFormed.line_of_append {f : Forest} (hf : f.WellFormed) {x : Nat} {above : List Nat} :
    ∀ (below : List Nat) {id : Nat}, f.line id = below ++ x :: above → f.line x = x :: above
  | [], id, h => by
    have hx : id = x := by
      unfold line at h
      rw [List.nil_append, List.cons.injEq] at h
      exact h.1
    rw [← hx, h, hx, List.nil_append]
  | [y], id, h => by
    have hy : id = y := by
      unfold line at h
      rw [List.singleton_append, List.cons.injEq] at h
      exact h.1
    subst hy
    exact hf.line_parent h
  | y :: p :: below, id, h => by
    have hy : id = y := by
      unfold line at h
      rw [List.cons_append, List.cons.injEq] at h
      exact h.1
    subst hy
    exact hf.line_of_append (p :: below) (hf.line_parent h)

theorem WellFormed.not_mem_ancestors_self {f : Forest} (hf : f.WellFormed) (id : Nat) :
    id ∉ f.ancestors id := by
  intro h
  obtain ⟨below, above, hsplit⟩ := List.append_of_mem h
  have hline : f.line id = (id :: below) ++ id :: above := by
    unfold line
    rw [hsplit, List.cons_append]
  have hlen := congrArg List.length ((hf.line_of_append _ hline).symm.trans hline)
  simp only [List.length_cons, List.length_append] at hlen
  omega

theorem WellFormed.ancestors_trans {f : Forest} (hf : f.WellFormed) {i j k : Nat}
    (hij : j ∈ f.ancestors i) (hjk : k ∈ f.ancestors j) : k ∈ f.ancestors i := by
  obtain ⟨below, above, hsplit⟩ := List.append_of_mem hij
  have hline : f.line i = (i :: below) ++ j :: above := by
    unfold line
    rw [hsplit, List.cons_append]
  have hj := hf.line_of_append _ hline
  unfold line at hj
  rw [List.cons.injEq] at hj
  rw [hsplit, ← hj.2]
  exact List.mem_append_right _ (List.mem_cons_of_mem _ hjk)

/-- Whatever is before the owner of a resident class on a line has the class resident too. -/
theorem WellFormed.resident?_of_mem {f : Forest} (hf : f.WellFormed) {id owner x : Nat}
    {below above : List Nat} {name : String} {h : LoadedClass}
    (hline : f.line id = below ++ owner :: above) (howner : f.cached? owner name = some h)
    (hbelow : ∀ i ∈ below, f.cached? i name = none) (hx : x ∈ below) :
    f.resident? x name = some h := by
  obtain ⟨first, last, rfl⟩ := List.append_of_mem hx
  rw [List.append_assoc, List.cons_append] at hline
  refine resident?_eq_some_iff.mpr ⟨x :: last, owner, above, ?_, howner, fun i hi => ?_⟩
  · rw [hf.line_of_append first hline, List.cons_append]
  · exact hbelow i (List.mem_append_right _ hi)

theorem WellFormed.inherited?_eq {f : Forest} (hf : f.WellFormed) (id : Nat) (name : String) :
    f.inherited? id name = (f.parent? id).bind fun p => f.resident? p name := by
  rw [parent?_eq_head?]
  unfold inherited?
  cases hancestors : f.ancestors id with
  | nil => rfl
  | cons p above =>
    have hid : f.line id = id :: p :: above := by
      unfold line
      rw [hancestors]
    have hline : f.line p = p :: above := hf.line_parent hid
    rw [List.head?_cons, Option.bind_some, resident?_eq_findSome?, hline]

end Forest

end DriverClasses.Loading
