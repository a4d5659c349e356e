import DriverClasses.Proofs.Loading.Answer

/-!
# Stable answers

A class that a context has been handed stays its answer, its own class and that of an ancestor
alike.  An inherited class is in no cache below its owner, so what has to be kept is residence: a
cache takes a class in only where none of the name is resident (`cached?_change`), and on the way
up from a context to the owner one is resident everywhere (`WellFormed.resident?_of_mem`).  What is
resident is handed out without a question to any source (`load_stable`).
-/

namespace DriverClasses.Loading

open DriverClasses.ClassFile DriverClasses.Text DriverClasses.Files

namespace Forest

variable {f g : Forest} {id : Nat} {name : String} {h : LoadedClass}

/-- What a cache has under a name changes only where no class of the name is resident. -/
theorem cached?_change {op : Operation} (hchange : Change f op g) (i : Nat) (name : String) :
    g.cached? i name = f.cached? i name ∨ f.resident? i name = none := by
  rw [cached?_eq_lookup, cached?_eq_lookup]
  rcases cacheOf_change hchange i with hsame | ⟨_, other, _, _, _, _, _, _, hfinds, _, hcache⟩
  · exact .inl (by rw [hsame])
  · by_cases hname : name = other
    · exact .inr (hname ▸ hfinds.not_resident)
    · left
      have hother : (name == other) = false := by simpa using hname
      rw [hcache, List.lookup_append, List.lookup_cons, hother, List.lookup_nil, Option.or_none]

theorem isSome_context?_of_resident? (hres : f.resident? id name = some h) :
    (f.context? id).isSome := by
  cases hc : f.context? id with
  | some c => rfl
  | none => simp [resident?, cached?, inherited?, ancestors, hc] at hres

theorem WellFormed.resident?_change (hf : f.WellFormed) {op : Operation}
    (hchange : Change f op g) (hres : f.resident? id name = some h) :
    g.resident? id name = some h := by
  have hgrown := Extends.of_change hchange
  obtain ⟨below, owner, above, hline, howner, hbelow⟩ := resident?_eq_some_iff.mp hres
  have hline' : g.line id = below ++ owner :: above := by
    rw [← hline, line, line, hgrown.ancestors_eq (isSome_context?_of_resident? hres)]
  refine resident?_eq_some_iff.mpr ⟨below, owner, above, hline', hgrown.cached? howner, ?_⟩
  intro i hi
  rcases cached?_change hchange i name with hsame | hnone
  · rw [hsame, hbelow i hi]
  · rw [hf.resident?_of_mem hline howner hbelow hi] at hnone
    exact absurd hnone (by simp)

/-- What is resident stays so, whatever the contexts are asked for. -/
theorem WellFormed.resident?_after (hf : f.WellFormed) (hres : f.resident? id name = some h)
    (later : List Operation) : (f.after later).resident? id name = some h := by
  have hboth : (f.after later).WellFormed ∧ (f.after later).resident? id name = some h :=
    after_induction (P := fun g => g.WellFormed ∧ g.resident? id name = some h)
      (fun g op ⟨hg, hres⟩ =>
        ⟨hg.change (change_perform g op), hg.resident?_change (change_perform g op) hres⟩)
      ⟨hf, hres⟩ later
  exact hboth.2

/-- Between a context and the owner of its class, the class is resident too. -/
theorem Sound.resident?_of_between {ops : List Operation} (hf : f.Sound ops)
    (hres : f.resident? id name = some h) {d : Nat} (hd : d ∈ f.ancestors id)
    (howner : h.contextId ∈ f.ancestors d) : f.resident? d name = some h := by
  obtain ⟨below, owner, above, hline, hcached, hbelow⟩ := resident?_eq_some_iff.mp hres
  obtain ⟨rfl, -⟩ := hf.of_cached? hcached
  have hself := hf.wellFormed.not_mem_ancestors_self h.contextId
  have hmem : d ∈ below ++ h.contextId :: above := by
    rw [← hline]
    exact List.mem_cons_of_mem _ hd
  rw [List.mem_append, List.mem_cons] at hmem
  rcases hmem with hlow | rfl | hhigh
  · exact hf.wellFormed.resident?_of_mem hline hcached hbelow hlow
  · exact absurd howner hself
  · -- Above the owner nothing has the owner as an ancestor.
    have hrest : h.contextId :: f.ancestors h.contextId = h.contextId :: above :=
      hf.wellFormed.line_of_append below hline
    rw [List.cons.injEq] at hrest
    rw [← hrest.2] at hhigh
    exact absurd (hf.wellFormed.ancestors_trans hhigh howner) hself

/-- Once a load has handed out a class, every later load of the name in the same context hands out
the same class, and so does one in any context between it and the owner.  None of them changes the
forest, so that none puts a question to a source. -/
theorem load_stable (before later : List Operation) {files : FileTree} {id : Nat} {name : String}
    {h : LoadedClass} {f : Forest}
    (hload : (({} : Forest).after before).load files id name = (.loaded h, f)) (d : Nat)
    (hd : d = id
      ∨ d ∈ (f.after later).ancestors id ∧ h.contextId ∈ (f.after later).ancestors d)
    (files' : FileTree) :
    (f.after later).load files' d name = (.loaded h, f.after later) := by
  have hf : f = ({} : Forest).after (before ++ [.load files id name]) := by
    simp [perform, hload]
  have hsound := sound_after (before ++ [.load files id name] ++ later)
  rw [after_append, ← hf] at hsound
  have hwell : f.WellFormed := hf ▸ wellFormed_after _
  have hres := hwell.resident?_after (resident?_of_load hload) later
  rcases hd with rfl | ⟨habove, howner⟩
  · exact load_of_resident hres files'
  · exact load_of_resident (hsound.resident?_of_between hres habove howner) files'

/-! ### Three generations -/

/-- A context with a source that has the class `A`. -/
def grandparent : Context :=
  { id := 1, ancestors := [], policy := {}, sources := [cellar], cache := [] }

/-- The context, one below it, and one below that. -/
def generations : Forest :=
  { contexts :=
      [grandparent, { id := 2, ancestors := [1], policy := {}, sources := [], cache := [] },
        { id := 3, ancestors := [2, 1], policy := {}, sources := [], cache := [] }] }

def generationsRun : List Operation :=
  [.create none {} [], .create (some 1) {} [], .create (some 2) {} [], .addSource 1 cellar]

theorem after_generationsRun : ({} : Forest).after generationsRun = generations := rfl

theorem load_generations :
    generations.load {} 1 "A"
      = (.loaded cellarHandle, generations.gain grandparent "A" 1 cellarHandle) := by
  have hs : verdict {} grandparent.policy "A" cellar = .linked leastHeader leastClass :=
    verdict_eq_linked_iff.mpr ⟨rfl, link_leastClass⟩
  have hsplit : grandparent.sources = [] ++ cellar :: [] := rfl
  have hcontext : generations.context? 1 = some grandparent := rfl
  rw [load_of_not_resident rfl, if_pos (by decide), hcontext]
  exact scanContext_of_linked hsplit (by simp) hs

/-- The second and the third context are given sources of their own that have the class, and keep
to the one that they inherit. -/
theorem load_generations_stable :
    ∃ f, (({} : Forest).after (generationsRun ++ [.load {} 1 "A"])).load {} 3 "A"
        = (.loaded cellarHandle, f)
      ∧ (∀ files, (f.after [.addSource 2 cellar, .addSource 3 cellar]).load files 3 "A"
        = (.loaded cellarHandle, f.after [.addSource 2 cellar, .addSource 3 cellar]))
      ∧ ∀ files, (f.after [.addSource 2 cellar, .addSource 3 cellar]).load files 2 "A"
        = (.loaded cellarHandle, f.after [.addSource 2 cellar, .addSource 3 cellar]) := by
  have hafter : ({} : Forest).after (generationsRun ++ [.load {} 1 "A"])
      = generations.gain grandparent "A" 1 cellarHandle := by
    rw [after_append, after_generationsRun, after_cons, after_nil, perform, load_generations]
  have hload : (({} : Forest).after (generationsRun ++ [.load {} 1 "A"])).load {} 3 "A"
      = (.loaded cellarHandle, ({} : Forest).after (generationsRun ++ [.load {} 1 "A"])) := by
    rw [hafter]
    exact load_of_resident rfl {}
  refine ⟨_, hload, fun files => ?_, fun files => ?_⟩
  · exact load_stable _ _ hload 3 (.inl rfl) files
  · refine load_stable _ _ hload 2 (.inr ?_) files
    rw [hafter]
    exact ⟨by decide, by decide⟩

end Forest

end DriverClasses.Loading
