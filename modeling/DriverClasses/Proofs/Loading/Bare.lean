import DriverClasses.Proofs.Loading.Shape

/-!
# The first load in a context

A context below no other that has loaded nothing is its sources and its policy.  Two such contexts
load alike, each among the other contexts of its forest: they fail with one error, or load classes
that differ in serial number and context only (`unmarked_load_eq`).
-/

namespace DriverClasses.Loading

open DriverClasses.ClassFile DriverClasses.Files

/-- The class without what its load gave it: the serial number and the context. -/
def LoadedClass.unmarked (h : LoadedClass) : LoadedClass := { h with serial := 0, contextId := 0 }

def LoadResult.unmarked : LoadResult → LoadResult
  | loaded h => loaded h.unmarked
  | failed error => failed error
  | crashed reason => crashed reason

namespace LoadResult

theorem unmarked_eq_loaded_iff {r : LoadResult} {h : LoadedClass} :
    r.unmarked = (loaded h).unmarked ↔ ∃ own, r = .loaded own ∧ own.unmarked = h.unmarked := by
  cases r <;> simp [unmarked]

theorem unmarked_eq_failed_iff {r : LoadResult} {error : LoadError} :
    r.unmarked = (failed error).unmarked ↔ r = .failed error := by
  cases r <;> simp [unmarked]

theorem unmarked_eq_crashed_iff {r : LoadResult} {reason : String} :
    r.unmarked = (crashed reason).unmarked ↔ r = .crashed reason := by
  cases r <;> simp [unmarked]

end LoadResult

/-- A context below no other that has loaded nothing. -/
def Context.bare (id : Nat) (policy : LinkPolicy) (sources : List ClassSource) : Context :=
  { id, ancestors := [], policy, sources, cache := [] }

/-! ### Bare contexts -/

namespace Forest

variable {f g : Forest} {id i j : Nat} {policy : LinkPolicy} {sources : List ClassSource}
  {raws : List String} {files : FileTree} {name : String}

theorem create_of_sources (hsources : raws.mapM sourceOf = .ok sources) (f : Forest)
    (policy : LinkPolicy) :
    f.create none policy raws
      = .ok (f.nextId, { f with contexts := f.contexts ++ [.bare f.nextId policy sources] }) := by
  rw [create_eq_map, hsources]
  rfl

theorem create_of_refusal {error : LoadError} (hsources : raws.mapM sourceOf = .error error)
    (f : Forest) (policy : LinkPolicy) : f.create none policy raws = .error error := by
  rw [create_eq_map, hsources]
  rfl

theorem context?_append_bare (hf : f.WellFormed) (policy : LinkPolicy)
    (sources : List ClassSource) :
    ({ f with contexts := f.contexts ++ [.bare f.nextId policy sources] } : Forest).context?
        f.nextId
      = some (.bare f.nextId policy sources) := by
  rw [context?_append, hf.context?_nextId, Option.none_or]
  exact if_pos rfl

theorem cached?_of_bare (hc : f.context? id = some (.bare id policy sources)) (name : String) :
    f.cached? id name = none := by
  unfold cached?
  rw [hc]
  rfl

theorem resident?_of_bare (hc : f.context? id = some (.bare id policy sources)) (name : String) :
    f.resident? id name = none := by
  have hnobody : f.ancestors id = [] := ancestors_of_context? hc
  rw [resident?, cached?_of_bare hc, inherited?, hnobody]
  rfl

theorem load_of_bare (hc : f.context? id = some (.bare id policy sources)) (files : FileTree)
    (name : String) :
    f.load files id name
      = if isBinaryName name then f.scanContext files (.bare id policy sources) name
        else (.failed (.classNotFound name 0), f) := by
  rw [load_of_not_resident (resident?_of_bare hc name), hc]

/-- Contexts of one policy that have the same sources and nothing else load alike, wherever they
are. -/
theorem unmarked_load_eq (hf : f.context? i = some (.bare i policy sources))
    (hg : g.context? j = some (.bare j policy sources)) (files : FileTree) (name : String) :
    (f.load files i name).1.unmarked = (g.load files j name).1.unmarked := by
  rw [load_of_bare hf, load_of_bare hg]
  split
  · simp only [scanContext, Context.bare]
    cases scan files policy name sources with
    | mk scanEnd asked => cases scanEnd <;> rfl
  · rfl

theorem context?_of_load_bare (hc : f.context? id = some (.bare id policy sources))
    {h : LoadedClass} (hload : f.load files id name = (.loaded h, g)) :
    g.context? id = some ((Context.bare id policy sources).store name h) := by
  rcases of_load_eq_loaded hload with ⟨hres, -⟩ | ⟨c, _, _, _, _, hfinds, -, rfl⟩
  · rw [resident?_of_bare hc] at hres
    cases hres
  · obtain rfl := Option.some.inj (hfinds.context.symm.trans hc)
    rw [context?_gain, store]
    exact (context?_modify_self f id _ fun c => id_store c name h).trans (by rw [hc]; rfl)

end Forest

end DriverClasses.Loading
