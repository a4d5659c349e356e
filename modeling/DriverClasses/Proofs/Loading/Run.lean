import DriverClasses.Loading.Lemmas
import DriverClasses.Proofs.Loading.Scan

/-!
# Runs of a forest

An `Operation` is one thing that is asked of a forest, and a run is a list of them.  A load meets
the files as they are at that time, so files may change between one load and the next, and what a
source answers may change with them.

`change_perform` says all that one operation can do: it makes a context, it gives one more source
to a context, it puts one class that a source of the context has linked behind the others of the
cache, or it changes no context.  Nothing is ever taken away (`extends_after`).
-/

namespace DriverClasses.Loading

open DriverClasses.ClassFile DriverClasses.Text DriverClasses.Files

inductive Operation where
  /-- A new context, below another one or isolated. -/
  | create (parent : Option Nat) (policy : LinkPolicy) (raws : List String)
  | addLocation (id : Nat) (raw : String)
  | addSource (id : Nat) (source : ClassSource)
  | isLoaded (id : Nat) (name : String)
  | loadedNames (id : Nat)
  | locations (id : Nat)
  | load (files : FileTree) (id : Nat) (name : String)

inductive Answer where
  | created (id : Nat)
  | appended
  | refused (error : LoadError)
  /-- There is no context for the new one to be below. -/
  | orphaned
  | cached (handle : Option LoadedClass)
  | texts (texts : List String)
  | ended (result : LoadResult)

/-- The class that an answer hands out. -/
def Answer.handle? : Answer → Option LoadedClass
  | .cached handle => handle
  | .ended (.loaded handle) => some handle
  | _ => none

namespace Forest

/-- Whether there is a context for a new one to be below. -/
def admits (f : Forest) (parent : Option Nat) : Bool := parent.all fun p => (f.context? p).isSome

def perform (f : Forest) : Operation → Answer × Forest
  | .create parent policy raws =>
    if f.admits parent then
      match f.create parent policy raws with
      | .ok (id, f') => (.created id, f')
      | .error error => (.refused error, f)
    else (.orphaned, f)
  | .addLocation id raw =>
    match f.addLocation id raw with
    | .ok f' => (.appended, f')
    | .error error => (.refused error, f)
  | .addSource id source => (.appended, f.addSource id source)
  | .isLoaded id name => (.cached (f.cached? id name), f)
  | .loadedNames id => (.texts (((f.context? id).map (·.loadedNames)).getD []), f)
  | .locations id => (.texts (((f.context? id).map (·.locations)).getD []), f)
  | .load files id name =>
    let (result, f') := f.load files id name
    (.ended result, f')

/-- The forest after a run. -/
def after (f : Forest) (ops : List Operation) : Forest :=
  ops.foldl (fun f op => (f.perform op).2) f

/-- What is answered in a run. -/
def answers (f : Forest) : List Operation → List Answer
  | [] => []
  | op :: ops => (f.perform op).1 :: (f.perform op).2.answers ops

@[simp] theorem after_nil (f : Forest) : f.after [] = f := rfl

@[simp] theorem after_cons (f : Forest) (op : Operation) (ops : List Operation) :
    f.after (op :: ops) = (f.perform op).2.after ops := rfl

@[simp] theorem after_append (f : Forest) (ops more : List Operation) :
    f.after (ops ++ more) = (f.after ops).after more := List.foldl_append

theorem answers_append (f : Forest) (ops more : List Operation) :
    f.answers (ops ++ more) = f.answers ops ++ (f.after ops).answers more := by
  induction ops generalizing f with
  | nil => rfl
  | cons op ops ih => rw [List.cons_append, answers, ih, answers, List.cons_append]; rfl

/-- What each operation keeps, a run keeps. -/
theorem after_induction {P : Forest → Prop} (step : ∀ f op, P f → P (f.perform op).2)
    {f : Forest} (h : P f) (ops : List Operation) : P (f.after ops) := by
  induction ops generalizing f with
  | nil => exact h
  | cons op ops ih => exact ih (step f op h)

/-! ### A load, and what an operation can do -/

/-- The class of this name that a context has, or else its nearest ancestor with one. -/
def resident? (f : Forest) (id : Nat) (name : String) : Option LoadedClass :=
  (f.cached? id name).or (f.inherited? id name)

theorem load_of_resident {f : Forest} {id : Nat} {name : String} {h : LoadedClass}
    (hres : f.resident? id name = some h) (files : FileTree) :
    f.load files id name = (.loaded h, f) := by
  unfold resident? at hres
  unfold load
  cases hcached : f.cached? id name with
  | some own =>
    rw [hcached, Option.some_or, Option.some.injEq] at hres
    simp only [hres]
  | none =>
    rw [hcached, Option.none_or] at hres
    simp only [hres]

theorem load_of_not_resident {f : Forest} {id : Nat} {name : String}
    (hres : f.resident? id name = none) (files : FileTree) :
    f.load files id name
      = if isBinaryName name then
          match f.context? id with
          | some c => f.scanContext files c name
          | none => (.failed (.classNotFound name 0), f)
        else (.failed (.classNotFound name 0), f) := by
  obtain ⟨hcached, hinherited⟩ := Option.or_eq_none_iff.mp hres
  by_cases hname : isBinaryName name = true
  · cases hc : f.context? id <;> simp [load, hcached, hinherited, hname, hc]
  · simp [load, hcached, hinherited, hname]

/-- The forest in which a context has asked the first `asked` of its sources for a class, and has
linked and kept it. -/
def gain (f : Forest) (c : Context) (name : String) (asked : Nat) (h : LoadedClass) : Forest :=
  { (f.record c.id (entryName name) c.policy.maxEntryBytes asked).store c.id name h with
    linked := f.linked + 1 }

/-- The handle that is made when the bytes of a source are linked for a context. -/
def handle (f : Forest) (c : Context) (s : ClassSource) (header : Header) (bytes : Bytes) :
    LoadedClass :=
  { serial := f.linked, header, origin := s.origin, digest := Digest.sha256Hex bytes,
    contextId := c.id }

theorem scanContext_of_linked {f : Forest} {files : FileTree} {c : Context} {name : String}
    {before after : List ClassSource} {s : ClassSource} {header : Header} {bytes : Bytes}
    (hsplit : c.sources = before ++ s :: after)
    (hbefore : ∀ t ∈ before, (verdict files c.policy name t).passes)
    (hs : verdict files c.policy name s = .linked header bytes) :
    f.scanContext files c name
      = (.loaded (f.handle c s header bytes),
        f.gain c name (before.length + 1) (f.handle c s header bytes)) := by
  unfold scanContext scan
  rw [(Scanned.linked hsplit hbefore hs).eq]
  rfl

/-- A load of a class that is not resident has found it in a source of its context. -/
structure Finds (f : Forest) (files : FileTree) (id : Nat) (name : String) (c : Context)
    (position : Nat) (s : ClassSource) (header : Header) (bytes : Bytes) : Prop where
  context : f.context? id = some c
  not_resident : f.resident? id name = none
  binary : isBinaryName name = true
  source : c.sources[position]? = some s
  found : s.find files (entryName name) c.policy.maxEntryBytes = .found bytes
  links : link c.policy name bytes = .ok header

/-- What a forest can come to by one operation. -/
inductive Change (f : Forest) : Operation → Forest → Prop
  | asked (op : Operation) (consultations : List Consultation) :
      Change f op { f with consultations := f.consultations ++ consultations }
  | created {parent : Option Nat} {policy : LinkPolicy} {raws : List String}
      {sources : List ClassSource} :
      f.admits parent → raws.mapM sourceOf = .ok sources →
      Change f (.create parent policy raws)
        { f with
          contexts := f.contexts ++
            [{ id := f.nextId, policy, sources, cache := []
               ancestors := (parent.map fun p => p :: f.ancestors p).getD [] }] }
  | sourced (op : Operation) (id : Nat) (source : ClassSource) :
      Change f op (f.addSource id source)
  | linked {files : FileTree} {id : Nat} {name : String} {c : Context} {position : Nat}
      {s : ClassSource} {header : Header} {bytes : Bytes} :
      f.Finds files id name c position s header bytes →
      Change f (.load files id name)
        (f.gain c name (position + 1) (f.handle c s header bytes))

theorem Change.nothing (f : Forest) (op : Operation) : Change f op f := by
  have h := Change.asked (f := f) op []
  rwa [List.append_nil] at h

/-- A load hands out what is resident, or links what it finds, or asks in vain. -/
theorem load_cases (f : Forest) (files : FileTree) (id : Nat) (name : String) :
    (∃ h, f.resident? id name = some h ∧ f.load files id name = (.loaded h, f))
      ∨ (∃ c position s header bytes, f.Finds files id name c position s header bytes
          ∧ f.load files id name = (.loaded (f.handle c s header bytes),
              f.gain c name (position + 1) (f.handle c s header bytes)))
      ∨ ∃ result consultations, (∀ h, result ≠ .loaded h)
          ∧ f.load files id name
            = (result, { f with consultations := f.consultations ++ consultations }) := by
  have hnothing : f = { f with consultations := f.consultations ++ [] } := by
    rw [List.append_nil]
  cases hres : f.resident? id name with
  | some h => exact .inl ⟨h, rfl, load_of_resident hres files⟩
  | none =>
    right
    rw [load_of_not_resident hres]
    split
    · rename_i hname
      cases hc : f.context? id with
      | none => exact .inr ⟨_, [], by simp, congrArg (Prod.mk _) hnothing⟩
      | some c =>
        obtain ⟨r, hr⟩ := exists_scanned (verdict files c.policy name) name c.sources
        cases hr with
        | linked hsplit hbefore hs =>
          obtain ⟨hfind, hlink⟩ := verdict_eq_linked_iff.mp hs
          exact .inl ⟨c, _, _, _, _, ⟨hc, hres, hname, by simp [hsplit], hfind, hlink⟩,
            scanContext_of_linked hsplit hbefore hs⟩
        | crashed hsplit hbefore hs =>
          simp only [scanContext, scan, (Scanned.crashed hsplit hbefore hs).eq]
          exact .inr ⟨_, _, by simp, rfl⟩
        | blamed hsplit hpass hbefore hs =>
          simp only [scanContext, scan, (Scanned.blamed hsplit hpass hbefore hs).eq]
          exact .inr ⟨_, _, by simp, rfl⟩
        | missing habsent =>
          simp only [scanContext, scan, (Scanned.missing habsent).eq]
          exact .inr ⟨_, _, by simp, rfl⟩
    · exact .inr ⟨_, [], by simp, congrArg (Prod.mk _) hnothing⟩

theorem change_load (f : Forest) (files : FileTree) (id : Nat) (name : String) :
    Change f (.load files id name) (f.load files id name).2 := by
  rcases load_cases f files id name with ⟨h, -, hload⟩ | ⟨c, _, s, _, _, hfinds, hload⟩ |
    ⟨_, consultations, -, hload⟩ <;> rw [hload]
  · exact .nothing f _
  · exact .linked hfinds
  · exact .asked _ consultations

/-- A load hands out a class that is resident already, or one that it has just found. -/
theorem of_load_eq_loaded {f g : Forest} {files : FileTree} {id : Nat} {name : String}
    {h : LoadedClass} (hload : f.load files id name = (.loaded h, g)) :
    f.resident? id name = some h ∧ g = f
      ∨ ∃ c position s header bytes, f.Finds files id name c position s header bytes
        ∧ h = f.handle c s header bytes ∧ g = f.gain c name (position + 1) h := by
  rcases load_cases f files id name with ⟨own, hres, hown⟩ | ⟨c, position, s, header, bytes, hfinds,
    hfound⟩ | ⟨result, _, hne, hvain⟩
  · rw [hown, Prod.mk.injEq, LoadResult.loaded.injEq] at hload
    exact .inl ⟨hload.1 ▸ hres, hload.2.symm⟩
  · rw [hfound, Prod.mk.injEq, LoadResult.loaded.injEq] at hload
    obtain ⟨rfl, rfl⟩ := hload
    exact .inr ⟨c, position, s, header, bytes, hfinds, rfl, rfl⟩
  · rw [hvain, Prod.mk.injEq] at hload
    exact absurd hload.1 (hne h)

theorem change_perform (f : Forest) (op : Operation) : Change f op (f.perform op).2 := by
  cases op with
  | create parent policy raws =>
    simp only [perform]
    split
    · rename_i hadmits
      cases hsources : raws.mapM sourceOf with
      | error error => simp [create, hsources, bind, Except.bind, Change.nothing]
      | ok sources =>
        have h : Change f (.create parent policy raws) _ := .created hadmits hsources
        cases parent <;> simpa [create, hsources, bind, Except.bind, pure, Except.pure] using h
    · exact .nothing f _
  | addLocation id raw =>
    simp only [perform, addLocation]
    cases sourceOf raw with
    | error error => exact .nothing f _
    | ok source => exact .sourced _ id source
  | addSource id source => exact .sourced _ id source
  | isLoaded id name => exact .nothing f _
  | loadedNames id => exact .nothing f _
  | locations id => exact .nothing f _
  | load files id name => exact change_load f files id name

end Forest

end DriverClasses.Loading
