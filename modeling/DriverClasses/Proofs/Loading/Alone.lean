import Mathlib.Logic.Function.Iterate
import DriverClasses.Proofs.Loading.Turns

/-!
# A call that runs alone

`Forest.load` does at one go what a call does in its steps while the others rest: the call returns
the same result and leaves the same forest, and the pending loads are those of before
(`exists_run_alone`).  A scan one source at a time adds its questions one by one, and keeps count of
the sources; `ask` is the forest with the questions from a place on.  What steps lead to is said for
any steps (`Reaches`), as a set-up that runs alone is followed in the same way.
-/

namespace DriverClasses.Loading

open DriverClasses.ClassFile DriverClasses.Text DriverClasses.Files

section Reaches

variable {σ : Type} {step : σ → σ} {x y z : σ}

/-- Steps lead from the one state to the other. -/
def Reaches (step : σ → σ) (x y : σ) : Prop := ∃ steps, step^[steps] x = y

namespace Reaches

theorem refl (step : σ → σ) (x : σ) : Reaches step x x := ⟨0, rfl⟩

theorem head (h : Reaches step (step x) y) : Reaches step x y := by
  obtain ⟨steps, rfl⟩ := h
  exact ⟨steps + 1, rfl⟩

theorem trans (h : Reaches step x y) (h' : Reaches step y z) : Reaches step x z := by
  obtain ⟨steps, rfl⟩ := h
  obtain ⟨more, rfl⟩ := h'
  exact ⟨more + steps, Function.iterate_add_apply step more steps x⟩

/-- A state that steps do not change is not left again. -/
theorem stays (h : Reaches step x y) (hfixed : step y = y) :
    ∃ bound, ∀ steps, bound ≤ steps → step^[steps] x = y := by
  obtain ⟨bound, hbound⟩ := h
  refine ⟨bound, fun steps hle => ?_⟩
  obtain ⟨more, rfl⟩ := Nat.exists_eq_add_of_le' hle
  rw [Function.iterate_add_apply, hbound, Function.iterate_fixed hfixed]

end Reaches

/-- A machine that one move takes along with a step goes along with the steps when the move is made
over and over. -/
theorem foldl_replicate {M A : Type} {act : M → A → M} {move : A} (embed : σ → M)
    (h : ∀ x, act (embed x) move = embed (step x)) (steps : Nat) (x : σ) :
    (List.replicate steps move).foldl act (embed x) = embed (step^[steps] x) := by
  induction steps generalizing x with
  | zero => rfl
  | succ steps ih =>
    rw [List.replicate_succ, List.foldl_cons, h, ih, Function.iterate_succ_apply]

end Reaches

/-- One step of a call that is alone. -/
def stepAlone (files : FileTree) (id : Nat) (name : String) (state : Stage × Shared) :
    Stage × Shared :=
  stepCall files id name state.2 state.1

/-- A context has asked `count` of its sources for a class, from the place `asked` on. -/
def Forest.ask (f : Forest) (c : Context) (name : String) (asked count : Nat) : Forest :=
  { f with consultations := f.consultations
      ++ (List.range' asked count).map fun position =>
        { contextId := c.id, position, entry := entryName name
          limit := c.policy.maxEntryBytes } }

namespace Forest

theorem ask_zero (f : Forest) (c : Context) (name : String) (asked : Nat) :
    f.ask c name asked 0 = f := by
  simp [ask]

theorem ask_ask (f : Forest) (c : Context) (name : String) (asked count : Nat) :
    (f.ask c name asked 1).ask c name (asked + 1) count = f.ask c name asked (count + 1) := by
  simp [ask, List.range'_succ]

theorem record_eq_ask (f : Forest) (c : Context) (name : String) (count : Nat) :
    f.record c.id (entryName name) c.policy.maxEntryBytes count = f.ask c name 0 count := by
  unfold record ask
  rw [List.range_eq_range']

end Forest

/-- What stands at a place may be put there again. -/
theorem set_of_getElem? {α : Type} {l : List α} {i : Nat} {a : α} (h : l[i]? = some a) :
    l.set i a = l := by
  obtain ⟨hlt, rfl⟩ := List.getElem?_eq_some_iff.mp h
  exact List.set_getElem_self hlt

namespace Machine

variable {m : Machine} {i id : Nat} {name : String} {before : Stage}

theorem advance_self (hat : m.At i id name before) : m.advance i id name before m.shared = m := by
  unfold advance
  rw [set_of_getElem? hat]

theorem step_advance (hat : m.At i id name before) (files : FileTree) (state : Stage × Shared) :
    (m.advance i id name state.1 state.2).step files (.step i)
      = m.advance i id name (stepAlone files id name state).1
          (stepAlone files id name state).2 := by
  rw [step_eq_advance (at_advance_self hat state.1 state.2)]
  simp only [advance, stepAlone, List.set_set]

/-- A call that alone takes steps goes where these lead it. -/
theorem run_alone (hat : m.At i id name before) (files : FileTree) (steps : Nat)
    (state : Stage × Shared) :
    (m.advance i id name state.1 state.2).run files (List.replicate steps (.step i))
      = m.advance i id name ((stepAlone files id name)^[steps] state).1
          ((stepAlone files id name)^[steps] state).2 := by
  unfold run
  exact foldl_replicate (fun state => m.advance i id name state.1 state.2)
    (step_advance hat files) steps state

end Machine

/-- Where the end of its scan takes a leader. -/
def concluded (c : Context) (ticket : Nat) (s : Shared) : ScanEnd → Stage × Shared
  | .failed error => (.leaving ticket (.failed error), s)
  | .crashed reason => (.leaving ticket (.crashed reason), s)
  | .linked origin header bytes =>
    let (loaded, forest) := s.forest.newClass c.id origin header bytes
    (.storing ticket loaded, { s with forest })

/-- Asked one by one, the sources that are left take a leader where a scan of them ends. -/
theorem reaches_concluded (files : FileTree) {c : Context} (name : String) (ticket : Nat) :
    ∀ (rest : List ClassSource) (asked : Nat) (failure : Option LoadError) (s : Shared),
      s.forest.context? c.id = some c →
      ∀ scanEnd count,
        scanFrom (verdict files c.policy name) name (asked + rest.length) failure rest
          = (scanEnd, count) →
        Reaches (stepAlone files c.id name) (.scanning ticket asked failure rest, s)
          (concluded c ticket { s with forest := s.forest.ask c name asked count } scanEnd)
  | [], asked, failure, s, _, scanEnd, count, hscan => by
    rw [scanFrom, Prod.mk.injEq] at hscan
    obtain ⟨rfl, rfl⟩ := hscan
    refine .head ?_
    rw [Forest.ask_zero]
    exact .refl _ _
  | source :: rest, asked, failure, s, hc, scanEnd, count, hscan => by
    refine .head ?_
    have htotal : asked + (source :: rest).length = asked + 1 + rest.length := by
      rw [List.length_cons]
      omega
    rw [htotal, scanFrom] at hscan
    simp only [stepAlone, stepCall, scanStep, hc]
    cases hverdict : verdict files c.policy name source with
    | absent =>
      rw [hverdict] at hscan
      cases hrest : scanFrom (verdict files c.policy name) name (asked + 1 + rest.length) failure
        rest with
      | mk restEnd restCount =>
        simp only [hrest, Prod.mk.injEq] at hscan
        obtain ⟨rfl, rfl⟩ := hscan
        have ih := reaches_concluded files name ticket rest (asked + 1) failure
          { s with forest := s.forest.ask c name asked 1 } hc _ _ hrest
        simp only [Forest.ask_ask] at ih
        exact ih
    | defective defect =>
      rw [hverdict] at hscan
      cases hrest : scanFrom (verdict files c.policy name) name (asked + 1 + rest.length)
        (blame failure (.malformedClass name source.origin defect)) rest with
      | mk restEnd restCount =>
        simp only [hrest, Prod.mk.injEq] at hscan
        obtain ⟨rfl, rfl⟩ := hscan
        have ih := reaches_concluded files name ticket rest (asked + 1)
          (blame failure (.malformedClass name source.origin defect))
          { s with forest := s.forest.ask c name asked 1 } hc _ _ hrest
        simp only [Forest.ask_ask] at ih
        exact ih
    | crashed reason =>
      simp only [hverdict, Prod.mk.injEq] at hscan
      obtain ⟨rfl, rfl⟩ := hscan
      exact .refl _ _
    | linked header bytes =>
      simp only [hverdict, Prod.mk.injEq] at hscan
      obtain ⟨rfl, rfl⟩ := hscan
      exact .refl _ _

/-- A load that was begun and has ended leaves nothing behind but what was announced of it. -/
theorem announce_leave_lead {s : Shared} {id : Nat} {name : String}
    (hfree : s.pending? id name = none) (f : Forest) (announcement : Announcement) :
    (({ (s.lead id name).2 with forest := f }).leave id name).announce s.announced.length
        announcement
      = { s with forest := f, announced := s.announced ++ [some announcement] } := by
  have hothers : s.inFlight.filter (·.1 ≠ (id, name)) = s.inFlight := by
    rw [List.filter_eq_self]
    intro e he
    have hne := List.lookup_eq_none_iff.mp hfree e he
    exact decide_eq_true fun heq => by simp [heq] at hne
  have hown : (((id, name), s.announced.length) :: s.inFlight).filter (·.1 ≠ (id, name))
      = s.inFlight := by
    rw [List.filter_cons_of_neg (by simp), hothers]
  simp only [Shared.lead, Shared.leave, Shared.announce, hown,
    List.set_append_right _ _ (Nat.le_refl _), Nat.sub_self, List.set_cons_zero]

section Load

variable {s : Shared} {id : Nat} {name : String}

/-- A leader that is alone announces its result and returns it. -/
theorem reaches_returned (files : FileTree) (hfree : s.pending? id name = none) (f : Forest)
    (result : LoadResult) :
    Reaches (stepAlone files id name)
      (.leaving s.announced.length result, { (s.lead id name).2 with forest := f })
      (.returned result,
        { s with forest := f, announced := s.announced ++ [some (result.announcement name)] }) := by
  refine .head (.head ?_)
  simp only [stepAlone, stepCall, announce_leave_lead hfree]
  exact .refl _ _

/-- A call that is alone and finds nothing begins a scan. -/
theorem reaches_scanning (files : FileTree) (hfree : s.pending? id name = none)
    (hcached : s.forest.cached? id name = none) (hinherited : s.forest.inherited? id name = none)
    (hname : isBinaryName name = true) :
    Reaches (stepAlone files id name) (.checkCache, s)
      (.scanning s.announced.length 0 none (((s.forest.context? id).map (·.sources)).getD []),
        (s.lead id name).2) := by
  refine .head ?_
  simp only [stepAlone, stepCall, hcached]
  refine .head ?_
  simp only [stepAlone, stepCall, hinherited, hname, if_true]
  refine .head ?_
  simp only [stepAlone, stepCall, enterStep, hcached, hfree]
  exact .head (.refl _ _)

/-- A scan that is alone ends as `scanContext` does. -/
theorem reaches_scanContext (files : FileTree) {c : Context} (hfree : s.pending? c.id name = none)
    (hc : s.forest.context? c.id = some c) :
    ∃ announced, Reaches (stepAlone files c.id name)
      (.scanning s.announced.length 0 none c.sources, (s.lead c.id name).2)
      (.returned (s.forest.scanContext files c name).1,
        { s with forest := (s.forest.scanContext files c name).2, announced }) := by
  cases hscan : scanFrom (verdict files c.policy name) name (0 + c.sources.length) none
      c.sources with
  | mk scanEnd count =>
    have hreaches := reaches_concluded files name s.announced.length c.sources 0 none
      (s.lead c.id name).2 hc scanEnd count hscan
    rw [Nat.zero_add] at hscan
    simp only [Forest.scanContext, scan, hscan, Forest.record_eq_ask]
    cases scanEnd with
    | failed error => exact ⟨_, hreaches.trans (reaches_returned files hfree _ _)⟩
    | crashed reason => exact ⟨_, hreaches.trans (reaches_returned files hfree _ _)⟩
    | linked origin header bytes =>
      exact ⟨_, hreaches.trans (.head (reaches_returned files hfree _ _))⟩

/-- A call that is alone goes where `load` goes. -/
theorem reaches_load (files : FileTree) (hfree : s.pending? id name = none) :
    ∃ announced, Reaches (stepAlone files id name) (.checkCache, s)
      (.returned (s.forest.load files id name).1,
        { s with forest := (s.forest.load files id name).2, announced }) := by
  unfold Forest.load
  cases hcached : s.forest.cached? id name with
  | some h =>
    refine ⟨s.announced, .head ?_⟩
    simp only [stepAlone, stepCall, hcached]
    exact .refl _ _
  | none =>
    cases hinherited : s.forest.inherited? id name with
    | some h =>
      refine ⟨s.announced, .head ?_⟩
      simp only [stepAlone, stepCall, hcached]
      refine .head ?_
      simp only [stepAlone, stepCall, hinherited]
      exact .refl _ _
    | none =>
      by_cases hname : isBinaryName name = true
      · have hscanning := reaches_scanning files hfree hcached hinherited hname
        simp only [hname, if_true]
        cases hc : s.forest.context? id with
        | none =>
          rw [hc] at hscanning
          exact ⟨_, hscanning.trans (.head (reaches_returned files hfree s.forest _))⟩
        | some c =>
          obtain rfl := Forest.id_of_context? hc
          rw [hc] at hscanning
          obtain ⟨announced, hscan⟩ := reaches_scanContext files hfree hc
          exact ⟨announced, hscanning.trans hscan⟩
      · refine ⟨s.announced, .head ?_⟩
        simp only [stepAlone, stepCall, hcached]
        refine .head ?_
        simp only [stepAlone, stepCall, hinherited, hname]
        exact .refl _ _

end Load

/-- A call that takes all its steps while the others rest, and while no load of its name is pending
in its context, returns what `load` gives and leaves the forest that `load` leaves. -/
theorem exists_run_alone {m : Machine} {i id : Nat} {name : String}
    (hat : m.At i id name .checkCache) (hfree : m.shared.pending? id name = none)
    (files : FileTree) :
    ∃ bound announced, ∀ steps, bound ≤ steps →
      m.run files (List.replicate steps (.step i))
        = m.advance i id name (.returned (m.shared.forest.load files id name).1)
            { m.shared with forest := (m.shared.forest.load files id name).2, announced } := by
  obtain ⟨announced, hload⟩ := reaches_load files hfree
  obtain ⟨bound, hbound⟩ := hload.stays rfl
  refine ⟨bound, announced, fun steps hle => ?_⟩
  have hrun := Machine.run_alone hat files steps (.checkCache, m.shared)
  rw [hbound steps hle, Machine.advance_self hat] at hrun
  exact hrun

end DriverClasses.Loading
