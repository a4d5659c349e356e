import DriverClasses.Loading.Interleaving
import DriverClasses.Proofs.Loading.Growth

/-!
# Turns of calls that run at once

A run of a machine gives turns to its calls in any order, and between any two turns a context may
get more sources; the files may be others at each turn.  The log of a run has one `Turn` for each
step that a call has taken.

`Took` says all that one step of a call can do to its stage and to what the calls share, and
`took_stepCall` that it does nothing else.  Most steps touch neither the pending loads nor a cache.
-/

namespace DriverClasses.Loading

open DriverClasses.ClassFile DriverClasses.Text DriverClasses.Files

namespace Stage

/-- The call has not got beyond the lock. -/
def starts : Stage → Bool
  | .checkCache | .checkAncestors | .enter => true
  | _ => false

/-- The load that the call leads, as long as it has put nothing into the cache. -/
def seeks? : Stage → Option Nat
  | .snapshot ticket | .scanning ticket _ _ _ | .storing ticket _ => some ticket
  | _ => none

/-- The load that the call leads, as long as it is pending. -/
def leads? : Stage → Option Nat
  | .snapshot ticket | .scanning ticket _ _ _ | .storing ticket _ | .leaving ticket _ => some ticket
  | _ => none

/-- The load that the call leads, as long as nothing was announced of it. -/
def holds? : Stage → Option Nat
  | .snapshot ticket | .scanning ticket _ _ _ | .storing ticket _ | .leaving ticket _
  | .announcing ticket _ => some ticket
  | _ => none

/-- How the call ends, once that is settled. -/
def outcome? : Stage → Option LoadResult
  | .leaving _ result | .announcing _ result | .returned result => some result
  | _ => none

/-- What the scan of a leader has come to, or how a call that leads none ends. -/
def ended? : Stage → Option LoadResult
  | .storing _ h => some (.loaded h)
  | stage => stage.outcome?

theorem holds?_of_leads? {stage : Stage} {k : Nat} (h : stage.leads? = some k) :
    stage.holds? = some k := by
  cases stage <;> simp_all [leads?, holds?]

theorem leads?_of_seeks? {stage : Stage} {k : Nat} (h : stage.seeks? = some k) :
    stage.leads? = some k := by
  cases stage <;> simp_all [leads?, seeks?]

theorem seeks?_of_starts {stage : Stage} (h : stage.starts) : stage.seeks? = none := by
  cases stage <;> simp_all [starts, seeks?]

theorem leads?_of_starts {stage : Stage} (h : stage.starts) : stage.leads? = none := by
  cases stage <;> simp_all [starts, leads?]

theorem holds?_of_starts {stage : Stage} (h : stage.starts) : stage.holds? = none := by
  cases stage <;> simp_all [starts, holds?]

end Stage

/-- What one step of a call to load `name` in the context `id` can do. -/
inductive Took (id : Nat) (name : String) (s : Shared) : Stage → Stage → Shared → Prop
  /-- A call that waits, or that has returned. -/
  | still (stage : Stage) : Took id name s stage stage s
  | moved {before after : Stage} : before.starts → after.starts → Took id name s before after s
  | answered {before : Stage} {result : LoadResult} :
      before.starts →
      (∀ h, result = .loaded h →
        s.forest.cached? id name = some h ∨ s.forest.inherited? id name = some h) →
      Took id name s before (.returned result) s
  | joined {ticket : Nat} :
      s.pending? id name = some ticket → Took id name s .enter (.waiting ticket) s
  | led :
      s.forest.cached? id name = none → s.pending? id name = none →
      Took id name s .enter (.snapshot s.announced.length) (s.lead id name).2
  | told {ticket : Nat} {announcement : Announcement} :
      s.announcement? ticket = some announcement →
      Took id name s (.waiting ticket) (.returned (.ofAnnouncement announcement)) s
  | begun {ticket : Nat} {sources : List ClassSource} :
      Took id name s (.snapshot ticket) (.scanning ticket 0 none sources) s
  | asked {ticket asked : Nat} {failure failure' : Option LoadError} {source : ClassSource}
      {rest : List ClassSource} (question : Consultation) :
      Took id name s (.scanning ticket asked failure (source :: rest))
        (.scanning ticket (asked + 1) failure' rest)
        { s with forest := { s.forest with
          consultations := s.forest.consultations ++ [question] } }
  | linked {ticket asked : Nat} {failure : Option LoadError} {source : ClassSource}
      {rest : List ClassSource} {h : LoadedClass} (question : Consultation) :
      Took id name s (.scanning ticket asked failure (source :: rest)) (.storing ticket h)
        { s with forest := { s.forest with
          linked := s.forest.linked + 1
          consultations := s.forest.consultations ++ [question] } }
  | failed {ticket asked : Nat} {failure : Option LoadError} {rest : List ClassSource}
      {result : LoadResult} (consultations : List Consultation) :
      (∀ h, result ≠ .loaded h) →
      Took id name s (.scanning ticket asked failure rest) (.leaving ticket result)
        { s with forest := { s.forest with consultations } }
  | stored {ticket : Nat} {h : LoadedClass} :
      Took id name s (.storing ticket h) (.leaving ticket (.loaded h))
        { s with forest := s.forest.store id name h }
  | left {ticket : Nat} {result : LoadResult} :
      Took id name s (.leaving ticket result) (.announcing ticket result) (s.leave id name)
  | announced {ticket : Nat} {result : LoadResult} :
      Took id name s (.announcing ticket result) (.returned result)
        (s.announce ticket (result.announcement name))

theorem took_enterStep (id : Nat) (name : String) (s : Shared) :
    Took id name s .enter (enterStep id name s).1 (enterStep id name s).2 := by
  unfold enterStep
  cases hcached : s.forest.cached? id name with
  | some h => exact .answered rfl fun own hown => .inl (by simp_all)
  | none =>
    cases hpending : s.pending? id name with
    | some ticket => exact .joined hpending
    | none => exact .led hcached hpending

theorem took_scanStep (files : FileTree) (id : Nat) (name : String) (ticket asked : Nat)
    (failure : Option LoadError) (s : Shared) (rest : List ClassSource) :
    Took id name s (.scanning ticket asked failure rest)
      (scanStep files id name ticket asked failure s rest).1
      (scanStep files id name ticket asked failure s rest).2 := by
  cases rest with
  | nil => exact .failed s.forest.consultations (by simp)
  | cons source rest =>
    unfold scanStep
    cases hc : s.forest.context? id with
    | none => exact .failed s.forest.consultations (by simp)
    | some c =>
      cases hverdict : verdict files c.policy name source with
      | absent => simp only [hverdict]; exact .asked _
      | defective defect => simp only [hverdict]; exact .asked _
      | crashed reason => simp only [hverdict]; exact .failed _ (by simp)
      | linked header bytes => simp only [hverdict]; exact .linked _

theorem took_stepCall (files : FileTree) (id : Nat) (name : String) (s : Shared) (stage : Stage) :
    Took id name s stage (stepCall files id name s stage).1
      (stepCall files id name s stage).2 := by
  cases stage with
  | checkCache =>
    unfold stepCall
    cases hcached : s.forest.cached? id name with
    | some h => exact .answered rfl fun own hown => .inl (by simp_all)
    | none => exact .moved rfl rfl
  | checkAncestors =>
    unfold stepCall
    cases hinherited : s.forest.inherited? id name with
    | some h => exact .answered rfl fun own hown => .inr (by simp_all)
    | none =>
      by_cases hname : isBinaryName name = true
      · simp only [hname, if_true]
        exact .moved rfl rfl
      · simp only [hname]
        exact .answered rfl (by simp)
  | enter => exact took_enterStep id name s
  | waiting ticket =>
    cases hannounced : s.announcement? ticket with
    | some announcement => simp only [stepCall, hannounced]; exact .told hannounced
    | none => simp only [stepCall, hannounced]; exact .still _
  | snapshot ticket => exact .begun
  | scanning ticket asked failure rest =>
    exact took_scanStep files id name ticket asked failure s rest
  | storing ticket h => exact .stored
  | leaving ticket result => exact .left
  | announcing ticket result => exact .announced
  | returned result => exact .still _

namespace Took

variable {id : Nat} {name : String} {s s' : Shared} {before after : Stage} {k : Nat}

theorem of_returned {result : LoadResult} (h : Took id name s (.returned result) after s') :
    after = .returned result := by
  cases h with
  | still => rfl
  | moved hbefore => simp [Stage.starts] at hbefore
  | answered hbefore => simp [Stage.starts] at hbefore

theorem of_waiting (h : Took id name s (.waiting k) after s') :
    after = .waiting k
      ∨ ∃ a, s.announcement? k = some a ∧ after = .returned (.ofAnnouncement a) := by
  cases h with
  | still => exact .inl rfl
  | told ha => exact .inr ⟨_, ha, rfl⟩
  | moved hbefore => simp [Stage.starts] at hbefore
  | answered hbefore => simp [Stage.starts] at hbefore

theorem outcome?_eq {result : LoadResult} (h : Took id name s before after s')
    (hbefore : before.outcome? = some result) : after.outcome? = some result := by
  cases h with
  | still => exact hbefore
  | moved hstarts => cases before <;> simp_all [Stage.starts, Stage.outcome?]
  | answered hstarts => cases before <;> simp_all [Stage.starts, Stage.outcome?]
  | left => exact hbefore
  | announced => exact hbefore
  | _ => simp [Stage.outcome?] at hbefore

/-- What a scan has come to is not changed on the way to the return. -/
theorem ended?_eq {result : LoadResult} (h : Took id name s before after s')
    (hbefore : before.ended? = some result) : after.ended? = some result := by
  cases h with
  | still => exact hbefore
  | moved hstarts => cases before <;> simp_all [Stage.starts, Stage.ended?, Stage.outcome?]
  | answered hstarts => cases before <;> simp_all [Stage.starts, Stage.ended?, Stage.outcome?]
  | stored => exact hbefore
  | left => exact hbefore
  | announced => exact hbefore
  | _ => simp [Stage.ended?, Stage.outcome?] at hbefore

theorem to_waiting (h : Took id name s before (.waiting k) s') :
    before = .waiting k ∨ before = .enter ∧ s.pending? id name = some k := by
  cases h with
  | still => exact .inl rfl
  | joined hpending => exact .inr ⟨rfl, hpending⟩
  | moved _ hafter => simp [Stage.starts] at hafter

end Took

/-! ### Runs -/

/-- One step of a call, by its number, from one stage to another. -/
structure Turn where
  call : Nat
  contextId : Nat
  name : String
  before : Stage
  after : Stage

namespace Machine

/-- The call of this number is to load `name` in the context `id`, and has come to this stage. -/
def At (m : Machine) (i id : Nat) (name : String) (stage : Stage) : Prop :=
  m.calls[i]? = some { contextId := id, name, stage }

/-- Calls to load these names in these contexts, none of which has taken a step. -/
def start (f : Forest) (targets : List (Nat × String)) : Machine :=
  { calls := targets.map fun target => { contextId := target.1, name := target.2 }
    shared := { forest := f } }

/-- The runs from a machine: the log of turns, and the machine that is reached. -/
inductive Runs (m₀ : Machine) : List Turn → Machine → Prop
  | start : Runs m₀ [] m₀
  | turn {log : List Turn} {m : Machine} {i id : Nat} {name : String} {stage : Stage}
      (files : FileTree) :
      Runs m₀ log m → m.At i id name stage →
      Runs m₀ (log ++ [⟨i, id, name, stage, (stepCall files id name m.shared stage).1⟩])
        (m.step files (.step i))
  | addSource {log : List Turn} {m : Machine} (files : FileTree) (id : Nat)
      (source : ClassSource) :
      Runs m₀ log m → Runs m₀ log (m.step files (.addSource id source))
  | addLocation {log : List Turn} {m : Machine} {id : Nat} {raw : String} {forest : Forest} :
      Runs m₀ log m → m.shared.forest.addLocation id raw = .ok forest →
      Runs m₀ log { m with shared := { m.shared with forest } }

/-! ### What a turn and a source change -/

theorem getElem?_set_eq_some_iff {α : Type} {xs : List α} {i j : Nat} {x y z : α}
    (hi : xs[i]? = some x) :
    (xs.set i y)[j]? = some z ↔ j = i ∧ z = y ∨ j ≠ i ∧ xs[j]? = some z := by
  obtain ⟨hlt, -⟩ := List.getElem?_eq_some_iff.mp hi
  by_cases hij : j = i
  · subst hij
    rw [List.getElem?_set_self hlt, Option.some.injEq, eq_comm]
    simp
  · rw [List.getElem?_set_ne (Ne.symm hij)]
    simp [hij]

theorem At.unique {m : Machine} {i id id' : Nat} {name name' : String} {stage stage' : Stage}
    (h : m.At i id name stage) (h' : m.At i id' name' stage') :
    id' = id ∧ name' = name ∧ stage' = stage := by
  unfold At at h h'
  rw [h, Option.some.injEq, Call.mk.injEq] at h'
  obtain ⟨rfl, rfl, rfl⟩ := h'
  exact ⟨rfl, rfl, rfl⟩

theorem stage_of_at_start {f : Forest} {targets : List (Nat × String)} {i id : Nat}
    {name : String} {stage : Stage} (h : (start f targets).At i id name stage) :
    stage = .checkCache := by
  unfold At start at h
  rw [List.getElem?_map, Option.map_eq_some_iff] at h
  obtain ⟨target, -, htarget⟩ := h
  rw [Call.mk.injEq] at htarget
  exact htarget.2.2.symm

/-- A call has come to a stage, and what is shared has changed. -/
def advance (m : Machine) (i id : Nat) (name : String) (stage : Stage) (shared : Shared) :
    Machine :=
  { calls := m.calls.set i { contextId := id, name, stage }, shared }

/-- A context has got one more source. -/
def supply (m : Machine) (id : Nat) (source : ClassSource) : Machine :=
  { m with shared := { m.shared with forest := m.shared.forest.addSource id source } }

theorem step_eq_advance {m : Machine} {i id : Nat} {name : String} {stage : Stage}
    (h : m.At i id name stage) (files : FileTree) :
    m.step files (.step i)
      = m.advance i id name (stepCall files id name m.shared stage).1
          (stepCall files id name m.shared stage).2 := by
  unfold At at h
  simp only [step, h, advance]

theorem at_advance {m : Machine} {i id : Nat} {name : String} {before : Stage}
    (h : m.At i id name before) (after : Stage) (s : Shared) {j id' : Nat} {name' : String}
    {stage : Stage} :
    (m.advance i id name after s).At j id' name' stage
      ↔ j = i ∧ id' = id ∧ name' = name ∧ stage = after ∨ j ≠ i ∧ m.At j id' name' stage := by
  unfold At at h
  unfold At advance
  rw [getElem?_set_eq_some_iff h, Call.mk.injEq]

theorem at_advance_self {m : Machine} {i id : Nat} {name : String} {before : Stage}
    (h : m.At i id name before) (after : Stage) (s : Shared) :
    (m.advance i id name after s).At i id name after :=
  (at_advance h after s).mpr (.inl ⟨rfl, rfl, rfl, rfl⟩)

theorem at_advance_of_ne {m : Machine} {i id : Nat} {name : String} {before : Stage}
    (h : m.At i id name before) (after : Stage) (s : Shared) {j id' : Nat} {name' : String}
    {stage : Stage} (hne : j ≠ i) (hj : m.At j id' name' stage) :
    (m.advance i id name after s).At j id' name' stage :=
  (at_advance h after s).mpr (.inr ⟨hne, hj⟩)

/-- What was so of a call is so after the turn, if the turn keeps it. -/
theorem exists_at_advance {m : Machine} {i id : Nat} {name : String} {before after : Stage}
    (h : m.At i id name before) (s : Shared) {p : Stage → Prop} {j id' : Nat} {name' : String}
    (hp : j = i → p before → p after) (hj : ∃ stage, m.At j id' name' stage ∧ p stage) :
    ∃ stage, (m.advance i id name after s).At j id' name' stage ∧ p stage := by
  obtain ⟨stage, hj, hstage⟩ := hj
  by_cases hij : j = i
  · subst hij
    obtain ⟨rfl, rfl, rfl⟩ := h.unique hj
    exact ⟨after, at_advance_self h after s, hp rfl hstage⟩
  · exact ⟨stage, at_advance_of_ne h after s hij hj, hstage⟩

/-- What is so of a call after the turn was so before, unless the turn has brought it about. -/
theorem exists_at_of_advance {m : Machine} {i id : Nat} {name : String} {before after : Stage}
    (h : m.At i id name before) {s : Shared} {p : Stage → Prop} (hp : p after → p before)
    {j id' : Nat} {name' : String} {stage : Stage}
    (hj : (m.advance i id name after s).At j id' name' stage) (hstage : p stage) :
    ∃ stage, m.At j id' name' stage ∧ p stage := by
  rcases (at_advance h after s).mp hj with ⟨rfl, rfl, rfl, rfl⟩ | ⟨-, hj⟩
  · exact ⟨before, h, hp hstage⟩
  · exact ⟨stage, hj, hstage⟩

/-- What the turns of calls and new sources keep, runs keep. -/
theorem Runs.invariant {m₀ : Machine} {P : List Turn → Machine → Prop} (start : P [] m₀)
    (turn : ∀ {log m i id name before after s}, P log m → m.At i id name before →
      Took id name m.shared before after s →
      P (log ++ [⟨i, id, name, before, after⟩]) (m.advance i id name after s))
    (supply : ∀ {log m id source}, P log m → P log (m.supply id source))
    {log : List Turn} {m : Machine} (hrun : m₀.Runs log m) : P log m := by
  induction hrun with
  | start => exact start
  | turn files _ hat ih =>
    rw [step_eq_advance hat]
    exact turn ih hat (took_stepCall files _ _ _ _)
  | addSource files id source _ ih => exact supply ih
  | @addLocation log m id raw forest _ hforest ih =>
    unfold Forest.addLocation at hforest
    cases hsource : sourceOf raw with
    | error error => simp [hsource, Except.map] at hforest
    | ok source =>
      rw [hsource] at hforest
      cases hforest
      exact supply ih

end Machine

end DriverClasses.Loading
