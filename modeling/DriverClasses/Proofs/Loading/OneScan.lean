import DriverClasses.Proofs.Loading.Answer
import DriverClasses.Proofs.Loading.Held
import DriverClasses.Proofs.Loading.Progress

/-!
# One scan for all callers

The cache of a context is the one of the start with what the turns of the log have put behind it,
each class once (`Inserted`).  In an isolated context, `Held` says besides that whoever looks for a
class on behalf of others has not got it in the cache yet, and whoever is to return a class has it
there.  `Kept` is both.  Together with `Tickets` and `Joins` it says that calls for one class share
one scan (`one_scan_of_runs`).
-/

namespace DriverClasses.Loading

open DriverClasses.ClassFile DriverClasses.Text DriverClasses.Files

/-- What the turn has put into the cache of its context. -/
def Turn.inserted? (t : Turn) : Option (String × LoadedClass) :=
  match t.before, t.after with
  | .storing _ h, .leaving _ _ => some (t.name, h)
  | _, _ => none

/-- What the turns of a log have put into the cache of a context. -/
def insertions (log : List Turn) (id : Nat) : List (String × LoadedClass) :=
  log.filterMap fun t => if t.contextId = id then t.inserted? else none

theorem insertions_append (log more : List Turn) (id : Nat) :
    insertions (log ++ more) id = insertions log id ++ insertions more id :=
  List.filterMap_append

theorem insertions_of_ne {t : Turn} {id : Nat} (h : t.contextId = id → t.inserted? = none) :
    insertions [t] id = [] := by
  unfold insertions
  by_cases hid : t.contextId = id <;> simp [hid, h]

/-- Whoever has put a class into a cache returns it. -/
def Inserters (log : List Turn) (m : Machine) : Prop :=
  ∀ t ∈ log, ∀ e, t.inserted? = some e →
    ∃ stage, m.At t.call t.contextId t.name stage ∧ stage.outcome? = some (.loaded e.2)

theorem Inserters.turn {log : List Turn} {m : Machine} {i id : Nat} {name : String}
    {before after : Stage} (h : Inserters log m) (hat : m.At i id name before) {s : Shared}
    (htook : Took id name m.shared before after s) :
    Inserters (log ++ [⟨i, id, name, before, after⟩]) (m.advance i id name after s) := by
  intro t ht e he
  rw [List.mem_append, List.mem_singleton] at ht
  rcases ht with hold | rfl
  · exact Machine.exists_at_advance hat s (fun _ hbefore => htook.outcome?_eq hbefore)
      (h t hold e he)
  · refine ⟨after, Machine.at_advance_self hat after s, ?_⟩
    cases htook with
    | stored =>
      simp only [Turn.inserted?, Option.some.injEq] at he
      rw [← he]
      rfl
    | still => cases before <;> simp [Turn.inserted?] at he
    | moved hbefore => cases before <;> simp_all [Turn.inserted?, Stage.starts]
    | answered hbefore => cases before <;> simp_all [Turn.inserted?, Stage.starts]
    | _ => simp [Turn.inserted?] at he

theorem inserters_of_runs {m₀ m : Machine} {log : List Turn} (hrun : m₀.Runs log m) :
    Inserters log m :=
  hrun.invariant (P := Inserters) (fun _ h => by simp at h) (fun h hat htook => h.turn hat htook)
    fun h => h

/-- What the turns of the log have put into the cache of a context. -/
structure Inserted (f : Forest) (id : Nat) (log : List Turn) (m : Machine) : Prop where
  cacheOf_eq : m.shared.forest.cacheOf id = f.cacheOf id ++ insertions log id
  nodup : ((insertions log id).map (·.1)).Nodup
  unheld : ∀ e ∈ insertions log id, f.cached? id e.1 = none

namespace Inserted

variable {f : Forest} {id : Nat} {log : List Turn} {m : Machine} {i id' : Nat} {name : String}
  {before after : Stage}

theorem start (f : Forest) (id : Nat) (targets : List (Nat × String)) :
    Inserted f id [] (.start f targets) where
  cacheOf_eq := by simp [Machine.start, insertions]
  nodup := by simp [insertions]
  unheld := by simp [insertions]

/-- A turn that puts nothing into the cache of the context. -/
theorem turn_alike (h : Inserted f id log m) {s : Shared}
    (hcache : s.forest.cacheOf id = m.shared.forest.cacheOf id)
    (hinserted : id' = id → Turn.inserted? ⟨i, id', name, before, after⟩ = none) :
    Inserted f id (log ++ [⟨i, id', name, before, after⟩]) (m.advance i id' name after s) := by
  have hnothing : insertions (log ++ [⟨i, id', name, before, after⟩]) id = insertions log id := by
    rw [insertions_append, insertions_of_ne hinserted, List.append_nil]
  refine ⟨?_, ?_, ?_⟩ <;> rw [hnothing]
  · exact hcache.trans h.cacheOf_eq
  · exact h.nodup
  · exact h.unheld

theorem turn_stored {k : Nat} {own : LoadedClass} (h : Inserted f id log m) (hheld : Held f id m)
    (hat : m.At i id name (.storing k own)) :
    Inserted f id (log ++ [⟨i, id, name, .storing k own, .leaving k (.loaded own)⟩])
      (m.advance i id name (.leaving k (.loaded own))
        { m.shared with forest := m.shared.forest.store id name own }) := by
  have hnew : insertions (log ++ [⟨i, id, name, .storing k own, .leaving k (.loaded own)⟩]) id
      = insertions log id ++ [(name, own)] := by
    rw [insertions_append]
    simp [insertions, Turn.inserted?]
  have hnone := hheld.uncached hat rfl
  rw [Forest.cached?_eq_lookup, h.cacheOf_eq, List.lookup_append, Option.or_eq_none_iff] at hnone
  refine ⟨?_, ?_, fun e he => ?_⟩
  · rw [hnew, ← List.append_assoc, ← h.cacheOf_eq]
    exact Forest.cacheOf_store_self name own hheld.context
  · rw [hnew]
    exact Forest.nodup_names_append h.nodup (Forest.not_mem_names_of_lookup hnone.2) own
  · rw [hnew, List.mem_append, List.mem_singleton] at he
    rcases he with hold | rfl
    · exact h.unheld e hold
    · rw [Forest.cached?_eq_lookup]
      exact hnone.1

theorem turn (h : Inserted f id log m) (hheld : Held f id m) (hat : m.At i id' name before)
    {s : Shared} (htook : Took id' name m.shared before after s) :
    Inserted f id (log ++ [⟨i, id', name, before, after⟩]) (m.advance i id' name after s) := by
  cases htook with
  | @stored k own =>
    by_cases hid : id' = id
    · subst hid
      exact h.turn_stored hheld hat
    · exact h.turn_alike (Forest.cacheOf_store_of_ne _ _ _ (Ne.symm hid))
        fun heq => absurd heq hid
  | still => exact h.turn_alike rfl fun _ => by cases before <;> rfl
  | moved hbefore =>
    exact h.turn_alike rfl fun _ => by cases before <;> simp_all [Turn.inserted?, Stage.starts]
  | answered hbefore =>
    exact h.turn_alike rfl fun _ => by cases before <;> simp_all [Turn.inserted?, Stage.starts]
  | _ => exact h.turn_alike rfl fun _ => rfl

theorem supply (h : Inserted f id log m) (id' : Nat) (source : ClassSource) :
    Inserted f id log (m.supply id' source) :=
  ⟨(Forest.cacheOf_addSource _ _ _ _).trans h.cacheOf_eq, h.nodup, h.unheld⟩

end Inserted

theorem inserted_of_runs {f : Forest} {id : Nat} {c : Context} (hc : f.context? id = some c)
    {targets : List (Nat × String)} {log : List Turn} {m : Machine}
    (hrun : (Machine.start f targets).Runs log m) : Inserted f id log m := by
  have hall : ((Tickets log m ∧ Joins log m) ∧ Held f id m) ∧ Inserted f id log m :=
    hrun.invariant
      (P := fun log m => ((Tickets log m ∧ Joins log m) ∧ Held f id m) ∧ Inserted f id log m)
      ⟨⟨⟨.start f targets, .start f targets⟩, .start hc targets⟩, .start f id targets⟩
      (fun ⟨⟨⟨ht, hj⟩, hheld⟩, hk⟩ hat htook =>
        ⟨⟨⟨ht.turn hat htook, hj.turn ht hat htook⟩, hheld.turn ht hj hat htook⟩,
          hk.turn hheld hat htook⟩)
      fun ⟨⟨⟨ht, hj⟩, hheld⟩, hk⟩ =>
        ⟨⟨⟨ht.supply _ _, hj.supply _ _⟩, hheld.supply _ _⟩, hk.supply _ _⟩
  exact hall.2

structure Kept (f : Forest) (id : Nat) (log : List Turn) (m : Machine) : Prop where
  context : (m.shared.forest.context? id).isSome
  isolated : m.shared.forest.ancestors id = []
  uncached : ∀ {i : Nat} {name : String} {stage : Stage} {k : Nat},
    m.At i id name stage → stage.seeks? = some k → m.shared.forest.cached? id name = none
  cached : ∀ {i : Nat} {name : String} {stage : Stage} {h : LoadedClass},
    m.At i id name stage → stage.outcome? = some (.loaded h) →
      m.shared.forest.cached? id name = some h
  cacheOf_eq : m.shared.forest.cacheOf id = f.cacheOf id ++ insertions log id
  nodup : ((insertions log id).map (·.1)).Nodup
  unheld : ∀ e ∈ insertions log id, f.cached? id e.1 = none

theorem kept_of_runs {f : Forest} {id : Nat} {c : Context} (hc : f.context? id = some c)
    (hisolated : c.ancestors = []) {targets : List (Nat × String)} {log : List Turn} {m : Machine}
    (hrun : (Machine.start f targets).Runs log m) : Kept f id log m := by
  have hheld := held_of_runs hc hrun
  have hinserted := inserted_of_runs hc hrun
  have hline : m.shared.forest.line id = [id] := by
    rw [hheld.line_eq, Forest.line, Forest.ancestors_of_context? hc, hisolated]
  refine ⟨hheld.context, (List.cons.inj hline).2, hheld.uncached, fun hat hown => ?_,
    hinserted.cacheOf_eq, hinserted.nodup, hinserted.unheld⟩
  obtain ⟨a, ha, hcached⟩ := hheld.onLine hat hown
  rw [hline, List.mem_singleton] at ha
  exact ha ▸ hcached

/-- What a call that has joined a load returns when the scan of its leader ends with `result`. -/
def joinedResult (name : String) : LoadResult → LoadResult
  | .loaded h => .loaded h
  | .failed error => .failed error
  | .crashed _ => .failed (.malformedClass name "<in-flight load>" .abandoned)

theorem ofAnnouncement_announcement (name : String) (result : LoadResult) :
    LoadResult.ofAnnouncement (result.announcement name) = joinedResult name result := by
  cases result <;> rfl

/-- What is so of the calls for an isolated context `id` at every point of a run from `f`: `log` are
the turns so far, and `m` is what the run has come to. -/
structure OneScan (f : Forest) (id : Nat) (log : List Turn) (m : Machine) : Prop where
  one_leader : ∀ {i j : Nat} {name : String} {stage stage' : Stage},
    m.At i id name stage → m.At j id name stage' →
      stage.leads?.isSome → stage'.leads?.isSome → i = j
  inserted_once : m.shared.forest.cacheOf id = f.cacheOf id ++ insertions log id
    ∧ ((insertions log id).map (·.1)).Nodup ∧ ∀ e ∈ insertions log id, f.cached? id e.1 = none
  cached_of_ok : ∀ {i : Nat} {name : String} {h : LoadedClass},
    m.At i id name (.returned (.loaded h)) → m.shared.forest.cached? id name = some h
  of_joined : ∀ {i : Nat} {name : String} {k : Nat}, ⟨i, id, name, .enter, .waiting k⟩ ∈ log →
    ∃ j, ⟨j, id, name, .enter, .snapshot k⟩ ∈ log
      ∧ (m.At i id name (.waiting k)
        ∨ ∃ result t, t ∈ log ∧ t.call = j ∧ t.Concludes k result
          ∧ m.At j id name (.returned result)
          ∧ m.At i id name (.returned (joinedResult name result)))
  failed_inserts_nothing : ∀ {i : Nat} {name : String} {stage : Stage} {result : LoadResult},
    m.At i id name stage → stage.outcome? = some result → (∀ h, result ≠ .loaded h) →
      ∀ t ∈ log, t.call = i → t.inserted? = none
  completed_once : ∀ {j : Nat} {name : String} {k : Nat},
    ⟨j, id, name, .enter, .snapshot k⟩ ∈ log → log.countP (·.leads k) = 1
      ∧ ∃ stage, m.At j id name stage
        ∧ (stage.holds? = some k ∧ log.countP (·.completes k) = 0
          ∨ ∃ result, stage = .returned result ∧ log.countP (·.completes k) = 1)
  completed_of_led : ∀ k, log.countP (·.completes k) ≤ log.countP (·.leads k)
  pending_iff : ∀ {name : String} {k : Nat}, m.shared.pending? id name = some k
    ↔ ∃ i stage, m.At i id name stage ∧ stage.leads? = some k

/-- One who has joined a load returns what the scan of its leader has come to. -/
theorem joined_of_runs {f : Forest} {targets : List (Nat × String)} {log : List Turn} {m : Machine}
    (hrun : (Machine.start f targets).Runs log m) {i id : Nat} {name : String} {k : Nat}
    (hjoined : ⟨i, id, name, .enter, .waiting k⟩ ∈ log) :
    ∃ j, ⟨j, id, name, .enter, .snapshot k⟩ ∈ log
      ∧ (m.At i id name (.waiting k)
        ∨ ∃ result t, t ∈ log ∧ t.call = j ∧ t.Concludes k result
          ∧ m.At j id name (.returned result)
          ∧ m.At i id name (.returned (joinedResult name result))) := by
  obtain ⟨htickets, hjoins⟩ := hrun.tickets
  obtain ⟨⟨j, hled⟩, stage, hi, rfl | ⟨a, ha, rfl⟩⟩ := hjoins.of_joined hjoined
  · exact ⟨j, hled, .inl hi⟩
  · obtain ⟨result, hj, rfl⟩ := htickets.of_announcement? hled ha
    rw [ofAnnouncement_announcement] at hi
    obtain ⟨stage, hj', hpursued⟩ := hrun.pursuits j id name k hled
    obtain ⟨-, -, rfl⟩ := hj.unique hj'
    cases hpursued with
    | ended hended hmem hcall hconcludes =>
      simp only [Stage.ended?, Stage.outcome?, Option.some.injEq] at hended
      subst hended
      exact ⟨j, hled, .inr ⟨result, _, hmem, hcall, hconcludes, hj, hi⟩⟩

/-- Calls for one class share one scan, in every run of any number of calls.  At any point of it,
if from then on each call gets a turn in each of enough rounds, all calls return. -/
theorem one_scan_of_runs {f : Forest} {id : Nat} {c : Context} (hc : f.context? id = some c)
    (hisolated : c.ancestors = []) (targets : List (Nat × String)) {log : List Turn} {m : Machine}
    (hrun : (Machine.start f targets).Runs log m) :
    OneScan f id log m
      ∧ ∀ files (rounds : List (List Nat)),
          (∀ round ∈ rounds, ∀ i < m.calls.length, i ∈ round) → m.rank ≤ rounds.length →
            ∀ call ∈ (m.run files (rounds.flatten.map .step)).calls, call.result?.isSome := by
  have htickets := hrun.tickets.1
  have hkept := kept_of_runs hc hisolated hrun
  refine ⟨⟨htickets.eq_of_leads, ⟨hkept.cacheOf_eq, hkept.nodup, hkept.unheld⟩,
    fun hat => hkept.cached hat rfl, joined_of_runs hrun, fun hat hresult hne t ht hcall => ?_,
    htickets.completed_once, htickets.countP_completes_le, htickets.pending_iff id _ _⟩,
    fun files _ hfair hlength => Machine.returned_of_rounds files hrun hfair hlength⟩
  rw [Option.eq_none_iff_forall_not_mem]
  intro e he
  obtain ⟨stage, ht', hloaded⟩ := inserters_of_runs hrun t ht e he
  rw [hcall] at ht'
  obtain ⟨-, -, rfl⟩ := hat.unique ht'
  rw [hresult, Option.some.injEq] at hloaded
  exact hne e.2 hloaded

/-- One call has become the leader of a load of `A`, and a second one waits for it. -/
def leaderAndFollower : Machine :=
  (Machine.start { contexts := [Forest.twoShelves] } [(1, "A"), (1, "A")]).run {}
    ([0, 0, 0, 1, 1, 1].map .step)

theorem leaderAndFollower_one_scan :
    (∃ log, (Machine.start { contexts := [Forest.twoShelves] } [(1, "A"), (1, "A")]).Runs log
        leaderAndFollower ∧ OneScan { contexts := [Forest.twoShelves] } 1 log leaderAndFollower)
      ∧ leaderAndFollower.At 0 1 "A" (.snapshot 0) ∧ leaderAndFollower.At 1 1 "A" (.waiting 0)
      ∧ ∀ call ∈ (leaderAndFollower.run {} ((List.replicate 8 [0, 1]).flatten.map .step)).calls,
          call.result?.isSome := by
  have hcontext : ({ contexts := [Forest.twoShelves] } : Forest).context? 1
      = some Forest.twoShelves := rfl
  have hstart : (Machine.start { contexts := [Forest.twoShelves] } [(1, "A"), (1, "A")]).Runs []
      (Machine.start { contexts := [Forest.twoShelves] } [(1, "A"), (1, "A")]) := .start
  obtain ⟨log, hrun⟩ := hstart.run {} [0, 0, 0, 1, 1, 1]
  obtain ⟨hscan, hreturned⟩ := one_scan_of_runs hcontext rfl _ hrun
  refine ⟨⟨_, hrun, hscan⟩, rfl, rfl, ?_⟩
  refine hreturned {} (List.replicate 8 [0, 1]) (fun round hround i hi => ?_) (by decide)
  rw [List.eq_of_mem_replicate hround]
  have hlt : i < 2 := hi
  rw [List.mem_cons, List.mem_singleton]
  omega

end DriverClasses.Loading
