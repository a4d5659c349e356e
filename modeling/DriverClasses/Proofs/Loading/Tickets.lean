import DriverClasses.Proofs.Loading.Turns

/-!
# Pending loads

A pending load has a number, its ticket.  `Tickets` relates the pending loads and the
announcements of a machine to the stages of its calls: a load is pending just in case some call
leads it, and there is one such call; a load that some call has led is either held by that call
still, and nothing was announced of it, or the call has returned, and how it ended was announced.
Each ticket is given out once, and something is announced of it once at most.
-/

namespace DriverClasses.Loading

open DriverClasses.ClassFile DriverClasses.Text DriverClasses.Files

/-- A key keeps its entry when those of another key are taken out. -/
theorem lookup_filter_of_ne {α β : Type} [BEq α] [LawfulBEq α] [DecidableEq α]
    {entries : List (α × β)} {key other : α} (h : other ≠ key) :
    (entries.filter fun entry => decide (entry.1 ≠ key)).lookup other = entries.lookup other := by
  induction entries with
  | nil => rfl
  | cons entry entries ih =>
    obtain ⟨here, value⟩ := entry
    by_cases he : here = key
    · subst he
      rw [List.filter_cons_of_neg (by simp), List.lookup_cons, beq_eq_false_iff_ne.mpr h, ih]
    · rw [List.filter_cons_of_pos (by simpa using he), List.lookup_cons, List.lookup_cons, ih]

namespace Shared

theorem pending?_lead (s : Shared) (id : Nat) (name : String) (id' : Nat) (name' : String) :
    (s.lead id name).2.pending? id' name'
      = if id' = id ∧ name' = name then some s.announced.length else s.pending? id' name' := by
  unfold pending? lead
  rw [List.lookup_cons]
  by_cases h : id' = id ∧ name' = name
  · rw [if_pos h, h.1, h.2, beq_self_eq_true]
  · have hkey : ((id', name') == (id, name)) = false := by simpa using h
    rw [if_neg h, hkey]

theorem pending?_leave (s : Shared) (id : Nat) (name : String) (id' : Nat) (name' : String) :
    (s.leave id name).pending? id' name'
      = if id' = id ∧ name' = name then none else s.pending? id' name' := by
  unfold pending? leave
  by_cases h : id' = id ∧ name' = name
  · rw [if_pos h, h.1, h.2, List.lookup_eq_none_iff]
    intro e he
    obtain ⟨-, hne⟩ := List.mem_filter.mp he
    rw [bne_iff_ne]
    exact Ne.symm (of_decide_eq_true hne)
  · rw [if_neg h]
    exact lookup_filter_of_ne (by simpa using h)

theorem announcement?_lead (s : Shared) (id : Nat) (name : String) (k : Nat) :
    (s.lead id name).2.announcement? k = s.announcement? k := by
  unfold announcement? lead
  rw [List.getElem?_append]
  split
  · rfl
  · rename_i hk
    rw [List.getElem?_eq_none (Nat.le_of_not_lt hk)]
    cases k - s.announced.length <;> simp

theorem announcement?_announce (s : Shared) {k : Nat} (hk : k < s.announced.length)
    (a : Announcement) (j : Nat) :
    (s.announce k a).announcement? j = if j = k then some a else s.announcement? j := by
  unfold announcement? announce
  by_cases h : j = k
  · subst h
    rw [if_pos rfl, List.getElem?_set_self hk]
    rfl
  · rw [if_neg h, List.getElem?_set_ne (Ne.symm h)]

theorem lt_of_announcement? {s : Shared} {k : Nat} {a : Announcement}
    (h : s.announcement? k = some a) : k < s.announced.length := by
  unfold announcement? at h
  by_contra hk
  rw [List.getElem?_eq_none (Nat.le_of_not_lt hk)] at h
  simp at h

end Shared

namespace Turn

/-- The call has become the leader of this load. -/
def leads (k : Nat) (t : Turn) : Bool :=
  match t.before, t.after with
  | .enter, .snapshot ticket => ticket == k
  | _, _ => false

/-- The outcome of this load was announced. -/
def completes (k : Nat) (t : Turn) : Bool :=
  match t.before, t.after with
  | .announcing ticket _, .returned _ => ticket == k
  | _, _ => false

theorem leads_of_holds?_eq {t : Turn} (h : t.after.holds? = t.before.holds?) (k : Nat) :
    t.leads k = false := by
  unfold leads
  split
  · rename_i hbefore hafter
    simp [hbefore, hafter, Stage.holds?] at h
  · rfl

theorem completes_of_holds?_eq {t : Turn} (h : t.after.holds? = t.before.holds?) (k : Nat) :
    t.completes k = false := by
  unfold completes
  split
  · rename_i hbefore hafter
    simp [hbefore, hafter, Stage.holds?] at h
  · rfl

end Turn

/-- A call that leads a load still holds it, or has returned and announced how it ended. -/
def Settled (s : Shared) (name : String) (k : Nat) (stage : Stage) : Prop :=
  stage.holds? = some k
    ∨ ∃ result, stage = .returned result ∧ s.announcement? k = some (result.announcement name)

theorem Settled.mono {s s' : Shared} {name : String} {k : Nat} {stage : Stage}
    (h : ∀ a, s.announcement? k = some a → s'.announcement? k = some a)
    (hs : Settled s name k stage) : Settled s' name k stage := by
  rcases hs with hk | ⟨result, hstage, ha⟩
  · exact .inl hk
  · exact .inr ⟨result, hstage, h _ ha⟩

structure Tickets (log : List Turn) (m : Machine) : Prop where
  pending_iff : ∀ id name k, m.shared.pending? id name = some k
    ↔ ∃ i stage, m.At i id name stage ∧ stage.leads? = some k
  eq_of_holds : ∀ {i j id id' : Nat} {name name' : String} {stage stage' : Stage} {k : Nat},
    m.At i id name stage → m.At j id' name' stage' → stage.holds? = some k →
      stage'.holds? = some k → i = j
  of_holds : ∀ {i id : Nat} {name : String} {stage : Stage} {k : Nat},
    m.At i id name stage → stage.holds? = some k →
      ⟨i, id, name, .enter, .snapshot k⟩ ∈ log ∧ k < m.shared.announced.length
        ∧ m.shared.announcement? k = none
  of_led : ∀ {i id : Nat} {name : String} {k : Nat},
    ⟨i, id, name, .enter, .snapshot k⟩ ∈ log →
      ∃ stage, m.At i id name stage ∧ Settled m.shared name k stage
  countP_leads : ∀ k, log.countP (·.leads k) = if k < m.shared.announced.length then 1 else 0
  countP_completes : ∀ k,
    log.countP (·.completes k) = if (m.shared.announcement? k).isSome then 1 else 0

namespace Tickets

variable {log : List Turn} {m : Machine} {i id : Nat} {name : String} {before after : Stage}

theorem start (f : Forest) (targets : List (Nat × String)) : Tickets [] (.start f targets) where
  pending_iff id name k := by
    constructor
    · intro h
      simp [Machine.start, Shared.pending?] at h
    · rintro ⟨i, stage, hat, hleads⟩
      rw [Machine.stage_of_at_start hat] at hleads
      simp [Stage.leads?] at hleads
  eq_of_holds hi _ hk _ := by
    rw [Machine.stage_of_at_start hi] at hk
    simp [Stage.holds?] at hk
  of_holds hat hk := by
    rw [Machine.stage_of_at_start hat] at hk
    simp [Stage.holds?] at hk
  of_led h := by simp at h
  countP_leads k := by simp [Machine.start]
  countP_completes k := by simp [Machine.start, Shared.announcement?]

/-- One class has one leader at a time. -/
theorem eq_of_leads (h : Tickets log m) {i j id : Nat} {name : String} {stage stage' : Stage}
    (hi : m.At i id name stage) (hj : m.At j id name stage') (hk : stage.leads?.isSome)
    (hk' : stage'.leads?.isSome) : i = j := by
  obtain ⟨k, hk⟩ := Option.isSome_iff_exists.mp hk
  obtain ⟨k', hk'⟩ := Option.isSome_iff_exists.mp hk'
  have hpending := (h.pending_iff id name k).mpr ⟨i, stage, hi, hk⟩
  rw [(h.pending_iff id name k').mpr ⟨j, stage', hj, hk'⟩, Option.some.injEq] at hpending
  subst hpending
  exact h.eq_of_holds hi hj (Stage.holds?_of_leads? hk) (Stage.holds?_of_leads? hk')

/-- A leader has returned by the time when something was announced of its load. -/
theorem of_announcement? (h : Tickets log m) {j id : Nat} {name : String} {k : Nat}
    (hled : ⟨j, id, name, .enter, .snapshot k⟩ ∈ log) {a : Announcement}
    (ha : m.shared.announcement? k = some a) :
    ∃ result, m.At j id name (.returned result) ∧ a = result.announcement name := by
  obtain ⟨stage, hj, hk | ⟨result, rfl, hresult⟩⟩ := h.of_led hled
  · rw [(h.of_holds hj hk).2.2] at ha
    exact absurd ha (by simp)
  · rw [ha, Option.some.injEq] at hresult
    exact ⟨result, hj, hresult⟩

/-- A turn in which no load is begun and nothing is announced. -/
theorem turn_held (h : Tickets log m) (hat : m.At i id name before) {s : Shared}
    (hpending : ∀ id' name' k, s.pending? id' name' = some k
      ↔ ∃ j stage, (m.advance i id name after s).At j id' name' stage ∧ stage.leads? = some k)
    (hannounced : s.announced = m.shared.announced) (hholds : after.holds? = before.holds?)
    (hreturned : ∀ result, before = .returned result → after = .returned result) :
    Tickets (log ++ [⟨i, id, name, before, after⟩]) (m.advance i id name after s) := by
  have hsame : ∀ k, s.announcement? k = m.shared.announcement? k := by
    intro k
    unfold Shared.announcement?
    rw [hannounced]
  have hback : ∀ {j id' : Nat} {name' : String} {stage : Stage} {k : Nat},
      (m.advance i id name after s).At j id' name' stage → stage.holds? = some k →
        ∃ stage, m.At j id' name' stage ∧ stage.holds? = some k := fun hj hk =>
    Machine.exists_at_of_advance hat (p := fun stage => stage.holds? = some _)
      (fun hk => hholds.symm.trans hk) hj hk
  refine ⟨hpending, fun hi hj hk hk' => ?_, fun hj hk => ?_, fun {j id' name' k} hled => ?_,
    fun k => ?_, fun k => ?_⟩
  · obtain ⟨_, hi, hk⟩ := hback hi hk
    obtain ⟨_, hj, hk'⟩ := hback hj hk'
    exact h.eq_of_holds hi hj hk hk'
  · obtain ⟨_, hj, hk⟩ := hback hj hk
    obtain ⟨hled, hlt, hnone⟩ := h.of_holds hj hk
    refine ⟨List.mem_append_left _ hled, ?_, (hsame _).trans hnone⟩
    change _ < s.announced.length
    rw [hannounced]
    exact hlt
  · rw [List.mem_append, List.mem_singleton, Turn.mk.injEq] at hled
    rcases hled with hold | ⟨-, -, -, rfl, rfl⟩
    · obtain ⟨stage, hj, hstage⟩ := h.of_led hold
      refine Machine.exists_at_advance hat s (p := Settled s name' k) ?_
        ⟨stage, hj, hstage.mono fun a ha => (hsame k).trans ha⟩
      rintro - (hk | ⟨result, hbefore, ha⟩)
      · exact .inl (hholds.trans hk)
      · exact .inr ⟨result, hreturned result hbefore, ha⟩
    · simp [Stage.holds?] at hholds
  · change _ = if k < s.announced.length then 1 else 0
    rw [List.countP_append, List.countP_singleton, Turn.leads_of_holds?_eq hholds,
      h.countP_leads, hannounced]
    simp
  · change _ = if (s.announcement? k).isSome then 1 else 0
    rw [List.countP_append, List.countP_singleton, Turn.completes_of_holds?_eq hholds,
      h.countP_completes, hsame]
    simp

/-- A turn in which no load is begun or ended either. -/
theorem turn_alike (h : Tickets log m) (hat : m.At i id name before) {s : Shared}
    (hpending : s.inFlight = m.shared.inFlight) (hannounced : s.announced = m.shared.announced)
    (hleads : after.leads? = before.leads?) (hholds : after.holds? = before.holds?)
    (hreturned : ∀ result, before = .returned result → after = .returned result) :
    Tickets (log ++ [⟨i, id, name, before, after⟩]) (m.advance i id name after s) := by
  refine h.turn_held hat (fun id' name' k => ?_) hannounced hholds hreturned
  have hsame : s.pending? id' name' = m.shared.pending? id' name' := by
    unfold Shared.pending?
    rw [hpending]
  rw [hsame, h.pending_iff]
  constructor
  · rintro ⟨j, hj⟩
    exact ⟨j, Machine.exists_at_advance hat s (fun _ hk => hleads.trans hk) hj⟩
  · rintro ⟨j, stage, hj, hk⟩
    exact ⟨j, Machine.exists_at_of_advance hat (p := fun stage => stage.leads? = some k)
      (fun hk => hleads.symm.trans hk) hj hk⟩

theorem turn_left {k : Nat} {result : LoadResult} (h : Tickets log m)
    (hat : m.At i id name (.leaving k result)) :
    Tickets (log ++ [⟨i, id, name, .leaving k result, .announcing k result⟩])
      (m.advance i id name (.announcing k result) (m.shared.leave id name)) := by
  refine h.turn_held hat (fun id' name' k' => ?_) rfl rfl (by simp)
  rw [Shared.pending?_leave]
  constructor
  · intro hpending
    split at hpending
    · simp at hpending
    · rename_i hne
      obtain ⟨j, stage, hj, hk⟩ := (h.pending_iff id' name' k').mp hpending
      refine ⟨j, stage, Machine.at_advance_of_ne hat _ _ ?_ hj, hk⟩
      rintro rfl
      exact hne ⟨(hat.unique hj).1, (hat.unique hj).2.1⟩
  · rintro ⟨j, stage, hafter, hk⟩
    rcases (Machine.at_advance hat _ _).mp hafter with ⟨rfl, rfl, rfl, rfl⟩ | ⟨hne, hj⟩
    · simp [Stage.leads?] at hk
    · rw [if_neg, (h.pending_iff id' name' k').mpr ⟨j, stage, hj, hk⟩]
      rintro ⟨rfl, rfl⟩
      exact hne (h.eq_of_leads hj hat (Option.isSome_of_eq_some hk) rfl)

/-- The new load is pending beside the others. -/
theorem pending_iff_led (h : Tickets log m) (hat : m.At i id name .enter)
    (hnone : m.shared.pending? id name = none) (id' : Nat) (name' : String) (k : Nat) :
    (m.shared.lead id name).2.pending? id' name' = some k
      ↔ ∃ j stage, (m.advance i id name (.snapshot m.shared.announced.length)
          (m.shared.lead id name).2).At j id' name' stage ∧ stage.leads? = some k := by
  rw [Shared.pending?_lead]
  constructor
  · intro hpending
    split at hpending
    · rename_i hkey
      obtain ⟨rfl, rfl⟩ := hkey
      exact ⟨i, _, Machine.at_advance_self hat _ _, hpending⟩
    · obtain ⟨j, hj⟩ := (h.pending_iff id' name' k).mp hpending
      exact ⟨j, Machine.exists_at_advance hat _ (by simp [Stage.leads?]) hj⟩
  · rintro ⟨j, stage, hafter, hk⟩
    rcases (Machine.at_advance hat _ _).mp hafter with ⟨rfl, rfl, rfl, rfl⟩ | ⟨-, hj⟩
    · rw [if_pos ⟨rfl, rfl⟩]
      exact hk
    · -- Another leader of the class would have had its load pending before.
      have hpending := (h.pending_iff id' name' k).mpr ⟨j, stage, hj, hk⟩
      rw [if_neg, hpending]
      rintro ⟨rfl, rfl⟩
      rw [hnone] at hpending
      exact absurd hpending (by simp)

/-- The new ticket is one that no call holds. -/
theorem eq_of_holds_led (h : Tickets log m) (hat : m.At i id name .enter) {s : Shared}
    {j j' id₁ id₂ : Nat} {name₁ name₂ : String} {stage stage' : Stage} {k : Nat}
    (hj : (m.advance i id name (.snapshot m.shared.announced.length) s).At j id₁ name₁ stage)
    (hj' : (m.advance i id name (.snapshot m.shared.announced.length) s).At j' id₂ name₂ stage')
    (hk : stage.holds? = some k) (hk' : stage'.holds? = some k) : j = j' := by
  have hunused : ∀ {j id' name' stage}, m.At j id' name' stage →
      stage.holds? ≠ some m.shared.announced.length := fun hj hk =>
    Nat.lt_irrefl _ (h.of_holds hj hk).2.1
  rcases (Machine.at_advance hat _ _).mp hj with ⟨rfl, -, -, rfl⟩ | ⟨-, hold⟩ <;>
    rcases (Machine.at_advance hat _ _).mp hj' with ⟨rfl, -, -, rfl⟩ | ⟨-, hold'⟩
  · rfl
  · rw [← hk] at hk'
    exact absurd hk' (hunused hold')
  · rw [← hk'] at hk
    exact absurd hk (hunused hold)
  · exact h.eq_of_holds hold hold' hk hk'

theorem turn_led (h : Tickets log m) (hat : m.At i id name .enter)
    (hnone : m.shared.pending? id name = none) :
    Tickets (log ++ [⟨i, id, name, .enter, .snapshot m.shared.announced.length⟩])
      (m.advance i id name (.snapshot m.shared.announced.length) (m.shared.lead id name).2) := by
  have hlength : (m.shared.lead id name).2.announced.length = m.shared.announced.length + 1 := by
    simp [Shared.lead]
  refine ⟨h.pending_iff_led hat hnone, h.eq_of_holds_led hat,
    fun {j id' name' stage k} hafter hk => ?_, fun {j id' name' k} hled => ?_, fun k => ?_,
    fun k => ?_⟩
  · change _ ∧ k < (m.shared.lead id name).2.announced.length
      ∧ (m.shared.lead id name).2.announcement? k = none
    rw [hlength, Shared.announcement?_lead]
    rcases (Machine.at_advance hat _ _).mp hafter with ⟨rfl, rfl, rfl, rfl⟩ | ⟨-, hj⟩
    · simp only [Stage.holds?, Option.some.injEq] at hk
      subst hk
      refine ⟨List.mem_append_right _ (List.mem_singleton.mpr rfl), Nat.lt_succ_self _, ?_⟩
      rw [Option.eq_none_iff_forall_not_mem]
      exact fun a ha => Nat.lt_irrefl _ (Shared.lt_of_announcement? ha)
    · obtain ⟨hled, hlt, ha⟩ := h.of_holds hj hk
      exact ⟨List.mem_append_left _ hled, Nat.lt_succ_of_lt hlt, ha⟩
  · rw [List.mem_append, List.mem_singleton, Turn.mk.injEq] at hled
    rcases hled with hold | ⟨rfl, rfl, rfl, -, hstage⟩
    · obtain ⟨stage, hj, hstage⟩ := h.of_led hold
      refine Machine.exists_at_advance hat _ ?_ ⟨stage, hj, hstage.mono fun a ha => ?_⟩
      · rintro - (hk | ⟨result, hresult, -⟩)
        · simp [Stage.holds?] at hk
        · simp at hresult
      · change (m.shared.lead id name).2.announcement? k = some a
        rw [Shared.announcement?_lead, ha]
    · exact ⟨_, Machine.at_advance_self hat _ _, .inl (hstage ▸ rfl)⟩
  · change _ = if k < (m.shared.lead id name).2.announced.length then 1 else 0
    rw [List.countP_append, List.countP_singleton, h.countP_leads, hlength]
    simp only [Turn.leads, beq_iff_eq]
    -- The new ticket is given out now, and all smaller ones were before.
    split <;> split <;> split <;> omega
  · change _ = if ((m.shared.lead id name).2.announcement? k).isSome then 1 else 0
    rw [List.countP_append, List.countP_singleton, h.countP_completes, Shared.announcement?_lead]
    simp [Turn.completes]

/-- Whoever holds a ticket while another call announces is a third one. -/
theorem holds_of_announced {k : Nat} {result : LoadResult} (h : Tickets log m)
    (hat : m.At i id name (.announcing k result)) {s : Shared} {j id' : Nat} {name' : String}
    {stage : Stage} {k' : Nat}
    (hafter : (m.advance i id name (.returned result) s).At j id' name' stage)
    (hk : stage.holds? = some k') : m.At j id' name' stage ∧ k' ≠ k := by
  rcases (Machine.at_advance hat _ _).mp hafter with ⟨rfl, rfl, rfl, rfl⟩ | ⟨hne, hj⟩
  · simp [Stage.holds?] at hk
  · refine ⟨hj, ?_⟩
    rintro rfl
    exact hne (h.eq_of_holds hj hat hk rfl)

/-- The leader that announces how its load has ended returns, and the others are where they were. -/
theorem settled_announced {k : Nat} {result : LoadResult} (h : Tickets log m)
    (hat : m.At i id name (.announcing k result)) {j id' : Nat} {name' : String} {k' : Nat}
    (hled : ⟨j, id', name', .enter, .snapshot k'⟩ ∈ log) :
    ∃ stage, (m.advance i id name (.returned result)
        (m.shared.announce k (result.announcement name))).At j id' name' stage
      ∧ Settled (m.shared.announce k (result.announcement name)) name' k' stage := by
  obtain ⟨-, hlt, hnone⟩ := h.of_holds hat rfl
  obtain ⟨stage, hj, hstage⟩ := h.of_led hled
  by_cases hij : j = i
  · -- The leader itself: the ticket is the one that it has held so far.
    subst hij
    obtain ⟨rfl, rfl, rfl⟩ := hat.unique hj
    refine ⟨_, Machine.at_advance_self hat _ _, .inr ⟨result, rfl, ?_⟩⟩
    rcases hstage with hk | ⟨result', hresult, -⟩
    · simp only [Stage.holds?, Option.some.injEq] at hk
      rw [Shared.announcement?_announce _ hlt, if_pos hk.symm]
    · simp at hresult
  · refine ⟨stage, Machine.at_advance_of_ne hat _ _ hij hj, hstage.mono fun a ha => ?_⟩
    rw [Shared.announcement?_announce _ hlt, if_neg, ha]
    rintro rfl
    rw [hnone] at ha
    exact absurd ha (by simp)

theorem turn_announced {k : Nat} {result : LoadResult} (h : Tickets log m)
    (hat : m.At i id name (.announcing k result)) :
    Tickets (log ++ [⟨i, id, name, .announcing k result, .returned result⟩])
      (m.advance i id name (.returned result)
        (m.shared.announce k (result.announcement name))) := by
  obtain ⟨-, hlt, hnone⟩ := h.of_holds hat rfl
  have hannounce := Shared.announcement?_announce m.shared hlt (result.announcement name)
  have hlength : (m.shared.announce k (result.announcement name)).announced.length
      = m.shared.announced.length := by
    simp [Shared.announce]
  refine ⟨fun id' name' k' => ?_, fun hj hj' hk hk' => ?_, fun {j id' name' stage k'} hj hk => ?_,
    fun {j id' name' k'} hled => ?_, fun k' => ?_, fun k' => ?_⟩
  · change m.shared.pending? id' name' = some k' ↔ _
    rw [h.pending_iff]
    constructor
    · rintro ⟨j, hj⟩
      exact ⟨j, Machine.exists_at_advance hat _ (by simp [Stage.leads?]) hj⟩
    · rintro ⟨j, stage, hj, hk⟩
      exact ⟨j, stage, (h.holds_of_announced hat hj (Stage.holds?_of_leads? hk)).1, hk⟩
  · obtain ⟨hj, -⟩ := h.holds_of_announced hat hj hk
    obtain ⟨hj', -⟩ := h.holds_of_announced hat hj' hk'
    exact h.eq_of_holds hj hj' hk hk'
  · obtain ⟨hj, hk'⟩ := h.holds_of_announced hat hj hk
    obtain ⟨hled, hlt, ha⟩ := h.of_holds hj hk
    change _ ∧ k' < (m.shared.announce k _).announced.length
      ∧ (m.shared.announce k _).announcement? k' = none
    rw [hlength, hannounce, if_neg hk']
    exact ⟨List.mem_append_left _ hled, hlt, ha⟩
  · rw [List.mem_append, List.mem_singleton, Turn.mk.injEq] at hled
    rcases hled with hold | ⟨-, -, -, hbefore, -⟩
    · exact h.settled_announced hat hold
    · simp at hbefore
  · change _ = if k' < (m.shared.announce k _).announced.length then 1 else 0
    rw [List.countP_append, List.countP_singleton, h.countP_leads, hlength]
    simp [Turn.leads]
  · change _ = if ((m.shared.announce k _).announcement? k').isSome then 1 else 0
    rw [List.countP_append, List.countP_singleton, h.countP_completes, hannounce]
    by_cases hk : k' = k
    · subst hk
      simp [Turn.completes, hnone]
    · simp [Turn.completes, hk, Ne.symm hk]

theorem turn (h : Tickets log m) (hat : m.At i id name before) {s : Shared}
    (htook : Took id name m.shared before after s) :
    Tickets (log ++ [⟨i, id, name, before, after⟩]) (m.advance i id name after s) := by
  cases htook with
  | still => exact h.turn_alike hat rfl rfl rfl rfl fun _ hresult => hresult
  | moved hbefore hafter =>
    refine h.turn_alike hat rfl rfl ?_ ?_ fun result hresult => ?_
    · rw [Stage.leads?_of_starts hbefore, Stage.leads?_of_starts hafter]
    · rw [Stage.holds?_of_starts hbefore, Stage.holds?_of_starts hafter]
    · simp [hresult, Stage.starts] at hbefore
  | answered hbefore =>
    refine h.turn_alike hat rfl rfl ?_ ?_ fun result hresult => ?_
    · rw [Stage.leads?_of_starts hbefore]
      rfl
    · rw [Stage.holds?_of_starts hbefore]
      rfl
    · simp [hresult, Stage.starts] at hbefore
  | joined => exact h.turn_alike hat rfl rfl rfl rfl (by simp)
  | led _ hnone => exact h.turn_led hat hnone
  | told => exact h.turn_alike hat rfl rfl rfl rfl (by simp)
  | begun => exact h.turn_alike hat rfl rfl rfl rfl (by simp)
  | asked => exact h.turn_alike hat rfl rfl rfl rfl (by simp)
  | linked => exact h.turn_alike hat rfl rfl rfl rfl (by simp)
  | failed => exact h.turn_alike hat rfl rfl rfl rfl (by simp)
  | stored => exact h.turn_alike hat rfl rfl rfl rfl (by simp)
  | left => exact h.turn_left hat
  | announced => exact h.turn_announced hat

theorem supply (h : Tickets log m) (id : Nat) (source : ClassSource) :
    Tickets log (m.supply id source) :=
  ⟨h.pending_iff, h.eq_of_holds, h.of_holds, h.of_led, h.countP_leads, h.countP_completes⟩

theorem announcement?_turn (h : Tickets log m) (hat : m.At i id name before) {s : Shared}
    (htook : Took id name m.shared before after s) {k : Nat} {a : Announcement}
    (ha : m.shared.announcement? k = some a) : s.announcement? k = some a := by
  cases htook with
  | led => rw [Shared.announcement?_lead, ha]
  | @announced ticket result =>
    obtain ⟨-, hlt, hnone⟩ := h.of_holds hat rfl
    rw [Shared.announcement?_announce _ hlt, if_neg, ha]
    rintro rfl
    rw [hnone] at ha
    exact absurd ha (by simp)
  | _ => exact ha

theorem countP_completes_le (h : Tickets log m) (k : Nat) :
    log.countP (·.completes k) ≤ log.countP (·.leads k) := by
  rw [h.countP_completes, h.countP_leads]
  cases ha : m.shared.announcement? k with
  | none => simp
  | some a => simp [Shared.lt_of_announcement? ha]

/-- A load has one leader ever, and is completed once, by the time when that leader returns. -/
theorem completed_once (h : Tickets log m) {j id : Nat} {name : String} {k : Nat}
    (hled : ⟨j, id, name, .enter, .snapshot k⟩ ∈ log) :
    log.countP (·.leads k) = 1
      ∧ ∃ stage, m.At j id name stage
        ∧ (stage.holds? = some k ∧ log.countP (·.completes k) = 0
          ∨ ∃ result, stage = .returned result ∧ log.countP (·.completes k) = 1) := by
  rw [h.countP_completes, h.countP_leads]
  obtain ⟨stage, hj, hk | ⟨result, hreturned, ha⟩⟩ := h.of_led hled
  · obtain ⟨-, hlt, hnone⟩ := h.of_holds hj hk
    exact ⟨if_pos hlt, stage, hj, .inl ⟨hk, by simp [hnone]⟩⟩
  · exact ⟨if_pos (Shared.lt_of_announcement? ha), stage, hj,
      .inr ⟨result, hreturned, by simp [ha]⟩⟩

end Tickets

end DriverClasses.Loading
