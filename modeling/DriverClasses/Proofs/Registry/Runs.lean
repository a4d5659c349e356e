import DriverClasses.Registry.Lemmas

/-!
# Runs of the driver manager

A run is a list of calls, each of which registers a driver or takes out the one for a class, and its
journal pairs the calls with the replies.  What the manager has then can be read off the journal:
the drivers that were registered and not taken out since, in the order in which they were registered
(`drivers_after`).  No two of them are for one class, so whoever takes a driver out takes out that
one alone, and the place of the others in the order stays what it was (`lawful_after`).
-/

namespace DriverClasses.Registry

open DriverClasses.Loading

namespace Manager

inductive Call where
  | register (driver : Driver)
  | deregister (loaded : LoadedClass)

inductive Reply where
  | registered
  | refused (error : RegistryError)
  | removed (found : Bool)
  deriving DecidableEq, Repr

/-- The reply to a call, and the manager after it. -/
def perform (m : Manager) : Call → Reply × Manager
  | .register driver =>
    match m.register driver with
    | .ok grown => (.registered, grown)
    | .error error => (.refused error, m)
  | .deregister loaded => (.removed (m.deregister loaded).1, (m.deregister loaded).2)

def after (m : Manager) : List Call → Manager
  | [] => m
  | call :: calls => (m.perform call).2.after calls

def journal (m : Manager) : List Call → List (Call × Reply)
  | [] => []
  | call :: calls => (call, (m.perform call).1) :: (m.perform call).2.journal calls

/-- With this entry of a journal the driver has gone. -/
def removes : Call × Reply → Driver → Bool
  | (.deregister loaded, .removed true), driver => driver.loadedClass.serial == loaded.serial
  | _, _ => false

/-- The drivers that were registered and not removed since, in the order of their registration. -/
def standing : List (Call × Reply) → List Driver
  | [] => []
  | (.register driver, .registered) :: later =>
    if later.any (removes · driver) then standing later else driver :: standing later
  | _ :: later => standing later

@[simp] theorem removes_register (driver other : Driver) (reply : Reply) :
    removes (.register driver, reply) other = false := rfl

@[simp] theorem removes_removed (loaded : LoadedClass) (found : Bool) (driver : Driver) :
    removes (.deregister loaded, .removed found) driver
      = (found && driver.loadedClass.serial == loaded.serial) := by
  cases found <;> rfl

@[simp] theorem standing_deregister (loaded : LoadedClass) (reply : Reply)
    (later : List (Call × Reply)) :
    standing ((.deregister loaded, reply) :: later) = standing later := rfl

variable {m : Manager} {driver : Driver} {loaded : LoadedClass} {url : String}

/-! ### One call -/

theorem perform_register_of_none (h : m.forClass? driver.loadedClass = none) :
    m.perform (.register driver) = (.registered, { drivers := m.drivers ++ [driver] }) := by
  simp only [perform, register_of_forClass?_eq_none h]

theorem perform_register_of_some {own : Driver} (h : m.forClass? driver.loadedClass = some own) :
    m.perform (.register driver)
      = (.refused (.alreadyRegistered driver.name driver.loadedClass.contextId), m) := by
  simp only [perform, register, h]

theorem perform_deregister (m : Manager) (loaded : LoadedClass) :
    m.perform (.deregister loaded) = (.removed (m.deregister loaded).1, (m.deregister loaded).2) :=
  rfl

theorem deregister_of_none (h : m.forClass? loaded = none) : m.deregister loaded = (false, m) := by
  have hall := forClass?_eq_none_iff.mp h
  have hkept : m.drivers.filter (·.loadedClass.serial != loaded.serial) = m.drivers :=
    List.filter_eq_self.mpr fun d hd => bne_iff_ne.mpr (hall d hd)
  unfold deregister
  rw [h, hkept]
  rfl

/-- Where no two drivers are for one class, only the one for the class goes. -/
theorem deregister_of_some (hm : (m.drivers.map (·.loadedClass.serial)).Nodup)
    (h : m.forClass? loaded = some driver) :
    ∃ before later, m.drivers = before ++ driver :: later
      ∧ m.deregister loaded = (true, { drivers := before ++ later }) := by
  obtain ⟨hserial, before, later, hsplit, hbefore⟩ := List.find?_eq_some_iff_append.mp h
  have hserial : driver.loadedClass.serial = loaded.serial := by simpa using hserial
  refine ⟨before, later, hsplit, ?_⟩
  rw [hsplit, List.map_append, List.map_cons, List.nodup_append, List.nodup_cons] at hm
  obtain ⟨-, ⟨hlater, -⟩, -⟩ := hm
  have hfront : before.filter (·.loadedClass.serial != loaded.serial) = before :=
    List.filter_eq_self.mpr fun d hd => by simpa using hbefore d hd
  have hback : later.filter (·.loadedClass.serial != loaded.serial) = later :=
    List.filter_eq_self.mpr fun d hd => bne_iff_ne.mpr fun heq =>
      hlater (hserial ▸ heq ▸ List.mem_map_of_mem hd)
  have hgone : (driver.loadedClass.serial != loaded.serial) = false := by simp [hserial]
  unfold deregister
  rw [h, hsplit, List.filter_append, List.filter_cons, hgone, hfront, hback]
  rfl

theorem forUrl_eq_ok_iff :
    m.forUrl url = .ok driver
      ↔ ∃ before later, m.drivers = before ++ driver :: later ∧ driver.accepts url = true
        ∧ ∀ other ∈ before, other.accepts url = false := by
  have hfound : m.forUrl url = .ok driver ↔ m.drivers.find? (·.accepts url) = some driver := by
    unfold forUrl
    cases m.drivers.find? (·.accepts url) <;> simp
  rw [hfound, List.find?_eq_some_iff_append]
  constructor
  · rintro ⟨haccepts, before, later, hsplit, hbefore⟩
    exact ⟨before, later, hsplit, haccepts, fun other hother => by simpa using hbefore other hother⟩
  · rintro ⟨before, later, hsplit, haccepts, hbefore⟩
    exact ⟨haccepts, before, later, hsplit, fun other hother => by simpa using hbefore other hother⟩

theorem forUrl_eq_error_iff {error : RegistryError} :
    m.forUrl url = .error error
      ↔ error = .noSuitableDriver url ∧ ∀ d ∈ m.drivers, d.accepts url = false := by
  have hnone : (∀ d ∈ m.drivers, d.accepts url = false)
      ↔ m.drivers.find? (·.accepts url) = none := by simp
  rw [hnone]
  unfold forUrl
  cases m.drivers.find? (·.accepts url) <;> simp [eq_comm]

/-! ### Runs -/

theorem nodup_perform (hm : (m.drivers.map (·.loadedClass.serial)).Nodup) (call : Call) :
    ((m.perform call).2.drivers.map (·.loadedClass.serial)).Nodup := by
  cases call with
  | register driver =>
    cases h : m.forClass? driver.loadedClass with
    | some own => rwa [perform_register_of_some h]
    | none =>
      rw [perform_register_of_none h, List.map_append, List.map_singleton]
      refine hm.append (List.nodup_singleton _) (List.disjoint_singleton.mpr fun hmem => ?_)
      obtain ⟨d, hd, heq⟩ := List.mem_map.mp hmem
      exact forClass?_eq_none_iff.mp h d hd heq
  | deregister loaded => exact hm.sublist (List.filter_sublist.map _)

theorem nodup_after (hm : (m.drivers.map (·.loadedClass.serial)).Nodup) (calls : List Call) :
    ((m.after calls).drivers.map (·.loadedClass.serial)).Nodup := by
  induction calls generalizing m with
  | nil => exact hm
  | cons call calls ih => exact ih (nodup_perform hm call)

/-- The drivers of before that the journal does not remove are the first ones. -/
theorem drivers_after (m : Manager) (calls : List Call) :
    (m.after calls).drivers
      = m.drivers.filter (fun d => !(m.journal calls).any (removes · d))
        ++ standing (m.journal calls) := by
  induction calls generalizing m with
  | nil => simp [after, journal, standing]
  | cons call calls ih =>
    rw [after, ih, journal]
    cases call with
    | register driver =>
      cases h : m.forClass? driver.loadedClass with
      | some own => simp [perform_register_of_some h, standing]
      | none =>
        rw [perform_register_of_none h, List.filter_append, List.append_assoc, standing]
        simp only [List.any_cons, removes_register, Bool.false_or]
        congr 1
        split <;> rename_i hgone <;> simp [hgone]
    | deregister loaded =>
      cases h : m.forClass? loaded with
      | none => simp [perform_deregister, deregister_of_none h]
      | some own =>
        have hfound : (m.deregister loaded).1 = true := by simp [deregister, h]
        simp only [perform_deregister, hfound, standing_deregister, List.any_cons, removes_removed,
          Bool.true_and, Bool.not_or]
        simp only [deregister, List.filter_filter, bne, Bool.and_comm]

/-! ### The law -/

/-- What the calls do. -/
structure Lawful (m : Manager) : Prop where
  nodup_classes : (m.drivers.map (·.loadedClass.serial)).Nodup
  forClass?_iff : ∀ loaded driver, m.forClass? loaded = some driver
    ↔ driver ∈ m.drivers ∧ driver.loadedClass.serial = loaded.serial
  registers : ∀ driver, m.forClass? driver.loadedClass = none →
    m.perform (.register driver) = (.registered, { drivers := m.drivers ++ [driver] })
  refuses : ∀ driver own, m.forClass? driver.loadedClass = some own →
    m.perform (.register driver)
      = (.refused (.alreadyRegistered driver.name driver.loadedClass.contextId), m)
  removes : ∀ loaded driver, m.forClass? loaded = some driver →
    ∃ before later, m.drivers = before ++ driver :: later
      ∧ m.perform (.deregister loaded) = (.removed true, { drivers := before ++ later })
  misses : ∀ loaded, m.forClass? loaded = none →
    m.perform (.deregister loaded) = (.removed false, m)
  restores : ∀ driver, m.forClass? driver.loadedClass = none →
    m.journal [.register driver, .deregister driver.loadedClass]
        = [(.register driver, .registered), (.deregister driver.loadedClass, .removed true)]
      ∧ m.after [.register driver, .deregister driver.loadedClass] = m
  routes : ∀ url driver, m.forUrl url = .ok driver
    ↔ ∃ before later, m.drivers = before ++ driver :: later ∧ driver.accepts url = true
      ∧ ∀ other ∈ before, other.accepts url = false
  unrouted : ∀ url error, m.forUrl url = .error error
    ↔ error = .noSuitableDriver url ∧ ∀ driver ∈ m.drivers, driver.accepts url = false

/-- A driver that comes and goes leaves the others as they were. -/
theorem deregister_register (h : m.forClass? driver.loadedClass = none) :
    ({ drivers := m.drivers ++ [driver] } : Manager).deregister driver.loadedClass = (true, m) := by
  have hfound : ({ drivers := m.drivers ++ [driver] } : Manager).forClass? driver.loadedClass
      = some driver := forClass?_register (register_of_forClass?_eq_none h)
  have hkept := congrArg (·.2.drivers) (deregister_of_none h)
  dsimp only [deregister] at hkept
  unfold deregister
  rw [hfound, List.filter_append, hkept]
  simp

theorem lawful_of_nodup (hm : (m.drivers.map (·.loadedClass.serial)).Nodup) : m.Lawful where
  nodup_classes := hm
  forClass?_iff loaded driver := by
    refine ⟨mem_of_forClass?, fun ⟨hmem, hserial⟩ => ?_⟩
    rw [← forClass?_of_mem hm hmem]
    unfold forClass?
    rw [hserial]
  registers _ h := perform_register_of_none h
  refuses _ _ h := perform_register_of_some h
  removes loaded driver h := by
    obtain ⟨before, later, hsplit, hgone⟩ := deregister_of_some hm h
    exact ⟨before, later, hsplit, by rw [perform_deregister, hgone]⟩
  misses loaded h := by rw [perform_deregister, deregister_of_none h]
  restores driver h := by
    simp only [journal, after, perform_register_of_none h]
    simp only [perform_deregister, deregister_register h, and_self]
  routes _ _ := forUrl_eq_ok_iff
  unrouted _ _ := forUrl_eq_error_iff

/-- In every state that a run of a new manager leads to, the drivers are those that were registered
and not taken out since, in the order of their registration, and the calls do what they should.  Two
classes may both have a driver whatever their names are, as long as they are not one class. -/
theorem lawful_after (calls : List Call) :
    (after {} calls).drivers = standing (journal {} calls) ∧ (after {} calls).Lawful
      ∧ ∀ driver other : Driver, driver.loadedClass.serial ≠ other.loadedClass.serial →
        (after {} [.register driver, .register other]).drivers = [driver, other] := by
  have hnew : (({} : Manager).drivers.map (·.loadedClass.serial)).Nodup := List.nodup_nil
  refine ⟨?_, lawful_of_nodup (nodup_after hnew calls), fun driver other hne => ?_⟩
  · rw [drivers_after]
    rfl
  · have hfirst : forClass? {} driver.loadedClass = none := rfl
    have hsecond : ({ drivers := [driver] } : Manager).forClass? other.loadedClass = none :=
      forClass?_eq_none_iff.mpr fun d hd => List.mem_singleton.mp hd ▸ hne
    simp only [after, perform_register_of_none hfirst, List.nil_append,
      perform_register_of_none hsecond, List.singleton_append]

end Manager

end DriverClasses.Registry
