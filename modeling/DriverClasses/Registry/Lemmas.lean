import Mathlib.Data.List.Nodup
import DriverClasses.Registry.Manager

/-!
# What the manager keeps

A driver that is registered comes behind the others, and it is the one for its class; one that is
deregistered goes, and nothing else changes.
-/

namespace DriverClasses.Registry

open DriverClasses.Loading

namespace Manager

theorem forClass?_eq_none_iff {m : Manager} {loaded : LoadedClass} :
    m.forClass? loaded = none ↔ ∀ d ∈ m.drivers, d.loadedClass.serial ≠ loaded.serial := by
  simp [forClass?]

theorem mem_of_forClass? {m : Manager} {loaded : LoadedClass} {d : Driver}
    (h : m.forClass? loaded = some d) :
    d ∈ m.drivers ∧ d.loadedClass.serial = loaded.serial :=
  ⟨List.mem_of_find?_eq_some h, by simpa using List.find?_some h⟩

/-- Where no two drivers are for one class, each is the one for its class. -/
theorem forClass?_of_mem {m : Manager} (hm : (m.drivers.map (·.loadedClass.serial)).Nodup)
    {d : Driver} (hd : d ∈ m.drivers) : m.forClass? d.loadedClass = some d := by
  cases hfound : m.forClass? d.loadedClass with
  | none => exact absurd rfl (forClass?_eq_none_iff.mp hfound d hd)
  | some other =>
    obtain ⟨hother, hserial⟩ := mem_of_forClass? hfound
    rw [List.inj_on_of_nodup_map hm hother hd hserial]

theorem register_of_forClass?_eq_none {m : Manager} {d : Driver}
    (h : m.forClass? d.loadedClass = none) :
    m.register d = .ok { drivers := m.drivers ++ [d] } := by
  unfold register
  rw [h]

/-- A driver is registered just in case there is none for its class, and then it is the last one. -/
theorem register_eq_ok_iff {m m' : Manager} {d : Driver} :
    m.register d = .ok m'
      ↔ m.forClass? d.loadedClass = none ∧ m' = { drivers := m.drivers ++ [d] } := by
  cases h : m.forClass? d.loadedClass with
  | none => simp [register, h, eq_comm]
  | some other => simp [register, h]

theorem forClass?_register {m m' : Manager} {d : Driver} (h : m.register d = .ok m') :
    m'.forClass? d.loadedClass = some d := by
  obtain ⟨hnone, rfl⟩ := register_eq_ok_iff.mp h
  unfold forClass? at hnone ⊢
  rw [List.find?_append, hnone]
  simp

theorem forClass?_deregister (m : Manager) (loaded : LoadedClass) :
    (m.deregister loaded).2.forClass? loaded = none := by
  rw [forClass?_eq_none_iff]
  intro d hd
  simpa using (List.mem_filter.mp hd).2

theorem forClass?_deregister_of_ne (m : Manager) {loaded other : LoadedClass}
    (hne : other.serial ≠ loaded.serial) :
    (m.deregister other).2.forClass? loaded = m.forClass? loaded := by
  unfold deregister forClass?
  rw [List.find?_filter]
  congr 1
  funext d
  by_cases h : d.loadedClass.serial = loaded.serial
  · simp [h, Ne.symm hne]
  · simp [h]

end Manager

end DriverClasses.Registry
