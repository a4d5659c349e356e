import DriverClasses.ClassFile.Link

/-!
# What links

Bytes link under a name just in case their header can be read and passes the three checks
(`link_eq_ok_iff`): its version is in the range of the policy, its name is the one that was asked
for, and it declares the interface that the policy requires.
-/

namespace DriverClasses.ClassFile

theorem checkVersion_eq_ok_iff {policy : LinkPolicy} {header : Header} :
    checkVersion policy header = .ok ()
      ↔ oldestMajor ≤ header.major ∧ header.major ≤ policy.newestMajor := by
  unfold checkVersion
  split <;> simp_all

theorem checkName_eq_ok_iff {expected : String} {header : Header} :
    checkName expected header = .ok () ↔ header.name = expected := by
  unfold checkName
  split <;> simp_all

theorem checkInterface_eq_ok_iff {policy : LinkPolicy} {header : Header} :
    checkInterface policy header = .ok ()
      ↔ ∀ interface ∈ policy.requiredInterface, interface ∈ header.interfaces := by
  unfold checkInterface
  cases policy.requiredInterface with
  | none => simp
  | some interface =>
    by_cases h : interface ∈ header.interfaces <;> simp [Header.declares, h]

/-- A check that is passed changes nothing about the header. -/
theorem then_eq_ok_iff {check : Except Fault Unit} {rest : Except Fault Header}
    {header : Header} :
    (check >>= fun _ => rest) = .ok header ↔ check = .ok () ∧ rest = .ok header := by
  cases check with
  | error fault => simp [bind, Except.bind]
  | ok u => simp [bind, Except.bind]

theorem then_eq_error_iff {check : Except Fault Unit} {rest : Except Fault Header}
    {fault : Fault} :
    (check >>= fun _ => rest) = .error fault
      ↔ check = .error fault ∨ check = .ok () ∧ rest = .error fault := by
  cases check with
  | error own => simp [bind, Except.bind]
  | ok u => simp [bind, Except.bind]

theorem link_eq_ok_iff {policy : LinkPolicy} {expected : String} {bytes : List UInt8}
    {header : Header} :
    link policy expected bytes = .ok header
      ↔ Header.read? bytes = .ok header
        ∧ (oldestMajor ≤ header.major ∧ header.major ≤ policy.newestMajor)
        ∧ header.name = expected
        ∧ ∀ interface ∈ policy.requiredInterface, interface ∈ header.interfaces := by
  unfold link
  cases Header.read? bytes with
  | error fault => simp [bind, Except.bind]
  | ok read =>
    change (checkVersion policy read >>= fun _ => checkName expected read >>= fun _ =>
      checkInterface policy read >>= fun _ => .ok read) = .ok header ↔ _
    rw [then_eq_ok_iff, then_eq_ok_iff, then_eq_ok_iff, checkVersion_eq_ok_iff,
      checkName_eq_ok_iff, checkInterface_eq_ok_iff, Except.ok.injEq]
    constructor
    · rintro ⟨hversion, hname, hinterface, rfl⟩
      exact ⟨rfl, hversion, hname, hinterface⟩
    · rintro ⟨rfl, hversion, hname, hinterface⟩
      exact ⟨hversion, hname, hinterface, rfl⟩

end DriverClasses.ClassFile
