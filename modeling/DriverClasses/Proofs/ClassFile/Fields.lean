import Mathlib.Algebra.Group.Nat.Defs
import Mathlib.Data.List.Induction
import DriverClasses.ClassFile.Cursor

/-!
# What a reading takes

`Reads r F` says of a reading which bytes it takes off the front, and what it makes of them: it
succeeds just on input that begins with bytes of the form, and leaves what is behind these.  A
sequence of readings takes bytes of the one form and then of the other (`Reads.bind`), so the form
of a whole reading is put together from those of its fields.
-/

namespace DriverClasses.ClassFile

/-! ### Numbers -/

/-- The bytes of a number, most significant first. -/
def bytesOf : (width : Nat) → Nat → List UInt8
  | 0, _ => []
  | width + 1, n => bytesOf width (n / 256) ++ [UInt8.ofNat n]

@[simp] theorem length_bytesOf (width n : Nat) : (bytesOf width n).length = width := by
  induction width generalizing n with
  | zero => rfl
  | succ width ih => simp [bytesOf, ih]

theorem bigEndian_append_singleton (bytes : List UInt8) (b : UInt8) :
    bigEndian (bytes ++ [b]) = bigEndian bytes * 256 + b.toNat := by
  simp [bigEndian]

theorem bigEndian_lt (bytes : List UInt8) : bigEndian bytes < 256 ^ bytes.length := by
  induction bytes using List.reverseRecOn with
  | nil => simp [bigEndian]
  | append_singleton bytes b ih =>
    have hb := b.toNat_lt
    rw [bigEndian_append_singleton, List.length_append, List.length_singleton, pow_succ]
    omega

theorem bigEndian_bytesOf {width n : Nat} (h : n < 256 ^ width) :
    bigEndian (bytesOf width n) = n := by
  induction width generalizing n with
  | zero =>
    rw [pow_zero] at h
    simp [bytesOf, bigEndian, Nat.lt_one_iff.mp h]
  | succ width ih =>
    have hdiv : n / 256 < 256 ^ width := by
      rw [pow_succ, Nat.mul_comm] at h
      exact Nat.div_lt_of_lt_mul h
    rw [bytesOf, bigEndian_append_singleton, ih hdiv, UInt8.toNat_ofNat']
    omega

theorem bytesOf_bigEndian (bytes : List UInt8) :
    bytesOf bytes.length (bigEndian bytes) = bytes := by
  induction bytes using List.reverseRecOn with
  | nil => rfl
  | append_singleton bytes b ih =>
    have hb : b.toNat < 256 := b.toNat_lt
    have hdiv : (bigEndian bytes * 256 + b.toNat) / 256 = bigEndian bytes := by omega
    have hlast : UInt8.ofNat (bigEndian bytes * 256 + b.toNat) = b := by
      rw [← UInt8.toNat_inj, UInt8.toNat_ofNat']
      omega
    rw [bigEndian_append_singleton, List.length_append, List.length_singleton, bytesOf, hdiv, ih,
      hlast]

/-! ### Readings -/

/-- The reading succeeds just on bytes of the form with anything behind them. -/
def Reads {α : Type} (r : Reading α) (F : List UInt8 → α → Prop) : Prop :=
  ∀ (c : Cursor) (a : α) (c' : Cursor), r c = .ok (a, c') ↔
    ∃ bytes, F bytes a ∧ c.rest = bytes ++ c'.rest ∧ c'.offset = c.offset + bytes.length

namespace Reads

variable {α β : Type} {r : Reading α} {F : List UInt8 → α → Prop}

theorem congr (hr : Reads r F) {G : List UInt8 → α → Prop}
    (h : ∀ bytes a, F bytes a ↔ G bytes a) : Reads r G := by
  intro c a c'
  rw [hr]
  simp only [h]

theorem pure (a : α) : Reads (Pure.pure a : Reading α) fun bytes b => bytes = [] ∧ b = a := by
  intro c b c'
  constructor
  · intro h
    have h : (a, c) = (b, c') := Except.ok.inj h
    rw [Prod.mk.injEq] at h
    obtain ⟨rfl, rfl⟩ := h
    exact ⟨[], ⟨rfl, rfl⟩, rfl, rfl⟩
  · rintro ⟨_, ⟨rfl, rfl⟩, hrest, hoffset⟩
    have hc : c' = c := by
      cases c
      cases c'
      simp_all
    rw [hc]
    rfl

theorem throw (fault : Fault) : Reads (MonadExcept.throw fault : Reading α) fun _ _ => False := by
  intro c a c'
  constructor
  · intro h
    exact absurd (show Except.error fault = .ok (a, c') from h) (by simp)
  · rintro ⟨_, h, -, -⟩
    exact h.elim

theorem bind (hr : Reads r F) {k : α → Reading β} {G : α → List UInt8 → β → Prop}
    (hk : ∀ a, Reads (k a) (G a)) :
    Reads (r >>= k) fun bytes b =>
      ∃ a front back, bytes = front ++ back ∧ F front a ∧ G a back b := by
  intro c b c'
  have hbind : (r >>= k) c = r c >>= fun p => k p.1 p.2 := rfl
  rw [hbind]
  constructor
  · intro h
    cases hfront : r c with
    | error fault =>
      rw [hfront] at h
      exact absurd (show Except.error fault = .ok (b, c') from h) (by simp)
    | ok p =>
      obtain ⟨a, d⟩ := p
      rw [hfront] at h
      obtain ⟨front, hfrontForm, hrest, hoffset⟩ := (hr c a d).mp hfront
      obtain ⟨back, hbackForm, hrest', hoffset'⟩ := (hk a d b c').mp h
      refine ⟨front ++ back, ⟨a, front, back, rfl, hfrontForm, hbackForm⟩, ?_, ?_⟩
      · rw [hrest, hrest', List.append_assoc]
      · rw [hoffset', hoffset, List.length_append, Nat.add_assoc]
  · rintro ⟨_, ⟨a, front, back, rfl, hfront, hback⟩, hrest, hoffset⟩
    rw [List.append_assoc] at hrest
    rw [List.length_append] at hoffset
    have hfirst := (hr c a ⟨c.offset + front.length, back ++ c'.rest⟩).mpr
      ⟨front, hfront, hrest, rfl⟩
    rw [hfirst]
    exact (hk a _ b c').mpr ⟨back, hback, rfl, by rw [hoffset, Nat.add_assoc]⟩

theorem map (hr : Reads r F) (f : α → β) :
    Reads (f <$> r) fun bytes b => ∃ a, F bytes a ∧ b = f a := by
  rw [map_eq_pure_bind]
  refine (hr.bind fun a => pure (f a)).congr fun bytes b => ?_
  constructor
  · rintro ⟨a, front, _, rfl, hform, rfl, rfl⟩
    rw [List.append_nil]
    exact ⟨a, hform, rfl⟩
  · rintro ⟨a, hform, rfl⟩
    exact ⟨a, bytes, [], (List.append_nil _).symm, hform, rfl, rfl⟩

/-- What takes nothing, but may fail. -/
theorem lift (x : Except Fault α) :
    Reads (liftM x : Reading α) fun bytes a => bytes = [] ∧ x = .ok a := by
  cases x with
  | error fault =>
    refine (throw fault).congr fun bytes a => ?_
    simp
  | ok b =>
    refine (pure b).congr fun bytes a => ?_
    rw [Except.ok.injEq, eq_comm (a := a)]

/-- Bytes that begin with some of the form do so in one way. -/
theorem unique (hr : Reads r F) {front front' rest rest' : List UInt8} {a a' : α}
    (h : F front a) (h' : F front' a') (heq : front ++ rest = front' ++ rest') :
    a = a' ∧ rest = rest' := by
  have hread := (hr ⟨0, front ++ rest⟩ a ⟨0 + front.length, rest⟩).mpr ⟨front, h, rfl, rfl⟩
  have hread' := (hr ⟨0, front ++ rest⟩ a' ⟨0 + front'.length, rest'⟩).mpr
    ⟨front', h', heq, rfl⟩
  rw [hread, Except.ok.injEq, Prod.mk.injEq, Cursor.mk.injEq] at hread'
  exact ⟨hread'.1, hread'.2.2⟩

/-! ### Fields -/

theorem take (n : Nat) : Reads (take n) fun bytes field => bytes = field ∧ field.length = n := by
  intro c field c'
  unfold ClassFile.take
  rw [splitExactly_eq]
  constructor
  · intro h
    split at h
    · rename_i hsplit
      split at hsplit
      · rename_i hle
        simp only [Option.some.injEq, Prod.mk.injEq, Except.ok.injEq] at hsplit h
        obtain ⟨rfl, rfl⟩ := hsplit
        obtain ⟨rfl, rfl⟩ := h
        have hlength := List.length_take_of_le hle
        exact ⟨_, ⟨rfl, hlength⟩, (List.take_append_drop n c.rest).symm, by rw [hlength]⟩
      · simp at hsplit
    · simp at h
  · rintro ⟨_, ⟨rfl, rfl⟩, hrest, hoffset⟩
    cases c'
    simp_all

theorem number (width : Nat) :
    Reads (number width) fun bytes n => bytes = bytesOf width n ∧ n < 256 ^ width := by
  refine ((take width).map bigEndian).congr fun bytes n => ?_
  constructor
  · rintro ⟨field, ⟨rfl, rfl⟩, rfl⟩
    exact ⟨(bytesOf_bigEndian bytes).symm, bigEndian_lt bytes⟩
  · rintro ⟨rfl, hn⟩
    exact ⟨_, ⟨rfl, length_bytesOf width n⟩, (bigEndian_bytesOf hn).symm⟩

/-- A number, and then whatever it calls for. -/
theorem number_bind {width : Nat} {k : Nat → Reading β} {F : Nat → List UInt8 → β → Prop}
    (hk : ∀ n, Reads (k n) (F n)) :
    Reads (ClassFile.number width >>= k) fun bytes b =>
      ∃ n back, n < 256 ^ width ∧ bytes = bytesOf width n ++ back ∧ F n back b := by
  refine ((number width).bind hk).congr fun bytes b => ?_
  constructor
  · rintro ⟨n, _, back, rfl, ⟨rfl, hn⟩, hback⟩
    exact ⟨n, back, hn, rfl, hback⟩
  · rintro ⟨n, back, hn, rfl, hback⟩
    exact ⟨n, _, back, rfl, ⟨rfl, hn⟩, hback⟩

theorem take_bind {n : Nat} {k : List UInt8 → Reading β}
    {F : List UInt8 → List UInt8 → β → Prop} (hk : ∀ field, Reads (k field) (F field)) :
    Reads (ClassFile.take n >>= k) fun bytes b =>
      ∃ field back, field.length = n ∧ bytes = field ++ back ∧ F field back b := by
  refine ((take n).bind hk).congr fun bytes b => ?_
  constructor
  · rintro ⟨field, _, back, rfl, ⟨rfl, hlength⟩, hback⟩
    exact ⟨_, back, hlength, rfl, hback⟩
  · rintro ⟨field, back, hlength, rfl, hback⟩
    exact ⟨field, field, back, rfl, ⟨rfl, hlength⟩, hback⟩

theorem lift_bind {x : Except Fault α} {k : α → Reading β} {F : α → List UInt8 → β → Prop}
    (hk : ∀ a, Reads (k a) (F a)) :
    Reads ((liftM x : Reading α) >>= k) fun bytes b => ∃ a, x = .ok a ∧ F a bytes b := by
  refine ((lift x).bind hk).congr fun bytes b => ?_
  constructor
  · rintro ⟨a, _, back, rfl, ⟨rfl, hx⟩, hback⟩
    exact ⟨a, hx, hback⟩
  · rintro ⟨a, hx, hform⟩
    exact ⟨a, [], bytes, rfl, ⟨rfl, hx⟩, hform⟩

end Reads

end DriverClasses.ClassFile
