import DriverClasses.Proofs.ClassFile.Accepted

/-!
# What more bytes can change

A reading looks at no byte behind those that it takes, and it says what is wrong as soon as it has
the bytes that show it.  So bytes that are appended change its answer only where it ran out of bytes
(`Steady`), and a header ends at one place in its file (`steady_read?`): less of the file is
truncated, and more of it is read alike.
-/

namespace DriverClasses.ClassFile

/-! ### Steady readings -/

namespace Cursor

/-- The cursor with more bytes behind those that are left. -/
def extend (c : Cursor) (more : List UInt8) : Cursor := { c with rest := c.rest ++ more }

/-- The offset at which the bytes end. -/
def finish (c : Cursor) : Nat := c.offset + c.rest.length

end Cursor

/-- What is read of a cursor, with more bytes behind it. -/
def extendRest {α : Type} (more : List UInt8) :
    Except Fault (α × Cursor) → Except Fault (α × Cursor) :=
  Except.map fun p => (p.1, p.2.extend more)

/-- A reading that takes bytes off the front and never looks behind them. -/
structure Steady {α : Type} (r : Reading α) : Prop where
  finish_eq : ∀ {c c' : Cursor} {a : α}, r c = .ok (a, c') → c'.finish = c.finish
  extend : ∀ (c : Cursor) (more : List UInt8),
    (∃ offset ≤ c.finish, r c = .error (.truncated offset))
      ∨ r (c.extend more) = extendRest more (r c)

namespace Steady

variable {α β : Type} {r : Reading α}

theorem pure (a : α) : Steady (Pure.pure a : Reading α) where
  finish_eq h := by
    cases h
    rfl
  extend _ _ := .inr rfl

theorem throw (fault : Fault) : Steady (MonadExcept.throw fault : Reading α) where
  finish_eq h := by cases h
  extend _ _ := .inr rfl

theorem bind (hr : Steady r) {k : α → Reading β} (hk : ∀ a, Steady (k a)) : Steady (r >>= k) := by
  have hbind : ∀ c, (r >>= k) c = r c >>= fun p => k p.1 p.2 := fun _ => rfl
  refine ⟨fun {c c' b} h => ?_, fun c more => ?_⟩
  · rw [hbind] at h
    cases hfront : r c with
    | error fault =>
      rw [hfront] at h
      cases h
    | ok p =>
      obtain ⟨a, d⟩ := p
      rw [hfront] at h
      rw [(hk a).finish_eq h, hr.finish_eq hfront]
  · rw [hbind, hbind]
    rcases hr.extend c more with ⟨offset, hle, hshort⟩ | hfront
    · exact .inl ⟨offset, hle, by rw [hshort]; rfl⟩
    · rw [hfront]
      cases hread : r c with
      | error fault => exact .inr rfl
      | ok p =>
        -- The second reading starts where the first one ends, and has the same bytes behind it.
        obtain ⟨a, d⟩ := p
        rcases (hk a).extend d more with ⟨offset, hle, hshort⟩ | hback
        · exact .inl ⟨offset, hr.finish_eq hread ▸ hle, hshort⟩
        · exact .inr hback

theorem map (hr : Steady r) (f : α → β) : Steady (f <$> r) := by
  rw [map_eq_pure_bind]
  exact hr.bind fun a => pure (f a)

theorem lift (x : Except Fault α) : Steady (liftM x : Reading α) := by
  cases x with
  | error fault => exact throw fault
  | ok a => exact pure a

theorem take (n : Nat) : Steady (take n) := by
  refine ⟨fun {c c' field} h => ?_, fun c more => ?_⟩
  · obtain ⟨bytes, -, hrest, hoffset⟩ := (Reads.take n c field c').mp h
    rw [Cursor.finish, Cursor.finish, hrest, hoffset, List.length_append, Nat.add_assoc]
  · unfold ClassFile.take
    rw [splitExactly_eq, splitExactly_eq]
    by_cases hn : n ≤ c.rest.length
    · right
      have hmore : n ≤ (c.extend more).rest.length := by
        rw [Cursor.extend, List.length_append]
        omega
      rw [if_pos hn, if_pos hmore]
      simp [extendRest, Except.map, Cursor.extend, List.take_append_of_le_length hn,
        List.drop_append_of_le_length hn]
    · left
      rw [if_neg hn]
      exact ⟨c.offset, Nat.le_add_right _ _, rfl⟩

theorem number (width : Nat) : Steady (number width) := (take width).map bigEndian

end Steady

/-! ### The readings of a header -/

/-- By induction on the free slots, of which a constant takes one or two. -/
theorem steady_readSlots (free : Nat) (slots : Array Constant) : Steady (readSlots free slots) := by
  induction free using Nat.strong_induction_on generalizing slots with
  | _ free ih =>
  cases free with
  | zero =>
    unfold readSlots
    exact .pure slots
  | succ free =>
    have hleft := ih free (Nat.lt_succ_self free)
    unfold readSlots
    refine (Steady.number 1).bind fun tag => ?_
    split
    · exact .throw _
    · exact (Steady.number 2).bind fun n => (Steady.take n).bind fun bytes => hleft _
    · exact (Steady.number 2).bind fun nameIndex => hleft _
    · exact (Steady.take _).bind fun _ => hleft _
    · refine (Steady.take 8).bind fun _ => ?_
      split
      · exact .throw _
      · exact ih _ (by omega) _

theorem steady_readPool : Steady readPool := by
  unfold readPool
  refine (Steady.number 2).bind fun count => ?_
  split
  · exact .throw _
  · exact (steady_readSlots _ _).bind fun slots => .pure _

theorem steady_readNames (pool : Pool) (count : Nat) : Steady (readNames pool count) := by
  induction count with
  | zero => exact .pure []
  | succ count ih =>
    unfold readNames
    exact (Steady.number 2).bind fun i => (Steady.lift _).bind fun name => ih.bind fun names =>
      .pure _

theorem steady_readHeader : Steady readHeader := by
  unfold readHeader
  refine (Steady.number 4).bind fun found => ?_
  split
  · exact Steady.throw (.badMagic found)
  · simp only [pure_bind]
    refine (Steady.number 2).bind fun minor => (Steady.number 2).bind fun major =>
      steady_readPool.bind fun pool => (Steady.number 2).bind fun access =>
      (Steady.number 2).bind fun thisIndex => (Steady.number 2).bind fun superIndex =>
      (Steady.number 2).bind fun count => (steady_readNames pool count).bind fun interfaces =>
      (Steady.lift _).bind fun name => ?_
    split
    · exact .pure _
    · exact ((Steady.lift _).map some).bind fun superName => .pure _

/-! ### Headers -/

/-- Appended bytes change nothing about a file, unless it is truncated. -/
theorem read?_append_or_truncated (bytes more : List UInt8) :
    Header.read? bytes = Header.read? (bytes ++ more)
      ∨ ∃ offset ≤ bytes.length, Header.read? bytes = .error (.truncated offset) := by
  have hread : ∀ b, Header.read? b = (readHeader ⟨0, b⟩).map (·.1) := fun _ => rfl
  rcases steady_readHeader.extend ⟨0, bytes⟩ more with ⟨offset, hle, hshort⟩ | hmore
  · rw [Cursor.finish, Nat.zero_add] at hle
    exact .inr ⟨offset, hle, by rw [hread, hshort]; rfl⟩
  · have hext : (⟨0, bytes ++ more⟩ : Cursor) = Cursor.extend ⟨0, bytes⟩ more := rfl
    rw [hread, hread, hext, hmore]
    exact .inl (by cases readHeader ⟨0, bytes⟩ <;> rfl)

/-- The header `h` is read of the first `m` bytes of a file: any fewer are truncated, and nothing
that stands behind them matters. -/
structure EndsAt (bytes : List UInt8) (h : Header) (m : Nat) : Prop where
  le_length : m ≤ bytes.length
  truncated : ∀ n < m, ∃ offset ≤ n, Header.read? (bytes.take n) = .error (.truncated offset)
  read : ∀ n, m ≤ n → ∀ more, Header.read? (bytes.take n ++ more) = .ok h

theorem EndsAt.unique {bytes : List UInt8} {h : Header} {m m' : Nat} (hm : EndsAt bytes h m)
    (hm' : EndsAt bytes h m') : m = m' := by
  -- At the smaller of two ends the bytes would be truncated by one and read by the other.
  have hle : ∀ {k k'}, EndsAt bytes h k → EndsAt bytes h k' → k' ≤ k := by
    intro k k' hk hk'
    by_contra hlt
    obtain ⟨offset, -, hshort⟩ := hk'.truncated k (by omega)
    have hread := hk.read k (Nat.le_refl k) []
    rw [List.append_nil, hshort] at hread
    cases hread
  exact Nat.le_antisymm (hle hm' hm) (hle hm hm')

theorem exists_endsAt {bytes : List UInt8} {h : Header} (hread : Header.read? bytes = .ok h) :
    ∃ m, EndsAt bytes h m := by
  obtain ⟨w, trailing, rfl, hw⟩ := exists_written_of_read? hread
  refine ⟨w.bytes.length, ?_, fun n hn => ?_, fun n hn more => ?_⟩
  · rw [List.length_append]
    exact Nat.le_add_right _ _
  · have hlength : ((w.bytes ++ trailing).take n).length ≤ n := List.length_take_le _ _
    rcases read?_append_or_truncated ((w.bytes ++ trailing).take n)
      ((w.bytes ++ trailing).drop n) with hsame | ⟨offset, hle, hshort⟩
    · -- A header has one end, and this one ends behind the bytes that were taken.
      rw [List.take_append_drop, hread] at hsame
      obtain ⟨w', trailing', htake, hw'⟩ := exists_written_of_read? hsame
      have hwhole : w.bytes ++ trailing
          = w'.bytes ++ (trailing' ++ (w.bytes ++ trailing).drop n) := by
        rw [← List.append_assoc, ← htake, List.take_append_drop]
      obtain ⟨-, hrest⟩ := reads_readHeader.unique ⟨w, rfl, hw⟩ ⟨w', rfl, hw'⟩ hwhole
      have hrestLength := congrArg List.length hrest
      rw [List.length_append, List.length_drop, List.length_append] at hrestLength
      omega
    · exact ⟨offset, hle.trans hlength, hshort⟩
  · rw [List.take_append, List.take_of_length_le hn, List.append_assoc]
    exact hw.read? _

/-- Appended bytes change nothing about a file that is not truncated.  So every other answer about
it is final, and a file that is read has one length from which on its header is read. -/
theorem steady_read? :
    (∀ bytes more, Header.read? bytes = Header.read? (bytes ++ more)
        ∨ ∃ offset ≤ bytes.length, Header.read? bytes = .error (.truncated offset))
      ∧ (∀ bytes, (∀ offset, Header.read? bytes ≠ .error (.truncated offset)) →
          ∀ more, Header.read? (bytes ++ more) = Header.read? bytes)
      ∧ ∀ bytes h, Header.read? bytes = .ok h → ∃! m, EndsAt bytes h m := by
  refine ⟨read?_append_or_truncated, fun bytes hfinal more => ?_, fun bytes h hread => ?_⟩
  · rcases read?_append_or_truncated bytes more with hsame | ⟨offset, -, hshort⟩
    · exact hsame.symm
    · exact absurd hshort (hfinal offset)
  · obtain ⟨m, hm⟩ := exists_endsAt hread
    exact ⟨m, hm, fun m' hm' => hm'.unique hm⟩

/-! ### A header with more behind it -/

/-- A class file of the name `A`, with two bytes behind its header. -/
def trailedFile : List UInt8 :=
  [0xCA, 0xFE, 0xBA, 0xBE, 0, 0, 0, 52, 0, 3, 1, 0, 1, 65, 7, 0, 1, 0, 1, 0, 2, 0, 0, 0, 0, 0, 7]

def trailedHeader : Header :=
  { name := "A", superName := none, interfaces := [], major := 52, minor := 0, access := 1 }

theorem read?_trailedFile : Header.read? trailedFile = .ok trailedHeader := by decide +kernel

/-- The header has 25 bytes: what is cut off before them is truncated, and the rest is free. -/
theorem trailedFile_endsAt :
    Header.read? trailedFile = .ok trailedHeader ∧ EndsAt trailedFile trailedHeader 25 := by
  obtain ⟨m, hm, -⟩ := steady_read?.2.2 trailedFile trailedHeader read?_trailedFile
  have hshort : Header.read? (trailedFile.take 24) = .error (.truncated 23) := by decide +kernel
  have hlong : Header.read? (trailedFile.take 25) = .ok trailedHeader := by decide +kernel
  have hlower : 24 < m := by
    by_contra hle
    have hread := hm.read 24 (by omega) []
    rw [List.append_nil, hshort] at hread
    cases hread
  have hupper : m ≤ 25 := by
    by_contra hlt
    obtain ⟨offset, -, hcut⟩ := hm.truncated 25 (by omega)
    rw [hlong] at hcut
    cases hcut
  obtain rfl : m = 25 := by omega
  exact ⟨read?_trailedFile, hm⟩

end DriverClasses.ClassFile
