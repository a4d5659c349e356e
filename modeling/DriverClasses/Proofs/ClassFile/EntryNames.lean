import DriverClasses.Proofs.ClassFile.Encoding
import DriverClasses.Proofs.ClassFile.FileNames
import DriverClasses.Proofs.ClassFile.InternalName

/-!
# Classes and their entries

The entry of a binary name is its internal name with `.class` behind it, and the internal name gives
the name back when its slashes are dots again, for there is no slash in a binary name.  So classes
with different names have different entries (`entryName_inj`).  A class file that was compiled for a
name spells the internal name, however it writes the characters, and is read as a class of that name
(`CompiledFor.name_eq`).  The reader itself never objects to a name (`blamesFormat_readHeader`), so
such a file is not refused for its name (`CompiledFor.link_ne_nameMismatch`).
-/

namespace DriverClasses.ClassFile

open DriverClasses.Text

variable {name : String} {bytes raw : List UInt8} {header : Header}

/-! ### Names and entries -/

/-- The name of a class as a class file spells it. -/
def internalName (name : String) : String := String.ofList (undotted name.toList)

theorem entryName_eq (name : String) : entryName name = internalName name ++ ".class" := by
  rw [entryName, internalName, String.ofList_append]
  rfl

theorem dotted_undotted {s : List Char} (h : '/' ∉ s) : dotted (undotted s) = s := by
  unfold dotted undotted replaceChar
  rw [List.map_map]
  refine (List.map_congr_left fun c hc => ?_).trans (List.map_id s)
  have hslash : c ≠ '/' := fun heq => h (heq ▸ hc)
  by_cases hdot : c = '.' <;> simp [hdot, hslash]

theorem dotted_internalName (h : isBinaryName name = true) :
    dotted (internalName name).toList = name.toList := by
  rw [internalName, String.toList_ofList, dotted_undotted (slash_not_mem_of_isBinaryName h)]

theorem entryName_inj {m n : String} (hm : isBinaryName m = true) (hn : isBinaryName n = true) :
    entryName m = entryName n ↔ m = n := by
  refine ⟨fun h => ?_, fun h => h ▸ rfl⟩
  rw [entryName_eq, entryName_eq, ← String.toList_inj, String.toList_append, String.toList_append,
    List.append_cancel_right_eq] at h
  rw [← String.toList_inj, ← dotted_internalName hm, ← dotted_internalName hn, h]

/-- A slash in a name is what could make two names share an entry. -/
example : entryName "a/b" = entryName "a.b" := by decide +kernel

/-! ### Class files of a name -/

/-- The class in a slot has the internal name of this class, in whatever way its characters are
written. -/
def Written.SpellsName (w : Written) (i : Nat) (name : String) : Prop :=
  ∃ (j : Short) (raw : List UInt8) (short : raw.length < 256 ^ 2),
    At w.constants i (.classRef j) ∧ At w.constants j (.text raw short)
      ∧ ModifiedUtf8.Encodes (internalName name).toList raw

/-- The bytes begin with the header of a class of this name. -/
def CompiledFor (name : String) (bytes : List UInt8) : Prop :=
  ∃ (w : Written) (trailing : List UInt8),
    bytes = w.bytes ++ trailing ∧ w.SpellsName w.thisIndex name

/-- The superclass and the interfaces have names. -/
structure Written.Resolves (w : Written) : Prop where
  superName : w.superIndex.val = 0 ∨ ∃ name, w.Names w.superIndex name
  interfaces : ∀ i ∈ w.interfaces, ∃ name, w.Names i name

theorem Written.SpellsName.names {w : Written} {i : Nat} (h : w.SpellsName i name)
    (hname : isBinaryName name = true) : w.Names i name := by
  obtain ⟨j, raw, short, hclass, htext, hencodes⟩ := h
  refine ⟨j, raw, short, hclass, htext, ?_⟩
  rw [hencodes.spells.decode_eq, String.toList_ofList, ← dotted_internalName hname]
  rfl

/-- What bytes begin with names their class, whichever header is read of them. -/
theorem CompiledFor.name_eq (h : CompiledFor name bytes) (hname : isBinaryName name = true)
    (hread : Header.read? bytes = .ok header) : header.name = name := by
  obtain ⟨w, trailing, rfl, j, raw, short, hclass, htext, hencodes⟩ := h
  obtain ⟨raw', hraw', hdotted⟩ := exists_namedBy_of_read? hread
  obtain rfl := hraw'.unique ⟨w, trailing, j, short, rfl, hclass, htext⟩
  rwa [hencodes.spells.decode_eq, String.toList_ofList, dotted_internalName hname,
    String.toList_inj] at hdotted

theorem exists_forall₂ {α β : Type} {R : α → β → Prop} {xs : List α} (h : ∀ x ∈ xs, ∃ y, R x y) :
    ∃ ys, List.Forall₂ R xs ys := by
  induction xs with
  | nil => exact ⟨[], .nil⟩
  | cons x xs ih =>
    obtain ⟨y, hy⟩ := h x List.mem_cons_self
    obtain ⟨ys, hys⟩ := ih fun z hz => h z (List.mem_cons_of_mem x hz)
    exact ⟨y :: ys, .cons hy hys⟩

theorem Written.exists_describes {w : Written} (hthis : w.Names w.thisIndex name)
    (hresolves : w.Resolves) : ∃ header, w.Describes header ∧ header.name = name := by
  obtain ⟨interfaces, hinterfaces⟩ := exists_forall₂ hresolves.interfaces
  have hsuper : ∃ superName, (w.superIndex.val = 0 ∧ superName = none)
      ∨ w.superIndex.val ≠ 0 ∧ ∃ name, superName = some name ∧ w.Names w.superIndex name := by
    by_cases hzero : w.superIndex.val = 0
    · exact ⟨none, .inl ⟨hzero, rfl⟩⟩
    · obtain ⟨text, htext⟩ := hresolves.superName.resolve_left hzero
      exact ⟨some text, .inr ⟨hzero, text, rfl, htext⟩⟩
  obtain ⟨superName, hsuper⟩ := hsuper
  exact ⟨{ name, superName, interfaces, major := w.major, minor := w.minor, access := w.access },
    ⟨rfl, rfl, rfl, hthis, hsuper, hinterfaces⟩, rfl⟩

/-! ### What the reader objects to -/

/-- The fault lies in the bytes alone, whatever class was asked for and under whatever policy. -/
def Fault.OfFormat : Fault → Prop
  | .unsupportedVersion _ _ _ | .nameMismatch _ _ | .missingInterface _ => False
  | _ => True

def BlamesFormat {α : Type} (r : Reading α) : Prop :=
  ∀ (c : Cursor) (fault : Fault), r c = .error fault → fault.OfFormat

namespace BlamesFormat

variable {α β : Type} {r : Reading α}

theorem pure (a : α) : BlamesFormat (Pure.pure a : Reading α) := by
  rintro c fault ⟨⟩

theorem throw {fault : Fault} (h : fault.OfFormat) :
    BlamesFormat (MonadExcept.throw fault : Reading α) := by
  rintro c _ ⟨⟩
  exact h

theorem bind (hr : BlamesFormat r) {k : α → Reading β} (hk : ∀ a, BlamesFormat (k a)) :
    BlamesFormat (r >>= k) := by
  intro c fault h
  have hbind : (r >>= k) c = r c >>= fun p => k p.1 p.2 := rfl
  rw [hbind] at h
  cases hfront : r c with
  | error own =>
    rw [hfront] at h
    cases h
    exact hr c fault hfront
  | ok p =>
    rw [hfront] at h
    exact hk p.1 p.2 fault h

theorem map (hr : BlamesFormat r) (f : α → β) : BlamesFormat (f <$> r) := by
  rw [map_eq_pure_bind]
  exact hr.bind fun a => pure (f a)

theorem lift {x : Except Fault α} (h : ∀ fault, x = .error fault → fault.OfFormat) :
    BlamesFormat (liftM x : Reading α) := by
  cases x with
  | error fault => exact throw (h fault rfl)
  | ok a => exact pure a

theorem take (n : Nat) : BlamesFormat (take n) := by
  intro c fault h
  unfold ClassFile.take at h
  split at h
  · cases h
  · cases h
    trivial

theorem number (width : Nat) : BlamesFormat (number width) := (take width).map bigEndian

end BlamesFormat

theorem blamesFormat_className (pool : Pool) (index : Nat) :
    BlamesFormat (liftM (pool.className index) : Reading String) := by
  refine .lift fun fault h => ?_
  unfold Pool.className Pool.nameBytes at h
  split at h
  · split at h
    · cases h
    · cases h
      trivial
  · cases h
    trivial

/-- By induction on the free slots, of which a constant takes one or two. -/
theorem blamesFormat_readSlots (free : Nat) (slots : Array Constant) :
    BlamesFormat (readSlots free slots) := by
  induction free using Nat.strong_induction_on generalizing slots with
  | _ free ih =>
  cases free with
  | zero =>
    unfold readSlots
    exact .pure slots
  | succ free =>
    have hleft := ih free (Nat.lt_succ_self free)
    unfold readSlots
    refine (BlamesFormat.number 1).bind fun tag => ?_
    split
    · exact .throw trivial
    · exact (BlamesFormat.number 2).bind fun n => (BlamesFormat.take n).bind fun bytes => hleft _
    · exact (BlamesFormat.number 2).bind fun nameIndex => hleft _
    · exact (BlamesFormat.take _).bind fun _ => hleft _
    · refine (BlamesFormat.take 8).bind fun _ => ?_
      split
      · exact .throw trivial
      · exact ih _ (by omega) _

theorem blamesFormat_readPool : BlamesFormat readPool := by
  unfold readPool
  refine (BlamesFormat.number 2).bind fun count => ?_
  split
  · exact .throw trivial
  · exact (blamesFormat_readSlots _ _).bind fun slots => .pure _

theorem blamesFormat_readNames (pool : Pool) (count : Nat) :
    BlamesFormat (readNames pool count) := by
  induction count with
  | zero => exact .pure []
  | succ count ih =>
    unfold readNames
    exact (BlamesFormat.number 2).bind fun i => (blamesFormat_className pool i).bind fun name =>
      ih.bind fun names => .pure _

theorem blamesFormat_readHeader : BlamesFormat readHeader := by
  unfold readHeader
  refine (BlamesFormat.number 4).bind fun found => ?_
  split
  · have hmagic : (Fault.badMagic found).OfFormat := trivial
    exact .throw hmagic
  · simp only [pure_bind]
    refine (BlamesFormat.number 2).bind fun minor => (BlamesFormat.number 2).bind fun major =>
      blamesFormat_readPool.bind fun pool => (BlamesFormat.number 2).bind fun access =>
      (BlamesFormat.number 2).bind fun thisIndex => (BlamesFormat.number 2).bind fun superIndex =>
      (BlamesFormat.number 2).bind fun count =>
      (blamesFormat_readNames pool count).bind fun interfaces =>
      (blamesFormat_className pool thisIndex).bind fun name => ?_
    split
    · exact .pure _
    · exact ((blamesFormat_className pool superIndex).map some).bind fun superName => .pure _

theorem ofFormat_of_read? {fault : Fault} (h : Header.read? bytes = .error fault) :
    fault.OfFormat := by
  have hread : Header.read? bytes = (readHeader ⟨0, bytes⟩).map (·.1) := rfl
  rw [hread] at h
  cases hheader : readHeader ⟨0, bytes⟩ with
  | error own =>
    rw [hheader] at h
    cases h
    exact blamesFormat_readHeader _ fault hheader
  | ok p =>
    rw [hheader] at h
    cases h

/-! ### Linking -/

theorem eq_unsupportedVersion {policy : LinkPolicy} {fault : Fault}
    (h : checkVersion policy header = .error fault) :
    fault = .unsupportedVersion header.major header.minor policy.newestMajor := by
  unfold checkVersion at h
  split at h
  · cases h
  · exact (Except.error.inj h).symm

theorem exists_missingInterface {policy : LinkPolicy} {fault : Fault}
    (h : checkInterface policy header = .error fault) :
    ∃ interface, fault = .missingInterface interface := by
  unfold checkInterface at h
  split at h
  · cases h
  · split at h
    · cases h
    · exact ⟨_, (Except.error.inj h).symm⟩

/-- A class is refused for its name only if the name that is read is another one. -/
theorem exists_read?_of_nameMismatch {policy : LinkPolicy} {expected declared asked : String}
    (h : link policy expected bytes = .error (.nameMismatch declared asked)) :
    ∃ header, Header.read? bytes = .ok header ∧ header.name ≠ expected := by
  unfold link at h
  cases hread : Header.read? bytes with
  | error fault =>
    rw [hread] at h
    cases h
    exact (ofFormat_of_read? hread).elim
  | ok header =>
    rw [hread] at h
    change (checkVersion policy header >>= fun _ => checkName expected header >>= fun _ =>
      checkInterface policy header >>= fun _ => .ok header) = _ at h
    rcases then_eq_error_iff.mp h with hversion | ⟨-, h⟩
    · cases eq_unsupportedVersion hversion
    rcases then_eq_error_iff.mp h with hdenied | ⟨-, h⟩
    · refine ⟨header, rfl, fun hname => ?_⟩
      rw [checkName_eq_ok_iff.mpr hname] at hdenied
      cases hdenied
    rcases then_eq_error_iff.mp h with hinterface | ⟨-, h⟩
    · obtain ⟨_, hfault⟩ := exists_missingInterface hinterface
      cases hfault
    · cases h

theorem CompiledFor.link_ne_nameMismatch (h : CompiledFor name bytes)
    (hname : isBinaryName name = true) (policy : LinkPolicy) (declared asked : String) :
    link policy name bytes ≠ .error (.nameMismatch declared asked) := by
  intro hlink
  obtain ⟨header, hread, hne⟩ := exists_read?_of_nameMismatch hlink
  exact hne (h.name_eq hname hread)

end DriverClasses.ClassFile
