import DriverClasses.Proofs.ClassFile.Accepted
import DriverClasses.Proofs.Linking

/-!
# The internal name of a class that links

A class file spells the name of its class with slashes, as the entry for the class is named.  The
reader turns slashes into dots before the name is compared with the one that was asked for, and a
dot that is written stays one.  So the name of the entry is what is spelled only up to dots that
stand for slashes (`entryName_of_link`), and a class with a dot in its internal name links under an
entry that it is not spelled like (`link_dottedFile`).
-/

namespace DriverClasses.ClassFile

open DriverClasses.Text

/-! ### Dots and slashes -/

theorem undotted_dotted (s : List Char) : undotted (dotted s) = undotted s := by
  unfold undotted dotted replaceChar
  rw [List.map_map]
  refine List.map_congr_left fun c _ => ?_
  by_cases hslash : c = '/' <;> simp [hslash]

theorem undotted_eq_self_iff {s : List Char} : undotted s = s ↔ '.' ∉ s := by
  unfold undotted replaceChar
  constructor
  · intro h hdot
    rw [← h] at hdot
    obtain ⟨c, -, hc⟩ := List.mem_map.mp hdot
    split at hc
    · exact absurd hc (by decide)
    · contradiction
  · intro hdot
    refine (List.map_congr_left fun c hc => ?_).trans (List.map_id s)
    have hne : c ≠ '.' := fun h => hdot (h ▸ hc)
    rw [if_neg hne, id]

/-! ### What a class file spells -/

/-- The class in a slot has this name as it is written. -/
def Written.Spells (w : Written) (i : Nat) (text : String) : Prop :=
  ∃ (j : Short) (bytes : List UInt8) (short : bytes.length < 256 ^ 2),
    At w.constants i (.classRef j) ∧ At w.constants j (.text bytes short)
      ∧ text = ModifiedUtf8.decode bytes

/-- The bytes begin with a header that gives its class this internal name. -/
def Declares (bytes : List UInt8) (text : String) : Prop :=
  ∃ (w : Written) (trailing : List UInt8),
    bytes = w.bytes ++ trailing ∧ w.Spells w.thisIndex text

/-- The bytes begin with a header that has the name of its class in a text of these bytes. -/
def NamedBy (bytes raw : List UInt8) : Prop :=
  ∃ (w : Written) (trailing : List UInt8) (j : Short) (short : raw.length < 256 ^ 2),
    bytes = w.bytes ++ trailing ∧ At w.constants w.thisIndex (.classRef j)
      ∧ At w.constants j (.text raw short)

theorem declares_iff {bytes : List UInt8} {text : String} :
    Declares bytes text ↔ ∃ raw, NamedBy bytes raw ∧ text = ModifiedUtf8.decode raw := by
  constructor
  · rintro ⟨w, trailing, rfl, j, raw, short, hclass, htext, rfl⟩
    exact ⟨raw, ⟨w, trailing, j, short, rfl, hclass, htext⟩, rfl⟩
  · rintro ⟨raw, ⟨w, trailing, j, short, rfl, hclass, htext⟩, rfl⟩
    exact ⟨w, trailing, rfl, j, raw, short, hclass, htext, rfl⟩

theorem bytesOf_append_inj {width n n' : Nat} (hn : n < 256 ^ width) (hn' : n' < 256 ^ width)
    {rest rest' : List UInt8} (h : bytesOf width n ++ rest = bytesOf width n' ++ rest') :
    n = n' ∧ rest = rest' := by
  obtain ⟨hnumber, hrest⟩ := List.append_inj h (by simp)
  have hvalue := congrArg bigEndian hnumber
  rw [bigEndian_bytesOf hn, bigEndian_bytesOf hn'] at hvalue
  exact ⟨hvalue, hrest⟩

/-- Bytes begin with one pool, and with one index of the class in it. -/
theorem Written.pool_unique {w w' : Written} {trailing trailing' : List UInt8}
    (h : w.bytes ++ trailing = w'.bytes ++ trailing') :
    poolOf w.constants = poolOf w'.constants ∧ w.thisIndex.val = w'.thisIndex.val := by
  simp only [Written.bytes, Written.fields, List.append_assoc] at h
  obtain ⟨-, h⟩ := List.append_inj h rfl
  obtain ⟨-, h⟩ := bytesOf_append_inj w.minor.isLt w'.minor.isLt h
  obtain ⟨-, h⟩ := bytesOf_append_inj w.major.isLt w'.major.isLt h
  rw [← List.append_assoc, ← List.append_assoc (bytesOf 2 (slotCount w'.constants + 1))] at h
  obtain ⟨hpool, h⟩ := reads_readPool.unique ⟨w.constants, w.slots_fit, rfl, rfl⟩
    ⟨w'.constants, w'.slots_fit, rfl, rfl⟩ h
  obtain ⟨-, h⟩ := bytesOf_append_inj w.access.isLt w'.access.isLt h
  obtain ⟨hthis, -⟩ := bytesOf_append_inj w.thisIndex.isLt w'.thisIndex.isLt h
  exact ⟨hpool, hthis⟩

theorem nameBytes_of_at {w : Written} {i : Nat} {j : Short} {raw : List UInt8}
    {short : raw.length < 256 ^ 2} (hclass : At w.constants i (.classRef j))
    (htext : At w.constants j (.text raw short)) :
    (poolOf w.constants).nameBytes i = .ok raw :=
  nameBytes_eq_ok_iff.mpr
    ⟨j, classRef_at_iff.mpr ⟨j, rfl, hclass⟩, text_at_iff.mpr ⟨short, htext⟩⟩

theorem NamedBy.unique {bytes raw raw' : List UInt8} (h : NamedBy bytes raw)
    (h' : NamedBy bytes raw') : raw = raw' := by
  obtain ⟨w, trailing, j, short, rfl, hclass, htext⟩ := h
  obtain ⟨w', trailing', j', short', hbytes, hclass', htext'⟩ := h'
  obtain ⟨hpool, hthis⟩ := Written.pool_unique hbytes
  have hname := nameBytes_of_at hclass htext
  rw [hpool, hthis, nameBytes_of_at hclass' htext', Except.ok.injEq] at hname
  exact hname.symm

theorem Declares.unique {bytes : List UInt8} {text text' : String} (h : Declares bytes text)
    (h' : Declares bytes text') : text = text' := by
  obtain ⟨raw, hraw, rfl⟩ := declares_iff.mp h
  obtain ⟨raw', hraw', rfl⟩ := declares_iff.mp h'
  rw [hraw.unique hraw']

/-! ### What links -/

theorem exists_namedBy_of_read? {bytes : List UInt8} {header : Header}
    (h : Header.read? bytes = .ok header) :
    ∃ raw, NamedBy bytes raw
      ∧ header.name.toList = dotted (ModifiedUtf8.decode raw).toList := by
  obtain ⟨w, trailing, hbytes, hw⟩ := exists_written_of_read? h
  obtain ⟨j, raw, short, hclass, htext, hname⟩ := hw.name
  exact ⟨raw, ⟨w, trailing, j, short, hbytes, hclass, htext⟩, hname⟩

theorem exists_declares_of_link {policy : LinkPolicy} {name : String} {bytes : List UInt8}
    {header : Header} (h : link policy name bytes = .ok header) :
    ∃ text, Declares bytes text ∧ name.toList = dotted text.toList := by
  obtain ⟨hread, -, rfl, -⟩ := link_eq_ok_iff.mp h
  obtain ⟨raw, hraw, hname⟩ := exists_namedBy_of_read? hread
  exact ⟨_, declares_iff.mpr ⟨raw, hraw, rfl⟩, hname⟩

theorem entryName_eq_of_declares {policy : LinkPolicy} {name : String} {bytes : List UInt8}
    {header : Header} (h : link policy name bytes = .ok header) {text : String}
    (hdeclares : Declares bytes text) :
    entryName name = String.ofList (undotted text.toList) ++ ".class" := by
  obtain ⟨own, hown, hdotted⟩ := exists_declares_of_link h
  rw [hown.unique hdeclares] at hdotted
  rw [entryName, hdotted, undotted_dotted, String.ofList_append]
  rfl

/-- A class that links has one internal name, and that is the name of its entry with dots for some
of the slashes.  It is the very name of the entry just in case there is no dot in it.  Two classes
that link under one name differ in their internal names by such dots at most. -/
theorem entryName_of_link {policy : LinkPolicy} {name : String} {bytes : List UInt8}
    {header : Header} (h : link policy name bytes = .ok header) :
    ∃ text, Declares bytes text ∧ (∀ other, Declares bytes other → other = text)
      ∧ entryName name = String.ofList (undotted text.toList) ++ ".class"
      ∧ (text ++ ".class" = entryName name ↔ '.' ∉ text.toList)
      ∧ ∀ policy' bytes' header' text', link policy' name bytes' = .ok header' →
          Declares bytes' text' → undotted text'.toList = undotted text.toList := by
  obtain ⟨text, hdeclares, -⟩ := exists_declares_of_link h
  have hentry := entryName_eq_of_declares h hdeclares
  have hinj : ∀ s t : String, s ++ ".class" = t ++ ".class" ↔ s.toList = t.toList := by
    intro s t
    rw [← String.toList_inj, String.toList_append, String.toList_append,
      List.append_cancel_right_eq]
  refine ⟨text, hdeclares, fun other hother => hother.unique hdeclares, hentry, ?_, ?_⟩
  · rw [hentry, hinj, String.toList_ofList, ← undotted_eq_self_iff, eq_comm]
  · intro policy' bytes' header' text' h' hdeclares'
    have hentry' := entryName_eq_of_declares h' hdeclares'
    rw [hentry, hinj, String.toList_ofList, String.toList_ofList] at hentry'
    exact hentry'.symm

/-! ### A dot that is written -/

/-- A class file whose class has the internal name `a.b`. -/
def dottedFile : Written where
  minor := 0
  major := 52
  constants := [.text [97, 46, 98] (by decide), .classRef 1]
  access := 1
  thisIndex := 2
  superIndex := 0
  interfaces := []
  slots_fit := by decide
  interfaces_fit := by decide

def dottedHeader : Header :=
  { name := "a.b", superName := none, interfaces := [], major := 52, minor := 0, access := 1 }

theorem declares_dottedFile : Declares dottedFile.bytes "a.b" := by
  refine ⟨dottedFile, [], (List.append_nil _).symm, 1, [97, 46, 98], by decide, ?_, ?_, ?_⟩
  · exact ⟨[.text [97, 46, 98] (by decide)], [], rfl, rfl⟩
  · exact ⟨[], [.classRef 1], rfl, rfl⟩
  · decide +kernel

/-- The class links, though its entry is `a/b.class`. -/
theorem link_dottedFile : link {} "a.b" dottedFile.bytes = .ok dottedHeader := by decide +kernel

theorem entryName_of_link_dottedFile :
    link {} "a.b" dottedFile.bytes = .ok dottedHeader
      ∧ ∃ text, Declares dottedFile.bytes text ∧ entryName "a.b" = "a/b.class"
        ∧ text ++ ".class" ≠ entryName "a.b" := by
  obtain ⟨text, hdeclares, hunique, -, hiff, -⟩ := entryName_of_link link_dottedFile
  refine ⟨link_dottedFile, text, hdeclares, by decide +kernel, fun hentry => ?_⟩
  have hdot := hiff.mp hentry
  rw [← hunique "a.b" declares_dottedFile] at hdot
  exact absurd hdot (by decide)

/-- The internal name of a class that links need not be the name of its entry. -/
theorem not_declares_entryName :
    ¬ ∀ (policy : LinkPolicy) (name : String) (bytes : List UInt8) (header : Header)
        (text : String), isBinaryName name = true → link policy name bytes = .ok header →
        Declares bytes text → text ++ ".class" = entryName name := by
  intro hall
  have hentry := hall {} "a.b" dottedFile.bytes dottedHeader "a.b" (by decide +kernel)
    link_dottedFile declares_dottedFile
  exact absurd hentry (by decide +kernel)

end DriverClasses.ClassFile
