import Mathlib.Data.Nat.Init
import Mathlib.Tactic.FinCases
import DriverClasses.Proofs.ClassFile.Format

/-!
# What the reader accepts

The reader accepts the header format, all of it and nothing else (`read?_eq_ok_iff`).
`reads_readSlots` is an induction on the slots that are free: one constant is read, and the rest
fills the slots that it leaves.  The constant in a slot is that which `At` says
(`getElem?_slotsOf_iff`), so that names are looked up as the format has them.
-/

namespace DriverClasses.ClassFile

open DriverClasses.Text

/-! ### The constants and their slots -/

/-- What the reader keeps of a constant. -/
def Entry.slots : Entry → List Constant
  | .text bytes _ => [.text bytes]
  | .classRef nameIndex => [.classRef nameIndex]
  | .other _ _ _ => [.other]
  | .long _ _ _ _ => [.other, .unusable]

def slotsOf (constants : List Entry) : List Constant := constants.flatMap Entry.slots

/-- The pool that is read from constants. -/
def poolOf (constants : List Entry) : Pool := ⟨(.unusable :: slotsOf constants).toArray⟩

@[simp] theorem slotCount_nil : slotCount [] = 0 := rfl

@[simp] theorem slotCount_cons (e : Entry) (constants : List Entry) :
    slotCount (e :: constants) = e.width + slotCount constants := by
  simp [slotCount]

theorem Entry.length_slots (e : Entry) : e.slots.length = e.width := by
  cases e <;> rfl

theorem Entry.width_pos (e : Entry) : 0 < e.width := by
  cases e <;> simp [Entry.width]

theorem layout?_eq_text_iff {tag : Nat} : layout? tag = some .text ↔ tag = 1 := by
  constructor
  · intro h
    unfold layout? at h
    split at h <;> simp at h ⊢
  · rintro rfl
    rfl

theorem layout?_eq_classRef_iff {tag : Nat} : layout? tag = some .classRef ↔ tag = 7 := by
  constructor
  · intro h
    unfold layout? at h
    split at h <;> simp at h ⊢
  · rintro rfl
    rfl

theorem layout?_eq_wide_iff {tag : Nat} : layout? tag = some .wide ↔ tag ∈ [5, 6] := by
  constructor
  · intro h
    unfold layout? at h
    split at h <;> simp at h ⊢
  · intro h
    fin_cases h <;> rfl

theorem layout?_eq_skip_iff {tag size : Nat} :
    layout? tag = some (.skip size) ↔ Passed tag size := by
  constructor
  · intro h
    unfold layout? at h
    split at h <;> simp only [Option.some.injEq, Layout.skip.injEq, reduceCtorEq] at h <;>
      subst h <;> first | exact .two (by decide) | exact .three | exact .four (by decide)
  · intro h
    cases h with
    | two htag => fin_cases htag <;> rfl
    | three => rfl
    | four htag => fin_cases htag <;> rfl

theorem tag_lt {tag : Nat} {l : Layout} (h : layout? tag = some l) : tag < 256 ^ 1 := by
  unfold layout? at h
  split at h <;> first | omega | simp at h

def Entry.layout : Entry → Layout
  | .text _ _ => .text
  | .classRef _ => .classRef
  | .other _ payload _ => .skip payload.length
  | .long _ _ _ _ => .wide

theorem Entry.layout?_tag (e : Entry) : layout? e.tag = some e.layout := by
  cases e with
  | text bytes short => rfl
  | classRef nameIndex => rfl
  | other tag payload passed => exact layout?_eq_skip_iff.mpr passed
  | long tag payload wide eight => exact layout?_eq_wide_iff.mpr wide

/-- A constant that may be referred to is alone in the slots of its entry. -/
theorem Entry.of_getElem?_slots {e : Entry} {c : Constant} {k : Nat} (hother : c ≠ .other)
    (hunusable : c ≠ .unusable) (h : e.slots[k]? = some c) : k = 0 ∧ e.slots = [c] := by
  cases e <;> rcases k with _ | _ | k <;> simp_all [Entry.slots]

/-- Where a constant that may be referred to is in the slots, it is in the file. -/
theorem getElem?_slotsOf_iff {c : Constant} (hother : c ≠ .other) (hunusable : c ≠ .unusable)
    {constants : List Entry} {k : Nat} :
    (slotsOf constants)[k]? = some c
      ↔ ∃ before e after, constants = before ++ e :: after ∧ k = slotCount before
        ∧ e.slots = [c] := by
  constructor
  · intro h
    induction constants generalizing k with
    | nil => simp [slotsOf] at h
    | cons e constants ih =>
      have hslots : slotsOf (e :: constants) = e.slots ++ slotsOf constants := by
        simp [slotsOf]
      rw [hslots] at h
      by_cases hk : k < e.slots.length
      · rw [List.getElem?_append_left hk] at h
        obtain ⟨hzero, he⟩ := Entry.of_getElem?_slots hother hunusable h
        exact ⟨[], e, constants, rfl, hzero, he⟩
      · rw [List.getElem?_append_right (by omega)] at h
        obtain ⟨before, e', after, rfl, hcount, he'⟩ := ih h
        refine ⟨e :: before, e', after, rfl, ?_, he'⟩
        rw [slotCount_cons, ← hcount, ← e.length_slots]
        omega
  · rintro ⟨before, e, after, rfl, rfl, he⟩
    have hcount : slotCount before = (slotsOf before).length := by
      simp [slotsOf, slotCount, List.length_flatMap, Entry.length_slots]
    have hslots : slotsOf (before ++ e :: after) = slotsOf before ++ c :: slotsOf after := by
      simp [slotsOf, he]
    rw [hslots, hcount, List.getElem?_append_right (Nat.le_refl _)]
    simp

/-! ### Reading the constants -/

/-- The bytes are constants that fill the `free` slots behind those that are there. -/
def Fills (free : Nat) (slots : Array Constant) (bytes : List UInt8) (all : Array Constant) :
    Prop :=
  ∃ constants, slotCount constants = free ∧ bytes = constants.flatMap Entry.bytes
    ∧ all = slots ++ (slotsOf constants).toArray

/-- The bytes are the rest of a constant with this tag, and constants that fill the slots that it
leaves free. -/
def FillsBehind (tag free : Nat) (slots : Array Constant) (bytes : List UInt8)
    (all : Array Constant) : Prop :=
  ∃ (e : Entry) (left : Nat) (back : List UInt8), e.tag = tag ∧ free = e.width + left
    ∧ bytes = e.payload ++ back ∧ Fills left (slots ++ e.slots.toArray) back all

theorem fills_zero_iff {slots : Array Constant} {bytes : List UInt8} {all : Array Constant} :
    Fills 0 slots bytes all ↔ bytes = [] ∧ all = slots := by
  constructor
  · rintro ⟨constants, hcount, rfl, rfl⟩
    cases constants with
    | nil => simp [slotsOf]
    | cons e constants =>
      have hpos := e.width_pos
      rw [slotCount_cons] at hcount
      omega
  · rintro ⟨rfl, rfl⟩
    exact ⟨[], rfl, rfl, by simp [slotsOf]⟩

/-- Free slots are filled by a first constant and by others behind it. -/
theorem fills_succ_iff {free : Nat} {slots : Array Constant} {bytes : List UInt8}
    {all : Array Constant} :
    Fills (free + 1) slots bytes all
      ↔ ∃ tag back, tag < 256 ^ 1 ∧ bytes = bytesOf 1 tag ++ back
        ∧ FillsBehind tag (free + 1) slots back all := by
  constructor
  · rintro ⟨constants, hcount, rfl, rfl⟩
    cases constants with
    | nil => simp at hcount
    | cons e constants =>
      rw [slotCount_cons] at hcount
      refine ⟨e.tag, e.payload ++ constants.flatMap Entry.bytes, tag_lt e.layout?_tag, ?_, e, _, _,
        rfl, hcount.symm, rfl, constants, rfl, rfl, ?_⟩
      · rw [List.flatMap_cons, Entry.bytes, List.append_assoc]
      · simp [slotsOf]
  · rintro ⟨_, _, -, rfl, e, _, _, rfl, hcount, rfl, constants, rfl, rfl, rfl⟩
    refine ⟨e :: constants, by rw [slotCount_cons, hcount], ?_, ?_⟩
    · simp [Entry.bytes]
    · simp [slotsOf]

section Behind

variable {tag free : Nat} {slots : Array Constant} {bytes : List UInt8} {all : Array Constant}

theorem fillsBehind_text_iff (htag : layout? tag = some .text) :
    FillsBehind tag (free + 1) slots bytes all
      ↔ ∃ n behind, n < 256 ^ 2 ∧ bytes = bytesOf 2 n ++ behind
        ∧ ∃ field back, field.length = n ∧ behind = field ++ back
          ∧ Fills free (slots.push (.text field)) back all := by
  constructor
  · rintro ⟨e, left, back, rfl, hfree, rfl, hfills⟩
    rw [e.layout?_tag, Option.some.injEq] at htag
    cases e with
    | text field short =>
      obtain rfl : free = left := by
        rw [Entry.width] at hfree
        omega
      refine ⟨field.length, field ++ back, short, ?_, field, back, rfl, rfl, ?_⟩
      · rw [Entry.payload, List.append_assoc]
      · simpa [Entry.slots] using hfills
    | classRef nameIndex => cases htag
    | other tag payload passed => cases htag
    | long tag payload wide eight => cases htag
  · rintro ⟨_, _, short, rfl, field, back, rfl, rfl, hfills⟩
    obtain rfl := layout?_eq_text_iff.mp htag
    refine ⟨.text field short, free, back, rfl, Nat.add_comm _ _, ?_, ?_⟩
    · rw [Entry.payload, List.append_assoc]
    · simpa [Entry.slots] using hfills

theorem fillsBehind_classRef_iff (htag : layout? tag = some .classRef) :
    FillsBehind tag (free + 1) slots bytes all
      ↔ ∃ nameIndex back, nameIndex < 256 ^ 2 ∧ bytes = bytesOf 2 nameIndex ++ back
        ∧ Fills free (slots.push (.classRef nameIndex)) back all := by
  constructor
  · rintro ⟨e, left, back, rfl, hfree, rfl, hfills⟩
    rw [e.layout?_tag, Option.some.injEq] at htag
    cases e with
    | classRef nameIndex =>
      obtain rfl : free = left := by
        rw [Entry.width] at hfree
        omega
      exact ⟨nameIndex, back, nameIndex.isLt, rfl, by simpa [Entry.slots] using hfills⟩
    | text field short => cases htag
    | other tag payload passed => cases htag
    | long tag payload wide eight => cases htag
  · rintro ⟨nameIndex, back, hindex, rfl, hfills⟩
    obtain rfl := layout?_eq_classRef_iff.mp htag
    exact ⟨.classRef ⟨nameIndex, hindex⟩, free, back, rfl, Nat.add_comm _ _, rfl,
      by simpa [Entry.slots] using hfills⟩

theorem fillsBehind_skip_iff {size : Nat} (htag : layout? tag = some (.skip size)) :
    FillsBehind tag (free + 1) slots bytes all
      ↔ ∃ field back, field.length = size ∧ bytes = field ++ back
        ∧ Fills free (slots.push .other) back all := by
  constructor
  · rintro ⟨e, left, back, rfl, hfree, rfl, hfills⟩
    rw [e.layout?_tag, Option.some.injEq] at htag
    cases e with
    | other tag payload passed =>
      obtain rfl : free = left := by
        rw [Entry.width] at hfree
        omega
      rw [Entry.layout, Layout.skip.injEq] at htag
      exact ⟨payload, back, htag, rfl, by simpa [Entry.slots] using hfills⟩
    | text field short => cases htag
    | classRef nameIndex => cases htag
    | long tag payload wide eight => cases htag
  · rintro ⟨field, back, rfl, rfl, hfills⟩
    exact ⟨.other tag field (layout?_eq_skip_iff.mp htag), free, back, rfl, Nat.add_comm _ _, rfl,
      by simpa [Entry.slots] using hfills⟩

theorem push_push_eq (slots : Array Constant) (c d : Constant) :
    (slots.push c).push d = slots ++ [c, d].toArray := by
  simp [← Array.append_singleton, Array.append_assoc]

theorem fillsBehind_wide_iff (htag : layout? tag = some .wide) :
    FillsBehind tag (free + 1) slots bytes all
      ↔ ∃ field behind, field.length = 8 ∧ bytes = field ++ behind
        ∧ ∃ left, free = left + 1
          ∧ Fills left ((slots.push .other).push .unusable) behind all := by
  constructor
  · rintro ⟨e, left, back, rfl, hfree, rfl, hfills⟩
    rw [e.layout?_tag, Option.some.injEq] at htag
    cases e with
    | long tag payload wide eight =>
      have hleft : free = left + 1 := by
        rw [Entry.width] at hfree
        omega
      exact ⟨payload, back, eight, rfl, left, hleft, by rwa [push_push_eq]⟩
    | text field short => cases htag
    | classRef nameIndex => cases htag
    | other tag payload passed => cases htag
  · rintro ⟨field, back, eight, rfl, left, rfl, hfills⟩
    rw [push_push_eq] at hfills
    exact ⟨.long tag field (layout?_eq_wide_iff.mp htag) eight, left, back, rfl,
      by rw [Entry.width]; omega, rfl, hfills⟩

end Behind

theorem reads_readSlots (free : Nat) (slots : Array Constant) :
    Reads (readSlots free slots) (Fills free slots) := by
  induction free using Nat.strong_induction_on generalizing slots with
  | _ free ih =>
  cases free with
  | zero =>
    unfold readSlots
    exact (Reads.pure slots).congr fun bytes all => fills_zero_iff.symm
  | succ free =>
    have hleft := ih free (Nat.lt_succ_self free)
    unfold readSlots
    refine (Reads.number_bind (F := fun tag => FillsBehind tag (free + 1) slots)
      fun tag => ?_).congr fun bytes all => fills_succ_iff.symm
    split
    · rename_i hlayout
      refine (Reads.throw _).congr fun bytes all => ⟨False.elim, ?_⟩
      rintro ⟨e, _, _, rfl, -⟩
      rw [e.layout?_tag] at hlayout
      cases hlayout
    · rename_i hlayout
      exact (Reads.number_bind fun n => Reads.take_bind fun field => hleft _).congr
        fun bytes all => (fillsBehind_text_iff hlayout).symm
    · rename_i hlayout
      exact (Reads.number_bind fun nameIndex => hleft _).congr
        fun bytes all => (fillsBehind_classRef_iff hlayout).symm
    · rename_i size hlayout
      exact (Reads.take_bind fun field => hleft _).congr
        fun bytes all => (fillsBehind_skip_iff hlayout).symm
    · rename_i hlayout
      refine (Reads.take_bind fun field => ?_).congr
        fun bytes all => (fillsBehind_wide_iff hlayout).symm
      split
      · exact (Reads.throw _).congr fun behind all => by simp
      · rename_i left
        exact (ih left (by omega) _).congr fun behind all => by simp

theorem reads_readPool :
    Reads readPool fun bytes pool =>
      ∃ constants, slotCount constants + 1 < 256 ^ 2
        ∧ bytes = bytesOf 2 (slotCount constants + 1) ++ constants.flatMap Entry.bytes
        ∧ pool = poolOf constants := by
  unfold readPool
  refine (Reads.number_bind (F := fun count bytes pool =>
    ∃ constants, slotCount constants + 1 = count ∧ bytes = constants.flatMap Entry.bytes
      ∧ pool = poolOf constants) fun count => ?_).congr fun bytes pool => ⟨?_, ?_⟩
  · split
    · exact (Reads.throw _).congr fun bytes pool => by simp
    · rename_i free
      refine ((reads_readSlots free #[.unusable]).map Pool.mk).congr fun bytes pool => ⟨?_, ?_⟩
      · rintro ⟨_, ⟨constants, rfl, rfl, rfl⟩, rfl⟩
        exact ⟨constants, rfl, rfl, by simp [poolOf]⟩
      · rintro ⟨constants, hfree, rfl, rfl⟩
        exact ⟨_, ⟨constants, Nat.succ.inj hfree, rfl, rfl⟩, by simp [poolOf]⟩
  · rintro ⟨_, _, hfit, rfl, constants, rfl, rfl, rfl⟩
    exact ⟨constants, hfit, rfl, rfl⟩
  · rintro ⟨constants, hfit, rfl, rfl⟩
    exact ⟨_, _, hfit, rfl, constants, rfl, rfl, rfl⟩

/-! ### Reading the names -/

theorem getElem?_poolOf_iff {c : Constant} (hother : c ≠ .other) (hunusable : c ≠ .unusable)
    {constants : List Entry} {i : Nat} :
    (poolOf constants).slots[i]? = some c ↔ ∃ e, At constants i e ∧ e.slots = [c] := by
  have hslots : (poolOf constants).slots[i]? = (.unusable :: slotsOf constants)[i]? := by
    simp [poolOf]
  rw [hslots]
  cases i with
  | zero =>
    constructor
    · intro h
      exact absurd (Option.some.inj h).symm hunusable
    · rintro ⟨e, ⟨before, after, -, hi⟩, -⟩
      omega
  | succ k =>
    rw [List.getElem?_cons_succ, getElem?_slotsOf_iff hother hunusable]
    constructor
    · rintro ⟨before, e, after, hsplit, rfl, he⟩
      exact ⟨e, ⟨before, after, hsplit, rfl⟩, he⟩
    · rintro ⟨e, ⟨before, after, hsplit, hk⟩, he⟩
      exact ⟨before, e, after, hsplit, Nat.succ.inj hk, he⟩

theorem classRef_at_iff {constants : List Entry} {i j : Nat} :
    (poolOf constants).slots[i]? = some (.classRef j)
      ↔ ∃ nameIndex : Short, nameIndex.val = j ∧ At constants i (.classRef nameIndex) := by
  rw [getElem?_poolOf_iff (by simp) (by simp)]
  constructor
  · rintro ⟨e, hat, he⟩
    cases e <;> simp [Entry.slots] at he
    exact ⟨_, he, hat⟩
  · rintro ⟨nameIndex, rfl, hat⟩
    exact ⟨_, hat, rfl⟩

theorem text_at_iff {constants : List Entry} {i : Nat} {bytes : List UInt8} :
    (poolOf constants).slots[i]? = some (.text bytes)
      ↔ ∃ short, At constants i (.text bytes short) := by
  rw [getElem?_poolOf_iff (by simp) (by simp)]
  constructor
  · rintro ⟨e, hat, he⟩
    cases e <;> simp [Entry.slots] at he
    subst he
    exact ⟨_, hat⟩
  · rintro ⟨short, hat⟩
    exact ⟨_, hat, rfl⟩

theorem nameBytes_eq_ok_iff {pool : Pool} {i : Nat} {bytes : List UInt8} :
    pool.nameBytes i = .ok bytes
      ↔ ∃ j, pool.slots[i]? = some (.classRef j) ∧ pool.slots[j]? = some (.text bytes) := by
  unfold Pool.nameBytes
  constructor
  · intro h
    split at h
    · rename_i j hclass
      split at h
      · rename_i own htext
        exact ⟨j, hclass, by rw [htext, Except.ok.inj h]⟩
      · cases h
    · cases h
  · rintro ⟨j, hclass, htext⟩
    simp only [hclass, htext]

/-- Names are looked up as the format has them. -/
theorem className_eq_ok_iff {w : Written} {i : Nat} {name : String} :
    (poolOf w.constants).className i = .ok name ↔ w.Names i name := by
  have hname : ∀ bytes, String.ofList (dotted (ModifiedUtf8.decode bytes).toList) = name
      ↔ name.toList
        = (ModifiedUtf8.decode bytes).toList.map fun c => if c = '/' then '.' else c := by
    intro bytes
    rw [← String.toList_inj, String.toList_ofList, eq_comm]
    rfl
  have hmap : (poolOf w.constants).className i = .ok name
      ↔ ∃ bytes, (poolOf w.constants).nameBytes i = .ok bytes
        ∧ String.ofList (dotted (ModifiedUtf8.decode bytes).toList) = name := by
    unfold Pool.className
    cases (poolOf w.constants).nameBytes i <;> simp [Except.map]
  rw [hmap]
  constructor
  · rintro ⟨bytes, hbytes, heq⟩
    obtain ⟨_, hclass, htext⟩ := nameBytes_eq_ok_iff.mp hbytes
    obtain ⟨j, rfl, hclassAt⟩ := classRef_at_iff.mp hclass
    obtain ⟨short, htextAt⟩ := text_at_iff.mp htext
    exact ⟨j, bytes, short, hclassAt, htextAt, (hname bytes).mp heq⟩
  · rintro ⟨j, bytes, short, hclass, htext, heq⟩
    exact ⟨bytes, nameBytes_eq_ok_iff.mpr ⟨j, classRef_at_iff.mpr ⟨j, rfl, hclass⟩,
      text_at_iff.mpr ⟨short, htext⟩⟩, (hname bytes).mpr heq⟩

theorem reads_readNames (pool : Pool) (count : Nat) :
    Reads (readNames pool count) fun bytes names =>
      ∃ indices : List Short, indices.length = count
        ∧ bytes = indices.flatMap (fun (i : Short) => bytesOf 2 i)
        ∧ List.Forall₂ (fun (i : Short) name => pool.className i = .ok name) indices names := by
  induction count with
  | zero =>
    refine (Reads.pure []).congr fun bytes names => ⟨?_, ?_⟩
    · rintro ⟨rfl, rfl⟩
      exact ⟨[], rfl, rfl, .nil⟩
    · rintro ⟨indices, hlength, rfl, hnames⟩
      obtain rfl := List.eq_nil_of_length_eq_zero hlength
      cases hnames
      exact ⟨rfl, rfl⟩
  | succ count ih =>
    unfold readNames
    refine (Reads.number_bind fun i => Reads.lift_bind fun name => ih.map _).congr
      fun bytes names => ⟨?_, ?_⟩
    · rintro ⟨i, _, hi, rfl, name, hname, names, ⟨indices, rfl, rfl, hnames⟩, rfl⟩
      exact ⟨⟨i, hi⟩ :: indices, rfl, by simp, .cons hname hnames⟩
    · rintro ⟨indices, hlength, rfl, hnames⟩
      cases hnames with
      | nil => simp at hlength
      | @cons i name indices names hname hnames =>
        exact ⟨i, _, i.isLt, by simp, name, hname, names,
          ⟨indices, Nat.succ.inj hlength, rfl, hnames⟩, rfl⟩

theorem reads_superName (pool : Pool) (index : Nat) (k : Option String → Header) :
    Reads (if index = 0 then pure (k none) else do
        let name ← some <$> (liftM (pool.className index) : Reading String)
        pure (k name)) fun bytes h =>
      bytes = [] ∧ ∃ name, h = k name ∧ (index = 0 ∧ name = none
        ∨ index ≠ 0 ∧ ∃ text, name = some text ∧ pool.className index = .ok text) := by
  split
  · rename_i hzero
    exact (Reads.pure (k none)).congr fun bytes h => by simp [hzero]
  · rename_i hne
    refine (((Reads.lift (pool.className index)).map some).bind fun name => Reads.pure _).congr
      fun bytes h => ⟨?_, ?_⟩
    · rintro ⟨name, _, _, rfl, ⟨text, ⟨rfl, htext⟩, rfl⟩, rfl, rfl⟩
      exact ⟨rfl, _, rfl, .inr ⟨hne, text, rfl, htext⟩⟩
    · rintro ⟨rfl, name, rfl, ⟨hzero, -⟩ | ⟨-, text, rfl, htext⟩⟩
      · exact absurd hzero hne
      · exact ⟨_, [], [], rfl, ⟨text, ⟨rfl, htext⟩, rfl⟩, rfl, rfl⟩

theorem reads_readHeader :
    Reads readHeader fun bytes h => ∃ w : Written, bytes = w.bytes ∧ w.Describes h := by
  unfold readHeader
  refine (Reads.number_bind (F := fun found bytes h =>
    found = magic ∧ ∃ w : Written, bytes = w.fields ∧ w.Describes h) fun found => ?_).congr
      fun bytes h => ⟨?_, ?_⟩
  · split
    · rename_i hne
      exact Reads.congr (Reads.throw (.badMagic found)) fun bytes h => by simp [hne]
    · rename_i hmagic
      rw [ne_eq, not_not] at hmagic
      simp only [pure_bind]
      refine (Reads.number_bind fun minor => Reads.number_bind fun major =>
        reads_readPool.bind fun pool => Reads.number_bind fun access =>
        Reads.number_bind fun thisIndex => Reads.number_bind fun superIndex =>
        Reads.number_bind fun count => (reads_readNames pool count).bind fun interfaces =>
        Reads.lift_bind fun name => reads_superName pool superIndex fun superName =>
          { name, superName, interfaces, major, minor, access }).congr fun bytes h => ⟨?_, ?_⟩
      · rintro ⟨minor, _, hminor, rfl, major, _, hmajor, rfl, _, _, _, rfl,
          ⟨constants, hslots, rfl, rfl⟩, access, _, haccess, rfl, thisIndex, _, hthis, rfl,
          superIndex, _, hsuper, rfl, _, _, hcount, rfl, names, _, _, rfl,
          ⟨interfaces, rfl, rfl, hnames⟩, name, hname, rfl, superName, rfl, hsuperName⟩
        let w : Written :=
          { minor := ⟨minor, hminor⟩, major := ⟨major, hmajor⟩, constants
            access := ⟨access, haccess⟩, thisIndex := ⟨thisIndex, hthis⟩
            superIndex := ⟨superIndex, hsuper⟩, interfaces, slots_fit := hslots
            interfaces_fit := hcount }
        refine ⟨hmagic, w, by simp [Written.fields, w], rfl, rfl, rfl, ?_, ?_, ?_⟩
        · exact (className_eq_ok_iff (w := w)).mp hname
        · simpa only [← className_eq_ok_iff] using hsuperName
        · simpa only [← className_eq_ok_iff] using hnames
      · rintro ⟨-, w, rfl, hminor, hmajor, haccess, hname, hsuper, hinterfaces⟩
        simp only [← className_eq_ok_iff] at hname hsuper hinterfaces
        refine ⟨w.minor, _, w.minor.isLt, ?_, w.major, _, w.major.isLt, rfl, _, _, _, rfl,
          ⟨w.constants, w.slots_fit, rfl, rfl⟩, w.access, _, w.access.isLt, rfl, w.thisIndex, _,
          w.thisIndex.isLt, rfl, w.superIndex, _, w.superIndex.isLt, rfl, _, _, w.interfaces_fit,
          rfl, h.interfaces, _, _, rfl, ⟨w.interfaces, rfl, rfl, hinterfaces⟩, h.name, hname, rfl,
          h.superName, ?_, hsuper⟩
        · simp [Written.fields]
        · rw [← hminor, ← hmajor, ← haccess]
  · rintro ⟨_, _, -, rfl, rfl, w, rfl, hw⟩
    exact ⟨w, rfl, hw⟩
  · rintro ⟨w, rfl, hw⟩
    exact ⟨magic, w.fields, by decide, rfl, rfl, w, rfl, hw⟩

theorem read?_eq_ok_iff_readHeader {bytes : List UInt8} {h : Header} :
    Header.read? bytes = .ok h ↔ ∃ c', readHeader ⟨0, bytes⟩ = .ok (h, c') := by
  have hread : Header.read? bytes = (readHeader ⟨0, bytes⟩).map (·.1) := rfl
  rw [hread]
  cases readHeader ⟨0, bytes⟩ with
  | error fault => simp [Except.map]
  | ok p => simp [Except.map, Prod.ext_iff, eq_comm]

theorem exists_written_of_read? {bytes : List UInt8} {h : Header}
    (hread : Header.read? bytes = .ok h) :
    ∃ (w : Written) (trailing : List UInt8), bytes = w.bytes ++ trailing ∧ w.Describes h := by
  obtain ⟨c', hread⟩ := read?_eq_ok_iff_readHeader.mp hread
  obtain ⟨_, ⟨w, rfl, hw⟩, hrest, -⟩ := (reads_readHeader _ _ _).mp hread
  exact ⟨w, c'.rest, hrest, hw⟩

theorem Written.Describes.read? {w : Written} {h : Header} (hw : w.Describes h)
    (trailing : List UInt8) : Header.read? (w.bytes ++ trailing) = .ok h :=
  read?_eq_ok_iff_readHeader.mpr ⟨⟨0 + w.bytes.length, trailing⟩,
    (reads_readHeader _ _ _).mpr ⟨w.bytes, ⟨w, rfl, hw⟩, rfl, rfl⟩⟩

/-- Bytes are accepted just in case they are a written header with anything behind it, and then
the header that is read is the one that is written. -/
theorem read?_eq_ok_iff (bytes : List UInt8) (h : Header) :
    Header.read? bytes = .ok h
      ↔ ∃ (w : Written) (trailing : List UInt8), bytes = w.bytes ++ trailing ∧ w.Describes h := by
  constructor
  · exact exists_written_of_read?
  · rintro ⟨w, trailing, rfl, hw⟩
    exact hw.read? trailing

end DriverClasses.ClassFile
