import Mathlib.Tactic.SplitIfs
import DriverClasses.Proofs.ClassFile.Spelling
import DriverClasses.Proofs.Text.Decoding

/-!
# The two ways to write a character

A class file may write a character in UTF-8 or in the modified form, which differs for NUL and for
supplementary characters, and each character of a text in its own way (`Encodes`).  Whatever is
written spells the text, so it is decoded as that text, and what stands before and behind it neither
takes anything from it nor loses anything to it (`decode_append_encodes`).
-/

namespace DriverClasses.ClassFile.ModifiedUtf8

open DriverClasses.Text

/-- A UTF-16 unit in three bytes. -/
def threeBytes (u : Nat) : List UInt8 :=
  [UInt8.ofNat (u / 4096 + 0xE0), UInt8.ofNat (u / 64 % 64 + 0x80), UInt8.ofNat (u % 64 + 0x80)]

/-- The modified form of a character: two bytes for NUL, a pair of surrogates of three bytes each
for a supplementary character, and UTF-8 for any other. -/
def modifiedChar (c : Char) : List UInt8 :=
  if c = '\x00' then [0xC0, 0x80]
  else if c.toNat < 0x10000 then String.utf8EncodeChar c
  else
    threeBytes (0xD800 + (c.toNat - 0x10000) / 0x400)
      ++ threeBytes (0xDC00 + (c.toNat - 0x10000) % 0x400)

/-- Bytes that write a text, each character in one form or in the other. -/
inductive Encodes : List Char → List UInt8 → Prop
  | nil : Encodes [] []
  | standard {c : Char} {s : List Char} {bytes : List UInt8} :
      Encodes s bytes → Encodes (c :: s) (String.utf8EncodeChar c ++ bytes)
  | modified {c : Char} {s : List Char} {bytes : List UInt8} :
      Encodes s bytes → Encodes (c :: s) (modifiedChar c ++ bytes)

/-! ### Bytes of a group -/

theorem isContinuation_ofNat {n : Nat} (h : n < 64) :
    isContinuation (UInt8.ofNat (n + 0x80)) = true := by
  rw [isContinuation, toNat_ofNat_of_lt (by omega)]
  simp
  omega

theorem lowBits_ofNat {n : Nat} (h : n < 64) : lowBits (UInt8.ofNat (n + 0x80)) = n := by
  rw [lowBits, toNat_ofNat_of_lt (by omega)]
  omega

theorem Spells.ofGroup {bytes : List UInt8} {us : List Nat} {cs : List Char}
    (hgroup : Group bytes us) (hpaired : Paired us cs) : Spells bytes cs := by
  have hgrouped := Grouped.cons hgroup .nil
  rw [List.append_nil, List.append_nil] at hgrouped
  exact ⟨us, hgrouped, hpaired⟩

theorem group_threeBytes {u : Nat} (h : u < 0x10000) : Group (threeBytes u) [u] := by
  have hlead : (UInt8.ofNat (u / 4096 + 0xE0)).toNat = u / 4096 + 0xE0 :=
    toNat_ofNat_of_lt (by omega)
  have hgroup := Group.three (a := UInt8.ofNat (u / 4096 + 0xE0)) (by omega) (by omega)
    (isContinuation_ofNat (n := u / 64 % 64) (by omega))
    (isContinuation_ofNat (n := u % 64) (by omega))
  rw [hlead, lowBits_ofNat (by omega), lowBits_ofNat (by omega)] at hgroup
  have hunit : (u / 4096 + 0xE0) % 16 * 4096 + u / 64 % 64 * 64 + u % 64 = u := by omega
  rwa [hunit] at hgroup

theorem toNat_cases (c : Char) :
    c.toNat < 0xD800 ∨ 0xDFFF < c.toNat ∧ c.toNat < 0x110000 := c.valid

theorem isScalar_toNat (c : Char) : isScalar c.toNat = true := by
  have hc := toNat_cases c
  simp [isScalar]
  omega

/-- The units of a character stand for it, and for nothing else. -/
theorem paired_unitsOfScalar (c : Char) : Paired (unitsOfScalar c.toNat) [c] := by
  have hc := toNat_cases c
  unfold unitsOfScalar
  split
  · have hsingle : isSurrogate c.toNat = false := by
      simp [isSurrogate, isHighSurrogate, isLowSurrogate]
      omega
    have hpaired := Paired.single hsingle .nil
    rwa [Char.ofNat_toNat] at hpaired
  · have hhigh : isHighSurrogate (0xD800 + (c.toNat - 0x10000) / 0x400) = true := by
      simp [isHighSurrogate]
      omega
    have hlow : isLowSurrogate (0xDC00 + (c.toNat - 0x10000) % 0x400) = true := by
      simp [isLowSurrogate]
      omega
    have hpair : pair (0xD800 + (c.toNat - 0x10000) / 0x400)
        (0xDC00 + (c.toNat - 0x10000) % 0x400) = c := by
      have hvalue : 0x10000 + (0xD800 + (c.toNat - 0x10000) / 0x400 - 0xD800) * 0x400
          + (0xDC00 + (c.toNat - 0x10000) % 0x400 - 0xDC00) = c.toNat := by omega
      rw [pair, hvalue, Char.ofNat_toNat]
    have hpaired := Paired.pair hhigh hlow .nil
    rwa [hpair] at hpaired

/-! ### What is written spells the character -/

theorem group_utf8EncodeChar (c : Char) :
    Group (String.utf8EncodeChar c) (unitsOfScalar c.toNat) := by
  have hc := toNat_cases c
  have hscalar := isScalar_toNat c
  have hval : c.val.toNat = c.toNat := rfl
  unfold String.utf8EncodeChar
  dsimp only
  rw [hval]
  generalize c.toNat = n at hc hscalar
  -- The value of a leading byte that is written is known, as it is below 256.
  have hlead : ∀ m, m < 256 → (UInt8.ofNat m).toNat = m := fun m => toNat_ofNat_of_lt
  have hbasic : n < 0x10000 → unitsOfScalar n = [n] := fun h => if_pos h
  split_ifs with hone htwo hthree
  · have hgroup := Group.one (a := UInt8.ofNat n) (by rw [hlead n (by omega)]; omega)
    rw [hbasic (by omega)]
    rwa [hlead n (by omega)] at hgroup
  · have ha := hlead (n / 64 % 32 + 0xC0) (by omega)
    have hgroup := Group.two (a := UInt8.ofNat (n / 64 % 32 + 0xC0)) (by omega) (by omega)
      (isContinuation_ofNat (n := n % 64) (by omega))
    have hunit : (n / 64 % 32 + 0xC0) % 32 * 64 + n % 64 = n := by omega
    rw [ha, lowBits_ofNat (by omega), hunit] at hgroup
    rwa [hbasic (by omega)]
  · have hgroup := group_threeBytes (u := n) (by omega)
    have ha : n / 4096 % 16 = n / 4096 := by omega
    rw [hbasic (by omega), ha]
    exact hgroup
  · have ha := hlead (n / 262144 % 8 + 0xF0) (by omega)
    refine .four (by omega) (by omega) (isContinuation_ofNat (by omega))
      (isContinuation_ofNat (by omega)) (isContinuation_ofNat (by omega)) ?_ hscalar
    rw [ha, lowBits_ofNat (by omega), lowBits_ofNat (by omega), lowBits_ofNat (by omega)]
    omega

theorem spells_utf8EncodeChar (c : Char) : Spells (String.utf8EncodeChar c) [c] :=
  .ofGroup (group_utf8EncodeChar c) (paired_unitsOfScalar c)

theorem spells_modifiedChar (c : Char) : Spells (modifiedChar c) [c] := by
  unfold modifiedChar
  split_ifs with hnul hbasic
  · subst hnul
    exact .ofGroup (.two (by decide) (by decide) (by decide)) (.single (by decide) .nil)
  · exact spells_utf8EncodeChar c
  · have hc := toNat_cases c
    have hunits : unitsOfScalar c.toNat = [0xD800 + (c.toNat - 0x10000) / 0x400,
        0xDC00 + (c.toNat - 0x10000) % 0x400] := if_neg hbasic
    have hpaired := paired_unitsOfScalar c
    rw [hunits] at hpaired
    have hlast := Grouped.cons
      (group_threeBytes (u := 0xDC00 + (c.toNat - 0x10000) % 0x400) (by omega)) .nil
    have hboth := Grouped.cons
      (group_threeBytes (u := 0xD800 + (c.toNat - 0x10000) / 0x400) (by omega)) hlast
    rw [List.append_nil] at hboth
    exact ⟨_, hboth, hpaired⟩

theorem Encodes.spells {s : List Char} {bytes : List UInt8} (h : Encodes s bytes) :
    Spells bytes s := by
  induction h with
  | nil => exact ⟨[], .nil, .nil⟩
  | standard _ ih => exact (spells_utf8EncodeChar _).append ih
  | modified _ ih => exact (spells_modifiedChar _).append ih

theorem encodes_utf8Chars (s : List Char) : Encodes s (utf8Chars s) := by
  induction s with
  | nil => exact .nil
  | cons c s ih => exact .standard ih

theorem encodes_modified (s : List Char) : Encodes s (s.flatMap modifiedChar) := by
  induction s with
  | nil => exact .nil
  | cons c s ih => exact .modified ih

/-- What is written for a text, however each of its characters is, is read as that text in the midst
of any other bytes, and these are read as they are by themselves.  So reading undoes both ways of
writing, and every mixture of them. -/
theorem decode_append_encodes :
    (∀ (s : List Char) (bytes : List UInt8), s ≠ [] → Encodes s bytes →
        ∀ p q, decode (p ++ bytes ++ q) = decode p ++ String.ofList s ++ decode q)
      ∧ (∀ (s : List Char) (bytes : List UInt8), Encodes s bytes →
          decode bytes = String.ofList s)
      ∧ ∀ s : List Char, decode (utf8Chars s) = String.ofList s
        ∧ decode (s.flatMap modifiedChar) = String.ofList s :=
  ⟨fun _ _ hne h p q => h.spells.decode_append hne p q, fun _ _ h => h.spells.decode_eq,
    fun s => ⟨(encodes_utf8Chars s).spells.decode_eq, (encodes_modified s).spells.decode_eq⟩⟩

/-! ### A name between broken bytes -/

/-- A high surrogate without its partner, and a byte that calls for two others. -/
def brokenFront : List UInt8 := [0xED, 0xA0, 0xB5, 0xE2]

/-- A continuation byte, and a low surrogate without its partner. -/
def brokenBack : List UInt8 := [0x82, 0xED, 0xB4, 0x98]

/-- A supplementary character twice, in UTF-8 and in the modified form, and NUL in the latter. -/
def mixedBytes : List UInt8 :=
  [0xF0, 0x9D, 0x94, 0x98, 0xED, 0xA0, 0xB5, 0xED, 0xB4, 0x98, 0xC0, 0x80]

def mixedText : List Char := [Char.ofNat 0x1D518, Char.ofNat 0x1D518, '\x00']

theorem encodes_mixedBytes : Encodes mixedText mixedBytes := by
  have hbytes : mixedBytes = String.utf8EncodeChar (Char.ofNat 0x1D518)
      ++ (modifiedChar (Char.ofNat 0x1D518) ++ (modifiedChar '\x00' ++ [])) := by decide +kernel
  rw [hbytes]
  exact .standard (.modified (.modified .nil))

/-- The text comes out whole, and the broken bytes as replacements of their own. -/
theorem decode_append_encodes_mixedBytes :
    Encodes mixedText mixedBytes
      ∧ decode (brokenFront ++ mixedBytes ++ brokenBack)
        = String.ofList ['\uFFFD', '\uFFFD'] ++ String.ofList mixedText
          ++ String.ofList ['\uFFFD', '\uFFFD'] := by
  have hfront : decode brokenFront = String.ofList ['\uFFFD', '\uFFFD'] := by decide +kernel
  have hback : decode brokenBack = String.ofList ['\uFFFD', '\uFFFD'] := by decide +kernel
  refine ⟨encodes_mixedBytes, ?_⟩
  rw [decode_append_encodes.1 mixedText mixedBytes (by decide) encodes_mixedBytes, hfront, hback]

end DriverClasses.ClassFile.ModifiedUtf8
