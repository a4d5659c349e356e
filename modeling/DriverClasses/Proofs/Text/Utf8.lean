import DriverClasses.Text.Encoding

/-!
# ASCII in UTF-8

The bytes below 80 are those of the ASCII characters and stand for nothing else
(`asciiByte_mem_utf8Chars`), and no two texts are written alike (`utf8Chars_inj`).
-/

namespace DriverClasses.Text

theorem utf8Chars_inj {s t : List Char} : utf8Chars s = utf8Chars t ↔ s = t := by
  refine ⟨fun h => ?_, fun h => h ▸ rfl⟩
  have hbytes : (String.ofList s).toByteArray = (String.ofList t).toByteArray := by
    rw [String.toByteArray_ofList, String.toByteArray_ofList]
    exact congrArg List.toByteArray h
  exact String.ofList_inj.mp (String.toByteArray_inj.mp hbytes)

theorem utf8Chars_ne_nil {s : List Char} (h : s ≠ []) : utf8Chars s ≠ [] :=
  fun hnil => h (utf8Chars_inj.mp hnil)

/-- A byte below 80 is all that is written of its character. -/
theorem toNat_of_mem_utf8EncodeChar {c : Char} {b : UInt8} (hb : b.toNat < 0x80)
    (h : b ∈ String.utf8EncodeChar c) : c.toNat = b.toNat := by
  have hc : c.toNat = c.val.toNat := rfl
  unfold String.utf8EncodeChar at h
  dsimp only at h
  split at h
  · rw [List.mem_singleton.mp h, hc, UInt8.toNat_ofNat']
    omega
  · split at h
    · simp only [List.mem_cons, List.not_mem_nil, or_false] at h
      rcases h with rfl | rfl <;> rw [UInt8.toNat_ofNat'] at hb <;> omega
    · split at h
      · simp only [List.mem_cons, List.not_mem_nil, or_false] at h
        rcases h with rfl | rfl | rfl <;> rw [UInt8.toNat_ofNat'] at hb <;> omega
      · simp only [List.mem_cons, List.not_mem_nil, or_false] at h
        rcases h with rfl | rfl | rfl | rfl <;> rw [UInt8.toNat_ofNat'] at hb <;> omega

theorem utf8EncodeChar_of_lt {c : Char} (hc : c.toNat < 0x80) :
    String.utf8EncodeChar c = [UInt8.ofNat c.toNat] := by
  have hle : c.val.toNat ≤ 0x7f := Nat.le_of_lt_succ hc
  unfold String.utf8EncodeChar
  exact if_pos hle

theorem asciiByte_mem_utf8Chars {s : List Char} {a : Char} (ha : a.toNat < 0x80) :
    UInt8.ofNat a.toNat ∈ utf8Chars s ↔ a ∈ s := by
  unfold utf8Chars
  rw [List.mem_flatMap]
  constructor
  · rintro ⟨c, hc, hmem⟩
    have hbyte : (UInt8.ofNat a.toNat).toNat = a.toNat := by
      rw [UInt8.toNat_ofNat']
      omega
    have heq := toNat_of_mem_utf8EncodeChar (by omega) hmem
    rw [hbyte, Char.toNat_inj] at heq
    exact heq ▸ hc
  · intro hmem
    exact ⟨a, hmem, by rw [utf8EncodeChar_of_lt ha]; exact List.mem_singleton_self _⟩

end DriverClasses.Text
