import DriverClasses.ClassFile.Name
import DriverClasses.Proofs.Text.Pieces

/-!
# The names of files that a class name makes

The segments of a class name are the names of directories, and the last one, with `.class` behind
it, is that of a file.  A binary name makes *plain* names only (`isPlain_of_mem_fileNames`), which
lead one step down from wherever they are used, and its entry is cut into these
(`pieces_entryName`).
-/

namespace DriverClasses.ClassFile

open DriverClasses.Text

/-- The segments of a name, the last one with `.class` behind it. -/
def fileNames (name : String) : List (List Char) :=
  (pieces '.' name.toList).modifyLast (· ++ ".class".toList)

/-- A name that is one of a file or a directory, and of nothing but this, on any system. -/
structure IsPlain (s : List Char) : Prop where
  not_empty : s ≠ []
  not_here : s ≠ ".".toList
  not_up : s ≠ "..".toList
  clean : ∀ c ∈ s, c ≠ '/' ∧ c ≠ '\\' ∧ c ≠ ':' ∧ c ≠ '\x00'

theorem fileNames_ne_nil (name : String) : fileNames name ≠ [] :=
  modifyLast_ne_nil (pieces_ne_nil '.' name.toList)

/-! ### Segments -/

theorem clean_of_continuesIdentifier {c : Char} (h : continuesIdentifier c = true) :
    c ≠ '/' ∧ c ≠ '\\' ∧ c ≠ ':' ∧ c ≠ '\x00' := by
  have hall : ['/', '\\', ':', '\x00'].all (!continuesIdentifier ·) = true := by decide +kernel
  have hnot : c ∉ ['/', '\\', ':', '\x00'] := fun hmem => by
    have hc := List.all_eq_true.mp hall c hmem
    rw [h] at hc
    cases hc
  simpa using hnot

theorem dot_not_mem_of_isIdentifier {s : List Char} (h : isIdentifier s = true) : '.' ∉ s := by
  intro hdot
  have hc := continuesIdentifier_of_mem h hdot
  have hnot : continuesIdentifier '.' = false := by decide +kernel
  rw [hnot] at hc
  cases hc

theorem IsPlain.ofIdentifier {s : List Char} (h : isIdentifier s = true) : IsPlain s := by
  have hdot := dot_not_mem_of_isIdentifier h
  refine ⟨?_, ?_, ?_, fun c hc => clean_of_continuesIdentifier (continuesIdentifier_of_mem h hc)⟩
  · rintro rfl
    cases h
  · rintro rfl
    exact hdot (by decide)
  · rintro rfl
    exact hdot (by decide)

theorem IsPlain.withSuffix {s : List Char} (h : IsPlain s) : IsPlain (s ++ ".class".toList) := by
  have hne : ∀ {t : List Char}, 'c' ∉ t → s ++ ".class".toList ≠ t := by
    rintro t hletter rfl
    exact hletter (List.mem_append_right s (by decide))
  refine ⟨hne (by decide), hne (by decide), hne (by decide), fun c hc => ?_⟩
  · rcases List.mem_append.mp hc with hc | hc
    · exact h.clean c hc
    · have hall : ".class".toList.all (fun d => d ≠ '/' ∧ d ≠ '\\' ∧ d ≠ ':' ∧ d ≠ '\x00') := by
        decide
      exact of_decide_eq_true (List.all_eq_true.mp hall c hc)

theorem isIdentifier_of_mem_pieces {name : String} (h : isBinaryName name = true)
    {segment : List Char} (hs : segment ∈ pieces '.' name.toList) : isIdentifier segment = true :=
  List.all_eq_true.mp h segment hs

theorem eq_dot_or_continuesIdentifier {name : String} (h : isBinaryName name = true) {c : Char}
    (hc : c ∈ name.toList) : c = '.' ∨ continuesIdentifier c = true := by
  rw [← join_pieces '.' name.toList] at hc
  rcases eq_or_mem_of_mem_join _ hc with hdot | ⟨segment, hsegment, hmem⟩
  · exact .inl hdot
  · exact .inr (continuesIdentifier_of_mem (isIdentifier_of_mem_pieces h hsegment) hmem)

theorem isPlain_of_mem_fileNames {name : String} (h : isBinaryName name = true) {part : List Char}
    (hpart : part ∈ fileNames name) : IsPlain part := by
  rcases mem_or_of_mem_modifyLast hpart with hsegment | ⟨segment, hsegment, rfl⟩
  · exact .ofIdentifier (isIdentifier_of_mem_pieces h hsegment)
  · exact (IsPlain.ofIdentifier (isIdentifier_of_mem_pieces h hsegment)).withSuffix

/-! ### The entry -/

theorem slash_not_mem_of_isBinaryName {name : String} (h : isBinaryName name = true) :
    '/' ∉ name.toList := by
  intro hslash
  rcases eq_dot_or_continuesIdentifier h hslash with hdot | hc
  · exact absurd hdot (by decide)
  · exact (clean_of_continuesIdentifier hc).1 rfl

theorem pieces_entryName {name : String} (h : isBinaryName name = true) :
    pieces '/' (entryName name).toList = fileNames name := by
  have hsuffix : '/' ∉ ".class".toList := by decide
  rw [entryName, String.toList_ofList, pieces_append_of_not_mem _ hsuffix, undotted,
    pieces_replaceChar (slash_not_mem_of_isBinaryName h)]
  rfl

end DriverClasses.ClassFile
