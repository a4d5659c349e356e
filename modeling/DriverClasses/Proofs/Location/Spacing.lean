import DriverClasses.Proofs.Location.Entries
import DriverClasses.Proofs.Text.Utf8

/-!
# White space in path lists

A path list can be written with any white space around its entries, and with either separator
between them.  Most of that white space makes no difference: trimming takes away what stands at the
ends of a segment (`segmentEntries_eq_plainEntries`) and of a piece.  But the letter of a drive is
looked for before the pieces are trimmed.  So behind a colon white space in front of a drive tears
the letter from its path, and this is the only way for white space to matter
(`splitPathList_written`).
-/

namespace DriverClasses.Location

open DriverClasses.Text

variable {raw segment s t q a : List Char} {out ps : List (List Char)}

/-! ### White space at the ends of a segment -/

theorem startsBackslash_append_of_blank (ha : ∀ c ∈ a, isBlank c = true) :
    startsBackslash (q ++ a) = startsBackslash q := by
  cases q with
  | cons c q => rfl
  | nil =>
    cases a with
    | nil => rfl
    | cons c a =>
      have hne : c ≠ '\\' := by
        rintro rfl
        exact absurd (ha '\\' List.mem_cons_self) (by decide)
      exact beq_eq_false_iff_ne.mpr hne

/-- White space behind the last piece is trimmed away from what comes out last. -/
theorem map_trimChars_joinDrives_modifyLast (ha : ∀ c ∈ a, isBlank c = true) :
    (joinDrives (ps.modifyLast (· ++ a))).map trimChars = (joinDrives ps).map trimChars := by
  have hdrive_iff : ∀ p q, IsDrive p (q ++ a) ↔ IsDrive p q := fun p q => by
    unfold IsDrive
    rw [startsBackslash_append_of_blank ha]
  induction ps using joinDrives.induct with
  | case1 => rfl
  | case2 p =>
    rw [modifyLast_singleton]
    exact congrArg ([·]) (trimChars_append_of_blank ha p)
  | case3 p q r hdrive ih =>
    cases r with
    | nil =>
      rw [modifyLast_cons _ _ (List.cons_ne_nil q []), modifyLast_singleton,
        joinDrives_of_isDrive ((hdrive_iff p q).mpr hdrive), joinDrives_of_isDrive hdrive,
        List.map_cons, List.map_cons, ← List.cons_append, ← List.append_assoc,
        trimChars_append_of_blank ha]
    | cons s r =>
      rw [modifyLast_cons _ _ (List.cons_ne_nil q _), modifyLast_cons _ _ (List.cons_ne_nil s r),
        joinDrives_of_isDrive hdrive, joinDrives_of_isDrive hdrive, List.map_cons, List.map_cons,
        ih]
  | case4 p q r hplain ih =>
    cases r with
    | nil =>
      rw [modifyLast_singleton] at ih
      rw [modifyLast_cons _ _ (List.cons_ne_nil q []), modifyLast_singleton,
        joinDrives_of_not_isDrive fun h => hplain ((hdrive_iff p q).mp h),
        joinDrives_of_not_isDrive hplain, List.map_cons, List.map_cons, ih]
    | cons s r =>
      rw [modifyLast_cons _ _ (List.cons_ne_nil s r)] at ih
      rw [modifyLast_cons _ _ (List.cons_ne_nil q _), modifyLast_cons _ _ (List.cons_ne_nil s r),
        joinDrives_of_not_isDrive hplain, joinDrives_of_not_isDrive hplain, List.map_cons,
        List.map_cons, ih]

/-- What comes out of a segment that does not have the form of a URL. -/
def plainEntries (segment : List Char) : List (List Char) :=
  (joinDrives (pieces ':' (trimStart segment))).map trimChars

theorem segmentEntries_eq_plainEntries (h : isUrlForm (trimChars segment) = false) :
    segmentEntries segment = plainEntries segment := by
  obtain ⟨a, ha, hsplit⟩ := exists_blank_append_trimEnd (trimStart segment)
  have hcolon : ':' ∉ a := fun hmem => absurd (ha ':' hmem) (by decide)
  rw [segmentEntries_of_plain h, plainEntries, hsplit, pieces_append_of_not_mem _ hcolon,
    map_trimChars_joinDrives_modifyLast ha]
  rfl

/-- The text ends in a piece that no drive can go on from. -/
def EndsOpen (s : List Char) : Prop := ∀ p ∈ (pieces ':' s).getLast?, isDriveLetter p = false

theorem plainEntries_append (h : EndsOpen (trimStart s)) (t : List Char) :
    plainEntries (s ++ ':' :: t) = plainEntries s ++ (joinDrives (pieces ':' t)).map trimChars := by
  unfold plainEntries
  rw [trimStart_append_cons (by decide), pieces_append_cons, joinDrives_append h, List.map_append]

theorem EndsOpen.append (ht : EndsOpen t) (s : List Char) : EndsOpen (s ++ ':' :: t) := by
  unfold EndsOpen
  rw [pieces_append_cons, List.getLast?_append_of_ne_nil _ (pieces_ne_nil ':' t)]
  exact ht

/-! ### Fields -/

theorem trimChars_drive_rest {c : Char} {r : List Char} (hc : c.isAlpha = true)
    (h : trimChars (c :: ':' :: '\\' :: r) = c :: ':' :: '\\' :: r) :
    trimChars ('\\' :: r) = '\\' :: r := by
  rw [trimChars_drive hc, List.cons.injEq, List.cons.injEq] at h
  exact h.2.2

inductive Separator where
  | colon
  | semicolon
  deriving DecidableEq, Repr

def Separator.char : Separator → Char
  | colon => ':'
  | semicolon => ';'

/-- The forms of an entry that a colon can stand behind. -/
inductive FieldForm (e : List Char) : Prop
  | path : ':' ∉ e → 2 ≤ (utf8Chars e).length → FieldForm e
  | drive : IsDrivePath e → FieldForm e

/-- The letter of a drive would be taken for one in front of a path. -/
theorem FieldForm.not_letter {c : Char} (hc : c.isAlpha = true) : ¬ FieldForm [c] := by
  intro h
  cases h with
  | path _ hbytes =>
    have hrange := toNat_of_isAlpha hc
    have hone : utf8Chars [c] = [UInt8.ofNat c.toNat] := by
      simp [utf8Chars, utf8EncodeChar_of_lt (show c.toNat < 0x80 by omega)]
    rw [hone, List.length_singleton] at hbytes
    omega
  | drive hdrive =>
    obtain ⟨_, _, heq, -⟩ := hdrive
    cases heq

/-- An entry as it stands in a path list, with white space around it and behind a separator, unless
it is the first one. -/
structure Field where
  separator : Separator
  before : List Char
  entry : List Char
  after : List Char
  blank_before : ∀ c ∈ before, isBlank c = true
  blank_after : ∀ c ∈ after, isBlank c = true
  trimmed : trimChars entry = entry
  undivided : ';' ∉ entry
  form : FieldForm entry

namespace Field

variable {f : Field} {c : Char} {path : List Char}

def text (f : Field) : List Char := f.before ++ (f.entry ++ f.after)

/-- A colon and white space stand in front of the field. -/
def IsSpaced (f : Field) : Prop := f.separator = .colon ∧ f.before ≠ []

instance (f : Field) : Decidable f.IsSpaced := inferInstanceAs (Decidable (_ ∧ _))

/-- What comes out for the field. -/
def yields (f : Field) : List (List Char) := if f.IsSpaced then pieces ':' f.entry else [f.entry]

theorem colon_notMem_before (f : Field) : ':' ∉ f.before := fun h =>
  absurd (f.blank_before ':' h) (by decide)

theorem colon_notMem_after (f : Field) : ':' ∉ f.after := fun h =>
  absurd (f.blank_after ':' h) (by decide)

theorem semicolon_notMem_text (f : Field) : ';' ∉ f.text := by
  have hbefore : ';' ∉ f.before := fun h => absurd (f.blank_before ';' h) (by decide)
  have hafter : ';' ∉ f.after := fun h => absurd (f.blank_after ';' h) (by decide)
  simp [text, hbefore, f.undivided, hafter]

theorem trimChars_text (f : Field) : trimChars f.text = f.entry :=
  (trimChars_padded f.blank_before f.blank_after f.entry).trans f.trimmed

theorem pieces_text_of_path (h : ':' ∉ f.entry) : pieces ':' f.text = [f.text] :=
  pieces_eq_singleton (by simp [text, f.colon_notMem_before, h, f.colon_notMem_after])

theorem pieces_text_of_drive (hentry : f.entry = c :: ':' :: '\\' :: path)
    (hc : c.isAlpha = true) (hpath : ':' ∉ path) :
    pieces ':' f.text = [f.before ++ [c], '\\' :: path ++ f.after] := by
  have hcolon : c ≠ ':' := by
    rintro rfl
    exact absurd hc (by decide)
  have hletter : ':' ∉ f.before ++ [c] := by simp [f.colon_notMem_before, hcolon.symm]
  have hrest : ':' ∉ '\\' :: path ++ f.after := by simp [hpath, f.colon_notMem_after]
  have htext : f.text = (f.before ++ [c]) ++ ':' :: ('\\' :: path ++ f.after) := by
    simp [text, hentry]
  rw [htext, pieces_append hletter, pieces_eq_singleton hrest]

/-- The last piece of a field is more than a letter. -/
theorem endsOpen_text (f : Field) : EndsOpen f.text := by
  intro p hp
  rw [← Bool.not_eq_true, isDriveLetter_iff]
  rintro ⟨d, rfl, hd⟩
  cases f.form with
  | path hcolon _ =>
    rw [pieces_text_of_path hcolon, List.getLast?_singleton, Option.mem_some_iff] at hp
    have hentry : f.entry = [d] := by
      rw [← f.trimChars_text, hp, trimChars_letter hd]
    exact FieldForm.not_letter hd (hentry ▸ f.form)
  | drive hdrive =>
    obtain ⟨c, path, hentry, hc, hpath⟩ := hdrive
    rw [pieces_text_of_drive hentry hc hpath] at hp
    obtain ⟨rfl, -⟩ : '\\' = d ∧ path ++ f.after = [] := by simpa using hp
    exact absurd hd (by decide)

/-- What comes out of the field by itself. -/
theorem joinDrives_text (f : Field) :
    (joinDrives (pieces ':' f.text)).map trimChars
      = if f.before ≠ [] then pieces ':' f.entry else [f.entry] := by
  cases f.form with
  | path hcolon _ =>
    rw [pieces_text_of_path hcolon, joinDrives, List.map_singleton, f.trimChars_text,
      pieces_eq_singleton hcolon, ite_self]
  | drive hdrive =>
    obtain ⟨c, path, hentry, hc, hpath⟩ := hdrive
    have htrimmed := f.trimmed
    rw [hentry] at htrimmed
    rw [pieces_text_of_drive hentry hc hpath]
    by_cases hbefore : f.before = []
    · have htext : c :: ':' :: ('\\' :: path ++ f.after) = f.text := by simp [text, hentry, hbefore]
      have hisdrive : IsDrive [c] ('\\' :: path ++ f.after) :=
        isDrive_iff.mpr ⟨c, path ++ f.after, rfl, hc, rfl⟩
      rw [hbefore, List.nil_append, joinDrives_of_isDrive hisdrive, joinDrives, List.map_singleton,
        List.singleton_append, htext, f.trimChars_text, if_neg (not_not_intro rfl)]
    · have hplain : ¬ IsDrive (f.before ++ [c]) ('\\' :: path ++ f.after) := by
        rw [isDrive_iff]
        rintro ⟨d, _, hletter, -, -⟩
        have hlength := congrArg List.length hletter
        exact hbefore (List.length_eq_zero_iff.mp (by simpa using hlength))
      have hletter : trimChars (f.before ++ [c]) = [c] := by
        have hpadded := trimChars_padded f.blank_before (a := []) (by simp) [c]
        rwa [List.append_nil, trimChars_letter hc] at hpadded
      have hpath' : trimChars ('\\' :: path ++ f.after) = '\\' :: path := by
        rw [trimChars_append_of_blank f.blank_after, trimChars_drive_rest hc htrimmed]
      rw [joinDrives_of_not_isDrive hplain, joinDrives, List.map_cons, List.map_singleton,
        if_pos hbefore, hentry, pieces_drivePath hc hpath, hpath', hletter]

theorem pieces_entry (f : Field) :
    pieces ':' f.entry = [f.entry]
      ∨ ∃ c path, IsDrivePath f.entry ∧ c.isAlpha = true
        ∧ pieces ':' f.entry = [[c], '\\' :: path] := by
  cases f.form with
  | path hcolon _ => exact .inl (pieces_eq_singleton hcolon)
  | drive hdrive =>
    obtain ⟨c, path, hentry, hc, hpath⟩ := hdrive
    refine .inr ⟨c, path, ⟨c, path, hentry, hc, hpath⟩, hc, ?_⟩
    rw [hentry, pieces_drivePath hc hpath]

theorem entry_ne_nil (f : Field) : f.entry ≠ [] := by
  intro hnil
  cases f.form with
  | path _ hbytes =>
    rw [hnil] at hbytes
    exact absurd hbytes (by decide)
  | drive hdrive =>
    obtain ⟨c, path, hentry, -, -⟩ := hdrive
    rw [hnil] at hentry
    cases hentry

/-- The field without the white space in front. -/
def bare (f : Field) : Field := { f with before := [], blank_before := nofun }

theorem trimStart_text (f : Field) : trimStart f.text = f.bare.text := by
  obtain ⟨c, r, hentry⟩ := List.exists_cons_of_ne_nil f.entry_ne_nil
  have hc : isBlank c = false := isBlank_of_trimmed (hentry ▸ f.trimmed)
  calc trimStart f.text
      = trimStart (c :: (r ++ f.after)) := by
        rw [text, trimStart_append_of_blank f.blank_before, hentry, List.cons_append]
    _ = c :: r ++ f.after := by simp [trimStart, hc]
    _ = f.bare.text := by rw [← hentry]; rfl

/-- At the front of a segment, white space is taken away before the cut. -/
theorem plainEntries_text (f : Field) : plainEntries f.text = [f.entry] := by
  rw [plainEntries, f.trimStart_text, joinDrives_text]
  exact if_neg (not_not_intro rfl)

theorem yields_of_colon (h : f.separator = .colon) :
    f.yields = if f.before ≠ [] then pieces ':' f.entry else [f.entry] := by
  simp [yields, IsSpaced, h]

theorem yields_of_semicolon (h : f.separator = .semicolon) : f.yields = [f.entry] := by
  simp [yields, IsSpaced, h]

theorem ne_nil_of_mem_yields {e : List Char} (he : e ∈ f.yields) : e ≠ [] := by
  unfold yields at he
  split at he
  · rcases f.pieces_entry with hpieces | ⟨c, path, -, -, hpieces⟩
    · rw [hpieces, List.mem_singleton] at he
      exact he ▸ f.entry_ne_nil
    · rw [hpieces] at he
      rcases List.mem_pair.mp he with rfl | rfl <;> exact List.cons_ne_nil _ _
  · rw [List.mem_singleton.mp he]
    exact f.entry_ne_nil

theorem yields_of_not_torn (h : f.IsSpaced → ¬ IsDrivePath f.entry) : f.yields = [f.entry] := by
  unfold yields
  split
  · rename_i hspaced
    rcases f.pieces_entry with hpieces | ⟨_, _, hdrive, -⟩
    · exact hpieces
    · exact absurd hdrive (h hspaced)
  · rfl

/-- A drive that is torn leaves its letter behind as an entry. -/
theorem exists_letter_mem_yields (hspaced : f.IsSpaced) (hdrive : IsDrivePath f.entry) :
    ∃ c, c.isAlpha = true ∧ [c] ∈ f.yields := by
  obtain ⟨c, path, hentry, hc, hpath⟩ := hdrive
  refine ⟨c, hc, ?_⟩
  rw [yields, if_pos hspaced, hentry, pieces_drivePath hc hpath]
  exact List.mem_cons_self

end Field

/-- A path list that is written with these fields. -/
def written : List Field → List Char
  | [] => []
  | f :: fs => f.text ++ fs.flatMap fun g => g.separator.char :: g.text

/-- The segments of `raw` come out as `out`, and more can be written behind the last of them. -/
structure ComesOut (raw : List Char) (out : List (List Char)) : Prop where
  out_eq : (pieces ';' raw).flatMap plainEntries = out
  endsOpen : ∀ segment ∈ (pieces ';' raw).getLast?, EndsOpen (trimStart segment)

namespace ComesOut

theorem first (f : Field) : ComesOut f.text [f.entry] := by
  have hpieces := pieces_eq_singleton f.semicolon_notMem_text
  refine ⟨?_, fun segment hsegment => ?_⟩
  · rw [hpieces, List.flatMap_singleton, f.plainEntries_text]
  · rw [hpieces, List.getLast?_singleton, Option.mem_some_iff] at hsegment
    exact hsegment ▸ f.trimStart_text ▸ f.bare.endsOpen_text

theorem semicolon (h : ComesOut raw out) (f : Field) :
    ComesOut (raw ++ ';' :: f.text) (out ++ [f.entry]) := by
  have hf := first f
  have hpieces : pieces ';' (raw ++ ';' :: f.text) = pieces ';' raw ++ pieces ';' f.text :=
    pieces_append_cons raw f.text
  refine ⟨?_, fun segment hsegment => ?_⟩
  · rw [hpieces, List.flatMap_append, h.out_eq, hf.out_eq]
  · rw [hpieces, List.getLast?_append_of_ne_nil _ (pieces_ne_nil ';' _)] at hsegment
    exact hf.endsOpen segment hsegment

theorem colon (h : ComesOut raw out) (f : Field) :
    ComesOut (raw ++ ':' :: f.text)
      (out ++ if f.before ≠ [] then pieces ':' f.entry else [f.entry]) := by
  obtain ⟨front, last, hsplit⟩ :=
    (List.eq_nil_or_concat' (pieces ';' raw)).resolve_left (pieces_ne_nil ';' raw)
  have hopen : EndsOpen (trimStart last) := h.endsOpen last (by rw [hsplit]; simp)
  have hpieces : pieces ';' (raw ++ ':' :: f.text) = front ++ [last ++ ':' :: f.text] := by
    rw [pieces_append_of_not_mem _ (by simp [f.semicolon_notMem_text]), hsplit,
      List.modifyLast_concat]
  refine ⟨?_, fun segment hsegment => ?_⟩
  · rw [hpieces, List.flatMap_append, List.flatMap_singleton, plainEntries_append hopen,
      f.joinDrives_text, ← h.out_eq, hsplit, List.flatMap_append, List.flatMap_singleton,
      List.append_assoc]
  · rw [hpieces, List.getLast?_concat, Option.mem_some_iff] at hsegment
    rw [← hsegment, trimStart_append_cons (by decide)]
    exact f.endsOpen_text.append _

theorem field (h : ComesOut raw out) (f : Field) :
    ComesOut (raw ++ f.separator.char :: f.text) (out ++ f.yields) := by
  cases hseparator : f.separator with
  | colon =>
    rw [f.yields_of_colon hseparator]
    exact h.colon f
  | semicolon =>
    rw [f.yields_of_semicolon hseparator]
    exact h.semicolon f

theorem fields (h : ComesOut raw out) (fs : List Field) :
    ComesOut (raw ++ fs.flatMap fun g => g.separator.char :: g.text)
      (out ++ fs.flatMap Field.yields) := by
  induction fs generalizing raw out with
  | nil => simpa using h
  | cons f fs ih =>
    have hmore := ih (h.field f)
    rwa [List.append_assoc, List.append_assoc] at hmore

end ComesOut

/-- What comes out of a path list that is written with these fields. -/
def outcome : List Field → List (List Char)
  | [] => []
  | f :: fs => f.entry :: fs.flatMap Field.yields

theorem flatMap_plainEntries_written (f : Field) (fs : List Field) :
    (pieces ';' (written (f :: fs))).flatMap plainEntries = outcome (f :: fs) :=
  ((ComesOut.first f).fields fs).out_eq

theorem ne_nil_of_mem_outcome {fs : List Field} {e : List Char} (he : e ∈ outcome fs) :
    e ≠ [] := by
  cases fs with
  | nil => cases he
  | cons f fs =>
    rcases List.mem_cons.mp he with rfl | he
    · exact f.entry_ne_nil
    · obtain ⟨g, -, hg⟩ := List.mem_flatMap.mp he
      exact Field.ne_nil_of_mem_yields hg

theorem entries_written {fs : List Field}
    (hplain : ∀ segment ∈ pieces ';' (written fs), isUrlForm (trimChars segment) = false) :
    entries (written fs) = firsts (outcome fs) := by
  cases fs with
  | nil => decide
  | cons f fs =>
    have hplain : ∀ segment ∈ pieces ';' (written (f :: fs)),
        segmentEntries segment = plainEntries segment := fun segment hsegment =>
      segmentEntries_eq_plainEntries (hplain segment hsegment)
    have hfull : ∀ e ∈ outcome (f :: fs), decide (e ≠ []) = true := fun e he =>
      decide_eq_true (ne_nil_of_mem_outcome he)
    calc entries (written (f :: fs))
        = firsts (((pieces ';' (written (f :: fs))).flatMap plainEntries).filter (· ≠ [])) := by
          rw [entries, List.flatMap_congr hplain]
      _ = firsts ((outcome (f :: fs)).filter (· ≠ [])) := by rw [flatMap_plainEntries_written]
      _ = firsts (outcome (f :: fs)) := by rw [List.filter_eq_self.mpr hfull]

/-- The entries come out as they are just in case no drive is torn. -/
theorem firsts_outcome_iff {fs : List Field} :
    firsts (outcome fs) = firsts (fs.map (·.entry))
      ↔ ∀ f ∈ fs.tail, f.IsSpaced → ¬ IsDrivePath f.entry := by
  cases fs with
  | nil => simp [outcome]
  | cons f fs =>
    constructor
    · intro heq g hg hspaced hdrive
      obtain ⟨c, hc, hletter⟩ := g.exists_letter_mem_yields hspaced hdrive
      have hmem : [c] ∈ firsts (outcome (f :: fs)) :=
        mem_firsts.mpr (List.mem_cons_of_mem _ (List.mem_flatMap.mpr ⟨g, hg, hletter⟩))
      rw [heq, mem_firsts] at hmem
      obtain ⟨own, -, hentry⟩ := List.mem_map.mp hmem
      exact FieldForm.not_letter hc (hentry ▸ own.form)
    · intro hwhole
      have hyields : fs.flatMap Field.yields = fs.flatMap fun g => [g.entry] :=
        List.flatMap_congr fun g hg => Field.yields_of_not_torn (hwhole g hg)
      rw [outcome, hyields, ← List.map_eq_flatMap, List.map_cons]

/-! ### The law -/

/-- What a path list yields that is written with white space around its entries, and with any
separators between them.  They come out as they are, unless white space stands between a colon and a
drive. -/
theorem splitPathList_written (fs : List Field)
    (hplain : ∀ segment ∈ pieces ';' (written fs), isUrlForm (trimChars segment) = false) :
    splitPathList (String.ofList (written fs)) = (firsts (outcome fs)).map String.ofList
      ∧ (splitPathList (String.ofList (written fs))
            = (firsts (fs.map (·.entry))).map String.ofList
          ↔ ∀ f ∈ fs.tail, f.IsSpaced → ¬ IsDrivePath f.entry) := by
  have hsplit : splitPathList (String.ofList (written fs))
      = (firsts (outcome fs)).map String.ofList := by
    rw [splitPathList, String.toList_ofList, entries_written hplain]
  refine ⟨hsplit, ?_⟩
  rw [hsplit, ← firsts_outcome_iff]
  exact (List.map_injective_iff.mpr fun _ _ h => String.ofList_injective h).eq_iff

def libField (separator : Separator) : Field where
  separator
  before := [' ']
  entry := ['l', 'i', 'b']
  after := []
  blank_before := List.forall_mem_singleton.mpr (by decide)
  blank_after := List.forall_mem_nil _
  trimmed := by decide
  undivided := by decide
  form := .path (by decide) (by decide)

def driveField (separator : Separator) : Field where
  separator
  before := [' ']
  entry := ['C', ':', '\\', 'd']
  after := ['\t']
  blank_before := List.forall_mem_singleton.mpr (by decide)
  blank_after := List.forall_mem_singleton.mpr (by decide)
  trimmed := by decide
  undivided := by decide
  form := .drive ⟨'C', ['d'], rfl, by decide, by decide⟩

/-- A drive behind a semicolon and a path behind a colon, each with white space around it. -/
def paddedFields : List Field := [libField .semicolon, driveField .semicolon, libField .colon]

theorem splitPathList_written_paddedFields :
    (∀ segment ∈ pieces ';' (written paddedFields), isUrlForm (trimChars segment) = false)
      ∧ splitPathList " lib; C:\\d\t: lib" = ["lib", "C:\\d"] := by
  have hplain : ∀ segment ∈ pieces ';' (written paddedFields),
      isUrlForm (trimChars segment) = false := by decide +kernel
  refine ⟨hplain, (splitPathList_written paddedFields hplain).2.mpr fun f hf hspaced hdrive => ?_⟩
  rcases List.mem_pair.mp hf with rfl | rfl
  · exact absurd hspaced (by decide)
  · obtain ⟨_, _, heq, -⟩ := hdrive
    cases heq

/-- Behind a colon white space makes a difference. -/
theorem not_padding_ignored :
    ¬∀ fs : List Field,
      (∀ segment ∈ pieces ';' (written fs), isUrlForm (trimChars segment) = false) →
      splitPathList (String.ofList (written fs))
        = (firsts (fs.map (·.entry))).map String.ofList := by
  intro h
  have hplain : ∀ segment ∈ pieces ';' (written [libField .semicolon, driveField .colon]),
      isUrlForm (trimChars segment) = false := by decide +kernel
  exact absurd (h _ hplain) (by decide +kernel)

end DriverClasses.Location
