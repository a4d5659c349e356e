import DriverClasses.Proofs.Location.Entries
import DriverClasses.Proofs.Location.Form

/-!
# URLs within `jar:` URLs

A `jar:` URL around a `file:` URL is the location that the `file:` URL is by itself: it has the same
path, or it is refused for the same reason.  What is wrapped ends at the first `!/`, with which the
text has to end, and its scheme is looked at just as that of a whole text is.  So an accepted text
is a plain path, a `file:` URL, or one such URL wrapped once, and no other scheme gets in
(`wrapped_names_file`).
-/

namespace DriverClasses.Location

open DriverClasses.Text

variable {s jar u w scheme rest : List Char} {url : FileUrl} {path : Bytes}

/-- The `jar:` URL around `w`. -/
def wrap (jar w : List Char) : List Char := jar ++ ':' :: (w ++ separator)

def HasFileScheme (s : List Char) : Prop :=
  ∃ scheme rest, scheme? s = some (scheme, rest) ∧ isFileScheme scheme = true

/-- The text is a `file:` URL of this host.  The reader of URLs takes the same scheme off its front,
and all that it says of the URL it reads behind the colon. -/
structure NamesFile (s : List Char) (url : FileUrl) : Prop where
  scheme : ∃ scheme rest behind, scheme? s = some (scheme, rest) ∧ isFileScheme scheme = true
    ∧ FileUrl.trimControls s = scheme ++ ':' :: behind ∧ FileUrl.ofRest behind = .ok url
  no_host : url.host = none
  no_suffix : url.hasSuffix = false

/-- The forms of a location, each with its path. -/
inductive Names (s : List Char) : Bytes → Prop
  | plain : scheme? s = none → Names s (utf8Chars s)
  | file {url : FileUrl} : NamesFile s url → Names s url.localPath
  | wrapped {jar w : List Char} {url : FileUrl} :
      s = wrap jar w → isJarScheme jar = true → ¬ separator <:+: w → NamesFile w url →
      Names s url.localPath

/-! ### Schemes -/

theorem isAlpha_of_isAlpha_toLower {c : Char} (h : c.toLower.isAlpha = true) :
    c.isAlpha = true := by
  by_cases hupper : c.isUpper = true
  · exact Bool.or_eq_true_iff.mpr (.inl hupper)
  · -- What is no capital letter stands for itself.
    have hsame : c.toLower = c := dif_neg fun hrange => hupper (decide_eq_true hrange)
    rwa [hsame] at h

theorem isAlpha_of_isJarScheme (h : isJarScheme jar = true) {c : Char} (hc : c ∈ jar) :
    c.isAlpha = true := by
  have hletters : jar.map Char.toLower = ['j', 'a', 'r'] := beq_iff_eq.mp h
  have hmem : c.toLower ∈ ['j', 'a', 'r'] := hletters ▸ List.mem_map_of_mem hc
  exact isAlpha_of_isAlpha_toLower (List.all_eq_true.mp (by decide) _ hmem)

theorem isScheme_of_isJarScheme (h : isJarScheme jar = true) : isScheme jar = true := by
  have hletters : jar.map Char.toLower = ['j', 'a', 'r'] := beq_iff_eq.mp h
  have hlength : jar.length = 3 := by simpa using congrArg List.length hletters
  obtain ⟨x, y, z, rfl⟩ := List.length_eq_three.mp hlength
  have halpha : ∀ c ∈ [x, y, z], c.isAlpha = true := fun c hc => isAlpha_of_isJarScheme h hc
  simp [isScheme, continuesScheme, Char.isAlphanum, halpha]

theorem length_of_isFileScheme (h : isFileScheme scheme = true) : scheme.length = 4 := by
  have hletters : scheme.map Char.toLower = ['f', 'i', 'l', 'e'] := beq_iff_eq.mp h
  simpa using congrArg List.length hletters

theorem exists_letter_of_isScheme (h : isScheme scheme = true) :
    ∃ c r, scheme = c :: r ∧ c.isAlpha = true := by
  rcases scheme with _ | ⟨c, _ | ⟨d, r⟩⟩
  · cases h
  · cases h
  · exact ⟨c, d :: r, rfl, (Bool.and_eq_true_iff.mp h).1⟩

/-! ### What is wrapped -/

theorem scheme?_wrap (hjar : isJarScheme jar = true) (w : List Char) :
    scheme? (wrap jar w) = some (jar, w ++ separator) :=
  scheme?_eq_some_iff.mpr ⟨rfl, isScheme_of_isJarScheme hjar⟩

theorem trimChars_wrap (hjar : isJarScheme jar = true) (w : List Char) :
    trimChars (wrap jar w) = wrap jar w := by
  obtain ⟨c, r, rfl, hc⟩ := exists_letter_of_isScheme (isScheme_of_isJarScheme hjar)
  have hblank := isBlank_of_isAlpha hc
  have hstart : trimStart (wrap (c :: r) w) = wrap (c :: r) w := by
    simp [wrap, trimStart, hblank]
  have hend : wrap (c :: r) w = (c :: (r ++ ':' :: (w ++ ['!']))) ++ ['/'] := by
    simp [wrap, separator]
  unfold trimChars
  rw [hstart, hend, trimEnd_append_singleton _ (by decide)]

theorem nul_mem_wrap_iff (hjar : isJarScheme jar = true) (w : List Char) :
    '\x00' ∈ wrap jar w ↔ '\x00' ∈ w := by
  have hjar : '\x00' ∉ jar := fun hmem =>
    absurd (isAlpha_of_isJarScheme hjar hmem) (by decide)
  simp [wrap, separator, hjar]

theorem pathOf_of_file (hfile : HasFileScheme u) (hnul : '\x00' ∉ u) :
    pathOf u = pathOfFileUrl u := by
  obtain ⟨scheme, rest, hscheme, hfile⟩ := hfile
  have hne : u ≠ [] := by
    rintro rfl
    cases hscheme
  unfold pathOf
  rw [if_neg hne, if_neg hnul, hscheme]
  simp [isJarScheme_of_isFileScheme hfile, hfile]

theorem pathOfJarUrl_append (hfile : HasFileScheme w) (hfirst : ¬ separator <:+: w) :
    pathOfJarUrl (w ++ separator) = pathOfFileUrl w := by
  obtain ⟨scheme, rest, hscheme, hfile⟩ := hfile
  have hcut : cutSeparator (w ++ separator) = some (w, []) :=
    cutSeparator_eq_some_iff.mpr ⟨(List.append_nil _).symm, hfirst⟩
  unfold pathOfJarUrl
  rw [hcut]
  simp [hscheme, hfile]

/-- A URL that is wrapped is read as it is by itself. -/
theorem pathOf_wrap (hjar : isJarScheme jar = true) (hfile : HasFileScheme u)
    (hfirst : ¬ separator <:+: u) : pathOf (wrap jar u) = pathOf u := by
  have hne : wrap jar u ≠ [] := by simp [wrap]
  by_cases hnul : '\x00' ∈ u
  · have hu : u ≠ [] := List.ne_nil_of_mem hnul
    unfold pathOf
    rw [if_neg hne, if_pos ((nul_mem_wrap_iff hjar u).mpr hnul), if_neg hu, if_pos hnul]
  · rw [pathOf_of_file hfile hnul, ← pathOfJarUrl_append hfile hfirst]
    unfold pathOf
    rw [if_neg hne, if_neg fun h => hnul ((nul_mem_wrap_iff hjar u).mp h), scheme?_wrap hjar]
    simp [hjar]

/-! ### The scheme of a URL -/

theorem isControlOrSpace_of_isAlpha {c : Char} (h : c.isAlpha = true) :
    FileUrl.isControlOrSpace c = false := by
  have hrange := toNat_of_isAlpha h
  simp [FileUrl.isControlOrSpace]
  omega

/-- The scheme and its colon are not trimmed away. -/
theorem exists_trimControls (h : isScheme scheme = true) (rest : List Char) :
    ∃ behind, FileUrl.trimControls (scheme ++ ':' :: rest) = scheme ++ ':' :: behind := by
  obtain ⟨c, r, rfl, hc⟩ := exists_letter_of_isScheme h
  have hletter := isControlOrSpace_of_isAlpha hc
  have hcolon : FileUrl.isControlOrSpace ':' = false := by decide
  refine ⟨(rest.reverse.dropWhile FileUrl.isControlOrSpace).reverse, ?_⟩
  unfold FileUrl.trimControls
  rw [List.cons_append, List.dropWhile_cons_of_neg (by simp [hletter]), ← List.cons_append,
    List.reverse_append, List.reverse_cons, List.append_assoc, List.singleton_append,
    dropWhile_append_cons hcolon]
  simp

theorem parse_of_trimControls {behind : List Char} (hfile : isFileScheme scheme = true)
    (htrim : FileUrl.trimControls s = scheme ++ ':' :: behind) :
    FileUrl.parse s = FileUrl.ofRest behind := by
  have hlength := length_of_isFileScheme hfile
  unfold FileUrl.parse
  rw [htrim, List.drop_append, hlength, List.drop_eq_nil_of_le (by omega)]
  rfl

theorem namesFile_iff : NamesFile s url ↔ HasFileScheme s ∧ IsLocalUrl s url := by
  constructor
  · rintro ⟨⟨scheme, rest, behind, hscheme, hfile, htrim, hread⟩, hhost, hsuffix⟩
    exact ⟨⟨scheme, rest, hscheme, hfile⟩,
      (parse_of_trimControls hfile htrim).trans hread, hhost, hsuffix⟩
  · rintro ⟨⟨scheme, rest, hscheme, hfile⟩, hread, hhost, hsuffix⟩
    obtain ⟨rfl, hform⟩ := scheme?_eq_some_iff.mp hscheme
    obtain ⟨behind, htrim⟩ := exists_trimControls hform rest
    rw [parse_of_trimControls hfile htrim] at hread
    exact ⟨⟨scheme, rest, behind, hscheme, hfile, htrim, hread⟩, hhost, hsuffix⟩

/-! ### The forms -/

theorem names_iff :
    Names s path
      ↔ scheme? s = none ∧ path = utf8Chars s ∨ ∃ url, HoldsUrl s url ∧ path = url.localPath := by
  constructor
  · rintro (hscheme | hurl | ⟨rfl, hjar, hfirst, hurl⟩)
    · exact .inl ⟨hscheme, rfl⟩
    · obtain ⟨⟨scheme, rest, hscheme, hfile⟩, hlocal⟩ := namesFile_iff.mp hurl
      exact .inr ⟨_, .file hscheme hfile hlocal, rfl⟩
    · obtain ⟨⟨scheme, rest, hscheme, hfile⟩, hlocal⟩ := namesFile_iff.mp hurl
      refine .inr ⟨_, .jar (scheme?_wrap hjar _) hjar ?_ hscheme hfile hlocal, rfl⟩
      exact cutSeparator_eq_some_iff.mpr ⟨(List.append_nil _).symm, hfirst⟩
  · rintro (⟨hscheme, rfl⟩ | ⟨url, hurl, rfl⟩)
    · exact .plain hscheme
    · cases hurl with
      | file hscheme hfile hlocal =>
        exact .file (namesFile_iff.mpr ⟨⟨_, _, hscheme, hfile⟩, hlocal⟩)
      | jar hscheme hjar hcut hinner hfile hlocal =>
        obtain ⟨rfl, hfirst⟩ := cutSeparator_eq_some_iff.mp hcut
        rw [List.append_nil] at hscheme
        exact .wrapped (scheme?_eq_some_iff.mp hscheme).1 hjar hfirst
          (namesFile_iff.mpr ⟨⟨_, _, hinner, hfile⟩, hlocal⟩)

/-- Of the texts with a scheme, those of two schemes are locations. -/
theorem Names.scheme_cases (h : Names s path) (hscheme : scheme? s = some (scheme, rest)) :
    isFileScheme scheme = true ∨ isJarScheme scheme = true
      ∧ ∃ w, s = wrap scheme w ∧ HasFileScheme w ∧ ¬ separator <:+: w := by
  cases h with
  | plain hnone =>
    rw [hnone] at hscheme
    cases hscheme
  | file hurl =>
    obtain ⟨⟨own, _, hown, hfile⟩, -⟩ := namesFile_iff.mp hurl
    rw [hown, Option.some.injEq, Prod.mk.injEq] at hscheme
    exact .inl (hscheme.1 ▸ hfile)
  | wrapped hwrap hjar hfirst hurl =>
    rw [hwrap, scheme?_wrap hjar, Option.some.injEq, Prod.mk.injEq] at hscheme
    obtain ⟨rfl, rfl⟩ := hscheme
    exact .inr ⟨hjar, _, hwrap, (namesFile_iff.mp hurl).1, hfirst⟩

/-! ### The law -/

theorem parse_eq_map (raw : String) :
    (Location.parse raw).map (·.path) = pathOf (trimChars raw.toList) := by
  unfold Location.parse
  cases hpath : pathOf (trimChars raw.toList) <;> simp [hpath, Except.map]

/-- A `file:` URL that is wrapped and the URL by itself have one path, or are refused alike.  What
is accepted is of one of the three forms, so a scheme in front is `file`, or it is `jar` and all
that stands behind it is a `file:` URL and the separator. -/
theorem wrapped_names_file :
    (∀ jar u : String, isJarScheme jar.toList = true → trim u = u → HasFileScheme u.toList →
        ¬ separator <:+: u.toList →
        (Location.parse (jar ++ ":" ++ u ++ "!/")).map (·.path) = (Location.parse u).map (·.path))
      ∧ (∀ raw location, Location.parse raw = .ok location
          ↔ location.text = trim raw ∧ trim raw ≠ "" ∧ '\x00' ∉ (trim raw).toList
            ∧ Names (trim raw).toList location.path)
      ∧ ∀ raw location scheme rest, Location.parse raw = .ok location →
          scheme? (trim raw).toList = some (scheme, rest) →
          isFileScheme scheme = true ∨ isJarScheme scheme = true
            ∧ ∃ w, (trim raw).toList = wrap scheme w ∧ HasFileScheme w ∧ ¬ separator <:+: w := by
  have htrim : ∀ raw : String, trimChars raw.toList = (trim raw).toList := fun raw => by simp [trim]
  have haccepted : ∀ raw location, Location.parse raw = .ok location
      ↔ location.text = trim raw ∧ trim raw ≠ "" ∧ '\x00' ∉ (trim raw).toList
        ∧ Names (trim raw).toList location.path := by
    intro raw location
    rw [parse_eq_ok_iff, pathOf_eq_ok_iff, ← names_iff, htrim, String.ofList_toList, Ne,
      String.toList_eq_nil_iff]
  refine ⟨fun jar u hjar hu hfile hfirst => ?_, haccepted, ?_⟩
  · have hwrap : (jar ++ ":" ++ u ++ "!/").toList = wrap jar.toList u.toList := by
      simp [wrap, separator]
    rw [parse_eq_map, parse_eq_map, hwrap, trimChars_wrap hjar, htrim, hu,
      pathOf_wrap hjar hfile hfirst]
  · intro raw location scheme rest hparse hscheme
    obtain ⟨-, -, -, hnames⟩ := (haccepted raw location).mp hparse
    exact hnames.scheme_cases hscheme

/-! ### A path that ends in an exclamation mark -/

/-- The mark at the end of the URL takes no part in the separator behind it. -/
theorem wrapped_names_file_mark :
    isJarScheme "JaR".toList = true ∧ trim "File:/a%20b!" = "File:/a%20b!"
      ∧ HasFileScheme "File:/a%20b!".toList ∧ ¬ separator <:+: "File:/a%20b!".toList
      ∧ (Location.parse ("JaR" ++ ":" ++ "File:/a%20b!" ++ "!/")).map (·.path)
        = .ok (utf8 "/a b!") := by
  have hjar : isJarScheme "JaR".toList = true := by decide
  have htrim : trim "File:/a%20b!" = "File:/a%20b!" := by decide +kernel
  have hfile : HasFileScheme "File:/a%20b!".toList :=
    ⟨"File".toList, "/a%20b!".toList, by decide, by decide⟩
  have hfirst : ¬ separator <:+: "File:/a%20b!".toList := by decide +kernel
  have hpath : (Location.parse "File:/a%20b!").map (·.path) = .ok (utf8 "/a b!") := by rfl
  have hwrapped := wrapped_names_file.1 "JaR" "File:/a%20b!" hjar htrim hfile hfirst
  exact ⟨hjar, htrim, hfile, hfirst, hwrapped.trans hpath⟩

end DriverClasses.Location
