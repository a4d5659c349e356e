import Mathlib.Data.List.Infix
import DriverClasses.Location.Basic
import DriverClasses.Proofs.Text.Pieces

/-!
# The forms of a location

A location that is accepted is a plain path, which stands for itself, or it is a `file:` URL or a
`jar:` URL around one, and then its path is that of the URL (`pathOf_eq_ok_iff`).  A scheme ends at
the first colon (`scheme?_eq_some_iff`), and the URL in a `jar:` URL at the first `!/`
(`cutSeparator_eq_some_iff`).
-/

namespace DriverClasses.Location

open DriverClasses.Text

variable {s a b scheme rest : List Char}

/-! ### Schemes and separators -/

theorem colon_notMem_of_isScheme (h : isScheme scheme = true) : ':' ∉ scheme := by
  rcases scheme with _ | ⟨c, _ | ⟨d, r⟩⟩
  · cases h
  · cases h
  · rw [isScheme, Bool.and_eq_true, List.all_eq_true] at h
    rw [List.mem_cons, not_or]
    refine ⟨fun hc => absurd h.1 (by rw [← hc]; decide), fun hmem => ?_⟩
    exact absurd (h.2 ':' hmem) (by decide)

theorem scheme?_eq_some_iff :
    scheme? s = some (scheme, rest) ↔ s = scheme ++ ':' :: rest ∧ isScheme scheme = true := by
  unfold scheme?
  constructor
  · intro h
    split at h
    · rename_i front back hcut
      split at h
      · rename_i hscheme
        obtain ⟨rfl, rfl⟩ := Prod.mk.inj (Option.some.inj h)
        exact ⟨(cut_eq_some_iff.mp hcut).1, hscheme⟩
      · cases h
    · cases h
  · rintro ⟨rfl, hscheme⟩
    rw [cut_eq_some_iff.mpr ⟨rfl, colon_notMem_of_isScheme hscheme⟩]
    exact if_pos hscheme

/-- What ends the URL that is wrapped. -/
def separator : List Char := ['!', '/']

theorem cutSeparator_cons {c : Char} (h : ¬ separator <+: c :: s) :
    cutSeparator (c :: s) = (cutSeparator s).map fun (a, b) => (c :: a, b) := by
  rw [cutSeparator]
  rintro r rfl rfl
  exact h (List.prefix_append separator r)

theorem cutSeparator_eq_some_iff :
    cutSeparator s = some (a, b) ↔ s = a ++ separator ++ b ∧ ¬ separator <:+: a := by
  induction s generalizing a with
  | nil => simp [cutSeparator, separator]
  | cons c r ih =>
    by_cases hfront : separator <+: c :: r
    · obtain ⟨back, hback⟩ := hfront
      have hcut : cutSeparator (c :: r) = some ([], back) := hback ▸ rfl
      rw [hcut, Option.some.injEq, Prod.mk.injEq]
      constructor
      · rintro ⟨rfl, rfl⟩
        exact ⟨hback.symm, by simp [separator]⟩
      · rintro ⟨hsplit, hfirst⟩
        have heq : separator ++ back = a ++ separator ++ b := hback.trans hsplit
        rcases a with _ | ⟨x, _ | ⟨y, a⟩⟩
        · exact ⟨rfl, List.append_cancel_left heq⟩
        · simp [separator] at heq
        · -- The text would have the separator in front, within `a`.
          obtain ⟨rfl, rfl, -⟩ : '!' = x ∧ '/' = y ∧ _ := by simpa [separator] using heq
          exact absurd (List.prefix_append separator a).isInfix hfirst
    · rw [cutSeparator_cons hfront, Option.map_eq_some_iff]
      constructor
      · rintro ⟨⟨front, back⟩, hcut, heq⟩
        obtain ⟨rfl, rfl⟩ := Prod.mk.inj heq
        obtain ⟨rfl, hfirst⟩ := ih.mp hcut
        refine ⟨rfl, fun hinfix => ?_⟩
        rcases List.infix_cons_iff.mp hinfix with hstart | hinfix
        · exact hfront (hstart.trans (List.cons_prefix_cons.mpr ⟨rfl, by simp⟩))
        · exact hfirst hinfix
      · rintro ⟨hsplit, hfirst⟩
        cases a with
        | nil => exact absurd ⟨b, hsplit.symm⟩ hfront
        | cons d a =>
          obtain ⟨rfl, hr⟩ := List.cons.inj hsplit
          exact ⟨(a, b), ih.mpr ⟨hr, fun h => hfirst (h.trans (List.suffix_cons _ a).isInfix)⟩, rfl⟩

/-! ### Accepted texts -/

/-- The text is a `file:` URL of this host, and `url` is what it says. -/
structure IsLocalUrl (s : List Char) (url : FileUrl) : Prop where
  read : FileUrl.parse s = .ok url
  no_host : url.host = none
  no_suffix : url.hasSuffix = false

/-- The text is a `file:` URL, or a `jar:` URL around one. -/
inductive HoldsUrl (s : List Char) (url : FileUrl) : Prop
  | file {scheme rest : List Char} :
      scheme? s = some (scheme, rest) → isFileScheme scheme = true → IsLocalUrl s url →
      HoldsUrl s url
  | jar {scheme inner archive innerScheme rest : List Char} :
      scheme? s = some (scheme, inner) → isJarScheme scheme = true →
      cutSeparator inner = some (archive, []) →
      scheme? archive = some (innerScheme, rest) → isFileScheme innerScheme = true →
      IsLocalUrl archive url → HoldsUrl s url

theorem pathOfFileUrl_eq_ok_iff {s : List Char} {path : Bytes} :
    pathOfFileUrl s = .ok path ↔ ∃ url, IsLocalUrl s url ∧ path = url.localPath := by
  unfold pathOfFileUrl
  constructor
  · intro h
    cases hread : FileUrl.parse s with
    | error fault => simp [hread] at h
    | ok url =>
      simp only [hread] at h
      split at h
      · cases h
      · rename_i hhost
        split at h
        · cases h
        · rename_i hsuffix
          exact ⟨url, ⟨hread, hhost, by simpa using hsuffix⟩, (Except.ok.inj h).symm⟩
  · rintro ⟨url, ⟨hread, hhost, hsuffix⟩, rfl⟩
    simp [hread, hhost, hsuffix]

theorem pathOfJarUrl_eq_ok_iff {inner : List Char} {path : Bytes} :
    pathOfJarUrl inner = .ok path
      ↔ ∃ archive scheme rest, cutSeparator inner = some (archive, [])
        ∧ scheme? archive = some (scheme, rest) ∧ isFileScheme scheme = true
        ∧ pathOfFileUrl archive = .ok path := by
  unfold pathOfJarUrl
  constructor
  · intro h
    split at h
    · cases h
    · rename_i archive entry hcut
      split at h
      · cases h
      · rename_i hentry
        rw [Classical.not_not] at hentry
        split at h
        · rename_i scheme rest hscheme
          split at h
          · rename_i hfile
            exact ⟨archive, scheme, rest, hentry ▸ hcut, hscheme, hfile, h⟩
          · cases h
        · cases h
  · rintro ⟨archive, scheme, rest, hcut, hscheme, hfile, hpath⟩
    simp [hcut, hscheme, hfile, hpath]

theorem isJarScheme_of_isFileScheme {scheme : List Char} (h : isFileScheme scheme = true) :
    isJarScheme scheme = false := by
  have hfile : scheme.map Char.toLower = "file".toList.map Char.toLower := beq_iff_eq.mp h
  unfold isJarScheme sameIgnoringCase
  rw [hfile]
  decide

theorem pathOf_eq_ok_iff {s : List Char} {path : Bytes} :
    pathOf s = .ok path
      ↔ s ≠ [] ∧ '\x00' ∉ s ∧ (scheme? s = none ∧ path = utf8Chars s
        ∨ ∃ url, HoldsUrl s url ∧ path = url.localPath) := by
  unfold pathOf
  by_cases hnil : s = []
  · simp [hnil]
  · by_cases hnul : '\x00' ∈ s
    · simp [hnil, hnul]
    · rw [if_neg hnil, if_neg hnul]
      simp only [ne_eq, hnil, hnul, not_false_eq_true, true_and]
      constructor
      · intro h
        split at h
        · rename_i hscheme
          exact .inl ⟨hscheme, (Except.ok.inj h).symm⟩
        · rename_i scheme rest hscheme
          split at h
          · rename_i hjar
            obtain ⟨archive, innerScheme, innerRest, hcut, hinner, hfile, hpath⟩ :=
              pathOfJarUrl_eq_ok_iff.mp h
            obtain ⟨url, hurl, hpath⟩ := pathOfFileUrl_eq_ok_iff.mp hpath
            exact .inr ⟨url, .jar hscheme hjar hcut hinner hfile hurl, hpath⟩
          · split at h
            · rename_i hfile
              obtain ⟨url, hurl, hpath⟩ := pathOfFileUrl_eq_ok_iff.mp h
              exact .inr ⟨url, .file hscheme hfile hurl, hpath⟩
            · cases h
      · rintro (⟨hscheme, rfl⟩ | ⟨url, hurl, rfl⟩)
        · rw [hscheme]
        · cases hurl with
          | file hscheme hfile hurl =>
            rw [hscheme]
            simp only [isJarScheme_of_isFileScheme hfile, hfile, Bool.false_eq_true, if_false,
              if_true]
            exact pathOfFileUrl_eq_ok_iff.mpr ⟨url, hurl, rfl⟩
          | jar hscheme hjar hcut hinner hfile hurl =>
            rw [hscheme]
            simp only [hjar, if_true]
            exact pathOfJarUrl_eq_ok_iff.mpr
              ⟨_, _, _, hcut, hinner, hfile, pathOfFileUrl_eq_ok_iff.mpr ⟨url, hurl, rfl⟩⟩

/-- A location is named by its text without padding, and its path is that of this text. -/
theorem parse_eq_ok_iff {raw : String} {location : Location} :
    Location.parse raw = .ok location
      ↔ location.text = String.ofList (trimChars raw.toList)
        ∧ pathOf (trimChars raw.toList) = .ok location.path := by
  unfold Location.parse
  cases hpath : pathOf (trimChars raw.toList) with
  | error refusal => simp [hpath, Except.map]
  | ok path =>
    cases location
    simp [hpath, Except.map, eq_comm]

end DriverClasses.Location
