import DriverClasses.Location.FileUrl
import DriverClasses.Proofs.Text.Pieces

/-!
# Where the path of a URL comes from

Nothing gets into the path of a URL but slashes, the colons of drives, and stretches of the text,
breaks left out.  So a stretch of the path with no slash and no colon in it stands in the text
(`infix_of_parse`).  The path that has been read ends in a slash before each segment but the first
(`endsWithSlash_push`), which is why a stretch never spans two segments.
-/

namespace DriverClasses.Location

open DriverClasses.Text

/-! ### Stretches -/

section Stretch

variable {x : List Char}

theorem infix_of_infix_cons {sep : Char} (hsep : sep ∉ x) {s : List Char} (h : x <:+: sep :: s) :
    x <:+: s := by
  rcases infix_append_cons hsep [] h with h | h
  · exact h.trans List.nil_infix
  · exact h

theorem infix_of_infix_concat {sep : Char} (hsep : sep ∉ x) {s : List Char}
    (h : x <:+: s ++ [sep]) : x <:+: s := by
  rcases infix_append_cons hsep s h with h | h
  · exact h
  · exact h.trans List.nil_infix

/-- A character that is put in place of another one is in no stretch that does not hold it. -/
theorem infix_of_infix_replaceChar {old new : Char} (hnew : new ∉ x) {s : List Char}
    (h : x <:+: replaceChar old new s) : x <:+: s := by
  obtain ⟨before, after, heq⟩ := h
  unfold replaceChar at heq
  obtain ⟨front, back, rfl, hfront, -⟩ := List.map_eq_append_iff.mp heq.symm
  obtain ⟨first, middle, rfl, -, hmiddle⟩ := List.map_eq_append_iff.mp hfront
  have hkept : middle.map (fun c => if c = old then new else c) = middle := by
    refine (List.map_congr_left fun c hc => ?_).trans (List.map_id middle)
    refine if_neg fun hold => hnew ?_
    rw [← hmiddle]
    exact List.mem_map.mpr ⟨c, hc, if_pos hold⟩
  rw [hkept] at hmiddle
  exact ⟨first, back, by rw [hmiddle]⟩

end Stretch

namespace UrlPath

/-! ### One segment -/

theorem upToLastSlash_isPrefix (path : List Char) : upToLastSlash path <+: path := by
  have h := List.reverse_prefix.mpr (List.dropWhile_suffix (l := path.reverse) (· ≠ '/'))
  rwa [List.reverse_reverse] at h

theorem dropClosingSlash_isPrefix (path : List Char) : dropClosingSlash path <+: path := by
  unfold dropClosingSlash
  dsimp only
  split
  · exact List.dropLast_prefix path
  · exact List.prefix_rfl

theorem pop_isPrefix (path : List Char) : pop path <+: path := by
  unfold pop
  split
  · exact List.prefix_rfl
  · exact upToLastSlash_isPrefix path

theorem endsWithSlash_concat (path : List Char) : endsWithSlash (path ++ ['/']) = true := by
  simp [endsWithSlash]

theorem endsWithSlash_closeWithSlash (path : List Char) :
    endsWithSlash (closeWithSlash path) = true := by
  unfold closeWithSlash
  split
  · assumption
  · exact endsWithSlash_concat path

/-- A segment that is closed leaves a slash at the end. -/
theorem endsWithSlash_push (w : Walk) (segment : List Char) :
    endsWithSlash (w.push segment true).path = true := by
  unfold Walk.push
  dsimp only
  split
  · exact endsWithSlash_closeWithSlash _
  · split
    · exact endsWithSlash_closeWithSlash _
    · split
      · split
        · simpa using endsWithSlash_concat ('/' :: (dropBreaks segment).take 1 ++ [':'])
        · exact endsWithSlash_concat ('/' :: partDrive segment)
      · exact endsWithSlash_concat (w.path ++ dropBreaks segment)

variable {x : List Char}

theorem infix_of_infix_closeWithSlash (hslash : '/' ∉ x) {path : List Char}
    (h : x <:+: closeWithSlash path) : x <:+: path := by
  unfold closeWithSlash at h
  split at h
  · exact h
  · exact infix_of_infix_concat hslash h

theorem infix_of_infix_closing (hslash : '/' ∉ x) {path : List Char} {closed : Bool}
    (h : x <:+: path ++ if closed = true then ['/'] else []) : x <:+: path := by
  cases closed
  · rwa [if_neg (by decide), List.append_nil] at h
  · exact infix_of_infix_concat hslash h

theorem infix_of_infix_partDrive (hslash : '/' ∉ x) (hcolon : ':' ∉ x) {segment : List Char}
    (h : x <:+: partDrive segment) : x <:+: dropBreaks segment := by
  unfold partDrive at h
  split at h
  · rename_i a c r hname
    rw [hname]
    split at h
    · -- The slash that parts the drive is not in the stretch, nor is the colon.
      rcases infix_append_cons hcolon [a] h with h | h
      · exact h.trans (List.prefix_append [a] _).isInfix
      · exact (infix_of_infix_cons hslash h).trans
          ((List.suffix_cons ':' _).trans (List.suffix_cons a _)).isInfix
    · exact h
  · exact h

theorem infix_of_infix_push (hslash : '/' ∉ x) (hcolon : ':' ∉ x) {w : Walk}
    (hw : w.path = [] ∨ endsWithSlash w.path = true) {segment : List Char} {closed : Bool}
    (h : x <:+: (w.push segment closed).path) : x <:+: w.path ∨ x <:+: dropBreaks segment := by
  have hpop : ∀ path, pop (dropClosingSlash path) <:+: path := fun path =>
    ((pop_isPrefix _).trans (dropClosingSlash_isPrefix path)).isInfix
  unfold Walk.push at h
  dsimp only at h
  split at h
  · left
    split at h
    · exact (infix_of_infix_closeWithSlash hslash h).trans (hpop w.path)
    · exact h.trans (hpop w.path)
  · split at h
    · exact .inl (infix_of_infix_closeWithSlash hslash h)
    · split at h
      · right
        split at h
        · rcases infix_append_cons hcolon ('/' :: (dropBreaks segment).take 1) h with h | h
          · exact (infix_of_infix_cons hslash h).trans (List.take_prefix 1 _).isInfix
          · have hnil : x <:+: [] := infix_of_infix_closing hslash h
            exact hnil.trans List.nil_infix
        · exact infix_of_infix_partDrive hslash hcolon
            (infix_of_infix_cons hslash (infix_of_infix_closing hslash h))
      · have h := infix_of_infix_closing hslash h
        rcases hw with hempty | hclosed
        · rw [hempty, List.nil_append] at h
          exact .inr h
        · obtain ⟨front, hfront⟩ := List.getLast?_eq_some_iff.mp (beq_iff_eq.mp hclosed)
          rw [hfront, List.append_assoc] at h
          refine (infix_append_cons hslash front h).imp_left fun h => ?_
          rw [hfront]
          exact h.trans (List.prefix_append front _).isInfix

/-! ### All of them -/

/-- By induction on the segments; all but the first find a path that ends in a slash. -/
theorem infix_of_infix_pushAll (hslash : '/' ∉ x) (hcolon : ':' ∉ x) {w : Walk}
    {segments : List (List Char)} (hw : w.path = [] ∨ endsWithSlash w.path = true)
    (h : x <:+: (w.pushAll segments).path) :
    x <:+: w.path ∨ ∃ segment ∈ segments, x <:+: dropBreaks segment := by
  induction segments generalizing w with
  | nil => exact .inl h
  | cons segment segments ih =>
    have hpush : ∀ closed, x <:+: (w.push segment closed).path →
        x <:+: w.path ∨ ∃ s ∈ segment :: segments, x <:+: dropBreaks s := by
      intro closed h
      refine (infix_of_infix_push hslash hcolon hw h).imp_right fun h => ?_
      exact ⟨segment, List.mem_cons_self, h⟩
    cases segments with
    | nil => exact hpush false h
    | cons next segments =>
      rcases ih (.inr (endsWithSlash_push w segment)) h with h | ⟨s, hs, h⟩
      · exact hpush true h
      · exact .inr ⟨s, List.mem_cons_of_mem segment hs, h⟩

theorem infix_dropBreaks {s t : List Char} (h : s <:+: t) : dropBreaks s <:+: dropBreaks t :=
  h.filter _

theorem infix_of_infix_resolve (hslash : '/' ∉ x) (hcolon : ':' ∉ x) {root s : List Char}
    (hroot : root = [] ∨ root = ['/']) (h : x <:+: (resolve root s).path) :
    x <:+: dropBreaks s := by
  have hopen : root = [] ∨ endsWithSlash root = true :=
    hroot.imp_right fun hroot => by rw [hroot]; decide
  have hwalked := (infix_of_infix_cons hslash h).trans (List.dropWhile_suffix _).isInfix
  rcases infix_of_infix_pushAll hslash hcolon hopen hwalked with h | ⟨segment, hsegment, h⟩
  · have hnil : x <:+: [] := by
      rcases hroot with rfl | rfl
      · exact h
      · exact infix_of_infix_cons hslash h
    exact hnil.trans List.nil_infix
  · have hreplaced := h.trans (infix_dropBreaks (infix_of_mem_pieces hsegment))
    -- Whether breaks go before or after backslashes become slashes does not matter.
    have hcomm : dropBreaks (replaceChar '\\' '/' s) = replaceChar '\\' '/' (dropBreaks s) := by
      unfold dropBreaks replaceChar
      rw [List.filter_map]
      refine congrArg _ (List.filter_congr fun c _ => ?_)
      by_cases hc : c = '\\'
      · subst hc
        rfl
      · simp [hc]
    rw [hcomm] at hreplaced
    exact infix_of_infix_replaceChar hslash hreplaced

end UrlPath

/-! ### A whole URL -/

namespace FileUrl

open UrlPath

variable {x : List Char}

theorem infix_of_infix_ofPath (hslash : '/' ∉ x) (hcolon : ':' ∉ x) {host : Option Host}
    {root s : List Char} (hroot : root = [] ∨ root = ['/'])
    (h : x <:+: (ofPath host root s).path) : x <:+: dropBreaks s :=
  (infix_of_infix_resolve hslash hcolon hroot h).trans
    (infix_dropBreaks (List.takeWhile_prefix _).isInfix)

theorem dropSlash_suffix (s : List Char) : dropSlash s <:+ s := by
  unfold dropSlash
  split
  · split
    · exact List.suffix_cons _ _
    · exact List.suffix_rfl
  · exact List.suffix_rfl

theorem exists_of_map_eq_ok {ε α β : Type} {g : α → β} {answer : Except ε α} {b : β}
    (h : answer.map g = .ok b) : ∃ a, answer = .ok a ∧ g a = b := by
  cases answer with
  | error e => cases h
  | ok a => exact ⟨a, rfl, Except.ok.inj h⟩

theorem infix_of_ofAuthority (hslash : '/' ∉ x) (hcolon : ':' ∉ x) {s : List Char} {url : FileUrl}
    (hread : ofAuthority s = .ok url) (h : x <:+: url.path) : x <:+: dropBreaks s := by
  unfold ofAuthority at hread
  dsimp only at hread
  split at hread
  · rw [← Except.ok.inj hread] at h
    exact infix_of_infix_ofPath hslash hcolon (.inr rfl) h
  · obtain ⟨host, -, hread⟩ := exists_of_map_eq_ok hread
    have hrest : s.dropWhile (fun c => !(isSlash c || startsSuffix c)) <:+: s :=
      (List.dropWhile_suffix _).isInfix
    cases host with
    | none =>
      rw [← hread] at h
      exact (infix_of_infix_ofPath hslash hcolon (.inr rfl) h).trans (infix_dropBreaks hrest)
    | some host =>
      rw [← hread] at h
      exact (infix_of_infix_ofPath hslash hcolon (.inr rfl) h).trans
        (infix_dropBreaks ((dropSlash_suffix _).isInfix.trans hrest))

theorem afterSlash?_suffix {s r : List Char} (h : afterSlash? s = some r) : r <:+ s := by
  unfold afterSlash? at h
  split at h
  · rename_i c rest hdrop
    split at h
    · rw [← Option.some.inj h]
      exact (List.suffix_cons c rest).trans (hdrop ▸ List.dropWhile_suffix isBreak)
    · cases h
  · cases h

theorem infix_of_ofRest (hslash : '/' ∉ x) (hcolon : ':' ∉ x) {s : List Char} {url : FileUrl}
    (hread : ofRest s = .ok url) (h : x <:+: url.path) : x <:+: dropBreaks s := by
  unfold ofRest at hread
  split at hread
  · rw [← Except.ok.inj hread] at h
    exact infix_of_infix_ofPath hslash hcolon (.inr rfl) h
  · rename_i r hfirst
    split at hread
    · rw [← Except.ok.inj hread] at h
      exact infix_of_infix_ofPath hslash hcolon (.inl rfl) h
    · rename_i rest hsecond
      exact (infix_of_ofAuthority hslash hcolon hread h).trans (infix_dropBreaks
        ((afterSlash?_suffix hsecond).trans (afterSlash?_suffix hfirst)).isInfix)

/-- A stretch of the path of a URL with no slash and no colon in it stands in the URL, breaks left
out. -/
theorem infix_of_parse (hslash : '/' ∉ x) (hcolon : ':' ∉ x) {s : List Char} {url : FileUrl}
    (hread : FileUrl.parse s = .ok url) (h : x <:+: url.path) : x <:+: dropBreaks s :=
  (infix_of_ofRest hslash hcolon hread h).trans
    (infix_dropBreaks ((List.drop_suffix 5 _).isInfix.trans (stripped_isInfix _ s)))

end FileUrl

end DriverClasses.Location
