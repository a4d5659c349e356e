import DriverClasses.Files.Tree
import DriverClasses.Proofs.Text.Pieces

/-!
# Paths that go down from a directory

A *step* is a name that leads from a directory to what stands in it.  A path that is put together
of a directory and of steps is the path of the directory, a slash, and the steps with slashes
between them (`foldl_push`).  It leads where the steps lead from the place of the directory
(`locate_below`), and that is a place below it (`eq_append_of_follow`).
-/

namespace DriverClasses.Files

open DriverClasses.Text

/-- A name that leads one step down. -/
structure IsStep (name : Bytes) : Prop where
  not_empty : name ≠ []
  not_here : name ≠ utf8 "."
  not_up : name ≠ utf8 ".."
  no_slash : slash ∉ name
  no_nul : 0 ∉ name

/-- The path with a slash at its end. -/
def withSlash (path : Bytes) : Bytes :=
  if path.getLast? = some slash then path else path ++ [slash]

/-- The names on a path, without the empty stretches. -/
def namesOn (path : Bytes) : List Bytes := (components path).filter (· ≠ [])

theorem withSlash_ne_nil (path : Bytes) : withSlash path ≠ [] := by
  unfold withSlash
  split
  · rintro rfl
    contradiction
  · simp

/-! ### Putting paths together -/

theorem IsStep.push_eq {name : Bytes} (h : IsStep name) {path : Bytes} (hpath : path ≠ []) :
    push path name = withSlash path ++ name := by
  have hrelative : isAbsolute name = false := by
    cases name with
    | nil => rfl
    | cons b r =>
      refine beq_eq_false_iff_ne.mpr ?_
      rintro rfl
      exact h.no_slash List.mem_cons_self
  unfold push withSlash
  rw [hrelative, if_neg (by decide)]
  by_cases hlast : path.getLast? = some slash
  · rw [if_pos (.inr hlast), if_pos hlast]
  · rw [if_neg (by simp [hpath, hlast]), if_neg hlast]
    simp

theorem IsStep.withSlash_append {name : Bytes} (h : IsStep name) (path : Bytes) :
    withSlash (path ++ name) = path ++ name ++ [slash] := by
  refine if_neg fun hlast => ?_
  rw [List.getLast?_append, List.getLast?_eq_some_getLast h.not_empty, Option.some_or] at hlast
  exact h.no_slash (Option.some.inj hlast ▸ List.getLast_mem h.not_empty)

/-- By induction on the steps; what is put together so far grows by one of them. -/
theorem foldl_push {names : List Bytes} (hne : names ≠ []) (hsteps : ∀ n ∈ names, IsStep n)
    {root : Bytes} (hroot : root ≠ []) :
    names.foldl push root = withSlash root ++ join slash names := by
  induction names generalizing root with
  | nil => exact absurd rfl hne
  | cons name names ih =>
    have hname := hsteps name List.mem_cons_self
    rw [List.foldl_cons, hname.push_eq hroot]
    by_cases hnames : names = []
    · subst hnames
      rfl
    · have hroot' : withSlash root ++ name ≠ [] := by simp [withSlash_ne_nil]
      rw [ih hnames (fun n hn => hsteps n (List.mem_cons_of_mem name hn)) hroot',
        hname.withSlash_append, join_cons slash name hnames]
      simp

theorem isAbsolute_append {root : Bytes} (h : root ≠ []) (t : Bytes) :
    isAbsolute (root ++ t) = isAbsolute root := by
  cases root with
  | nil => exact absurd rfl h
  | cons b r => rfl

theorem isAbsolute_below {root : Bytes} (h : root ≠ []) (t : Bytes) :
    isAbsolute (withSlash root ++ t) = isAbsolute root := by
  unfold withSlash
  split
  · exact isAbsolute_append h t
  · rw [List.append_assoc, isAbsolute_append h]

/-- A path below another one is cut where that one is, and between the steps.  A slash that ends
the other one is no cut of its own any more. -/
theorem components_below (root : Bytes) {names : List Bytes} (hne : names ≠ [])
    (hsteps : ∀ n ∈ names, IsStep n) :
    ∃ front, components (withSlash root ++ join slash names) = front ++ names
      ∧ front ≠ [] ∧ (components root = front ∨ components root = front ++ [[]]) := by
  have hcut : components (join slash names) = names :=
    pieces_join hne fun n hn => (hsteps n hn).no_slash
  have hbelow : ∀ path : Bytes,
      components (path ++ [slash] ++ join slash names) = components path ++ names := by
    intro path
    rw [List.append_assoc, List.singleton_append, components, pieces_append_cons]
    exact congrArg _ hcut
  by_cases hlast : root.getLast? = some slash
  · obtain ⟨front, rfl⟩ := List.getLast?_eq_some_iff.mp hlast
    rw [withSlash, if_pos hlast]
    exact ⟨_, hbelow front, pieces_ne_nil slash front, .inr (pieces_append_cons front [])⟩
  · rw [withSlash, if_neg hlast]
    exact ⟨_, hbelow root, pieces_ne_nil slash root, .inl rfl⟩

theorem namesOn_below (root : Bytes) {names : List Bytes} (hne : names ≠ [])
    (hsteps : ∀ n ∈ names, IsStep n) :
    namesOn (withSlash root ++ join slash names) = namesOn root ++ names := by
  have hall : names.filter (· ≠ []) = names :=
    List.filter_eq_self.mpr fun n hn => decide_eq_true (hsteps n hn).not_empty
  obtain ⟨front, hpath, -, hroot⟩ := components_below root hne hsteps
  unfold namesOn
  rw [hpath, List.filter_append, hall]
  rcases hroot with hroot | hroot <;> rw [hroot]
  rw [List.filter_append]
  simp

/-! ### Following them -/

namespace FileTree

theorem stat_eq_ok_iff {tree : FileTree} {path : Bytes} {item : Item} :
    tree.stat path = .ok item
      ↔ ∃ place, tree.locate path = .ok place ∧ tree.item? place = some item := by
  unfold stat
  cases hplace : tree.locate path with
  | error e => simp [bind, Except.bind]
  | ok place =>
    cases hitem : tree.item? place <;>
      simp [bind, Except.bind, hitem, pure, Except.pure, throw, throwThe, MonadExceptOf.throw]

theorem follow_append (tree : FileTree) (here : Place) (front names : List Bytes) :
    tree.follow here (front ++ names)
      = (tree.follow here front).bind fun place => tree.follow place names := by
  induction front generalizing here with
  | nil => rfl
  | cons name front ih =>
    simp only [List.cons_append, follow, bind]
    cases tree.enter here name with
    | error e => rfl
    | ok place => exact ih place

theorem follow_nothing {tree : FileTree} {here home : Place}
    (h : tree.follow here [[]] = .ok home) : here = home := by
  unfold follow enter at h
  split at h
  · rw [if_pos (.inl rfl)] at h
    exact Except.ok.inj h
  · cases h
  · cases h

theorem locate_eq_ok_iff {tree : FileTree} {path : Bytes} {place : Place} :
    tree.locate path = .ok place
      ↔ 0 ∉ path ∧ path ≠ [] ∧ path.length < pathLimit
        ∧ tree.follow (tree.start path).1 (tree.start path).2 = .ok place := by
  unfold locate checkPath
  by_cases hnul : 0 ∈ path
  · simp [hnul, bind, Except.bind]
  · by_cases hnil : path = []
    · simp [hnil, bind, Except.bind]
    · by_cases hlong : pathLimit ≤ path.length
      · simp [hnul, hnil, hlong, bind, Except.bind, Nat.not_lt.mpr hlong]
      · simp [hnul, hnil, hlong, bind, Except.bind, Nat.lt_of_not_le hlong]

/-- What a path starts with is followed first, whether a slash ends it or not. -/
theorem start_below (tree : FileTree) {root : Bytes} (hroot : root ≠ []) {names : List Bytes}
    (hne : names ≠ []) (hsteps : ∀ n ∈ names, IsStep n) :
    ∃ here front, tree.start (withSlash root ++ join slash names) = (here, front ++ names)
      ∧ (tree.start root = (here, front) ∨ tree.start root = (here, front ++ [[]])) := by
  obtain ⟨front, hpath, hfront, hcut⟩ := components_below root hne hsteps
  unfold start
  rw [isAbsolute_below hroot, hpath]
  cases isAbsolute root
  · exact ⟨_, front, rfl, hcut.imp (congrArg (Prod.mk _)) (congrArg (Prod.mk _))⟩
  · -- The stretch before the first slash is empty and is left out.
    have hdrop : ∀ more : List Bytes, (front ++ more).drop 1 = front.drop 1 ++ more := fun more =>
      List.drop_append_of_le_length (List.length_pos_iff.mpr hfront)
    simp only [if_true, hdrop]
    refine ⟨[], front.drop 1, rfl, ?_⟩
    rcases hcut with hcut | hcut
    · exact .inl (by rw [hcut])
    · exact .inr (by rw [hcut, hdrop])

theorem nul_not_mem_below {root : Bytes} (hroot : 0 ∉ root) {names : List Bytes}
    (hsteps : ∀ n ∈ names, IsStep n) : 0 ∉ withSlash root ++ join slash names := by
  rw [List.mem_append, not_or]
  constructor
  · unfold withSlash
    split
    · exact hroot
    · simp [hroot, slash]
  · intro hnul
    rcases eq_or_mem_of_mem_join names hnul with hslash | ⟨name, hname, hnul⟩
    · exact absurd hslash (by decide)
    · exact (hsteps name hname).no_nul hnul

/-- A path below a directory leads where its steps lead from there, if it is not too long. -/
theorem locate_below {tree : FileTree} {root : Bytes} {home : Place}
    (hroot : tree.locate root = .ok home) {names : List Bytes} (hne : names ≠ [])
    (hsteps : ∀ n ∈ names, IsStep n) :
    tree.locate (withSlash root ++ join slash names)
      = if pathLimit ≤ (withSlash root ++ join slash names).length then .error .nameTooLong
        else tree.follow home names := by
  obtain ⟨hnul, hnil, -, hfollow⟩ := locate_eq_ok_iff.mp hroot
  obtain ⟨here, front, hstart, hfront⟩ := tree.start_below hnil hne hsteps
  have hhome : tree.follow here front = .ok home := by
    rcases hfront with hfront | hfront
    · rwa [hfront] at hfollow
    · rw [hfront, follow_append] at hfollow
      cases hplace : tree.follow here front with
      | error e => rw [hplace] at hfollow; cases hfollow
      | ok place =>
        rw [hplace] at hfollow
        rw [follow_nothing hfollow]
  have hsome : withSlash root ++ join slash names ≠ [] := by simp [withSlash_ne_nil]
  unfold locate checkPath
  rw [if_neg (nul_not_mem_below hnul hsteps), if_neg hsome]
  split
  · rfl
  · simp only [hstart, follow_append, hhome, bind, Except.bind]

theorem IsStep.enter_eq_ok {tree : FileTree} {here place : Place} {name : Bytes}
    (h : IsStep name) (henter : tree.enter here name = .ok place) : place = here ++ [name] := by
  unfold enter at henter
  split at henter
  · rw [if_neg (by simp [h.not_empty, h.not_here]), if_neg h.not_up] at henter
    split at henter
    · cases henter
    · split at henter
      · exact (Except.ok.inj henter).symm
      · cases henter
  · cases henter
  · cases henter

/-- Steps lead down, and nowhere else. -/
theorem eq_append_of_follow {tree : FileTree} {names : List Bytes} (hsteps : ∀ n ∈ names, IsStep n)
    {here place : Place} (h : tree.follow here names = .ok place) : place = here ++ names := by
  induction names generalizing here with
  | nil => simpa [follow] using h.symm
  | cons name names ih =>
    simp only [follow, bind] at h
    cases henter : tree.enter here name with
    | error e => rw [henter] at h; cases h
    | ok next =>
      rw [henter] at h
      rw [ih (fun n hn => hsteps n (List.mem_cons_of_mem name hn)) h,
        IsStep.enter_eq_ok (hsteps name List.mem_cons_self) henter, List.append_assoc]
      rfl

end FileTree

end DriverClasses.Files
