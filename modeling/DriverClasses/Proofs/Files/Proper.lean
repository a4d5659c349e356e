import Mathlib.Data.List.Induction
import DriverClasses.Proofs.Files.Descent

/-!
# Trees that are in order, and what can be in the way

In a proper tree all that is not at the root stands in a directory, under a name that is not too
long.  Steps from a place lead to what stands there, if anything does.  If nothing does, either a
name is missing on the way, or the way is *blocked*: by a file from which there is no step, or by a
name that is too long to be looked for (`Proper.followed`).
-/

namespace DriverClasses.Files

open DriverClasses.Text

namespace FileTree

structure Proper (tree : FileTree) : Prop where
  parent : ∀ {place : Place} {name : Bytes} {item : Item},
    tree.item? (place ++ [name]) = some item → tree.item? place = some .directory
  short : ∀ {place : Place} {name : Bytes} {item : Item},
    tree.item? (place ++ [name]) = some item → name.length ≤ longestName

/-- Some of the steps lead to a file that is to be entered, or to a directory where the name that
comes next is too long. -/
def Blocked (tree : FileTree) (home : Place) (names : List Bytes) : Prop :=
  ∃ front name rest, names = front ++ name :: rest
    ∧ ((∃ bytes, tree.item? (home ++ front) = some (.file bytes))
      ∨ tree.item? (home ++ front) = some .directory ∧ longestName < name.length)

/-- How steps from a place can end. -/
inductive Followed (tree : FileTree) (home : Place) (names : List Bytes) :
    Except FileError Place → Prop
  | there : (tree.item? (home ++ names)).isSome → Followed tree home names (.ok (home ++ names))
  | missing : tree.item? (home ++ names) = none → ¬ tree.Blocked home names →
      Followed tree home names (.error .notFound)
  | blocked {e : FileError} : tree.item? (home ++ names) = none → tree.Blocked home names →
      e ≠ .notFound → Followed tree home names (.error e)

variable {tree : FileTree} {home : Place}

/-- By induction on the names from the far end. -/
theorem Proper.directory_above (hp : tree.Proper) {names : List Bytes} {item : Item}
    (hne : names ≠ []) (h : tree.item? (home ++ names) = some item) :
    tree.item? home = some .directory := by
  induction names using List.reverseRecOn generalizing item with
  | nil => exact absurd rfl hne
  | append_singleton names name ih =>
    rw [← List.append_assoc] at h
    have hparent := hp.parent h
    by_cases hnames : names = []
    · rwa [hnames, List.append_nil] at hparent
    · exact ih hnames hparent

theorem Proper.item?_below_none (hp : tree.Proper) {names : List Bytes} (hne : names ≠ [])
    (h : tree.item? home ≠ some .directory) : tree.item? (home ++ names) = none := by
  rw [Option.eq_none_iff_forall_not_mem]
  exact fun item hitem => h (hp.directory_above hne hitem)

/-- A tree is in order if each entry stands in a directory under a short name. -/
theorem proper_of_items
    (h : ∀ entry ∈ tree.items, tree.item? entry.1.dropLast = some .directory
      ∧ ∀ name ∈ entry.1.getLast?, name.length ≤ longestName) : tree.Proper := by
  have hmem : ∀ {place : Place} {name : Bytes} {item : Item},
      tree.item? (place ++ [name]) = some item → (place ++ [name], item) ∈ tree.items := by
    intro place name item hitem
    unfold item? at hitem
    rw [if_neg (by simp)] at hitem
    obtain ⟨before, after, hsplit, -⟩ := List.lookup_eq_some_iff.mp hitem
    rw [hsplit]
    exact List.mem_append_right _ List.mem_cons_self
  refine ⟨fun hitem => ?_, fun hitem => ?_⟩
  · simpa using (h _ (hmem hitem)).1
  · exact (h _ (hmem hitem)).2 _ (by simp)

/-- Nothing stands below a name that is missing. -/
theorem Proper.item?_cons_none (hp : tree.Proper) {name : Bytes} (names : List Bytes)
    (h : tree.item? (home ++ [name]) = none) : tree.item? (home ++ name :: names) = none := by
  rw [List.append_cons]
  by_cases hnames : names = []
  · rwa [hnames, List.append_nil]
  · exact hp.item?_below_none hnames (by simp [h])

theorem IsStep.enter_directory {name : Bytes} (h : IsStep name)
    (hhome : tree.item? home = some .directory) :
    tree.enter home name
      = if longestName < name.length then .error .nameTooLong
        else if (tree.item? (home ++ [name])).isSome then .ok (home ++ [name])
        else .error .notFound := by
  unfold enter
  rw [hhome]
  dsimp only
  rw [if_neg (by simp [h.not_empty, h.not_here]), if_neg h.not_up]

/-- Nothing is in the way of the steps that are left but what was in the way of all. -/
theorem blocked_cons_iff {name : Bytes} (names : List Bytes)
    (hhome : tree.item? home = some .directory) (hshort : name.length ≤ longestName) :
    tree.Blocked home (name :: names) ↔ tree.Blocked (home ++ [name]) names := by
  constructor
  · rintro ⟨front, next, rest, hsplit, hway⟩
    cases front with
    | nil =>
      rw [List.nil_append, List.cons.injEq] at hsplit
      obtain ⟨rfl, -⟩ := hsplit
      rw [List.append_nil, hhome] at hway
      rcases hway with ⟨bytes, hfile⟩ | ⟨-, hlong⟩
      · cases hfile
      · exact absurd hlong (Nat.not_lt.mpr hshort)
    | cons first front =>
      rw [List.cons_append, List.cons.injEq] at hsplit
      obtain ⟨rfl, hsplit⟩ := hsplit
      exact ⟨front, next, rest, hsplit, by rwa [List.append_cons] at hway⟩
  · rintro ⟨front, next, rest, rfl, hway⟩
    exact ⟨name :: front, next, rest, rfl, by rwa [List.append_cons]⟩

theorem Proper.not_blocked_of_none (hp : tree.Proper) {names : List Bytes}
    (h : tree.item? home = none) : ¬ tree.Blocked home names := by
  rintro ⟨front, name, rest, -, hway⟩
  have hnone : tree.item? (home ++ front) = none := by
    by_cases hfront : front = []
    · rwa [hfront, List.append_nil]
    · exact hp.item?_below_none hfront (by simp [h])
  rw [hnone] at hway
  rcases hway with ⟨bytes, hfile⟩ | ⟨hdirectory, -⟩
  · cases hfile
  · cases hdirectory

/-- Nothing is in the way to what is there. -/
theorem Proper.not_blocked_of_some (hp : tree.Proper) {names : List Bytes} {item : Item}
    (h : tree.item? (home ++ names) = some item) : ¬ tree.Blocked home names := by
  rintro ⟨front, name, rest, rfl, hway⟩
  rw [← List.append_assoc] at h
  rw [hp.directory_above (by simp) h] at hway
  rcases hway with ⟨bytes, hfile⟩ | ⟨-, hlong⟩
  · cases hfile
  · cases hnext : tree.item? (home ++ front ++ [name]) with
    | none => rw [hp.item?_cons_none rest hnext] at h; cases h
    | some next => exact absurd (hp.short hnext) (Nat.not_le.mpr hlong)

theorem Followed.cons {name : Bytes} {names : List Bytes} {ending : Except FileError Place}
    (hway : tree.Blocked home (name :: names) ↔ tree.Blocked (home ++ [name]) names)
    (h : Followed tree (home ++ [name]) names ending) :
    Followed tree home (name :: names) ending := by
  cases h with
  | there hthere =>
    rw [← List.append_cons] at hthere ⊢
    exact .there hthere
  | missing hnone hfree =>
    rw [← List.append_cons] at hnone
    exact .missing hnone (mt hway.mp hfree)
  | blocked hnone hblocked he =>
    rw [← List.append_cons] at hnone
    exact .blocked hnone (hway.mpr hblocked) he

/-- Steps that start at something that is there end in one of the three ways. -/
theorem Proper.followed (hp : tree.Proper) {names : List Bytes} (hsteps : ∀ n ∈ names, IsStep n)
    (hhome : (tree.item? home).isSome) : Followed tree home names (tree.follow home names) := by
  induction names generalizing home with
  | nil =>
    have hthere : Followed tree home [] (.ok (home ++ [])) := .there (by rwa [List.append_nil])
    rwa [List.append_nil] at hthere
  | cons name names ih =>
    have hname := hsteps name List.mem_cons_self
    have hfollow : tree.follow home (name :: names)
        = (tree.enter home name).bind fun place => tree.follow place names := rfl
    obtain ⟨item, hitem⟩ := Option.isSome_iff_exists.mp hhome
    have hhere : tree.item? (home ++ []) = some item := by rwa [List.append_nil]
    cases item with
    | file bytes =>
      have henter : tree.enter home name = .error .notADirectory := by
        unfold enter
        rw [hitem]
      rw [hfollow, henter]
      refine .blocked (hp.item?_below_none (by simp) (by simp [hitem])) ?_ (by decide)
      exact ⟨[], name, names, rfl, .inl ⟨bytes, hhere⟩⟩
    | directory =>
      rw [hfollow, IsStep.enter_directory hname hitem]
      by_cases hlong : longestName < name.length
      · have hnone : tree.item? (home ++ [name]) = none := by
          rw [Option.eq_none_iff_forall_not_mem]
          exact fun item h => absurd (hp.short h) (Nat.not_le.mpr hlong)
        rw [if_pos hlong]
        exact .blocked (hp.item?_cons_none names hnone)
          ⟨[], name, names, rfl, .inr ⟨hhere, hlong⟩⟩ (by decide)
      · have hway := blocked_cons_iff names hitem (Nat.le_of_not_lt hlong)
        rw [if_neg hlong]
        by_cases hnext : (tree.item? (home ++ [name])).isSome
        · rw [if_pos hnext]
          exact (ih (fun n hn => hsteps n (List.mem_cons_of_mem name hn)) hnext).cons hway
        · have hnone : tree.item? (home ++ [name]) = none := by simpa using hnext
          rw [if_neg hnext]
          exact .missing (hp.item?_cons_none names hnone)
            (mt hway.mp (hp.not_blocked_of_none hnone))

end FileTree

end DriverClasses.Files
