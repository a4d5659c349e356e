import Mathlib.Logic.Function.Iterate
import DriverClasses.Location.PathList
import DriverClasses.Proofs.Text.Placed

/-!
# Drives among the pieces of a segment

A segment is cut at its colons, and where the letter of a drive is followed by a path on it, the
two pieces are put together again.  Which pieces these are can be told from neighbours alone: what
follows the letter of a drive is no such letter itself, so no piece could belong to two drives
(`PutOut`, `mem_placed_joinDrives_iff`).  Nothing is lost, for the segment can be put together from
what comes out (`join_joinDrives`), and the loop that does all this comes to its end after as many
turns as there are pieces, or earlier (`exists_iterate_turn`).
-/

namespace DriverClasses.Location

open DriverClasses.Text

variable {p q e : List Char} {ps qs r before : List (List Char)} {k n : Nat}

/-- The two pieces are the letter of a drive and a path on it. -/
def IsDrive (p q : List Char) : Prop := (isDriveLetter p && startsBackslash q) = true

theorem isDriveLetter_iff : isDriveLetter p = true ↔ ∃ c, p = [c] ∧ c.isAlpha = true := by
  unfold isDriveLetter
  split <;> simp_all

theorem startsBackslash_iff : startsBackslash p = true ↔ ∃ path, p = '\\' :: path := by
  unfold startsBackslash
  split <;> simp_all

theorem isDrive_iff :
    IsDrive p q ↔ ∃ c path, p = [c] ∧ c.isAlpha = true ∧ q = '\\' :: path := by
  unfold IsDrive
  rw [Bool.and_eq_true, isDriveLetter_iff, startsBackslash_iff]
  constructor
  · rintro ⟨⟨c, hp, hc⟩, path, hq⟩
    exact ⟨c, path, hp, hc, hq⟩
  · rintro ⟨c, path, hp, hc, hq⟩
    exact ⟨⟨c, hp, hc⟩, path, hq⟩

/-- A path on a drive is not the letter of another one. -/
theorem IsDrive.not_isDrive (h : IsDrive p q) (next : List Char) : ¬ IsDrive q next := by
  rw [isDrive_iff] at h ⊢
  obtain ⟨-, path, -, -, rfl⟩ := h
  rintro ⟨c, -, hletter, hc, -⟩
  obtain ⟨rfl, -⟩ := List.cons.inj hletter
  exact absurd hc (by decide)

/-! ### What comes out -/

/-- What comes out for the pieces `ps` behind some of them: a drive, or a piece that belongs to
no drive. -/
inductive PutOut (ps : List (List Char)) : (before : List (List Char)) → List Char → Prop
  | drive {before after : List (List Char)} {p q : List Char} : ps = before ++ p :: q :: after →
      IsDrive p q → PutOut ps before (p ++ ':' :: q)
  | piece {before after : List (List Char)} {p : List Char} : ps = before ++ p :: after →
      (∀ next ∈ after.head?, ¬ IsDrive p next) → (∀ last ∈ before.getLast?, ¬ IsDrive last p) →
      PutOut ps before p

theorem forall_getLast?_cons {α : Type} {P : α → Prop} {a : α} {l : List α} :
    (∀ x ∈ (a :: l).getLast?, P x) ↔ (l = [] → P a) ∧ ∀ x ∈ l.getLast?, P x := by
  cases l <;> simp

theorem putOut_of_isDrive (h : IsDrive p q) :
    PutOut (p :: q :: r) before e
      ↔ before = [] ∧ e = p ++ ':' :: q ∨ ∃ front, before = p :: q :: front ∧ PutOut r front e := by
  constructor
  · intro hout
    cases hout with
    | drive hsplit hdrive =>
      obtain _ | ⟨_, _ | ⟨_, front⟩⟩ := before
      · cases hsplit
        exact .inl ⟨rfl, rfl⟩
      · cases hsplit
        exact absurd hdrive (h.not_isDrive _)
      · cases hsplit
        exact .inr ⟨front, rfl, .drive rfl hdrive⟩
    | piece hsplit hnext hlast =>
      obtain _ | ⟨_, _ | ⟨_, front⟩⟩ := before
      · cases hsplit
        exact absurd h (hnext q rfl)
      · cases hsplit
        exact absurd h (hlast p rfl)
      · cases hsplit
        have hlast := (forall_getLast?_cons.mp (forall_getLast?_cons.mp hlast).2).2
        exact .inr ⟨front, rfl, .piece rfl hnext hlast⟩
  · rintro (⟨rfl, rfl⟩ | ⟨front, rfl, hout⟩)
    · exact .drive rfl h
    · cases hout with
      | drive hsplit hdrive => exact .drive (by rw [hsplit]; rfl) hdrive
      | piece hsplit hnext hlast =>
        have hbehind : ∀ last ∈ (q :: front).getLast?, ¬ IsDrive last e :=
          forall_getLast?_cons.mpr ⟨fun _ => h.not_isDrive e, hlast⟩
        exact .piece (by rw [hsplit]; rfl) hnext (forall_getLast?_cons.mpr ⟨nofun, hbehind⟩)

theorem putOut_of_not_isDrive (h : ¬ IsDrive p q) :
    PutOut (p :: q :: r) before e
      ↔ before = [] ∧ e = p ∨ ∃ front, before = p :: front ∧ PutOut (q :: r) front e := by
  constructor
  · intro hout
    cases hout with
    | drive hsplit hdrive =>
      obtain _ | ⟨_, front⟩ := before
      · cases hsplit
        exact absurd hdrive h
      · obtain ⟨rfl, hrest⟩ := List.cons.inj hsplit
        exact .inr ⟨front, rfl, .drive hrest hdrive⟩
    | piece hsplit hnext hlast =>
      obtain _ | ⟨_, front⟩ := before
      · cases hsplit
        exact .inl ⟨rfl, rfl⟩
      · obtain ⟨rfl, hrest⟩ := List.cons.inj hsplit
        exact .inr ⟨front, rfl, .piece hrest hnext (forall_getLast?_cons.mp hlast).2⟩
  · rintro (⟨rfl, rfl⟩ | ⟨front, rfl, hout⟩)
    · refine .piece rfl (fun next hmem => ?_) nofun
      obtain rfl : q = next := by simpa using hmem
      exact h
    · cases hout with
      | drive hsplit hdrive => exact .drive (by rw [hsplit]; rfl) hdrive
      | piece hsplit hnext hlast =>
        refine .piece (by rw [hsplit]; rfl) hnext (forall_getLast?_cons.mpr ⟨?_, hlast⟩)
        rintro rfl
        obtain ⟨rfl, -⟩ := List.cons.inj hsplit
        exact h

theorem putOut_singleton : PutOut [p] before e ↔ before = [] ∧ e = p := by
  constructor
  · intro hout
    cases hout with
    | drive hsplit _ => obtain _ | ⟨_, _ | ⟨_, front⟩⟩ := before <;> cases hsplit
    | piece hsplit _ _ =>
      obtain _ | ⟨_, _ | ⟨_, front⟩⟩ := before <;> cases hsplit
      exact ⟨rfl, rfl⟩
  · rintro ⟨rfl, rfl⟩
    exact .piece rfl (fun next hmem => by cases hmem) fun last hmem => by cases hmem

/-- By the recursion of `joinDrives`. -/
theorem mem_placed_joinDrives_iff :
    (n, e) ∈ placed k (joinDrives ps) ↔ ∃ before, PutOut ps before e ∧ n = k + widths before := by
  induction ps using joinDrives.induct generalizing k with
  | case1 =>
    refine iff_of_false (by simp [joinDrives, placed]) ?_
    rintro ⟨before, ⟨hsplit, -⟩ | ⟨hsplit, -, -⟩, -⟩ <;> simp at hsplit
  | case2 p =>
    simp only [joinDrives, placed, List.mem_singleton, Prod.mk.injEq, putOut_singleton]
    constructor
    · rintro ⟨rfl, rfl⟩
      exact ⟨[], ⟨rfl, rfl⟩, rfl⟩
    · rintro ⟨before, ⟨rfl, rfl⟩, rfl⟩
      exact ⟨rfl, rfl⟩
  | case3 p q r hdrive ih =>
    rw [joinDrives, if_pos hdrive, placed, List.mem_cons, ih, Prod.mk.injEq]
    simp only [putOut_of_isDrive hdrive]
    constructor
    · rintro (⟨rfl, rfl⟩ | ⟨front, hout, rfl⟩)
      · exact ⟨[], .inl ⟨rfl, rfl⟩, rfl⟩
      · refine ⟨p :: q :: front, .inr ⟨front, rfl, hout⟩, ?_⟩
        simp only [widths_cons, List.length_append, List.length_cons]
        omega
    · rintro ⟨before, ⟨rfl, rfl⟩ | ⟨front, rfl, hout⟩, rfl⟩
      · exact .inl ⟨rfl, rfl⟩
      · refine .inr ⟨front, hout, ?_⟩
        simp only [widths_cons, List.length_append, List.length_cons]
        omega
  | case4 p q r hplain ih =>
    rw [joinDrives, if_neg hplain, placed, List.mem_cons, ih, Prod.mk.injEq]
    simp only [putOut_of_not_isDrive hplain]
    constructor
    · rintro (⟨rfl, rfl⟩ | ⟨front, hout, rfl⟩)
      · exact ⟨[], .inl ⟨rfl, rfl⟩, rfl⟩
      · exact ⟨p :: front, .inr ⟨front, rfl, hout⟩, by rw [widths_cons]; omega⟩
    · rintro ⟨before, ⟨rfl, rfl⟩ | ⟨front, rfl, hout⟩, rfl⟩
      · exact .inl ⟨rfl, rfl⟩
      · exact .inr ⟨front, hout, by rw [widths_cons]; omega⟩

theorem mem_joinDrives_iff : e ∈ joinDrives ps ↔ ∃ before, PutOut ps before e := by
  constructor
  · intro he
    rw [← map_snd_placed 0 (joinDrives ps)] at he
    obtain ⟨⟨n, _⟩, hmem, rfl⟩ := List.mem_map.mp he
    obtain ⟨before, hout, -⟩ := mem_placed_joinDrives_iff.mp hmem
    exact ⟨before, hout⟩
  · rintro ⟨before, hout⟩
    rw [← map_snd_placed 0 (joinDrives ps)]
    exact List.mem_map_of_mem (mem_placed_joinDrives_iff.mpr ⟨before, hout, rfl⟩)

/-! ### Nothing is lost -/

theorem joinDrives_ne_nil (h : ps ≠ []) : joinDrives ps ≠ [] := by
  cases ps using joinDrives.fun_cases with
  | case1 => exact absurd rfl h
  | case2 p => simp [joinDrives]
  | case3 p q r hdrive => simp [joinDrives, hdrive]
  | case4 p q r hplain => simp [joinDrives, hplain]

theorem join_joinDrives (ps : List (List Char)) : join ':' (joinDrives ps) = join ':' ps := by
  induction ps using joinDrives.induct with
  | case1 => rfl
  | case2 p => rfl
  | case3 p q r hdrive ih =>
    rw [joinDrives, if_pos hdrive, join]
    cases r with
    | nil => rfl
    | cons s r =>
      rw [join_cons ':' _ (joinDrives_ne_nil (List.cons_ne_nil s r)), ih, join, List.append_assoc,
        List.cons_append]
  | case4 p q r hplain ih =>
    rw [joinDrives, if_neg hplain, join, join_cons ':' p (joinDrives_ne_nil (List.cons_ne_nil q r)),
      ih]

/-- It stands behind the pieces in front of it. -/
theorem PutOut.exists_append (h : PutOut ps before e) :
    ∃ front rest, front.length = widths before ∧ join ':' ps = front ++ (e ++ rest) := by
  cases h with
  | @drive after p q hsplit _ =>
    obtain ⟨front, hfront, hjoin⟩ := exists_join_append ':' before
      (List.cons_ne_nil p (q :: after))
    obtain ⟨rest, hrest⟩ := prefix_join_cons ':' q after
    refine ⟨front, rest, hfront, ?_⟩
    rw [hsplit, hjoin, join, ← hrest, List.append_assoc, List.cons_append]
  | @piece after _ hsplit _ _ =>
    obtain ⟨front, hfront, hjoin⟩ := exists_join_append ':' before
      (List.cons_ne_nil e after)
    obtain ⟨rest, hrest⟩ := prefix_join_cons ':' e after
    refine ⟨front, rest, hfront, ?_⟩
    rw [hsplit, hjoin, hrest]

/-- What comes out for a text is a stretch of it. -/
theorem infix_of_mem_joinDrives {s : List Char} (h : e ∈ joinDrives (pieces ':' s)) : e <:+: s := by
  have hinside := infix_join_of_mem ':' h
  rwa [join_joinDrives, join_pieces] at hinside

theorem exists_infix_of_mem (hp : p ∈ ps) : ∃ e ∈ joinDrives ps, p <:+: e := by
  induction ps using joinDrives.induct with
  | case1 => cases hp
  | case2 q => exact ⟨p, hp, List.infix_rfl⟩
  | case3 q s r hdrive ih =>
    rw [joinDrives, if_pos hdrive]
    rcases List.mem_cons.mp hp with rfl | hp
    · exact ⟨_, List.mem_cons_self, (List.prefix_append p _).isInfix⟩
    · rcases List.mem_cons.mp hp with rfl | hp
      · have hbehind := (List.suffix_cons ':' p).trans (List.suffix_append q _)
        exact ⟨_, List.mem_cons_self, hbehind.isInfix⟩
      · obtain ⟨e, he, hinside⟩ := ih hp
        exact ⟨e, List.mem_cons_of_mem _ he, hinside⟩
  | case4 q s r hplain ih =>
    rw [joinDrives, if_neg hplain]
    rcases List.mem_cons.mp hp with rfl | hp
    · exact ⟨p, List.mem_cons_self, List.infix_rfl⟩
    · obtain ⟨e, he, hinside⟩ := ih hp
      exact ⟨e, List.mem_cons_of_mem _ he, hinside⟩

/-! ### Pieces in front of others -/

theorem joinDrives_of_isDrive (h : IsDrive p q) (r : List (List Char)) :
    joinDrives (p :: q :: r) = (p ++ ':' :: q) :: joinDrives r := if_pos h

theorem joinDrives_of_not_isDrive (h : ¬ IsDrive p q) (r : List (List Char)) :
    joinDrives (p :: q :: r) = p :: joinDrives (q :: r) := if_neg h

/-- Only the letter of a drive has to do with the piece behind it. -/
theorem joinDrives_append (h : ∀ p ∈ ps.getLast?, isDriveLetter p = false) :
    joinDrives (ps ++ qs) = joinDrives ps ++ joinDrives qs := by
  induction ps using joinDrives.induct with
  | case1 => rfl
  | case2 p =>
    have hp : isDriveLetter p = false := h p rfl
    cases qs with
    | nil => rfl
    | cons q qs => exact joinDrives_of_not_isDrive (by simp [IsDrive, hp]) qs
  | case3 p q r hdrive ih =>
    have hrest := (forall_getLast?_cons.mp (forall_getLast?_cons.mp h).2).2
    rw [List.cons_append, List.cons_append, joinDrives_of_isDrive hdrive, ih hrest,
      joinDrives_of_isDrive hdrive, List.cons_append]
  | case4 p q r hplain ih =>
    rw [List.cons_append, List.cons_append, joinDrives_of_not_isDrive hplain, ← List.cons_append,
      ih (forall_getLast?_cons.mp h).2, joinDrives_of_not_isDrive hplain, List.cons_append]

/-! ### The loop -/

/-- One turn of the loop: what has come out so far, and the pieces that are left. -/
def turn : List (List Char) × List (List Char) → List (List Char) × List (List Char)
  | (out, []) => (out, [])
  | (out, [p]) => (out ++ [p], [])
  | (out, p :: q :: r) =>
    if isDriveLetter p && startsBackslash q then (out ++ [p ++ ':' :: q], r)
    else (out ++ [p], q :: r)

theorem exists_iterate_turn (out ps : List (List Char)) :
    ∃ turns ≤ ps.length, turn^[turns] (out, ps) = (out ++ joinDrives ps, []) := by
  induction ps using joinDrives.induct generalizing out with
  | case1 => exact ⟨0, Nat.le_refl 0, by simp [joinDrives]⟩
  | case2 p => exact ⟨1, Nat.le_refl 1, rfl⟩
  | case3 p q r hdrive ih =>
    obtain ⟨turns, hturns, hend⟩ := ih (out ++ [p ++ ':' :: q])
    refine ⟨turns + 1, by simp only [List.length_cons]; omega, ?_⟩
    rw [Function.iterate_succ_apply, turn, if_pos hdrive, hend, joinDrives, if_pos hdrive,
      List.append_assoc, List.singleton_append]
  | case4 p q r hplain ih =>
    obtain ⟨turns, hturns, hend⟩ := ih (out ++ [p])
    refine ⟨turns + 1, by simp only [List.length_cons] at hturns ⊢; omega, ?_⟩
    rw [Function.iterate_succ_apply, turn, if_neg hplain, hend, joinDrives, if_neg hplain,
      List.append_assoc, List.singleton_append]

end DriverClasses.Location
