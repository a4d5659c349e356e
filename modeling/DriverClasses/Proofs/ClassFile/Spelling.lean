import DriverClasses.ClassFile.ModifiedUtf8

/-!
# Bytes that spell a text

Decoding never fails, so it takes a definition of its own to say that bytes are well formed.  Bytes
*spell* a text if they split into groups with nothing left over, and the UTF-16 units of the groups
are single characters or pairs of surrogates (`Spells`).  What spells a text is decoded as that text
in the midst of any other bytes (`Spells.decode_append`), and what does not spell one leaves a
U+FFFD behind (`spells_of_not_mem`).
-/

namespace DriverClasses.ClassFile.ModifiedUtf8

/-- A group of bytes, a leading one and the continuation bytes that it calls for, and the UTF-16
units that the group stands for.  Four bytes stand for a scalar. -/
inductive Group : List UInt8 → List Nat → Prop
  | one {a : UInt8} : a.toNat < 0x80 → Group [a] [a.toNat]
  | two {a b : UInt8} :
      0xC0 ≤ a.toNat → a.toNat < 0xE0 → isContinuation b = true →
      Group [a, b] [a.toNat % 32 * 64 + lowBits b]
  | three {a b c : UInt8} :
      0xE0 ≤ a.toNat → a.toNat < 0xF0 → isContinuation b = true → isContinuation c = true →
      Group [a, b, c] [a.toNat % 16 * 4096 + lowBits b * 64 + lowBits c]
  | four {a b c d : UInt8} {value : Nat} :
      0xF0 ≤ a.toNat → a.toNat < 0xF8 → isContinuation b = true → isContinuation c = true →
      isContinuation d = true →
      value = a.toNat % 8 * 262144 + lowBits b * 4096 + lowBits c * 64 + lowBits d →
      isScalar value = true → Group [a, b, c, d] (unitsOfScalar value)

/-- Bytes that split into groups, and the units of these. -/
inductive Grouped : List UInt8 → List Nat → Prop
  | nil : Grouped [] []
  | cons {bytes rest : List UInt8} {us vs : List Nat} :
      Group bytes us → Grouped rest vs → Grouped (bytes ++ rest) (us ++ vs)

def isSurrogate (u : Nat) : Bool := isHighSurrogate u || isLowSurrogate u

/-- Units in which every surrogate has its partner, and the characters that they stand for. -/
inductive Paired : List Nat → List Char → Prop
  | nil : Paired [] []
  | single {u : Nat} {us : List Nat} {cs : List Char} :
      isSurrogate u = false → Paired us cs → Paired (u :: us) (Char.ofNat u :: cs)
  | pair {u v : Nat} {us : List Nat} {cs : List Char} :
      isHighSurrogate u = true → isLowSurrogate v = true → Paired us cs →
      Paired (u :: v :: us) (pair u v :: cs)

/-- The bytes are a text, all of them. -/
def Spells (bytes : List UInt8) (cs : List Char) : Prop := ∃ us, Grouped bytes us ∧ Paired us cs

/-! ### Groups that are read -/

theorem units_length_append (tail rest : List UInt8) :
    units tail.length (tail ++ rest) = units 0 rest := by
  induction tail with
  | nil => rfl
  | cons b tail ih => exact ih

/-- A group is read as such, whatever stands behind it. -/
theorem Group.group_eq {a : UInt8} {tail : List UInt8} {us : List Nat} (h : Group (a :: tail) us)
    (rest : List UInt8) : group a (tail ++ rest) = (us, tail.length) := by
  cases h with
  | one ha => simp [group, ha]
  | two hlow hhigh hb =>
    have ha : ¬ a.toNat < 0x80 := by omega
    simp [group, ha, hlow, hhigh, hb]
  | three hlow hhigh hb hc =>
    have ha : ¬ a.toNat < 0x80 := by omega
    have htwo : ¬ a.toNat < 0xE0 := by omega
    simp [group, ha, htwo, hlow, hhigh, hb, hc]
  | four hlow hhigh hb hc hd hvalue hscalar =>
    have ha : ¬ a.toNat < 0x80 := by omega
    have htwo : ¬ a.toNat < 0xE0 := by omega
    have hthree : ¬ a.toNat < 0xF0 := by omega
    subst hvalue
    simp [group, ha, htwo, hthree, hlow, hhigh, hb, hc, hd, hscalar]

theorem Group.exists_cons {bytes : List UInt8} {us : List Nat} (h : Group bytes us) :
    ∃ a tail, bytes = a :: tail ∧ isContinuation a = false := by
  cases h with
  | one ha => exact ⟨_, _, rfl, by simp [isContinuation]; omega⟩
  | two hlow _ _ | three hlow _ _ _ | four hlow _ _ _ _ _ _ =>
    exact ⟨_, _, rfl, by simp [isContinuation]; omega⟩

theorem Grouped.units_append {bytes : List UInt8} {us : List Nat} (h : Grouped bytes us)
    (rest : List UInt8) : units 0 (bytes ++ rest) = us ++ units 0 rest := by
  induction h with
  | nil => rfl
  | cons hgroup _ ih =>
    obtain ⟨a, tail, rfl, -⟩ := hgroup.exists_cons
    rw [List.append_assoc, List.cons_append, units, hgroup.group_eq]
    dsimp only
    rw [units_length_append, ih, List.append_assoc]

/-- Bytes that begin with no continuation byte add nothing to a group that begins before them. -/
theorem group_append (a : UInt8) (r : List UInt8) {q : List UInt8}
    (hq : ∀ b ∈ q.head?, isContinuation b = false) : group a (r ++ q) = group a r := by
  cases q with
  | nil => rw [List.append_nil]
  | cons x q =>
    have hx : isContinuation x = false := hq x rfl
    match r with
    | [] => cases q with
      | nil => simp [group, hx]
      | cons y q => cases q <;> simp [group, hx]
    | [b] => cases q <;> simp [group, hx]
    | [b, c] => simp [group, hx]
    | b :: c :: d :: r => rfl

theorem group_snd_le (a : UInt8) (r : List UInt8) : (group a r).2 ≤ r.length := by
  unfold group
  dsimp only
  repeat' split
  all_goals simp

theorem units_append {q : List UInt8} (hq : ∀ b ∈ q.head?, isContinuation b = false) :
    ∀ (p : List UInt8) (skip : Nat), skip ≤ p.length →
      units skip (p ++ q) = units skip p ++ units 0 q
  | [], skip, hskip => by
    obtain rfl : skip = 0 := Nat.le_zero.mp hskip
    cases q <;> rfl
  | _ :: r, skip + 1, hskip => units_append hq r skip (Nat.le_of_succ_le_succ hskip)
  | a :: r, 0, _ => by
    rw [List.cons_append, units, units, group_append a r hq]
    dsimp only
    rw [units_append hq r _ (group_snd_le a r), List.append_assoc]

/-! ### Surrogates that are paired -/

theorem lone_of_isSurrogate {u : Nat} (hu : isSurrogate u = true) : lone u = '\uFFFD' := by
  rw [isSurrogate] at hu
  rw [lone, if_pos hu]
  rfl

theorem lone_of_not_isSurrogate {u : Nat} (hu : isSurrogate u = false) :
    lone u = Char.ofNat u := by
  rw [isSurrogate] at hu
  rw [lone, hu]
  rfl

theorem chars_cons_of_not_isSurrogate {u : Nat} (hu : isSurrogate u = false) (us : List Nat) :
    chars (u :: us) = Char.ofNat u :: chars us := by
  have hlone := lone_of_not_isSurrogate hu
  cases us with
  | nil => exact congrArg (· :: []) hlone
  | cons v us =>
    rw [isSurrogate, Bool.or_eq_false_iff] at hu
    rw [chars, hu.1, Bool.false_and, if_neg (by simp), hlone]

theorem chars_pair {u v : Nat} (hu : isHighSurrogate u = true) (hv : isLowSurrogate v = true)
    (us : List Nat) : chars (u :: v :: us) = pair u v :: chars us := by
  rw [chars, hu, hv, Bool.and_self, if_pos rfl]

theorem Paired.chars_append {us : List Nat} {cs : List Char} (h : Paired us cs)
    (rest : List Nat) : chars (us ++ rest) = cs ++ chars rest := by
  induction h with
  | nil => rfl
  | single hu _ ih => rw [List.cons_append, chars_cons_of_not_isSurrogate hu, ih, List.cons_append]
  | pair hu hv _ ih =>
    rw [List.cons_append, List.cons_append, chars_pair hu hv, ih, List.cons_append]

theorem not_low_of_isHighSurrogate {u : Nat} (h : isHighSurrogate u = true) :
    isLowSurrogate u = false := by
  simp only [isHighSurrogate, isLowSurrogate, Bool.and_eq_true, decide_eq_true_eq] at h ⊢
  simp
  omega

theorem Paired.head?_not_low {us : List Nat} {cs : List Char} (h : Paired us cs) :
    ∀ u ∈ us.head?, isLowSurrogate u = false := by
  cases h with
  | nil => simp
  | single hu =>
    rw [isSurrogate, Bool.or_eq_false_iff] at hu
    simpa using hu.2
  | pair hu => simpa using not_low_of_isHighSurrogate hu

/-- Units that begin with no low surrogate leave a high one before them without its partner. -/
theorem chars_append {vs : List Nat} (hvs : ∀ v ∈ vs.head?, isLowSurrogate v = false)
    (us : List Nat) : chars (us ++ vs) = chars us ++ chars vs := by
  fun_induction chars us with
  | case1 => rfl
  | case2 u =>
    cases vs with
    | nil => rfl
    | cons v vs =>
      have hv : isLowSurrogate v = false := hvs v rfl
      rw [List.singleton_append, chars, hv, Bool.and_false, if_neg (by simp)]
      rfl
  | case3 u v us hpair ih =>
    rw [List.cons_append, List.cons_append, chars, if_pos hpair, ih, List.cons_append]
  | case4 u v us hpair ih =>
    rw [List.cons_append, List.cons_append, chars, if_neg hpair, ← List.cons_append, ih,
      List.cons_append]

/-! ### What is spelled is read -/

theorem Spells.append {bytes rest : List UInt8} {cs ds : List Char} (h : Spells bytes cs)
    (h' : Spells rest ds) : Spells (bytes ++ rest) (cs ++ ds) := by
  obtain ⟨us, hbytes, hcs⟩ := h
  obtain ⟨vs, hrest, hds⟩ := h'
  refine ⟨us ++ vs, ?_, ?_⟩
  · clear hcs
    induction hbytes with
    | nil => exact hrest
    | cons hgroup _ ih =>
      rw [List.append_assoc, List.append_assoc]
      exact .cons hgroup ih
  · clear hbytes
    induction hcs with
    | nil => exact hds
    | single hu _ ih => exact .single hu ih
    | pair hu hv _ ih => exact .pair hu hv ih

theorem Grouped.head?_not_continuation {bytes : List UInt8} {us : List Nat}
    (h : Grouped bytes us) (hne : bytes ≠ []) (rest : List UInt8) :
    ∀ b ∈ (bytes ++ rest).head?, isContinuation b = false := by
  cases h with
  | nil => exact absurd rfl hne
  | cons hgroup =>
    obtain ⟨a, tail, rfl, ha⟩ := hgroup.exists_cons
    simpa using ha

/-- What spells a text is read as that text wherever it stands, and what stands before and behind it
is read as it is by itself. -/
theorem Spells.decode_append {bytes : List UInt8} {cs : List Char} (h : Spells bytes cs)
    (hne : cs ≠ []) (p q : List UInt8) :
    decode (p ++ bytes ++ q) = decode p ++ String.ofList cs ++ decode q := by
  obtain ⟨us, hgrouped, hpaired⟩ := h
  have hus : us ≠ [] := by
    rintro rfl
    cases hpaired
    exact hne rfl
  have hbytes : bytes ≠ [] := by
    rintro rfl
    generalize hnil : ([] : List UInt8) = bytes at hgrouped
    cases hgrouped with
    | nil => exact hus rfl
    | cons hgroup =>
      obtain ⟨a, tail, rfl, -⟩ := hgroup.exists_cons
      cases hnil
  have hlow : ∀ u ∈ (us ++ units 0 q).head?, isLowSurrogate u = false := by
    obtain ⟨u, us, rfl⟩ := List.exists_cons_of_ne_nil hus
    exact hpaired.head?_not_low
  unfold decode
  rw [List.append_assoc,
    units_append (hgrouped.head?_not_continuation hbytes q) p 0 (Nat.zero_le _),
    hgrouped.units_append, chars_append hlow, hpaired.chars_append, String.ofList_append,
    String.ofList_append, String.append_assoc]

theorem Spells.decode_eq {bytes : List UInt8} {cs : List Char} (h : Spells bytes cs) :
    decode bytes = String.ofList cs := by
  obtain ⟨us, hgrouped, hpaired⟩ := h
  rw [decode, ← List.append_nil bytes, hgrouped.units_append, hpaired.chars_append]
  exact congrArg String.ofList (List.append_nil cs)

/-! ### What is not spelled leaves a replacement -/

/-- Either a group is read, or there is a replacement for it. -/
theorem group_cases (a : UInt8) (r : List UInt8) :
    (∃ tail rest us, r = tail ++ rest ∧ Group (a :: tail) us ∧ group a r = (us, tail.length))
      ∨ replacement ∈ (group a r).1 := by
  have hlost : replacement ∈ ([replacement], 0).1 := List.mem_singleton_self _
  have hnext : ∀ {low high : Nat} {b : Bool},
      (decide (low ≤ a.toNat) && decide (a.toNat < high) && b) = true →
        low ≤ a.toNat ∧ a.toNat < high ∧ b = true := by
    intro low high b h
    simpa only [Bool.and_eq_true, decide_eq_true_eq, and_assoc] using h
  -- Where a byte is missing or is not the one that is called for, nothing is read.
  unfold group
  dsimp only
  split
  · rename_i ha
    exact .inl ⟨[], r, _, rfl, .one ha, rfl⟩
  split
  rotate_left
  · exact .inr hlost
  rename_i b r'
  split
  · rename_i htwo
    obtain ⟨hlow, hhigh, hb⟩ := hnext htwo
    exact .inl ⟨[b], r', _, rfl, .two hlow hhigh hb, rfl⟩
  split
  rotate_left
  · exact .inr hlost
  rename_i c r''
  split
  · rename_i hthree
    rw [Bool.and_assoc] at hthree
    obtain ⟨hlow, hhigh, hbc⟩ := hnext hthree
    obtain ⟨hb, hc⟩ := Bool.and_eq_true_iff.mp hbc
    exact .inl ⟨[b, c], r'', _, rfl, .three hlow hhigh hb hc, rfl⟩
  split
  rotate_left
  · exact .inr hlost
  rename_i d rest
  split
  rotate_left
  · exact .inr hlost
  rename_i hfour
  rw [Bool.and_assoc, Bool.and_assoc, ← Bool.and_assoc (isContinuation b)] at hfour
  obtain ⟨hlow, hhigh, hbcd⟩ := hnext hfour
  obtain ⟨hbc, hd⟩ := Bool.and_eq_true_iff.mp hbcd
  obtain ⟨hb, hc⟩ := Bool.and_eq_true_iff.mp hbc
  split
  · rename_i hscalar
    exact .inl ⟨[b, c, d], rest, _, rfl, .four hlow hhigh hb hc hd rfl hscalar, rfl⟩
  · exact .inr hlost

/-- By induction on the number of bytes. -/
theorem grouped_of_not_mem_units : ∀ (bytes : List UInt8), replacement ∉ units 0 bytes →
    Grouped bytes (units 0 bytes)
  | [], _ => .nil
  | a :: r, h => by
    rcases group_cases a r with ⟨tail, rest, us, hr, hgroup, heq⟩ | hlost
    · have hshorter : rest.length < (a :: r).length := by
        rw [hr, List.length_cons, List.length_append]
        omega
      have hunits : units 0 (a :: r) = us ++ units 0 rest := by
        rw [units, heq]
        dsimp only
        rw [hr, units_length_append]
      rw [hunits] at h ⊢
      have hrest := grouped_of_not_mem_units rest fun hmem => h (List.mem_append_right us hmem)
      rw [hr]
      exact .cons hgroup hrest
    · exact absurd (List.mem_append_left _ hlost) h
termination_by bytes => bytes.length

theorem paired_of_not_mem_chars (us : List Nat) (h : '\uFFFD' ∉ chars us) :
    Paired us (chars us) := by
  have hsingle : ∀ {u : Nat} {cs : List Char}, '\uFFFD' ∉ lone u :: cs →
      isSurrogate u = false ∧ lone u = Char.ofNat u ∧ '\uFFFD' ∉ cs := by
    intro u cs hmem
    have hu : isSurrogate u = false := by
      refine Bool.eq_false_iff.mpr fun hsurrogate => hmem ?_
      rw [lone_of_isSurrogate hsurrogate]
      exact List.mem_cons_self
    exact ⟨hu, lone_of_not_isSurrogate hu, fun hcs => hmem (List.mem_cons_of_mem _ hcs)⟩
  fun_induction chars us with
  | case1 => exact .nil
  | case2 u =>
    obtain ⟨hu, hlone, -⟩ := hsingle h
    rw [hlone]
    exact .single hu .nil
  | case3 u v us hpair ih =>
    obtain ⟨hu, hv⟩ := Bool.and_eq_true_iff.mp hpair
    exact .pair hu hv (ih fun hmem => h (List.mem_cons_of_mem _ hmem))
  | case4 u v us hpair ih =>
    obtain ⟨hu, hlone, hrest⟩ := hsingle h
    rw [hlone]
    exact .single hu (ih hrest)

/-- The unit of a replacement is no surrogate, so its character is seen. -/
theorem Paired.not_mem_units {us : List Nat} {cs : List Char} (h : Paired us cs)
    (hcs : '\uFFFD' ∉ cs) : replacement ∉ us := by
  induction h with
  | nil => simp
  | single hu _ ih =>
    rw [List.mem_cons, not_or] at hcs ⊢
    refine ⟨?_, ih hcs.2⟩
    rintro rfl
    exact hcs.1 rfl
  | pair hu hv _ ih =>
    rw [List.mem_cons, not_or] at hcs
    simp only [isHighSurrogate, isLowSurrogate, Bool.and_eq_true, decide_eq_true_eq] at hu hv
    rw [List.mem_cons, List.mem_cons, not_or, not_or]
    refine ⟨?_, ?_, ih hcs.2⟩ <;> unfold replacement <;> omega

/-- Bytes that are read without a replacement are a text, all of them. -/
theorem spells_of_not_mem {bytes : List UInt8} (h : '\uFFFD' ∉ (decode bytes).toList) :
    Spells bytes (decode bytes).toList := by
  rw [decode, String.toList_ofList] at h ⊢
  have hpaired := paired_of_not_mem_chars _ h
  exact ⟨_, grouped_of_not_mem_units bytes (hpaired.not_mem_units h), hpaired⟩

end DriverClasses.ClassFile.ModifiedUtf8
