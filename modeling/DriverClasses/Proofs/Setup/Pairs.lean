import DriverClasses.Proofs.Text.Decimal
import DriverClasses.Setup.Options

/-!
# Options from pairs

Of all pairs that are given, the last one of each key is what the options are read from
(`ofPairs_readsLast`).  They may as well be taken one at a time, each in place of what was kept for
its key (`ofPairs_eq_finish`).  Only then are values asked for that are not blank, so a blank value
counts, whatever stands in front of it.
-/

namespace DriverClasses.Setup

open DriverClasses.Text

variable {pairs other before after : List (String × String)} {p q : String × String}
  {key : OptionKey} {value : String}

/-- The last pair with this key has this value. -/
def IsLast (pairs : List (String × String)) (key : OptionKey) (value : String) : Prop :=
  ∃ before after, pairs = before ++ (key.text, value) :: after ∧ ∀ p ∈ after, p.1 ≠ key.text

/-- The last value of the key is not blank, and this is what trimming leaves of it. -/
def Binds (pairs : List (String × String)) (key : OptionKey) (text : String) : Prop :=
  ∃ value, IsLast pairs key value ∧ text = trim value ∧ text ≠ ""

/-- The key has no value, or the last one is blank. -/
def Lacks (pairs : List (String × String)) (key : OptionKey) : Prop :=
  ∀ value, IsLast pairs key value → trim value = ""

/-- The key of the pair is one of the two. -/
def isOption (p : String × String) : Bool :=
  p.1 == OptionKey.driverPath.text || p.1 == OptionKey.driverClass.text

/-! ### The last pair of a key -/

theorem isOption_of_key (h : p.1 = key.text) : isOption p = true := by
  cases key <;> simp [isOption, h]

theorem getLast?_filter_eq_some_iff {α : Type} {f : α → Bool} {l : List α} {a : α} :
    (l.filter f).getLast? = some a
      ↔ f a = true ∧ ∃ before after, l = before ++ a :: after ∧ ∀ b ∈ after, f b = false := by
  rw [List.getLast?_eq_head?_reverse, ← List.filter_reverse, List.head?_filter,
    List.find?_eq_some_iff_append]
  refine and_congr_right fun _ => ⟨?_, ?_⟩
  · rintro ⟨front, back, hsplit, hfront⟩
    refine ⟨back.reverse, front.reverse, ?_, fun b hb => ?_⟩
    · rw [← List.reverse_inj, hsplit]
      simp
    · simpa using hfront b (List.mem_reverse.mp hb)
  · rintro ⟨front, back, rfl, hback⟩
    refine ⟨back.reverse, front.reverse, by simp, fun b hb => ?_⟩
    simpa using hback b (List.mem_reverse.mp hb)

theorem isLast_iff :
    IsLast pairs key value
      ↔ (pairs.filter (·.1 == key.text)).getLast? = some (key.text, value) := by
  rw [getLast?_filter_eq_some_iff]
  simp [IsLast]

theorem lastValue?_eq_some_iff {text : String} :
    lastValue? pairs key = some text ↔ Binds pairs key text := by
  unfold lastValue? Binds
  rw [Option.bind_eq_some_iff]
  constructor
  · rintro ⟨⟨k, value⟩, hlast, htext⟩
    have hkey := (getLast?_filter_eq_some_iff.mp hlast).1
    obtain rfl : k = key.text := by simpa using hkey
    exact ⟨value, isLast_iff.mpr hlast, nonBlank?_eq_some_iff.mp htext⟩
  · rintro ⟨value, hlast, htext⟩
    exact ⟨(key.text, value), isLast_iff.mp hlast, nonBlank?_eq_some_iff.mpr htext⟩

theorem lastValue?_eq_none_iff : lastValue? pairs key = none ↔ Lacks pairs key := by
  rw [Option.eq_none_iff_forall_ne_some]
  constructor
  · intro h value hlast
    refine Decidable.byContradiction fun hne => h (trim value) ?_
    exact lastValue?_eq_some_iff.mpr ⟨value, hlast, rfl, hne⟩
  · intro h text hbinds
    obtain ⟨value, hlast, rfl, hne⟩ := lastValue?_eq_some_iff.mp hbinds
    exact hne (h value hlast)

/-! ### What the options depend on -/

theorem ofPairs_congr (h : ∀ key, lastValue? other key = lastValue? pairs key) :
    DriverOptions.ofPairs other = DriverOptions.ofPairs pairs := by
  unfold DriverOptions.ofPairs
  rw [h, h]

theorem ofPairs_eq_ok_iff {options : DriverOptions} :
    DriverOptions.ofPairs pairs = .ok options
      ↔ lastValue? pairs .driverPath = some options.driverPath
        ∧ lastValue? pairs .driverClass = some options.driverClass := by
  unfold DriverOptions.ofPairs
  cases lastValue? pairs .driverPath with
  | none => simp
  | some path =>
    cases lastValue? pairs .driverClass with
    | none => simp
    | some name => cases options; simp

/-- A key is reported if it has no text, and the class only if the path has one. -/
theorem ofPairs_eq_error_iff :
    DriverOptions.ofPairs pairs = .error key
      ↔ lastValue? pairs key = none
        ∧ (key = .driverPath ∨ lastValue? pairs .driverPath ≠ none) := by
  unfold DriverOptions.ofPairs
  cases hpath : lastValue? pairs .driverPath with
  | none => cases key <;> simp [hpath]
  | some path =>
    cases hclass : lastValue? pairs .driverClass with
    | none => cases key <;> simp [hpath, hclass]
    | some name => cases key <;> simp [hpath, hclass]

theorem filter_key_filter_isOption (pairs : List (String × String)) (key : OptionKey) :
    (pairs.filter isOption).filter (·.1 == key.text) = pairs.filter (·.1 == key.text) := by
  rw [List.filter_filter]
  refine List.filter_congr fun p _ => ?_
  by_cases hkey : p.1 = key.text
  · simp [hkey, isOption_of_key hkey]
  · simp [hkey]

/-- Of two pairs with different keys, one at most has this key. -/
theorem filter_key_swap (h : p.1 ≠ q.1) (key : OptionKey) :
    (before ++ q :: p :: after).filter (·.1 == key.text)
      = (before ++ p :: q :: after).filter (·.1 == key.text) := by
  have hpair : [q, p].filter (·.1 == key.text) = [p, q].filter (·.1 == key.text) := by
    by_cases hp : p.1 = key.text
    · have hq : q.1 ≠ key.text := fun hq => h (hp.trans hq.symm)
      simp [hp, hq]
    · simp [List.filter_cons, hp]
  have happend : ∀ x y, before ++ x :: y :: after = before ++ ([x, y] ++ after) := fun _ _ => rfl
  rw [happend, happend, List.filter_append, List.filter_append, List.filter_append,
    List.filter_append, hpair]

/-! ### One pair at a time -/

/-- What is kept for each key, trimmed. -/
def Draft : Type := OptionKey → Option String

namespace Draft

def empty : Draft := fun _ => none

/-- A pair takes the place of what was kept for its key. -/
def take (d : Draft) (p : String × String) : Draft := fun key =>
  if p.1 = key.text then some (trim p.2) else d key

/-- The options, or the first key without a text. -/
def finish (d : Draft) : Except OptionKey DriverOptions :=
  match (d .driverPath).filter (· ≠ "") with
  | none => .error .driverPath
  | some driverPath =>
    match (d .driverClass).filter (· ≠ "") with
    | none => .error .driverClass
    | some driverClass => .ok { driverPath, driverClass }

theorem foldl_take (d : Draft) (pairs : List (String × String)) (key : OptionKey) :
    pairs.foldl take d key
      = ((pairs.filter (·.1 == key.text)).getLast?.map fun p => trim p.2).or (d key) := by
  induction pairs generalizing d with
  | nil => rfl
  | cons p pairs ih =>
    rw [List.foldl_cons, ih, take, List.filter_cons]
    by_cases hkey : p.1 = key.text
    · -- What is kept of this pair comes to light if no later one has its key.
      cases hlast : (pairs.filter (·.1 == key.text)).getLast? with
      | none => simp [hkey, List.getLast?_eq_none_iff.mp hlast]
      | some last => simp [hkey, List.getLast?_cons, hlast]
    · simp [hkey]

end Draft

theorem ofPairs_eq_finish (pairs : List (String × String)) :
    DriverOptions.ofPairs pairs = (pairs.foldl Draft.take Draft.empty).finish := by
  have hvalue : ∀ key,
      (pairs.foldl Draft.take Draft.empty key).filter (· ≠ "") = lastValue? pairs key := by
    intro key
    rw [Draft.foldl_take, Draft.empty, Option.or_none, lastValue?]
    cases (pairs.filter (·.1 == key.text)).getLast? with
    | none => rfl
    | some p => by_cases hblank : trim p.2 = "" <;> simp [nonBlank?, hblank, Option.filter]
  unfold Draft.finish DriverOptions.ofPairs
  cases hpath : lastValue? pairs .driverPath with
  | none => simp only [hvalue, hpath]
  | some path =>
    cases hclass : lastValue? pairs .driverClass <;> simp only [hvalue, hpath, hclass]

/-! ### The law -/

/-- How the options are read from `pairs`. -/
structure ReadsLast (pairs : List (String × String)) : Prop where
  /-- Nothing but the last pair of each key matters. -/
  last_only : ∀ other, (∀ key value, IsLast other key value ↔ IsLast pairs key value) →
    DriverOptions.ofPairs other = DriverOptions.ofPairs pairs
  /-- Pairs with other keys may be put in, left out and moved. -/
  others : ∀ other, other.filter isOption = pairs.filter isOption →
    DriverOptions.ofPairs other = DriverOptions.ofPairs pairs
  /-- Neighbours with different keys may change places. -/
  swap : ∀ before p q after, pairs = before ++ p :: q :: after → p.1 ≠ q.1 →
    DriverOptions.ofPairs (before ++ q :: p :: after) = DriverOptions.ofPairs pairs
  ok_iff : ∀ options, DriverOptions.ofPairs pairs = .ok options
    ↔ Binds pairs .driverPath options.driverPath ∧ Binds pairs .driverClass options.driverClass
  path_iff : DriverOptions.ofPairs pairs = .error .driverPath ↔ Lacks pairs .driverPath
  /-- The class is reported only if the path is not. -/
  class_iff : DriverOptions.ofPairs pairs = .error .driverClass
    ↔ ¬ Lacks pairs .driverPath ∧ Lacks pairs .driverClass
  one_at_a_time : DriverOptions.ofPairs pairs = (pairs.foldl Draft.take Draft.empty).finish

theorem ofPairs_readsLast (pairs : List (String × String)) : ReadsLast pairs where
  last_only other h := ofPairs_congr fun key => by
    have hbinds : ∀ text, Binds other key text ↔ Binds pairs key text := fun text =>
      exists_congr fun value => and_congr_left fun _ => h key value
    exact Option.ext fun text => by
      rw [lastValue?_eq_some_iff, lastValue?_eq_some_iff, hbinds]
  others other h := ofPairs_congr fun key => by
    unfold lastValue?
    rw [← filter_key_filter_isOption other, h, filter_key_filter_isOption]
  swap before p q after hsplit hne := ofPairs_congr fun key => by
    unfold lastValue?
    rw [hsplit, filter_key_swap hne]
  ok_iff options := by
    rw [ofPairs_eq_ok_iff, lastValue?_eq_some_iff, lastValue?_eq_some_iff]
  path_iff := by
    rw [ofPairs_eq_error_iff, lastValue?_eq_none_iff, and_iff_left (.inl rfl)]
  class_iff := by
    rw [ofPairs_eq_error_iff, ne_eq, lastValue?_eq_none_iff, lastValue?_eq_none_iff,
      or_iff_right (by decide), and_comm]
  one_at_a_time := ofPairs_eq_finish pairs

/-- A blank path hides the one in front of it. -/
example : DriverOptions.ofPairs [("driver_path", "/a.jar"), ("driver_class", "a.B"),
    ("driver_path", " ")] = .error .driverPath := by rfl

end DriverClasses.Setup
