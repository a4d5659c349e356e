import DriverClasses.Loading.Load
import DriverClasses.Proofs.Linking

/-!
# How a scan ends

Sources are asked in order until one decides: it has bytes that link, or it crashes.  `Scanned`
lists the four ways in which this can go, and a scan goes exactly one of them (`exists_scanned`,
`Scanned.eq`).  What a single source has to say is read off its answer and off `link` by the
lemmas on `verdict`.
-/

namespace DriverClasses.Loading

open DriverClasses.ClassFile DriverClasses.Text DriverClasses.Files

section Verdict

variable {files : FileTree} {policy : LinkPolicy} {name : String} {s : ClassSource}

theorem verdict_eq_absent_iff :
    verdict files policy name s = .absent
      ↔ s.find files (entryName name) policy.maxEntryBytes = .absent := by
  unfold verdict
  cases s.find files (entryName name) policy.maxEntryBytes with
  | found bytes => cases h : link policy name bytes <;> simp [h]
  | _ => simp

theorem verdict_eq_linked_iff {header : Header} {bytes : Bytes} :
    verdict files policy name s = .linked header bytes
      ↔ s.find files (entryName name) policy.maxEntryBytes = .found bytes
        ∧ link policy name bytes = .ok header := by
  unfold verdict
  cases s.find files (entryName name) policy.maxEntryBytes with
  | found other =>
    simp only [Lookup.found.injEq]
    constructor
    · intro hverdict
      cases h : link policy name other with
      | error fault => simp [h] at hverdict
      | ok found =>
        simp only [h, Verdict.linked.injEq] at hverdict
        obtain ⟨rfl, rfl⟩ := hverdict
        exact ⟨rfl, h⟩
    · rintro ⟨rfl, hlink⟩
      simp only [hlink]
  | _ => simp

theorem verdict_eq_defective_iff {defect : Defect} :
    verdict files policy name s = .defective defect
      ↔ (∃ fault, s.find files (entryName name) policy.maxEntryBytes = .failed fault
            ∧ defect = .unreadable fault)
        ∨ ∃ bytes fault, s.find files (entryName name) policy.maxEntryBytes = .found bytes
            ∧ link policy name bytes = .error fault ∧ defect = .unlinkable fault := by
  unfold verdict
  cases s.find files (entryName name) policy.maxEntryBytes with
  | found bytes => cases h : link policy name bytes <;> simp [h, eq_comm]
  | failed fault => simp [eq_comm]
  | _ => simp

theorem verdict_eq_crashed_iff {reason : String} :
    verdict files policy name s = .crashed reason
      ↔ s.find files (entryName name) policy.maxEntryBytes = .crashed reason := by
  unfold verdict
  cases s.find files (entryName name) policy.maxEntryBytes with
  | found bytes => cases h : link policy name bytes <;> simp [h]
  | _ => simp

end Verdict

/-- After such a verdict the next source is asked. -/
def Verdict.passes : Verdict → Bool
  | .absent | .defective _ => true
  | .linked _ _ | .crashed _ => false

/-- The first failure among sources. -/
def firstFailure (judge : ClassSource → Verdict) (name : String) (sources : List ClassSource) :
    Option LoadError :=
  sources.findSome? fun s =>
    match judge s with
    | .defective defect => some (.malformedClass name s.origin defect)
    | _ => none

variable {judge : ClassSource → Verdict} {name : String}

theorem firstFailure_eq_none (name : String) (before : List ClassSource)
    (h : ∀ t ∈ before, judge t = .absent) : firstFailure judge name before = none := by
  unfold firstFailure
  rw [List.findSome?_eq_none_iff]
  intro t ht
  rw [h t ht]

/-- Sources that pass are asked, and the first failure among them is remembered. -/
theorem scanFrom_append (name : String) (total : Nat) (rest : List ClassSource) :
    ∀ (before : List ClassSource) (failure : Option LoadError),
      (∀ t ∈ before, (judge t).passes) →
      scanFrom judge name total failure (before ++ rest)
        = ((scanFrom judge name total (failure.or (firstFailure judge name before)) rest).1,
          (scanFrom judge name total (failure.or (firstFailure judge name before)) rest).2
            + before.length)
  | [], failure, _ => by simp [firstFailure]
  | s :: before, failure, h => by
    have hs := h s List.mem_cons_self
    have ih := fun failure =>
      scanFrom_append name total rest before failure fun t ht => h t (List.mem_cons_of_mem _ ht)
    rw [List.cons_append, scanFrom]
    cases hj : judge s with
    | linked header bytes => simp [hj, Verdict.passes] at hs
    | crashed reason => simp [hj, Verdict.passes] at hs
    | absent =>
      have hfirst : firstFailure judge name (s :: before) = firstFailure judge name before := by
        simp [firstFailure, hj]
      simp only [ih, hfirst, List.length_cons, Nat.add_assoc]
    | defective defect =>
      have hfirst : firstFailure judge name (s :: before)
          = some (.malformedClass name s.origin defect) := by
        simp [firstFailure, hj]
      -- A failure that came before stays the first one.
      have hblame : (blame failure (.malformedClass name s.origin defect)).or
            (firstFailure judge name before)
          = failure.or (some (.malformedClass name s.origin defect)) := by
        cases failure <;> rfl
      simp only [ih, hfirst, hblame, List.length_cons, Nat.add_assoc]

/-- The ways in which a scan of `sources` can end, with the number of sources that were asked. -/
inductive Scanned (judge : ClassSource → Verdict) (name : String) (sources : List ClassSource) :
    ScanEnd × Nat → Prop
  | linked {before after : List ClassSource} {s : ClassSource} {header : Header} {bytes : Bytes} :
      sources = before ++ s :: after → (∀ t ∈ before, (judge t).passes) →
      judge s = .linked header bytes →
      Scanned judge name sources (.linked s.origin header bytes, before.length + 1)
  | crashed {before after : List ClassSource} {s : ClassSource} {reason : String} :
      sources = before ++ s :: after → (∀ t ∈ before, (judge t).passes) →
      judge s = .crashed reason →
      Scanned judge name sources (.crashed reason, before.length + 1)
  | blamed {before after : List ClassSource} {s : ClassSource} {defect : Defect} :
      sources = before ++ s :: after → (∀ t ∈ sources, (judge t).passes) →
      (∀ t ∈ before, judge t = .absent) → judge s = .defective defect →
      Scanned judge name sources (.failed (.malformedClass name s.origin defect), sources.length)
  | missing :
      (∀ t ∈ sources, judge t = .absent) →
      Scanned judge name sources (.failed (.classNotFound name sources.length), sources.length)

theorem Scanned.eq {sources : List ClassSource} {r : ScanEnd × Nat}
    (h : Scanned judge name sources r) :
    scanFrom judge name sources.length none sources = r := by
  cases h with
  | linked hsplit hbefore hs =>
    rw [hsplit, scanFrom_append _ _ _ _ _ hbefore, scanFrom]
    simp only [hs, Nat.add_comm]
  | crashed hsplit hbefore hs =>
    rw [hsplit, scanFrom_append _ _ _ _ _ hbefore, scanFrom]
    simp only [hs, Nat.add_comm]
  | @blamed before after s defect hsplit hpass hbefore hs =>
    have hscan := scanFrom_append name sources.length [] sources none hpass
    have hfirst : firstFailure judge name sources
        = some (.malformedClass name s.origin defect) := by
      have hnone := firstFailure_eq_none name before hbefore
      unfold firstFailure at hnone ⊢
      rw [hsplit, List.findSome?_append, hnone, Option.none_or, List.findSome?_cons, hs]
    rw [List.append_nil, hfirst] at hscan
    rw [hscan]
    simp [scanFrom]
  | missing habsent =>
    have hpass : ∀ t ∈ sources, (judge t).passes := fun t ht => by rw [habsent t ht]; rfl
    have hscan := scanFrom_append name sources.length [] sources none hpass
    rw [List.append_nil, firstFailure_eq_none name sources habsent] at hscan
    rw [hscan]
    simp [scanFrom]

/-- Either a source decides, and those before it pass, or all pass. -/
theorem exists_scanned (judge : ClassSource → Verdict) (name : String)
    (sources : List ClassSource) : ∃ r, Scanned judge name sources r := by
  cases hfind : sources.find? fun s => !(judge s).passes with
  | some s =>
    obtain ⟨hs, before, after, hsplit, hbefore⟩ := List.find?_eq_some_iff_append.mp hfind
    have hpass : ∀ t ∈ before, (judge t).passes := fun t ht => by simpa using hbefore t ht
    cases hj : judge s with
    | linked header bytes => exact ⟨_, .linked hsplit hpass hj⟩
    | crashed reason => exact ⟨_, .crashed hsplit hpass hj⟩
    | absent => simp [hj, Verdict.passes] at hs
    | defective defect => simp [hj, Verdict.passes] at hs
  | none =>
    have hpass : ∀ t ∈ sources, (judge t).passes := fun t ht => by
      simpa using List.find?_eq_none.mp hfind t ht
    cases hdefect : sources.find? fun s => judge s ≠ .absent with
    | none =>
      refine ⟨_, .missing fun t ht => ?_⟩
      simpa using List.find?_eq_none.mp hdefect t ht
    | some s =>
      obtain ⟨hs, before, after, hsplit, hbefore⟩ := List.find?_eq_some_iff_append.mp hdefect
      have habsent : ∀ t ∈ before, judge t = .absent := fun t ht => by simpa using hbefore t ht
      have hmem : s ∈ sources := by rw [hsplit]; simp
      cases hj : judge s with
      | defective defect => exact ⟨_, .blamed hsplit hpass habsent hj⟩
      | absent => simp [hj] at hs
      | linked header bytes => simpa [hj, Verdict.passes] using hpass s hmem
      | crashed reason => simpa [hj, Verdict.passes] using hpass s hmem

end DriverClasses.Loading
