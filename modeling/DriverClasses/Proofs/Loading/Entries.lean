import DriverClasses.Proofs.ClassFile.EntryNames
import DriverClasses.Proofs.Loading.Below
import DriverClasses.Proofs.Loading.Turns

/-!
# One entry for each class

Whatever a load asks of a source, it asks for the entry of its own class, and only if that has a
binary name (`AskedFor.entry_eq`).  So loads of different classes never meet at an entry, be they
one after the other or at once, and a class file that was compiled for a name is not refused under
it as one of another name (`entry_identifies`).
-/

namespace DriverClasses.Loading

open DriverClasses.ClassFile DriverClasses.Text DriverClasses.Files

variable {f : Forest} {files : FileTree} {id : Nat} {name : String} {q : Consultation}

/-! ### What a step of a call asks for -/

/-- The call is past the check of its name, and has not come to the end of its scan. -/
def Stage.mayAsk : Stage → Bool
  | .enter | .snapshot _ | .scanning _ _ _ _ => true
  | _ => false

theorem mayAsk_or_binary_of_stepCall {s : Shared} {stage : Stage}
    (h : (stepCall files id name s stage).1.mayAsk = true) :
    stage.mayAsk = true ∨ isBinaryName name = true := by
  cases stage with
  | enter => exact .inl rfl
  | snapshot ticket => exact .inl rfl
  | scanning ticket asked failure rest => exact .inl rfl
  | checkAncestors =>
    right
    unfold stepCall at h
    cases hinherited : s.forest.inherited? id name with
    | some own =>
      rw [hinherited] at h
      cases h
    | none =>
      by_contra hname
      rw [hinherited, if_neg hname] at h
      cases h
  | checkCache =>
    unfold stepCall at h
    cases hcached : s.forest.cached? id name <;> rw [hcached] at h <;> cases h
  | waiting ticket =>
    cases hannounced : s.announcement? ticket <;> simp only [stepCall, hannounced] at h <;> cases h
  | storing ticket loaded => cases h
  | leaving ticket result => cases h
  | announcing ticket result => cases h
  | returned result => cases h

theorem exists_consultations_scanStep (files : FileTree) (id : Nat) (name : String)
    (ticket asked : Nat) (failure : Option LoadError) (s : Shared) (rest : List ClassSource) :
    ∃ more, (scanStep files id name ticket asked failure s rest).2.forest.consultations
        = s.forest.consultations ++ more
      ∧ ∀ q ∈ more, q.entry = entryName name := by
  have hnone : ∃ more, s.forest.consultations = s.forest.consultations ++ more
      ∧ ∀ q ∈ more, q.entry = entryName name := ⟨[], by simp⟩
  cases rest with
  | nil => exact hnone
  | cons source rest =>
    unfold scanStep
    cases hc : s.forest.context? id with
    | none => exact hnone
    | some c =>
      refine ⟨[⟨id, asked, entryName name, c.policy.maxEntryBytes⟩], ?_, by simp⟩
      cases hverdict : verdict files c.policy name source with
      | linked header bytes =>
        simp only [hverdict]
        rfl
      | _ => simp only [hverdict]

theorem Took.consultations_eq {s s' : Shared} {before after : Stage}
    (h : Took id name s before after s') :
    (∃ ticket asked failure rest, before = .scanning ticket asked failure rest)
      ∨ s'.forest.consultations = s.forest.consultations := by
  cases h with
  | asked _ | linked _ | failed _ _ => exact .inl ⟨_, _, _, _, rfl⟩
  | _ => exact .inr rfl

/-- A step asks only in the course of a scan, and then for the entry of the class. -/
theorem exists_consultations_stepCall (files : FileTree) (id : Nat) (name : String) (s : Shared)
    (stage : Stage) :
    ∃ more, (stepCall files id name s stage).2.forest.consultations = s.forest.consultations ++ more
      ∧ ∀ q ∈ more, stage.mayAsk = true ∧ q.entry = entryName name := by
  rcases (took_stepCall files id name s stage).consultations_eq with
    ⟨ticket, asked, failure, rest, rfl⟩ | hsame
  · obtain ⟨more, hmore, hentry⟩ :=
      exists_consultations_scanStep files id name ticket asked failure s rest
    exact ⟨more, hmore, fun q hq => ⟨rfl, hentry q hq⟩⟩
  · exact ⟨[], by rw [hsame, List.append_nil], by simp⟩

namespace Machine

variable {m : Machine} {targets : List (Nat × String)} {log : List Turn} {i : Nat} {stage : Stage}

/-- The questions that are put to sources when something happens. -/
def asks (files : FileTree) (m : Machine) (move : Move) : List Consultation :=
  (m.step files move).shared.forest.consultations.drop m.shared.forest.consultations.length

theorem mem_asks_step (hat : m.At i id name stage) (hq : q ∈ m.asks files (.step i)) :
    stage.mayAsk = true ∧ q.entry = entryName name := by
  obtain ⟨more, hmore, hentry⟩ := exists_consultations_stepCall files id name m.shared stage
  unfold asks at hq
  rw [step_eq_advance hat, advance, hmore, List.drop_left] at hq
  exact hentry q hq

/-- By induction on the run.  A call begins before the check, and only the check leads beyond it. -/
theorem binary_of_mayAsk (hrun : (start f targets).Runs log m) (hat : m.At i id name stage)
    (hmay : stage.mayAsk = true) : isBinaryName name = true := by
  induction hrun generalizing i id name stage with
  | start =>
    rw [stage_of_at_start hat] at hmay
    cases hmay
  | turn files _ hmoved ih =>
    rw [step_eq_advance hmoved] at hat
    rcases (at_advance hmoved _ _).mp hat with ⟨rfl, rfl, rfl, rfl⟩ | ⟨-, hother⟩
    · exact (mayAsk_or_binary_of_stepCall hmay).elim (ih hmoved) fun hname => hname
    · exact ih hother hmay
  | addSource files id' source _ ih => exact ih hat hmay
  | addLocation _ _ ih => exact ih hat hmay

end Machine

/-- Some load of `name` puts the question to a source: by itself, or as a call in the run of a
machine. -/
inductive AskedFor (name : String) (q : Consultation) : Prop
  | load {f : Forest} {files : FileTree} {id : Nat} :
      q ∈ f.asks (.load files id name) → AskedFor name q
  | step {f : Forest} {targets : List (Nat × String)} {log : List Turn} {m : Machine}
      {files : FileTree} {i id : Nat} {stage : Stage} :
      (Machine.start f targets).Runs log m → m.At i id name stage → q ∈ m.asks files (.step i) →
      AskedFor name q

theorem AskedFor.entry_eq (h : AskedFor name q) :
    isBinaryName name = true ∧ q.entry = entryName name := by
  cases h with
  | load hq =>
    obtain ⟨_, -, -, hname, -, hentry, -⟩ := Forest.exists_context_of_mem_asks_load hq
    exact ⟨hname, hentry⟩
  | step hrun hat hq =>
    obtain ⟨hmay, hentry⟩ := Machine.mem_asks_step hat hq
    exact ⟨Machine.binary_of_mayAsk hrun hat hmay, hentry⟩

/-! ### Files of entries -/

theorem steps_inj {m n : String} (hm : isBinaryName m = true) (hn : isBinaryName n = true)
    (h : steps m = steps n) : m = n := by
  have hnames : fileNames m = fileNames n :=
    List.map_injective_iff.mpr (fun _ _ => utf8Chars_inj.mp) h
  rw [← pieces_entryName hm, ← pieces_entryName hn] at hnames
  have hentry := congrArg (join '/') hnames
  rw [join_pieces, join_pieces, String.toList_inj] at hentry
  exact (entryName_inj hm hn).mp hentry

theorem entryPath_inj {m n : String} (hm : isBinaryName m = true) (hn : isBinaryName n = true)
    {root : Bytes} (hroot : root ≠ [])
    (h : entryPath root (entryName m) = entryPath root (entryName n)) : m = n := by
  rw [entryPath_entryName hm hroot, entryPath_entryName hn hroot, List.append_cancel_left_eq] at h
  have hsteps := congrArg (pieces slash) h
  rw [pieces_join (steps_ne_nil m) fun _ hstep => (isStep_of_mem_steps hm _ hstep).no_slash,
    pieces_join (steps_ne_nil n) fun _ hstep => (isStep_of_mem_steps hn _ hstep).no_slash] at hsteps
  exact steps_inj hm hn hsteps

/-! ### Refusals -/

/-- The bytes that are refused for their name are of another class. -/
theorem not_compiledFor_of_verdict {policy : LinkPolicy} {source : ClassSource}
    {declared asked : String} (hname : isBinaryName name = true)
    (h : verdict files policy name source
      = .defective (.unlinkable (.nameMismatch declared asked))) :
    ∃ bytes, source.find files (entryName name) policy.maxEntryBytes = .found bytes
      ∧ ¬ CompiledFor name bytes := by
  cases ClassSource.fails_iff.mpr h with
  | unlinkable hfound hlink =>
    exact ⟨_, hfound, fun hcompiled => hcompiled.link_ne_nameMismatch hname _ _ _ hlink⟩

theorem Forest.Sound.exists_other_of_nameMismatch {ops : List Operation} (hf : f.Sound ops)
    {c : Context} (hc : c ∈ f.contexts) {subject origin declared asked : String}
    (hload : (f.load files c.id name).1
      = .failed (.malformedClass subject origin (.unlinkable (.nameMismatch declared asked)))) :
    ∃ s ∈ c.sources, s.origin = origin ∧ ∃ bytes,
      s.find files (entryName name) c.policy.maxEntryBytes = .found bytes
        ∧ ¬ CompiledFor name bytes := by
  obtain ⟨result, g, h⟩ := hf.exists_loads hc files name
  rw [h.load_eq hf hc] at hload
  cases h with
  | @malformed before after s _ hsearches hsplit _ _ hfails =>
    simp only [LoadResult.failed.injEq, LoadError.malformedClass.injEq] at hload
    obtain ⟨-, horigin, rfl⟩ := hload
    exact ⟨s, by simp [hsplit], horigin,
      not_compiledFor_of_verdict hsearches.binary (ClassSource.fails_iff.mp hfails)⟩
  | unnamed _ _ _ => cases hload
  | missing _ _ => cases hload
  | cached _ => cases hload
  | inherited _ _ => cases hload
  | linked _ _ _ _ _ _ => cases hload
  | crashed _ _ _ _ => cases hload

/-! ### The entry of a class -/

/-- The entry of a class is that of no other, and what is compiled for the class is taken for it. -/
structure EntryIdentifies (name : String) : Prop where
  spelled : entryName name = internalName name ++ ".class"
  restored : String.ofList (dotted (internalName name).toList) = name
  unique : ∀ other, isBinaryName other = true → entryName other = entryName name → other = name
  /-- Nor do two classes have one file below a directory. -/
  file : ∀ other (root : Bytes), isBinaryName other = true → root ≠ [] →
    entryPath root (entryName other) = entryPath root (entryName name) → other = name
  /-- A class file that spells the internal name, each character in either encoding, is read as one
  of the name. -/
  read : ∀ (w : Written) (trailing : List UInt8), w.SpellsName w.thisIndex name → w.Resolves →
    ∃ header, Header.read? (w.bytes ++ trailing) = .ok header ∧ header.name = name
  named : ∀ bytes header, CompiledFor name bytes → Header.read? bytes = .ok header →
    header.name = name
  /-- Loads of two classes ask for different entries, in one context or in two, at one time or at
  two. -/
  apart : ∀ other (q q' : Consultation), other ≠ name → AskedFor name q → AskedFor other q' →
    q'.entry ≠ q.entry
  linked : ∀ bytes, CompiledFor name bytes → ∀ (policy : LinkPolicy) (declared asked : String),
    link policy name bytes ≠ .error (.nameMismatch declared asked)
  /-- A source whose bytes are refused for their name has those of another class. -/
  judged : ∀ (files : FileTree) (policy : LinkPolicy) (source : ClassSource)
      (declared asked : String),
    verdict files policy name source = .defective (.unlinkable (.nameMismatch declared asked)) →
    ∃ bytes, source.find files (entryName name) policy.maxEntryBytes = .found bytes
      ∧ ¬ CompiledFor name bytes
  /-- And so has the source that is to blame for the end of a load. -/
  blamed : ∀ (ops : List Operation) (files : FileTree) (c : Context)
      (subject origin declared asked : String),
    c ∈ (({} : Forest).after ops).contexts →
    ((({} : Forest).after ops).load files c.id name).1
      = .failed (.malformedClass subject origin (.unlinkable (.nameMismatch declared asked))) →
    ∃ s ∈ c.sources, s.origin = origin ∧ ∃ bytes,
      s.find files (entryName name) c.policy.maxEntryBytes = .found bytes
        ∧ ¬ CompiledFor name bytes

/-- Entries identify the classes with binary names. -/
theorem entry_identifies (h : isBinaryName name = true) : EntryIdentifies name where
  spelled := entryName_eq name
  restored := by rw [dotted_internalName h, String.ofList_toList]
  unique := fun _ hother hentry => (entryName_inj hother h).mp hentry
  file := fun _ _ hother hroot hpath => entryPath_inj hother h hroot hpath
  read := by
    intro w trailing hspells hresolves
    obtain ⟨header, hdescribes, hname⟩ := Written.exists_describes (hspells.names h) hresolves
    exact ⟨header, hdescribes.read? trailing, hname⟩
  named := fun _ _ hcompiled hread => hcompiled.name_eq h hread
  apart := by
    intro other q q' hne hq hq' hentry
    obtain ⟨hother, hq'⟩ := hq'.entry_eq
    rw [hq.entry_eq.2, hq'] at hentry
    exact hne ((entryName_inj hother h).mp hentry)
  linked := fun _ hcompiled policy declared asked =>
    hcompiled.link_ne_nameMismatch h policy declared asked
  judged := fun _ _ _ _ _ hverdict => not_compiledFor_of_verdict h hverdict
  blamed := fun ops _ _ _ _ _ _ hc hload =>
    (Forest.sound_after ops).exists_other_of_nameMismatch hc hload

/-! ### A supplementary letter in either encoding -/

def letter : Char := Char.ofNat 0x1D518

/-- A class in the package `a`, with the letter twice in its name. -/
def lettersName : String := String.ofList ['a', '.', letter, '$', letter]

/-- The internal name, with the first letter in UTF-8 and the second one as two surrogates. -/
def lettersBytes : List UInt8 :=
  [97, 47, 0xF0, 0x9D, 0x94, 0x98, 36, 0xED, 0xA0, 0xB5, 0xED, 0xB4, 0x98]

def lettersFile : Written :=
  { dottedFile with
    constants := .text lettersBytes (by decide) :: dottedFile.constants.tail
    slots_fit := by decide }

open ModifiedUtf8 in
theorem spellsName_lettersFile : lettersFile.SpellsName lettersFile.thisIndex lettersName := by
  have hname : (internalName lettersName).toList = ['a', '/', letter, '$', letter] := by
    decide +kernel
  have hbytes : lettersBytes = String.utf8EncodeChar 'a' ++ (String.utf8EncodeChar '/'
      ++ (String.utf8EncodeChar letter ++ (String.utf8EncodeChar '$'
      ++ (modifiedChar letter ++ [])))) := by decide +kernel
  refine ⟨1, lettersBytes, by decide, ?_, ?_, ?_⟩
  · exact ⟨[.text lettersBytes (by decide)], [], rfl, rfl⟩
  · exact ⟨[], [.classRef 1], rfl, rfl⟩
  · rw [hname, hbytes]
    exact .standard (.standard (.standard (.standard (.modified .nil))))

theorem resolves_lettersFile : lettersFile.Resolves := ⟨.inl rfl, fun _ hi => nomatch hi⟩

theorem askedFor_classes :
    AskedFor lettersName ⟨1, 0, entryName lettersName, 16777216⟩
      ∧ AskedFor "org.Driver" ⟨1, 0, "org/Driver.class", 16777216⟩ := by
  have hload : ∀ {name : String} {q : Consultation},
      q ∈ (({} : Forest).after Forest.classesRun).asks (.load Forest.classesTree 1 name) →
        AskedFor name q := .load
  constructor <;>
  · apply hload
    rw [Forest.after_classesRun]
    decide +kernel

theorem entry_identifies_letters :
    isBinaryName lettersName = true
      ∧ lettersFile.SpellsName lettersFile.thisIndex lettersName ∧ lettersFile.Resolves
      ∧ (∃ header, Header.read? lettersFile.bytes = .ok header ∧ header.name = lettersName)
      ∧ AskedFor lettersName ⟨1, 0, entryName lettersName, 16777216⟩
      ∧ entryName lettersName ≠ "org/Driver.class" := by
  have hname : isBinaryName lettersName = true := by decide +kernel
  obtain ⟨hasked, hasked'⟩ := askedFor_classes
  have hidentifies := entry_identifies hname
  obtain ⟨header, hread, hheader⟩ :=
    hidentifies.read lettersFile [] spellsName_lettersFile resolves_lettersFile
  rw [List.append_nil] at hread
  exact ⟨hname, spellsName_lettersFile, resolves_lettersFile, ⟨header, hread, hheader⟩, hasked,
    (hidentifies.apart _ _ _ (by decide +kernel) hasked hasked').symm⟩

end DriverClasses.Loading
