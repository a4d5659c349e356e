import DriverClasses.Proofs.Settings.Precedence

/-!
# One setting, two ways in

A setting can be given in a document or in its variable.  Numbers and the log format come out the
same.  A text comes out the same just in case it is plain (`ofDocument_eq_ofEnvironment_iff`): the
document keeps the padding of a text, which a variable loses, and it keeps a log level and a log
file that are blank, which a variable does not say.
-/

namespace DriverClasses.Settings

open DriverClasses.ClassFile DriverClasses.Logging DriverClasses.Text

variable {d : DocumentSettings}

/-- A value for one of the settings. -/
inductive Assignment where
  | newestMajor (n : Nat)
  | maxEntryBytes (n : Nat)
  | requiredInterface (value : String)
  | logLevel (value : String)
  | logFormat (value : String)
  | logFile (value : String)

namespace Assignment

variable {a : Assignment}

/-- The document that says this and nothing else. -/
def document : Assignment → DocumentSettings
  | newestMajor n => { unwritten with newestMajor := some n }
  | maxEntryBytes n => { unwritten with maxEntryBytes := some n }
  | requiredInterface value => { unwritten with requiredInterface := some value }
  | logLevel value => { unwritten with logLevel := some value }
  | logFormat value => { unwritten with logFormat := some value }
  | logFile value => { unwritten with logFile := some value }

/-- The variable of the setting. -/
def variableName : Assignment → String
  | newestMajor _ => "DRIVER_LOADER_MAX_CLASS_VERSION"
  | maxEntryBytes _ => "DRIVER_LOADER_MAX_ENTRY_BYTES"
  | requiredInterface _ => "DRIVER_LOADER_REQUIRED_INTERFACE"
  | logLevel _ => "DRIVER_LOADER_LOG_LEVEL"
  | logFormat _ => "DRIVER_LOADER_LOG_FORMAT"
  | logFile _ => "DRIVER_LOADER_LOG_FILE"

/-- The value as the variable holds it. -/
def text : Assignment → String
  | newestMajor n | maxEntryBytes n => toString n
  | requiredInterface value | logLevel value | logFormat value | logFile value => value

/-- The environment that says this and nothing else. -/
def environment (a : Assignment) : Environment := [(a.variableName, utf8 a.text)]

/-- A text is plain if it has no padding and is not dropped by one of the readers only. -/
def Plain : Assignment → Prop
  | newestMajor _ | maxEntryBytes _ | logFormat _ => True
  | requiredInterface value => trim value = value ∨ trim value = ""
  | logLevel value | logFile value => trim value = value ∧ value ≠ ""

end Assignment

/-! ### The value in its variable -/

theorem value?_environment (a : Assignment) (name : String) :
    a.environment.value? name = if name = a.variableName then nonBlank? a.text else none := by
  unfold Assignment.environment Environment.value?
  by_cases h : name = a.variableName
  · simp [h, ofUtf8?_utf8]
  · simp [h, List.lookup_cons, beq_eq_false_iff_ne.mpr h]

theorem number?_toString {limit n : Nat} (h : n ≤ limit) : number? limit (toString n) = some n :=
  number?_eq_some_iff.mpr ⟨writes_toString n, h⟩

theorem normalName_trim (s : String) : normalName (trim s) = normalName s := by
  unfold normalName trim
  rw [String.toList_ofList, trimChars_trimChars]

theorem ofText?_trim (s : String) : LogFormat.ofText? (trim s) = LogFormat.ofText? s := by
  unfold LogFormat.ofText?
  rw [normalName_trim]

/-- A format is not blank, and its padding does not count. -/
theorem ofText?_of_nonBlank? (s : String) :
    (nonBlank? s).bind LogFormat.ofText? = LogFormat.ofText? s := by
  by_cases h : trim s = ""
  · rw [nonBlank?_eq_none h, ← ofText?_trim, h]
    decide +kernel
  · rw [nonBlank?_of_ne h, Option.bind_some, ofText?_trim]

/-- What the variable leaves to say. -/
theorem environmentLayer_environment (a : Assignment) :
    environmentLayer a.environment =
      match a with
      | .newestMajor n => { newestMajor := (number? 65535 (toString n)).map (max 45) }
      | .maxEntryBytes n =>
        { maxEntryBytes := (number? 18446744073709551615 (toString n)).map (max 1024) }
      | .requiredInterface value => { requiredInterface := nonBlank? value }
      | .logLevel value => { logLevel := nonBlank? value }
      | .logFormat value => { logFormat := LogFormat.ofText? value }
      | .logFile value => { logFile := nonBlank? value } := by
  unfold environmentLayer
  cases a <;>
    simp [value?_environment, Assignment.variableName, Assignment.text, nonBlank?_toString,
      ofText?_of_nonBlank?, -Nat.toString_eq_repr]
  · exact Option.map_eq_bind.symm
  · exact Option.map_eq_bind.symm

/-! ### The value in a document -/

theorem natural?_le {limit n : Nat} {value : Option Document.Value}
    (h : natural? limit value = some (some n)) : n ≤ limit := by
  unfold natural? at h
  split at h
  · cases h
  · split at h
    · rename_i hlimit
      simp only [Option.some.injEq] at h
      omega
    · cases h
  · cases h

theorem bounds_of_written {text : String} (h : written? text = some d) :
    (∀ n, d.newestMajor = some n → n ≤ 65535)
      ∧ ∀ n, d.maxEntryBytes = some n → n ≤ 18446744073709551615 := by
  obtain ⟨entries, -, h⟩ := Option.bind_eq_some_iff.mp h
  unfold documentSettings? at h
  split at h
  · simp only [bind, Option.bind_eq_some_iff] at h
    obtain ⟨_, -, _, -, h⟩ := h
    split at h
    · simp only [Option.bind_eq_some_iff] at h
      obtain ⟨major, hmajor, bytes, hbytes, _, -, _, -, _, -, _, -, h⟩ := h
      cases h
      constructor <;> rintro n rfl
      · exact natural?_le hmajor
      · exact natural?_le hbytes
    · cases h
  · cases h

/-! ### Both -/

/-- An interface that is blank is none for both readers. -/
theorem filter_eq_nonBlank?_iff (value : String) :
    (some value).filter (fun s => trim s ≠ "") = nonBlank? value
      ↔ trim value = value ∨ trim value = "" := by
  by_cases h : trim value = ""
  · simp [nonBlank?_eq_none h, h, Option.filter]
  · simp [nonBlank?_of_ne h, h, Option.filter, eq_comm]

theorem some_eq_nonBlank?_iff (value : String) :
    some value = nonBlank? value ↔ trim value = value ∧ value ≠ "" := by
  rw [eq_comm, nonBlank?_eq_some_iff, eq_comm]

/-- Where a blank text is kept, it is not the default. -/
theorem eq_getD_nonBlank?_iff {value default : String} (hdefault : trim default = default)
    (hne : default ≠ "") :
    value = (nonBlank? value).getD default ↔ trim value = value ∧ value ≠ "" := by
  by_cases h : trim value = ""
  · rw [nonBlank?_eq_none h, Option.getD_none]
    constructor
    · rintro rfl
      exact absurd (hdefault ▸ h) hne
    · rintro ⟨htrim, hvalue⟩
      exact absurd (htrim ▸ h) hvalue
  · rw [nonBlank?_of_ne h, Option.getD_some, eq_comm]
    refine ⟨fun htrim => ⟨htrim, ?_⟩, And.left⟩
    exact htrim ▸ h

/-- A document that gives one setting and the variable of this setting with the same value come to
the same just in case the value is plain. -/
theorem ofDocument_eq_ofEnvironment_iff {a : Assignment} {text : String} {base : Settings}
    (hwritten : written? text = some a.document) (h : ofDocument text = .ok base) :
    base = ofEnvironment a.environment ↔ a.Plain := by
  obtain ⟨d, layer, hd, hlayer, rfl⟩ := written_of_ofDocument h
  obtain rfl := Option.some.inj (hwritten.symm.trans hd)
  obtain ⟨hmajor, hbytes⟩ := bounds_of_written hwritten
  obtain ⟨rfl, hfloor, -⟩ := layer_of_ok hlayer
  clear h hlayer
  unfold ofEnvironment
  rw [environmentLayer_environment]
  cases a with
  | newestMajor n =>
    -- The document refuses what the variable would raise, so nothing is raised.
    have hmax : max 45 n = n := Nat.max_eq_right (hfloor n rfl)
    simp [Assignment.document, unwritten, Assignment.Plain, overlay,
      number?_toString (hmajor n rfl), hmax, -Nat.toString_eq_repr]
  | maxEntryBytes n =>
    simp [Assignment.document, unwritten, Assignment.Plain, overlay, leastEntryBytes,
      number?_toString (hbytes n rfl), -Nat.toString_eq_repr]
  | requiredInterface value =>
    simpa [Assignment.document, unwritten, Assignment.Plain, overlay]
      using filter_eq_nonBlank?_iff value
  | logLevel value =>
    have hinfo : trim "info" = "info" := by decide +kernel
    simpa [Assignment.document, unwritten, Assignment.Plain, overlay] using
      eq_getD_nonBlank?_iff hinfo (by decide)
  | logFormat value => simp [Assignment.document, unwritten, Assignment.Plain, overlay]
  | logFile value =>
    simpa [Assignment.document, unwritten, Assignment.Plain, overlay]
      using some_eq_nonBlank?_iff value

def plainInterface : Assignment := .requiredInterface "java.sql.Driver"

def plainText : String := "[loader]\nrequired_interface = 'java.sql.Driver'\n"

theorem ofDocument_eq_ofEnvironment_plainInterface :
    written? plainText = some plainInterface.document
      ∧ ofDocument plainText = .ok (ofEnvironment plainInterface.environment) := by
  have hwritten : written? plainText = some plainInterface.document := by decide +kernel
  have hdocument := ofDocument_of_written hwritten
  have hplain : plainInterface.Plain := .inl (by decide +kernel)
  have hboth := (ofDocument_eq_ofEnvironment_iff hwritten hdocument).mpr hplain
  exact ⟨hwritten, hboth ▸ hdocument⟩

def paddedInterface : Assignment := .requiredInterface " java.sql.Driver "

def paddedText : String := "[loader]\nrequired_interface = ' java.sql.Driver '\n"

/-- The padding of an interface is kept by the one reader and not by the other. -/
theorem not_document_eq_environment :
    ¬∀ (a : Assignment) (text : String) (base : Settings), written? text = some a.document →
      ofDocument text = .ok base → base = ofEnvironment a.environment := by
  intro h
  have hwritten : written? paddedText = some paddedInterface.document := by decide +kernel
  have hdocument := ofDocument_of_written hwritten
  have hdiffers := h paddedInterface paddedText _ hwritten hdocument
  revert hdiffers
  decide +kernel

end DriverClasses.Settings
