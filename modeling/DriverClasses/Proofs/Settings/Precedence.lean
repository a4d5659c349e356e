import DriverClasses.Proofs.Text.Decimal
import DriverClasses.Proofs.Text.Decoding
import DriverClasses.Settings.Environment

/-!
# Which layer decides

Each setting is looked for in the environment, then in the document, and then there is its default.
A variable that says nothing that can be understood is as good as absent: the next layer decides,
and no other setting is the worse for it (`Chosen`).  Whatever comes out keeps the floors, and only
the document can be the cause of a failure (`layered_chosen`).
-/

namespace DriverClasses.Settings

open DriverClasses.ClassFile DriverClasses.Logging DriverClasses.Text DriverClasses.Files

variable {env : Environment} {name text : String} {files : FileTree} {d : DocumentSettings}

/-! ### What a variable says -/

/-- The variable is a text that is not blank, and this is the text without its padding. -/
def Tells (env : Environment) (name text : String) : Prop :=
  ∃ value, env.lookup name = some (utf8 value) ∧ text = trim value ∧ text ≠ ""

/-- The variable says a number up to a limit, and this is the number, or the least one if it is
smaller. -/
def TellsNumber (env : Environment) (name : String) (least limit n : Nat) : Prop :=
  ∃ text k, Tells env name text ∧ Writes text k ∧ k ≤ limit ∧ n = max least k

def TellsFormat (env : Environment) (name : String) (format : LogFormat) : Prop :=
  ∃ text, Tells env name text ∧ normalName text = format.text

/-- The variable is absent, no text, or blank. -/
def Silent (env : Environment) (name : String) : Prop :=
  env.lookup name = none ∨ (∃ bytes, env.lookup name = some bytes ∧ ∀ value, bytes ≠ utf8 value)
    ∨ ∃ value, env.lookup name = some (utf8 value) ∧ trim value = ""

theorem value?_eq_some_iff : env.value? name = some text ↔ Tells env name text := by
  unfold Environment.value? Tells
  simp only [bind, Option.bind_eq_some_iff, ofUtf8?_eq_some_iff, nonBlank?_eq_some_iff]
  constructor
  · rintro ⟨_, hbytes, value, rfl, htext⟩
    exact ⟨value, hbytes, htext⟩
  · rintro ⟨value, hbytes, htext⟩
    exact ⟨_, hbytes, value, rfl, htext⟩

theorem number?_eq_some_iff {limit n : Nat} :
    number? limit text = some n ↔ Writes text n ∧ n ≤ limit := by
  unfold number?
  rw [Option.filter_eq_some_iff, decimal?_eq_some_iff, decide_eq_true_iff]

theorem ofText?_eq_some_iff {format : LogFormat} :
    LogFormat.ofText? text = some format ↔ normalName text = format.text := by
  unfold LogFormat.ofText?
  split
  · rename_i h
    rw [h]
    cases format <;> decide
  · rename_i h
    rw [h]
    cases format <;> decide
  · rename_i hjson hpretty
    cases format
    · exact iff_of_false (by simp) hjson
    · exact iff_of_false (by simp) hpretty

theorem Silent.value?_eq_none (h : Silent env name) : env.value? name = none := by
  rw [Option.eq_none_iff_forall_ne_some]
  intro text htext
  obtain ⟨value, hvalue, rfl, hne⟩ := value?_eq_some_iff.mp htext
  rcases h with hnone | ⟨bytes, hbytes, hill⟩ | ⟨other, hother, hblank⟩
  · rw [hnone] at hvalue
    cases hvalue
  · rw [hbytes, Option.some.injEq] at hvalue
    exact hill value hvalue
  · rw [hother, Option.some.injEq] at hvalue
    rw [← String.toList_inj.mp (utf8Chars_inj.mp hvalue)] at hne
    exact hne hblank

theorem tells_number_iff {least limit n : Nat} :
    ((env.value? name).bind fun text => (number? limit text).bind fun k => some (max least k))
        = some n
      ↔ TellsNumber env name least limit n := by
  unfold TellsNumber
  simp only [Option.bind_eq_some_iff, value?_eq_some_iff, number?_eq_some_iff, Option.some.injEq]
  constructor
  · rintro ⟨text, htext, k, ⟨hwrites, hle⟩, rfl⟩
    exact ⟨text, k, htext, hwrites, hle, rfl⟩
  · rintro ⟨text, k, htext, hwrites, hle, rfl⟩
    exact ⟨text, htext, k, ⟨hwrites, hle⟩, rfl⟩

theorem tells_format_iff {format : LogFormat} :
    ((env.value? name).bind LogFormat.ofText?) = some format ↔ TellsFormat env name format := by
  unfold TellsFormat
  simp only [Option.bind_eq_some_iff, value?_eq_some_iff, ofText?_eq_some_iff]

/-! ### What a document says -/

/-- The settings of a document, each with its type. -/
def written? (text : String) : Option DocumentSettings :=
  (Document.parse text).bind documentSettings?

theorem le_of_checkMajor {major : Option Nat} (h : checkMajor major = .ok ()) {n : Nat}
    (hn : major = some n) : leastMajor ≤ n := by
  subst hn
  unfold checkMajor at h
  dsimp only at h
  split at h
  · cases h
  · rename_i hle
    exact Nat.le_of_not_lt hle

theorem eq_bind_of_checkFormat {format : Option String} {read : Option LogFormat}
    (h : checkFormat format = .ok read) :
    read = format.bind LogFormat.ofText?
      ∧ ∀ name, format = some name → ∃ f, LogFormat.ofText? name = some f := by
  unfold checkFormat at h
  cases format with
  | none =>
    rw [← Except.ok.inj h]
    exact ⟨rfl, by simp⟩
  | some name =>
    dsimp only at h
    split at h
    · rename_i f hf
      rw [← Except.ok.inj h, Option.bind_some, hf]
      refine ⟨rfl, fun other hother => ⟨f, ?_⟩⟩
      rw [← Option.some.inj hother, hf]
    · cases h

/-- What a document that is accepted leaves to say. -/
theorem layer_of_ok {layer : Layer} (h : d.layer = .ok layer) :
    layer =
        { newestMajor := d.newestMajor
          maxEntryBytes := d.maxEntryBytes.map (max leastEntryBytes)
          requiredInterface := d.requiredInterface.filter fun s => trim s ≠ ""
          logLevel := d.logLevel
          logFormat := d.logFormat.bind LogFormat.ofText?
          logFile := d.logFile }
      ∧ (∀ n, d.newestMajor = some n → leastMajor ≤ n)
      ∧ ∀ name, d.logFormat = some name → ∃ f, LogFormat.ofText? name = some f := by
  unfold DocumentSettings.layer at h
  cases hmajor : checkMajor d.newestMajor with
  | error error => simp [hmajor, bind, Except.bind] at h
  | ok _ =>
    cases hformat : checkFormat d.logFormat with
    | error error => simp [hmajor, hformat, bind, Except.bind] at h
    | ok read =>
      obtain ⟨rfl, hknown⟩ := eq_bind_of_checkFormat hformat
      simp only [hmajor, hformat, bind, Except.bind, pure, Except.pure, Except.ok.injEq,
        isSome_nonBlank?] at h
      exact ⟨h.symm, fun n hn => le_of_checkMajor hmajor hn, hknown⟩

theorem ofDocument_of_written (h : written? text = some d) :
    ofDocument text = d.layer.map ({} : Settings).overlay := by
  unfold ofDocument
  rw [show (Document.parse text).bind documentSettings? = some d from h]

theorem written_of_ofDocument {base : Settings} (h : ofDocument text = .ok base) :
    ∃ d layer, written? text = some d ∧ d.layer = .ok layer
      ∧ base = ({} : Settings).overlay layer := by
  unfold ofDocument at h
  unfold written?
  split at h
  · cases h
  · rename_i d hd
    cases hlayer : d.layer with
    | error error => simp [hlayer, Except.map] at h
    | ok layer =>
      simp only [hlayer, Except.map, Except.ok.injEq] at h
      exact ⟨d, layer, hd, hlayer, h.symm⟩

/-! ### The choice -/

/-- What the environment says, if it says anything, else what the document says, else the default.
`use` makes a setting of it. -/
inductive Chosen {α β : Type} (use : α → β) (said : α → Prop) (written : Option α) (default : β) :
    β → Prop
  | environment {a : α} : said a → Chosen use said written default (use a)
  | document {a : α} : (∀ b, ¬said b) → written = some a → Chosen use said written default (use a)
  | neither : (∀ b, ¬said b) → written = none → Chosen use said written default default

theorem chosen_elim {α β : Type} (use : α → β) {said : α → Prop} {layer : Option α}
    (hsaid : ∀ a, layer = some a ↔ said a) (written : Option α) (default : β) :
    Chosen use said written default ((layer.or written).elim default use) := by
  cases layer with
  | some a => exact .environment ((hsaid a).mp rfl)
  | none =>
    have hnone : ∀ b, ¬said b := fun b hb => nomatch (hsaid b).mpr hb
    cases written with
    | some a => exact .document hnone rfl
    | none => exact .neither hnone rfl

/-- Where each of the settings comes from. -/
structure Layered (env : Environment) (d : DocumentSettings) (s : Settings) : Prop where
  newestMajor : Chosen id (TellsNumber env "DRIVER_LOADER_MAX_CLASS_VERSION" 45 65535)
    d.newestMajor 65 s.link.newestMajor
  maxEntryBytes : Chosen id
    (TellsNumber env "DRIVER_LOADER_MAX_ENTRY_BYTES" 1024 18446744073709551615)
    (d.maxEntryBytes.map (max 1024)) 16777216 s.link.maxEntryBytes
  requiredInterface : Chosen some (Tells env "DRIVER_LOADER_REQUIRED_INTERFACE")
    (d.requiredInterface.filter fun interface => trim interface ≠ "") none s.link.requiredInterface
  logLevel : Chosen id (Tells env "DRIVER_LOADER_LOG_LEVEL") d.logLevel "info" s.log.level
  logFormat : Chosen id (TellsFormat env "DRIVER_LOADER_LOG_FORMAT")
    (d.logFormat.bind LogFormat.ofText?) .json s.log.format
  logFile : Chosen some (Tells env "DRIVER_LOADER_LOG_FILE") d.logFile none s.log.file

/-- No number is below its floor, and an interface that is required is not blank. -/
structure KeepsFloors (s : Settings) : Prop where
  newestMajor : 45 ≤ s.link.newestMajor
  maxEntryBytes : 1024 ≤ s.link.maxEntryBytes
  requiredInterface : ∀ interface, s.link.requiredInterface = some interface → trim interface ≠ ""

/-- A document that says nothing. -/
def unwritten : DocumentSettings :=
  { newestMajor := none, maxEntryBytes := none, requiredInterface := none, logLevel := none
    logFormat := none, logFile := none }

theorem getD_getD {α : Type} (x y : Option α) (default : α) :
    x.getD (y.getD default) = (x.or y).elim default id := by
  cases x <;> cases y <;> rfl

theorem or_or_none {α : Type} (x y : Option α) :
    x.or (y.or none) = (x.or y).elim none some := by
  cases x <;> cases y <;> rfl

theorem layered_overlay (env : Environment) {layer : Layer} (h : d.layer = .ok layer) :
    Layered env d ((({} : Settings).overlay layer).overlay (environmentLayer env)) := by
  obtain ⟨rfl, -, -⟩ := layer_of_ok h
  constructor <;> simp only [overlay, getD_getD, or_or_none] <;> apply chosen_elim <;> intro a
  · exact tells_number_iff
  · exact tells_number_iff
  · exact value?_eq_some_iff
  · exact value?_eq_some_iff
  · exact tells_format_iff
  · exact value?_eq_some_iff

theorem layered_ofEnvironment (env : Environment) : Layered env unwritten (ofEnvironment env) :=
  layered_overlay env (d := unwritten) rfl

/-- Every way in has its own guard at the floors. -/
theorem Layered.keepsFloors {s : Settings} (h : Layered env d s)
    (hmajor : ∀ n, d.newestMajor = some n → 45 ≤ n) : KeepsFloors s where
  newestMajor := by
    have hchosen := h.newestMajor
    generalize s.link.newestMajor = n at hchosen ⊢
    cases hchosen with
    | environment hsaid =>
      obtain ⟨_, k, -, -, -, rfl⟩ := hsaid
      exact Nat.le_max_left _ _
    | document _ hwritten => exact hmajor _ hwritten
    | neither => decide
  maxEntryBytes := by
    have hchosen := h.maxEntryBytes
    generalize s.link.maxEntryBytes = n at hchosen ⊢
    cases hchosen with
    | environment hsaid =>
      obtain ⟨_, k, -, -, -, rfl⟩ := hsaid
      exact Nat.le_max_left _ _
    | document _ hwritten =>
      obtain ⟨k, -, rfl⟩ := Option.map_eq_some_iff.mp hwritten
      exact Nat.le_max_left _ _
    | neither => decide
  requiredInterface interface hinterface := by
    have hchosen := h.requiredInterface
    generalize s.link.requiredInterface = required at hchosen hinterface
    cases hchosen with
    | environment hsaid =>
      obtain ⟨value, -, rfl, hne⟩ := hsaid
      rw [← Option.some.inj hinterface, trim_trim]
      exact hne
    | document _ hwritten =>
      rw [← Option.some.inj hinterface]
      exact of_decide_eq_true (Option.filter_eq_some_iff.mp hwritten).2
    | neither => cases hinterface

/-! ### Both layers -/

theorem layered_of_silent (h : Silent env fileVariable) :
    layered files env = .ok (ofEnvironment env) := by
  unfold layered
  rw [h.value?_eq_none]
  rfl

theorem layered_of_tells {path : String} (h : Tells env fileVariable path) :
    layered files env = (ofFile files path).map (·.overlay (environmentLayer env)) := by
  unfold layered
  rw [value?_eq_some_iff.mpr h]
  dsimp only
  cases ofFile files path <;> rfl

theorem silent_or_tells (env : Environment) (name : String) :
    Silent env name ∨ ∃ text, Tells env name text := by
  cases hlookup : env.lookup name with
  | none => exact .inl (.inl hlookup)
  | some bytes =>
    by_cases htext : ∃ value, bytes = utf8 value
    · obtain ⟨value, rfl⟩ := htext
      by_cases hblank : trim value = ""
      · exact .inl (.inr (.inr ⟨value, hlookup, hblank⟩))
      · exact .inr ⟨trim value, value, hlookup, rfl, hblank⟩
    · exact .inl (.inr (.inl ⟨bytes, hlookup, fun value hvalue => htext ⟨value, hvalue⟩⟩))

theorem Silent.not_tells (h : Silent env name) : ¬Tells env name text := by
  intro htells
  rw [← value?_eq_some_iff, h.value?_eq_none] at htells
  cases htells

theorem Tells.unique {other : String} (h : Tells env name text) (hother : Tells env name other) :
    other = text := by
  rw [← value?_eq_some_iff] at h hother
  exact Option.some.inj (hother.symm.trans h)

theorem ofFile_of_text {path : String} (h : files.read (utf8 path) = .ok (utf8 text)) :
    ofFile files path = ofDocument text := by
  unfold ofFile
  rw [h]
  dsimp only
  rw [ofUtf8?_utf8]

theorem exists_text_of_ofFile {path : String} {base : Settings}
    (h : ofFile files path = .ok base) : ∃ text, ofDocument text = .ok base := by
  unfold ofFile at h
  split at h
  · cases h
  · split at h
    · cases h
    · exact ⟨_, h⟩

theorem Layered.of_ofDocument (env : Environment) {base : Settings}
    (h : ofDocument text = .ok base) :
    ∃ d, written? text = some d ∧ Layered env d (base.overlay (environmentLayer env))
      ∧ KeepsFloors (base.overlay (environmentLayer env)) := by
  obtain ⟨d, layer, hwritten, hlayer, rfl⟩ := written_of_ofDocument h
  obtain ⟨-, hmajor, -⟩ := layer_of_ok hlayer
  have hlayered := layered_overlay env hlayer
  exact ⟨d, hwritten, hlayered, hlayered.keepsFloors hmajor⟩

theorem keepsFloors_ofEnvironment (env : Environment) : KeepsFloors (ofEnvironment env) :=
  (layered_ofEnvironment env).keepsFloors fun _ hn => nomatch hn

theorem keepsFloors_of_layered {s : Settings} (h : layered files env = .ok s) : KeepsFloors s := by
  rcases silent_or_tells env fileVariable with hsilent | ⟨path, htells⟩
  · rw [layered_of_silent hsilent] at h
    exact Except.ok.inj h ▸ keepsFloors_ofEnvironment env
  · rw [layered_of_tells htells] at h
    cases hbase : ofFile files path with
    | error error => simp [hbase, Except.map] at h
    | ok base =>
      simp only [hbase, Except.map, Except.ok.injEq] at h
      obtain ⟨text, htext⟩ := exists_text_of_ofFile hbase
      obtain ⟨d, -, -, hkept⟩ := Layered.of_ofDocument env htext
      exact h ▸ hkept

/-- Whatever the other variables are, a failure is one of the file that is named. -/
theorem layered_eq_error_iff {error : SettingsError} :
    layered files env = .error error
      ↔ ∃ path, Tells env fileVariable path ∧ ofFile files path = .error error := by
  rcases silent_or_tells env fileVariable with hsilent | ⟨path, htells⟩
  · rw [layered_of_silent hsilent]
    refine iff_of_false (fun h => nomatch h) ?_
    rintro ⟨path, htells, -⟩
    exact hsilent.not_tells htells
  · rw [layered_of_tells htells]
    constructor
    · intro h
      cases hbase : ofFile files path with
      | error other =>
        simp only [hbase, Except.map, Except.error.injEq] at h
        exact ⟨path, htells, h ▸ hbase⟩
      | ok base => simp [hbase, Except.map] at h
    · rintro ⟨other, hother, herror⟩
      rw [htells.unique hother] at herror
      rw [herror]
      rfl

/-- Without a settings file, each setting is what the environment says or the default, and nothing
fails.  With a file whose document is accepted, each setting is what the environment says, or else
what the document says, or else the default; and whatever the environment is, a failure is one of
the file that it names.  In all of these cases the floors are kept. -/
theorem layered_chosen (files : FileTree) (env : Environment) :
    Layered env unwritten (ofEnvironment env) ∧ KeepsFloors (ofEnvironment env)
      ∧ (Silent env fileVariable → layered files env = .ok (ofEnvironment env))
      ∧ (∀ path text base, Tells env fileVariable path → files.read (utf8 path) = .ok (utf8 text) →
          ofDocument text = .ok base →
          ∃ d s, written? text = some d ∧ layered files env = .ok s ∧ Layered env d s)
      ∧ (∀ s, layered files env = .ok s → KeepsFloors s)
      ∧ ∀ error, layered files env = .error error
        ↔ ∃ path, Tells env fileVariable path ∧ ofFile files path = .error error := by
  refine ⟨layered_ofEnvironment env, keepsFloors_ofEnvironment env, layered_of_silent, ?_,
    fun s => keepsFloors_of_layered, fun error => layered_eq_error_iff⟩
  intro path text base htells hread hbase
  obtain ⟨d, hwritten, hlayered, -⟩ := Layered.of_ofDocument env hbase
  refine ⟨d, _, hwritten, ?_, hlayered⟩
  rw [layered_of_tells htells, ofFile_of_text hread, hbase]
  rfl

/-- The text of a settings file. -/
def loaderText : String :=
  "[loader]\nmax_class_version = 52\nmax_entry_bytes = 1\nrequired_interface = 'java.sql.Driver'\n"
    ++ "[log]\nformat = 'pretty'\n"

def loaderFiles : FileTree :=
  { items :=
      [([utf8 "etc"], .directory), ([utf8 "etc", utf8 "loader.toml"], .file (utf8 loaderText))] }

/-- One variable that is no text, one too small, one blank and one that is no format. -/
def loaderEnvironment : Environment :=
  [(fileVariable, utf8 " /etc/loader.toml "), ("DRIVER_LOADER_MAX_CLASS_VERSION", [0xFF]),
    ("DRIVER_LOADER_MAX_ENTRY_BYTES", utf8 "7"), ("DRIVER_LOADER_REQUIRED_INTERFACE", utf8 "  "),
    ("DRIVER_LOADER_LOG_FORMAT", utf8 "xml"), ("DRIVER_LOADER_LOG_LEVEL", utf8 " debug ")]

def loaderSettings : Settings :=
  { link := { newestMajor := 52, maxEntryBytes := 1024, requiredInterface := some "java.sql.Driver" }
    log := { level := "debug", format := .pretty, file := none } }

def loaderDocument : DocumentSettings :=
  { newestMajor := some 52, maxEntryBytes := some 1, requiredInterface := some "java.sql.Driver"
    logLevel := none, logFormat := some "pretty", logFile := none }

theorem layered_chosen_loaderFiles :
    Tells loaderEnvironment fileVariable "/etc/loader.toml"
      ∧ layered loaderFiles loaderEnvironment = .ok loaderSettings
      ∧ Layered loaderEnvironment loaderDocument loaderSettings
      ∧ KeepsFloors loaderSettings := by
  have htells : Tells loaderEnvironment fileVariable "/etc/loader.toml" :=
    ⟨" /etc/loader.toml ", rfl, by decide +kernel, by decide⟩
  have hread : loaderFiles.read (utf8 "/etc/loader.toml") = .ok (utf8 loaderText) := by rfl
  have hwritten : written? loaderText = some loaderDocument := by decide +kernel
  have hdocument := ofDocument_of_written hwritten
  obtain ⟨-, -, -, hfile, hfloors, -⟩ := layered_chosen loaderFiles loaderEnvironment
  obtain ⟨d, s, hd, hlayered, hchosen⟩ := hfile _ _ _ htells hread hdocument
  obtain rfl : loaderDocument = d := Option.some.inj (hwritten.symm.trans hd)
  have hs : s = loaderSettings := by
    rw [layered_of_tells htells, ofFile_of_text hread, hdocument] at hlayered
    rw [← Except.ok.inj hlayered]
    decide +kernel
  subst hs
  exact ⟨htells, hlayered, hchosen, hfloors _ hlayered⟩

end DriverClasses.Settings
