import DriverClasses.Proofs.Archive.Reading
import DriverClasses.Proofs.Loading.Bare
import DriverClasses.Proofs.Loading.Limits

/-!
# Looser policies

A looser policy allows newer versions and larger entries, and it asks for the same interface or for
none.  A location that provides a class under a policy provides it under a looser one, byte by byte:
what was found within the limit was all that there is (`Content.Steady`).  So the scan under the
looser policy gets no further than the other one, though a source that was passed over may now
provide the class.  No load is lost by it (`keepsLoads_of_loosens`).
-/

namespace DriverClasses.ClassFile

/-- The policy `looser` allows all that `policy` allows. -/
structure LinkPolicy.Loosens (looser policy : LinkPolicy) : Prop where
  newestMajor_le : policy.newestMajor ≤ looser.newestMajor
  maxEntryBytes_le : policy.maxEntryBytes ≤ looser.maxEntryBytes
  requiredInterface_eq : looser.requiredInterface = none
    ∨ looser.requiredInterface = policy.requiredInterface

theorem link_of_loosens {looser policy : LinkPolicy} {name : String} {bytes : List UInt8}
    {header : Header} (h : looser.Loosens policy) (hlink : link policy name bytes = .ok header) :
    link looser name bytes = .ok header := by
  obtain ⟨hread, ⟨holdest, hnewest⟩, hname, hinterfaces⟩ := link_eq_ok_iff.mp hlink
  refine link_eq_ok_iff.mpr ⟨hread, ⟨holdest, Nat.le_trans hnewest h.newestMajor_le⟩, hname, ?_⟩
  intro interface hrequired
  rcases h.requiredInterface_eq with hnone | hsame
  · rw [hnone] at hrequired
    cases hrequired
  · exact hinterfaces interface (hsame ▸ hrequired)

end DriverClasses.ClassFile

namespace DriverClasses.Loading

open DriverClasses.ClassFile DriverClasses.Text DriverClasses.Files

/-! ### What a location provides -/

/-- What falls short of a request is all that there is, and a larger request gets the same. -/
def Content.Steady (content : Content) : Prop :=
  ∀ ⦃wanted more : Nat⦄ ⦃bytes : Bytes⦄, wanted ≤ more → bytes.length < wanted →
    content.read wanted = .ok bytes → content.read more = .ok bytes

variable {files : FileTree} {location : Location} {entry name reason : String}
  {limit larger : Nat} {content : Content} {bytes : Bytes} {policy looser : LinkPolicy}

theorem steady_ofFile (file : Bytes) : (Content.ofFile file).Steady := by
  intro wanted more bytes hle hshort hread
  obtain rfl : file.take wanted = bytes := Except.ok.inj hread
  rw [List.length_take] at hshort
  have hwhole : file.take wanted = file := List.take_of_length_le (by omega)
  rw [hwhole]
  exact congrArg Except.ok (List.take_of_length_le (by omega))

theorem Holds.steady (h : Holds files location entry content) : content.Steady := by
  cases h with
  | file _ _ => exact steady_ofFile _
  | member _ _ => exact fun _ _ _ hle hshort hread => Archive.Member.read_of_short hle hshort hread

theorem readCapped_eq_found_iff :
    content.readCapped entry limit = .found bytes
      ↔ content.declared ≤ limit ∧ bufferSize content.declared limit ≤ largestBuffer
        ∧ content.read (request limit) = .ok bytes ∧ bytes.length ≤ limit := by
  unfold Content.readCapped
  constructor
  · intro h
    split at h
    · cases h
    · rename_i hdeclared
      split at h
      · cases h
      · rename_i hbuffer
        split at h
        · cases h
        · rename_i hread
          split at h
          · cases h
          · rename_i hlength
            obtain rfl := Lookup.found.inj h
            exact ⟨Nat.le_of_not_lt hdeclared, Nat.le_of_not_lt hbuffer, hread,
              Nat.le_of_not_lt hlength⟩
  · rintro ⟨hdeclared, hbuffer, hread, hlength⟩
    rw [if_neg (Nat.not_lt.mpr hdeclared), if_neg (Nat.not_lt.mpr hbuffer), hread]
    exact if_neg (Nat.not_lt.mpr hlength)

theorem readCapped_of_le (hsteady : content.Steady) (hle : limit ≤ larger)
    (hbuffer : larger ≤ largestBuffer) (h : content.readCapped entry limit = .found bytes) :
    content.readCapped entry larger = .found bytes := by
  obtain ⟨hdeclared, -, hread, hlength⟩ := readCapped_eq_found_iff.mp h
  have hsmall : ∀ n ≤ largestBuffer, n < UInt64.size - 1 := fun n hn =>
    Nat.lt_of_le_of_lt hn (by decide)
  rw [request_eq (hsmall limit (Nat.le_trans hle hbuffer))] at hread
  refine readCapped_eq_found_iff.mpr ⟨Nat.le_trans hdeclared hle,
    bufferSize_le_iff.mpr (.inr hbuffer), ?_, Nat.le_trans hlength hle⟩
  rw [request_eq (hsmall larger hbuffer)]
  exact hsteady (Nat.succ_le_succ hle) (Nat.lt_succ_of_le hlength) hread

theorem findInLocation_of_le (hle : limit ≤ larger) (hbuffer : larger ≤ largestBuffer)
    (h : findInLocation location files entry limit = .found bytes) :
    findInLocation location files entry larger = .found bytes := by
  rcases holds_or_const files location entry with ⟨content, hholds⟩ | ⟨answer, -, hconst⟩
  · rw [hholds.find_eq] at h ⊢
    exact readCapped_of_le hholds.steady hle hbuffer h
  · rw [hconst] at h ⊢
    exact h

theorem verdict_of_loosens {header : Header} (hloosens : looser.Loosens policy)
    (hbuffer : looser.maxEntryBytes ≤ largestBuffer)
    (h : verdict files policy name (.ofLocation location) = .linked header bytes) :
    verdict files looser name (.ofLocation location) = .linked header bytes := by
  obtain ⟨hfind, hlink⟩ := verdict_eq_linked_iff.mp h
  exact verdict_eq_linked_iff.mpr
    ⟨findInLocation_of_le hloosens.maxEntryBytes_le hbuffer hfind, link_of_loosens hloosens hlink⟩

theorem verdict_ne_crashed (hbuffer : policy.maxEntryBytes ≤ largestBuffer) :
    verdict files policy name (.ofLocation location) ≠ .crashed reason := fun hcrashed =>
  Nat.not_lt.mpr hbuffer (lt_limit_of_findInLocation (verdict_eq_crashed_iff.mp hcrashed))

/-! ### Scans -/

section Scan

variable {judge lenient : ClassSource → Verdict} {before after sources : List ClassSource}
  {s s' : ClassSource} {origin : String} {header : Header} {place : Nat}

theorem passes_of_getElem? (hpass : ∀ t ∈ before, (judge t).passes)
    (hsplit : sources = before ++ s :: after) (hplace : place < before.length)
    (hs : sources[place]? = some s') : (judge s').passes := by
  rw [hsplit, List.getElem?_append_left hplace] at hs
  exact hpass s' (List.mem_of_getElem? hs)

theorem getElem?_split (hsplit : sources = before ++ s :: after) :
    sources[before.length]? = some s := by
  simp [hsplit]

theorem Scanned.exists_source {ended : ScanEnd × Nat} (h : Scanned judge name sources ended)
    (hended : ended.1 = .linked origin header bytes) :
    ∃ place s, ended.2 = place + 1 ∧ sources[place]? = some s ∧ s.origin = origin := by
  cases h with
  | @linked before _ s _ _ hsplit _ _ =>
    obtain ⟨horigin, -, -⟩ := ScanEnd.linked.inj hended
    exact ⟨before.length, s, rfl, getElem?_split hsplit, horigin⟩
  | crashed | blamed | missing => cases hended

/-- Where more links and nothing crashes, a scan that links does so no later. -/
theorem Scanned.of_lenient
    (hlinks : ∀ t ∈ sources, ∀ header bytes, judge t = .linked header bytes →
      lenient t = .linked header bytes)
    (hcrashes : ∀ t ∈ sources, ∀ reason, lenient t ≠ .crashed reason)
    (h : Scanned judge name sources (.linked origin header bytes, place + 1)) :
    ∃ origin' header' bytes' earlier, earlier ≤ place
      ∧ Scanned lenient name sources (.linked origin' header' bytes', earlier + 1)
      ∧ (earlier = place → origin' = origin ∧ header' = header ∧ bytes' = bytes) := by
  cases h with
  | @linked before after s _ _ hsplit _ hs =>
    have hmem : s ∈ sources := hsplit ▸ List.mem_append_right before List.mem_cons_self
    have hlinked := hlinks s hmem header bytes hs
    have hdecides : ¬ (lenient s).passes := by simp [hlinked, Verdict.passes]
    obtain ⟨r, hr⟩ := exists_scanned lenient name sources
    cases hr with
    | @linked before' after' s' _ _ hsplit' hbefore' hs' =>
      refine ⟨_, _, _, _, ?_, .linked hsplit' hbefore' hs', fun heq => ?_⟩
      · by_contra hlt
        exact hdecides
          (passes_of_getElem? hbefore' hsplit' (by omega) (getElem?_split hsplit))
      · have hplace := getElem?_split hsplit'
        rw [heq, getElem?_split hsplit, Option.some.injEq] at hplace
        rw [← hplace, hlinked, Verdict.linked.injEq] at hs'
        exact ⟨congrArg _ hplace.symm, hs'.1.symm, hs'.2.symm⟩
    | @crashed before' after' s' _ hsplit' _ hs' =>
      exact absurd hs' (hcrashes s' (hsplit' ▸ List.mem_append_right before' List.mem_cons_self) _)
    | blamed _ hpass _ _ => exact absurd (hpass s hmem) hdecides
    | missing habsent => exact absurd (by rw [habsent s hmem]; rfl) hdecides

end Scan

/-! ### Loads -/

namespace Forest

/-- A load in the context `c` hands out the class `h` of the source at `place`, which is the last
one that it has asked. -/
structure LoadsFrom (f : Forest) (files : FileTree) (c : Context) (name : String) (place : Nat)
    (h : LoadedClass) : Prop where
  loaded : (f.load files c.id name).1 = .loaded h
  asked : (f.load files c.id name).2.consultations
    = f.consultations ++ questions c name (place + 1)
  source : ∃ s, c.sources[place]? = some s ∧ s.origin = h.origin

theorem length_questions (c : Context) (name : String) (count : Nat) :
    (questions c name count).length = count := by
  simp [questions]

/-- What a load in the context of this id answers after its scan has ended. -/
def answerTo (f : Forest) (id : Nat) : ScanEnd → LoadResult
  | .linked origin header bytes => .loaded (f.newClass id origin header bytes).1
  | .failed error => .failed error
  | .crashed reason => .crashed reason

variable {f g : Forest} {i j id place asked : Nat} {sources : List ClassSource} {h : LoadedClass}
  {scanEnd : ScanEnd}

theorem scanContext_of_scanned {c : Context}
    (hscanned : Scanned (verdict files c.policy name) name c.sources (scanEnd, asked)) :
    (f.scanContext files c name).1 = f.answerTo c.id scanEnd
      ∧ (f.scanContext files c name).2.consultations
          = f.consultations ++ questions c name asked := by
  unfold scanContext scan
  rw [hscanned.eq]
  cases scanEnd <;> exact ⟨rfl, rfl⟩

/-- A load of a bare context answers what the scan of its sources comes to. -/
theorem load_bare_of_scanned (hc : f.context? id = some (.bare id policy sources))
    (hname : isBinaryName name = true)
    (hscanned : Scanned (verdict files policy name) name sources (scanEnd, asked)) :
    (f.load files id name).1 = f.answerTo id scanEnd
      ∧ (f.load files id name).2.consultations
          = f.consultations ++ questions (.bare id policy sources) name asked := by
  rw [load_of_bare hc, if_pos hname]
  exact scanContext_of_scanned hscanned

theorem load_bare_of_not_binary (hc : f.context? id = some (.bare id policy sources))
    (hname : isBinaryName name ≠ true) :
    f.load files id name = (.failed (.classNotFound name 0), f) := by
  rw [load_of_bare hc, if_neg hname]

theorem binary_of_loaded (hc : f.context? id = some (.bare id policy sources))
    (hloaded : (f.load files id name).1 = .loaded h) : isBinaryName name = true := by
  by_contra hname
  rw [load_bare_of_not_binary hc hname] at hloaded
  cases hloaded

theorem answerTo_eq_loaded_iff :
    f.answerTo id scanEnd = .loaded h
      ↔ ∃ header bytes, scanEnd = .linked h.origin header bytes
          ∧ h = (f.newClass id h.origin header bytes).1 := by
  constructor
  · intro heq
    cases scanEnd with
    | linked origin header bytes =>
      obtain rfl := LoadResult.loaded.inj heq
      exact ⟨header, bytes, rfl, rfl⟩
    | failed error => cases heq
    | crashed reason => cases heq
  · rintro ⟨header, bytes, rfl, hh⟩
    exact congrArg LoadResult.loaded hh.symm

/-- What a load of a bare context hands out is what the scan of its sources links. -/
theorem loadsFrom_bare_iff (hc : f.context? id = some (.bare id policy sources)) :
    f.LoadsFrom files (.bare id policy sources) name place h
      ↔ isBinaryName name = true ∧ ∃ header bytes,
          Scanned (verdict files policy name) name sources
            (.linked h.origin header bytes, place + 1)
          ∧ h = (f.newClass id h.origin header bytes).1 := by
  constructor
  · rintro ⟨hloaded, hasked, -⟩
    have hname := binary_of_loaded hc hloaded
    obtain ⟨⟨scanEnd, asked⟩, hscanned⟩ := exists_scanned (verdict files policy name) name sources
    obtain ⟨hanswer, hquestions⟩ := load_bare_of_scanned hc hname hscanned
    obtain ⟨header, bytes, rfl, hh⟩ := answerTo_eq_loaded_iff.mp (hanswer.symm.trans hloaded)
    have hplace : asked = place + 1 := by
      have hlength := congrArg List.length (List.append_cancel_left (hquestions.symm.trans hasked))
      rwa [length_questions, length_questions] at hlength
    exact ⟨hname, header, bytes, hplace ▸ hscanned, hh⟩
  · rintro ⟨hname, header, bytes, hscanned, hh⟩
    obtain ⟨hanswer, hquestions⟩ := load_bare_of_scanned hc hname hscanned
    obtain ⟨_, s, hplace, hs, horigin⟩ := hscanned.exists_source rfl
    refine ⟨hanswer.trans (answerTo_eq_loaded_iff.mpr ⟨header, bytes, rfl, hh⟩), hquestions, s, ?_,
      horigin⟩
    rw [Nat.succ.inj hplace]
    exact hs

theorem exists_loadsFrom_bare (hc : f.context? id = some (.bare id policy sources))
    (hloaded : (f.load files id name).1 = .loaded h) :
    ∃ place, f.LoadsFrom files (.bare id policy sources) name place h := by
  have hname := binary_of_loaded hc hloaded
  obtain ⟨⟨scanEnd, asked⟩, hscanned⟩ := exists_scanned (verdict files policy name) name sources
  have hanswer := (load_bare_of_scanned hc hname hscanned).1.symm.trans hloaded
  obtain ⟨header, bytes, rfl, hh⟩ := answerTo_eq_loaded_iff.mp hanswer
  obtain ⟨place, _, rfl, -, -⟩ := hscanned.exists_source rfl
  exact ⟨place, (loadsFrom_bare_iff hc).mpr ⟨hname, header, bytes, hscanned, hh⟩⟩

/-! ### The law -/

/-- What loads in the contexts `c` and `d` have to do with each other: no class that the first one
loads is lost to the second. -/
structure KeepsLoads (f g : Forest) (files : FileTree) (c d : Context) (name : String) : Prop where
  /-- What is loaded comes from one of the sources. -/
  sourced : ∀ h, (f.load files c.id name).1 = .loaded h → ∃ place, f.LoadsFrom files c name place h
  /-- The second context has the class from the same source, and then it is the same class, or from
  an earlier one. -/
  loaded : ∀ place h, f.LoadsFrom files c name place h → ∃ earlier own, earlier ≤ place
    ∧ g.LoadsFrom files d name earlier own ∧ (earlier = place → own.unmarked = h.unmarked)
  failed : ∀ error, (g.load files d.id name).1 = .failed error →
    ∃ error', (f.load files c.id name).1 = .failed error'
  ended : ∀ reason, (f.load files c.id name).1 ≠ .crashed reason
    ∧ (g.load files d.id name).1 ≠ .crashed reason

variable {locations : List Location}

theorem load_bare_ne_crashed (hbuffer : policy.maxEntryBytes ≤ largestBuffer)
    (hc : f.context? id = some (.bare id policy (locations.map .ofLocation))) :
    (f.load files id name).1 ≠ .crashed reason := by
  intro hcrashed
  by_cases hname : isBinaryName name = true
  · obtain ⟨⟨scanEnd, asked⟩, hscanned⟩ := exists_scanned (verdict files policy name) name
      (locations.map .ofLocation)
    rw [(load_bare_of_scanned hc hname hscanned).1] at hcrashed
    cases hscanned with
    | @crashed before _ s _ hsplit _ hs =>
      have hmem : s ∈ locations.map ClassSource.ofLocation :=
        hsplit ▸ List.mem_append_right before List.mem_cons_self
      obtain ⟨location, -, rfl⟩ := List.mem_map.mp hmem
      exact verdict_ne_crashed hbuffer hs
    | linked => cases hcrashed
    | blamed => cases hcrashed
    | missing => cases hcrashed
  · rw [load_bare_of_not_binary hc hname] at hcrashed
    cases hcrashed

theorem loadsFrom_of_loosens (hloosens : looser.Loosens policy)
    (hbuffer : looser.maxEntryBytes ≤ largestBuffer)
    (hf : f.context? i = some (.bare i policy (locations.map .ofLocation)))
    (hg : g.context? j = some (.bare j looser (locations.map .ofLocation)))
    (hfrom : f.LoadsFrom files (.bare i policy (locations.map .ofLocation)) name place h) :
    ∃ earlier own, earlier ≤ place
      ∧ g.LoadsFrom files (.bare j looser (locations.map .ofLocation)) name earlier own
      ∧ (earlier = place → own.unmarked = h.unmarked) := by
  obtain ⟨hname, header, bytes, hscanned, hh⟩ := (loadsFrom_bare_iff hf).mp hfrom
  have hlinks : ∀ t ∈ locations.map ClassSource.ofLocation, ∀ header bytes,
      verdict files policy name t = .linked header bytes →
      verdict files looser name t = .linked header bytes := by
    intro t ht header bytes
    obtain ⟨location, -, rfl⟩ := List.mem_map.mp ht
    exact verdict_of_loosens hloosens hbuffer
  have hcrashes : ∀ t ∈ locations.map ClassSource.ofLocation, ∀ reason,
      verdict files looser name t ≠ .crashed reason := by
    intro t ht reason
    obtain ⟨location, -, rfl⟩ := List.mem_map.mp ht
    exact verdict_ne_crashed hbuffer
  obtain ⟨origin', header', bytes', earlier, hle, hscanned', hsame⟩ :=
    hscanned.of_lenient hlinks hcrashes
  refine ⟨earlier, (g.newClass j origin' header' bytes').1, hle,
    (loadsFrom_bare_iff hg).mpr ⟨hname, header', bytes', hscanned', rfl⟩, fun heq => ?_⟩
  obtain ⟨rfl, rfl, rfl⟩ := hsame heq
  rw [hh]
  rfl

/-- New contexts over the same locations, each in a forest of its own or not, differ in the policy
only.  As long as a buffer can reach the limit, a looser policy loses none of the classes that the
other one loads, and what it fails to load the other one fails to load. -/
theorem keepsLoads_of_loosens (hloosens : looser.Loosens policy)
    (hbuffer : looser.maxEntryBytes ≤ largestBuffer)
    (hf : f.context? i = some (.bare i policy (locations.map .ofLocation)))
    (hg : g.context? j = some (.bare j looser (locations.map .ofLocation))) (files : FileTree)
    (name : String) :
    KeepsLoads f g files (.bare i policy (locations.map .ofLocation))
      (.bare j looser (locations.map .ofLocation)) name := by
  have hended : ∀ reason, (f.load files i name).1 ≠ .crashed reason := fun reason =>
    load_bare_ne_crashed (Nat.le_trans hloosens.maxEntryBytes_le hbuffer) hf
  refine ⟨fun h hh => exists_loadsFrom_bare hf hh,
    fun place h => loadsFrom_of_loosens hloosens hbuffer hf hg, fun error hfailed => ?_,
    fun reason => ⟨hended reason, load_bare_ne_crashed hbuffer hg⟩⟩
  cases hresult : (f.load files i name).1 with
  | failed error' => exact ⟨error', hresult⟩
  | crashed reason => exact absurd hresult (hended reason)
  | loaded h =>
    obtain ⟨place, hfrom⟩ := exists_loadsFrom_bare hf hresult
    obtain ⟨_, own, -, hown, -⟩ := loadsFrom_of_loosens hloosens hbuffer hf hg hfrom
    exact nomatch hfailed.symm.trans hown.loaded

/-! ### Two versions of a class -/

def newerClass : Bytes := leastClass.set 7 61

def newerHeader : Header := { leastHeader with major := 61 }

/-- Two directories with a class of one name, of which the first one has the newer version. -/
def versionFiles : FileTree :=
  { items :=
      [([utf8 "new"], .directory), ([utf8 "new", utf8 "A.class"], .file newerClass),
        ([utf8 "old"], .directory), ([utf8 "old", utf8 "A.class"], .file leastClass)] }

def newLocation : Location := { text := "/new", path := utf8 "/new" }

def oldLocation : Location := { text := "/old", path := utf8 "/old" }

/-- The newer version is not accepted. -/
def datedPolicy : LinkPolicy := { newestMajor := 60 }

def versionContext (policy : LinkPolicy) : Context :=
  .bare 1 policy ([newLocation, oldLocation].map .ofLocation)

def versionForest (policy : LinkPolicy) : Forest := { contexts := [versionContext policy] }

/-- The dated policy has the class from the second location, and a looser one from the first. -/
theorem keepsLoads_versions :
    ({} : LinkPolicy).Loosens datedPolicy ∧ ({} : LinkPolicy).maxEntryBytes ≤ largestBuffer
      ∧ KeepsLoads (versionForest datedPolicy) (versionForest {}) versionFiles
          (versionContext datedPolicy) (versionContext {}) "A"
      ∧ (∃ own, (versionForest datedPolicy).LoadsFrom versionFiles (versionContext datedPolicy)
          "A" 1 own)
      ∧ ∃ own, (versionForest {}).LoadsFrom versionFiles (versionContext {}) "A" 0 own := by
  have hloosens : ({} : LinkPolicy).Loosens datedPolicy := ⟨by decide, by decide, .inl rfl⟩
  have hname : isBinaryName "A" = true := by decide +kernel
  have hsplit : [newLocation, oldLocation].map ClassSource.ofLocation
      = [.ofLocation newLocation] ++ .ofLocation oldLocation :: [] := rfl
  have hpassed : (verdict versionFiles datedPolicy "A" (.ofLocation newLocation)).passes := by
    decide +kernel
  have hdated : Scanned (verdict versionFiles datedPolicy "A") "A"
      ([newLocation, oldLocation].map .ofLocation) (.linked "/old" leastHeader leastClass, 1 + 1) :=
    .linked hsplit (fun t ht => List.mem_singleton.mp ht ▸ hpassed) (by decide +kernel)
  have hsplit' : [newLocation, oldLocation].map ClassSource.ofLocation
      = [] ++ .ofLocation newLocation :: [.ofLocation oldLocation] := rfl
  have hloose : Scanned (verdict versionFiles {} "A") "A"
      ([newLocation, oldLocation].map .ofLocation) (.linked "/new" newerHeader newerClass, 0 + 1) :=
    .linked hsplit' (by simp) (by decide +kernel)
  exact ⟨hloosens, by decide, keepsLoads_of_loosens hloosens (by decide) rfl rfl versionFiles "A",
    ⟨((versionForest datedPolicy).newClass 1 "/old" leastHeader leastClass).1,
      (loadsFrom_bare_iff rfl).mpr ⟨hname, _, _, hdated, rfl⟩⟩,
    ((versionForest {}).newClass 1 "/new" newerHeader newerClass).1,
    (loadsFrom_bare_iff rfl).mpr ⟨hname, _, _, hloose, rfl⟩⟩

end Forest

end DriverClasses.Loading
