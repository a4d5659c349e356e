import DriverClasses.Proofs.ClassFile.FileNames
import DriverClasses.Proofs.ClassFile.InternalName
import DriverClasses.Proofs.ClassFile.Spelling
import DriverClasses.Proofs.Loading.Identity

/-!
# Names that are spelled

Bytes that are no text are decoded all the same, with U+FFFD for what is wrong with them.  That
character continues no identifier and is no slash, so a name that has it is not the binary name of
anything.  A class that links under a binary name therefore has the name spelled in its bytes, to
the last of them (`spelledBy_of_link`), and a load returns no other class
(`spelledBy_of_link_and_load`).
-/

namespace DriverClasses.ClassFile

open DriverClasses.Text

/-- The name of the class in a file is written in the bytes `raw`: they are a text, all of them, and
nothing of it was replaced. -/
structure SpelledBy (bytes raw : List UInt8) (name : String) : Prop where
  namedBy : NamedBy bytes raw
  only : ∀ other, NamedBy bytes other → other = raw
  spells : ModifiedUtf8.Spells raw (ModifiedUtf8.decode raw).toList
  not_mem : '\uFFFD' ∉ (ModifiedUtf8.decode raw).toList
  name_eq : name.toList = dotted (ModifiedUtf8.decode raw).toList

theorem continuesIdentifier_replacement : continuesIdentifier '\uFFFD' = false := by
  simp [continuesIdentifier, isLetter_replacement, isNumeral_replacement]

theorem replacement_not_mem_of_isBinaryName {name : String} (h : isBinaryName name = true) :
    '\uFFFD' ∉ name.toList := by
  intro hmem
  rcases eq_dot_or_continuesIdentifier h hmem with hdot | hc
  · exact absurd hdot (by decide)
  · rw [continuesIdentifier_replacement] at hc
    cases hc

theorem mem_dotted {c : Char} {s : List Char} (hc : c ≠ '/') (h : c ∈ s) : c ∈ dotted s :=
  List.mem_map.mpr ⟨c, h, if_neg hc⟩

theorem exists_spelledBy {bytes : List UInt8} {header : Header}
    (hread : Header.read? bytes = .ok header) (hname : isBinaryName header.name = true) :
    ∃ raw, SpelledBy bytes raw header.name := by
  obtain ⟨raw, hraw, hdotted⟩ := exists_namedBy_of_read? hread
  have hnot : '\uFFFD' ∉ (ModifiedUtf8.decode raw).toList := by
    intro hmem
    have hdot := mem_dotted (by decide) hmem
    rw [← hdotted] at hdot
    exact replacement_not_mem_of_isBinaryName hname hdot
  exact ⟨raw, hraw, fun other hother => hother.unique hraw, ModifiedUtf8.spells_of_not_mem hnot,
    hnot, hdotted⟩

theorem spelledBy_of_link {policy : LinkPolicy} {name : String} {bytes : List UInt8}
    {header : Header} (hname : isBinaryName name = true)
    (h : link policy name bytes = .ok header) : ∃ raw, SpelledBy bytes raw name := by
  obtain ⟨hread, -, rfl, -⟩ := link_eq_ok_iff.mp h
  exact exists_spelledBy hread hname

end DriverClasses.ClassFile

namespace DriverClasses.Loading

open DriverClasses.ClassFile DriverClasses.Text DriverClasses.Files

namespace Forest

/-- The class `h` is what is read of these bytes, which a source of its context has for it. -/
structure ReadFrom (f : Forest) (h : LoadedClass) (bytes : Bytes) : Prop where
  provided : ∃ c source files, f.context? h.contextId = some c ∧ source ∈ c.sources
    ∧ source.origin = h.origin
    ∧ source.find files (entryName h.name) c.policy.maxEntryBytes = .found bytes
  read : Header.read? bytes = .ok h.header
  digest_eq : Digest.sha256Hex bytes = h.digest

/-- A class that a load returns was linked by some load of the run, though it need not be this
one. -/
theorem Sound.genuine_of_load {ops : List Operation} {f g : Forest} (hf : f.Sound ops)
    {files : FileTree} {id : Nat} {name : String} {h : LoadedClass}
    (hload : f.load files id name = (.loaded h, g)) :
    ∃ c, g.context? h.contextId = some c
      ∧ Genuine (ops ++ [.load files id name]) c h.name h := by
  have hg : g.Sound (ops ++ [.load files id name]) := by
    have hperformed := hf.performed (.load files id name)
    rwa [perform, hload] at hperformed
  have hcached := hg.cached?_of_resident? (resident?_of_load hload)
  obtain ⟨c, hc, -⟩ := Option.bind_eq_some_iff.mp hcached
  exact ⟨c, hc, hg.genuine hc _ ((mem_cacheOf hc).mp (hg.cached?_eq_some_iff.mp hcached))⟩

theorem readFrom_of_genuine {ops : List Operation} {g : Forest} {c : Context} {h : LoadedClass}
    (hc : g.context? h.contextId = some c) (hgenuine : Genuine ops c h.name h) :
    ∃ bytes, g.ReadFrom h bytes := by
  obtain ⟨_, files, _, _, source, bytes, -, -, hsource, horigin, hfind, hread, hdigest⟩ :=
    hgenuine.provided
  exact ⟨bytes, ⟨c, source, files, hc, List.mem_of_getElem? hsource, horigin, hfind⟩, hread,
    hdigest⟩

/-- What links under a binary name has the name spelled in its bytes, and so has whatever a load
returns, in any forest that a run leads to. -/
theorem spelledBy_of_link_and_load :
    (∀ (policy : LinkPolicy) (name : String) (bytes : List UInt8) (header : Header),
        isBinaryName name = true → link policy name bytes = .ok header →
        ∃ raw, SpelledBy bytes raw name)
      ∧ ∀ (ops : List Operation) (files : FileTree) (id : Nat) (name : String) (h : LoadedClass)
        (g : Forest), (({} : Forest).after ops).load files id name = (.loaded h, g) →
          (∃ bytes, g.ReadFrom h bytes)
            ∧ ∀ bytes, g.ReadFrom h bytes → ∃ raw, SpelledBy bytes raw h.name := by
  refine ⟨fun policy name bytes header => spelledBy_of_link, fun ops files id name h g hload => ?_⟩
  obtain ⟨c, hc, hgenuine⟩ := (sound_after ops).genuine_of_load hload
  exact ⟨readFrom_of_genuine hc hgenuine, fun bytes hbytes =>
    exists_spelledBy hbytes.read hgenuine.binary⟩

/-! ### A name beyond the basic plane -/

/-- A class file of the name `𝔘`, which is written as two surrogates. -/
def gothicClass : Bytes :=
  [0xCA, 0xFE, 0xBA, 0xBE, 0, 0, 0, 52, 0, 3, 1, 0, 6, 0xED, 0xA0, 0xB5, 0xED, 0xB4, 0x98, 7, 0, 1,
    0, 1, 0, 2, 0, 0, 0, 0]

def gothicHeader : Header :=
  { name := "𝔘", superName := none, interfaces := [], major := 52, minor := 0, access := 1 }

theorem link_gothicClass : link {} "𝔘" gothicClass = .ok gothicHeader := by decide +kernel

def gothicSource : ClassSource := { origin := "shelf", find := fun _ _ _ => .found gothicClass }

def gothicRun : List Operation := [.create none {} [], .addSource 1 gothicSource]

def gothicContext : Context :=
  { id := 1, ancestors := [], policy := {}, sources := [gothicSource], cache := [] }

def gothicHandle : LoadedClass :=
  { serial := 0, header := gothicHeader, origin := "shelf"
    digest := Digest.sha256Hex gothicClass, contextId := 1 }

theorem load_gothic :
    (({} : Forest).after gothicRun).load {} 1 "𝔘"
      = (.loaded gothicHandle,
        (({} : Forest).after gothicRun).gain gothicContext "𝔘" 1 gothicHandle) := by
  have hs : verdict {} gothicContext.policy "𝔘" gothicSource = .linked gothicHeader gothicClass :=
    verdict_eq_linked_iff.mpr ⟨rfl, link_gothicClass⟩
  have hsplit : gothicContext.sources = [] ++ gothicSource :: [] := rfl
  have hcontext : (({} : Forest).after gothicRun).context? 1 = some gothicContext := rfl
  rw [load_of_not_resident rfl, if_pos (by decide +kernel), hcontext]
  exact scanContext_of_linked hsplit (by simp) hs

/-- The bytes of the file, and those of the class that is loaded, spell the name. -/
theorem spelledBy_gothic :
    (∃ raw, SpelledBy gothicClass raw "𝔘")
      ∧ ∃ bytes raw, SpelledBy bytes raw gothicHandle.name := by
  have hlink := spelledBy_of_link_and_load.1 {} "𝔘" gothicClass gothicHeader (by decide +kernel)
    link_gothicClass
  obtain ⟨⟨bytes, hbytes⟩, hall⟩ := spelledBy_of_link_and_load.2 gothicRun {} 1 "𝔘" gothicHandle _
    load_gothic
  obtain ⟨raw, hraw⟩ := hall bytes hbytes
  exact ⟨hlink, bytes, raw, hraw⟩

end Forest

end DriverClasses.Loading
