import DriverClasses.Proofs.Files.Descent
import DriverClasses.Proofs.Loading.Buffers

/-!
# The limit on entries

What a location holds under the name of an entry declares a size and gives its bytes on demand
(`Holds`).  Whatever it declares, one request is made of it, for no more than one byte above the
limit, and the bytes are handed out whole or not at all (`keepsLimit_of_holds`).

The size that an entry declares is also that of the buffer it is read into, unless the limit is
lower.  Nothing else stands in the way of a size that no buffer can have: the look-up gives up just
in case the entry declares one and the limit allows it (`crashed_iff_overstated`).
-/

namespace DriverClasses.Loading

open DriverClasses.Text DriverClasses.Files

/-- What a location holds under the name of an entry: a file below a directory, or a member of an
archive. -/
inductive Holds (files : FileTree) (location : Location) (entry : String) : Content → Prop
  | file {bytes : Bytes} : files.stat location.path = .ok .directory →
      files.stat (entryPath location.path entry) = .ok (.file bytes) →
      Holds files location entry (.ofFile bytes)
  | member {archive : Bytes} {member : Archive.Member} :
      files.stat location.path = .ok (.file archive) →
      Archive.Member.find? archive entry = .ok (some member) →
      Holds files location entry (.ofMember member)

/-- The content is the bytes `c`, and reading them never fails. -/
def Content.Streams (content : Content) (c : Bytes) : Prop := ∀ n, content.read n = .ok (c.take n)

variable {files : FileTree} {location : Location} {entry reason : String} {limit : Nat}
  {content : Content} {c : Bytes}

theorem streams_ofFile (bytes : Bytes) : (Content.ofFile bytes).Streams bytes := fun _ => rfl

/-- The data of a stored member comes as it stands, whatever size the member declares. -/
theorem streams_ofMember {member : Archive.Member} (hstored : member.isDeflated = false)
    (hcrc : (Digest.crc32 member.data).toNat = member.crc) :
    (Content.ofMember member).Streams member.data := by
  intro n
  have hexpand : member.expand n = .ok (member.data.take n) := by
    simp [Archive.Member.expand, hstored]
  have hwhole : ¬((member.data.take n).length < n
      ∧ (Digest.crc32 (member.data.take n)).toNat ≠ member.crc) := by
    rintro ⟨hshort, hne⟩
    rw [List.length_take] at hshort
    rw [List.take_of_length_le (by omega)] at hne
    exact hne hcrc
  simp only [Content.ofMember, Archive.Member.read, hexpand, Bind.bind, Except.bind, if_neg hwhole,
    Pure.pure, Except.pure]

/-! ### Reading with a limit -/

theorem request_le (limit : Nat) : request limit ≤ limit + 1 := Nat.min_le_left _ _

theorem request_eq (h : limit < UInt64.size - 1) : request limit = limit + 1 :=
  Nat.min_eq_left h

theorem readCapped_eq (hbuffer : limit ≤ largestBuffer) (hstreams : content.Streams c) :
    content.readCapped entry limit
      = if limit < content.declared then .failed (.tooLarge entry content.declared limit)
        else if limit < c.length then .failed (.tooLarge entry (limit + 1) limit)
        else .found c := by
  have hfits : ¬ largestBuffer < bufferSize content.declared limit :=
    Nat.not_lt.mpr (Nat.le_trans (Nat.min_le_right _ _) hbuffer)
  have hrequest : request limit = limit + 1 :=
    request_eq (Nat.lt_of_le_of_lt hbuffer (by decide))
  unfold Content.readCapped
  rw [if_neg hfits, hrequest, hstreams]
  dsimp only
  by_cases hlong : limit < c.length
  · have hlength : (c.take (limit + 1)).length = limit + 1 := by
      rw [List.length_take]
      omega
    rw [hlength, if_pos (Nat.lt_succ_self limit), if_pos hlong]
  · rw [List.take_of_length_le (by omega), if_neg hlong, if_neg hlong]

/-- The answer of the stream to the one request is all that counts. -/
theorem readCapped_congr {other : Content} (hdeclared : other.declared = content.declared)
    (hread : other.read (request limit) = content.read (request limit)) :
    other.readCapped entry limit = content.readCapped entry limit := by
  unfold Content.readCapped
  rw [hdeclared, hread]

theorem Holds.find_eq (h : Holds files location entry content) (limit : Nat) :
    findInLocation location files entry limit = content.readCapped entry limit := by
  unfold findInLocation
  cases h with
  | file hdirectory hfile => simp only [hdirectory, findInDirectory, hfile]
  | member harchive hmember => simp only [harchive, findInArchive, hmember]

/-- A location that holds nothing to read gives one answer, whatever the limit is. -/
theorem holds_or_const (files : FileTree) (location : Location) (entry : String) :
    (∃ content, Holds files location entry content)
      ∨ ∃ answer, (answer = .absent ∨ ∃ fault, answer = .failed fault)
          ∧ ∀ limit, findInLocation location files entry limit = answer := by
  unfold findInLocation
  cases hroot : files.stat location.path with
  | error error =>
    cases error with
    | notFound => exact .inr ⟨_, .inl rfl, fun _ => rfl⟩
    | _ => exact .inr ⟨_, .inr ⟨_, rfl⟩, fun _ => rfl⟩
  | ok node =>
    cases node with
    | directory =>
      unfold findInDirectory
      cases hentry : files.stat (entryPath location.path entry) with
      | error error =>
        cases error with
        | notFound => exact .inr ⟨_, .inl rfl, fun _ => rfl⟩
        | _ => exact .inr ⟨_, .inr ⟨_, rfl⟩, fun _ => rfl⟩
      | ok node =>
        cases node with
        | directory => exact .inr ⟨_, .inl rfl, fun _ => rfl⟩
        | file bytes => exact .inl ⟨_, .file hroot hentry⟩
    | file archive =>
      unfold findInArchive
      cases hmember : Archive.Member.find? archive entry with
      | error fault =>
        exact .inr ⟨.failed (.archive fault), .inr ⟨_, rfl⟩, fun _ => by simp only [hmember]⟩
      | ok member? =>
        cases member? with
        | none => exact .inr ⟨.absent, .inl rfl, fun _ => by simp only [hmember]⟩
        | some member => exact .inl ⟨_, .member hroot hmember⟩

/-- How a look-up keeps the limit on what it is to read. -/
structure KeepsLimit (files : FileTree) (location : Location) (entry : String) (limit : Nat)
    (content : Content) (c : Bytes) : Prop where
  request_le : request limit ≤ limit + 1
  /-- What the stream would answer to a request for more makes no difference: anything that declares
  the same size and gives the same first bytes leads to the same answer, wherever it is held. -/
  asks_only : ∀ {files' : FileTree} {location' : Location} {content' : Content},
    Holds files' location' entry content' → content'.declared = content.declared →
    content'.read (request limit) = content.read (request limit) →
    findInLocation location' files' entry limit = findInLocation location files entry limit
  found : ∀ bytes, findInLocation location files entry limit = .found bytes →
    bytes = c ∧ c.length ≤ limit
  tooLarge : limit < c.length → ∃ size, limit < size
    ∧ size = (if limit < content.declared then content.declared else limit + 1)
    ∧ findInLocation location files entry limit = .failed (.tooLarge entry size limit)
  whole : content.declared ≤ limit → c.length ≤ limit →
    findInLocation location files entry limit = .found c

/-- The limit is kept on whatever a location holds, however the size that it declares and the one
that it has differ. -/
theorem keepsLimit_of_holds (h : Holds files location entry content) (hstreams : content.Streams c)
    (hlimit : limit ≤ largestBuffer) : KeepsLimit files location entry limit content c := by
  have hfind : findInLocation location files entry limit
      = if limit < content.declared then .failed (.tooLarge entry content.declared limit)
        else if limit < c.length then .failed (.tooLarge entry (limit + 1) limit)
        else .found c := by
    rw [h.find_eq, readCapped_eq hlimit hstreams]
  refine ⟨request_le limit, fun hother hdeclared hread => ?_, fun bytes hfound => ?_,
    fun hlong => ?_, fun hdeclared hlength => ?_⟩
  · rw [hother.find_eq, h.find_eq, readCapped_congr hdeclared hread]
  · rw [hfind] at hfound
    split at hfound
    · cases hfound
    · split at hfound
      · cases hfound
      · rename_i hfits
        exact ⟨(Lookup.found.inj hfound).symm, Nat.le_of_not_lt hfits⟩
  · by_cases hdeclared : limit < content.declared
    · exact ⟨content.declared, hdeclared, (if_pos hdeclared).symm, by rw [hfind, if_pos hdeclared]⟩
    · exact ⟨limit + 1, Nat.lt_succ_self limit, (if_neg hdeclared).symm,
        by rw [hfind, if_neg hdeclared, if_pos hlong]⟩
  · rw [hfind, if_neg (Nat.not_lt.mpr hdeclared), if_neg (Nat.not_lt.mpr hlength)]

/-- An archive with one stored member, which has five bytes and may declare any size. -/
def loneArchive (declared extra : Bytes) : Bytes :=
  [0x50, 0x4B, 3, 4, 0x14, 0, 0, 0, 0, 0, 0, 0, 0x21, 0, 0xF4, 0x99, 0x0B, 0x47, 5, 0, 0, 0]
  ++ declared ++ [7, 0, 0, 0] ++ utf8 "A.class" ++ [1, 2, 3, 4, 5]
  ++ [0x50, 0x4B, 1, 2, 0x14, 3, 0x14, 0, 0, 0, 0, 0, 0, 0, 0x21, 0, 0xF4, 0x99, 0x0B, 0x47, 5, 0,
    0, 0] ++ declared ++ [7, 0, UInt8.ofNat extra.length] ++ List.replicate 15 0 ++ utf8 "A.class"
  ++ extra
  ++ [0x50, 0x4B, 5, 6, 0, 0, 0, 0, 1, 0, 1, 0, UInt8.ofNat (53 + extra.length), 0, 0, 0, 42, 0, 0,
    0, 0, 0]

def jarLocation : Location := { text := "/a.jar", path := utf8 "/a.jar" }

def jarFiles (archive : Bytes) : FileTree := { items := [([utf8 "a.jar"], .file archive)] }

/-- The member says that it has two bytes. -/
def understatedJar : Bytes := loneArchive [2, 0, 0, 0] []

def understatedMember : Archive.Member :=
  { declared := 2, crc := 0x470B99F4, isDeflated := false, data := [1, 2, 3, 4, 5] }

theorem stat_jarFiles (archive : Bytes) :
    (jarFiles archive).stat jarLocation.path = .ok (.file archive) := by
  have hplace : (jarFiles archive).locate jarLocation.path = .ok [utf8 "a.jar"] := rfl
  exact FileTree.stat_eq_ok_iff.mpr ⟨_, hplace, rfl⟩

def deskLocation : Location := { text := "/desk", path := utf8 "/desk" }

/-- A directory with a file of three bytes. -/
def deskFiles : FileTree :=
  { items := [([utf8 "desk"], .directory), ([utf8 "desk", utf8 "A.class"], .file [1, 2, 3])] }

/-- One byte below its size the member is too large, and at its size it is read whole; and so is a
file. -/
theorem keepsLimit_understated :
    Holds (jarFiles understatedJar) jarLocation "A.class" (.ofMember understatedMember)
      ∧ (Content.ofMember understatedMember).Streams [1, 2, 3, 4, 5]
      ∧ findInLocation jarLocation (jarFiles understatedJar) "A.class" 4
          = .failed (.tooLarge "A.class" 5 4)
      ∧ findInLocation jarLocation (jarFiles understatedJar) "A.class" 5
          = .found [1, 2, 3, 4, 5]
      ∧ findInLocation deskLocation deskFiles "A.class" 3 = .found [1, 2, 3] := by
  have hholds : Holds (jarFiles understatedJar) jarLocation "A.class"
      (.ofMember understatedMember) := .member (stat_jarFiles _) (by decide +kernel)
  have hstreams : (Content.ofMember understatedMember).Streams [1, 2, 3, 4, 5] :=
    streams_ofMember rfl (by decide +kernel)
  have hfile : Holds deskFiles deskLocation "A.class" (.ofFile [1, 2, 3]) := .file rfl rfl
  obtain ⟨size, -, hsize, hlong⟩ :=
    (keepsLimit_of_holds hholds hstreams (show 4 ≤ largestBuffer by decide)).tooLarge (by decide)
  have hsize : size = 5 := hsize
  refine ⟨hholds, hstreams, hsize ▸ hlong, ?_, ?_⟩
  · exact (keepsLimit_of_holds hholds hstreams (by decide)).whole (by decide) (by decide)
  · exact (keepsLimit_of_holds hfile (streams_ofFile _) (by decide)).whole (by decide) (by decide)

/-! ### Sizes that no buffer can have -/

theorem exists_holds_of_crashed
    (h : findInLocation location files entry limit = .crashed reason) :
    ∃ content, Holds files location entry content
      ∧ content.readCapped entry limit = .crashed reason := by
  rcases holds_or_const files location entry with ⟨content, hholds⟩ | ⟨answer, hanswer, hconst⟩
  · exact ⟨content, hholds, hholds.find_eq limit ▸ h⟩
  · rw [hconst] at h
    rcases hanswer with rfl | ⟨fault, rfl⟩ <;> cases h

theorem bufferSize_le_iff {declared : Nat} :
    bufferSize declared limit ≤ largestBuffer
      ↔ declared ≤ largestBuffer ∨ limit ≤ largestBuffer := by
  unfold bufferSize
  omega

/-- A look-up gives up just in case the entry declares a size that no buffer can have and the limit
allows it, so it never does so under a limit that a buffer can have.  The buffer alone can be asked
to be too large: what is asked of the stream is a number of 64 bits whenever the limit is one, and
one more than the limit unless that is the largest such number. -/
theorem crashed_iff_overstated (files : FileTree) (location : Location) (entry : String)
    (limit : Nat) :
    (∀ reason, findInLocation location files entry limit = .crashed reason
        ↔ reason = "capacity overflow" ∧ ∃ content, Holds files location entry content
            ∧ largestBuffer < content.declared ∧ content.declared ≤ limit)
      ∧ (limit ≤ largestBuffer → ∀ reason,
          findInLocation location files entry limit ≠ .crashed reason)
      ∧ (∀ declared, bufferSize declared limit ≤ largestBuffer
          ↔ declared ≤ largestBuffer ∨ limit ≤ largestBuffer)
      ∧ request limit < UInt64.size
      ∧ (limit < UInt64.size - 1 → request limit = limit + 1) := by
  refine ⟨fun reason => ?_, fun hlimit reason hcrashed => ?_, fun declared => bufferSize_le_iff,
    Nat.lt_of_le_of_lt (Nat.min_le_right _ _) (by decide), request_eq⟩
  · constructor
    · intro h
      obtain ⟨content, hholds, hcrashed⟩ := exists_holds_of_crashed h
      obtain ⟨hreason, hsizes⟩ := readCapped_eq_crashed_iff.mp hcrashed
      exact ⟨hreason, content, hholds, hsizes⟩
    · rintro ⟨hreason, content, hholds, hsizes⟩
      rw [hholds.find_eq, readCapped_eq_crashed_iff]
      exact ⟨hreason, hsizes⟩
  · exact Nat.not_lt.mpr hlimit (lt_limit_of_findInLocation hcrashed)

/-- The member says that it has 2 ^ 63 bytes. -/
def overstatedJar : Bytes :=
  loneArchive [0xFF, 0xFF, 0xFF, 0xFF] [1, 0, 8, 0, 0, 0, 0, 0, 0, 0, 0, 0x80]

/-- A size that is declared can be more than a buffer is ever made for, and an archive can declare
such a size. -/
theorem not_declared_sizes_fit :
    (¬ ∀ declared limit, declared < UInt64.size → limit < UInt64.size →
        bufferSize declared limit ≤ largestBuffer)
      ∧ ¬ ∀ (archive : Bytes) (entry : String) (limit : Nat), limit < UInt64.size →
          ∀ reason, findInArchive archive entry limit ≠ .crashed reason := by
  refine ⟨fun h => ?_, fun h => ?_⟩
  · exact absurd (h (2 ^ 63) (2 ^ 63) (by decide) (by decide)) (by decide)
  · have hcrashed : findInArchive overstatedJar "A.class" (2 ^ 63)
        = .crashed "capacity overflow" := by decide +kernel
    exact h overstatedJar "A.class" (2 ^ 63) (by decide) _ hcrashed

end DriverClasses.Loading
