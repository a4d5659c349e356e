import DriverClasses.Archive.Directory

/-!
# Archives

`Member.find?` looks an entry up by its name.  A member knows the size that the directory declares
for it, and `Member.read` gives its first bytes; a fault that lies well behind them is not met.
-/

namespace DriverClasses.Archive

open DriverClasses.Text

structure Member where
  declared : Nat
  crc : Nat
  isDeflated : Bool
  /-- The data as it stands in the archive. -/
  data : Bytes
  deriving DecidableEq, Repr

/-- Names that end in a slash of either kind are those of directories. -/
def isDirectoryName (name : String) : Bool :=
  match name.toList.getLast? with
  | some c => c == '/' || c == '\\'
  | none => false

/-- Where the data of an entry starts, as its local header tells. -/
def dataStart (image : Image) (entry : DirectoryEntry) : Except Fault Nat := do
  let place := entry.headerStart
  let _ ← slice image place 30
  if !marks image localMark place then .error .localHeader
  else
    let nameSize ← number image (place + 26) 2
    let extraSize ← number image (place + 28) 2
    return place + 30 + nameSize + extraSize

def openEntry (image : Image) (entry : DirectoryEntry) : Except Fault Member := do
  if entry.isEncrypted then .error .encrypted
  else
    let start ← dataStart image entry
    if entry.method = .unsupported then .error .method
    else if entry.hasKeyField then .error .password
    else
      let data := (image.extract start (start + entry.compressedSize)).toList
      return { declared := entry.size, crc := entry.crc
               isDeflated := entry.method == .deflated, data }

/-- The member of this name, if the archive has it; of several, the last one. -/
def Member.find? (archive : Bytes) (name : String) : Except Fault (Option Member) := do
  let image := archive.toArray
  let entries ← readDirectory image
  match entries.reverse.find? (·.name == name) with
  | none => return none
  | some entry =>
    let member ← openEntry image entry
    return if isDirectoryName name then none else some member

/-- The bytes that a member expands to, up to `limit` of them. -/
def Member.expand (member : Member) (limit : Nat) : Except DataFault Bytes :=
  if member.isDeflated then
    match inflate member.data limit with
    | .ok bytes => .ok bytes
    | .error fault => .error (.deflate fault)
  else .ok (member.data.take limit)

/-- The first `limit` bytes of a member.  The checksum is that of the whole member, so it is
compared only when there are fewer. -/
def Member.read (member : Member) (limit : Nat) : Except DataFault Bytes := do
  let bytes ← member.expand limit
  if bytes.length < limit ∧ (Digest.crc32 bytes).toNat ≠ member.crc then .error .checksum
  else return bytes

end DriverClasses.Archive
