import DriverClasses.Archive.Extra

/-!
# Finding the central directory

An archive is read from its end.  Each end record is a candidate, the last one first.  A candidate
says where the central directory starts; if other data was put in front of the archive, the first
directory header behind that place is taken instead, and the distance shifts all other offsets too.
When a candidate contradicts itself, or its directory cannot be read, the next one is tried.
-/

namespace DriverClasses.Archive

open DriverClasses.Text

abbrev Image := Array UInt8

/-- The `count` bytes from `offset` on. -/
def slice (image : Image) (offset count : Nat) : Except Fault Bytes :=
  if offset + count ≤ image.size then .ok (image.extract offset (offset + count)).toList
  else .error .short

def number (image : Image) (offset width : Nat) : Except Fault Nat :=
  (slice image offset width).map littleEndian

def endMark : Nat := 0x06054B50
def end64Mark : Nat := 0x06064B50
def locatorMark : Nat := 0x07064B50
def directoryMark : Nat := 0x02014B50
def localMark : Nat := 0x04034B50

/-- Whether the four bytes at `offset` are `mark`. -/
def marks (image : Image) (mark offset : Nat) : Bool :=
  offset + 4 ≤ image.size
    && (image.getD offset 0).toNat == mark % 256
    && (image.getD (offset + 1) 0).toNat == mark / 256 % 256
    && (image.getD (offset + 2) 0).toNat == mark / 65536 % 256
    && (image.getD (offset + 3) 0).toNat == mark / 16777216

/-- The places from `start` on, within `count` bytes, where `mark` stands; ascending. -/
def places (image : Image) (mark start : Nat) : (count : Nat) → List Nat
  | 0 => []
  | count + 1 =>
    let rest := places image mark (start + 1) count
    if 3 ≤ count && marks image mark start then start :: rest else rest

structure EndRecord where
  position : Nat
  disk : Nat
  directoryDisk : Nat
  entriesHere : Nat
  entries : Nat
  directoryOffset : Nat
  deriving DecidableEq, Repr

def readEnd (image : Image) (position : Nat) : Except Fault EndRecord := do
  let _ ← slice image position 22
  let disk ← number image (position + 4) 2
  let directoryDisk ← number image (position + 6) 2
  let entriesHere ← number image (position + 8) 2
  let entries ← number image (position + 10) 2
  let directoryOffset ← number image (position + 16) 4
  let commentSize ← number image (position + 20) 2
  if image.size < position + 22 + commentSize then .error .commentPastEnd
  else return { position, disk, directoryDisk, entriesHere, entries, directoryOffset }

/-- Where a directory is and how much it holds. -/
structure Extent where
  /-- The size of the data in front of the archive. -/
  shift : Nat
  start : Nat
  count : Nat
  deriving DecidableEq, Repr

def readExtent (image : Image) (record : EndRecord) : Except Fault (Except Fault Extent) :=
  let extent (shift : Nat) : Except Fault Extent :=
    if record.disk ≠ record.directoryDisk then .error .multiDisk
    else .ok { shift, start := record.directoryOffset + shift, count := record.entriesHere }
  if record.entries = 0 then .ok (extent (record.position - record.directoryOffset))
  else if record.position ≤ record.directoryOffset then .error .directoryOffset
  else
    match places image directoryMark record.directoryOffset
        (record.position - record.directoryOffset) with
    | [] => .error .noDirectory
    | place :: _ => .ok (extent (place - record.directoryOffset))

structure Locator where
  position : Nat
  directoryDisk : Nat
  endOffset : Nat
  disks : Nat
  deriving DecidableEq, Repr

/-- The locator of a long end record, which stands right in front of the short one. -/
def locator? (image : Image) (record : EndRecord) : Option Locator :=
  if record.entries ≠ 0xFFFF ∧ record.directoryOffset ≠ escape32 then none
  else if record.position < 20 then none
  else
    let position := record.position - 20
    if marks image locatorMark position then
      (do
        let directoryDisk ← number image (position + 4) 4
        let endOffset ← number image (position + 8) 8
        let disks ← number image (position + 16) 4
        return { position, directoryDisk, endOffset, disks } : Except Fault Locator).toOption
    else none

/-- The extent that the long end record at `position` gives.  The inner fault is found only once the
record itself was accepted. -/
def readEnd64 (image : Image) (locator : Locator) (position : Nat) :
    Except Fault (Except Fault Extent) := do
  let _ ← slice image position 56
  let recordSize ← number image (position + 4) 8
  let madeBy ← number image (position + 12) 2
  let needed ← number image (position + 14) 2
  let disk ← number image (position + 16) 4
  let directoryDisk ← number image (position + 20) 4
  let entriesHere ← number image (position + 24) 8
  let entries ← number image (position + 32) 8
  let directoryOffset ← number image (position + 48) 8
  let room := locator.position - position
  if recordSize < 44 then .error .end64Size
  else if room < recordSize + 12 then .error .end64PastLocator
  else if directoryDisk ≠ locator.directoryDisk then .error .end64Disk
  else if recordSize + 12 ≠ room then .error .end64Length
  else if position < entries * 46 + directoryOffset then .error .end64Count
  else
    let shift := position - locator.endOffset
    return (
      if entries < entriesHere ∨ madeBy < needed then .error .directory
      else if disk ≠ directoryDisk then .error .multiDisk
      else .ok { shift, start := directoryOffset + shift, count := entries })

/-- The first of the places that holds a long end record, or what is wrong with the last one. -/
def firstEnd64 (image : Image) (locator : Locator) :
    (fault : Fault) → List Nat → Except Fault (Except Fault Extent)
  | fault, [] => .error fault
  | _, place :: rest =>
    match readEnd64 image locator place with
    | .ok extent => .ok extent
    | .error fault => firstEnd64 image locator fault rest

def readExtent64 (image : Image) (locator : Locator) : Except Fault (Except Fault Extent) :=
  if locator.position ≤ locator.endOffset then .error .locatorOffset
  else if 1 < locator.disks then .error .multiDisk
  else
    firstEnd64 image locator .noEnd64
      (places image end64Mark locator.endOffset (locator.position - locator.endOffset))

/-- The entry whose header stands at `position`, and where the next header stands. -/
def readEntry (image : Image) (extent : Extent) (position : Nat) :
    Except Fault (DirectoryEntry × Nat) := do
  let _ ← slice image position 46
  if !marks image directoryMark position then .error .directory
  else
    let flags ← number image (position + 8) 2
    let method ← number image (position + 10) 2
    let crc ← number image (position + 16) 4
    let compressedSize ← number image (position + 20) 4
    let size ← number image (position + 24) 4
    let nameSize ← number image (position + 28) 2
    let extraSize ← number image (position + 30) 2
    let commentSize ← number image (position + 32) 2
    let headerStart ← number image (position + 42) 4
    let rawName ← slice image (position + 46) nameSize
    let extra ← slice image (position + 46 + nameSize) extraSize
    let comment ← slice image (position + 46 + nameSize + extraSize) commentSize
    let text (bytes : Bytes) : String :=
      if flags / 2048 % 2 = 1 then ofUtf8Lossy bytes else textOfCodePage bytes
    let entry ← applyExtra (extraSize + 1)
      { name := text rawName, rawName, comment := text comment, isEncrypted := flags % 2 == 1
        method := .ofCode method, needsKeyField := method == 99, hasKeyField := false
        crc, compressedSize, size, headerStart } extra
    let headerStart := entry.headerStart + extent.shift
    if entry.needsKeyField ∧ !entry.hasKeyField then .error .directory
    else if extent.start ≤ headerStart ∨ UInt64.size ≤ headerStart then .error .directory
    else return ({ entry with headerStart }, position + 46 + nameSize + extraSize + commentSize)

def readEntries (image : Image) (extent : Extent) :
    (count position : Nat) → Except Fault (List DirectoryEntry)
  | 0, _ => .ok []
  | count + 1, position => do
    let (entry, next) ← readEntry image extent position
    return entry :: (← readEntries image extent count next)

def candidate (image : Image) (record : EndRecord) : Except Fault (Except Fault Extent) :=
  match locator? image record with
  | some locator => readExtent64 image locator
  | none => readExtent image record

/-- Tries the end records at the given places, in order.  `fault` is what is known to be wrong. -/
def search (image : Image) : (fault : Option Fault) → List Nat → Except Fault (List DirectoryEntry)
  | fault, [] => .error (fault.getD .noEnd)
  | fault, place :: rest =>
    match readEnd image place with
    | .error new => search image (some (fault.getD new)) rest
    | .ok record =>
      match candidate image record with
      | .error new => search image (some new) rest
      | .ok extent =>
        match (do readEntries image (← extent) (← extent).count (← extent).start) with
        | .ok entries => .ok entries
        | .error _ => search image none rest

def readDirectory (image : Image) : Except Fault (List DirectoryEntry) :=
  search image none (places image endMark 0 image.size).reverse

end DriverClasses.Archive
