import DriverClasses.Archive.Fault
import DriverClasses.Text.Encoding

/-!
# Entries of the central directory

A `DirectoryEntry` is what the central directory says about one entry.  Its extra fields may replace
the sizes and the offset by longer numbers (`0001`), and the name by one in UTF-8 (`7075`) if a
checksum ties it to the plain name.  Fields that are cut short end the reading of fields; fields
that contradict themselves spoil the directory.

The checksum is CRC-32: the reflected polynomial `EDB88320`, started from and finished with all
ones.  Names that do not declare UTF-8 are in code page 437: ASCII, and 128 characters above it.
-/

namespace DriverClasses.Digest

/-- The remainder of one byte. -/
def crcOfByte (n : UInt32) : UInt32 :=
  (List.range 8).foldl (fun c _ => if c &&& 1 == 1 then (c >>> 1) ^^^ 0xEDB88320 else c >>> 1) n

def crcTable : Array UInt32 := ((List.range 256).map fun n => crcOfByte (UInt32.ofNat n)).toArray

def crcStep (c : UInt32) (b : UInt8) : UInt32 :=
  crcTable.getD ((c ^^^ b.toUInt32) &&& 0xFF).toNat 0 ^^^ (c >>> 8)

def crc32 (bytes : List UInt8) : UInt32 := bytes.foldl crcStep 0xFFFFFFFF ^^^ 0xFFFFFFFF

end DriverClasses.Digest

namespace DriverClasses.Archive

open DriverClasses.Text

def upperHalf : Array Char :=
  #['Ç', 'ü', 'é', 'â', 'ä', 'à', 'å', 'ç', 'ê', 'ë', 'è', 'ï', 'î', 'ì', 'Ä', 'Å', 'É', 'æ',
    'Æ', 'ô', 'ö', 'ò', 'û', 'ù', 'ÿ', 'Ö', 'Ü', '¢', '£', '¥', '₧', 'ƒ', 'á', 'í', 'ó', 'ú',
    'ñ', 'Ñ', 'ª', 'º', '¿', '⌐', '¬', '½', '¼', '¡', '«', '»', '░', '▒', '▓', '│', '┤', '╡',
    '╢', '╖', '╕', '╣', '║', '╗', '╝', '╜', '╛', '┐', '└', '┴', '┬', '├', '─', '┼', '╞', '╟',
    '╚', '╔', '╩', '╦', '╠', '═', '╬', '╧', '╨', '╤', '╥', '╙', '╘', '╒', '╓', '╫', '╪', '┘',
    '┌', '█', '▄', '▌', '▐', '▀', 'α', 'ß', 'Γ', 'π', 'Σ', 'σ', 'µ', 'τ', 'Φ', 'Θ', 'Ω', 'δ',
    '∞', 'φ', 'ε', '∩', '≡', '±', '≥', '≤', '⌠', '⌡', '÷', '≈', '°', '∙', '·', '√', 'ⁿ', '²',
    '■', '\u00A0']

def charOfCodePage (b : UInt8) : Char :=
  if b.toNat < 128 then Char.ofNat b.toNat else upperHalf.getD (b.toNat - 128) '\uFFFD'

def textOfCodePage (bytes : List UInt8) : String := String.ofList (bytes.map charOfCodePage)

inductive Method where
  | stored
  | deflated
  | unsupported
  deriving DecidableEq, Repr

def Method.ofCode : Nat → Method
  | 0 => stored
  | 8 => deflated
  | _ => unsupported

structure DirectoryEntry where
  name : String
  rawName : Bytes
  comment : String
  isEncrypted : Bool
  method : Method
  /-- Whether the method asks for a field that says how the entry is encrypted. -/
  needsKeyField : Bool
  hasKeyField : Bool
  crc : Nat
  compressedSize : Nat
  size : Nat
  /-- Where the local header stands. -/
  headerStart : Nat
  deriving DecidableEq, Repr

/-- The value of bytes written least significant first. -/
def littleEndian (bytes : Bytes) : Nat := bytes.foldr (fun b n => b.toNat + 256 * n) 0

def escape32 : Nat := 0xFFFFFFFF

/-- A number of `width` bytes and the bytes behind it. -/
def field (width : Nat) (bytes : Bytes) : Except Fault (Nat × Bytes) :=
  if bytes.length < width then .error .short
  else .ok (littleEndian (bytes.take width), bytes.drop width)

/-- The bytes behind the next `count` ones. -/
def passOver (count : Nat) (bytes : Bytes) : Except Fault Bytes :=
  if bytes.length < count then .error .short else .ok (bytes.drop count)

/-- What a field leaves: the entry as changed so far, and the bytes behind the field or a fault. -/
abbrev FieldResult := DirectoryEntry × Except Fault Bytes

/-- Replaces one number of the entry, if it says so or all are replaced. -/
def widen (all : Bool) (current : Nat) (bytes : Bytes) : Except Fault (Nat × Bytes × Nat) :=
  if all || current == escape32 then
    (field 8 bytes).map fun (n, rest) => (n, rest, 8)
  else .ok (current, bytes, 0)

def longNumbers (size : Nat) (entry : DirectoryEntry) (bytes : Bytes) : FieldResult :=
  let all := decide (24 ≤ size)
  match widen all entry.size bytes with
  | .error fault => (entry, .error fault)
  | .ok (n, bytes, used₁) =>
    let entry := { entry with size := n }
    match widen all entry.compressedSize bytes with
    | .error fault => (entry, .error fault)
    | .ok (n, bytes, used₂) =>
      let entry := { entry with compressedSize := n }
      match widen all entry.headerStart bytes with
      | .error fault => (entry, .error fault)
      | .ok (n, bytes, used₃) =>
        let entry := { entry with headerStart := n }
        let used := used₁ + used₂ + used₃
        (entry, if size < used then .error .directory else passOver (size - used) bytes)

/-- The text of a field that repeats `plain` in UTF-8, and the bytes behind the field. -/
def unicodeText (size : Nat) (plain : Bytes) (bytes : Bytes) : Except Fault (String × Bytes) := do
  let (_, bytes) ← field 1 bytes
  let (crc, bytes) ← field 4 bytes
  if size < 5 then .error .directory
  else
    let rest ← passOver (size - 5) bytes
    if (Digest.crc32 plain).toNat ≠ crc then .error .directory
    else
      match ofUtf8? (bytes.take (size - 5)) with
      | some s => .ok (s, rest)
      | none => .error .directory

/-- Times of a file: a byte that tells which of three times follow, and four bytes each.  A field of
five bytes holds the first one whatever it tells. -/
def timestamps (size : Nat) (bytes : Bytes) : Except Fault Bytes := do
  let (flags, bytes) ← field 1 bytes
  let set (bit : Nat) : Nat := (flags >>> bit) % 2
  if 8 ≤ flags ∨ (size ≠ 5 ∧ size ≠ 1 + 4 * (set 0 + set 1 + set 2)) then .error .directory
  else passOver (size - 1) bytes

/-- Times in the manner of one file system: reserved bytes, one attribute of 24 bytes. -/
def fileTimes (size : Nat) (bytes : Bytes) : Except Fault Bytes := do
  if size ≠ 32 then .error .directory
  else
    let (_, bytes) ← field 4 bytes
    let (tag, bytes) ← field 2 bytes
    if tag ≠ 1 then .error .directory
    else
      let (attributeSize, bytes) ← field 2 bytes
      if attributeSize ≠ 24 then .error .directory else passOver 24 bytes

/-- How an entry is encrypted, and its method behind that. -/
def keyField (size : Nat) (entry : DirectoryEntry) (bytes : Bytes) : FieldResult :=
  let read : Except Fault (Nat × Bytes) := do
    if size ≠ 7 then .error .directory
    else
      let (version, bytes) ← field 2 bytes
      let (vendor, bytes) ← field 2 bytes
      let (strength, bytes) ← field 1 bytes
      let (method, bytes) ← field 2 bytes
      if vendor ≠ 0x4541 ∨ (version ≠ 1 ∧ version ≠ 2) ∨ strength = 0 ∨ 3 < strength then
        .error .directory
      else return (method, bytes)
  match read with
  | .error fault => (entry, .error fault)
  | .ok (method, bytes) =>
    ({ entry with method := .ofCode method, needsKeyField := method == 99, hasKeyField := true },
      .ok bytes)

def extraField (kind size : Nat) (entry : DirectoryEntry) (bytes : Bytes) : FieldResult :=
  match kind with
  | 0x0001 => longNumbers size entry bytes
  | 0x000A => (entry, fileTimes size bytes)
  | 0x9901 => keyField size entry bytes
  | 0x5455 => (entry, timestamps size bytes)
  | 0x6375 =>
    match unicodeText size (utf8 entry.comment) bytes with
    | .ok (comment, rest) => ({ entry with comment }, .ok rest)
    | .error fault => (entry, .error fault)
  | 0x7075 =>
    match unicodeText size entry.rawName bytes with
    | .ok (name, rest) => ({ entry with name, rawName := utf8 name }, .ok rest)
    | .error fault => (entry, .error fault)
  | _ => (entry, passOver size bytes)

/-- The entry with its extra fields applied; each field takes four bytes of `fuel` or more. -/
def applyExtra : (fuel : Nat) → DirectoryEntry → Bytes → Except Fault DirectoryEntry
  | 0, entry, _ => .ok entry
  | _, entry, [] => .ok entry
  | fuel + 1, entry, bytes =>
    match (do let (kind, bytes) ← field 2 bytes
              let (size, bytes) ← field 2 bytes
              return (kind, size, bytes) : Except Fault (Nat × Nat × Bytes)) with
    | .error _ => .ok entry
    | .ok (kind, size, bytes) =>
      match extraField kind size entry bytes with
      | (entry, .ok rest) => applyExtra fuel entry rest
      | (entry, .error fault) => if fault.isReadFailure then .ok entry else .error fault

end DriverClasses.Archive
