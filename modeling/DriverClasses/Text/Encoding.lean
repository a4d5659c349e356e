/-!
# Texts as bytes and as JSON

`utf8` writes a text as bytes.  `scan` reads bytes back, one answer for each character and `none`
for each ill-formed stretch: the longest run of bytes that still begins some character, or one byte
where there is no such run.  `ofUtf8?` accepts well-formed bytes only and `ofUtf8Lossy` puts U+FFFD
for each ill-formed stretch.

`jsonString` puts a text between quotes.  Quotes, backslashes and control characters are escaped,
and all other characters stand for themselves.
-/

namespace DriverClasses.Text

abbrev Bytes := List UInt8

def utf8Chars (s : List Char) : Bytes := s.flatMap String.utf8EncodeChar

def utf8 (s : String) : Bytes := utf8Chars s.toList

/-- What a leading byte announces: how many bytes follow it, the range of the first of them, and
the bits it carries itself. -/
def announced (a : UInt8) : Option (Nat × Nat × Nat × Nat) :=
  let n := a.toNat
  if n < 0x80 then some (0, 0x80, 0xBF, n)
  else if n < 0xC2 then none
  else if n < 0xE0 then some (1, 0x80, 0xBF, n - 0xC0)
  else if n = 0xE0 then some (2, 0xA0, 0xBF, 0)
  else if n = 0xED then some (2, 0x80, 0x9F, 13)
  else if n < 0xF0 then some (2, 0x80, 0xBF, n - 0xE0)
  else if n = 0xF0 then some (3, 0x90, 0xBF, 0)
  else if n < 0xF4 then some (3, 0x80, 0xBF, n - 0xF0)
  else if n = 0xF4 then some (3, 0x80, 0x8F, 4)
  else none

/-- Takes `count` bytes, the first of them in `low..high`, onto the bits of `value`.  The second
component is the number of bytes that fitted. -/
def followers : (count low high value : Nat) → Bytes → Option Nat × Nat
  | 0, _, _, value, _ => (some value, 0)
  | _ + 1, _, _, _, [] => (none, 0)
  | count + 1, low, high, value, b :: r =>
    if low ≤ b.toNat && b.toNat ≤ high then
      let (v, used) := followers count 0x80 0xBF (value * 64 + b.toNat % 64) r
      (v, used + 1)
    else (none, 0)

/-- The character that starts with byte `a`, and how many of the following bytes belong to it. -/
def firstScalar (a : UInt8) (r : Bytes) : Option Char × Nat :=
  match announced a with
  | none => (none, 0)
  | some (count, low, high, value) =>
    let (v, used) := followers count low high value r
    (v.map Char.ofNat, used)

/-- Reads bytes, the first `skip` of which belong to a character already read. -/
def scanFrom : (skip : Nat) → Bytes → List (Option Char)
  | _, [] => []
  | skip + 1, _ :: r => scanFrom skip r
  | 0, a :: r =>
    let (c, used) := firstScalar a r
    c :: scanFrom used r

def scan (bytes : Bytes) : List (Option Char) := scanFrom 0 bytes

def ofUtf8? (bytes : Bytes) : Option String := ((scan bytes).mapM id).map String.ofList

def ofUtf8Lossy (bytes : Bytes) : String :=
  String.ofList ((scan bytes).map (·.getD '\uFFFD'))

def jsonChar (c : Char) : List Char :=
  match c with
  | '"' => ['\\', '"']
  | '\\' => ['\\', '\\']
  | '\x08' => ['\\', 'b']
  | '\t' => ['\\', 't']
  | '\n' => ['\\', 'n']
  | '\x0c' => ['\\', 'f']
  | '\r' => ['\\', 'r']
  | c =>
    if c.toNat < 0x20 then
      ['\\', 'u', '0', '0', Nat.digitChar (c.toNat / 16), Nat.digitChar (c.toNat % 16)]
    else [c]

def jsonString (s : String) : String :=
  String.ofList ('"' :: s.toList.flatMap jsonChar ++ ['"'])

end DriverClasses.Text
