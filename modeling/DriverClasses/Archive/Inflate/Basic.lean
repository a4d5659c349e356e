import DriverClasses.Archive.Inflate.Header

/-!
# Inflating compressed data

The DEFLATE format.  Data is a sequence of blocks: stored bytes, or symbols in codes.  A symbol is a
byte, the end of the block, or the length of a stretch that is copied from what was written before;
before the first byte there are zeros.

Data is taken in pieces and written out in windows.  `inflate data wanted` goes on, a piece or a
window at a time, until `wanted` bytes are there.  What breaks the format within the last piece and
window is found although it lies behind the wanted bytes: the outcome is then `corrupt`.  Data that
ends too early is `incomplete` only if a wanted byte is missing.
-/

namespace DriverClasses.Archive

namespace Inflate

inductive Fault where
  | incomplete
  | corrupt
  deriving DecidableEq, Repr

/-- What comes next. -/
inductive Phase where
  | header
  | stored (left : Nat)
  | symbols (literals distances : Code)
  | copying (distance left : Nat) (literals distances : Code)

structure State where
  /-- The number of bits that were taken from the data. -/
  position : Nat
  out : Array UInt8
  /-- Whether the block at hand is the last one. -/
  isLast : Bool
  phase : Phase

def State.start : State := { position := 0, out := #[], isLast := false, phase := .header }

def lengthBases : Array Nat :=
  #[3, 4, 5, 6, 7, 8, 9, 10, 11, 13, 15, 17, 19, 23, 27, 31, 35, 43, 51, 59, 67, 83, 99, 115, 131,
    163, 195, 227, 258]

def lengthExtras : Array Nat :=
  #[0, 0, 0, 0, 0, 0, 0, 0, 1, 1, 1, 1, 2, 2, 2, 2, 3, 3, 3, 3, 4, 4, 4, 4, 5, 5, 5, 5, 0]

def distanceBases : Array Nat :=
  #[1, 2, 3, 4, 5, 7, 9, 13, 17, 25, 33, 49, 65, 97, 129, 193, 257, 385, 513, 769, 1025, 1537, 2049,
    3073, 4097, 6145, 8193, 12289, 16385, 24577]

def distanceExtras : Array Nat :=
  #[0, 0, 0, 0, 1, 1, 2, 2, 3, 3, 4, 4, 5, 5, 6, 6, 7, 7, 8, 8, 9, 9, 10, 10, 11, 11, 12, 12, 13,
    13]

/-- The number that the `index`-th entry of two tables stands for. -/
def takeScaled (supply : Supply) (bases extras : Array Nat) (index : Nat) : Bits Nat :=
  match bases[index]?, extras[index]? with
  | some base, some extra => do return base + (← takeBits supply extra)
  | _, _ => throw .corrupt

inductive Symbol where
  | byte (b : UInt8)
  | blockEnd
  | stretch (distance length : Nat)

def takeWhole (supply : Supply) (literals distances : Code) : Bits Symbol := do
  let symbol ← takeSymbol supply literals
  if symbol < 256 then return .byte (UInt8.ofNat symbol)
  else if symbol = 256 then return .blockEnd
  else
    let length ← takeScaled supply lengthBases lengthExtras (symbol - 257)
    let index ← takeSymbol supply distances
    let distance ← takeScaled supply distanceBases distanceExtras index
    return .stretch distance length

/-- Appends the `count` bytes that stand `distance` before the end, one after the other. -/
def copyBack (distance : Nat) : (count : Nat) → Array UInt8 → Array UInt8
  | 0, out => out
  | count + 1, out =>
    let b := if distance ≤ out.size then out.getD (out.size - distance) 0 else 0
    copyBack distance count (out.push b)

/-- Takes one step: a head, a byte, a symbol or as much of a stretch as there is room for before
`window` bytes are written.  A step that cannot be taken changes nothing. -/
def step (supply : Supply) (window : Nat) (s : State) : State × Option Halt :=
  match s.phase with
  | .header =>
    if s.isLast then (s, some .finished)
    else
      match (takeHeader supply).run s.position with
      | .error halt => (s, some halt)
      | .ok (head, position) =>
        let phase :=
          match head.body with
          | .stored size => .stored size
          | .coded literals distances => .symbols literals distances
        ({ s with position, isLast := head.isLast, phase }, none)
  | .stored 0 => ({ s with phase := .header }, none)
  | .stored (left + 1) =>
    if window ≤ s.out.size then (s, some .full)
    else
      match (takeByte supply).run s.position with
      | .error halt => (s, some halt)
      | .ok (b, position) =>
        ({ s with position, out := s.out.push b, phase := .stored left }, none)
  | .symbols literals distances =>
    match (takeWhole supply literals distances).run s.position with
    | .error halt => (s, some halt)
    | .ok (.byte b, position) =>
      if window ≤ s.out.size then (s, some .full)
      else ({ s with position, out := s.out.push b }, none)
    | .ok (.blockEnd, position) => ({ s with position, phase := .header }, none)
    | .ok (.stretch distance length, position) =>
      ({ s with position, phase := .copying distance length literals distances }, none)
  | .copying distance left literals distances =>
    if left = 0 then ({ s with phase := .symbols literals distances }, none)
    else if window ≤ s.out.size then (s, some .full)
    else
      let count := min left (window - s.out.size)
      let phase := .copying distance (left - count) literals distances
      ({ s with out := copyBack distance count s.out, phase }, none)

/-- Takes steps until one cannot be taken. -/
def run (supply : Supply) (window : Nat) : (fuel : Nat) → State → State × Halt
  | 0, s => (s, .starved)
  | fuel + 1, s =>
    match step supply window s with
    | (s, none) => run supply window fuel s
    | (s, some halt) => (s, halt)

/-- The size of the pieces in which data comes, and that of the windows in which it is written. -/
def pieceSize : Nat := 8192
def windowSize : Nat := 32768

/-- Goes on until `wanted` bytes are there or no more come. -/
def deliver (data : Array UInt8) (wanted : Nat) :
    (fuel : Nat) → (atHand window : Nat) → State → Except Fault (Array UInt8)
  | 0, _, _, _ => .error .incomplete
  | fuel + 1, atHand, window, s =>
    if wanted ≤ s.out.size then .ok s.out
    else
      match run ⟨data, atHand⟩ window (24 * data.size + 16) s with
      | (s, .finished) => .ok s.out
      | (_, .corrupt) => .error .corrupt
      | (s, .full) => deliver data wanted fuel atHand (window + windowSize) s
      | (s, .starved) =>
        if data.size ≤ atHand then
          if wanted ≤ s.out.size then .ok s.out else .error .incomplete
        else deliver data wanted fuel (atHand + pieceSize) window s

end Inflate

/-- What compressed data expands to: all of it, or its first `wanted` bytes. -/
def inflate (data : List UInt8) (wanted : Nat) : Except Inflate.Fault (List UInt8) :=
  let data := data.toArray
  (Inflate.deliver data wanted (data.size + 4) Inflate.pieceSize Inflate.windowSize .start).map
    fun out => (out.take wanted).toList

end DriverClasses.Archive
