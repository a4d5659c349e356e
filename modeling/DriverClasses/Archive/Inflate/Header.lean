import DriverClasses.Archive.Inflate.Code

/-!
# Heads of blocks

The head of a block says whether the block is the last one, and how it is written: bytes as they
stand, symbols in the fixed codes, or symbols in codes that the head describes (`takeHeader`).
-/

namespace DriverClasses.Archive.Inflate

/-- How a block is written. -/
inductive Body where
  | stored (size : Nat)
  | coded (literals distances : Code)

structure Header where
  isLast : Bool
  body : Body

def fixedLiterals : Code :=
  (Code.ofLengths? (List.replicate 144 8 ++ List.replicate 112 9 ++ List.replicate 24 7
    ++ List.replicate 8 8)).getD .empty

def fixedDistances : Code := (Code.ofLengths? (List.replicate 32 5)).getD .empty

/-- The symbols of the code for lengths, in the order in which their own lengths are given. -/
def lengthOrder : List Nat := [16, 17, 18, 0, 8, 7, 9, 6, 10, 5, 11, 4, 12, 3, 13, 2, 14, 1, 15]

def takeEach (supply : Supply) (width : Nat) : (count : Nat) → Bits (List Nat)
  | 0 => return []
  | count + 1 => do
    let n ← takeBits supply width
    let ns ← takeEach supply width count
    return n :: ns

/-- Reads the lengths that are still missing from `total` onto `lengths`. -/
def takeLengths (supply : Supply) (code : Code) (total : Nat) :
    (fuel : Nat) → Array Nat → Bits (Array Nat)
  | 0, lengths => return lengths
  | fuel + 1, lengths =>
    if total ≤ lengths.size then return lengths
    else do
      let symbol ← takeSymbol supply code
      if symbol < 16 then takeLengths supply code total fuel (lengths.push symbol)
      else if symbol = 16 ∧ lengths.isEmpty then throw .corrupt
      else
        let (width, least) :=
          if symbol = 16 then (2, 3) else if symbol = 17 then (3, 3) else (7, 11)
        let extra ← takeBits supply width
        let repeated := if symbol = 16 then lengths.back?.getD 0 else 0
        let lengths := lengths ++ Array.replicate (least + extra) repeated
        if total < lengths.size then throw .corrupt
        else takeLengths supply code total fuel lengths

def orCorrupt {α : Type} : Option α → Bits α
  | some a => return a
  | none => throw .corrupt

/-- The two codes that a block describes. -/
def takeCodes (supply : Supply) : Bits Body := do
  let literalCount := (← takeBits supply 5) + 257
  let distanceCount := (← takeBits supply 5) + 1
  let lengthCount := (← takeBits supply 4) + 4
  if literalCount > 286 || distanceCount > 30 then throw .corrupt
  else
    let ordered := lengthOrder.zip (← takeEach supply 3 lengthCount)
    let lengthCode ←
      orCorrupt (Code.ofLengthsStrictly? ((List.range 19).map fun i => (ordered.lookup i).getD 0))
    let total := literalCount + distanceCount
    let lengths ← takeLengths supply lengthCode total (total + 1) #[]
    let literals ← orCorrupt (Code.ofLengths? (lengths.toList.take literalCount))
    let distances ← orCorrupt (Code.ofLengths? (lengths.toList.drop literalCount))
    return .coded literals distances

/-- The size of a stored block, which is given twice, the second time with all bits flipped. -/
def takeStoredSize (supply : Supply) : Bits Body := do
  alignToByte
  let size ← takeBits supply 16
  let check ← takeBits supply 16
  if size + check ≠ 65535 then throw .corrupt else return .stored size

def takeHeader (supply : Supply) : Bits Header := do
  let last ← takeBit supply
  let kind ← takeBits supply 2
  let body ←
    match kind with
    | 0 => takeStoredSize supply
    | 1 => pure (.coded fixedLiterals fixedDistances)
    | 2 => takeCodes supply
    | _ => throw .corrupt
  return { isLast := last == 1, body }

end DriverClasses.Archive.Inflate
