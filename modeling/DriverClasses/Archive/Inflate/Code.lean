import DriverClasses.Archive.Inflate.Supply

/-!
# Codes

A code gives words of up to fifteen bits to symbols.  The lengths of the words determine it: words
of one length are consecutive numbers in the order of their symbols, and longer words come after
shorter ones.  A code that leaves words over is accepted only if it has a single word or none.
-/

namespace DriverClasses.Archive.Inflate

inductive Code where
  /-- Every word has a symbol: how many words of each length there are, from one bit on, and the
  symbols in the order of their words. -/
  | complete (counts : List Nat) (symbols : Array Nat)
  /-- Only the word of `length` zeros has a symbol. -/
  | lone (length symbol : Nat)
  | empty

def longestWord : Nat := 15

/-- The words left over when every symbol has its own, or `none` if there are too few. -/
def spareWords : (counts : List Nat) → (spare : Nat) → Option Nat
  | [], spare => some spare
  | c :: cs, spare => if 2 * spare < c then none else spareWords cs (2 * spare - c)

/-- The code in which symbol `i` has a word of `lengths[i]` bits, or none if that is zero. -/
def Code.ofLengths? (lengths : List Nat) : Option Code :=
  let indexed := lengths.zipIdx
  let byLength := (List.range longestWord).map fun i => indexed.filter (·.1 == i + 1)
  let counts := byLength.map List.length
  match byLength.flatten with
  | [] => some .empty
  | [(length, symbol)] => some (.lone length symbol)
  | used =>
    if spareWords counts 1 = some 0 then some (.complete counts (used.map (·.2)).toArray) else none

/-- The same, where a code with fewer words than two does not count. -/
def Code.ofLengthsStrictly? (lengths : List Nat) : Option Code :=
  match Code.ofLengths? lengths with
  | some (.complete counts symbols) => some (.complete counts symbols)
  | _ => none

/-- Reads the rest of a word.  `word` is what was read of it, `first` the first word of its length
and `index` the place of that word's symbol. -/
def takeWord (supply : Supply) (symbols : Array Nat) :
    (counts : List Nat) → (word first index : Nat) → Bits Nat
  | [], _, _, _ => throw .corrupt
  | c :: cs, word, first, index => do
    let b ← takeBit supply
    let word := word + b
    if word < first + c then
      match symbols[index + (word - first)]? with
      | some symbol => return symbol
      | none => throw .corrupt
    else takeWord supply symbols cs (2 * word) (2 * (first + c)) (index + c)

/-- Words of up to so many bits are told apart at once. -/
def promptWord : Nat := 10

/-- Reads the word of a lone symbol, `taken` bits of which were read.  A word that leaves it early
has no meaning; one that leaves it later stands for the symbol 0. -/
def takeLone (supply : Supply) (symbol : Nat) : (left taken : Nat) → Bits Nat
  | 0, _ => return symbol
  | left + 1, taken => do
    let b ← takeBit supply
    if b = 0 then takeLone supply symbol left (taken + 1)
    else if taken < promptWord then throw .corrupt
    else return 0

def takeSymbol (supply : Supply) : Code → Bits Nat
  | .complete counts symbols => takeWord supply symbols counts 0 0 0
  | .lone length symbol => takeLone supply symbol length 0
  | .empty => do
    let _ ← takeBit supply
    throw .corrupt

end DriverClasses.Archive.Inflate
