/-!
# JSON numerals

A numeral is kept as it is written: a sign, the digits before the point, those after it, and an
exponent. Two things are asked of it later. `Numeral.whole?` is the integer it stands for when it is
written as one and fits in a word of 64 bits. `Numeral.isTooLarge` tells whether its value is past
the largest double, computed as a reader does that collects as many digits as fit in a word, rounds
them, and scales the result once.
-/

namespace Labyrinth.Json

/-- The exponent of a numeral. -/
structure Exponent where
  negative : Bool
  digits : List Char
  deriving DecidableEq

/-- A numeral as it is written; an empty `fraction` means that there is no point. -/
structure Numeral where
  negative : Bool
  digits : List Char
  fraction : List Char
  exponent : Option Exponent
  deriving DecidableEq

/-- The number that decimal digits spell. -/
def ofDigits (digits : List Char) : Nat := digits.foldl (fun n c => 10 * n + (c.toNat - 48)) 0

/-- The largest unsigned word. -/
def maxWord : Nat := 0xffffffffffffffff

/-- The size of the least signed word. -/
def minWordSize : Nat := 0x8000000000000000

/-- The nearest number of at most 53 significant bits, of two the one with an even last bit. -/
def roundToDouble (n : Nat) : Nat :=
  let unit := 1 <<< (Nat.log2 n - 52)
  let low := n / unit
  let rest := n % unit
  let up := unit < 2 * rest || (2 * rest = unit && low % 2 = 1)
  (if up then low + 1 else low) * unit

/-- The first number that rounds past the largest double. -/
def doubleBound : Nat := 1 <<< 1024

namespace Numeral

/-- A whole number as a numeral. -/
def ofInt (i : Int) : Numeral := ⟨i < 0, Nat.toDigits 10 i.natAbs, [], none⟩

/-- The integer that a numeral without point and exponent stands for, if it fits in a word; below
    zero that is a signed word. Minus zero is no integer. -/
def whole? (n : Numeral) : Option Int :=
  let size := ofDigits n.digits
  if n.fraction ≠ [] || n.exponent.isSome then none
  else if n.negative then
    if 0 < size && size ≤ minWordSize then some (-size) else none
  else if size ≤ maxWord then some size else none

/-- The leading digits that spell a word, and how many are left over. -/
def significand : Nat → List Char → Nat × Nat
  | n, [] => (n, 0)
  | n, c :: rest =>
    let next := 10 * n + (c.toNat - 48)
    if next ≤ maxWord then significand next rest else (n, rest.length + 1)

/-- The digits that count and the power of ten they are scaled by, before the exponent. Digits before
    the point that no longer fit raise the power; those after it are dropped. -/
def scaled (n : Numeral) : Nat × Int :=
  let (whole, surplus) := significand 0 n.digits
  let (all, dropped) := significand whole n.fraction
  (all, (surplus : Int) - (n.fraction.length - dropped : Nat))

/-- The power of ten that an exponent stands for. -/
def shift : Option Exponent → Int
  | none => 0
  | some e => if e.negative then -(ofDigits e.digits : Int) else ofDigits e.digits

/-- Whether the numeral's value is past the largest double. -/
def isTooLarge (n : Numeral) : Bool :=
  let (digits, power) := n.scaled
  let power := power + shift n.exponent
  0 < digits && 0 < power &&
    (308 < power ||
      doubleBound ≤ roundToDouble (roundToDouble digits * roundToDouble (Nat.pow 10 power.toNat)))

/-- The minus sign of a negative number. -/
def sign (negative : Bool) : List Char := if negative then ['-'] else []

/-- The numeral's text. -/
def print (n : Numeral) : List Char :=
  let fraction := if n.fraction = [] then [] else '.' :: n.fraction
  let exponent := match n.exponent with
    | none => []
    | some e => 'e' :: sign e.negative ++ e.digits
  sign n.negative ++ n.digits ++ fraction ++ exponent

end Numeral

end Labyrinth.Json
