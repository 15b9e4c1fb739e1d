import Labyrinth.Json.Fault

/-!
# JSON strings

How the characters of a string are written between quotes, and how they are read back. Reading takes
two steps: the text is cut into pieces, each a character or a code unit given by its digits, and then
code units are joined to characters. A reader that only passes over a string stops after the first
step, so a code unit that lacks its other half stops one reader and not the other.
-/

namespace Labyrinth.Json

/-! ### Writing -/

/-- The letter that escapes a control character, for the five that have one. -/
def controlLetter? : Char → Option Char
  | '\x08' => some 'b'
  | '\t' => some 't'
  | '\n' => some 'n'
  | '\x0c' => some 'f'
  | '\r' => some 'r'
  | _ => none

/-- A character inside a string: quotes, backslashes and control characters are escaped. -/
def escape (c : Char) : List Char :=
  if c = '"' then ['\\', '"']
  else if c = '\\' then ['\\', '\\']
  else match controlLetter? c with
    | some letter => ['\\', letter]
    | none =>
      if c.toNat < 32 then
        ['\\', 'u', '0', '0', Nat.digitChar (c.toNat / 16), Nat.digitChar (c.toNat % 16)]
      else [c]

/-- A text between quotes. -/
def printText (s : String) : List Char := '"' :: s.toList.flatMap escape ++ ['"']

/-! ### Reading -/

/-- A character of a string, or a code unit that was written as four hexadecimal digits. -/
inductive Piece where
  | char (c : Char)
  | unit (n : Nat)
  deriving DecidableEq

/-- The value of a hexadecimal digit of either case. -/
def hexValue? (c : Char) : Option Nat :=
  if c.isDigit then some (c.toNat - 48)
  else if 'a' ≤ c && c ≤ 'f' then some (c.toNat - 87)
  else if 'A' ≤ c && c ≤ 'F' then some (c.toNat - 55)
  else none

/-- The code unit of four hexadecimal digits. -/
def codeUnit? (a b c d : Char) : Option Nat := do
  return (((← hexValue? a) * 16 + (← hexValue? b)) * 16 + (← hexValue? c)) * 16 + (← hexValue? d)

/-- The character that a letter after a backslash stands for. -/
def escaped? : Char → Option Char
  | '"' => some '"'
  | '\\' => some '\\'
  | '/' => some '/'
  | 'b' => some '\x08'
  | 'f' => some '\x0c'
  | 'n' => some '\n'
  | 'r' => some '\r'
  | 't' => some '\t'
  | _ => none

/-- The flaw of four hexadecimal digits that are not there: the text counts as cut short if fewer
    than four bytes are left. -/
def codeUnitFlaw (text : List Char) : Flaw :=
  if (String.ofList text).utf8ByteSize < 4 then .truncated else .illFormed

/-- The pieces of a string after its opening quote, and the text after its closing quote or what is
    wrong before that. -/
def scanPieces : List Char → List Piece × Except Flaw (List Char)
  | [] => ([], .error .truncated)
  | '"' :: rest => ([], .ok rest)
  | ['\\'] => ([], .error .truncated)
  | '\\' :: 'u' :: a :: b :: c :: d :: rest =>
    match codeUnit? a b c d with
    | some n => let (pieces, ending) := scanPieces rest; (.unit n :: pieces, ending)
    | none => ([], .error .illFormed)
  | '\\' :: 'u' :: rest => ([], .error (codeUnitFlaw rest))
  | '\\' :: c :: rest =>
    match escaped? c with
    | some c => let (pieces, ending) := scanPieces rest; (.char c :: pieces, ending)
    | none => ([], .error .illFormed)
  | c :: rest =>
    if c.toNat < 32 then ([], .error .illFormed)
    else let (pieces, ending) := scanPieces rest; (.char c :: pieces, ending)

/-- Whether a code unit is the first half of a pair. -/
def isLeading (n : Nat) : Bool := 0xd800 ≤ n && n < 0xdc00

/-- Whether a code unit is the second half of a pair. -/
def isTrailing (n : Nat) : Bool := 0xdc00 ≤ n && n < 0xe000

/-- The characters of the pieces of a string, if each half of a pair has its other half. A first half
    at the very end is let pass when the string is `torn` there. -/
def joinPieces (torn : Bool) : List Piece → Option (List Char)
  | [] => some []
  | .char c :: rest => (joinPieces torn rest).map (c :: ·)
  | .unit n :: .unit m :: rest =>
    if isLeading n && isTrailing m then
      (joinPieces torn rest).map (Char.ofNat (0x10000 + (n - 0xd800) * 0x400 + (m - 0xdc00)) :: ·)
    else if isLeading n || isTrailing n then none
    else (joinPieces torn (.unit m :: rest)).map (Char.ofNat n :: ·)
  | .unit n :: rest =>
    if isLeading n && torn && rest.isEmpty then some []
    else if isLeading n || isTrailing n then none
    else (joinPieces torn rest).map (Char.ofNat n :: ·)

end Labyrinth.Json
