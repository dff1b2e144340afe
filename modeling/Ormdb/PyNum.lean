-- `int()` and `float()` of a string as CPython reads one: digits of any
-- script, whitespace around, a sign, single underscores between digits; and
-- `str()` of an int.
import Ormdb.PyText

namespace ormdb.py

/-! ## Before the number is read -/

/-- What `_PyUnicode_TransformDecimalAndSpaceToASCII` makes of a character
before `int()` or `float()` reads the string: ASCII stays, other whitespace
becomes a space, another decimal digit its ASCII digit, and anything else a
`?`, which no number holds. -/
def Py.toAsciiNum (py : Py) (c : Char) : Char :=
  if c.toNat < 127 then c
  else if py.isspace c then ' '
  else match py.decimal c with
    | some d => Char.ofNat (48 + d)
    | none => '?'

/-- `Py_ISSPACE`: the whitespace that `int()` and `float()` skip once the
string is ASCII. -/
def cSpace (c : Char) : Bool := c.toNat ∈ [9, 10, 11, 12, 13, 32]

/-- The text without the `Py_ISSPACE` characters at either end. -/
def cStrip (s : List Char) : List Char :=
  ((s.dropWhile cSpace).reverse.dropWhile cSpace).reverse

/-- `_PyLong_DigitValue`: digits, then letters from 10 to 35; 37 for the rest. -/
def digitValue (c : Char) : Nat :=
  if c.isDigit then c.toNat - 48
  else if c.isLower then c.toNat - 87
  else if c.isUpper then c.toNat - 55
  else 37

/-- The digits after the first one, with single underscores between digits
and none at the end, folded into `acc`. -/
def digitsAux (base : Nat) : Nat → Bool → List Char → Option Nat
  | acc, under, [] => if under then none else some acc
  | acc, under, c :: s =>
    if c = '_' then (if under then none else digitsAux base acc true s)
    else if digitValue c < base then digitsAux base (acc * base + digitValue c) false s
    else none

/-- The value of a run of digits in `base` that fills the whole text. -/
def digitsValue (base : Nat) : List Char → Option Nat
  | [] => none
  | c :: s => if digitValue c < base then digitsAux base (digitValue c) false s else none

/-- A leading sign: whether it is `-`, and the text after it. -/
def takeSign : List Char → Bool × List Char
  | '+' :: s => (false, s)
  | '-' :: s => (true, s)
  | s => (false, s)

/-- The `0x` prefix that base 16 allows, and the one underscore after it. -/
def dropHexPrefix : List Char → List Char
  | '0' :: x :: s =>
    if x = 'x' ∨ x = 'X' then (match s with | '_' :: r => r | r => r) else '0' :: x :: s
  | s => s

/-! ## `int()` -/

/-- `int(s, base)` for the bases 10 and 16 of the code; `none` is the
`ValueError` it raises. In base 10, where the base is no power of two, more
digits than the limit allows are refused before they are read. -/
def Py.toInt (py : Py) (base : Nat) (s : List Char) : Option Int :=
  let (neg, t) := takeSign (cStrip (s.map py.toAsciiNum))
  let t := if base = 16 then dropHexPrefix t else t
  if base = 10 ∧ !py.digitsFit (t.countP Char.isDigit) then none
  else (digitsValue base t).map fun n => if neg then -(n : Int) else n

/-- `str(n)` of an int, when its digits are within the limit. -/
def intStr (n : Int) : List Char :=
  if n < 0 then '-' :: Nat.toDigits 10 n.natAbs else Nat.toDigits 10 n.natAbs

/-- The number of decimal digits of `n`, its sign left out. -/
def intDigits (n : Int) : Nat := (Nat.toDigits 10 n.natAbs).length

/-! ## `float()` -/

/-- Each underscore stands between two ASCII digits, as
`_Py_string_to_number_with_underscores` asks. -/
def underscoresOk : Char → List Char → Bool
  | _, [] => true
  | p, '_' :: c :: s => p.isDigit && c.isDigit && underscoresOk c s
  | _, ['_'] => false
  | _, c :: s => underscoresOk c s

/-- The value of a run of ASCII digits. -/
def decValue (ds : List Char) : Nat := ds.foldl (fun acc c => acc * 10 + (c.toNat - 48)) 0

/-- An exponent `[sign] digits` that fills the text. -/
def expValue (s : List Char) : Option Int :=
  let (neg, t) := takeSign s
  if t ≠ [] ∧ t.all Char.isDigit then some (if neg then -(decValue t : Int) else decValue t)
  else none

/-- What `_Py_dg_strtod` and `_Py_parse_inf_or_nan` accept when they must read
the whole text: `[sign] (digits [. [digits]] | . digits) [e [sign] digits]`, or
`inf`, `infinity`, `nan` in any case. -/
def floatLit (s : List Char) : Option FloatLit :=
  let (neg, t) := takeSign s
  let low := t.map Char.toLower
  if low = "inf".toList ∨ low = "infinity".toList then some (.inf neg)
  else if low = "nan".toList then some (.nan neg)
  else
    let whole := t.takeWhile Char.isDigit
    let (frac, r) := match t.dropWhile Char.isDigit with
      | '.' :: r => (r.takeWhile Char.isDigit, r.dropWhile Char.isDigit)
      | r => ([], r)
    let e := match r with
      | [] => some 0
      | c :: r => if c = 'e' ∨ c = 'E' then expValue r else none
    if whole ++ frac = [] then none
    else e.map fun e => .num neg (decValue (whole ++ frac)) (e - frac.length)

/-- `float(s)`; `none` is the `ValueError` it raises. -/
def Py.toFloat (py : Py) (s : List Char) : Option PyFloat :=
  let t := s.map py.toAsciiNum
  if underscoresOk ' ' t then (floatLit (cStrip (t.filter (· ≠ '_')))).map py.roundFloat
  else none

end ormdb.py
