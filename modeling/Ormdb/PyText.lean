-- The Python runtime under the client code: the tables of CPython's Unicode
-- database that `str`, `int()`, `float()` and `re` consult, and the `str`
-- methods that the code calls, over lists of characters.
import Mathlib.Data.List.Basic
import Mathlib.Algebra.Group.Int

namespace ormdb.py

/-! ## Floats -/

/-- A literal as `float()` reads it, before rounding: `digits * 10 ^ exp`. -/
inductive FloatLit where
  | num (neg : Bool) (digits : Nat) (exp : Int)
  | inf (neg : Bool)
  | nan (neg : Bool)
  deriving DecidableEq, Repr

/-- An IEEE 754 double, by its 64 bits. -/
structure PyFloat where
  bits : UInt64
  deriving DecidableEq, Repr

/-- `bool(x)` of a float: false for the two zeros only. -/
def PyFloat.truthy (x : PyFloat) : Bool := x.bits.toNat % 2 ^ 63 != 0

/-! ## The runtime -/

/-- What the interpreter knows past ASCII. The ASCII part of every table is
fixed below, as CPython has it; past ASCII each table is the interpreter's
Unicode database. Rounding a decimal to a double and printing a double are
left to the interpreter as well. -/
structure Py where
  /-- `str.isspace` past ASCII. -/
  spaceHigh : Char → Bool
  /-- `str.isalnum` past ASCII, the rest of `\w`. -/
  alnumHigh : Char → Bool
  /-- No character is both alphanumeric and whitespace. -/
  alnum_not_space : ∀ c, alnumHigh c = true → spaceHigh c = false
  /-- `str.upper` of one character past ASCII. -/
  upperHigh : Char → List Char
  /-- Under `re.IGNORECASE`, whether the pattern character `p` matches `c`
  when one of the two is past ASCII and `p` is not an ASCII non-letter. -/
  foldHigh : Char → Char → Bool
  /-- The decimal value of a digit past ASCII (`Py_UNICODE_TODECIMAL`). -/
  decimalHigh : Char → Option (Fin 10)
  /-- `str.isprintable` past ASCII, which `repr()` consults. -/
  printableHigh : Char → Bool
  /-- `float()` of a literal: the double nearest to it. -/
  roundFloat : FloatLit → PyFloat
  /-- `repr()` of a float. -/
  reprFloat : PyFloat → List Char
  /-- `PyOS_double_to_string(x, conversion, precision, flags)`: a float as
  `%e`, `%f`, `%g` and their capitals write it, `#` giving `Py_DTSF_ALT`. -/
  formatFloat : Char → Nat → Bool → PyFloat → List Char
  /-- `sys.get_int_max_str_digits()`: the most decimal digits that `int()`
  reads and `str()` writes; 0 for no limit. -/
  maxStrDigits : Nat
  /-- `sys.set_int_max_str_digits` takes 0 or at least 640. -/
  maxStrDigits_ok : maxStrDigits = 0 ∨ 640 ≤ maxStrDigits
  /-- The nested `repr()` and `str()` calls that the recursion limit leaves
  room for at the client's calls; one more raises `RecursionError`. -/
  reprRoom : Nat
  /-- The client is called with room for one call at least. -/
  reprRoom_pos : 0 < reprRoom

namespace Py

variable (py : Py)

/-- `str.isspace`: tab to carriage return, the separators 0x1c to 0x1f and
space, in ASCII. -/
def isspace (c : Char) : Bool :=
  if c.toNat < 128 then c.toNat ∈ [9, 10, 11, 12, 13, 28, 29, 30, 31, 32] else py.spaceHigh c

/-- `\w` of `re`: a character of `str.isalnum`, or `_`. -/
def isword (c : Char) : Bool :=
  if c.toNat < 128 then c.isAlphanum || c == '_' else py.alnumHigh c

/-- `str.upper` of one character. -/
def upperChar (c : Char) : List Char :=
  if c.toNat < 128 then [c.toUpper] else py.upperHigh c

/-- Under `re.IGNORECASE`, whether the pattern character `p` matches `c`.
An ASCII non-letter matches itself only. -/
def caseEq (p c : Char) : Bool :=
  if p.toNat < 128 ∧ c.toNat < 128 then p.toLower == c.toLower
  else if p.toNat < 128 ∧ !p.isAlpha then p == c
  else py.foldHigh p c

/-- The value of a decimal digit, in any script. -/
def decimal (c : Char) : Option Nat :=
  if c.toNat < 128 then (if c.isDigit then some (c.toNat - 48) else none)
  else (py.decimalHigh c).map Fin.val

/-- `str.isprintable` of one character: space to tilde, in ASCII. -/
def isprintable (c : Char) : Bool :=
  if c.toNat < 128 then 32 ≤ c.toNat ∧ c.toNat < 127 else py.printableHigh c

/-- Whether `n` decimal digits are within the limit of `int()` and `str()`. -/
def digitsFit (n : Nat) : Bool := py.maxStrDigits == 0 || n ≤ py.maxStrDigits

/-- Every number of at most 640 digits is within the limit, whatever it is set
to. -/
theorem digitsFit_of_le {n : Nat} (h : n ≤ 640) : py.digitsFit n = true := by
  rcases py.maxStrDigits_ok with h0 | h0 <;> simp [digitsFit, h0] <;> omega

end Py

/-! ## `str` methods -/

section Str

variable (py : Py)

/-- `s.strip()`. -/
def strip (s : List Char) : List Char :=
  ((s.dropWhile py.isspace).reverse.dropWhile py.isspace).reverse

/-- `s.upper()`. -/
def upper (s : List Char) : List Char := s.flatMap py.upperChar

/-- `s.find(sub)`: the first index at which `sub` starts. `none` is the `-1`
of the code. -/
def find (sub : List Char) : List Char → Option Nat
  | [] => if sub = [] then some 0 else none
  | c :: s => if sub.isPrefixOf (c :: s) then some 0 else (find sub s).map (· + 1)

/-- `sub in s`. -/
def contains (s sub : List Char) : Bool := (find sub s).isSome

/-- `s.split(sep)` for a separator of one character. -/
def split (sep : Char) (s : List Char) : List (List Char) := s.splitOn sep

/-- `s.split(sep, 1)`. -/
def splitOnce (sep : Char) (s : List Char) : List (List Char) :=
  match s.span (· != sep) with
  | (a, []) => [a]
  | (a, _ :: b) => [a, b]

/-- `s.split()`: the runs of characters that are not whitespace. -/
def splitWs (s : List Char) : List (List Char) :=
  (s.splitOnP py.isspace).filter (· ≠ [])

/-- `s.replace(old, new)` for a non-empty `old`, scanning left to right. The
fuel is the length of `s`, which each step shortens. -/
def replace (old new : List Char) (s : List Char) : List Char := go s.length s
where
  go : Nat → List Char → List Char
    | 0, s => s
    | _ + 1, [] => []
    | n + 1, c :: s =>
      if old ≠ [] ∧ old.isPrefixOf (c :: s) then new ++ go n ((c :: s).drop old.length)
      else c :: go n s

end Str

/-! ## Lemmas -/

section Lemmas

variable (py : Py)

@[simp] theorem upper_nil : upper py [] = [] := rfl

@[simp] theorem upper_append (a b : List Char) : upper py (a ++ b) = upper py a ++ upper py b := by
  simp [upper]

@[simp] theorem upper_cons (c : Char) (s : List Char) :
    upper py (c :: s) = py.upperChar c ++ upper py s := rfl

theorem upperChar_ascii {c : Char} (h : c.toNat < 128) : py.upperChar c = [c.toUpper] := by
  simp [Py.upperChar, h]

theorem isspace_ascii {c : Char} (h : c.toNat < 128) :
    py.isspace c = decide (c.toNat ∈ [9, 10, 11, 12, 13, 28, 29, 30, 31, 32]) := by
  simp [Py.isspace, h]

theorem find_cons_of_not_prefix {sub : List Char} {c : Char} {s : List Char}
    (h : sub.isPrefixOf (c :: s) = false) : find sub (c :: s) = (find sub s).map (· + 1) := by
  simp [find, h]

end Lemmas

/-- `%e`, `%f` and `%g` of zero: the digits the precision asks for (at least
one for `%g`, whose zeros after the point only `#` keeps), and the point
itself only before digits or under `#`. -/
def zeroFloatText (conv : Char) (prec : Nat) (alt : Bool) : List Char :=
  let frac (n : Nat) := if n = 0 ∧ !alt then [] else '.' :: List.replicate n '0'
  if conv = 'f' ∨ conv = 'F' then '0' :: frac prec
  else if conv = 'e' ∨ conv = 'E' then '0' :: frac prec ++ [conv, '+', '0', '0']
  else '0' :: (if alt then frac (prec - 1) else [])

/-- A runtime that knows nothing past ASCII: no whitespace, letters, digits or
printable characters there, each such character its own upper case, and every
double zero. It has CPython's default limits: 4300 digits, and a recursion
limit of 1000 of which a shallow caller leaves 996 to `repr()`. It runs the
model on ASCII text, which no table past ASCII touches. -/
def Py.ascii : Py where
  spaceHigh _ := false
  alnumHigh _ := false
  alnum_not_space _ h := nomatch h
  upperHigh c := [c]
  foldHigh _ _ := false
  decimalHigh _ := none
  printableHigh _ := false
  roundFloat _ := ⟨0⟩
  reprFloat _ := "0.0".toList
  formatFloat conv prec alt _ := zeroFloatText conv prec alt
  maxStrDigits := 4300
  maxStrDigits_ok := .inr (by decide)
  reprRoom := 996
  reprRoom_pos := by decide

end ormdb.py
