-- `template % mapping` as CPython's `PyUnicode_Format` runs it: the text is
-- copied up to each `%`, whose specifier (a key in parentheses, flags, a
-- width, a precision, a length modifier and a conversion) formats one
-- argument. With a mapping the argument is the mapping itself until a key
-- selects one of its values. A template of text and `%(key)s` placeholders
-- formats to its text with each placeholder replaced by `str()` of its value.
import Ormdb.PyVal

namespace ormdb.py

open ormdb

/-! ## Specifiers -/

/-- The flags of a specifier: `-`, `+`, space, `#` and `0`. -/
structure Flags where
  ljust : Bool
  sign : Bool
  blank : Bool
  alt : Bool
  zero : Bool
  deriving DecidableEq, Repr

/-- A specifier once read: its flags, width, precision and conversion. -/
structure Spec where
  flags : Flags
  width : Option Nat
  prec : Option Nat
  conv : Char
  deriving DecidableEq, Repr

/-- The argument the next conversion or `*` takes: the mapping itself at
first, then the value of the last key; each is taken once. -/
structure FormatArg where
  value : PyVal
  taken : Bool

/-- `unicode_format_getnextarg`: the argument, unless a conversion or a `*`
took it already. -/
def FormatArg.next (a : FormatArg) : Except PyErr (PyVal × FormatArg) :=
  if a.taken then .error .typeError else .ok (a.value, ⟨a.value, true⟩)

/-- `PY_SSIZE_T_MAX`, past which a width is too big. -/
def ssizeMax : Nat := 2 ^ 63 - 1

/-- `INT_MAX`, past which a precision is too big. -/
def intMax : Nat := 2 ^ 31 - 1

/-- The key of `%(key)`: the text up to the `)` that closes the opening
parenthesis, `depth` more being open, and the text after it; `none` when the
text ends first. -/
def readKey : Nat → List Char → Option (List Char × List Char)
  | _, [] => none
  | 0, ')' :: r => some ([], r)
  | n + 1, ')' :: r => (readKey n r).map fun (k, r') => (')' :: k, r')
  | n, '(' :: r => (readKey (n + 1) r).map fun (k, r') => ('(' :: k, r')
  | n, c :: r => (readKey n r).map fun (k, r') => (c :: k, r')

/-- The flag `c` set, or `none` when `c` is no flag. -/
def Flags.add (f : Flags) : Char → Option Flags
  | '-' => some { f with ljust := true }
  | '+' => some { f with sign := true }
  | ' ' => some { f with blank := true }
  | '#' => some { f with alt := true }
  | '0' => some { f with zero := true }
  | _ => none

/-- The flags at the front of the text, and the text after them. -/
def readFlags (f : Flags) : List Char → Flags × List Char
  | [] => (f, [])
  | c :: r => match f.add c with
    | some f' => readFlags f' r
    | none => (f, c :: r)

/-- The digits of a width or a precision after the first, `acc` so far: the
number, and the character after the digits with the text after it (`none`
when the text ends); a `ValueError` past `bound`. -/
def readNum (bound : Nat) : Nat → List Char → Except PyErr (Nat × Option (Char × List Char))
  | acc, [] => .ok (acc, none)
  | acc, c :: r =>
    if c.isDigit then
      if bound < acc * 10 + (c.toNat - 48) then .error (.valueError none)
      else readNum bound (acc * 10 + (c.toNat - 48)) r
    else .ok (acc, some (c, r))

/-- The next character and the text after it, `none` when the text ends. -/
def uncons : List Char → Option (Char × List Char)
  | [] => none
  | c :: r => some (c, r)

/-- A `*`: the argument, which must be an int. -/
def starArg (arg : FormatArg) : Except PyErr (Int × FormatArg) := do
  let (v, arg) ← arg.next
  match v with
  | .int i => pure (i, arg)
  | .bool b => pure (if b then 1 else 0, arg)
  | _ => .error .typeError

/-- The width: `*` takes it from the arguments (a negative one sets `-`),
digits give it, and anything else leaves it out. `ch` is the character after
the flags. -/
def readWidth (f : Flags) (arg : FormatArg) (ch : Char) (r : List Char) :
    Except PyErr (Flags × Option Nat × FormatArg × Option (Char × List Char)) :=
  if ch = '*' then do
    let (i, arg) ← starArg arg
    if i < -(ssizeMax : Int) - 1 ∨ (ssizeMax : Int) < i then .error .overflowError
    pure (if i < 0 then { f with ljust := true } else f, some i.natAbs, arg, uncons r)
  else if ch.isDigit then do
    let (w, next) ← readNum ssizeMax (ch.toNat - 48) r
    pure (f, some w, arg, next)
  else pure (f, none, arg, some (ch, r))

/-- The precision after a `.`: `*` takes it from the arguments (a negative one
is 0), digits give it, and no digit is 0. -/
def readPrec (arg : FormatArg) : Option (Char × List Char) →
    Except PyErr (Option Nat × FormatArg × Option (Char × List Char))
  | some ('.', r) =>
    match r with
    | [] => .ok (some 0, arg, none)
    | '*' :: r => do
      let (i, arg) ← starArg arg
      if i < -(intMax : Int) - 1 ∨ (intMax : Int) < i then .error .overflowError
      pure (some i.toNat, arg, uncons r)
    | c :: r =>
      if c.isDigit then do
        let (p, next) ← readNum intMax (c.toNat - 48) r
        pure (some p, arg, next)
      else .ok (some 0, arg, some (c, r))
  | next => .ok (none, arg, next)

/-- The length modifiers `h`, `l` and `L`, which are skipped. -/
def skipLength : Option (Char × List Char) → Option (Char × List Char)
  | some (c, r) => if c = 'h' ∨ c = 'l' ∨ c = 'L' then uncons r else some (c, r)
  | none => none

/-- `unicode_format_arg_parse` after the key: the specifier and the text after
its conversion; `incomplete format`, a `ValueError`, when the text ends. -/
def readSpec (arg : FormatArg) (r : List Char) : Except PyErr (Spec × FormatArg × List Char) := do
  let (f, r) := readFlags ⟨false, false, false, false, false⟩ r
  match r with
  | [] => .error (.valueError none)
  | ch :: r =>
    let (f, width, arg, next) ← readWidth f arg ch r
    let (prec, arg, next) ← readPrec arg next
    match skipLength next with
    | some (conv, r) => pure (⟨f, width, prec, conv⟩, arg, r)
    | none => .error (.valueError none)

/-! ## Conversions -/

/-- The exponent field of a double. -/
def PyFloat.expBits (x : PyFloat) : Nat := x.bits.toNat / 2 ^ 52 % 2 ^ 11

/-- The fraction field of a double. -/
def PyFloat.fracBits (x : PyFloat) : Nat := x.bits.toNat % 2 ^ 52

/-- `int(x)` of a float: its value toward zero; a `ValueError` for a NaN and
an `OverflowError` for an infinity. -/
def PyFloat.toInt (x : PyFloat) : Except PyErr Int :=
  if x.expBits = 2047 then .error (if x.fracBits = 0 then .overflowError else .valueError none)
  else
    let m := if x.expBits = 0 then x.fracBits else x.fracBits + 2 ^ 52
    let e := max x.expBits 1
    let n : Nat := if 1075 ≤ e then m * 2 ^ (e - 1075) else m / 2 ^ (1075 - e)
    .ok (if 2 ^ 63 ≤ x.bits.toNat then -(n : Int) else n)

/-- `PyLong_AsDouble`: the nearest double, as `float()` of the digits finds
it; an `OverflowError` from the first int that rounds to `2 ** 1024`. -/
def intFloat (py : Py) (i : Int) : Except PyErr PyFloat :=
  if 2 ^ 1024 - 2 ^ 970 ≤ i.natAbs then .error .overflowError
  else .ok (py.roundFloat (.num (decide (i < 0)) i.natAbs 0))

/-- `mainformatlong` with `_PyUnicode_FormatLong`: an int (a bool is one, a
float is taken toward zero for `d`, `i` and `u`) in base 10, 8 or 16, with at
least `prec` digits, `0o`, `0x` or `0X` before them under `#`, and upper case
for `X`. Only the decimal digits are held to the digit limit. -/
def formatLong (py : Py) (conv : Char) (alt : Bool) (prec : Option Nat) (v : PyVal) :
    Except PyErr (List Char) := do
  let hex := conv = 'x' ∨ conv = 'X'
  let i ← match v with
    | .int i => pure i
    | .bool b => pure (if b then 1 else 0)
    | .float x => if conv = 'o' ∨ hex then .error .typeError else x.toInt
    | _ => .error .typeError
  if intMax - 3 < prec.getD 0 then .error .overflowError
  let base := if conv = 'o' then 8 else if hex then 16 else 10
  let ds := Nat.toDigits base i.natAbs
  if base = 10 ∧ !py.digitsFit ds.length then .error (.valueError none)
  let pre := if alt ∧ base ≠ 10 then ['0', if base = 8 then 'o' else 'x'] else []
  let t := (if i < 0 then ['-'] else []) ++ pre ++ List.replicate (prec.getD 0 - ds.length) '0' ++ ds
  pure (if conv = 'X' then t.map Char.toUpper else t)

/-- `formatfloat`: `PyFloat_AsDouble` of the argument, written by the
runtime with precision 6 unless one is given. -/
def formatFloatArg (py : Py) (conv : Char) (alt : Bool) (prec : Option Nat) (v : PyVal) :
    Except PyErr (List Char) := do
  let x ← match v with
    | .float x => pure x
    | .int i => intFloat py i
    | .bool b => intFloat py (if b then 1 else 0)
    | _ => .error .typeError
  pure (py.formatFloat conv (prec.getD 6) alt x)

/-- `formatchar`: a str of one character, or an int that is a code point. -/
def formatChar (v : PyVal) : Except PyErr (List Char) :=
  let code (i : Int) : Except PyErr (List Char) :=
    if 0 ≤ i ∧ i ≤ 0x10ffff then .ok [Char.ofNat i.toNat] else .error .overflowError
  match v with
  | .str [c] => .ok [c]
  | .int i => code i
  | .bool b => code (if b then 1 else 0)
  | _ => .error .typeError

/-- One character of `ascii()`: past ASCII, its code in hex after `\x`, `\u`
or `\U`. -/
def asciiChar (c : Char) : List Char :=
  if c.toNat < 128 then [c]
  else if c.toNat < 0x100 then '\\' :: 'x' :: PyVal.hexPad 2 c.toNat
  else if c.toNat < 0x10000 then '\\' :: 'u' :: PyVal.hexPad 4 c.toNat
  else '\\' :: 'U' :: PyVal.hexPad 8 c.toNat

/-- `ascii(v)`: `repr(v)` with every character past ASCII escaped. -/
def pyAscii (py : Py) (v : PyVal) : Except PyErr (List Char) :=
  (·.flatMap asciiChar) <$> PyVal.pyRepr py v

/-- `unicode_format_arg_format`: the text of one conversion. An int given to
`s`, `r` or `a` with no width and no precision is written directly, with no
call of `str()`; an unknown conversion is a `ValueError`. -/
def convert (py : Py) (spec : Spec) (v : PyVal) : Except PyErr (List Char) :=
  match spec.conv with
  | 's' | 'r' | 'a' =>
    match v, spec.width, spec.prec with
    | .int i, none, none => if py.digitsFit (intDigits i) then .ok (intStr i) else .error (.valueError none)
    | v, _, _ => if spec.conv = 's' then PyVal.pyStr py v else if spec.conv = 'r' then PyVal.pyRepr py v else pyAscii py v
  | 'd' | 'i' | 'u' | 'o' | 'x' | 'X' => formatLong py spec.conv spec.flags.alt spec.prec v
  | 'e' | 'E' | 'f' | 'F' | 'g' | 'G' => formatFloatArg py spec.conv spec.flags.alt spec.prec v
  | 'c' => formatChar v
  | _ => .error (.valueError none)

/-- The conversions that write a number, whose sign goes before a zero fill. -/
def Spec.numeric (spec : Spec) : Bool := spec.conv ∈ "diuoxXeEfFgG".toList

/-- The sign of a number's text: its own `-`, else `+` or a space under those
flags; and the rest of the text. -/
def signOf (f : Flags) : List Char → List Char × List Char
  | c :: t => if c = '-' ∨ c = '+' then ([c], t)
    else if f.sign then (['+'], c :: t) else if f.blank then ([' '], c :: t) else ([], c :: t)
  | [] => if f.sign then (['+'], []) else if f.blank then ([' '], []) else ([], [])

/-- `unicode_format_arg_output`: the precision cuts the text of `s`, `r` and
`a`; a number's sign and its `0x` or `0o` prefix go before a zero fill; the
rest of the width is filled on the left, or on the right under `-`. -/
def layout (spec : Spec) (text : List Char) : List Char :=
  let text := if spec.conv = 's' ∨ spec.conv = 'r' ∨ spec.conv = 'a' then
    (match spec.prec with | some p => text.take p | none => text) else text
  let (sign, body) := if spec.numeric then signOf spec.flags text else ([], text)
  let (pre, body) := if spec.flags.alt ∧ (spec.conv = 'x' ∨ spec.conv = 'X' ∨ spec.conv = 'o') then
    (body.take 2, body.drop 2) else ([], body)
  let pad := spec.width.getD 0 - (sign.length + pre.length + body.length)
  if spec.flags.ljust then sign ++ pre ++ body ++ List.replicate pad ' '
  else if spec.numeric ∧ spec.flags.zero then sign ++ pre ++ List.replicate pad '0' ++ body
  else List.replicate pad ' ' ++ sign ++ pre ++ body

/-! ## The formatter -/

/-- `PyUnicode_Format(template, mapping)` for a dict: `%%` is a `%`; a
`%(key)` makes the dict's value under the balanced key the argument (a
`KeyError` when it has none); each other specifier formats the argument. The
fuel is the length of the text, which each step shortens. -/
def pyFormat (py : Py) (kvs : List (List Char × PyVal)) (template : List Char) : Except PyErr (List Char) :=
  go template.length ⟨.dict kvs, false⟩ template
where
  go : Nat → FormatArg → List Char → Except PyErr (List Char)
    | 0, _, s => .ok s
    | _ + 1, _, [] => .ok []
    | n + 1, arg, '%' :: '%' :: rest => ('%' :: ·) <$> go n arg rest
    | n + 1, arg, '%' :: rest => do
      let (arg, rest) ← match rest with
        | '(' :: r => do
          let (key, r) ← (readKey 0 r).elim (.error (.valueError none)) .ok
          let v ← (kvs.lookup key).elim (.error .keyError) .ok
          pure (⟨v, false⟩, r)
        | r => pure (arg, r)
      let (spec, arg, rest) ← readSpec arg rest
      let (v, arg) ← arg.next
      let text ← convert py spec v
      (layout spec text ++ ·) <$> go n arg rest
    | n + 1, arg, c :: rest => (c :: ·) <$> go n arg rest

/-! ## Templates of text and placeholders -/

section Steps

variable (py : Py) (kvs : List (List Char × PyVal))

end Steps

/-- A piece of a template: text, or a placeholder `%(key)s`. -/
inductive Piece where
  | text (w : List Char)
  | key (k : List Char)

/-- `%(key)s`. -/
def placeholder (k : List Char) : List Char := '%' :: '(' :: (k ++ [')', 's'])

def Piece.template : Piece → List Char
  | .text w => w
  | .key k => placeholder k

/-- What `%` makes of a piece: the text itself, or `str()` of the value under
the key. -/
def Piece.bind (py : Py) (kvs : List (List Char × PyVal)) : Piece → Except PyErr (List Char)
  | .text w => .ok w
  | .key k => (kvs.lookup k).elim (.error .keyError) (PyVal.pyStr py)

section Pieces

variable (py : Py) (kvs : List (List Char × PyVal))

end Pieces

end ormdb.py
