-- `re.match` as the four patterns of the cursor use it: literal text, greedy
-- repetitions of a character class, alternatives and groups, tried by
-- backtracking in the order of sre, anchored at the start only.
import Ormdb.PyText

namespace ormdb.regex

open ormdb.py

/-- A character class: `\w`, `\s`, `.`, `[...]` and `[^...]`. -/
inductive Cls where
  | word
  | space
  | dot
  | anyOf (cs : List Char)
  | noneOf (cs : List Char)

/-- A pattern: literal text, a greedy repetition `c{lo,hi}` of a class (`*`,
`+` and `?`), a sequence, an alternative, and a capturing group. -/
inductive Re where
  | lit (s : List Char)
  | rep (c : Cls) (lo : Nat) (hi : Option Nat)
  | seq (a b : Re)
  | alt (a b : Re)
  | group (a : Re)

section Match

variable (py : Py) (ic : Bool)

/-- Whether the pattern character `p` matches `c`, by case under
`re.IGNORECASE`. -/
def charEq (p c : Char) : Bool := if ic then py.caseEq p c else p == c

/-- Whether `c` is in the class. -/
def Cls.test : Cls → Char → Bool
  | .word, c => py.isword c
  | .space, c => py.isspace c
  | .dot, c => c != '\n'
  | .anyOf cs, c => cs.any (charEq py ic · c)
  | .noneOf cs, c => !cs.any (charEq py ic · c)

/-- How many characters a greedy `c{lo,hi}` takes first: the longest run of
the class at the start of `s`, cut at `hi`. -/
def Cls.run (k : Cls) (hi : Option Nat) (s : List Char) : Nat :=
  let n := (s.takeWhile (k.test py ic)).length
  match hi with
  | some h => min n h
  | none => n

/-- The literal text `p` at the start of `s`: the rest of `s`. -/
def eatLit : List Char → List Char → Option (List Char)
  | [], s => some s
  | _ :: _, [] => none
  | p :: ps, c :: s => if charEq py ic p c then eatLit ps s else none

/-- A greedy repetition that took `n` characters gives them back one at a
time: it tries the continuation after `n`, `n - 1`, ..., `lo` characters. -/
def backoff {α : Type} (k : List Char → Option α) (s : List Char) (lo : Nat) : Nat → Option α
  | 0 => if lo = 0 then k s else none
  | n + 1 => if lo ≤ n + 1 then (k (s.drop (n + 1))).orElse fun _ => backoff k s lo n else none

/-- Matching in continuation-passing style: `r.go k s g` matches `r` at the
start of `s`, the groups `g` captured so far, and hands what is left of `s`
and the groups to `k`. The first success in the order of sre wins. -/
def Re.go {α : Type} :
    Re → (List Char → List (List Char) → Option α) → List Char → List (List Char) → Option α
  | .lit p, k, s, g => (eatLit py ic p s).bind (k · g)
  | .rep c lo hi, k, s, g => backoff (k · g) s lo (c.run py ic hi s)
  | .seq a b, k, s, g => a.go (fun t g' => b.go k t g') s g
  | .alt a b, k, s, g => (a.go k s g).orElse fun _ => b.go k s g
  | .group a, k, s, g => a.go (fun t g' => k t (g' ++ [s.take (s.length - t.length)])) s g

/-- `re.match(pattern, s, flags)`: the groups of the first match at the
start of `s`, in order; `none` when there is no match. -/
def rematch (r : Re) (s : List Char) : Option (List (List Char)) :=
  r.go py ic (fun _ g => some g) s []

end Match

/-! ## Building patterns -/

/-- A sequence of patterns. -/
def Re.chain : List Re → Re
  | [] => .lit []
  | [r] => r
  | r :: rs => .seq r (Re.chain rs)

/-- Alternatives of literal texts, tried left to right. -/
def Re.anyLit : List (List Char) → Re
  | [] => .rep (.anyOf []) 1 none
  | [s] => .lit s
  | s :: ss => .alt (.lit s) (Re.anyLit ss)

/-- `\s*` -/
def spaces : Re := .rep .space 0 none

/-- `\s+` -/
def spaces1 : Re := .rep .space 1 none

/-- `\w+` -/
def word1 : Re := .rep .word 1 none

/-- `.+` -/
def dots1 : Re := .rep .dot 1 none

/-- `c?` -/
def opt (c : Cls) : Re := .rep c 0 (some 1)

/-! ## Equations -/

section Equations

variable (py : Py) (ic : Bool) {α : Type} (k : List Char → List (List Char) → Option α)
  (s : List Char) (g : List (List Char))

theorem go_lit (p : List Char) : (Re.lit p).go py ic k s g = (eatLit py ic p s).bind (k · g) := rfl

theorem go_rep (c : Cls) (lo : Nat) (hi : Option Nat) :
    (Re.rep c lo hi).go py ic k s g = backoff (k · g) s lo (c.run py ic hi s) := rfl

theorem go_seq (a b : Re) : (Re.seq a b).go py ic k s g = a.go py ic (fun t g' => b.go py ic k t g') s g :=
  rfl

theorem go_alt (a b : Re) :
    (Re.alt a b).go py ic k s g = (a.go py ic k s g).orElse fun _ => b.go py ic k s g := rfl

theorem go_group (a : Re) :
    (Re.group a).go py ic k s g = a.go py ic (fun t g' => k t (g' ++ [s.take (s.length - t.length)])) s g :=
  rfl

end Equations

end ormdb.regex
