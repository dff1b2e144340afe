-- How the patterns of the cursor match the statements they are written for:
-- each element matches on its first try, so `re.match` returns the groups as
-- the statement has them; where a greedy repetition must give characters
-- back, every longer try fails first.
import Ormdb.Regex

namespace ormdb.regex

open ormdb.py

/-! ## Characters under `re.IGNORECASE` -/

section Chars

variable (py : Py)

/-- A quote or a closing parenthesis matches itself only, in any case. -/
theorem caseEq_quote_paren {p : Char} (hp : p ∈ [')', '\'', '"']) (c : Char) :
    py.caseEq p c = (p == c) := by
  have hα : p.toNat < 128 ∧ p.isAlpha = false := by
    simp only [List.mem_cons, List.mem_singleton, List.not_mem_nil, or_false] at hp
    rcases hp with rfl | rfl | rfl <;> decide
  unfold Py.caseEq
  by_cases hc : c.toNat < 128
  · rw [if_pos ⟨hα.1, hc⟩]
    have key : ∀ q ∈ [')', '\'', '"'], ∀ n : Fin 128,
        (q.toLower == (Char.ofNat n).toLower) = (q == Char.ofNat n) := by decide
    simpa using key p hp ⟨c.toNat, hc⟩
  · rw [if_neg (fun h => hc h.2), if_pos ⟨hα.1, by simp [hα.2]⟩]

theorem caseEq_self {c : Char} (h : c.toNat < 128) : py.caseEq c c = true := by
  simp [Py.caseEq, h]

/-- Two ASCII characters match when their lower cases agree. -/
theorem caseEq_ascii {p c : Char} (hp : p.toNat < 128) (hc : c.toNat < 128) :
    py.caseEq p c = (p.toLower == c.toLower) := by
  simp [Py.caseEq, hp, hc]

@[simp] theorem test_noneOf_quotes (c : Char) :
    (Cls.noneOf ['\'', '"']).test py true c = (c != '\'' && c != '"') := by
  simp only [Cls.test, charEq, if_true, List.any_cons, List.any_nil, Bool.or_false,
    caseEq_quote_paren py (p := '\'') (by simp), caseEq_quote_paren py (p := '"') (by simp),
    Bool.beq_comm (a := '\''), Bool.beq_comm (a := '"'), Bool.not_or]
  rfl

@[simp] theorem test_anyOf_quotes (c : Char) :
    (Cls.anyOf ['\'', '"']).test py true c = (c == '\'' || c == '"') := by
  simp only [Cls.test, charEq, if_true, List.any_cons, List.any_nil, Bool.or_false,
    caseEq_quote_paren py (p := '\'') (by simp), caseEq_quote_paren py (p := '"') (by simp),
    Bool.beq_comm (a := '\''), Bool.beq_comm (a := '"')]

end Chars

/-! ## Greedy runs -/

section Run

variable (py : Py) (ic : Bool)

/-- The run of a class over `w ++ rest`, where every character of `w` is in the
class and the first of `rest` is not, is `w`. -/
theorem Cls.takeWhile_append {k : Cls} {w rest : List Char} (hw : ∀ x ∈ w, k.test py ic x)
    (hr : ∀ x ∈ rest.head?, k.test py ic x = false) :
    (w ++ rest).takeWhile (k.test py ic) = w := by
  rw [List.takeWhile_append_of_pos hw]
  cases rest with
  | nil => simp
  | cons x rest => simp [List.takeWhile_cons, hr x rfl]

theorem Cls.run_append {k : Cls} {w rest : List Char} (hw : ∀ x ∈ w, k.test py ic x)
    (hr : ∀ x ∈ rest.head?, k.test py ic x = false) : k.run py ic none (w ++ rest) = w.length := by
  simp [Cls.run, Cls.takeWhile_append py ic hw hr]

/-- A greedy repetition tries its longest run first. -/
theorem backoff_top {α : Type} {k : List Char → Option α} {s : List Char} {lo n : Nat} {a : α}
    (hlo : lo ≤ n) (hk : k (s.drop n) = some a) : backoff k s lo n = some a := by
  cases n with
  | zero => simpa [backoff, Nat.le_zero.mp hlo] using hk
  | succ n => simp [backoff, hlo, hk]

/-- Tries that all fail leave the repetition where it was before them. -/
theorem backoff_skip {α : Type} {k : List Char → Option α} {s : List Char} {lo m : Nat} (hlo : lo ≤ m) :
    ∀ n, m ≤ n → (∀ i, m < i → i ≤ n → k (s.drop i) = none) → backoff k s lo n = backoff k s lo m
  | 0, hmn, _ => by rw [Nat.le_zero.mp hmn]
  | n + 1, hmn, hk => by
    rcases Nat.lt_or_eq_of_le hmn with h | h
    · rw [backoff, if_pos (by omega), hk (n + 1) h le_rfl]
      exact backoff_skip hlo n (by omega) fun i hi hin => hk i hi (by omega)
    · rw [h]

/-- Tries that all fail make the repetition fail. -/
theorem backoff_none {α : Type} {k : List Char → Option α} {s : List Char} {lo : Nat} :
    ∀ n, (∀ i, lo ≤ i → i ≤ n → k (s.drop i) = none) → backoff k s lo n = none
  | 0, hk => by
    rw [backoff]
    split_ifs with h
    · exact hk 0 (by omega) le_rfl
    · rfl
  | n + 1, hk => by
    rw [backoff]
    split_ifs with h
    · rw [hk (n + 1) h le_rfl]
      exact backoff_none n fun i hi hin => hk i hi (by omega)
    · rfl

end Run

/-! ## First tries -/

section FirstTry

variable (py : Py) (ic : Bool)

/-- `r` matches `w` at the start of `w ++ rest` on its first try, capturing
`caps`: whatever the continuation returns on `rest`, the match returns. -/
def FirstTry (r : Re) (w rest : List Char) (caps : List (List Char)) : Prop :=
  ∀ (α : Type) (k : List Char → List (List Char) → Option α) (g : List (List Char)) (a : α),
    k rest (g ++ caps) = some a → r.go py ic k (w ++ rest) g = some a

variable {py ic}

theorem FirstTry.lit {p w rest : List Char} (h : eatLit py ic p (w ++ rest) = some rest) :
    FirstTry py ic (.lit p) w rest [] := by
  intro α k g a hk
  simpa [go_lit, h] using hk

theorem FirstTry.rep {c : Cls} {lo : Nat} {hi : Option Nat} {w rest : List Char}
    (h : c.run py ic hi (w ++ rest) = w.length) (hlo : lo ≤ w.length) :
    FirstTry py ic (.rep c lo hi) w rest [] := by
  intro α k g a hk
  rw [go_rep, h]
  exact backoff_top hlo (by simpa using hk)

theorem FirstTry.seq {a b : Re} {w₁ w₂ rest : List Char} {c₁ c₂ : List (List Char)}
    (ha : FirstTry py ic a w₁ (w₂ ++ rest) c₁) (hb : FirstTry py ic b w₂ rest c₂) :
    FirstTry py ic (.seq a b) (w₁ ++ w₂) rest (c₁ ++ c₂) := by
  intro α k g x hk
  rw [go_seq, List.append_assoc]
  exact ha _ _ g x (hb _ k _ x (by simpa using hk))

theorem FirstTry.group {a : Re} {w rest : List Char} {c : List (List Char)} (ha : FirstTry py ic a w rest c) :
    FirstTry py ic (.group a) w rest (c ++ [w]) := by
  intro α k g x hk
  rw [go_group]
  refine ha _ _ g x ?_
  simpa [List.take_left'] using hk

theorem FirstTry.alt_left {a b : Re} {w rest : List Char} {c : List (List Char)}
    (ha : FirstTry py ic a w rest c) : FirstTry py ic (.alt a b) w rest c := by
  intro α k g x hk
  rw [go_alt, ha _ k g x hk]
  rfl

theorem FirstTry.alt_right {a b : Re} {w rest : List Char} {c : List (List Char)}
    (ha : ∀ {α : Type} (k : List Char → List (List Char) → Option α) g, a.go py ic k (w ++ rest) g = none)
    (hb : FirstTry py ic b w rest c) : FirstTry py ic (.alt a b) w rest c := by
  intro α k g x hk
  rw [go_alt, ha k g, hb _ k g x hk]
  rfl

/-- A match whose every element matches on its first try. -/
theorem rematch_of_firstTry {r : Re} {w rest : List Char} {caps : List (List Char)}
    (h : FirstTry py ic r w rest caps) : rematch py ic r (w ++ rest) = some caps :=
  h _ _ [] caps rfl

/-- An ASCII literal matches itself. -/
theorem eatLit_self {p : List Char} (hp : ∀ c ∈ p, c.toNat < 128) (rest : List Char) :
    eatLit py true p (p ++ rest) = some rest := by
  induction p with
  | nil => rfl
  | cons c p ih =>
    simp only [List.cons_append, eatLit, charEq, if_true, caseEq_self py (hp c (List.mem_cons_self _ _))]
    exact ih fun x hx => hp x (List.mem_cons_of_mem _ hx)

theorem FirstTry.lit_self {p : List Char} (hp : ∀ c ∈ p, c.toNat < 128) (rest : List Char) :
    FirstTry py true (.lit p) p rest [] :=
  FirstTry.lit (eatLit_self hp rest)

/-- A greedy repetition takes the whole run of its class. -/
theorem FirstTry.run {c : Cls} {lo : Nat} {w rest : List Char} (hw : ∀ x ∈ w, c.test py ic x)
    (hr : ∀ x ∈ rest.head?, c.test py ic x = false) (hlo : lo ≤ w.length) :
    FirstTry py ic (.rep c lo none) w rest [] :=
  FirstTry.rep (Cls.run_append py ic hw hr) hlo

/-- `(c*)` followed by `b`, where the greedy run goes `m` characters past `w`
and `b` fails after each of them: the repetition gives them back, and `b` goes
on after `w`. -/
theorem FirstTry.seq_group_rep_back {c : Cls} {lo m : Nat} {b : Re} {w v rest : List Char}
    {caps : List (List Char)} (hrun : c.run py ic none (w ++ v ++ rest) = w.length + m) (hlo : lo ≤ w.length)
    (hfail : ∀ j, 0 < j → j ≤ m → ∀ (α : Type) (k : List Char → List (List Char) → Option α) g,
      b.go py ic k ((v ++ rest).drop j) g = none)
    (hb : FirstTry py ic b v rest caps) :
    FirstTry py ic (.seq (.group (.rep c lo none)) b) (w ++ v) rest (w :: caps) := by
  intro α k g x hk
  rw [go_seq, go_group, go_rep, hrun, backoff_skip hlo _ (Nat.le_add_right _ _) fun i hi hin => ?_]
  · refine backoff_top hlo ?_
    simp only [List.append_assoc, List.drop_left, List.length_append, Nat.add_sub_cancel, List.take_left]
    exact hb _ k _ x (by simpa using hk)
  · have hdrop : (w ++ v ++ rest).drop i = (v ++ rest).drop (i - w.length) := by
      rw [List.append_assoc, List.drop_append_eq_append_drop, List.drop_eq_nil_of_le (by omega), List.nil_append]
    rw [hdrop]
    exact hfail _ (by omega) (by omega) _ _ _

/-- `\s+` then a literal fails on text that starts with no space, or where no
character can start the literal. -/
theorem go_spaces1_lit_none {p : Char} {ps : List Char} {r : Re} {u : List Char}
    (hu : (∀ x ∈ u.head?, py.isspace x = false) ∨ ∀ x ∈ u, charEq py ic p x = false)
    {α : Type} (k : List Char → List (List Char) → Option α) (g : List (List Char)) :
    (Re.seq spaces1 (.seq (.lit (p :: ps)) r)).go py ic k u g = none := by
  rw [spaces1, go_seq, go_rep]
  refine backoff_none _ fun i hi hin => ?_
  rcases hu with hu | hu
  · have : Cls.run py ic .space none u = 0 := by
      cases u with
      | nil => rfl
      | cons x u => simp [Cls.run, List.takeWhile_cons, Cls.test, hu x rfl]
    omega
  · rw [go_seq, go_lit]
    cases hd : u.drop i with
    | nil => rfl
    | cons x t =>
      have hx : x ∈ u := List.mem_of_mem_drop (n := i) (by rw [hd]; exact List.mem_cons_self _ _)
      simp [eatLit, hu x hx]

/-- `\s+` over a single space: the match goes on after the space, and only
there. -/
theorem go_spaces1_single {t : List Char} (ht : ∀ x ∈ t.head?, py.isspace x = false) {α : Type}
    (k : List Char → List (List Char) → Option α) (g : List (List Char)) :
    spaces1.go py ic k (' ' :: t) g = k t g := by
  have hrun : Cls.space.run py ic none ([' '] ++ t) = 1 :=
    Cls.run_append py ic (fun x hx => by rw [List.mem_singleton.mp hx]; rfl) ht
  rw [spaces1, go_rep, show ' ' :: t = [' '] ++ t from rfl, hrun]
  show (k t g).orElse (fun _ => none) = k t g
  cases k t g <;> rfl

/-- A repetition of one character or more fails where its class does not start
the text. -/
theorem go_rep_one_none {c : Cls} {s : List Char} (hs : ∀ x ∈ s.head?, c.test py ic x = false) {α : Type}
    (k : List Char → List (List Char) → Option α) (g : List (List Char)) :
    (Re.rep c 1 none).go py ic k s g = none := by
  rw [go_rep, show c.run py ic none s = 0 from Cls.run_append py ic (w := []) (fun _ h => nomatch h) hs]
  rfl

theorem chain_cons_cons (r r' : Re) (rs : List Re) : Re.chain (r :: r' :: rs) = .seq r (Re.chain (r' :: rs)) :=
  rfl

end FirstTry

end ormdb.regex
