-- The statements as their grammar writes them: identifiers, literals, and
-- comma-separated lists; and what the string methods of the parsers make of
-- them: `strip` leaves them whole, `split(",")` gives back the items, and the
-- quote-aware scan of `_parse_value_list` gives back the literals.
import Ormdb.Mutation
import Ormdb.RegexLaws

namespace ormdb.dbapi

open ormdb.py ormdb.regex

/-! ## The grammar -/

/-- An identifier: a non-empty run of the characters of `\w`, in any script. -/
def Ident (py : Py) (w : List Char) : Prop := w ≠ [] ∧ ∀ c ∈ w, py.isword c = true

instance (py : Py) (w : List Char) : Decidable (Ident py w) := inferInstanceAs (Decidable (_ ∧ _))

/-- An ASCII `\w+` word is an identifier in every interpreter. -/
theorem Ident.of_ascii (py : Py) {w : List Char} (hne : w ≠ [])
    (h : ∀ c ∈ w, c.toNat < 128 ∧ (c.isAlphanum || c == '_') = true) : Ident py w :=
  ⟨hne, fun c hc => by rw [Py.isword, if_pos (h c hc).1]; exact (h c hc).2⟩

/-- A character of a bare literal: printable ASCII other than a space, a quote,
a comma or a parenthesis. -/
def bareChar (c : Char) : Bool :=
  32 < c.toNat && c.toNat < 127 && !(['\'', '"', ',', '(', ')'].contains c)

/-- A literal of the statements: a string in quotes, or a bare token (a numeral,
`NULL`, `TRUE`, `FALSE` or a word). -/
inductive Lit where
  | quoted (q : Char) (body : List Char)
  | bare (t : List Char)
  deriving DecidableEq

/-- The literal as the statement writes it. -/
def Lit.text : Lit → List Char
  | .quoted q body => q :: body ++ [q]
  | .bare t => t

/-- A literal of the grammar: a quoted string holds anything but its own quote;
a bare token is a non-empty run of bare characters. -/
def Lit.wf : Lit → Bool
  | .quoted q body => (q == '\'' || q == '"') && !body.contains q
  | .bare t => !t.isEmpty && t.all bareChar

/-- `a, b, c`. -/
def commaList (xs : List (List Char)) : List Char := ", ".toList.intercalate xs

/-! ## Characters -/

/-- A word character is none of the characters that are not. -/
theorem ne_of_isword {py : Py} {c d : Char} (hc : py.isword c = true) (hd : py.isword d = false) : c ≠ d := by
  rintro rfl
  rw [hc] at hd
  cases hd

/-- An identifier holds no character outside `\w`. -/
theorem Ident.not_mem {py : Py} {w : List Char} (hw : Ident py w) {d : Char} (hd : py.isword d = false) : d ∉ w :=
  fun h => ne_of_isword (hw.2 d h) hd rfl

section Space

variable (py : Py)

/-- A word character is never whitespace: in ASCII by the tables, past it by
the runtime's law. -/
theorem isspace_of_isword {c : Char} (h : py.isword c = true) : py.isspace c = false := by
  by_cases ha : c.toNat < 128
  · have key : ∀ n : Fin 128, ((Char.ofNat n).isAlphanum || Char.ofNat n == '_') = true →
        decide ((Char.ofNat n).toNat ∈ [9, 10, 11, 12, 13, 28, 29, 30, 31, 32]) = false := by decide
    rw [isspace_ascii py ha]
    simp only [Py.isword, ha, if_true] at h
    simpa using key ⟨c.toNat, ha⟩ (by simpa using h)
  · simp only [Py.isword, Py.isspace, ha, if_false] at h ⊢
    exact py.alnum_not_space c h

theorem isspace_bare {c : Char} (h : bareChar c = true) : py.isspace c = false := by
  simp only [bareChar, Bool.and_eq_true, decide_eq_true_eq] at h
  rw [isspace_ascii py (by omega)]
  simp only [decide_eq_false_iff_not, List.mem_cons, List.mem_singleton, List.not_mem_nil, or_false]
  omega

theorem isspace_quote {q : Char} (hq : (q == '\'' || q == '"') = true) : py.isspace q = false := by
  simp only [Bool.or_eq_true, beq_iff_eq] at hq
  rcases hq with rfl | rfl <;> rfl

theorem isspace_space : py.isspace ' ' = true := rfl

end Space

/-! ## The elements of the patterns -/

section Elements

variable (py : Py)

theorem Ident.head_not_space {w : List Char} (hw : Ident py w) (rest : List Char) :
    ∀ x ∈ (w ++ rest).head?, py.isspace x = false := by
  intro x hx
  rw [List.head?_append_of_ne_nil _ hw.1] at hx
  exact isspace_of_isword py (hw.2 x (List.mem_of_mem_head? hx))

/-- `\s+` over one space. -/
theorem firstTry_spaces1 (rest : List Char) (hr : ∀ x ∈ rest.head?, py.isspace x = false) :
    FirstTry py true spaces1 [' '] rest [] :=
  FirstTry.run (by simp [Cls.test, isspace_space]) hr le_rfl

/-- `\s*` over one space. -/
theorem firstTry_spaces (rest : List Char) (hr : ∀ x ∈ rest.head?, py.isspace x = false) :
    FirstTry py true spaces [' '] rest [] :=
  FirstTry.run (by simp [Cls.test, isspace_space]) hr (Nat.zero_le _)

/-- `(\w+)` over an identifier. -/
theorem firstTry_word1 {w : List Char} (hw : Ident py w) (rest : List Char)
    (hr : ∀ x ∈ rest.head?, py.isword x = false) : FirstTry py true (.group word1) w rest [w] :=
  (FirstTry.run (c := .word) hw.2 hr (List.length_pos.mpr hw.1)).group

end Elements

/-! ## `strip` -/

section Strip

variable (py : Py)

/-- Text that neither starts nor ends with whitespace is its own `strip()`. -/
theorem strip_of_ends {t : List Char} (h₁ : ∀ c ∈ t.head?, py.isspace c = false)
    (h₂ : ∀ c ∈ t.getLast?, py.isspace c = false) : strip py t = t := by
  cases t with
  | nil => rfl
  | cons c t =>
    have hd : (c :: t).dropWhile py.isspace = c :: t := by simp [List.dropWhile_cons, h₁ c rfl]
    have hr : (c :: t).reverse.dropWhile py.isspace = (c :: t).reverse := by
      cases hrev : (c :: t).reverse with
      | nil => simp at hrev
      | cons d r =>
        have : d ∈ (c :: t).getLast? := by
          rw [List.getLast?_eq_head?_reverse, hrev]; rfl
        simp [List.dropWhile_cons, h₂ d this]
    simp only [strip, hd, hr, List.reverse_reverse]

/-- Leading whitespace goes. -/
theorem strip_spaces_append {sp t : List Char} (hs : ∀ c ∈ sp, py.isspace c = true) :
    strip py (sp ++ t) = strip py t := by
  simp [strip, List.dropWhile_append, List.dropWhile_eq_nil_iff.mpr hs]

theorem strip_space_cons (t : List Char) : strip py (' ' :: t) = strip py t := by
  show strip py ([' '] ++ t) = _
  exact strip_spaces_append py (by simp [isspace_space])

/-- Trailing whitespace goes. -/
theorem strip_append_spaces {sp t : List Char} (hs : ∀ c ∈ sp, py.isspace c = true) :
    strip py (t ++ sp) = strip py t := by
  have hsp : sp.dropWhile py.isspace = [] := List.dropWhile_eq_nil_iff.mpr hs
  have hrev : sp.reverse.dropWhile py.isspace = [] := List.dropWhile_eq_nil_iff.mpr (by simpa using hs)
  simp only [strip, List.dropWhile_append]
  split
  · rename_i h
    simp [hsp, List.isEmpty_iff.mp h]
  · simp [List.reverse_append, List.dropWhile_append, hrev]

/-- The conditions of a well-formed literal, one by one. -/
theorem Lit.wf_quoted {q : Char} {body : List Char} (hl : (Lit.quoted q body).wf = true) :
    (q = '\'' ∨ q = '"') ∧ q ∉ body := by
  simp only [Lit.wf, Bool.and_eq_true, Bool.or_eq_true, beq_iff_eq] at hl
  exact ⟨hl.1, by simpa using hl.2⟩

theorem Lit.wf_bare {t : List Char} (hl : (Lit.bare t).wf = true) : t ≠ [] ∧ ∀ c ∈ t, bareChar c = true := by
  simp only [Lit.wf, Bool.and_eq_true, List.all_eq_true] at hl
  exact ⟨by simpa using hl.1, hl.2⟩

theorem getLast?_quoted (q : Char) (body : List Char) : (q :: (body ++ [q])).getLast? = some q := by
  rw [← List.cons_append, List.getLast?_concat]

/-- A literal is its own `strip()`. -/
theorem strip_lit {l : Lit} (hl : l.wf = true) : strip py l.text = l.text := by
  cases l with
  | quoted q body =>
    have hq : py.isspace q = false := by
      rcases (Lit.wf_quoted hl).1 with rfl | rfl <;> rfl
    apply strip_of_ends py
    · simpa [Lit.text] using hq
    · intro c hc
      rw [Lit.text, List.cons_append, getLast?_quoted] at hc
      cases hc
      exact hq
  | bare t =>
    have hl := Lit.wf_bare hl
    apply strip_of_ends py
    · intro c hc
      exact isspace_bare py (hl.2 c (List.mem_of_mem_head? hc))
    · intro c hc
      exact isspace_bare py (hl.2 c (List.mem_of_mem_getLast? hc))

/-- An identifier is its own `strip()`. -/
theorem strip_ident {w : List Char} (hw : Ident py w) : strip py w = w := by
  apply strip_of_ends py
  · intro c hc
    exact isspace_of_isword py (hw.2 c (List.mem_of_mem_head? hc))
  · intro c hc
    exact isspace_of_isword py (hw.2 c (List.mem_of_mem_getLast? hc))

end Strip

/-! ## Comma-separated lists -/

theorem commaList_singleton (a : List Char) : commaList [a] = a := by
  simp [commaList, List.intercalate]

theorem intercalate_cons_cons (sep a b : List Char) (l : List (List Char)) :
    sep.intercalate (a :: b :: l) = a ++ sep ++ sep.intercalate (b :: l) := by
  simp [List.intercalate, List.intersperse_cons_cons]

theorem intercalate_cons_head (sep b : List Char) (x : Char) (l : List (List Char)) :
    sep.intercalate ((x :: b) :: l) = x :: sep.intercalate (b :: l) := by
  cases l <;> simp [List.intercalate, List.intersperse_cons_cons]

theorem commaList_cons_cons (a b : List Char) (l : List (List Char)) :
    commaList (a :: b :: l) = a ++ ", ".toList ++ commaList (b :: l) :=
  intercalate_cons_cons _ _ _ _

/-- `a, b, c` is `a,` ` b,` ` c` joined at the commas. -/
theorem commaList_eq (a : List Char) (l : List (List Char)) :
    commaList (a :: l) = [','].intercalate (a :: l.map (' ' :: ·)) := by
  induction l generalizing a with
  | nil => simp [commaList_singleton, List.intercalate]
  | cons b l ih =>
    rw [commaList_cons_cons, ih, List.map_cons, intercalate_cons_cons, intercalate_cons_head]
    simp

/-- A list starts with its first item. -/
theorem commaList_cons_eq_append (x : List Char) (xs : List (List Char)) : ∃ t, commaList (x :: xs) = x ++ t := by
  cases xs with
  | nil => exact ⟨[], by rw [commaList_singleton, List.append_nil]⟩
  | cons y ys => exact ⟨_, by rw [commaList_cons_cons, List.append_assoc]⟩

/-- A character in no item, and no comma or space, is not in the list. -/
theorem not_mem_commaList {c : Char} (hc : c ≠ ',') (hs : c ≠ ' ') :
    ∀ {xs : List (List Char)}, (∀ x ∈ xs, c ∉ x) → c ∉ commaList xs
  | [], _ => by simp [commaList, List.intercalate]
  | [a], h => by rw [commaList_singleton]; exact h a (List.mem_singleton_self _)
  | a :: b :: l, h => by
    rw [commaList_cons_cons]
    simp only [List.mem_append, not_or]
    refine ⟨⟨h a (List.mem_cons_self _ _), by simp [hc, hs]⟩, ?_⟩
    exact not_mem_commaList hc hs fun x hx => h x (List.mem_cons_of_mem _ hx)

section Split

variable (py : Py)

/-- `split(",")` of a comma-separated list of items without commas. -/
theorem split_commaList {a : List Char} {l : List (List Char)} (h : ∀ x ∈ a :: l, ',' ∉ x) :
    split ',' (commaList (a :: l)) = a :: l.map (' ' :: ·) := by
  rw [split, commaList_eq]
  refine List.splitOn_intercalate _ ',' ?_ (List.cons_ne_nil _ _)
  intro x hx
  rcases List.mem_cons.mp hx with rfl | hx
  · exact h _ (List.mem_cons_self _ _)
  · obtain ⟨y, hy, rfl⟩ := List.mem_map.mp hx
    simpa using h y (List.mem_cons_of_mem _ hy)

/-- The items of the list, each stripped. -/
theorem split_commaList_strip {a : List Char} {l : List (List Char)} (h : ∀ x ∈ a :: l, ',' ∉ x)
    (hs : ∀ x ∈ a :: l, strip py x = x) :
    (split ',' (commaList (a :: l))).map (strip py) = a :: l := by
  rw [split_commaList h]
  simp only [List.map_cons, List.map_map, hs a (List.mem_cons_self _ _), List.cons.injEq, true_and]
  exact List.map_congr_left (fun x hx => (strip_space_cons py x).trans (hs x (List.mem_cons_of_mem _ hx)))
    |>.trans (List.map_id _)

/-- `s.split(sep, 1)` at the first separator. -/
theorem splitOnce_append {sep : Char} {w : List Char} (hw : sep ∉ w) (rest : List Char) :
    splitOnce sep (w ++ sep :: rest) = [w, rest] := by
  have hp : ∀ x ∈ w, (x != sep) = true := fun x hx => bne_iff_ne.mpr fun h => hw (h ▸ hx)
  have ht : (w ++ sep :: rest).takeWhile (· != sep) = w := by
    rw [List.takeWhile_append_of_pos hp]
    simp
  have hd : (w ++ sep :: rest).dropWhile (· != sep) = sep :: rest := by
    rw [List.dropWhile_append_of_pos hp]
    simp
  simp only [splitOnce, List.span_eq_take_drop, ht, hd]

/-- `s.split(sep, 1)` of a text without the separator: the text alone. -/
theorem splitOnce_of_not_mem {sep : Char} {w : List Char} (hw : sep ∉ w) : splitOnce sep w = [w] := by
  have hp : ∀ x ∈ w, (x != sep) = true := fun x hx => bne_iff_ne.mpr fun h => hw (h ▸ hx)
  simp only [splitOnce, List.span_eq_take_drop, List.takeWhile_eq_self_iff.mpr hp,
    List.dropWhile_eq_nil_iff.mpr hp]

end Split

/-! ## The scan of `_parse_value_list` -/

section Scan

variable (py : Py)

/-- Text that the scan reads as part of one value: its quotes close, and it
has no comma outside them. -/
def OneValue (p : List Char) : Prop :=
  ∀ vs c, p.foldl (scanChar py) ⟨vs, c, none⟩ = ⟨vs, c ++ p, none⟩

/-- Characters inside a quoted span, the other quote included, are text. -/
theorem foldl_scan_quoted (q : Char) (body : List Char) (hb : q ∉ body) (vs c) :
    body.foldl (scanChar py) ⟨vs, c, some q⟩ = ⟨vs, c ++ body, some q⟩ := by
  induction body generalizing c with
  | nil => simp
  | cons x body ih =>
    have hx : x ≠ q := fun h => hb (h ▸ List.mem_cons_self _ _)
    rw [List.foldl_cons]
    have : scanChar py ⟨vs, c, some q⟩ x = ⟨vs, c ++ [x], some q⟩ := by
      simp [scanChar, Ne.symm hx]
    rw [this, ih (List.not_mem_of_not_mem_cons hb)]
    simp

theorem oneValue_append {a b : List Char} (ha : OneValue py a) (hb : OneValue py b) : OneValue py (a ++ b) := by
  intro vs c
  rw [List.foldl_append, ha, hb, List.append_assoc]

/-- Text with no quote and no comma goes into the current value. -/
theorem oneValue_plain {t : List Char} (h : ∀ x ∈ t, x ≠ '\'' ∧ x ≠ '"' ∧ x ≠ ',') : OneValue py t := by
  intro vs c
  induction t generalizing c with
  | nil => simp
  | cons x t ih =>
    obtain ⟨h1, h2, h3⟩ := h x (List.mem_cons_self _ _)
    have : scanChar py ⟨vs, c, none⟩ x = ⟨vs, c ++ [x], none⟩ := by simp [scanChar, h1, h2, h3]
    rw [List.foldl_cons, this, ih (fun y hy => h y (List.mem_cons_of_mem _ hy)) (c ++ [x])]
    simp

/-- A quoted string goes into the current value, commas and the other quote
included. -/
theorem oneValue_quoted {q : Char} {body : List Char} (hq : q = '\'' ∨ q = '"') (hb : q ∉ body) :
    OneValue py (q :: (body ++ [q])) := by
  intro vs c
  have hopen : scanChar py ⟨vs, c, none⟩ q = ⟨vs, c ++ [q], some q⟩ := by
    rcases hq with h | h <;> simp [scanChar, h]
  simp only [List.foldl_cons, hopen, List.foldl_append, foldl_scan_quoted py q body hb, List.foldl_nil]
  simp [scanChar]

/-- The scan over items joined at commas: the values of all the items but the
last, and the last as the text of the current value. -/
theorem foldl_scan_intercalate (p : List Char) (ps : List (List Char))
    (hps : ∀ x ∈ p :: ps, OneValue py x) (vs : List PyVal) (c : List Char) :
    ([','].intercalate (p :: ps)).foldl (scanChar py) ⟨vs, c, none⟩ =
      ⟨vs ++ ((c ++ p) :: ps).dropLast.map (fun x => parseSqlValue py (strip py x)),
        ((c ++ p) :: ps).getLast (List.cons_ne_nil _ _), none⟩ := by
  induction ps generalizing p vs c with
  | nil => simpa [List.intercalate] using hps p (List.mem_cons_self _ _) vs c
  | cons q ps ih =>
    have hcomma : scanChar py ⟨vs, c ++ p, none⟩ ',' =
        ⟨vs ++ [parseSqlValue py (strip py (c ++ p))], [], none⟩ := by simp [scanChar]
    rw [intercalate_cons_cons, List.foldl_append, List.foldl_append, hps p (List.mem_cons_self _ _) vs c,
      List.foldl_cons, List.foldl_nil, hcomma, ih q fun x hx => hps x (List.mem_cons_of_mem _ hx)]
    simp

/-- `_parse_value_list` of items joined at commas, the last one not blank:
each item's value. -/
theorem parseValueList_intercalate (p : List Char) (ps : List (List Char))
    (hps : ∀ x ∈ p :: ps, OneValue py x) (hlast : strip py ((p :: ps).getLast (List.cons_ne_nil _ _)) ≠ []) :
    parseValueList py ([','].intercalate (p :: ps)) = (p :: ps).map (fun x => parseSqlValue py (strip py x)) := by
  rw [parseValueList]
  simp only [foldl_scan_intercalate py p ps hps, List.nil_append]
  rw [if_pos hlast]
  conv_rhs => rw [← List.dropLast_append_getLast (List.cons_ne_nil p ps)]
  rw [List.map_append]
  rfl

end Scan

/-! ## Identifiers -/

/-- The hex digits, in both cases. -/
def hexDigits : List Char := "0123456789abcdefABCDEF".toList

/-- The value of a hex digit: its place among `0-9a-f`, in either case. -/
def hexVal (c : Char) : Nat := "0123456789abcdef".toList.indexOf c.toLower

/-- The sixteen bytes that 32 hex digits write, two digits a byte, the high
half first. -/
def idBytes (t : List Char) : List Int :=
  (List.range 16).map fun i => 16 * hexVal (t.getD (2 * i) '0') + hexVal (t.getD (2 * i + 1) '0')

/-- An identifier as a statement writes it: 32 hex digits with hyphens
anywhere among them, in quotes or not. -/
structure IdText where
  quote : Option Char
  digits : List Char
  quote_ok : quote = none ∨ quote = some '\'' ∨ quote = some '"'
  digits_ok : ∀ c ∈ digits, c ∈ hexDigits ∨ c = '-'
  length_ok : (digits.filter (· ≠ '-')).length = 32

/-- The identifier as the statement writes it. -/
def IdText.text (id : IdText) : List Char := id.quote.toList ++ id.digits ++ id.quote.toList

/-- The bytes the identifier writes. -/
def IdText.bytes (id : IdText) : List Int := idBytes (id.digits.filter (· ≠ '-'))

/-- What `int(pair, 16)` reads in a hex digit: an ASCII character with no
space, sign or underscore in it, not the `x` of a prefix, and its value. -/
theorem hexDigit_facts : ∀ c ∈ hexDigits, c.toNat < 127 ∧ cSpace c = false ∧ c ≠ '+' ∧ c ≠ '-' ∧
    c ≠ '_' ∧ c ≠ 'x' ∧ c ≠ 'X' ∧ digitValue c = hexVal c ∧ hexVal c < 16 := by
  decide

/-- A character of an identifier is ASCII, no space, no quote, no newline,
and matches no `W`. -/
theorem idChar_facts : ∀ c ∈ '-' :: hexDigits, c.toNat < 128 ∧ c ≠ '\'' ∧ c ≠ '"' ∧ c ≠ '\n' ∧
    c.toLower ≠ 'w' ∧ decide (c.toNat ∈ [9, 10, 11, 12, 13, 28, 29, 30, 31, 32]) = false := by
  decide

theorem IdText.digits_facts (id : IdText) {c : Char} (hc : c ∈ id.digits) :
    c.toNat < 128 ∧ c ≠ '\'' ∧ c ≠ '"' ∧ c ≠ '\n' ∧ c.toLower ≠ 'w' ∧
      decide (c.toNat ∈ [9, 10, 11, 12, 13, 28, 29, 30, 31, 32]) = false :=
  idChar_facts c (by
    rcases id.digits_ok c hc with h | rfl
    · exact List.mem_cons_of_mem _ h
    · exact List.mem_cons_self _ _)

theorem IdText.digits_ne_nil (id : IdText) : id.digits ≠ [] := by
  intro h
  have := id.length_ok
  rw [h] at this
  cases this

/-- `int(pair, 16)` of two hex digits. -/
theorem toInt_hexPair (py : Py) {a b : Char} (ha : a ∈ hexDigits) (hb : b ∈ hexDigits) :
    py.toInt 16 [a, b] = some (16 * hexVal a + hexVal b) := by
  obtain ⟨ha1, ha2, ha3, ha4, -, -, -, ha8, ha9⟩ := hexDigit_facts a ha
  obtain ⟨hb1, hb2, -, -, hb5, hb6, hb7, hb8, hb9⟩ := hexDigit_facts b hb
  have hmap : [a, b].map py.toAsciiNum = [a, b] := by simp [Py.toAsciiNum, ha1, hb1]
  have hstrip : cStrip [a, b] = [a, b] := by simp [cStrip, ha2, hb2]
  have hsign : takeSign [a, b] = (false, [a, b]) := by unfold takeSign; split <;> simp_all
  have hpre : dropHexPrefix [a, b] = [a, b] := by unfold dropHexPrefix; split <;> simp_all
  simp [Py.toInt, hmap, hstrip, hsign, hpre, digitsValue, digitsAux, ha8, hb8, ha9, hb9, hb5]
  omega

/-- A `mapM` whose every call returns. -/
theorem mapM_map_ok {α β γ ε : Type} (l : List α) (p : α → β) (f : β → Except ε γ) (g : α → γ)
    (h : ∀ x ∈ l, f (p x) = .ok (g x)) : (l.map p).mapM f = .ok (l.map g) := by
  induction l with
  | nil => rfl
  | cons x l ih =>
    simp only [List.map_cons, List.mapM_cons, h x (List.mem_cons_self _ _),
      ih fun y hy => h y (List.mem_cons_of_mem _ hy)]
    rfl

/-- A `mapM` whose every call returns, returns. -/
theorem mapM_ok_of_forall {α β ε : Type} (f : α → Except ε β) :
    ∀ {l : List α}, (∀ x ∈ l, ∃ y, f x = .ok y) → ∃ ys, l.mapM f = .ok ys
  | [], _ => ⟨[], rfl⟩
  | x :: l, h => by
    obtain ⟨y, hy⟩ := h x (List.mem_cons_self _ _)
    obtain ⟨ys, hys⟩ := mapM_ok_of_forall f fun z hz => h z (List.mem_cons_of_mem _ hz)
    exact ⟨y :: ys, by rw [List.mapM_cons, hy, hys]; rfl⟩

theorem getD_mem_of_lt {t : List Char} {n : Nat} (h : n < t.length) (d : Char) : t.getD n d ∈ t := by
  rw [List.getD_eq_getElem?_getD, List.getElem?_eq_getElem h, Option.getD_some]
  exact List.getElem_mem h

theorem take_two_drop {t : List Char} {n : Nat} (h : n + 1 < t.length) :
    (t.drop n).take 2 = [t.getD n '0', t.getD (n + 1) '0'] := by
  rw [List.drop_eq_getElem_cons (by omega), List.drop_eq_getElem_cons h]
  simp only [List.take_succ_cons, List.take_zero, List.getD_eq_getElem?_getD,
    List.getElem?_eq_getElem (by omega : n < t.length), List.getElem?_eq_getElem h, Option.getD_some]

/-- `_hex_to_uuid` of 32 hex digits, hyphens anywhere among them: the bytes
they write. -/
theorem hexToUuid_hex (py : Py) {h : List Char} (hh : ∀ c ∈ h, c ∈ hexDigits ∨ c = '-')
    (hl : (h.filter (· ≠ '-')).length = 32) :
    hexToUuid py h = .ok (idBytes (h.filter (· ≠ '-'))) := by
  have ht : ∀ c ∈ h.filter (· ≠ '-'), c ∈ hexDigits := by
    intro c hc
    rw [List.mem_filter] at hc
    exact (hh c hc.1).resolve_right (by simpa using hc.2)
  rw [hexToUuid]
  generalize h.filter (· ≠ '-') = t at ht hl ⊢
  rw [if_neg (by omega), hexPairs, idBytes]
  refine mapM_map_ok _ _ _ _ fun i hi => ?_
  rw [List.mem_range] at hi
  rw [take_two_drop (by omega), toInt_hexPair py (ht _ (getD_mem_of_lt (by omega) _))
    (ht _ (getD_mem_of_lt (by omega) _))]
  rfl

/-- Each byte that hex digits write is in `[0, 255]`. -/
theorem idBytes_range {t : List Char} (ht : ∀ c ∈ t, c ∈ hexDigits) : ∀ b ∈ idBytes t, 0 ≤ b ∧ b < 256 := by
  have hv : ∀ n, hexVal (t.getD n '0') < 16 := fun n => by
    rw [List.getD_eq_getElem?_getD]
    cases h : t[n]? with
    | none => decide
    | some c => exact (hexDigit_facts c (ht c (List.mem_iff_getElem?.mpr ⟨n, h⟩))).2.2.2.2.2.2.2.2
  intro b hb
  obtain ⟨i, -, rfl⟩ := List.mem_map.mp hb
  have h₁ := hv (2 * i)
  have h₂ := hv (2 * i + 1)
  omega

/-- `_hex_to_uuid` accepts every string of hex digits, in either case, and
hyphens anywhere among them, with 32 digits: it returns the sixteen bytes the
digits write, each in `[0, 255]`. -/
theorem hex_identifier_decodes (py : Py) (h : List Char) (hh : ∀ c ∈ h, c ∈ hexDigits ∨ c = '-')
    (hl : (h.filter (· ≠ '-')).length = 32) :
    hexToUuid py h = .ok (idBytes (h.filter (· ≠ '-'))) ∧ ∀ b ∈ idBytes (h.filter (· ≠ '-')), 0 ≤ b ∧ b < 256 := by
  refine ⟨hexToUuid_hex py hh hl, idBytes_range fun c hc => ?_⟩
  rw [List.mem_filter] at hc
  exact (hh c hc.1).resolve_right (by simpa using hc.2)

/-- A hyphenated identifier in mixed case. -/
theorem hex_identifier_decodes_mixed :
    hexToUuid Py.ascii "00112233-4455-6677-8899-AABBccddEEFF".toList =
      .ok [0, 17, 34, 51, 68, 85, 102, 119, 136, 153, 170, 187, 204, 221, 238, 255] ∧
    ∀ b ∈ idBytes ("00112233-4455-6677-8899-AABBccddEEFF".toList.filter (· ≠ '-')), 0 ≤ b ∧ b < 256 :=
  hex_identifier_decodes Py.ascii _ (by decide) (by decide)

theorem hexToUuid_idText (py : Py) (id : IdText) : hexToUuid py id.digits = .ok id.bytes :=
  hexToUuid_hex py id.digits_ok id.length_ok

/-- The digits of an identifier are their own `strip()`. -/
theorem strip_digits (py : Py) (id : IdText) : strip py id.digits = id.digits := by
  have hs : ∀ c ∈ id.digits, py.isspace c = false := fun c hc => by
    have h := id.digits_facts hc
    rw [isspace_ascii py h.1, h.2.2.2.2.2]
  exact strip_of_ends py (fun c hc => hs c (List.mem_of_mem_head? hc))
    fun c hc => hs c (List.mem_of_mem_getLast? hc)

/-! ## The identifier in the patterns -/

section IdPattern

variable (py : Py)

/-- A character of an identifier as written: ASCII, no newline, no space,
and no `w` in any case. -/
theorem IdText.text_facts (id : IdText) {c : Char} (hc : c ∈ id.text) :
    c.toNat < 128 ∧ c ≠ '\n' ∧ c.toLower ≠ 'w' ∧ py.isspace c = false := by
  have hq : ∀ c ∈ id.quote.toList, c.toNat < 128 ∧ c ≠ '\n' ∧ c.toLower ≠ 'w' ∧ py.isspace c = false := by
    rcases id.quote_ok with h | h | h <;> simp only [h, Option.toList, List.not_mem_nil, List.mem_singleton,
      IsEmpty.forall_iff, implies_true, forall_eq] <;> exact ⟨by decide, by decide, by decide, rfl⟩
  simp only [IdText.text, List.mem_append] at hc
  rcases hc with (hc | hc) | hc
  · exact hq c hc
  · have h := id.digits_facts hc
    exact ⟨h.1, h.2.2.2.1, h.2.2.2.2.1, by rw [isspace_ascii py h.1, h.2.2.2.2.2]⟩
  · exact hq c hc

theorem IdText.head_not_space (id : IdText) : ∀ x ∈ id.text.head?, py.isspace x = false :=
  fun _ hx => (id.text_facts py (List.mem_of_mem_head? hx)).2.2.2

/-- `['\"]?` over the quote of an identifier, or over nothing before a
character that is no quote. -/
theorem firstTry_optQuote {q : Option Char} (hq : q = none ∨ q = some '\'' ∨ q = some '"')
    (rest : List Char) (hr : q = none → ∀ x ∈ rest.head?, x ≠ '\'' ∧ x ≠ '"') :
    FirstTry py true optQuote q.toList rest [] := by
  refine FirstTry.rep ?_ (Nat.zero_le _)
  rcases hq with rfl | rfl | rfl
  · cases rest with
    | nil => rfl
    | cons x rest =>
      have hx := hr rfl x rfl
      simp [Cls.run, List.takeWhile_cons, hx.1, hx.2]
  all_goals simp [Cls.run, List.takeWhile_cons]

/-- `([^'\"]+)` over the digits of an identifier, up to its closing quote. -/
theorem firstTry_digits (id : IdText) (tail : List Char) (ht : id.quote = none → tail = []) :
    FirstTry py true (.group notQuotes) id.digits (id.quote.toList ++ tail) [id.digits] := by
  refine (FirstTry.run (c := .noneOf ['\'', '"']) (fun x hx => ?_) ?_
    (List.length_pos.mpr id.digits_ne_nil)).group
  · have h := id.digits_facts hx
    simp [h.2.1, h.2.2.1]
  · rcases id.quote_ok with h | h | h
    · simp [h, ht h]
    all_goals simp [h]

/-- `['\"]?([^'\"]+)['\"]?` over an identifier, and anything after a quoted one. -/
theorem firstTry_idText (id : IdText) (tail : List Char) (ht : id.quote = none → tail = []) :
    FirstTry py true (.seq optQuote (.seq (.group notQuotes) optQuote)) id.text tail [id.digits] := by
  have h := (firstTry_optQuote py id.quote_ok _ fun _ x hx => ?_).seq <|
    (firstTry_digits py id tail ht).seq (firstTry_optQuote py id.quote_ok tail fun hn => by simp [ht hn])
  · simpa [IdText.text] using h
  · rw [List.append_assoc, List.head?_append_of_ne_nil _ id.digits_ne_nil] at hx
    have hd := id.digits_facts (List.mem_of_mem_head? hx)
    exact ⟨hd.2.1, hd.2.2.1⟩

end IdPattern

end ormdb.dbapi
