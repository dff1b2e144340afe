-- The literals against their printer and their lists. `_parse_sql_value`
-- reads back what `quote_value` writes for `None`, bools, ints, strs and the
-- floats that `repr()` writes with a dot, but keeps as a str a float written in
-- exponent form without one; `_parse_value_list` gives back the literals
-- joined at commas, whatever the blanks around them.
import Ormdb.SelectLaws

namespace ormdb.dbapi

open ormdb.py

/-! ## Texts of numbers -/

/-- A text of digits, dots, exponent marks and signs, as `str()` writes a
number. -/
def NumberText (r : List Char) : Prop := r ≠ [] ∧ ∀ c ∈ r, c.isDigit = true ∨ c ∈ ['.', 'e', '+', '-']

instance (r : List Char) : Decidable (NumberText r) := inferInstanceAs (Decidable (_ ∧ _))

theorem numberChar_facts {c : Char} (h : c.isDigit = true ∨ c ∈ ['.', 'e', '+', '-']) :
    c.toNat < 127 ∧ c.toNat ∉ [9, 10, 11, 12, 13, 28, 29, 30, 31, 32] ∧ c ≠ '\'' ∧ c ≠ '"' ∧
      c.toUpper ∉ ['N', 'T', 'F'] ∧ cSpace c = false := by
  have key : ∀ n : Fin 128, ((Char.ofNat n).isDigit = true ∨ Char.ofNat n ∈ ['.', 'e', '+', '-']) →
      (Char.ofNat n).toNat < 127 ∧ (Char.ofNat n).toNat ∉ [9, 10, 11, 12, 13, 28, 29, 30, 31, 32] ∧
      Char.ofNat n ≠ '\'' ∧ Char.ofNat n ≠ '"' ∧ (Char.ofNat n).toUpper ∉ ['N', 'T', 'F'] ∧
      cSpace (Char.ofNat n) = false := by decide
  have hlt : c.toNat < 128 := by
    rcases h with h | h
    · exact isDigit_ascii h
    · simp only [List.mem_cons, List.not_mem_nil, or_false] at h
      rcases h with rfl | rfl | rfl | rfl <;> decide
  simpa using key ⟨c.toNat, hlt⟩ (by simpa using h)

/-- `_parse_sql_value` of a number text: `float()` of it when it holds a dot,
`int()` of it otherwise, and the text itself when that raises. -/
theorem parseSqlValue_number (py : Py) {r : List Char} (h : NumberText r) :
    parseSqlValue py r = if '.' ∈ r then ((py.toFloat r).map .float).getD (.str r)
      else ((py.toInt 10 r).map .int).getD (.str r) := by
  have hf := fun c hc => numberChar_facts (h.2 c hc)
  have hsp : ∀ c ∈ r, py.isspace c = false := fun c hc => by
    rw [isspace_ascii py (by have := (hf c hc).1; omega)]
    simpa using (hf c hc).2.1
  have hs : strip py r = r :=
    strip_of_ends py (fun c hc => hsp c (List.mem_of_mem_head? hc)) fun c hc => hsp c (List.mem_of_mem_getLast? hc)
  have hu : upper py r = r.map Char.toUpper := upper_ascii py fun c hc => by have := (hf c hc).1; omega
  have hq : ∀ c ∈ r.head?, c ≠ '\'' ∧ c ≠ '"' := fun c hc =>
    ⟨(hf c (List.mem_of_mem_head? hc)).2.2.1, (hf c (List.mem_of_mem_head? hc)).2.2.2.1⟩
  have hkey : ∀ k ∈ ['N', 'T', 'F'], k ∉ r.map Char.toUpper := fun k hk hm => by
    obtain ⟨c, hc, rfl⟩ := List.mem_map.mp hm
    exact (hf c hc).2.2.2.2.1 hk
  have hnull : r.map Char.toUpper ≠ "NULL".toList := fun he => hkey 'N' (by simp) (by simp [he])
  have htrue : r.map Char.toUpper ≠ "TRUE".toList := fun he => hkey 'T' (by simp) (by simp [he])
  have hfalse : r.map Char.toUpper ≠ "FALSE".toList := fun he => hkey 'F' (by simp) (by simp [he])
  have hquote : ¬((r.head? = some '\'' ∧ r.getLast? = some '\'') ∨ (r.head? = some '"' ∧ r.getLast? = some '"')) := by
    rintro (⟨h1, -⟩ | ⟨h1, -⟩) <;> simp [h1] at hq
  unfold parseSqlValue
  simp only [hs, hu, if_neg hquote, if_neg hnull, if_neg htrue, if_neg hfalse]
  split
  · cases py.toFloat r <;> rfl
  · cases py.toInt 10 r <;> rfl

/-! ## `str()` of an int -/

theorem foldl_decValue (acc : Nat) (ds : List Char) :
    ds.foldl (fun acc c => acc * 10 + (c.toNat - 48)) acc = acc * 10 ^ ds.length + decValue ds := by
  induction ds generalizing acc with
  | nil => simp [decValue]
  | cons c ds ih =>
    show ds.foldl _ (acc * 10 + (c.toNat - 48)) =
      acc * 10 ^ (ds.length + 1) + ds.foldl _ (0 * 10 + (c.toNat - 48))
    rw [ih, ih, Nat.zero_mul, Nat.zero_add, Nat.add_mul, pow_succ, Nat.mul_assoc, Nat.mul_comm 10, Nat.add_assoc]

theorem digitChar_facts : ∀ k : Fin 10, (Nat.digitChar k).isDigit = true ∧ (Nat.digitChar k).toNat - 48 = k := by
  decide

/-- One step of `Nat.toDigitsCore 10`: the last digit is written in front. -/
theorem toDigitsCore_succ (fuel n : Nat) (ds : List Char) :
    Nat.toDigitsCore 10 (fuel + 1) n ds =
      if n / 10 = 0 then Nat.digitChar (n % 10) :: ds
      else Nat.toDigitsCore 10 fuel (n / 10) (Nat.digitChar (n % 10) :: ds) := rfl

/-- The digits that `Nat.toDigits 10` writes in front of `ds` are a numeral
that reads back as the number. -/
theorem toDigitsCore_numeral : ∀ (fuel n : Nat) (ds : List Char), n < fuel → (∀ c ∈ ds, c.isDigit = true) →
    Numeral (Nat.toDigitsCore 10 fuel n ds) ∧
      decValue (Nat.toDigitsCore 10 fuel n ds) = n * 10 ^ ds.length + decValue ds
  | 0, _, _, h, _ => absurd h (Nat.not_lt_zero _)
  | fuel + 1, n, ds, hn, hds => by
    have hd := digitChar_facts ⟨n % 10, Nat.mod_lt _ (by decide)⟩
    have hds' : ∀ c ∈ Nat.digitChar (n % 10) :: ds, c.isDigit = true := by
      simpa using ⟨hd.1, hds⟩
    have hval : decValue (Nat.digitChar (n % 10) :: ds) = n % 10 * 10 ^ ds.length + decValue ds := by
      rw [decValue, List.foldl_cons, foldl_decValue, hd.2]
      simp
    rw [toDigitsCore_succ]
    split
    · rename_i h0
      refine ⟨⟨List.cons_ne_nil _ _, hds'⟩, ?_⟩
      rw [hval, Nat.mod_eq_of_lt (by omega)]
    · rename_i h0
      obtain ⟨hnum, hv⟩ := toDigitsCore_numeral fuel (n / 10) _ (by omega) hds'
      have hdiv : n / 10 * (10 ^ ds.length * 10) + n % 10 * 10 ^ ds.length = n * 10 ^ ds.length := by
        rw [Nat.mul_comm (10 ^ _) 10, ← Nat.mul_assoc, ← Nat.add_mul, Nat.mul_comm (n / 10) 10, Nat.div_add_mod]
      refine ⟨hnum, ?_⟩
      rw [hv, hval, List.length_cons, pow_succ, ← Nat.add_assoc, hdiv]

theorem toDigits_numeral (n : Nat) : Numeral (Nat.toDigits 10 n) ∧ decValue (Nat.toDigits 10 n) = n := by
  simpa [decValue] using toDigitsCore_numeral (n + 1) n [] (Nat.lt_succ_self n) (by simp)

theorem intStr_numberText (i : Int) : NumberText (intStr i) ∧ '.' ∉ intStr i := by
  have h := (toDigits_numeral i.natAbs).1
  have hd : '.' ∉ Nat.toDigits 10 i.natAbs := fun hm => by simpa using h.2 _ hm
  unfold intStr
  split
  · exact ⟨⟨List.cons_ne_nil _ _, by simpa using fun c hc => Or.inl (h.2 c hc)⟩, by simpa using hd⟩
  · exact ⟨⟨h.1, fun c hc => Or.inl (h.2 c hc)⟩, hd⟩

/-- `int(str(i))` is `i`, within the digit limit. -/
theorem toInt_intStr (py : Py) (i : Int) (hfit : py.digitsFit (intDigits i) = true) :
    py.toInt 10 (intStr i) = some i := by
  obtain ⟨h, hv⟩ := toDigits_numeral i.natAbs
  have hcount : (Nat.toDigits 10 i.natAbs).countP Char.isDigit = intDigits i := List.countP_eq_length.mpr h.2
  unfold intStr
  split
  · rename_i hi
    have hd := fun c hc => digit_facts (h.2 c hc)
    have hmap : ('-' :: Nat.toDigits 10 i.natAbs).map py.toAsciiNum = '-' :: Nat.toDigits 10 i.natAbs :=
      map_toAsciiNum_ascii py (List.forall_mem_cons.mpr ⟨by decide, fun c hc => (hd c hc).1⟩)
    have hstrip : cStrip ('-' :: Nat.toDigits 10 i.natAbs) = '-' :: Nat.toDigits 10 i.natAbs :=
      cStrip_eq_self (List.forall_mem_cons.mpr ⟨rfl, fun c hc => (hd c hc).2.1⟩)
    simp only [Py.toInt, hmap, hstrip, takeSign, if_neg (by decide : (10 : Nat) ≠ 16), hcount, hfit,
      digitsValue_numeral h, hv, Option.map_some', if_true, Bool.not_true, Bool.false_eq_true, and_false, if_false]
    show some (-(i.natAbs : Int)) = some i
    congr 1
    omega
  · rw [toInt_numeral py h hfit, hv]
    show some (i.natAbs : Int) = some i
    congr 1
    omega

/-! ## `int()` of a text in exponent form -/

/-- A character that is no digit of base 10 and no underscore makes `int()`
raise, wherever it stands after the first digit. -/
theorem digitsAux_none {c : Char} (hv : 10 ≤ digitValue c) (hu : c ≠ '_') :
    ∀ {s : List Char} (acc : Nat) (under : Bool), c ∈ s → digitsAux 10 acc under s = none
  | d :: s, acc, under, hc => by
    rcases List.mem_cons.mp hc with rfl | hc
    · simp [digitsAux, hu, Nat.not_lt.mpr hv]
    · unfold digitsAux
      split
      · split
        · rfl
        · exact digitsAux_none hv hu _ _ hc
      · split
        · exact digitsAux_none hv hu _ _ hc
        · rfl

theorem digitsValue_none {c : Char} {t : List Char} (hc : c ∈ t) (hv : 10 ≤ digitValue c) (hu : c ≠ '_') :
    digitsValue 10 t = none := by
  cases t with
  | nil => rfl
  | cons d t =>
    rw [digitsValue]
    by_cases hd : digitValue d < 10
    · rw [if_pos hd]
      rcases List.mem_cons.mp hc with rfl | hc
      · omega
      · exact digitsAux_none hv hu _ _ hc
    · rw [if_neg hd]

/-- `int()` of a number text with an exponent mark raises. -/
theorem toInt_exponent (py : Py) {r : List Char} (h : NumberText r) (he : 'e' ∈ r) : py.toInt 10 r = none := by
  have hf := fun c hc => numberChar_facts (h.2 c hc)
  have ht : 'e' ∈ (takeSign r).2 := by
    unfold takeSign
    split <;> simp_all
  simp only [Py.toInt, map_toAsciiNum_ascii py fun c hc => (hf c hc).1, cStrip_eq_self fun c hc => (hf c hc).2.2.2.2.2,
    if_neg (by decide : (10 : Nat) ≠ 16), digitsValue_none ht (by decide) (by decide)]
  split <;> rfl

/-! ## `_parse_sql_value` against `quote_value` -/

section Quote

variable (py : Py)

theorem parseSqlValue_quote_none : (client.quoteValue py .none).map (parseSqlValue py) = .ok .none := by
  simp [Except.map, parseSqlValue, client.quoteValue, strip, Py.isspace, upper, Py.upperChar]

theorem parseSqlValue_quote_bool (b : Bool) :
    (client.quoteValue py (.bool b)).map (parseSqlValue py) = .ok (.bool b) := by
  cases b <;> simp [Except.map, parseSqlValue, client.quoteValue, strip, Py.isspace, upper, Py.upperChar]

theorem parseSqlValue_quote_str (s : List Char) :
    (client.quoteValue py (.str s)).map (parseSqlValue py) = .ok (.str s) := by
  have hq : py.isspace '\'' = false := isspace_quote py (by decide)
  have hs : strip py ('\'' :: (s ++ ['\''])) = '\'' :: (s ++ ['\'']) :=
    strip_of_ends py (by simp [hq]) (by simp [getLast?_quoted, hq])
  simp [Except.map, parseSqlValue, client.quoteValue, hs, getLast?_quoted]

theorem parseSqlValue_quote_int (i : Int) (hfit : py.digitsFit (intDigits i) = true) :
    (client.quoteValue py (.int i)).map (parseSqlValue py) = .ok (.int i) := by
  obtain ⟨hn, hd⟩ := intStr_numberText i
  rw [client.quoteValue_int, if_pos hfit]
  show Except.ok (parseSqlValue py (intStr i)) = _
  rw [parseSqlValue_number py hn, if_neg hd, toInt_intStr py i hfit]
  rfl

/-- `_parse_sql_value(quote_value(v))` is `v`, of `v`'s type, for `None`, the
bools, the strs and the ints within the digit limit, past which `quote_value`
raises `ValueError`; and for a float whose `repr()` holds a dot, when
`float()` reads that `repr()` back as the float, as CPython's does. -/
theorem quoteValue_round_trip :
    (client.quoteValue py .none).map (parseSqlValue py) = .ok .none ∧
    (∀ b, (client.quoteValue py (.bool b)).map (parseSqlValue py) = .ok (.bool b)) ∧
    (∀ i, py.digitsFit (intDigits i) = true → (client.quoteValue py (.int i)).map (parseSqlValue py) = .ok (.int i)) ∧
    (∀ i, py.digitsFit (intDigits i) = false → client.quoteValue py (.int i) = .error (.valueError none)) ∧
    (∀ s, (client.quoteValue py (.str s)).map (parseSqlValue py) = .ok (.str s)) ∧
    (∀ x, NumberText (py.reprFloat x) → '.' ∈ py.reprFloat x → py.toFloat (py.reprFloat x) = some x →
      (client.quoteValue py (.float x)).map (parseSqlValue py) = .ok (.float x)) := by
  refine ⟨parseSqlValue_quote_none py, parseSqlValue_quote_bool py, parseSqlValue_quote_int py,
    fun i hi => by rw [client.quoteValue_int, if_neg (by simp [hi])], parseSqlValue_quote_str py,
    fun x hn hd hx => ?_⟩
  rw [client.quoteValue_float]
  show Except.ok (parseSqlValue py (py.reprFloat x)) = _
  rw [parseSqlValue_number py hn, if_pos hd, hx]
  rfl

/-- `0.0` prints as `0.0` and reads back; `-12` within the digit limit too. -/
theorem quoteValue_round_trip_zero :
    NumberText (Py.ascii.reprFloat ⟨0⟩) ∧ '.' ∈ Py.ascii.reprFloat ⟨0⟩ ∧
      Py.ascii.toFloat (Py.ascii.reprFloat ⟨0⟩) = some ⟨0⟩ ∧
      (client.quoteValue Py.ascii (.float ⟨0⟩)).map (parseSqlValue Py.ascii) = .ok (.float ⟨0⟩) ∧
      Py.ascii.digitsFit (intDigits (-12)) = true ∧
      (client.quoteValue Py.ascii (.int (-12))).map (parseSqlValue Py.ascii) = .ok (.int (-12)) :=
  have h := quoteValue_round_trip Py.ascii
  ⟨by decide, by decide, by decide, h.2.2.2.2.2 ⟨0⟩ (by decide) (by decide) (by decide), by decide,
    h.2.2.1 (-12) (by decide)⟩

/-- A float that `repr()` writes in exponent form without a dot, as CPython
writes `1e16` (`1e+16`), comes back as the str of that text: with no dot in it
`_parse_sql_value` tries `int()` alone, which raises. -/
theorem exponent_float_read_as_text (x : PyFloat) (hr : NumberText (py.reprFloat x))
    (hdot : '.' ∉ py.reprFloat x) (he : 'e' ∈ py.reprFloat x) :
    (client.quoteValue py (.float x)).map (parseSqlValue py) = .ok (.str (py.reprFloat x)) := by
  rw [client.quoteValue_float]
  show Except.ok (parseSqlValue py (py.reprFloat x)) = _
  rw [parseSqlValue_number py hr, if_neg hdot, toInt_exponent py hr he]
  rfl

end Quote

/-- The ASCII runtime, with `repr()` of the double `1e16` as CPython writes it. -/
def Py.asciiE16 : Py :=
  { Py.ascii with reprFloat := fun x => if x = ⟨0x4341C37937E08000⟩ then "1e+16".toList else "0.0".toList }

theorem exponent_float_read_as_text_1e16 :
    NumberText (Py.asciiE16.reprFloat ⟨0x4341C37937E08000⟩) ∧ '.' ∉ Py.asciiE16.reprFloat ⟨0x4341C37937E08000⟩ ∧
      'e' ∈ Py.asciiE16.reprFloat ⟨0x4341C37937E08000⟩ ∧
      (client.quoteValue Py.asciiE16 (.float ⟨0x4341C37937E08000⟩)).map (parseSqlValue Py.asciiE16) =
        .ok (.str "1e+16".toList) :=
  ⟨by decide, by decide, by decide,
    exponent_float_read_as_text Py.asciiE16 ⟨0x4341C37937E08000⟩ (by decide) (by decide) (by decide)⟩

/-! ## Lists of literals: `_parse_value_list` -/

/-- An item of a value list: a string in quotes, its quote nowhere inside,
with blanks around it; or a token with no quote and no comma that is not
blank. -/
inductive ListItem (py : Py) : List Char → Prop
  | quoted {q : Char} {body pre post : List Char} (hq : q = '\'' ∨ q = '"') (hb : q ∉ body)
      (hpre : ∀ c ∈ pre, py.isspace c = true) (hpost : ∀ c ∈ post, py.isspace c = true) :
      ListItem py (pre ++ q :: (body ++ q :: post))
  | token {t : List Char} (hq : '\'' ∉ t ∧ '"' ∉ t) (hc : ',' ∉ t) (hne : strip py t ≠ []) : ListItem py t

section Items

variable (py : Py)

theorem plain_of_space {c : Char} (h : py.isspace c = true) : c ≠ '\'' ∧ c ≠ '"' ∧ c ≠ ',' := by
  refine ⟨?_, ?_, ?_⟩ <;> rintro rfl <;> exact absurd h (by simp [Py.isspace])

theorem mem_dropWhile_of_not {p : Char → Bool} {c : Char} {l : List Char} (hc : c ∈ l) (hp : p c = false) :
    c ∈ l.dropWhile p := by
  induction l with
  | nil => cases hc
  | cons d l ih =>
    rw [List.dropWhile_cons]
    split
    · rcases List.mem_cons.mp hc with rfl | hc
      · simp_all
      · exact ih hc
    · exact hc

/-- A text holding a character that is not whitespace is not blank. -/
theorem strip_ne_nil_of_mem {c : Char} {s : List Char} (hc : c ∈ s) (hs : py.isspace c = false) :
    strip py s ≠ [] := by
  have h := mem_dropWhile_of_not (List.mem_reverse.mpr (mem_dropWhile_of_not hc hs)) hs
  intro he
  rw [strip, List.reverse_eq_nil_iff] at he
  rw [he] at h
  cases h

theorem ListItem.oneValue {x : List Char} (h : ListItem py x) : OneValue py x := by
  cases h with
  | @quoted q body pre post hq hb hpre hpost =>
    rw [show pre ++ q :: (body ++ q :: post) = pre ++ (q :: (body ++ [q]) ++ post) by simp]
    exact oneValue_append py (oneValue_plain py fun c hc => plain_of_space py (hpre c hc))
      (oneValue_append py (oneValue_quoted py hq hb) (oneValue_plain py fun c hc => plain_of_space py (hpost c hc)))
  | token hq hc _ =>
    exact oneValue_plain py fun c hm => ⟨fun h => hq.1 (h ▸ hm), fun h => hq.2 (h ▸ hm), fun h => hc (h ▸ hm)⟩

theorem ListItem.strip_ne_nil {x : List Char} (h : ListItem py x) : strip py x ≠ [] := by
  cases h with
  | @quoted q body pre post hq _ _ _ =>
    exact strip_ne_nil_of_mem py (c := q) (by simp) (isspace_quote py (by rcases hq with h | h <;> simp [h]))
  | token _ _ hne => exact hne

end Items

/-- `_parse_value_list` of items joined at commas: one value per item, in
order, each the `_parse_sql_value` of the item stripped. -/
theorem value_list_splits (py : Py) (l : List Char) (ls : List (List Char)) (h : ∀ x ∈ l :: ls, ListItem py x) :
    parseValueList py ([','].intercalate (l :: ls)) = (l :: ls).map fun x => parseSqlValue py (strip py x) :=
  parseValueList_intercalate py l ls (fun x hx => (h x hx).oneValue py) ((h _ (List.getLast_mem _)).strip_ne_nil py)

theorem value_list_splits_three :
    (∀ x ∈ [" 'a,\"b' ".toList, " x y ".toList, "\"it's\"".toList], ListItem Py.ascii x) ∧
    parseValueList Py.ascii ([','].intercalate [" 'a,\"b' ".toList, " x y ".toList, "\"it's\"".toList]) =
      [.str "a,\"b".toList, .str "x y".toList, .str "it's".toList] := by
  have h : ∀ x ∈ [" 'a,\"b' ".toList, " x y ".toList, "\"it's\"".toList], ListItem Py.ascii x := by
    simp only [List.mem_cons, List.mem_singleton, List.not_mem_nil, or_false, forall_eq_or_imp, forall_eq]
    exact ⟨@ListItem.quoted Py.ascii '\'' "a,\"b".toList [' '] [' '] (Or.inl rfl) (by decide) (by decide) (by decide),
      ListItem.token (by decide) (by decide) (by decide),
      @ListItem.quoted Py.ascii '"' "it's".toList [] [] (Or.inr rfl) (by decide) (by decide) (by decide)⟩
  exact ⟨h, (value_list_splits Py.ascii _ _ h).trans (by decide)⟩

end ormdb.dbapi
