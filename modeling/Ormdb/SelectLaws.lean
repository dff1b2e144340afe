-- `_parse_select` inverts the SELECT grammar: the condition is read by the
-- regex of `_parse_where`, the order by `_parse_order_by`, the limit and the
-- offset by `int()`, and on the text of a statement of the grammar the parse
-- returns the statement's parts, so that `execute` posts its query. A second
-- condition joined by AND or OR is not rejected: a SELECT reads it into the
-- literal, an UPDATE or a DELETE with a quoted identifier ignores it.
import Ormdb.SelectGrammar
import Ormdb.MutationLaws

namespace ormdb.dbapi

open ormdb.py ormdb.regex

/-! ## The condition: `_parse_where` -/

/-- Whether the literal `p` and the text `t` differ, letter case aside, at a
character before either ends; then `p` does not match at the start of `t`. -/
def mismatch : List Char → List Char → Bool
  | p :: ps, c :: cs => p.toLower != c.toLower || mismatch ps cs
  | _, _ => false

theorem mismatch_congr : ∀ (p : List Char) {t t' : List Char}, t.map Char.toLower = t'.map Char.toLower →
    mismatch p t = mismatch p t'
  | [], _, _, _ => rfl
  | _ :: _, [], [], _ => rfl
  | _ :: _, [], _ :: _, h => by simp at h
  | _ :: _, _ :: _, [], h => by simp at h
  | _ :: ps, _ :: _, _ :: _, h => by
    simp only [List.map_cons, List.cons.injEq] at h
    simp only [mismatch, h.1, mismatch_congr ps h.2]

theorem eatLit_of_mismatch {py : Py} : ∀ {p t : List Char}, (∀ c ∈ p, c.toNat < 128) → (∀ c ∈ t, c.toNat < 128) →
    mismatch p t = true → ∀ rest, eatLit py true p (t ++ rest) = none
  | [], _, _, _, h, _ => by simp [mismatch] at h
  | _ :: _, [], _, _, h, _ => by simp [mismatch] at h
  | p :: ps, c :: cs, hp, ht, h, rest => by
    rw [List.cons_append, eatLit, charEq, if_pos rfl,
      caseEq_ascii py (hp p (List.mem_cons_self _ _)) (ht c (List.mem_cons_self _ _))]
    cases he : p.toLower == c.toLower with
    | false => rfl
    | true =>
      simp only [mismatch, bne, he, Bool.not_true, Bool.false_or] at h
      exact eatLit_of_mismatch (fun x hx => hp x (List.mem_cons_of_mem _ hx))
        (fun x hx => ht x (List.mem_cons_of_mem _ hx)) h rest

/-- Alternatives of literals: the first that matches wins, when every one
before it fails. -/
theorem firstTry_anyLit {py : Py} {p w rest : List Char} (hm : eatLit py true p (w ++ rest) = some rest) :
    ∀ {ls : List (List Char)}, p ∈ ls →
      (∀ q ∈ ls.takeWhile (· ≠ p), ∀ {α : Type} (k : List Char → List (List Char) → Option α) g,
        (Re.lit q).go py true k (w ++ rest) g = none) →
      FirstTry py true (Re.anyLit ls) w rest []
  | [q], hp, _ => by obtain rfl := List.mem_singleton.mp hp; exact FirstTry.lit hm
  | q :: q' :: qs, hp, hf => by
    by_cases hq : q = p
    · subst hq; exact FirstTry.alt_left (FirstTry.lit hm)
    · have htw : (q :: q' :: qs).takeWhile (· ≠ p) = q :: (q' :: qs).takeWhile (· ≠ p) := by
        simp [List.takeWhile_cons, hq]
      refine FirstTry.alt_right (hf q (by rw [htw]; exact List.mem_cons_self _ _)) ?_
      exact firstTry_anyLit hm ((List.mem_cons.mp hp).resolve_left (Ne.symm hq))
        fun r hr => hf r (by rw [htw]; exact List.mem_cons_of_mem _ hr)

/-- The operator as the pattern of `_parse_where` writes it. -/
def WhereOp.canon : WhereOp → List Char
  | .eq => "=".toList
  | .ne => "!=".toList
  | .ltgt => "<>".toList
  | .le => "<=".toList
  | .ge => ">=".toList
  | .lt => "<".toList
  | .gt => ">".toList
  | .like _ => "LIKE".toList
  | .isIn _ => "IN".toList

theorem WhereOp.eatLit_canon (py : Py) (op : WhereOp) (rest : List Char) :
    eatLit py true op.canon (op.text ++ rest) = some rest := by
  cases op with
  | like k => exact k.eatLit py rest
  | isIn k => exact k.eatLit py rest
  | _ => exact eatLit_self (by decide) rest

theorem WhereOp.text_toLower (op : WhereOp) : op.text.map Char.toLower = op.canon.map Char.toLower := by
  cases op with
  | like k => exact k.map_toLower
  | isIn k => exact k.map_toLower
  | _ => rfl

/-- The operators of `_parse_where`'s pattern, in the order it tries them. -/
def whereOps : List (List Char) :=
  ["=".toList, "!=".toList, "<>".toList, "<=".toList, ">=".toList, "<".toList, ">".toList, "LIKE".toList, "IN".toList]

/-- Each operator of the pattern fails on every operator it comes after. -/
theorem whereOps_fail : ∀ p ∈ whereOps, ∀ q ∈ whereOps.takeWhile (· ≠ p), mismatch q (p ++ [' ']) = true := by
  decide

theorem WhereOp.canon_mem (op : WhereOp) : op.canon ∈ whereOps := by
  cases op <;> simp only [WhereOp.canon] <;> decide

/-- `(=|!=|<>|<=|>=|<|>|LIKE|IN)` takes the operator that the condition writes. -/
theorem firstTry_op (py : Py) (op : WhereOp) (v : List Char) :
    FirstTry py true (Re.anyLit whereOps) op.text (' ' :: v) [] := by
  refine firstTry_anyLit (op.eatLit_canon py _) op.canon_mem fun q hq α k g => ?_
  have hq' : ∀ c ∈ q, c.toNat < 128 :=
    (by decide : ∀ q ∈ whereOps, ∀ c ∈ q, c.toNat < 128) q ((List.takeWhile_sublist _).subset hq)
  have ht : ∀ c ∈ op.text ++ [' '], c.toNat < 128 := fun c hc => by
    rcases List.mem_append.mp hc with hc | hc
    · exact op.ascii c hc
    · rw [List.mem_singleton.mp hc]; decide
  rw [go_lit, show op.text ++ ' ' :: v = (op.text ++ [' ']) ++ v by simp,
    eatLit_of_mismatch hq' ht (by
      have e : (op.text ++ [' ']).map Char.toLower = (op.canon ++ [' ']).map Char.toLower := by
        simp only [List.map_append, op.text_toLower]
      rw [mismatch_congr q e]
      exact whereOps_fail _ op.canon_mem q hq) v]
  rfl

theorem WhereOp.solid {py : Py} (op : WhereOp) : Solid py op.text := by
  cases op with
  | like k => exact k.solid (by decide) (by decide)
  | isIn k => exact k.solid (by decide) (by decide)
  | _ => exact solid_of_ascii (by decide) (by decide)

theorem WhereOp.lookup_upper (py : Py) (op : WhereOp) : (opMap.lookup (upper py op.text)).getD "eq".toList = op.name := by
  rw [WhereOp.upper_text]
  cases op with
  | like k => rw [WhereOp.text, k.toUpper_eq]; rfl
  | isIn k => rw [WhereOp.text, k.toUpper_eq]; rfl
  | _ => rfl

/-- `re.match` of `_parse_where`'s pattern on `f op v`. -/
theorem rematch_where (py : Py) (c : Cond) (hf : Ident py c.field) (hv : ValueOk py c.value) :
    rematch py true wherePattern (c.field ++ ' ' :: (c.op.text ++ ' ' :: c.value)) =
      some [c.field, c.op.text, c.value] := by
  have hdots : FirstTry py true (.group dots1) c.value [] [c.value] :=
    (FirstTry.run (c := .dot) (fun x hx => by
      simp only [Cls.test, bne_iff_ne, ne_eq]; rintro rfl; exact hv.no_newline hx) (by simp)
      (List.length_pos.mpr hv.ne_nil)).group
  have hs : Solid py c.op.text := c.op.solid
  have hop : ∀ x ∈ (c.op.text ++ ' ' :: c.value).head?, py.isspace x = false := fun x hx =>
    hs.2 x (List.mem_of_mem_head? (by rwa [List.head?_append_of_ne_nil _ hs.1] at hx))
  have h := (firstTry_word1 py hf _ (by simp; rfl)).seq <|
    (firstTry_spaces py _ (by simpa using hop)).seq <|
    (firstTry_op py c.op _).group.seq <|
    (firstTry_spaces py _ (by simpa using hv.head)).seq hdots
  simpa using rematch_of_firstTry h

/-- `_parse_where` on `f op v`. -/
theorem parseWhere_cond (py : Py) (c : Cond) (hf : Ident py c.field) (hv : ValueOk py c.value) :
    parseWhere py (c.field ++ ' ' :: (c.op.text ++ ' ' :: c.value)) = .ok (c.filter py) := by
  rw [parseWhere, rematch_where py c hf hv]
  dsimp only
  rw [c.op.lookup_upper py, strip_of_ends py hv.head hv.last]
  rfl

/-! ## The order: `_parse_order_by` -/

/-- An ORDER BY item as written. -/
def OrderItem.text (it : OrderItem) : List Char := unwords (it.words [])

theorem OrderItem.words_ne_nil (it : OrderItem) (sep : List Char) : it.words sep ≠ [] := by
  unfold OrderItem.words; split <;> simp

theorem OrderItem.unwords_words_comma (it : OrderItem) : unwords (it.words [',']) = it.text ++ [','] := by
  unfold OrderItem.text OrderItem.words
  split <;> simp [unwords_singleton, unwords_cons_cons]

theorem unwords_listWords : ∀ {its : List OrderItem}, unwords (OrderItem.listWords its) = commaList (its.map OrderItem.text)
  | [] => rfl
  | [it] => by rw [OrderItem.listWords, List.map_singleton, commaList_singleton]; rfl
  | it :: it' :: its => by
    change unwords (it.words [','] ++ OrderItem.listWords (it' :: its)) = _
    rw [unwords_append (it.words_ne_nil _) (SelectStmt.listWords_ne_nil (List.cons_ne_nil _ _)),
      it.unwords_words_comma, unwords_listWords]
    simp only [List.map_cons, commaList_cons_cons]
    simp

theorem orderPart_space_cons (py : Py) (s : List Char) : orderPart py (' ' :: s) = orderPart py s := by
  simp only [orderPart, strip_space_cons]

/-- `_parse_order_by` of items without commas: each part read in turn. -/
theorem parseOrderBy_commaList (py : Py) {x : List Char} {xs : List (List Char)} (h : ∀ y ∈ x :: xs, ',' ∉ y) :
    parseOrderBy py (commaList (x :: xs)) = .list ((x :: xs).map (orderPart py)) := by
  rw [parseOrderBy, split_commaList h, List.map_cons, List.map_map, List.map_cons]
  simp only [Function.comp_def, orderPart_space_cons]

/-- An item without a direction is read as written, ascending. -/
theorem orderPart_name (py : Py) {f : List Char} (h : Name py f) : orderPart py f = orderItem f "asc".toList := by
  have hno : ∀ key : List Char, key.head? = some ' ' → key ≠ [] → contains (upper py f) key = false := by
    intro key hk hne
    have := contains_word_append key hk h.2.1.word []
    rw [List.append_nil] at this
    rw [this, contains, find, if_neg hne]
    rfl
  simp only [orderPart, strip_ident py h.1, hno " DESC".toList rfl (by simp), hno " ASC".toList rfl (by simp),
    Bool.false_eq_true, if_false]

theorem strip_name_keyword (py : Py) {f kw : List Char} (h : Ident py f) (k : Keyword kw) (hne : kw ≠ [])
    (hkw : ∀ c ∈ kw, c.isAlpha = true) : strip py (f ++ ' ' :: k.text) = f ++ ' ' :: k.text := by
  have : strip py (unwords [f, k.text]) = unwords [f, k.text] :=
    strip_unwords_solid (by simpa using ⟨h.solid, k.solid hne hkw⟩)
  rwa [unwords_cons_cons, unwords_singleton] at this

theorem upper_name_keyword (py : Py) (f : List Char) {kw : List Char} (k : Keyword kw) :
    upper py (f ++ ' ' :: k.text) = upper py f ++ ' ' :: kw := by
  rw [upper_append, upper_cons, upper_space, k.upper py]
  rfl

/-- An item with DESC is read in upper case, descending. -/
theorem orderPart_desc (py : Py) {f : List Char} (h : Name py f) (k : Keyword "DESC".toList) :
    orderPart py (f ++ ' ' :: k.text) = orderItem (upper py f) "desc".toList := by
  have hw := h.2.1.word
  have hD : contains (upper py f ++ ' ' :: "DESC".toList) " DESC".toList = true := by
    rw [contains_word_append " DESC".toList rfl hw]; rfl
  have hr : replace " DESC".toList [] (upper py f ++ ' ' :: "DESC".toList) = upper py f := by
    rw [replace_word_append " DESC".toList rfl [] hw, List.append_right_eq_self]; decide
  simp only [orderPart, strip_name_keyword py h.1 k (by decide) (by decide), upper_name_keyword py f k, hD, hr,
    (h.2.1.solid h.1.1).strip, if_true]

/-- An item with ASC is read in upper case, ascending. -/
theorem orderPart_asc (py : Py) {f : List Char} (h : Name py f) (k : Keyword "ASC".toList) :
    orderPart py (f ++ ' ' :: k.text) = orderItem (upper py f) "asc".toList := by
  have hw := h.2.1.word
  have hD : contains (upper py f ++ ' ' :: "ASC".toList) " DESC".toList = false := by
    rw [contains_word_append " DESC".toList rfl hw]; rfl
  have hA : contains (upper py f ++ ' ' :: "ASC".toList) " ASC".toList = true := by
    rw [contains_word_append " ASC".toList rfl hw]; rfl
  have hr : replace " ASC".toList [] (upper py f ++ ' ' :: "ASC".toList) = upper py f := by
    rw [replace_word_append " ASC".toList rfl [] hw, List.append_right_eq_self]; decide
  simp only [orderPart, strip_name_keyword py h.1 k (by decide) (by decide), upper_name_keyword py f k, hD, hA, hr,
    (h.2.1.solid h.1.1).strip, Bool.false_eq_true, if_false, if_true]

/-- One item of ORDER BY, read by `_parse_order_by`. -/
theorem orderPart_text (py : Py) (it : OrderItem) (h : Name py it.field) : orderPart py it.text = it.value py := by
  unfold OrderItem.text OrderItem.words OrderItem.value
  cases it.dir with
  | none => simpa [unwords_singleton] using orderPart_name py h
  | some d =>
    cases d with
    | asc k => simpa [unwords_cons_cons, unwords_singleton, Dir.text] using orderPart_asc py h k
    | desc k => simpa [unwords_cons_cons, unwords_singleton, Dir.text] using orderPart_desc py h k

theorem Dir.comma_not_mem (d : Dir) : ',' ∉ d.text := by
  cases d with
  | asc k => exact k.not_mem (by decide)
  | desc k => exact k.not_mem (by decide)

theorem OrderItem.text_comma {py : Py} (it : OrderItem) (h : Ident py it.field) : ',' ∉ it.text := by
  intro hc
  obtain ⟨w, hw, hcw⟩ := mem_unwords (by decide) hc
  unfold OrderItem.words at hw
  split at hw
  · simp only [List.append_nil, List.mem_singleton] at hw
    exact h.comma_not_mem (hw ▸ hcw)
  · rename_i d _
    simp only [List.append_nil, List.mem_cons, List.mem_singleton, List.not_mem_nil, or_false] at hw
    rcases hw with rfl | rfl
    · exact h.comma_not_mem hcw
    · exact d.comma_not_mem hcw

/-- `_parse_order_by` on the items of ORDER BY. -/
theorem parseOrderBy_items (py : Py) {its : List OrderItem} (hne : its ≠ []) (h : ∀ it ∈ its, Name py it.field) :
    parseOrderBy py (unwords (OrderItem.listWords its)) = .list (its.map (OrderItem.value py)) := by
  obtain ⟨it, its', rfl⟩ := List.exists_cons_of_ne_nil hne
  rw [unwords_listWords, List.map_cons, parseOrderBy_commaList py, ← List.map_cons, List.map_map]
  · exact congrArg PyVal.list (List.map_congr_left fun x hx => orderPart_text py x (h x hx))
  · intro y hy
    rw [← List.map_cons] at hy
    obtain ⟨x, hx, rfl⟩ := List.mem_map.mp hy
    exact x.text_comma (h x hx).1

/-! ## The limit and the offset -/

theorem isDigit_ascii {c : Char} (h : c.isDigit = true) : c.toNat < 128 := by
  simp only [Char.isDigit, Bool.and_eq_true, decide_eq_true_eq] at h
  have : c.toNat ≤ 57 := by simpa [Char.toNat, UInt32.le_def, Fin.le_def, UInt32.toNat] using h.2
  omega

/-- What `int()` finds in an ASCII digit. -/
theorem digit_facts {c : Char} (h : c.isDigit = true) : c.toNat < 127 ∧ cSpace c = false ∧ c ≠ '_' ∧
    c ≠ '+' ∧ c ≠ '-' ∧ digitValue c < 10 ∧ c.toUpper = c := by
  have key : ∀ n : Fin 128, (Char.ofNat n).isDigit = true → (Char.ofNat n).toNat < 127 ∧
      cSpace (Char.ofNat n) = false ∧ Char.ofNat n ≠ '_' ∧ Char.ofNat n ≠ '+' ∧ Char.ofNat n ≠ '-' ∧
      digitValue (Char.ofNat n) < 10 ∧ (Char.ofNat n).toUpper = Char.ofNat n := by decide
  simpa using key ⟨c.toNat, isDigit_ascii h⟩ (by simpa using h)

theorem digitsAux_digits (acc : Nat) : ∀ {ds : List Char}, (∀ c ∈ ds, c.isDigit = true) →
    digitsAux 10 acc false ds = some (ds.foldl (fun acc c => acc * 10 + (c.toNat - 48)) acc)
  | [], _ => rfl
  | c :: ds, h => by
    have hc := digit_facts (h c (List.mem_cons_self _ _))
    rw [digitsAux, if_neg hc.2.2.1, if_pos hc.2.2.2.2.2.1, List.foldl_cons,
      show digitValue c = c.toNat - 48 by simp [digitValue, h c (List.mem_cons_self _ _)]]
    exact digitsAux_digits _ fun x hx => h x (List.mem_cons_of_mem _ hx)

/-- `int()` reads ASCII text as it is. -/
theorem map_toAsciiNum_ascii (py : Py) {s : List Char} (h : ∀ c ∈ s, c.toNat < 127) : s.map py.toAsciiNum = s :=
  (List.map_congr_left fun c hc => by simp [Py.toAsciiNum, h c hc]).trans (List.map_id _)

theorem cStrip_eq_self {s : List Char} (h : ∀ c ∈ s, cSpace c = false) : cStrip s = s := by
  have hs : ∀ l : List Char, (∀ c ∈ l, cSpace c = false) → l.dropWhile cSpace = l := fun l hl => by
    cases l with
    | nil => rfl
    | cons c l => simp [List.dropWhile_cons, hl c (List.mem_cons_self _ _)]
  rw [cStrip, hs _ h, hs _ fun c hc => h c (List.mem_reverse.mp hc), List.reverse_reverse]

theorem digitsValue_numeral {ds : List Char} (h : Numeral ds) : digitsValue 10 ds = some (decValue ds) := by
  obtain ⟨d, ds', rfl⟩ := List.exists_cons_of_ne_nil h.1
  have hd := digit_facts (h.2 d (List.mem_cons_self _ _))
  have hdv : digitValue d = d.toNat - 48 := by simp [digitValue, h.2 d (List.mem_cons_self _ _)]
  rw [digitsValue, if_pos hd.2.2.2.2.2.1, digitsAux_digits _ fun c hc => h.2 c (List.mem_cons_of_mem _ hc), hdv]
  simp [decValue]

/-- `int(ds)` of a numeral within the digit limit: its decimal value. -/
theorem toInt_numeral (py : Py) {ds : List Char} (h : Numeral ds) (hfit : py.digitsFit ds.length = true) :
    py.toInt 10 ds = some (decValue ds) := by
  obtain ⟨d, ds', rfl⟩ := List.exists_cons_of_ne_nil h.1
  have hd := digit_facts (h.2 d (List.mem_cons_self _ _))
  have hsign : takeSign (d :: ds') = (false, d :: ds') := by
    unfold takeSign; split <;> simp_all
  have hcount : (d :: ds').countP Char.isDigit = ds'.length + 1 := List.countP_eq_length.mpr h.2
  have hfit' : py.digitsFit (ds'.length + 1) = true := hfit
  simp [Py.toInt, map_toAsciiNum_ascii py fun c hc => (digit_facts (h.2 c hc)).1,
    cStrip_eq_self fun c hc => (digit_facts (h.2 c hc)).2.1, hsign, hcount, hfit', digitsValue_numeral h]

theorem pyInt_numeral (py : Py) {ds : List Char} (h : Numeral ds) (hfit : py.digitsFit ds.length = true) :
    pyInt py ds = .ok (decValue ds) := by
  simp [pyInt, toInt_numeral py h hfit]

/-- The limit and the offset, read by `_parse_select` after ` LIMIT `. -/
theorem limitOffset_words (py : Py) (l : Limit) (hn : Numeral l.digits ∧ py.digitsFit l.digits.length = true)
    (ho : ∀ o ∈ l.offset, Numeral o.digits ∧ py.digitsFit o.digits.length = true) :
    limitOffset py (unwords l.words.tail) =
      .ok ((decValue l.digits : Int), l.offset.map fun o => (decValue o.digits : Int)) := by
  cases hoff : l.offset with
  | none =>
    have hf : find " OFFSET ".toList (upper py l.digits) = none := by
      rw [upper_numeral py hn.1, ← List.append_nil l.digits, find_word_append (p := " OFFSET ".toList) rfl hn.1.word]
      rfl
    simp only [Limit.words, hoff, List.tail_cons, unwords_singleton, limitOffset, hf, firstWord,
      splitWs_solid py hn.1.solid, ok_bind, pyInt_numeral py hn.1 hn.2]
    rfl
  | some o =>
    have hod := ho o (by simp [hoff])
    have ht : unwords l.words.tail = l.digits ++ ' ' :: (o.offsetKw.text ++ ' ' :: o.digits) := by
      simp only [Limit.words, hoff, List.tail_cons, unwords_cons_cons, unwords_singleton]
    have hup : upper py (unwords l.words.tail) = l.digits ++ (" OFFSET ".toList ++ o.digits) := by
      rw [ht, upper_append, upper_cons, upper_space, upper_append, upper_cons, upper_space, o.offsetKw.upper py,
        upper_numeral py hn.1, upper_numeral py hod.1]
      rfl
    have hf : find " OFFSET ".toList (upper py (unwords l.words.tail)) = some l.digits.length := by
      rw [hup, find_word_append (p := " OFFSET ".toList) rfl hn.1.word, find_at_head (by simp)]
      simp
    have hd : (unwords l.words.tail).drop (l.digits.length + 8) = o.digits := by
      rw [ht, show l.digits.length + 8 = l.digits.length + o.offsetKw.text.length + 2 by
        rw [o.offsetKw.length_eq]; rfl, drop_two_words]
    have htk : (unwords l.words.tail).take l.digits.length = l.digits := by rw [ht, List.take_left]
    simp only [limitOffset, hf, hd, htk, hn.1.solid.strip, hod.1.solid.strip, pyInt_numeral py hn.1 hn.2,
      pyInt_numeral py hod.1 hod.2, ok_bind]
    rfl

namespace SelectStmt

variable {py : Py} {st : SelectStmt}

theorem parseSelect_text (h : st.WF py) : parseSelect py st.text = .ok (st.parsed py) := by
  have hO : (st.order.map fun _ => (unwords (st.entity :: st.condWords)).length).map (fun o =>
      parseOrderBy py (strip py (List.drop (o + 10)
        (List.take (unwords (st.entity :: (st.condWords ++ st.orderWords))).length st.afterFrom)))) =
      st.order.map fun o => .list (o.items.map (OrderItem.value py)) := by
    cases ho : st.order with
    | none => rfl
    | some o =>
      obtain ⟨hne, hits⟩ := h.order o (by simp [ho])
      rw [Option.map_some', Option.map_some', order_text h ho, parseOrderBy_items py hne hits]
      rfl
  have hW : ∀ c, st.cond = some c → parseWhere py (strip py (List.drop (st.entity.length + 7)
      (List.take (unwords (st.entity :: st.condWords)).length st.afterFrom))) = .ok (c.filter py) := fun c hc => by
    obtain ⟨hf, hv, -⟩ := h.cond c (by simp [hc])
    rw [where_text h hc, parseWhere_cond py c hf.1 hv]
  have hL : ∀ l, st.limit = some l → limitOffset py (strip py (List.drop
      ((unwords (st.entity :: (st.condWords ++ st.orderWords))).length + 7) st.afterFrom)) =
      .ok ((decValue l.digits : Int), l.offset.map fun o => (decValue o.digits : Int)) := fun l hl => by
    obtain ⟨hn, hof⟩ := h.limit l (by simp [hl])
    rw [limit_text h hl, limitOffset_words py l hn hof]
  simp only [parseSelect, drop_select h, find_from h, fields_eq h, remaining_eq h, find_where h, find_order h,
    find_limit h, entity_end, where_end, limit_end, entity_eq h, hO, parsed]
  generalize hF : find " OFFSET ".toList (upper py st.afterFrom) = F
  have hnone : (∀ l ∈ st.limit, l.offset = none) → F = none := fun hno => hF ▸ find_offset h hno
  rcases hc : st.cond with _ | c <;> rcases hl : st.limit with _ | l
  · rw [hnone (by simp [hl])]; rfl
  · cases hoff : l.offset
    · simp [hL l hl, hoff, hnone (by simp [hl, hoff])]
    · cases F <;> simp [hL l hl, hoff]
  · simp [hW c hc, hnone (by simp [hl])]
  · cases hoff : l.offset
    · simp [hW c hc, hL l hl, hoff, hnone (by simp [hl, hoff])]
    · cases F <;> simp [hW c hc, hL l hl, hoff]

end SelectStmt

/-- `_parse_select` inverts the SELECT grammar. -/
theorem parse_select_inverts_grammar (py : Py) (st : SelectStmt) (h : st.WF py) :
    parseSelect py st.text = .ok (st.parsed py) :=
  SelectStmt.parseSelect_text h

/-- `SELECT id, Name FROM users where note LIKE 'a where b offset c' ORDER BY
name desc, id limit 10 Offset 5`: WHERE and OFFSET stand in the literal. -/
def sampleSelect : SelectStmt where
  selectKw := ⟨"SELECT".toList, by decide, rfl⟩
  fields := .names ["id".toList, "Name".toList]
  fromKw := ⟨"FROM".toList, by decide, rfl⟩
  entity := "users".toList
  cond := some ⟨⟨"where".toList, by decide, rfl⟩, "note".toList, .like ⟨"LIKE".toList, by decide, rfl⟩,
    "'a where b offset c'".toList⟩
  order := some ⟨⟨"ORDER".toList, by decide, rfl⟩, ⟨"BY".toList, by decide, rfl⟩,
    [⟨"name".toList, some (.desc ⟨"desc".toList, by decide, rfl⟩)⟩, ⟨"id".toList, none⟩]⟩
  limit := some ⟨⟨"limit".toList, by decide, rfl⟩, "10".toList, some ⟨⟨"Offset".toList, by decide, rfl⟩, "5".toList⟩⟩

theorem parse_select_inverts_grammar_sample :
    sampleSelect.WF Py.ascii ∧ parseSelect Py.ascii sampleSelect.text = .ok (sampleSelect.parsed Py.ascii) := by
  have h : sampleSelect.WF Py.ascii := by
    refine ⟨by decide, fun fs hfs => ?_, fun c hc => ?_, fun o ho => ?_, fun l hl => ?_⟩
    · cases hfs; decide
    · cases hc
      exact ⟨by decide, ⟨by decide, by decide, by decide, by decide, by decide, by decide,
        fun h => absurd (h.subset (List.mem_cons_self _ _)) (by decide)⟩, fun _ => ⟨_, rfl, Option.some_ne_none _⟩⟩
    · cases ho; exact ⟨List.cons_ne_nil _ _, by decide⟩
    · cases hl; exact ⟨by decide, fun o ho => by cases ho; decide⟩
  exact ⟨h, parse_select_inverts_grammar Py.ascii sampleSelect h⟩

/-- A quoted literal with ` LIMIT ` inside is cut there: `SELECT * FROM t WHERE
a = 'x LIMIT 5 y'` reads the limit 5 and the value `'x`. -/
theorem select_literal_cut_at_limit :
    (Lit.quoted '\'' "x LIMIT 5 y".toList).wf = true ∧
    parseSelect Py.ascii (SelectStmt.text ⟨⟨"SELECT".toList, by decide, rfl⟩, .star, ⟨"FROM".toList, by decide, rfl⟩,
      "t".toList, some ⟨⟨"WHERE".toList, by decide, rfl⟩, "a".toList, .eq, (Lit.quoted '\'' "x LIMIT 5 y".toList).text⟩,
      none, none⟩) =
      .ok ⟨"t".toList, ["*".toList], some (.dict [("field".toList, .str "a".toList), ("op".toList, .str "eq".toList),
        ("value".toList, .str "'x".toList)]), none, some 5, none⟩ := by
  decide

/-! ## What `execute` posts for a SELECT -/

section Posted

variable (py : Py) (post : Request → Reply)

theorem dispatch_select {op rest : List Char} (h : upper py op = "SELECT".toList ++ rest) :
    dispatch py post op = executeQuery py post op := by
  simp [dispatch, h]

/-- A SELECT that parses posts its query; reading the reply posts nothing more. -/
theorem executeQuery_posted {sql : List Char} {sel : Select} (h : parseSelect py sql = .ok sel) (s : Session) :
    (after (executeQuery py post sql s)).posted =
      s.posted ++ [⟨s.cursor.baseUrl ++ "/query".toList, queryPayload sel⟩] := by
  unfold executeQuery
  rw [h, bind_liftExcept_ok]
  refine posted_postJson_bind post _ _ (fun _ => ?_) s
  refine NoPost.bind (noPost_liftExcept _) fun entities => ?_
  cases entities with
  | nil => exact NoPost.bind (noPost_setCursor _) fun _ => noPost_setCursor _
  | cons row rows =>
    exact NoPost.bind (noPost_liftExcept _) fun _ => NoPost.bind (noPost_setCursor _) fun _ =>
      NoPost.bind (noPost_liftExcept _) fun _ => NoPost.bind (noPost_setCursor _) fun _ => noPost_setCursor _

end Posted

namespace SelectStmt

variable {py : Py} {st : SelectStmt}

theorem strip_text (h : st.WF py) : strip py st.text = st.text := by
  have he := EndsOk.append_left (st.selectKw.text :: st.fields.words ++ [st.fromKw.text]) h.entity.1.1
    (after_endsOk h)
  simp only [List.cons_append, List.append_assoc, List.singleton_append] at he
  exact strip_unwords_cons (st.selectKw.solid (by decide) (by decide)) he

theorem upper_text (st : SelectStmt) : ∃ rest, upper py st.text = "SELECT".toList ++ rest :=
  ⟨_, by rw [text_eq, upper_append, st.selectKw.upper py]⟩

/-- A SELECT of the grammar, on an open cursor, posts one request: the query
of the statement's parts. -/
theorem execute_posts_query (post : Request → Reply) {s : Session} (hs : s.cursor.closed = false) (h : st.WF py) :
    (after (execute py post st.text none s)).posted =
      s.posted ++ [⟨s.cursor.baseUrl ++ "/query".toList, queryPayload (st.parsed py)⟩] := by
  obtain ⟨rest, hup⟩ : ∃ rest, upper py st.text = "SELECT".toList ++ rest := st.upper_text
  rw [ormdb.dbapi.execute_posted py post (strip_text h) hs, dispatch_select py post hup,
    executeQuery_posted py post (parseSelect_text h)]
  rfl

end SelectStmt

/-! ## Compound conditions -/

end ormdb.dbapi
