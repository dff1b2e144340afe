-- Text as words joined by single spaces, the shape of the statements the
-- cursor parses: where `str.find` finds a key of several words, what
-- `strip()`, `upper()` and `replace()` make of such text, and keywords
-- written in any letter case.
import Ormdb.Statements

namespace ormdb.dbapi

open ormdb.py ormdb.regex

/-! ## Words joined by spaces -/

/-- Words joined by single spaces. -/
def unwords (ws : List (List Char)) : List Char := [' '].intercalate ws

/-- Whether the words `ks` stand at the start of `ws`, with a word after them. -/
def startsKey (ks ws : List (List Char)) : Bool := ks.isPrefixOf ws && ks.length < ws.length

/-- Where the first space stands that the words `ks` and a space follow, in the
words `ws` joined by spaces. -/
def wordFind (ks : List (List Char)) : List (List Char) → Option Nat
  | [] => none
  | w :: ws => if startsKey ks ws then some w.length else (wordFind ks ws).map (· + (w.length + 1))

/-- A word: text without a space. -/
def Word (w : List Char) : Prop := ' ' ∉ w

instance (w : List Char) : Decidable (Word w) := inferInstanceAs (Decidable (' ' ∉ w))

@[simp] theorem unwords_nil : unwords [] = [] := rfl

theorem unwords_cons_cons (w v : List Char) (vs : List (List Char)) :
    unwords (w :: v :: vs) = w ++ ' ' :: unwords (v :: vs) := by
  simp [unwords, List.intercalate, List.intersperse_cons_cons]

theorem unwords_singleton (w : List Char) : unwords [w] = w := by
  simp [unwords, List.intercalate]

/-- A key that starts with a space is never found inside a word. -/
theorem find_word_append {p : List Char} (hp : p.head? = some ' ') {w : List Char} (hw : Word w)
    (s : List Char) : find p (w ++ s) = (find p s).map (· + w.length) := by
  induction w with
  | nil => simp
  | cons c w ih =>
    have hc : c ≠ ' ' := fun h => hw (h ▸ List.mem_cons_self _ _)
    have hnp : p.isPrefixOf (c :: (w ++ s)) = false := by
      obtain ⟨t, rfl⟩ : ∃ t, p = ' ' :: t := by
        cases p with
        | nil => cases hp
        | cons x t => cases hp; exact ⟨t, rfl⟩
      simp [List.isPrefixOf, Ne.symm hc]
    rw [List.cons_append, find_cons_of_not_prefix hnp, ih (fun h => hw (List.mem_cons_of_mem _ h))]
    cases find p s with
    | none => rfl
    | some i => simp only [Option.map_some', List.length_cons, Option.some.injEq]; omega

/-- Text that starts with a word and a space starts with another word and a
space only when the two words are the same. -/
theorem word_prefix_iff {k w : List Char} (hk : Word k) (hw : Word w) (t r : List Char) :
    (k ++ ' ' :: t) <+: (w ++ ' ' :: r) ↔ k = w ∧ t <+: r := by
  induction k generalizing w with
  | nil =>
    cases w with
    | nil => simp [List.cons_prefix_cons]
    | cons d w =>
      have hd : ' ' ≠ d := fun h => hw (h ▸ List.mem_cons_self _ _)
      simp [List.cons_prefix_cons, hd]
  | cons c k ih =>
    cases w with
    | nil =>
      have hc : c ≠ ' ' := fun h => hk (h ▸ List.mem_cons_self _ _)
      simp [List.cons_prefix_cons, hc]
    | cons d w =>
      simp only [List.cons_append, List.cons_prefix_cons, List.cons.injEq,
        ih (fun h => hk (List.mem_cons_of_mem _ h)) (fun h => hw (List.mem_cons_of_mem _ h))]
      tauto

theorem not_word_prefix {k w : List Char} (hw : Word w) (t : List Char) : ¬ (k ++ ' ' :: t) <+: w :=
  fun h => hw (h.subset (by simp))

/-- The words `ks` and a space start the words `ws` joined by spaces exactly
when the words `ks` start `ws` with a word after them. -/
theorem unwords_prefix_iff {ks : List (List Char)} (hks : ks ≠ []) (hk : ∀ k ∈ ks, Word k)
    {ws : List (List Char)} (hw : ∀ w ∈ ws, Word w) :
    (unwords ks ++ [' ']) <+: unwords ws ↔ startsKey ks ws = true := by
  induction ks generalizing ws with
  | nil => exact absurd rfl hks
  | cons k ks ih =>
    have hk₀ : Word k := hk k (List.mem_cons_self _ _)
    match ws, hw with
    | [], _ => simp [unwords_nil, startsKey]
    | [w], hw =>
      have : ¬ (unwords (k :: ks) ++ [' ']) <+: w := by
        cases ks with
        | nil => simpa [unwords_singleton] using not_word_prefix (k := k) (hw w (List.mem_singleton_self _)) []
        | cons k' ks =>
          rw [unwords_cons_cons, List.append_assoc, List.cons_append]
          exact not_word_prefix (hw w (List.mem_singleton_self _)) _
      have hs : startsKey (k :: ks) [w] = false := by simp [startsKey]
      simp only [unwords_singleton, this, hs, Bool.false_eq_true]
    | w :: v :: vs, hw =>
      have hw₀ : Word w := hw w (List.mem_cons_self _ _)
      rw [unwords_cons_cons]
      cases ks with
      | nil =>
        rw [unwords_singleton, show k ++ [' '] = k ++ ' ' :: [] from rfl, word_prefix_iff hk₀ hw₀]
        simp [startsKey, List.isPrefixOf]
      | cons k' ks =>
        rw [unwords_cons_cons, List.append_assoc, List.cons_append, word_prefix_iff hk₀ hw₀,
          ih (List.cons_ne_nil _ _) (fun x hx => hk x (List.mem_cons_of_mem _ hx))
            (fun x hx => hw x (List.mem_cons_of_mem _ hx))]
        simp [startsKey, List.isPrefixOf, and_assoc]

/-- Searching words joined by spaces for ` k1 ... kn ` finds the first place
where the words `ks` stand with a word after them. -/
theorem find_unwords {ks : List (List Char)} (hks : ks ≠ []) (hk : ∀ k ∈ ks, Word k) :
    ∀ {ws : List (List Char)}, (∀ w ∈ ws, Word w) →
      find (' ' :: (unwords ks ++ [' '])) (unwords ws) = wordFind ks ws
  | [], _ => rfl
  | [w], hw => by
    have hs : startsKey ks [] = false := by simp [startsKey]
    rw [unwords_singleton, ← List.append_nil w, find_word_append (p := ' ' :: (unwords ks ++ [' '])) rfl (hw w (List.mem_singleton_self _))]
    simp [wordFind, hs, find]
  | w :: v :: vs, hw => by
    have hp : (' ' :: (unwords ks ++ [' '])).isPrefixOf (' ' :: unwords (v :: vs)) = startsKey ks (v :: vs) := by
      rw [Bool.eq_iff_iff, List.isPrefixOf_iff_prefix, List.cons_prefix_cons,
        unwords_prefix_iff hks hk fun x hx => hw x (List.mem_cons_of_mem _ hx)]
      simp
    rw [unwords_cons_cons, find_word_append (p := ' ' :: (unwords ks ++ [' '])) rfl (hw w (List.mem_cons_self _ _)), find, hp, wordFind,
      find_unwords hks hk fun x hx => hw x (List.mem_cons_of_mem _ hx)]
    cases startsKey ks (v :: vs)
    · cases wordFind ks (v :: vs) with
      | none => rfl
      | some i => simp only [if_false, Bool.false_eq_true, Option.map_some']; congr 1; omega
    · simp

/-- The key stands at none of the words `xs`, which the words `ys` follow. -/
def Clear (ks xs ys : List (List Char)) : Prop :=
  ∀ i < xs.length, startsKey ks ((xs ++ ys).drop i) = false

theorem Clear.nil (ks ys : List (List Char)) : Clear ks [] ys := fun i hi => absurd hi (Nat.not_lt_zero i)

theorem Clear.cons {ks xs ys : List (List Char)} {x : List Char} (hx : startsKey ks (x :: xs ++ ys) = false)
    (h : Clear ks xs ys) : Clear ks (x :: xs) ys
  | 0, _ => hx
  | i + 1, hi => h i (by simpa using hi)

theorem Clear.append {ks a b ys : List (List Char)} (ha : Clear ks a (b ++ ys)) (hb : Clear ks b ys) :
    Clear ks (a ++ b) ys := by
  intro i hi
  rw [List.append_assoc]
  by_cases h : i < a.length
  · exact ha i h
  · rw [List.drop_append_eq_append_drop, List.drop_eq_nil_of_le (by omega), List.nil_append]
    exact hb _ (by simp at hi; omega)

/-- A key stands at no word that is not its first. -/
theorem Clear.of_not_mem {k : List Char} {ks xs : List (List Char)} (h : k ∉ xs) (ys : List (List Char)) :
    Clear (k :: ks) xs ys := by
  intro i hi
  rw [List.drop_append_of_le_length hi.le, List.drop_eq_getElem_cons hi]
  have : k ≠ xs[i] := fun he => h (he ▸ List.getElem_mem hi)
  simp [startsKey, List.isPrefixOf, this]

/-- A key of two words stands at no word of `xs` when its words stand side by
side nowhere in `xs` and its second word does not start `ys`. -/
theorem Clear.of_not_infix {a b : List Char} {xs ys : List (List Char)} (h : ¬ [a, b] <:+: xs)
    (hy : ∀ y ∈ ys.head?, y ≠ b) : Clear [a, b] xs ys := by
  intro i hi
  rw [Bool.eq_false_iff]
  intro hs
  simp only [startsKey, Bool.and_eq_true, List.isPrefixOf_iff_prefix] at hs
  rw [List.drop_append_of_le_length hi.le] at hs
  by_cases hi' : i + 1 < xs.length
  · refine h ((List.prefix_of_prefix_length_le hs.1 (List.prefix_append _ _) ?_).isInfix.trans
      (List.drop_suffix i xs).isInfix)
    simp; omega
  · have hd : xs.drop i = [xs[i]] := by
      rw [List.drop_eq_getElem_cons hi, List.drop_eq_nil_of_le (by omega)]
    rw [hd, List.singleton_append, List.cons_prefix_cons] at hs
    obtain ⟨y, ys', rfl⟩ : ∃ y ys', ys = y :: ys' := by
      cases ys with
      | nil => simp at hs
      | cons y ys' => exact ⟨y, ys', rfl⟩
    rw [List.cons_prefix_cons] at hs
    exact hy y rfl hs.1.2.1.symm

/-- Words at which the key does not stand are passed over. -/
theorem wordFind_append (ks : List (List Char)) :
    ∀ (w : List Char) (xs ys : List (List Char)), Clear ks xs ys →
      wordFind ks ((w :: xs) ++ ys) = if startsKey ks ys then some (unwords (w :: xs)).length
        else (wordFind ks ys).map (· + ((unwords (w :: xs)).length + 1))
  | w, [], ys, _ => by simp [wordFind, unwords_singleton]
  | w, x :: xs, ys, h => by
    have h0 : startsKey ks (x :: xs ++ ys) = false := h 0 (Nat.succ_pos _)
    rw [List.cons_append, wordFind, h0, if_neg (by simp),
      wordFind_append ks x xs ys fun i hi => h (i + 1) (by simp; omega), unwords_cons_cons]
    split
    · simp; omega
    · cases wordFind ks ys with
      | none => rfl
      | some j => simp; omega

/-- A key that stands at no word is not found. -/
theorem wordFind_eq_none (ks : List (List Char)) :
    ∀ (w : List Char) (xs : List (List Char)), Clear ks xs [] → wordFind ks (w :: xs) = none
  | w, [], _ => by simp [wordFind, startsKey]
  | w, x :: xs, h => by
    have h0 : startsKey ks (x :: xs) = false := by simpa using h 0 (Nat.succ_pos _)
    rw [wordFind, h0, if_neg (by simp), wordFind_eq_none ks x xs fun i hi => h (i + 1) (by simp; omega)]
    rfl

theorem unwords_append {xs ys : List (List Char)} (hx : xs ≠ []) (hy : ys ≠ []) :
    unwords (xs ++ ys) = unwords xs ++ ' ' :: unwords ys := by
  induction xs with
  | nil => exact absurd rfl hx
  | cons x xs ih =>
    cases xs with
    | nil =>
      obtain ⟨y, ys, rfl⟩ := List.exists_cons_of_ne_nil hy
      simp [unwords_cons_cons, unwords_singleton]
    | cons x' xs =>
      rw [List.cons_append, List.cons_append, unwords_cons_cons, ← List.cons_append, ih (List.cons_ne_nil _ _),
        unwords_cons_cons]
      simp

@[simp] theorem upper_space (py : Py) : py.upperChar ' ' = [' '] := rfl

theorem upper_unwords (py : Py) (ws : List (List Char)) : upper py (unwords ws) = unwords (ws.map (upper py)) := by
  induction ws with
  | nil => rfl
  | cons w ws ih =>
    cases ws with
    | nil => simp [unwords_singleton]
    | cons v vs => rw [unwords_cons_cons, List.map_cons, List.map_cons, unwords_cons_cons, upper_append,
        upper_cons, upper_space, ih, List.map_cons]; rfl

/-- The pieces of a text split at its spaces are words. -/
theorem word_of_mem_splitOn {s w : List Char} (h : w ∈ s.splitOn ' ') : Word w := by
  induction s generalizing w with
  | nil => simp at h; subst h; simp [Word]
  | cons x s ih =>
    change w ∈ List.splitOnP (· == ' ') (x :: s) at h
    rw [List.splitOnP_cons] at h
    split at h
    · rcases List.mem_cons.mp h with rfl | h
      · simp [Word]
      · exact ih h
    · rename_i hx
      obtain ⟨v, vs, hv⟩ := List.exists_cons_of_ne_nil (List.splitOnP_ne_nil (· == ' ') s)
      rw [hv, List.modifyHead_cons, List.mem_cons] at h
      rcases h with rfl | h
      · have hv' : v ∈ s.splitOn ' ' := by
          change v ∈ List.splitOnP (· == ' ') s
          rw [hv]; exact List.mem_cons_self _ _
        simpa [Word, eq_comm] using And.intro (fun h' => hx (by simp [h'])) (ih hv')
      · exact ih (by change w ∈ List.splitOnP (· == ' ') s; rw [hv]; exact List.mem_cons_of_mem _ h)

/-! ## Keywords in any letter case -/

/-- A keyword as a statement writes it: the keyword in any letter case. -/
structure Keyword (kw : List Char) where
  text : List Char
  ascii : ∀ c ∈ text, c.toNat < 128
  toUpper_eq : text.map Char.toUpper = kw

theorem upper_ascii (py : Py) {s : List Char} (h : ∀ c ∈ s, c.toNat < 128) : upper py s = s.map Char.toUpper := by
  induction s with
  | nil => rfl
  | cons c s ih =>
    rw [upper_cons, upperChar_ascii py (h c (List.mem_cons_self _ _)),
      ih fun x hx => h x (List.mem_cons_of_mem _ hx)]
    rfl

theorem toLower_toUpper {c : Char} (h : c.toNat < 128) : c.toUpper.toLower = c.toLower := by
  have key : ∀ n : Fin 128, (Char.ofNat n).toUpper.toLower = (Char.ofNat n).toLower := by decide
  simpa using key ⟨c.toNat, h⟩

theorem toUpper_eq_space {c : Char} (h : c.toNat < 128) : c.toUpper = ' ' ↔ c = ' ' := by
  have key : ∀ n : Fin 128, ((Char.ofNat n).toUpper = ' ') = ((Char.ofNat n) = ' ') := by decide
  simpa using key ⟨c.toNat, h⟩

theorem toUpper_ascii {c : Char} (h : c.toNat < 128) : c.toUpper.toNat < 128 := by
  have key : ∀ n : Fin 128, (Char.ofNat n).toUpper.toNat < 128 := by decide
  simpa using key ⟨c.toNat, h⟩

/-- ASCII text in any case matches its upper case under `re.IGNORECASE`. -/
theorem eatLit_toUpper (py : Py) {s : List Char} (hs : ∀ c ∈ s, c.toNat < 128) (rest : List Char) :
    eatLit py true (s.map Char.toUpper) (s ++ rest) = some rest := by
  induction s with
  | nil => rfl
  | cons c s ih =>
    have hc := hs c (List.mem_cons_self _ _)
    rw [List.map_cons, List.cons_append, eatLit, charEq, if_pos rfl,
      caseEq_ascii py (toUpper_ascii hc) hc, toLower_toUpper hc, beq_self_eq_true, if_pos rfl]
    exact ih fun x hx => hs x (List.mem_cons_of_mem _ hx)

namespace Keyword

variable {kw : List Char} (k : Keyword kw)

theorem upper (py : Py) : upper py k.text = kw := by rw [upper_ascii py k.ascii, k.toUpper_eq]

theorem length_eq : k.text.length = kw.length := by
  simpa using congrArg List.length k.toUpper_eq

theorem word (hkw : Word kw) : Word k.text := fun h =>
  hkw (k.toUpper_eq ▸ List.mem_map.mpr ⟨' ', h, rfl⟩)

/-- A keyword in any case matches its pattern under `re.IGNORECASE`. -/
theorem eatLit (py : Py) (rest : List Char) : regex.eatLit py true kw (k.text ++ rest) = some rest := by
  have h := eatLit_toUpper py k.ascii rest
  rwa [k.toUpper_eq] at h

end Keyword

theorem unwords_ne_nil_iff {ws : List (List Char)} (hw : ∀ w ∈ ws, w ≠ []) : unwords ws = [] ↔ ws = [] := by
  cases ws with
  | nil => simp
  | cons w ws =>
    cases ws with
    | nil => simpa [unwords_singleton] using hw w (List.mem_singleton_self _)
    | cons v vs => simp [unwords_cons_cons]

/-- Cutting words joined by spaces after their first words. -/
theorem take_unwords_append {xs : List (List Char)} (hx : xs ≠ []) (ys : List (List Char)) :
    (unwords (xs ++ ys)).take (unwords xs).length = unwords xs := by
  cases ys with
  | nil => simp
  | cons y ys => rw [unwords_append hx (List.cons_ne_nil _ _), List.take_left']; rfl

theorem drop_unwords_append {xs : List (List Char)} (hx : xs ≠ []) (ys : List (List Char)) :
    (unwords (xs ++ ys)).drop ((unwords xs).length + 1) = unwords ys := by
  cases ys with
  | nil => simp [List.drop_eq_nil_of_le]
  | cons y ys =>
    rw [unwords_append hx (List.cons_ne_nil _ _), List.drop_append_eq_append_drop,
      List.drop_eq_nil_of_le (by omega), List.nil_append, Nat.add_sub_cancel_left]
    rfl

/-! ## Upper case, word by word -/

theorem length_unwords_map (f : List Char → List Char) :
    ∀ {ws : List (List Char)}, (∀ w ∈ ws, (f w).length = w.length) →
      (unwords (ws.map f)).length = (unwords ws).length
  | [], _ => rfl
  | [w], h => by simpa [unwords_singleton] using h w (List.mem_singleton_self _)
  | w :: v :: vs, h => by
    rw [List.map_cons, List.map_cons, unwords_cons_cons, unwords_cons_cons, ← List.map_cons]
    simp only [List.length_append, List.length_cons, h w (List.mem_cons_self _ _),
      length_unwords_map f fun x hx => h x (List.mem_cons_of_mem _ hx)]

/-- `ws'` are the words of the upper case of the words `ws` joined by spaces,
and as long. -/
structure UpperWords (py : Py) (ws ws' : List (List Char)) : Prop where
  upper_eq : upper py (unwords ws) = unwords ws'
  nil_iff : ws = [] ↔ ws' = []
  length_eq : (unwords ws').length = (unwords ws).length
  words : ∀ w ∈ ws', Word w

namespace UpperWords

variable {py : Py}

theorem nil : UpperWords py [] [] := ⟨rfl, Iff.rfl, rfl, by simp⟩

theorem append {xs xs' ys ys' : List (List Char)} (hx : UpperWords py xs xs') (hy : UpperWords py ys ys') :
    UpperWords py (xs ++ ys) (xs' ++ ys') := by
  by_cases hxn : xs = []
  · have : xs' = [] := hx.nil_iff.mp hxn
    subst hxn this
    simpa using hy
  by_cases hyn : ys = []
  · have : ys' = [] := hy.nil_iff.mp hyn
    subst hyn this
    simpa using hx
  have hxn' : xs' ≠ [] := fun h => hxn (hx.nil_iff.mpr h)
  have hyn' : ys' ≠ [] := fun h => hyn (hy.nil_iff.mpr h)
  refine ⟨?_, by simp [hxn, hxn'], ?_, ?_⟩
  · rw [unwords_append hxn hyn, unwords_append hxn' hyn', upper_append, upper_cons, upper_space, hx.upper_eq,
      hy.upper_eq]
    rfl
  · rw [unwords_append hxn hyn, unwords_append hxn' hyn']
    simp [hx.length_eq, hy.length_eq]
  · intro w hw
    rcases List.mem_append.mp hw with h | h
    · exact hx.words w h
    · exact hy.words w h

theorem cons {x x' : List Char} {ys ys' : List (List Char)} (hx : UpperWords py [x] [x'])
    (hy : UpperWords py ys ys') : UpperWords py (x :: ys) (x' :: ys') := hx.append hy

/-- A text of its own: the words of its upper case. -/
theorem text {v : List Char} (h : (upper py v).length = v.length) :
    UpperWords py (v.splitOn ' ') ((upper py v).splitOn ' ') := by
  refine ⟨?_, ?_, ?_, fun w hw => word_of_mem_splitOn hw⟩
  · simp only [unwords, List.intercalate_splitOn]
  · simp [List.splitOn, List.splitOnP_ne_nil]
  · simp only [unwords, List.intercalate_splitOn, h]

end UpperWords

/-! ## Words whose upper case is a word as long -/

/-- A word whose upper case is as long as itself and holds no whitespace: the
positions found in the upper case are those of the word. -/
def UpperOk (py : Py) (w : List Char) : Prop :=
  (upper py w).length = w.length ∧ ∀ c ∈ upper py w, py.isspace c = false

instance (py : Py) (w : List Char) : Decidable (UpperOk py w) := inferInstanceAs (Decidable (_ ∧ _))

/-- ASCII text without whitespace. -/
def AsciiSolid (w : List Char) : Prop := ∀ c ∈ w, c.toNat < 128 ∧ c.toNat ∉ [9, 10, 11, 12, 13, 28, 29, 30, 31, 32]

instance (w : List Char) : Decidable (AsciiSolid w) := inferInstanceAs (Decidable (∀ c ∈ w, _))

@[simp] theorem upper_comma (py : Py) : py.upperChar ',' = [','] := rfl

section UpperOk

variable {py : Py}

theorem AsciiSolid.not_space {w : List Char} (h : AsciiSolid w) : ∀ c ∈ w, py.isspace c = false := fun c hc => by
  rw [isspace_ascii py (h c hc).1]
  simpa using (h c hc).2

theorem AsciiSolid.map_toUpper {w : List Char} (h : AsciiSolid w) : AsciiSolid (w.map Char.toUpper) := by
  have key : ∀ n : Fin 128, (Char.ofNat n).toNat ∉ [9, 10, 11, 12, 13, 28, 29, 30, 31, 32] →
      (Char.ofNat n).toUpper.toNat < 128 ∧
        (Char.ofNat n).toUpper.toNat ∉ [9, 10, 11, 12, 13, 28, 29, 30, 31, 32] := by decide
  intro c hc
  obtain ⟨d, hd, rfl⟩ := List.mem_map.mp hc
  simpa using key ⟨d.toNat, (h d hd).1⟩ (by simpa using (h d hd).2)

theorem UpperOk.of_asciiSolid {w : List Char} (h : AsciiSolid w) : UpperOk py w := by
  rw [UpperOk, upper_ascii py fun c hc => (h c hc).1]
  exact ⟨List.length_map _ _, h.map_toUpper.not_space⟩

/-- The upper case holds no space. -/
theorem UpperOk.word {w : List Char} (h : UpperOk py w) : Word (upper py w) := fun hs => by
  have := h.2 ' ' hs
  rw [isspace_space] at this
  cases this

theorem UpperOk.upperWords {w : List Char} (h : UpperOk py w) : UpperWords py [w] [upper py w] :=
  ⟨by simp [unwords_singleton], by simp, by simpa [unwords_singleton] using h.1, by simpa using h.word⟩

/-- Words each of whose upper case is a word as long: their upper case, word
by word. -/
theorem UpperWords.of_upperOk {ws : List (List Char)} (h : ∀ w ∈ ws, UpperOk py w) :
    UpperWords py ws (ws.map (upper py)) := by
  refine ⟨upper_unwords py ws, by simp, length_unwords_map _ fun w hw => (h w hw).1, fun w hw => ?_⟩
  obtain ⟨u, hu, rfl⟩ := List.mem_map.mp hw
  exact (h u hu).word

theorem UpperOk.append_comma {w : List Char} (h : UpperOk py w) : UpperOk py (w ++ [',']) := by
  simp only [UpperOk, upper_append, upper_cons, upper_comma, upper_nil, List.append_nil, List.length_append,
    h.1, List.length_singleton, List.mem_append, List.mem_singleton, true_and]
  rintro c (hc | rfl)
  · exact h.2 c hc
  · rfl

theorem Keyword.upperOk {kw : List Char} (k : Keyword kw) (h : AsciiSolid kw) : UpperOk py k.text :=
  ⟨by rw [k.upper py, k.length_eq], by rw [k.upper py]; exact h.not_space⟩

theorem UpperWords.keyword {kw : List Char} (k : Keyword kw) (h : AsciiSolid kw) : UpperWords py [k.text] [kw] := by
  have hu := (k.upperOk h : UpperOk py k.text).upperWords
  rwa [k.upper py] at hu

end UpperOk

/-- Words joined by spaces that do not end in whitespace. -/
def EndsOk (py : Py) (ws : List (List Char)) : Prop := ∀ c ∈ (unwords ws).getLast?, py.isspace c = false

theorem EndsOk.append {py : Py} {xs ys : List (List Char)} (hx : xs ≠ []) (hxo : EndsOk py xs)
    (hy : ys = [] ∨ (unwords ys ≠ [] ∧ EndsOk py ys)) : EndsOk py (xs ++ ys) := by
  rcases hy with rfl | ⟨hy, hyo⟩
  · simpa using hxo
  · have hyn : ys ≠ [] := fun h => hy (h ▸ rfl)
    intro c hc
    obtain ⟨u, us, hu⟩ := List.exists_cons_of_ne_nil hy
    rw [unwords_append hx hyn, List.getLast?_append_of_ne_nil _ (List.cons_ne_nil _ _), hu,
      List.getLast?_cons_cons, ← hu] at hc
    exact hyo c hc

theorem EndsOk.word {py : Py} {w : List Char} (h : ∀ c ∈ w, py.isspace c = false) : EndsOk py [w] := by
  intro c hc
  rw [unwords_singleton] at hc
  exact h c (List.mem_of_mem_getLast? hc)

theorem EndsOk.cons {py : Py} {w : List Char} {ws : List (List Char)}
    (h : ∀ c ∈ w.getLast?, py.isspace c = false) (hws : ws = [] ∨ (unwords ws ≠ [] ∧ EndsOk py ws)) :
    EndsOk py (w :: ws) :=
  EndsOk.append (List.cons_ne_nil w []) (by intro c hc; rw [unwords_singleton] at hc; exact h c hc) hws

theorem Keyword.not_space {kw : List Char} (k : Keyword kw) (hkw : ∀ c ∈ kw, c.isAlpha = true) (py : Py) :
    ∀ c ∈ k.text, py.isspace c = false := by
  have key : ∀ n : Fin 128, decide ((Char.ofNat n).toNat ∈ [9, 10, 11, 12, 13, 28, 29, 30, 31, 32]) = true →
      (Char.ofNat n).toUpper.isAlpha = false := by decide
  intro c hc
  have ha := k.ascii c hc
  rw [isspace_ascii py ha]
  cases hd : decide (c.toNat ∈ [9, 10, 11, 12, 13, 28, 29, 30, 31, 32]) with
  | false => rfl
  | true =>
    have := key ⟨c.toNat, ha⟩ (by simpa using hd)
    simp only [Fin.val_mk, Char.ofNat_toNat] at this
    rw [hkw _ (k.toUpper_eq ▸ List.mem_map_of_mem _ hc)] at this
    cases this

/-- A segment of words: none, or words that do not end in whitespace. -/
def SegOk (py : Py) (ws : List (List Char)) : Prop := ws = [] ∨ (unwords ws ≠ [] ∧ EndsOk py ws)

theorem SegOk.append {py : Py} {xs ys : List (List Char)} (hx : SegOk py xs) (hy : SegOk py ys) :
    SegOk py (xs ++ ys) := by
  rcases hy with rfl | hy
  · simpa using hx
  rcases hx with rfl | hx
  · simpa using Or.inr hy
  have hxn : xs ≠ [] := fun h => hx.1 (h ▸ rfl)
  have hyn : ys ≠ [] := fun h => hy.1 (h ▸ rfl)
  refine Or.inr ⟨?_, hx.2.append hxn (Or.inr hy)⟩
  rw [unwords_append hxn hyn]
  simp

theorem SegOk.cons {py : Py} {w : List Char} {ws : List (List Char)} (hw : w ≠ [])
    (h : ∀ c ∈ w.getLast?, py.isspace c = false) (hws : SegOk py ws) : SegOk py (w :: ws) := by
  refine Or.inr ⟨?_, EndsOk.cons h hws⟩
  cases ws with
  | nil => simpa [unwords_singleton] using hw
  | cons v vs => simp [unwords_cons_cons]

theorem getLast?_append_cons (a : List Char) (c : Char) {b : List Char} (hb : b ≠ []) :
    (a ++ c :: b).getLast? = b.getLast? := by
  obtain ⟨d, ds, rfl⟩ := List.exists_cons_of_ne_nil hb
  rw [List.getLast?_append_of_ne_nil _ (List.cons_ne_nil _ _), List.getLast?_cons_cons]

/-! ## Words without whitespace -/

/-- A word in which `str.isspace` finds nothing. -/
def Solid (py : Py) (w : List Char) : Prop := w ≠ [] ∧ ∀ c ∈ w, py.isspace c = false

section Solid

variable {py : Py}

theorem Ident.solid {w : List Char} (h : Ident py w) : Solid py w :=
  ⟨h.1, fun c hc => isspace_of_isword py (h.2 c hc)⟩

theorem Keyword.solid {kw : List Char} (k : Keyword kw) (hne : kw ≠ []) (hkw : ∀ c ∈ kw, c.isAlpha = true) :
    Solid py k.text :=
  ⟨fun h => hne (by rw [← k.toUpper_eq, h]; rfl), k.not_space hkw py⟩

theorem Solid.append_comma {w : List Char} (h : Solid py w) : Solid py (w ++ [',']) := by
  refine ⟨by simp, fun c hc => ?_⟩
  rcases List.mem_append.mp hc with hc | hc
  · exact h.2 c hc
  · rw [List.mem_singleton.mp hc]; rfl

theorem unwords_cons_eq (w : List Char) (ws : List (List Char)) : ∃ t, unwords (w :: ws) = w ++ t := by
  cases ws with
  | nil => exact ⟨[], by rw [unwords_singleton, List.append_nil]⟩
  | cons v vs => exact ⟨_, unwords_cons_cons w v vs⟩

theorem head?_unwords_cons {w : List Char} (hw : w ≠ []) (ws : List (List Char)) :
    (unwords (w :: ws)).head? = w.head? := by
  obtain ⟨t, ht⟩ := unwords_cons_eq w ws
  rw [ht, List.head?_append_of_ne_nil _ hw]

theorem unwords_cons_ne_nil {w : List Char} (hw : w ≠ []) (ws : List (List Char)) : unwords (w :: ws) ≠ [] := by
  obtain ⟨t, ht⟩ := unwords_cons_eq w ws
  simp [ht, hw]

/-- Solid words joined by spaces end in no whitespace. -/
theorem EndsOk.of_solid : ∀ {ws : List (List Char)}, (∀ w ∈ ws, Solid py w) → EndsOk py ws
  | [], _ => by simp [EndsOk]
  | [w], h => EndsOk.word (h w (List.mem_singleton_self _)).2
  | w :: v :: vs, h => by
    intro c hc
    rw [unwords_cons_cons, getLast?_append_cons _ _ (unwords_cons_ne_nil (h v (by simp)).1 _)] at hc
    exact EndsOk.of_solid (fun x hx => h x (List.mem_cons_of_mem _ hx)) c hc

/-- Words before others that end in no whitespace change nothing at the end. -/
theorem EndsOk.append_left (xs : List (List Char)) {y : List Char} {ys : List (List Char)} (hy : y ≠ [])
    (h : EndsOk py (y :: ys)) : EndsOk py (xs ++ y :: ys) := by
  by_cases hx : xs = []
  · subst hx; exact h
  · intro c hc
    rw [unwords_append hx (List.cons_ne_nil _ _), getLast?_append_cons _ _ (unwords_cons_ne_nil hy _)] at hc
    exact h c hc

/-- Words joined by spaces, the first solid and the end clean, are their own
`strip()`. -/
theorem strip_unwords_cons {w : List Char} {ws : List (List Char)} (hw : Solid py w) (he : EndsOk py (w :: ws)) :
    strip py (unwords (w :: ws)) = unwords (w :: ws) := by
  refine strip_of_ends py (fun c hc => hw.2 c ?_) he
  rw [head?_unwords_cons hw.1] at hc
  exact List.mem_of_mem_head? hc

/-- The upper case of a non-empty word whose upper case is a word as long. -/
theorem UpperOk.solid {w : List Char} (h : UpperOk py w) (hw : w ≠ []) : Solid py (upper py w) :=
  ⟨fun he => hw (List.length_eq_zero.mp (by rw [← h.1, he]; rfl)), h.2⟩

theorem Solid.strip {w : List Char} (h : Solid py w) : strip py w = w :=
  strip_of_ends py (fun c hc => h.2 c (List.mem_of_mem_head? hc)) fun c hc => h.2 c (List.mem_of_mem_getLast? hc)

theorem strip_unwords_solid {ws : List (List Char)} (h : ∀ w ∈ ws, Solid py w) :
    strip py (unwords ws) = unwords ws := by
  cases ws with
  | nil => rfl
  | cons w ws => exact strip_unwords_cons (h w (List.mem_cons_self _ _)) (EndsOk.of_solid h)

end Solid

/-- Cutting text after a word and the space that follows it. -/
theorem drop_word_space (a b : List Char) : (a ++ ' ' :: b).drop (a.length + 1) = b := by
  rw [List.drop_append_eq_append_drop, List.drop_eq_nil_of_le (by omega), List.nil_append,
    Nat.add_sub_cancel_left]
  rfl

theorem drop_two_words (a b c : List Char) : (a ++ ' ' :: (b ++ ' ' :: c)).drop (a.length + b.length + 2) = c := by
  rw [show a.length + b.length + 2 = (a.length + 1) + (b.length + 1) by omega, ← List.drop_drop,
    drop_word_space, drop_word_space]

theorem unwords_cons_of_ne_nil (w : List Char) {ws : List (List Char)} (hws : ws ≠ []) :
    unwords (w :: ws) = w ++ ' ' :: unwords ws := by
  rw [← List.singleton_append, unwords_append (List.cons_ne_nil _ _) hws, unwords_singleton]

theorem length_unwords_le_append {xs : List (List Char)} (hx : xs ≠ []) (ys : List (List Char)) :
    (unwords xs).length ≤ (unwords (xs ++ ys)).length := by
  have h := List.length_take_le' (unwords xs).length (unwords (xs ++ ys))
  rwa [take_unwords_append hx] at h

theorem Ident.comma_not_mem {py : Py} {w : List Char} (h : Ident py w) : ',' ∉ w :=
  h.not_mem (d := ',') rfl

theorem SegOk.of_solid {py : Py} {ws : List (List Char)} (h : ∀ w ∈ ws, Solid py w) : SegOk py ws := by
  cases ws with
  | nil => exact Or.inl rfl
  | cons w ws => exact Or.inr ⟨unwords_cons_ne_nil (h w (List.mem_cons_self _ _)).1 _, EndsOk.of_solid h⟩

theorem Keyword.map_toLower {kw : List Char} (k : Keyword kw) : k.text.map Char.toLower = kw.map Char.toLower := by
  calc k.text.map Char.toLower = (k.text.map Char.toUpper).map Char.toLower := by
        rw [List.map_map]
        exact List.map_congr_left fun c hc => (toLower_toUpper (k.ascii c hc)).symm
    _ = kw.map Char.toLower := by rw [k.toUpper_eq]

/-- A word of ASCII characters that are not whitespace. -/
theorem solid_of_ascii {py : Py} {w : List Char} (hne : w ≠ [])
    (h : ∀ c ∈ w, c.toNat < 128 ∧ decide (c.toNat ∈ [9, 10, 11, 12, 13, 28, 29, 30, 31, 32]) = false) : Solid py w :=
  ⟨hne, fun c hc => by rw [isspace_ascii py (h c hc).1]; exact (h c hc).2⟩


/-- A key that starts with a space is in a word followed by text only when it
is in the text. -/
theorem contains_word_append (key : List Char) (hk : key.head? = some ' ') {w : List Char} (hw : Word w)
    (s : List Char) : contains (w ++ s) key = contains s key := by
  simp only [contains, find_word_append hk hw]
  cases find key s <;> rfl

theorem replace_go_word_append {old : List Char} (hold : old.head? = some ' ') (new : List Char) {s : List Char}
    (m : Nat) : ∀ {w : List Char}, Word w → replace.go old new (w.length + m) (w ++ s) = w ++ replace.go old new m s
  | [], _ => by simp
  | c :: w, hw => by
    have hc : c ≠ ' ' := fun h => hw (h ▸ List.mem_cons_self _ _)
    have hp : ¬ (old ≠ [] ∧ old.isPrefixOf (c :: (w ++ s)) = true) := by
      obtain ⟨t, rfl⟩ : ∃ t, old = ' ' :: t := by
        cases old with
        | nil => cases hold
        | cons x t => cases hold; exact ⟨t, rfl⟩
      simp [List.isPrefixOf, Ne.symm hc]
    rw [List.length_cons, show w.length + 1 + m = (w.length + m) + 1 by omega, List.cons_append, replace.go,
      if_neg hp, replace_go_word_append hold new m fun h => hw (List.mem_cons_of_mem _ h)]
    rfl

/-- A key that starts with a space is not replaced inside a word. -/
theorem replace_word_append (old : List Char) (hold : old.head? = some ' ') (new : List Char) {w : List Char}
    (hw : Word w) (s : List Char) : replace old new (w ++ s) = w ++ replace old new s := by
  rw [replace, List.length_append, replace_go_word_append hold new _ hw]
  rfl

theorem mem_unwords {c : Char} (hc : c ≠ ' ') : ∀ {ws : List (List Char)}, c ∈ unwords ws → ∃ w ∈ ws, c ∈ w
  | [], h => by simp at h
  | [w], h => ⟨w, List.mem_singleton_self _, by rwa [unwords_singleton] at h⟩
  | w :: v :: vs, h => by
    rw [unwords_cons_cons] at h
    rcases List.mem_append.mp h with h | h
    · exact ⟨w, List.mem_cons_self _ _, h⟩
    · rcases List.mem_cons.mp h with h | h
      · exact absurd h hc
      · obtain ⟨x, hx, hcx⟩ := mem_unwords hc h
        exact ⟨x, List.mem_cons_of_mem _ hx, hcx⟩

theorem Keyword.not_mem {kw : List Char} (k : Keyword kw) {c : Char} (hc : c.toUpper ∉ kw) : c ∉ k.text :=
  fun hm => hc (k.toUpper_eq ▸ List.mem_map_of_mem _ hm)


theorem splitWs_solid (py : Py) {w : List Char} (h : Solid py w) : splitWs py w = [w] := by
  rw [splitWs, List.splitOnP_eq_single _ _ fun c hc => by simp [h.2 c hc]]
  simp [h.1]

theorem find_at_head {sub s : List Char} (hs : sub ≠ []) : find sub (sub ++ s) = some 0 := by
  obtain ⟨c, cs, rfl⟩ := List.exists_cons_of_ne_nil hs
  have hp : (c :: cs).isPrefixOf (c :: (cs ++ s)) = true := List.isPrefixOf_iff_prefix.mpr (List.prefix_append _ s)
  rw [List.cons_append, find, if_pos hp]

end ormdb.dbapi
