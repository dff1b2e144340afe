-- Runs of cursor methods in any order: the rows the fetches return since the
-- last `execute` are always a prefix of the rows it materialized, taken in
-- order; a failed `execute` leaves no rows behind.
import Ormdb.Effects

namespace ormdb.dbapi

open ormdb.py

/-! ## The fetch methods, one equation each -/

section Fetch

variable (s : Session)

theorem fetchone_apply : fetchone s = match s.cursor.rows[s.cursor.rowIndex]? with
    | some row => .ok (some row) { s with cursor := { s.cursor with rowIndex := s.cursor.rowIndex + 1 } }
    | none => .ok none s := by
  simp only [fetchone, bind_get]
  cases s.cursor.rows[s.cursor.rowIndex]? <;> rfl

theorem next_apply : next s = match s.cursor.rows[s.cursor.rowIndex]? with
    | some row => .ok row { s with cursor := { s.cursor with rowIndex := s.cursor.rowIndex + 1 } }
    | none => .error .stopIteration s := by
  have h := fetchone_apply s
  unfold next
  cases hr : s.cursor.rows[s.cursor.rowIndex]? <;> rw [hr] at h <;> exact bind_ok h

theorem fetchmany_apply (size : Option Int) (rows : List (List PyVal))
    (h : pySlice s.cursor.rows s.cursor.rowIndex (s.cursor.rowIndex + size.getD s.cursor.arraysize) = rows) :
    fetchmany size s = .ok rows { s with cursor := { s.cursor with rowIndex := s.cursor.rowIndex + rows.length } } := by
  subst h; rfl

theorem fetchall_apply : fetchall s =
    .ok (s.cursor.rows.drop s.cursor.rowIndex) { s with cursor := { s.cursor with rowIndex := s.cursor.rows.length } } :=
  rfl

theorem close_apply : close s = .ok () { s with cursor := { s.cursor with closed := true, rows := [] } } := rfl

end Fetch

/-- A slice from past the end is empty. -/
theorem pySlice_past {α : Type} (xs : List α) (k : Nat) (j : Int) (hk : xs.length ≤ k) :
    pySlice xs k j = [] := by
  have hb : (if (k : Int) < 0 then max ((k : Int) + xs.length) 0 else min (k : Int) xs.length).toNat =
      xs.length := by
    split <;> omega
  simp only [pySlice, hb]
  exact List.drop_eq_nil_of_le (by rw [List.length_take]; exact Nat.min_le_right _ _)

/-- A slice from the position of the cursor is a run of the rows from there,
whatever its end: a negative end counts from the end of the list. -/
theorem pySlice_run {α : Type} (xs : List α) (k : Nat) (j : Int) :
    ∃ m, pySlice xs k j = (xs.drop k).take m := by
  by_cases hk : k ≤ xs.length
  · have hb : (if (k : Int) < 0 then max ((k : Int) + xs.length) 0 else min (k : Int) xs.length).toNat = k := by
      split <;> omega
    simp only [pySlice, hb, List.drop_take]
    exact ⟨_, rfl⟩
  · exact ⟨0, by rw [pySlice_past xs k j (by omega), List.take_zero]⟩

/-- A run of a list is the prefix of its own length. -/
theorem take_eq_take_length {α : Type} (l : List α) (m : Nat) : l.take m = l.take (l.take m).length :=
  List.prefix_iff_eq_take.mp (List.take_prefix m l)

theorem take_append_drop_length {α : Type} (l : List α) (m : Nat) :
    l.take m ++ l.drop (l.take m).length = l := by
  conv_lhs => arg 1; rw [take_eq_take_length]
  exact List.take_append_drop _ _

/-! ## Runs -/

/-- The methods of the cursor that a run calls; each `execute` meets the
gateway as it answers at that call. -/
inductive Op where
  | execute (operation : List Char) (parameters : Option (List (List Char × PyVal))) (post : Request → Reply)
  | fetchone
  | next
  | fetchmany (size : Option Int)
  | fetchall
  | close

section Runs

variable (py : Py)

/-- One call, and the rows it returned. -/
def Op.run : Op → CursorM (List (List PyVal))
  | .execute operation parameters post => do dbapi.execute py post operation parameters; pure []
  | .fetchone => do return (← dbapi.fetchone).toList
  | .next => do return [← dbapi.next]
  | .fetchmany size => dbapi.fetchmany size
  | .fetchall => dbapi.fetchall
  | .close => do dbapi.close; pure []

/-- What a run has seen since its last `execute`: the rows that `execute`
materialized (none when it raised), the rows returned since, and whether the
cursor was closed since. -/
structure History where
  result : List (List PyVal)
  fetched : List (List PyVal)
  closedSince : Bool
  deriving DecidableEq

/-- The history before the first `execute`. -/
def History.init : History := ⟨[], [], false⟩

/-- The history after one call, from what the call did. -/
def History.record (h : History) : Op → EStateM.Result PyErr Session (List (List PyVal)) → History
  | .execute _ _ _, .ok _ s => ⟨s.cursor.rows, [], false⟩
  | .execute _ _ _, .error _ _ => ⟨[], [], false⟩
  | .close, _ => { h with closedSince := true }
  | _, .ok rows _ => { h with fetched := h.fetched ++ rows }
  | _, .error _ _ => h

/-- A run: each call on the session the previous one left, whether it
returned or raised (the caller goes on after an exception). -/
def runOps : List Op → Session × History → Session × History
  | [], sh => sh
  | o :: os, (s, h) => runOps os (after (o.run py s), h.record o (o.run py s))

end Runs

/-- The cursor and the history agree at position `k`: the rows fetched since
the last `execute` are its first `k` rows; while the cursor is open it holds
those rows at position `k`, and a closed cursor holds none. -/
structure Agrees (s : Session) (h : History) (k : Nat) : Prop where
  le : k ≤ h.result.length
  fetched : h.fetched = h.result.take k
  opened : s.cursor.closed = false → s.cursor.rows = h.result ∧ s.cursor.rowIndex = k
  shut : s.cursor.closed = true → s.cursor.rows = []

section Steps

variable (py : Py) {s : Session} {h : History} {k : Nat}

theorem agrees_init (baseUrl : List Char) : Agrees (Session.init baseUrl) History.init 0 :=
  ⟨le_rfl, rfl, fun _ => ⟨rfl, rfl⟩, fun h => nomatch h⟩

theorem agrees_execute (operation : List Char) (parameters : Option (List (List Char × PyVal)))
    (post : Request → Reply) (ha : Agrees s h k) :
    ∃ k', Agrees (after ((Op.execute operation parameters post).run py s))
      (h.record (.execute operation parameters post) ((Op.execute operation parameters post).run py s)) k' := by
  refine ⟨0, ?_⟩
  cases hc : s.cursor.closed
  · have hf := execute_frame py post operation parameters hc
    simp only [Cursor.frame, Prod.mk.injEq] at hf
    cases he : execute py post operation parameters s with
    | ok _ s' =>
      rw [he] at hf
      simp only [Op.run, bind_ok he, History.record, after_ok, pure_apply]
      exact ⟨Nat.zero_le _, rfl, fun _ => ⟨rfl, hf.1⟩, fun h => (nomatch hf.2.1.symm.trans h)⟩
    | error e s' =>
      rw [he] at hf
      have hcl := execute_raises_clean py post operation parameters hc he
      simp only [Op.run, bind_error he, History.record, after_error]
      exact ⟨Nat.zero_le _, rfl, fun _ => ⟨hcl.1, hf.1⟩, fun _ => hcl.1⟩
  · simp only [Op.run, bind_error (execute_of_closed py post operation parameters hc),
      History.record, after_error]
    exact ⟨Nat.zero_le _, rfl, fun h => (nomatch hc.symm.trans h), fun _ => ha.shut hc⟩

/-- A fetch that returns the next `m` rows (as many as there are) and moves
the position past them; a closed cursor may move its position anywhere. -/
theorem Agrees.advance (ha : Agrees s h k) (m : Nat) (s' : Session)
    (hrows : s'.cursor.rows = s.cursor.rows) (hc : s'.cursor.closed = s.cursor.closed)
    (hi : s.cursor.closed = false →
      s'.cursor.rowIndex = s.cursor.rowIndex + ((s.cursor.rows.drop s.cursor.rowIndex).take m).length) :
    ∃ k', Agrees s' { h with fetched := h.fetched ++ (s.cursor.rows.drop s.cursor.rowIndex).take m } k' := by
  cases hcl : s.cursor.closed
  · obtain ⟨hr, hk⟩ := ha.opened hcl
    rw [hr, hk] at hi ⊢
    have hlen : ((h.result.drop k).take m).length ≤ h.result.length - k :=
      (List.length_take_le' _ _).trans (List.length_drop _ _).le
    have hle := ha.le
    refine ⟨k + ((h.result.drop k).take m).length, show _ ≤ h.result.length by omega, ?_,
      fun _ => ⟨hrows.trans hr, hi hcl⟩, fun h' => (nomatch hcl.symm.trans (hc.symm.trans h'))⟩
    show h.fetched ++ _ = _
    rw [ha.fetched, List.take_add, ← take_eq_take_length]
  · have hnil := ha.shut hcl
    refine ⟨k, ha.le, ?_, fun h' => (nomatch hcl.symm.trans (hc.symm.trans h')), fun _ => hrows.trans hnil⟩
    simpa [hnil] using ha.fetched

/-- The row at the position, as the next run of one row. -/
theorem take_one_of_getElem? {rows : List (List PyVal)} {i : Nat} {row : List PyVal}
    (h : rows[i]? = some row) : (rows.drop i).take 1 = [row] := by
  obtain ⟨hlt, rfl⟩ := List.getElem?_eq_some_iff.mp h
  rw [List.drop_eq_getElem_cons hlt]; rfl

theorem agrees_fetchone (ha : Agrees s h k) :
    ∃ k', Agrees (after (Op.fetchone.run py s)) (h.record .fetchone (Op.fetchone.run py s)) k' := by
  have hf := fetchone_apply s
  cases hrow : s.cursor.rows[s.cursor.rowIndex]? with
  | none =>
    rw [hrow] at hf
    rw [show Op.fetchone.run py s = .ok [] s from bind_ok hf]
    simpa [History.record] using ha.advance 0 s rfl rfl fun _ => rfl
  | some row =>
    rw [hrow] at hf
    rw [show Op.fetchone.run py s = .ok [row] _ from bind_ok hf]
    have ha' := ha.advance 1 { s with cursor := { s.cursor with rowIndex := s.cursor.rowIndex + 1 } }
      rfl rfl fun _ => by rw [take_one_of_getElem? hrow]; rfl
    rwa [take_one_of_getElem? hrow] at ha'

theorem agrees_next (ha : Agrees s h k) :
    ∃ k', Agrees (after (Op.next.run py s)) (h.record .next (Op.next.run py s)) k' := by
  have hf := next_apply s
  cases hrow : s.cursor.rows[s.cursor.rowIndex]? with
  | none =>
    rw [hrow] at hf
    rw [show Op.next.run py s = .error .stopIteration s from bind_error hf]
    exact ⟨k, ha⟩
  | some row =>
    rw [hrow] at hf
    rw [show Op.next.run py s = .ok [row] _ from bind_ok hf]
    have ha' := ha.advance 1 { s with cursor := { s.cursor with rowIndex := s.cursor.rowIndex + 1 } }
      rfl rfl fun _ => by rw [take_one_of_getElem? hrow]; rfl
    rwa [take_one_of_getElem? hrow] at ha'

theorem agrees_fetchmany (size : Option Int) (ha : Agrees s h k) :
    ∃ k', Agrees (after ((Op.fetchmany size).run py s))
      (h.record (.fetchmany size) ((Op.fetchmany size).run py s)) k' := by
  obtain ⟨m, hm⟩ := pySlice_run s.cursor.rows s.cursor.rowIndex
    (s.cursor.rowIndex + size.getD s.cursor.arraysize)
  rw [show (Op.fetchmany size).run py s = _ from fetchmany_apply s size _ hm]
  exact ha.advance m _ rfl rfl fun _ => rfl

theorem agrees_fetchall (ha : Agrees s h k) :
    ∃ k', Agrees (after (Op.fetchall.run py s)) (h.record .fetchall (Op.fetchall.run py s)) k' := by
  have ha' := ha.advance (s.cursor.rows.drop s.cursor.rowIndex).length
    { s with cursor := { s.cursor with rowIndex := s.cursor.rows.length } } rfl rfl fun hc => by
      obtain ⟨hr, hk⟩ := ha.opened hc
      have hle := ha.le
      show s.cursor.rows.length = _
      rw [List.take_length, List.length_drop, hr, hk]
      omega
  rw [List.take_length] at ha'
  exact ha'

theorem agrees_close (ha : Agrees s h k) :
    ∃ k', Agrees (after (Op.close.run py s)) (h.record .close (Op.close.run py s)) k' :=
  ⟨k, ha.le, ha.fetched, fun h' => (nomatch h'), fun _ => rfl⟩

/-- Every call keeps the cursor and the history in agreement. -/
theorem agrees_step (o : Op) (ha : Agrees s h k) :
    ∃ k', Agrees (after (o.run py s)) (h.record o (o.run py s)) k' := by
  cases o with
  | execute operation parameters post => exact agrees_execute py operation parameters post ha
  | fetchone => exact agrees_fetchone py ha
  | next => exact agrees_next py ha
  | fetchmany size => exact agrees_fetchmany py size ha
  | fetchall => exact agrees_fetchall py ha
  | close => exact agrees_close py ha

/-- Every run keeps the cursor and the history in agreement. -/
theorem agrees_runOps (ops : List Op) (ha : Agrees s h k) :
    ∃ k', Agrees (runOps py ops (s, h)).1 (runOps py ops (s, h)).2 k' := by
  induction ops generalizing s h k with
  | nil => exact ⟨k, ha⟩
  | cons o os ih =>
    obtain ⟨k', ha'⟩ := agrees_step py o ha
    exact ih ha'

end Steps

/-! ## What a consistent cursor gives next -/

section Next

variable {s : Session} {h : History} {k : Nat}

/-- No row is left at the position exactly when the cursor is closed or all
the rows of the result were fetched. -/
theorem Agrees.getElem?_eq_none_iff (ha : Agrees s h k) :
    s.cursor.rows[s.cursor.rowIndex]? = none ↔ s.cursor.closed = true ∨ k = h.result.length := by
  rw [List.getElem?_eq_none_iff]
  cases hc : s.cursor.closed
  · obtain ⟨hr, hk⟩ := ha.opened hc
    have hle := ha.le
    simp only [hr, hk, false_or, Bool.false_eq_true]
    omega
  · simp [ha.shut hc]

theorem Agrees.fetchone_none_iff (ha : Agrees s h k) :
    fetchone s = .ok none s ↔ s.cursor.closed = true ∨ k = h.result.length := by
  rw [← ha.getElem?_eq_none_iff, fetchone_apply]
  cases s.cursor.rows[s.cursor.rowIndex]? <;> simp

theorem Agrees.next_stop_iff (ha : Agrees s h k) :
    next s = .error .stopIteration s ↔ s.cursor.closed = true ∨ k = h.result.length := by
  rw [← ha.getElem?_eq_none_iff, next_apply]
  cases s.cursor.rows[s.cursor.rowIndex]? <;> simp

end Next

/-! ## `fetchmany` until it returns nothing -/

/-- Calling `fetchmany(n)` until it returns `[]`, at most `fuel` times: the
rows of all the calls. -/
def fetchmanyLoop (n : Int) : Nat → CursorM (List (List PyVal))
  | 0 => pure []
  | fuel + 1 => do
    let batch ← fetchmany (some n)
    if batch = [] then pure [] else return batch ++ (← fetchmanyLoop n fuel)

/-- A forward slice of at least one row from a position inside the list. -/
theorem pySlice_forward {α : Type} (xs : List α) (k : Nat) (n : Int) (hk : k < xs.length) (hn : 1 ≤ n) :
    ∃ m, 1 ≤ m ∧ pySlice xs k (k + n) = (xs.drop k).take m := by
  have hb : (if (k : Int) < 0 then max ((k : Int) + xs.length) 0 else min (k : Int) xs.length).toNat = k := by
    split <;> omega
  have hj : k + 1 ≤ (if (k : Int) + n < 0 then max ((k : Int) + n + xs.length) 0
      else min ((k : Int) + n) xs.length).toNat := by
    split <;> omega
  simp only [pySlice, hb, List.drop_take]
  exact ⟨_, by omega, rfl⟩

/-- With `n ≥ 1` and enough calls, the loop returns the rows from the position
to the end, as one `fetchall` does. -/
theorem fetchmanyLoop_rows (n : Int) (hn : 1 ≤ n) (fuel : Nat) (s : Session)
    (hfuel : s.cursor.rows.length - s.cursor.rowIndex < fuel) :
    ∃ s', fetchmanyLoop n fuel s = .ok (s.cursor.rows.drop s.cursor.rowIndex) s' := by
  induction fuel generalizing s with
  | zero => omega
  | succ fuel ih =>
    by_cases hk : s.cursor.rowIndex < s.cursor.rows.length
    · obtain ⟨m, hm, hslice⟩ := pySlice_forward s.cursor.rows s.cursor.rowIndex n hk hn
      have hne : (s.cursor.rows.drop s.cursor.rowIndex).take m ≠ [] := by
        simp only [ne_eq, List.take_eq_nil_iff, List.drop_eq_nil_iff, not_or]
        omega
      have hlen : 1 ≤ ((s.cursor.rows.drop s.cursor.rowIndex).take m).length := by
        cases hh : (s.cursor.rows.drop s.cursor.rowIndex).take m
        · exact absurd hh hne
        · simp
      obtain ⟨s', hs'⟩ := ih { s with cursor := { s.cursor with rowIndex :=
        s.cursor.rowIndex + ((s.cursor.rows.drop s.cursor.rowIndex).take m).length } } (by
          show s.cursor.rows.length - (s.cursor.rowIndex + _) < fuel
          omega)
      refine ⟨s', ?_⟩
      rw [fetchmanyLoop, bind_ok (fetchmany_apply s (some n) _ hslice), if_neg hne, bind_ok hs']
      show EStateM.Result.ok (_ ++ List.drop (_ + _) _) s' = _
      rw [← List.drop_drop, take_append_drop_length]
    · have hnil : s.cursor.rows.drop s.cursor.rowIndex = [] := List.drop_eq_nil_of_le (by omega)
      rw [fetchmanyLoop, bind_ok (fetchmany_apply s (some n) _
        (pySlice_past s.cursor.rows s.cursor.rowIndex _ (by omega))), if_pos rfl, hnil]
      exact ⟨_, rfl⟩

/-! ## Runs from a new cursor -/

/-- Every run of cursor methods from a new cursor: the rows fetched since the
last `execute` are the first `k` rows it materialized, with `k` the position
while the cursor is open, and a closed cursor has no rows left to give;
`fetchone` gives `None` and `__next__` raises `StopIteration` exactly when the
cursor is closed or all `k` rows were fetched; and `fetchmany(n)` with `n ≥ 1`
called until it returns `[]` gives the rows of one `fetchall`. -/
theorem fetches_follow_result (py : Py) (baseUrl : List Char) (ops : List Op) :
    let run := runOps py ops (Session.init baseUrl, History.init)
    (∃ k ≤ run.2.result.length, run.2.fetched = run.2.result.take k ∧
      (run.1.cursor.closed = false → run.1.cursor.rows = run.2.result ∧ run.1.cursor.rowIndex = k) ∧
      (run.1.cursor.closed = true → run.1.cursor.rows = []) ∧
      (fetchone run.1 = .ok none run.1 ↔ run.1.cursor.closed = true ∨ k = run.2.result.length) ∧
      (next run.1 = .error .stopIteration run.1 ↔ run.1.cursor.closed = true ∨ k = run.2.result.length)) ∧
    ∀ n ≥ 1, ∀ fuel, run.1.cursor.rows.length - run.1.cursor.rowIndex < fuel →
      ∃ rows s₁ s₂, fetchmanyLoop n fuel run.1 = .ok rows s₁ ∧ fetchall run.1 = .ok rows s₂ := by
  intro run
  obtain ⟨k, ha⟩ := agrees_runOps py ops (agrees_init baseUrl)
  refine ⟨⟨k, ha.le, ha.fetched, ha.opened, ha.shut, ha.fetchone_none_iff, ha.next_stop_iff⟩, ?_⟩
  intro n hn fuel hfuel
  obtain ⟨s₁, hs₁⟩ := fetchmanyLoop_rows n hn fuel run.1 hfuel
  exact ⟨_, s₁, _, hs₁, fetchall_apply run.1⟩

/-- A gateway that answers every query with the one row `{"a": 1}`. -/
def answerOneRow : Request → Reply := fun _ =>
  .answered 200 (.json (.dict [("data".toList, .dict [("entities".toList,
    .list [.dict [("rows".toList, .list [.dict [("a".toList, .int 1)]])]])])]))

/-- Rows fetched before a `close` stay fetched: with the result taken as empty
once the cursor is closed, the rows fetched since the last `execute` are no
prefix of it. -/
theorem fetched_rows_outlive_close :
    ¬ ∀ (py : Py) (baseUrl : List Char) (ops : List Op),
      let run := runOps py ops (Session.init baseUrl, History.init)
      let result := if run.2.closedSince then [] else run.2.result
      ∃ k ≤ result.length, run.2.fetched = result.take k := by
  intro h
  obtain ⟨k, -, hk⟩ := h Py.ascii [] [.execute "SELECT * FROM t".toList none answerOneRow, .fetchone, .close]
  have hrun : (runOps Py.ascii [.execute "SELECT * FROM t".toList none answerOneRow, .fetchone, .close]
      (Session.init [], History.init)).2 = ⟨[[.int 1]], [[.int 1]], true⟩ := by decide
  rw [hrun] at hk
  simp at hk

/-! ## A failed `execute` -/

/-- A failed `execute`: on a closed cursor an `InterfaceError` that changes
nothing; on an open one no rows, the position at 0, no last inserted id, the
cursor still open, and the very failure it has from the same session with the
previous result reset, so that nothing of that result is read. -/
theorem execute_failure_clears (py : Py) (post : Request → Reply) (operation : List Char)
    (parameters : Option (List (List Char × PyVal))) {s s' : Session} {e : PyErr}
    (he : execute py post operation parameters s = .error e s') :
    (s.cursor.closed = true ∧ e = .interfaceError "Cursor is closed".toList ∧ s' = s) ∨
    (s.cursor.closed = false ∧ s'.cursor.rows = [] ∧ s'.cursor.rowIndex = 0 ∧
      s'.cursor.lastInsertedId = .none ∧ s'.cursor.closed = false ∧
      execute py post operation parameters { s with cursor := s.cursor.reset } = .error e s') := by
  cases hc : s.cursor.closed
  · have hf := execute_frame py post operation parameters hc
    rw [he] at hf
    simp only [after_error, Cursor.frame, Prod.mk.injEq] at hf
    have hcl := execute_raises_clean py post operation parameters hc he
    exact .inr ⟨rfl, hcl.1, hf.1, hcl.2, hf.2.1, (execute_forgets_result py post operation parameters hc).symm.trans he⟩
  · rw [execute_of_closed py post operation parameters hc] at he
    cases he
    exact .inl ⟨rfl, rfl, rfl⟩

end ormdb.dbapi
