import NodeCatalog.Session
/-!
# Outcomes of steps that may fail

Reasoning about the two layers of failure in the library: a pure step that may stop with a fault
(`Except Fault`), and an operation on a session (`Run`), which may stop with a fault and keeps the
session as it was at that point. Both carry the exceptions of `src/tools/extract_schemas.py` and
`src/tools/extract_docs.py`.

- `Except.bind_eq_ok`, `Except.bind_eq_error`: what a chained step's outcome says about its
  parts.
- `Except.exists_ok_of_isOk`, `Except.eq_ok_of_toOption`: a step known to succeed, for
  evaluating steps on given inputs.
-/

namespace NodeCatalog

namespace Except

variable {ε α β : Type} {x : Except ε α} {f : α → Except ε β}

/-- A chained step succeeds exactly when its first part does and the rest succeeds on that
result. -/
theorem bind_eq_ok {b : β} : x >>= f = .ok b ↔ ∃ a, x = .ok a ∧ f a = .ok b := by
  cases x <;> simp [bind, Except.bind]

/-- A chained step fails exactly when its first part fails, or the first part succeeds and the
rest fails on that result. -/
theorem bind_eq_error {e : ε} :
    x >>= f = .error e ↔ x = .error e ∨ ∃ a, x = .ok a ∧ f a = .error e := by
  cases x <;> simp [bind, Except.bind]

/-- A step known to succeed has a result. -/
theorem exists_ok_of_isOk (h : x.isOk = true) : ∃ a, x = .ok a := by
  cases x with
  | error e => simp [Except.isOk, Except.toBool] at h
  | ok a => exact ⟨a, rfl⟩

/-- A step whose result is known succeeds with it. -/
theorem eq_ok_of_toOption {a : α} (h : x.toOption = some a) : x = .ok a := by
  cases x with
  | error e => simp [Except.toOption] at h
  | ok a' => simp_all [Except.toOption]

end Except

end NodeCatalog
