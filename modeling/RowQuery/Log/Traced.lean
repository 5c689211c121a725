import RowQuery.Log.Record

/-!
# Results with a trace

Work that logs gives a `Traced` result: what came out of it, and the records it logged
on the way, in order. Which of the records are written is decided afterwards, so the
threshold of the log cannot change a result.

Work in sequence appends its records. After an error nothing more happens, and what
was logged before it stays.
-/

namespace RowQuery

/-- The outcome of work that logs. -/
structure Traced (ε α : Type) where
  /-- What was logged, in order. -/
  records : List LogRecord
  result : Except ε α

namespace Traced

variable {ε α β : Type}

/-- Work that logs nothing. -/
def ofExcept (result : Except ε α) : Traced ε α := ⟨[], result⟩

/-- Work that only logs. -/
def log (record : LogRecord) : Traced ε Unit := ⟨[record], .ok ()⟩

/-- Work, and then more work on what came out of it. -/
def andThen (first : Traced ε α) (next : α → Traced ε β) : Traced ε β :=
  match first.result with
  | .ok value => ⟨first.records ++ (next value).records, (next value).result⟩
  | .error error => ⟨first.records, .error error⟩

instance : Monad (Traced ε) where
  pure value := ⟨[], .ok value⟩
  bind := andThen

instance : MonadExceptOf ε (Traced ε) where
  throw error := ⟨[], .error error⟩
  tryCatch work handle :=
    match work.result with
    | .ok _ => work
    | .error error => ⟨work.records ++ (handle error).records, (handle error).result⟩

instance : MonadLift (Except ε) (Traced ε) := ⟨ofExcept⟩

@[simp]
theorem pure_eq (value : α) : (pure value : Traced ε α) = ⟨[], .ok value⟩ := rfl

@[simp]
theorem bind_ok (records : List LogRecord) (value : α) (next : α → Traced ε β) :
    ((⟨records, .ok value⟩ : Traced ε α) >>= next) =
      ⟨records ++ (next value).records, (next value).result⟩ := rfl

@[simp]
theorem bind_error (records : List LogRecord) (error : ε) (next : α → Traced ε β) :
    ((⟨records, .error error⟩ : Traced ε α) >>= next) = ⟨records, .error error⟩ := rfl

instance : LawfulMonad (Traced ε) := by
  refine LawfulMonad.mk' (Traced ε) ?_ ?_ ?_
  · intro _ work
    obtain ⟨records, result⟩ := work
    cases result <;> simp [Functor.map, andThen]
  · intro _ _ _ _
    simp
  · intro _ _ _ work first second
    obtain ⟨records, result⟩ := work
    cases result with
    | error _ => rfl
    | ok value => cases found : (first value).result <;> simp [bind, andThen, found]

end Traced

end RowQuery
