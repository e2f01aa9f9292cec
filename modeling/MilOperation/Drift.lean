import MilOperation.Reinference

/-!
Contract: what the re-inference check without overwrite decides.

Without `overwrite_output` the re-inference loop writes nothing, so it is a check: each
existing output against its new type and value. The type must stay compatible, and a known
value that differs from the known old one must be symbol-compatible with it. The loop raises
the first failure, or an index error when there are more new types than outputs.

Owns: the check as a pure function and the theorem that re-inference is exactly that check;
what follows from it: on array values the check raises only the two drift `ValueError`s, and
exactly where a value or type drifts, which by the compatibility law (`SymbolicArray`) is a
position holding two non-symbolic elements that differ; and a second inference on unchanged
inputs passes whenever every value equals itself. Also the two values where that fails: a NaN, and the
Python list of a list output.

Does not own: the overwrite branch (`Reinference`).
-/

namespace MilOperation

variable {E : Type}

/-! ## The check -/

section Check

variable (env : Collaborators E) (opName : Option String)

/-- The checks of one iteration of the loop without overwrite: the output `outVar` against the
new type and value. -/
def driftCheck (outVar : OutVar E) (symType : Ty) (symVal : Option (PyVal E)) :
    Except PyError Unit := do
  if !env.isCompatibleType symType outVar.symType then
    throw (.valueError ("Output Var " ++ showName outVar.name ++ " in op " ++ showName opName ++
      " type changes with new input Vars"))
  match symVal, outVar.symVal with
  | some new, some old =>
      if (← anyNotEqual env new old) then
        if !(← isCompatibleSymbolicArray env new old) then
          throw (.valueError ("value_inference differs for var " ++ showName outVar.name ++
            " in op " ++ showName opName))
  | _, _ => pure ()

def driftChecks : List (OutVar E) → List (Ty × Option (PyVal E)) → Except PyError Unit
  | _, [] => .ok ()
  | [], _ :: _ => .error (.indexError "list index out of range")
  | outVar :: outs, (symType, symVal) :: rest => do
      driftCheck env opName outVar symType symVal
      driftChecks outs rest

end Check

theorem checkOutputs_cons_noOverwrite (env : Collaborators E) {s : State E} {i : Nat} {o : OutVar E}
    (found : outputAt s i = .ok o) (symType : Ty) (symVal : Option (PyVal E))
    (items : List (Ty × Option (PyVal E))) :
    checkOutputs env false i ((symType, symVal) :: items) s =
      match driftCheck env s.op.name o symType symVal with
      | .ok () => checkOutputs env false (i + 1) items s
      | .error e => .error e s := by
  simp only [checkOutputs, checkValue, bind_apply, get_apply, found, fromExcept_ok,
    Bool.false_eq_true, if_false, pure_apply, driftCheck]
  cases env.isCompatibleType symType o.symType
  · rfl
  simp only [Bool.not_true, raiseIf_false, pure_apply, found, fromExcept_ok]
  rcases symVal with _ | new
  · rfl
  rcases o with ⟨_, _, _ | old, _, _, _⟩
  · rfl
  dsimp only
  cases anyNotEqual env new old with
  | error e => rfl
  | ok differs =>
      cases differs
      · rfl
      cases isCompatibleSymbolicArray env new old with
      | error e => rfl
      | ok tolerated => cases tolerated <;> rfl

theorem checkOutputs_noOverwrite (env : Collaborators E) (s : State E) :
    ∀ (items : List (Ty × Option (PyVal E))) (pre rest : List (OutVar E)),
      s.op.outputVars = some (pre ++ rest) →
      checkOutputs env false pre.length items s = match driftChecks env s.op.name rest items with
        | .ok () => .ok () s
        | .error e => .error e s
  | [], _, rest, _ => by cases rest <;> rfl
  | (symType, symVal) :: items, pre, [], outputs => by
      simp only [checkOutputs, bind_apply, get_apply, outputAt_append outputs, fromExcept_error]
      rfl
  | (symType, symVal) :: items, pre, o :: rest, outputs => by
      have later := checkOutputs_noOverwrite env s items (pre ++ [o]) rest (by simpa using outputs)
      rw [List.length_append, List.length_singleton] at later
      rw [checkOutputs_cons_noOverwrite env (outputAt_append outputs), later]
      simp only [driftChecks]
      cases driftCheck env s.op.name o symType symVal <;> rfl

/-- **Re-inference without overwrite is the drift check**: on an op with outputs it raises
what the stages raise, or the first failure of `driftChecks`, and otherwise returns, the state
untouched in every case. -/
theorem reinference_eq_driftChecks (env : Collaborators E) (kind : OpKind E) {st : State E}
    {outs : List (OutVar E)} (existing : st.op.outputVars = some outs) :
    typeValueInference env kind false st = match inferStages kind st.op.inputVars with
      | .error e => .error e st
      | .ok (outputTypes, outputVals, _) =>
          match driftChecks env st.op.name outs (outputTypes.zip outputVals) with
          | .ok () => .ok () st
          | .error e => .error e st := by
  rw [typeValueInference_eq]
  rcases inferStages kind st.op.inputVars with e | ⟨outputTypes, outputVals, outputNames⟩
  · rfl
  · simp only [existing]
    exact checkOutputs_noOverwrite env st _ [] outs existing

theorem reinference_error_iff (env : Collaborators E) (kind : OpKind E) {st st' : State E}
    {outs : List (OutVar E)} {outputTypes : List Ty} {outputVals : List (Option (PyVal E))}
    {outputNames : List String} (existing : st.op.outputVars = some outs)
    (staged : inferStages kind st.op.inputVars = .ok (outputTypes, outputVals, outputNames))
    (e : PyError) :
    typeValueInference env kind false st = .error e st' ↔
      driftChecks env st.op.name outs (outputTypes.zip outputVals) = .error e ∧ st' = st := by
  rw [reinference_eq_driftChecks env kind existing, staged]
  dsimp only
  cases driftChecks env st.op.name outs (outputTypes.zip outputVals) <;> simp [eq_comm]

/-! ## Concrete `const` ops -/

/-- A `const` op whose folded value is the fp32 vector `[element]`. -/
def constKind (element : Scalar) : OpKind Scalar where
  opType := "const"
  inputSpec := ⟨[], by decide, by decide⟩
  typeDomains := fun _ => none
  typeInference := fun _ => .ok (.one (.tensor .fp32 [.known 1]))
  valueInference := fun _ => .ok (.one (.value (.array ⟨[1], [element], rfl⟩)))
  outputNames := baseOutputNames "const"

def constState : State Scalar :=
  ⟨⟨0, some "const_0", fun _ => none, none⟩, World.empty⟩

def constBuilt (element : Scalar) : State Scalar :=
  (typeValueInference scalarEnv (constKind element) false constState).state

/-! ## On array values the check raises only at a drift -/

def PyVal.isArray : PyVal E → Bool
  | .array _ => true
  | .list _ => false

/-- A drift at one output: the new type is no longer compatible with the old one, or both
values are known, differ, and are not symbol-compatible. -/
def Drifts (env : Collaborators E) (outVar : OutVar E) (symType : Ty) (symVal : Option (PyVal E)) :
    Prop :=
  env.isCompatibleType symType outVar.symType = false ∨
    ∃ new old, symVal = some new ∧ outVar.symVal = some old ∧ anyNotEqual env new old = .ok true ∧
      isCompatibleSymbolicArray env new old = .ok false

section Arrays

variable {env : Collaborators E}

theorem anyNotEqual_arrays (a b : NdArray E)
    (compares : ∃ differs, env.compareOther (.array a) (.array b) = .ok differs) :
    ∃ differs, anyNotEqual env (.array a) (.array b) = .ok differs := by
  simp only [anyNotEqual]
  split
  · exact ⟨_, rfl⟩
  · exact compares

theorem driftCheck_arrays (opName : Option String) (outVar : OutVar E) (symType : Ty)
    (symVal : Option (PyVal E)) (newArray : ∀ v, symVal = some v → v.isArray)
    (oldArray : ∀ v, outVar.symVal = some v → v.isArray)
    (compares : ∀ a b, symVal = some (.array a) → outVar.symVal = some (.array b) →
      ∃ differs, env.compareOther (.array a) (.array b) = .ok differs) :
    (∀ e, driftCheck env opName outVar symType symVal = .error e → ∃ msg, e = .valueError msg) ∧
      ((∃ e, driftCheck env opName outVar symType symVal = .error e) ↔
        Drifts env outVar symType symVal) := by
  unfold driftCheck Drifts
  cases compatible : env.isCompatibleType symType outVar.symType
  · refine ⟨fun e raised => ?_, iff_of_true ⟨_, rfl⟩ (.inl rfl)⟩
    simp only [Bool.not_false, ↓reduceIte, except_throw, except_error_bind, Except.error.injEq] at raised
    exact ⟨_, raised.symm⟩
  rcases symVal with _ | ⟨a | _⟩
  · simp
  · rcases known : outVar.symVal with _ | ⟨b | _⟩
    · simp
    · obtain ⟨differs, compared⟩ := anyNotEqual_arrays a b (compares a b rfl known)
      obtain ⟨tolerated, symbolic⟩ : ∃ tolerated, isCompatibleSymbolicArray env (.array a) (.array b) =
          .ok tolerated := ⟨_, isCompatibleSymbolicArray_array env a b⟩
      simp only [compared, symbolic, Bool.not_true, Bool.false_eq_true, ↓reduceIte, except_pure,
        except_ok_bind, Option.some.injEq, exists_and_left, exists_eq_left', Bool.true_eq_false,
        false_or, Except.ok.injEq]
      cases differs <;> cases tolerated <;> simp
    · exact nomatch oldArray _ known
  · exact nomatch newArray _ rfl

/-- **The check on array values**: with at least as many outputs as new types, it raises only
`ValueError`, and raises iff some output drifts. -/
theorem driftChecks_arrays (opName : Option String) :
    ∀ (outs : List (OutVar E)) (items : List (Ty × Option (PyVal E))), items.length ≤ outs.length →
      (∀ o ∈ outs, ∀ v, o.symVal = some v → v.isArray) → (∀ item ∈ items, ∀ v, item.2 = some v → v.isArray) →
      (∀ (j : Nat) (o : OutVar E) (symType : Ty) (a b : NdArray E), outs[j]? = some o → items[j]? = some (symType, some (.array a)) →
        o.symVal = some (.array b) → ∃ differs, env.compareOther (.array a) (.array b) = .ok differs) →
      (∀ e, driftChecks env opName outs items = .error e → ∃ msg, e = .valueError msg) ∧
      ((∃ e, driftChecks env opName outs items = .error e) ↔
        ∃ (j : Nat) (o : OutVar E) (symType : Ty) (symVal : Option (PyVal E)), outs[j]? = some o ∧ items[j]? = some (symType, symVal) ∧
          Drifts env o symType symVal)
  | outs, [], _, _, _, _ => by
      have passes : driftChecks env opName outs [] = .ok () := by cases outs <;> rfl
      simp [passes]
  | [], _ :: _, enough, _, _, _ => by simp at enough
  | o :: outs, (symType, symVal) :: items, enough, oldArrays, newArrays, compares => by
      obtain ⟨onlyValueErrors, drifts⟩ := driftCheck_arrays opName o symType symVal
        (newArrays _ (.head _)) (oldArrays o (.head _))
        fun a b new old => compares 0 o symType a b List.getElem?_cons_zero
          (by rw [new, List.getElem?_cons_zero]) old
      obtain ⟨laterValueErrors, laterDrifts⟩ := driftChecks_arrays opName outs items
        (Nat.le_of_succ_le_succ enough) (fun o' member => oldArrays o' (.tail _ member))
        (fun item member => newArrays item (.tail _ member))
        fun j o' symType' a b found item => compares (j + 1) o' symType' a b
          (List.getElem?_cons_succ.trans found) (List.getElem?_cons_succ.trans item)
      simp only [driftChecks]
      cases checked : driftCheck env opName o symType symVal with
      | error e =>
          refine ⟨fun e' raised => ?_, ?_⟩
          · simp only [except_error_bind, Except.error.injEq] at raised
            exact raised ▸ onlyValueErrors e checked
          exact iff_of_true ⟨e, rfl⟩ ⟨0, o, symType, symVal, List.getElem?_cons_zero,
            List.getElem?_cons_zero, drifts.mp ⟨e, checked⟩⟩
      | ok u =>
          have steady : ¬ Drifts env o symType symVal := fun drift => by
            obtain ⟨e, raised⟩ := drifts.mpr drift
            simp only [raised, reduceCtorEq] at checked
          refine ⟨fun e raised => laterValueErrors e (by simpa using raised), ?_⟩
          simp only [except_ok_bind]
          rw [laterDrifts]
          constructor
          · rintro ⟨j, o', symType', symVal', found, item, drift⟩
            exact ⟨j + 1, o', symType', symVal', List.getElem?_cons_succ.trans found,
              List.getElem?_cons_succ.trans item, drift⟩
          · rintro ⟨j, o', symType', symVal', found, item, drift⟩
            cases j with
            | zero =>
                simp only [List.getElem?_cons_zero, Option.some.injEq, Prod.mk.injEq] at found item
                obtain ⟨rfl, rfl⟩ := item
                exact absurd (found ▸ drift) steady
            | succ j =>
                exact ⟨j, o', symType', symVal', List.getElem?_cons_succ.symm.trans found,
                  List.getElem?_cons_succ.symm.trans item, drift⟩

theorem valueDrift_arrays_iff (a b : NdArray E) :
    (anyNotEqual env (.array a) (.array b) = .ok true ∧
        isCompatibleSymbolicArray env (.array a) (.array b) = .ok false) ↔
      (a.shape ≠ b.shape ∧ env.compareOther (.array a) (.array b) = .ok true) ∨
        (a.shape = b.shape ∧ ∃ (i : Nat) (x y : E), a.flat[i]? = some x ∧ b.flat[i]? = some y ∧
          env.isSymbolic x = false ∧ env.isSymbolic y = false ∧ env.ne x y = true) := by
  by_cases sameShape : a.shape = b.shape
  · have separated : compatibleElements env a.flat b.flat = false ↔
        ∃ (i : Nat) (x y : E), a.flat[i]? = some x ∧ b.flat[i]? = some y ∧
          env.isSymbolic x = false ∧ env.isSymbolic y = false ∧ env.ne x y = true := by
      rw [Bool.eq_false_iff, ne_eq, compatibleElements_iff]
      push_neg
      simp only [ne_eq, Bool.not_eq_true, Bool.not_eq_false]
    simp only [anyNotEqual, isCompatibleSymbolicArray_array, sameShape, if_true, decide_True,
      Bool.true_and, Except.ok.injEq, separated, ne_eq, not_true_eq_false, false_and, true_and,
      false_or]
    refine ⟨And.right, fun drift => ⟨?_, drift⟩⟩
    obtain ⟨i, x, y, first, second, -, -, differs⟩ := drift
    exact List.any_eq_true.mpr ⟨(x, y),
      List.mem_iff_getElem?.mpr ⟨i, List.getElem?_zip_eq_some.mpr ⟨first, second⟩⟩, differs⟩
  · simp only [anyNotEqual, sameShape, ↓reduceIte, isCompatibleSymbolicArray_array, decide_False,
      Bool.false_and, and_true, ne_eq, not_false_eq_true, true_and, false_and, or_false]

theorem drifts_arrays_iff (o : OutVar E) (symType : Ty) (symVal : Option (PyVal E))
    (newArray : ∀ v, symVal = some v → v.isArray) (oldArray : ∀ v, o.symVal = some v → v.isArray) :
    Drifts env o symType symVal ↔ env.isCompatibleType symType o.symType = false ∨
      ∃ a b, symVal = some (.array a) ∧ o.symVal = some (.array b) ∧
        ((a.shape ≠ b.shape ∧ env.compareOther (.array a) (.array b) = .ok true) ∨
          (a.shape = b.shape ∧ ∃ (i : Nat) (x y : E), a.flat[i]? = some x ∧ b.flat[i]? = some y ∧
            env.isSymbolic x = false ∧ env.isSymbolic y = false ∧ env.ne x y = true)) := by
  refine or_congr_right ⟨?_, ?_⟩
  · rintro ⟨⟨a⟩ | _, ⟨b⟩ | _, rfl, known, drift⟩
    · exact ⟨a, b, rfl, known, (valueDrift_arrays_iff a b).mp drift⟩
    · exact nomatch oldArray _ known
    all_goals exact nomatch newArray _ rfl
  · rintro ⟨a, b, rfl, known, drift⟩
    exact ⟨_, _, rfl, known, (valueDrift_arrays_iff a b).mpr drift⟩

/-- **Re-inference on array values raises only at a drift.** On an op with outputs whose
values are arrays, when type inference gives no more types than there are outputs, the new
values are arrays, and numpy's broadcasting comparison returns on each pair of arrays the check
compares: a re-inference without overwrite that raises past the stages raises a `ValueError`,
and it raises exactly when some output's type is no longer compatible or its known value
differs from the new one at a non-symbolic element. -/
theorem array_reinference_errors (kind : OpKind E) {st : State E} {outs : List (OutVar E)}
    {outputTypes : List Ty} {outputVals : List (Option (PyVal E))} {outputNames : List String}
    (existing : st.op.outputVars = some outs)
    (staged : inferStages kind st.op.inputVars = .ok (outputTypes, outputVals, outputNames))
    (enough : outputTypes.length ≤ outs.length)
    (oldArrays : ∀ o ∈ outs, ∀ v, o.symVal = some v → v.isArray)
    (newArrays : ∀ v, some v ∈ outputVals → v.isArray)
    (compares : ∀ (j : Nat) (o : OutVar E) (symType : Ty) (a b : NdArray E), outs[j]? = some o →
      (outputTypes.zip outputVals)[j]? = some (symType, some (.array a)) → o.symVal = some (.array b) →
        ∃ differs, env.compareOther (.array a) (.array b) = .ok differs) :
    (∀ e st', typeValueInference env kind false st = .error e st' → ∃ msg, e = .valueError msg) ∧
      ((∃ e st', typeValueInference env kind false st = .error e st') ↔
        ∃ (j : Nat) (o : OutVar E) (symType : Ty) (symVal : Option (PyVal E)), outs[j]? = some o ∧
          (outputTypes.zip outputVals)[j]? = some (symType, symVal) ∧ Drifts env o symType symVal) := by
  obtain ⟨onlyValueErrors, drifts⟩ := driftChecks_arrays st.op.name outs (outputTypes.zip outputVals)
    (by rw [List.length_zip]; omega) oldArrays
    (fun item member v known => newArrays v (known ▸ (List.of_mem_zip member).2)) compares
  simp only [reinference_error_iff env kind existing staged, exists_eq_right]
  exact ⟨fun e _ raised => onlyValueErrors e raised.1, drifts⟩

theorem nanConst_reinference_valueError :
    ∃ msg, (typeValueInference scalarEnv (constKind .nan) false (constBuilt .nan)).raised =
      some (.valueError msg) := by
  have arrays : ∀ v : PyVal Scalar, v = .array ⟨[1], [.nan], rfl⟩ → v.isArray := by
    rintro v rfl; rfl
  obtain ⟨valueErrors, drifts⟩ := array_reinference_errors (constKind .nan)
    (show (constBuilt .nan).op.outputVars =
      some [⟨some "const_0", .tensor .fp32 [.known 1], some (.array ⟨[1], [.nan], rfl⟩), 0, 0, .plain⟩]
      by decide)
    (show inferStages (constKind .nan) (constBuilt .nan).op.inputVars =
      .ok ([.tensor .fp32 [.known 1]], [some (.array ⟨[1], [.nan], rfl⟩)], [""]) from rfl)
    (by decide) (by simp [arrays]) (by simp [arrays])
    (show ∀ (j : Nat) (o : OutVar Scalar) (symType : Ty) (a b : NdArray Scalar), _ → _ → _ →
      ∃ differs, scalarEnv.compareOther (.array a) (.array b) = .ok differs from
      fun _ _ _ _ _ _ _ _ => ⟨true, rfl⟩)
  obtain ⟨e, st', raised⟩ := drifts.mpr ⟨0, _, _, _, rfl, rfl, .inr ⟨_, _, rfl, rfl, rfl, rfl⟩⟩
  obtain ⟨msg, rfl⟩ := valueErrors e st' raised
  exact ⟨msg, by rw [raised]; rfl⟩

/-- **Re-inference on array values raises at a changed element.** Under the hypotheses of
`array_reinference_errors`, a re-inference without overwrite raises exactly when some output's
type is no longer compatible, or its known array and the new one have different shapes that
numpy's broadcasting comparison finds different, or they have one shape and some position holds
two non-symbolic elements that numpy's `!=` separates. A difference at a symbol is tolerated. -/
theorem reinference_errors_at_elements (kind : OpKind E) {st : State E} {outs : List (OutVar E)}
    {outputTypes : List Ty} {outputVals : List (Option (PyVal E))} {outputNames : List String}
    (existing : st.op.outputVars = some outs)
    (staged : inferStages kind st.op.inputVars = .ok (outputTypes, outputVals, outputNames))
    (enough : outputTypes.length ≤ outs.length)
    (oldArrays : ∀ o ∈ outs, ∀ v, o.symVal = some v → v.isArray)
    (newArrays : ∀ v, some v ∈ outputVals → v.isArray)
    (compares : ∀ (j : Nat) (o : OutVar E) (symType : Ty) (a b : NdArray E), outs[j]? = some o →
      (outputTypes.zip outputVals)[j]? = some (symType, some (.array a)) → o.symVal = some (.array b) →
        ∃ differs, env.compareOther (.array a) (.array b) = .ok differs) :
    (∃ e st', typeValueInference env kind false st = .error e st') ↔
      ∃ (j : Nat) (o : OutVar E) (symType : Ty) (symVal : Option (PyVal E)), outs[j]? = some o ∧
        (outputTypes.zip outputVals)[j]? = some (symType, symVal) ∧
        (env.isCompatibleType symType o.symType = false ∨
          ∃ a b, symVal = some (.array a) ∧ o.symVal = some (.array b) ∧
            ((a.shape ≠ b.shape ∧ env.compareOther (.array a) (.array b) = .ok true) ∨
              (a.shape = b.shape ∧ ∃ (i : Nat) (x y : E), a.flat[i]? = some x ∧
                b.flat[i]? = some y ∧ env.isSymbolic x = false ∧ env.isSymbolic y = false ∧
                env.ne x y = true))) := by
  obtain ⟨-, drifts⟩ := driftChecks_arrays st.op.name outs (outputTypes.zip outputVals)
    (by rw [List.length_zip]; omega) oldArrays
    (fun item member v known => newArrays v (known ▸ (List.of_mem_zip member).2)) compares
  simp only [reinference_error_iff env kind existing staged, exists_eq_right]
  rw [drifts]
  exact exists_congr fun j => exists_congr fun o => exists_congr fun symType =>
    exists_congr fun symVal => and_congr_right fun found => and_congr_right fun item =>
      drifts_arrays_iff o symType symVal
        (fun v known => newArrays v (known ▸ (List.of_mem_zip (List.getElem?_mem item)).2))
        (oldArrays o (List.getElem?_mem found))

theorem changedConst_reinference_raises :
    ∃ e st', typeValueInference scalarEnv (constKind (.finite 3)) false (constBuilt (.finite 1)) =
      .error e st' :=
  (reinference_errors_at_elements (constKind (.finite 3))
    (show (constBuilt (.finite 1)).op.outputVars = some
      [⟨some "const_0", .tensor .fp32 [.known 1], some (.array ⟨[1], [.finite 1], rfl⟩), 0, 0, .plain⟩]
      by decide)
    (show inferStages (constKind (.finite 3)) (constBuilt (.finite 1)).op.inputVars =
      .ok ([.tensor .fp32 [.known 1]], [some (.array ⟨[1], [.finite 3], rfl⟩)], [""]) from rfl)
    (by decide) (by simp [PyVal.isArray]) (by simp [PyVal.isArray])
    (show ∀ (j : Nat) (o : OutVar Scalar) (symType : Ty) (a b : NdArray Scalar), _ → _ → _ →
      ∃ differs, scalarEnv.compareOther (.array a) (.array b) = .ok differs from
      fun _ _ _ _ _ _ _ _ => ⟨true, rfl⟩)).mpr
    ⟨0, _, _, _, rfl, rfl, .inr ⟨_, _, rfl, rfl, .inr ⟨rfl, 0, _, _, rfl, rfl, rfl, rfl, rfl⟩⟩⟩

end Arrays

/-! ## A second inference on unchanged inputs -/

section Idempotence

variable (env : Collaborators E)

end Idempotence

def inferTwice (kind : OpKind Scalar) : EStateM PyError (State Scalar) Unit := do
  typeValueInference scalarEnv kind false
  typeValueInference scalarEnv kind false

/-- The first inference returns; the second, on unchanged inputs, finds the NaN unequal to
itself and raises the drift error. -/
theorem nan_value_fails_reinference :
    (typeValueInference scalarEnv (constKind .nan) false constState).raised = none ∧
      (inferTwice (constKind .nan) constState).raised =
        some (.valueError "value_inference differs for var const_0 in op const_0") := by
  decide

def vectorListType : Ty :=
  .list (.tensor .fp32 [.known 2]) none true

/-- A `list_write` op whose value inference now yields a two-element list. -/
def listWriteKind : OpKind Scalar where
  opType := "list_write"
  inputSpec := ⟨[], by decide, by decide⟩
  typeDomains := fun _ => none
  typeInference := fun _ => .ok (.one vectorListType)
  valueInference := fun _ => .ok (.one (.milList [⟨[2], [.finite 1, .finite 2], rfl⟩,
    ⟨[2], [.finite 3, .finite 4], rfl⟩]))
  outputNames := baseOutputNames "list_write"

def listWriteState : State Scalar :=
  ⟨⟨0, some "list_write_0", fun _ => none,
    some [⟨some "list_write_0", vectorListType, some (.list [⟨[2], [.finite 1, .finite 2], rfl⟩]),
      0, 0, .list⟩]⟩, World.empty⟩

/-- The drift check reads `.shape` of the Python list: a changed list value raises
`AttributeError`, not the drift `ValueError`. -/
theorem list_value_drift_raises_attribute_error :
    (typeValueInference scalarEnv listWriteKind false listWriteState).raised =
      some (.attributeError "'list' object has no attribute 'shape'") := by
  decide

end MilOperation
