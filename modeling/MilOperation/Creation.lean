import MilOperation.AutoVal

/-!
Contract: the first `type_value_inference` of an op, the branch that creates its outputs.

Inference first computes the output types, `_auto_val` and the output names. On an op
without outputs it then sets `_output_vars` to `[]` and appends one Var per triple of
`zip(output_names, output_types, output_vals)`; a rank error at a list output stops the
loop with the Vars appended before it still in place.

Owns: the three stages as one function, the Vars the creation loop builds as a pure
function of the op, and what a returning or raising first inference leaves in
`_output_vars`.

Does not own: the branch that checks or overwrites existing outputs (`Reinference`).
-/

namespace MilOperation

variable {E : Type}

/-! ## The stages before the branch -/

/-- Output types, `_auto_val` and output names, or the first error among them. -/
def inferStages (kind : OpKind E) (inputVars : String → Option (Binding E)) :
    Except PyError (List Ty × List (Option (PyVal E)) × List String) := do
  let outputTypes := (← kind.typeInference inputVars).toList
  let outputVals ← autoVal kind inputVars outputTypes
  let outputNames ← outputNamesOrDefault kind inputVars outputTypes
  return (outputTypes, outputVals, outputNames)

theorem inferStages_ok {kind : OpKind E} {inputVars : String → Option (Binding E)}
    {outputTypes : List Ty} {outputVals : List (Option (PyVal E))} {outputNames : List String}
    (staged : inferStages kind inputVars = .ok (outputTypes, outputVals, outputNames)) :
    ∃ types, kind.typeInference inputVars = .ok types ∧ outputTypes = types.toList ∧
      autoVal kind inputVars outputTypes = .ok outputVals ∧
      outputNamesOrDefault kind inputVars outputTypes = .ok outputNames := by
  unfold inferStages at staged
  rcases typed : kind.typeInference inputVars with e | types
  · simp [typed] at staged
  rcases valued : autoVal kind inputVars types.toList with e | vals
  · simp [typed, valued] at staged
  rcases named : outputNamesOrDefault kind inputVars types.toList with e | names
  · simp [typed, valued, named] at staged
  simp only [typed, valued, named, except_ok_bind, except_pure, Except.ok.injEq, Prod.mk.injEq]
    at staged
  obtain ⟨rfl, rfl, rfl⟩ := staged
  exact ⟨types, rfl, rfl, valued, named⟩

/-- **Inference in two steps**: the stages, which raise with the state untouched, then the
branch on `_output_vars`. -/
theorem typeValueInference_eq (env : Collaborators E) (kind : OpKind E) (overwrite : Bool)
    (st : State E) :
    typeValueInference env kind overwrite st =
      match inferStages kind st.op.inputVars with
      | .error e => .error e st
      | .ok (outputTypes, outputVals, outputNames) =>
          match st.op.outputVars with
          | none => createOutputs env kind.opType kind.inputSpec 0
              (outputNames.zip (outputTypes.zip outputVals)) (st.setOutputVars (some []))
          | some _ => checkOutputs env overwrite 0 (outputTypes.zip outputVals) st := by
  unfold typeValueInference inferStages
  simp only [bind_apply, get_apply]
  rcases typed : kind.typeInference st.op.inputVars with e | types
  · rfl
  simp only [fromExcept_ok, except_ok_bind]
  rcases valued : autoVal kind st.op.inputVars types.toList with e | vals
  · rfl
  simp only [fromExcept_ok, except_ok_bind]
  rcases named : outputNamesOrDefault kind st.op.inputVars types.toList with e | names
  · rfl
  cases st.op.outputVars <;> rfl

/-! ## The creation loop -/

section Loop

variable (env : Collaborators E) (opType : String) (spec : InputSpec)

/-- The Vars the creation loop builds from the op `st`, one per item, or the first error.
The loop reads only the op's id, name and inputs, which it never writes. -/
def createdVars (st : State E) : Nat → List (String × Ty × Option (PyVal E)) →
    Except PyError (List (OutVar E))
  | _, [] => .ok []
  | i, (n, symType, symVal) :: rest => do
      let newVar ← newOutputVar env opType spec st i n symType symVal
      let others ← createdVars st (i + 1) rest
      return newVar :: others

theorem newOutputVar_congr {st s : State E} (keeps : KeepsInputs st s) :
    newOutputVar env opType spec s = newOutputVar env opType spec st := by
  obtain ⟨_, sameId, sameName, sameInputs⟩ := keeps
  unfold newOutputVar complexParts inputAttribute
  rw [sameId, sameName, sameInputs]

theorem newOutputVar_ok {st : State E} {i : Nat} {n : String} {symType : Ty}
    {symVal : Option (PyVal E)} {o : OutVar E}
    (run : newOutputVar env opType spec st i n symType symVal = .ok o) :
    outputVarName st.op.name n = .ok o.name ∧ o.op = st.op.id ∧ o.opOutputIdx = i ∧
      o.symType = symType ∧ o.symVal = if symType.isList then listOutputValue symVal else symVal := by
  unfold newOutputVar at run
  cases named : outputVarName st.op.name n with
  | error e => simp only [named, except_error_bind, reduceCtorEq] at run
  | ok name =>
      simp only [named, except_ok_bind] at run
      split at run
      · split at run
        · split at run
          · cases run
          · cases run; simp [Ty.isList]
        · cases run; simp [Ty.isList]
      · rename_i notList
        have : symType.isList = false := by
          cases symType <;> first | rfl | exact (notList _ _ _ rfl).elim
        split at run
        · cases parts : complexParts env opType spec st symVal <;> simp [parts] at run
          cases run; simp [this]
        · cases run; simp [this]

/-- **A returning creation loop** appended exactly the Vars `createdVars` builds. -/
theorem createOutputs_ok (st : State E) :
    ∀ (i : Nat) (items : List (String × Ty × Option (PyVal E))) (s s' : State E)
      (pre : List (OutVar E)), KeepsInputs st s → s.op.outputVars = some pre →
      createOutputs env opType spec i items s = .ok () s' →
      ∃ created, createdVars env opType spec st i items = .ok created ∧ KeepsInputs st s' ∧
        s'.op.outputVars = some (pre ++ created)
  | i, [], s, s', pre, keeps, started, run => by
      cases run
      exact ⟨[], rfl, keeps, by simpa using started⟩
  | i, (n, symType, symVal) :: rest, s, s', pre, keeps, started, run => by
      simp only [createOutputs, bind_apply, get_apply, newOutputVar_congr env opType spec keeps] at run
      cases built : newOutputVar env opType spec st i n symType symVal with
      | error e => simp [built] at run
      | ok newVar =>
          simp only [built, fromExcept_ok, modify_apply] at run
          obtain ⟨created, rest_built, keeps', outputs⟩ := createOutputs_ok st (i + 1) rest
            (s.appendOutput newVar) s' (pre ++ [newVar]) (keepsInputs_setOutputVars _ _ keeps)
            (by simp [State.appendOutput, started]) run
          exact ⟨newVar :: created, by simp [createdVars, built, rest_built], keeps',
            by simpa using outputs⟩

/-- **A raising creation loop** stopped at the first item whose Var it could not build, with
the Vars built before it appended. -/
theorem createOutputs_error (st : State E) :
    ∀ (i : Nat) (items : List (String × Ty × Option (PyVal E))) (s s' : State E)
      (pre : List (OutVar E)) (e : PyError), KeepsInputs st s → s.op.outputVars = some pre →
      createOutputs env opType spec i items s = .error e s' →
      ∃ created, createdVars env opType spec st i (items.take created.length) = .ok created ∧
        (∃ n symType symVal, items[created.length]? = some (n, symType, symVal) ∧
          newOutputVar env opType spec st (i + created.length) n symType symVal = .error e) ∧
        KeepsInputs st s' ∧ s'.op.outputVars = some (pre ++ created)
  | i, [], s, s', pre, e, keeps, started, run => by cases run
  | i, (n, symType, symVal) :: rest, s, s', pre, e, keeps, started, run => by
      simp only [createOutputs, bind_apply, get_apply, newOutputVar_congr env opType spec keeps] at run
      cases built : newOutputVar env opType spec st i n symType symVal with
      | error e' =>
          simp only [built, fromExcept_error] at run
          cases run
          exact ⟨[], rfl, ⟨n, symType, symVal, by simp, by simpa using built⟩, keeps,
            by simpa using started⟩
      | ok newVar =>
          simp only [built, fromExcept_ok, modify_apply] at run
          obtain ⟨created, prefix_built, ⟨n', symType', symVal', at_failure, failed⟩, keeps', outputs⟩ :=
            createOutputs_error st (i + 1) rest (s.appendOutput newVar) s' (pre ++ [newVar]) e
              (keepsInputs_setOutputVars _ _ keeps) (by simp [State.appendOutput, started]) run
          refine ⟨newVar :: created, by simp [createdVars, built, prefix_built],
            ⟨n', symType', symVal', by simpa using at_failure, ?_⟩, keeps', by simpa using outputs⟩
          simpa [Nat.add_assoc, Nat.add_comm 1] using failed

theorem createdVars_ok (st : State E) :
    ∀ (i : Nat) (items : List (String × Ty × Option (PyVal E))) (created : List (OutVar E)),
      createdVars env opType spec st i items = .ok created →
      created.length = items.length ∧ ∀ k n symType symVal, items[k]? = some (n, symType, symVal) →
        ∃ o, created[k]? = some o ∧ newOutputVar env opType spec st (i + k) n symType symVal = .ok o
  | i, [], created, run => by cases run; simp
  | i, (n, symType, symVal) :: rest, created, run => by
      cases built : newOutputVar env opType spec st i n symType symVal with
      | error e => simp only [createdVars, built, except_error_bind, reduceCtorEq] at run
      | ok newVar =>
          cases rest_built : createdVars env opType spec st (i + 1) rest with
          | error e =>
              simp only [createdVars, built, rest_built, except_ok_bind, except_error_bind,
                reduceCtorEq] at run
          | ok others =>
              simp only [createdVars, built, rest_built, except_ok_bind, except_pure,
                Except.ok.injEq] at run
              subst run
              obtain ⟨lengths, entries⟩ := createdVars_ok st (i + 1) rest others rest_built
              refine ⟨by simp [lengths], fun k n' symType' symVal' item => ?_⟩
              cases k with
              | zero =>
                  simp only [List.getElem?_cons_zero, Option.some.injEq, Prod.mk.injEq] at item
                  obtain ⟨rfl, rfl, rfl⟩ := item
                  exact ⟨newVar, by simp, built⟩
              | succ k =>
                  obtain ⟨o, found, fine⟩ := entries k n' symType' symVal' (by simpa using item)
                  exact ⟨o, by simpa using found, by simpa [Nat.add_assoc, Nat.add_comm 1] using fine⟩

end Loop

/-! ## What a first inference leaves -/

section First

variable (env : Collaborators E) (kind : OpKind E) (overwrite : Bool)

def creationItems (outputTypes : List Ty) (outputVals : List (Option (PyVal E)))
    (outputNames : List String) : List (String × Ty × Option (PyVal E)) :=
  outputNames.zip (outputTypes.zip outputVals)

theorem typeValueInference_ok_fresh {st st' : State E} (fresh : st.op.outputVars = none)
    (run : typeValueInference env kind overwrite st = .ok () st') :
    ∃ outputTypes outputVals outputNames created,
      inferStages kind st.op.inputVars = .ok (outputTypes, outputVals, outputNames) ∧
      createdVars env kind.opType kind.inputSpec st 0
        (creationItems outputTypes outputVals outputNames) = .ok created ∧
      KeepsInputs st st' ∧ st'.op.outputVars = some created := by
  rw [typeValueInference_eq] at run
  rcases staged : inferStages kind st.op.inputVars with e | ⟨outputTypes, outputVals, outputNames⟩
  · simp [staged] at run
  · simp only [staged, fresh] at run
    obtain ⟨created, built, keeps, outputs⟩ := createOutputs_ok env kind.opType kind.inputSpec st 0 _
      _ st' [] (keepsInputs_setOutputVars _ _ ⟨rfl, rfl, rfl, rfl⟩) rfl run
    exact ⟨outputTypes, outputVals, outputNames, created, rfl, built, keeps, outputs⟩

theorem typeValueInference_error_fresh {st st' : State E} {e : PyError}
    (fresh : st.op.outputVars = none) (run : typeValueInference env kind overwrite st = .error e st') :
    (inferStages kind st.op.inputVars = .error e ∧ st' = st) ∨
      ∃ outputTypes outputVals outputNames created,
        inferStages kind st.op.inputVars = .ok (outputTypes, outputVals, outputNames) ∧
        createdVars env kind.opType kind.inputSpec st 0
          ((creationItems outputTypes outputVals outputNames).take created.length) = .ok created ∧
        (∃ n symType symVal,
          (creationItems outputTypes outputVals outputNames)[created.length]? =
            some (n, symType, symVal) ∧
          newOutputVar env kind.opType kind.inputSpec st created.length n symType symVal = .error e) ∧
        KeepsInputs st st' ∧ st'.op.outputVars = some created := by
  rw [typeValueInference_eq] at run
  rcases staged : inferStages kind st.op.inputVars with e' | ⟨outputTypes, outputVals, outputNames⟩
  · simp only [staged] at run
    cases run
    exact .inl ⟨rfl, rfl⟩
  · simp only [staged, fresh] at run
    obtain ⟨created, built, failure, keeps, outputs⟩ := createOutputs_error env kind.opType
      kind.inputSpec st 0 _ _ st' [] e (keepsInputs_setOutputVars _ _ ⟨rfl, rfl, rfl, rfl⟩) rfl run
    exact .inr ⟨outputTypes, outputVals, outputNames, created, rfl, built,
      by simpa only [Nat.zero_add] using failure, keeps, outputs⟩

theorem outputNamesOrDefault_length {inputVars : String → Option (Binding E)} {outputTypes : List Ty}
    {names : List String} (named : ∀ ns, kind.outputNames inputVars = .ok ns →
      ns.toList.length = outputTypes.length)
    (run : outputNamesOrDefault kind inputVars outputTypes = .ok names) :
    outputTypes.length ≤ names.length := by
  unfold outputNamesOrDefault at run
  split at run
  · rename_i ns given
    cases run
    exact (named ns given).ge
  · split at run
    · cases run
      split
      · simp
      · simp; omega
    · cases run

end First

def makeListState : State Scalar :=
  ⟨⟨0, some "make_list_0", fun _ => none, none⟩, World.empty⟩

end MilOperation
