import MilOperation.Creation

/-!
Contract: the re-inference branch of `type_value_inference`, on an op whose outputs exist.

Without `overwrite_output` the branch only checks: it writes nothing, and raises at the
first output whose new type is not compatible with the old one or whose new value drifts
from the old one. With `overwrite_output` it writes the new type and value into each output
the zip reaches, and runs none of the checks of the creation branch.

Owns: both loops as state transformers with their errors; what any raising inference leaves
in `_output_vars`; and the overwrite branch against the creation branch.

Does not own: what the check without overwrite decides (`Drift`), and runs of several calls
(`Runs`).
-/

namespace MilOperation

variable {E : Type}

/-! ## Without overwrite, the branch only reads -/

section ReadOnly

variable (env : Collaborators E) (s₀ : State E)

theorem checkValue_readOnly (i : Nat) (symVal : Option (PyVal E)) :
    Preserves (· = s₀) (checkValue env false i symVal) := by
  unfold checkValue
  refine Preserves.bind Preserves.get fun _ => Preserves.bind (Preserves.fromExcept _) fun _ => ?_
  split
  · refine Preserves.bind (Preserves.fromExcept _) fun differs => ?_
    simp only [Bool.false_eq_true, if_false]
    exact Preserves.ite (Preserves.bind (Preserves.fromExcept _) fun _ => Preserves.raiseIf _ _)
      (Preserves.pure _)
  · exact Preserves.pure _

theorem checkOutputs_readOnly :
    ∀ (i : Nat) (items : List (Ty × Option (PyVal E))),
      Preserves (· = s₀) (checkOutputs env false i items)
  | _, [] => Preserves.pure _
  | i, (symType, symVal) :: rest => by
      unfold checkOutputs
      simp only [Bool.false_eq_true, if_false]
      exact Preserves.bind Preserves.get fun _ => Preserves.bind (Preserves.fromExcept _) fun _ =>
        Preserves.bind (Preserves.raiseIf _ _) fun _ => Preserves.bind (Preserves.pure _) fun _ =>
          Preserves.bind (checkValue_readOnly env s₀ i symVal) fun _ =>
            checkOutputs_readOnly (i + 1) rest

end ReadOnly

/-- **Re-inference without overwrite writes nothing**: on an op with outputs, the call leaves
the whole state as it found it, whether it returns or raises. -/
theorem reinference_state (env : Collaborators E) (kind : OpKind E) {st : State E}
    {outs : List (OutVar E)} (existing : st.op.outputVars = some outs) :
    (typeValueInference env kind false st).state = st := by
  rw [typeValueInference_eq]
  rcases inferStages kind st.op.inputVars with e | ⟨outputTypes, outputVals, outputNames⟩
  · rfl
  · simp only [existing]
    exact checkOutputs_readOnly env st 0 _ st rfl

/-! ## With overwrite, the branch writes every output the zip reaches -/

/-- The outputs after the overwrite loop: each output the items reach takes the item's type
and value; the rest keep theirs. -/
def overwritten : List (OutVar E) → List (Ty × Option (PyVal E)) → List (OutVar E)
  | o :: os, (symType, symVal) :: rest => { o with symType, symVal } :: overwritten os rest
  | os, _ => os

@[simp] theorem overwritten_nil (outs : List (OutVar E)) : overwritten outs [] = outs := by
  cases outs <;> rfl

@[simp] theorem overwritten_cons (o : OutVar E) (outs : List (OutVar E)) (symType : Ty)
    (symVal : Option (PyVal E)) (items : List (Ty × Option (PyVal E))) :
    overwritten (o :: outs) ((symType, symVal) :: items) =
      { o with symType, symVal } :: overwritten outs items := rfl

theorem modify_append_length {α : Type} (f : α → α) (o : α) (rest : List α) :
    ∀ pre : List α, (pre ++ o :: rest).modify f pre.length = pre ++ f o :: rest
  | [] => by simp [List.modify]
  | a :: pre => by simp [List.modify_succ_cons, modify_append_length f o rest pre]

section Overwrite

variable (env : Collaborators E)

theorem outputAt_append {s : State E} {pre rest : List (OutVar E)}
    (outputs : s.op.outputVars = some (pre ++ rest)) :
    outputAt s pre.length = match rest with
      | o :: _ => .ok o
      | [] => .error (.indexError "list index out of range") := by
  cases rest <;> simp [outputAt, outputs, List.getElem_append_right]

theorem checkValue_overwritten {s : State E} {pre rest : List (OutVar E)} {o : OutVar E}
    {symVal : Option (PyVal E)} (outputs : s.op.outputVars = some (pre ++ o :: rest))
    (written : o.symVal = symVal) :
    checkValue env true pre.length symVal s = match symVal with
      | some new => match anyNotEqual env new new with
        | .ok _ => .ok () s
        | .error e => .error e s
      | none => .ok () s := by
  have unchanged : s.modifyOutput pre.length (fun o => { o with symVal := symVal }) = s := by
    obtain ⟨⟨id, name, inputVars, outputVars⟩, world⟩ := s
    simp only at outputs
    subst outputs
    simp [State.modifyOutput, State.setOutputVars, modify_append_length, ← written]
  unfold checkValue
  simp only [bind_apply, get_apply, outputAt_append outputs, fromExcept_ok, written]
  cases symVal with
  | none => rfl
  | some new =>
      cases compared : anyNotEqual env new new with
      | error e => simp [compared]
      | ok differs => cases differs <;> simp [compared, unchanged]

theorem modifyOutput_append {s : State E} {pre rest : List (OutVar E)} {o : OutVar E}
    (outputs : s.op.outputVars = some (pre ++ o :: rest)) (f : OutVar E → OutVar E) :
    s.modifyOutput pre.length f = s.setOutputVars (some (pre ++ f o :: rest)) := by
  simp only [State.modifyOutput, outputs, Option.map_some', modify_append_length]

/-- **One iteration of the overwrite loop**, at the output `o` it finds: it writes the item's
type and value into `o`, compares the new value with itself, and goes on from the written
state. -/
theorem checkOutputs_cons_overwrite {s : State E} {pre rest : List (OutVar E)} {o : OutVar E}
    (outputs : s.op.outputVars = some (pre ++ o :: rest)) (symType : Ty)
    (symVal : Option (PyVal E)) (items : List (Ty × Option (PyVal E))) :
    checkOutputs env true pre.length ((symType, symVal) :: items) s =
      let s₁ := s.setOutputVars (some ((pre ++ [{ o with symType, symVal }]) ++ rest))
      match symVal with
      | some new => match anyNotEqual env new new with
        | .ok _ => checkOutputs env true (pre.length + 1) items s₁
        | .error e => .error e s₁
      | none => checkOutputs env true (pre.length + 1) items s₁ := by
  have written : (s.modifyOutput pre.length fun o => { o with symType := symType }).modifyOutput
      pre.length (fun o => { o with symVal := symVal }) =
        s.setOutputVars (some ((pre ++ [{ o with symType, symVal }]) ++ rest)) := by
    rw [modifyOutput_append outputs, modifyOutput_append rfl, List.append_assoc]
    rfl
  have checked := checkValue_overwritten env
    (show (s.setOutputVars (some (pre ++ { o with symType, symVal } :: rest))).op.outputVars =
      some (pre ++ { o with symType, symVal } :: rest) from rfl) rfl
  simp only [checkOutputs, bind_apply, get_apply, outputAt_append outputs, fromExcept_ok, if_true,
    modify_apply, written, checked, List.append_assoc, List.singleton_append]
  cases symVal with
  | none => rfl
  | some new =>
      dsimp only
      cases anyNotEqual env new new <;> rfl

/-- **A returning overwrite loop** reached an output for every item and overwrote each. -/
theorem checkOutputs_overwrite_ok (st : State E) :
    ∀ (items : List (Ty × Option (PyVal E))) (pre rest : List (OutVar E)) (s s' : State E),
      KeepsInputs st s → s.op.outputVars = some (pre ++ rest) →
      checkOutputs env true pre.length items s = .ok () s' →
      items.length ≤ rest.length ∧ KeepsInputs st s' ∧
        s'.op.outputVars = some (pre ++ overwritten rest items)
  | [], pre, rest, s, s', keeps, outputs, run => by
      cases run
      exact ⟨Nat.zero_le _, keeps, by simpa using outputs⟩
  | (symType, symVal) :: items, pre, rest, s, s', keeps, outputs, run => by
      cases rest with
      | nil => simp [checkOutputs, outputAt_append outputs] at run
      | cons o rest =>
          rw [checkOutputs_cons_overwrite env outputs] at run
          suffices continued : checkOutputs env true (pre.length + 1) items
              (s.setOutputVars (some ((pre ++ [{ o with symType, symVal }]) ++ rest))) = .ok () s' by
            obtain ⟨reached, keeps', outputs'⟩ := checkOutputs_overwrite_ok st items
              (pre ++ [{ o with symType, symVal }]) rest _ s'
              (keepsInputs_setOutputVars _ s keeps) rfl
              (by rwa [List.length_append, List.length_singleton])
            exact ⟨Nat.succ_le_succ reached, keeps', by simpa using outputs'⟩
          cases symVal with
          | none => exact run
          | some new =>
              cases compared : anyNotEqual env new new <;> simp only [compared, reduceCtorEq] at run
              exact run

/-- **A raising overwrite loop** stopped at the first item `j` it could not finish, every item
before it having compared its new value with itself without raising: it raised either in that
comparison for item `j`, after overwriting output `j`, or at the index `j` past the outputs. -/
theorem checkOutputs_overwrite_error (st : State E) :
    ∀ (items : List (Ty × Option (PyVal E))) (pre rest : List (OutVar E)) (s s' : State E)
      (e : PyError), KeepsInputs st s → s.op.outputVars = some (pre ++ rest) →
      checkOutputs env true pre.length items s = .error e s' →
      KeepsInputs st s' ∧ ∃ j < items.length,
        (∀ i < j, ∀ symType new, items[i]? = some (symType, some new) →
          ∃ differs, anyNotEqual env new new = .ok differs) ∧
        ((j < rest.length ∧ (∃ symType new, items[j]? = some (symType, some new) ∧
            anyNotEqual env new new = .error e) ∧
            s'.op.outputVars = some (pre ++ overwritten rest (items.take (j + 1)))) ∨
          (j = rest.length ∧ e = .indexError "list index out of range" ∧
            s'.op.outputVars = some (pre ++ overwritten rest (items.take j))))
  | [], pre, rest, s, s', e, keeps, outputs, run => by cases run
  | (symType, symVal) :: items, pre, rest, s, s', e, keeps, outputs, run => by
      cases rest with
      | nil =>
          simp only [checkOutputs, bind_apply, get_apply, outputAt_append outputs,
            fromExcept_error] at run
          cases run
          exact ⟨keeps, 0, Nat.zero_lt_succ _, fun _ before => absurd before (Nat.not_lt_zero _),
            .inr ⟨rfl, rfl, by simpa using outputs⟩⟩
      | cons o rest =>
          rw [checkOutputs_cons_overwrite env outputs] at run
          let s₁ := s.setOutputVars (some ((pre ++ [{ o with symType, symVal }]) ++ rest))
          have keeps₁ : KeepsInputs st s₁ := keepsInputs_setOutputVars _ s keeps
          have step : (checkOutputs env true (pre.length + 1) items s₁ = .error e s' ∧
                ∀ new, symVal = some new → ∃ differs, anyNotEqual env new new = .ok differs) ∨
              ∃ new, symVal = some new ∧ anyNotEqual env new new = .error e ∧ s' = s₁ := by
            cases symVal with
            | none => exact .inl ⟨run, fun _ absent => nomatch absent⟩
            | some new =>
                cases compared : anyNotEqual env new new <;>
                  simp only [compared, EStateM.Result.error.injEq] at run
                · exact .inr ⟨new, rfl, run.1 ▸ compared, run.2.symm⟩
                · exact .inl ⟨run, fun _ same => ⟨_, Option.some.inj same ▸ compared⟩⟩
          rcases step with ⟨continued, first⟩ | ⟨new, rfl, compared, rfl⟩
          · obtain ⟨keeps', j, bounded, earlier, stop⟩ := checkOutputs_overwrite_error st items
              (pre ++ [({ o with symType, symVal } : OutVar E)]) rest s₁ s' e keeps₁ rfl
              (by rwa [List.length_append, List.length_singleton])
            refine ⟨keeps', j + 1, Nat.succ_lt_succ bounded, fun i before t new item => ?_, ?_⟩
            · cases i with
              | zero =>
                  rw [List.getElem?_cons_zero] at item
                  exact first new (Prod.mk.inj (Option.some.inj item)).2
              | succ i =>
                  rw [List.getElem?_cons_succ] at item
                  exact earlier i (Nat.lt_of_succ_lt_succ before) t new item
            · rcases stop with ⟨inRange, failed, outputs'⟩ | ⟨rfl, rfl, outputs'⟩
              · exact .inl ⟨Nat.succ_lt_succ inRange, by simpa only [List.getElem?_cons_succ] using failed,
                  by simpa using outputs'⟩
              · exact .inr ⟨rfl, rfl, by simpa using outputs'⟩
          · exact ⟨keeps₁, 0, Nat.zero_lt_succ _, fun _ before => absurd before (Nat.not_lt_zero _),
              .inl ⟨Nat.zero_lt_succ _, ⟨symType, new, List.getElem?_cons_zero, compared⟩, by simp [s₁]⟩⟩

end Overwrite

/-! ## Whole calls -/

def deepListType : Ty :=
  .list (.tensor .fp32 [.known 1, .known 1, .known 1, .known 1, .known 1]) none true

def deepListKind : OpKind Scalar where
  opType := "make_list"
  inputSpec := ⟨[], by decide, by decide⟩
  typeDomains := fun _ => none
  typeInference := fun _ => .ok (.one deepListType)
  valueInference := baseValueInference "make_list"
  outputNames := baseOutputNames "make_list"

/-- The same op after a rebinding, still holding the output it built for rank-4 elements. -/
def deepListState : State Scalar :=
  ⟨⟨0, some "make_list_0", fun _ => none,
    some [⟨some "make_list_0", .list (.tensor .fp32 [.known 1, .known 1, .known 1, .known 1]) none true,
      none, 0, 0, .list⟩]⟩, World.empty⟩

section Calls

variable (env : Collaborators E) (kind : OpKind E)

/-- **Inference with overwrite, on an op with outputs.** A returning call gives each output the
zip reaches the inferred type and the `_auto_val` value as they are, whatever the type, and
keeps the others and the inputs. It never runs the creation branch's rank check or its
list-value filter. -/
theorem overwrite_reinference {st st' : State E} {outs : List (OutVar E)}
    (existing : st.op.outputVars = some outs) (run : typeValueInference env kind true st = .ok () st') :
    ∃ outputTypes outputVals outputNames,
      inferStages kind st.op.inputVars = .ok (outputTypes, outputVals, outputNames) ∧
      (outputTypes.zip outputVals).length ≤ outs.length ∧ KeepsInputs st st' ∧
      st'.op.outputVars = some (overwritten outs (outputTypes.zip outputVals)) := by
  rw [typeValueInference_eq] at run
  rcases staged : inferStages kind st.op.inputVars with e | ⟨outputTypes, outputVals, outputNames⟩
  · simp [staged] at run
  · simp only [staged, existing] at run
    obtain ⟨reached, keeps, outputs⟩ := checkOutputs_overwrite_ok env st _ [] outs st st'
      ⟨rfl, rfl, rfl, rfl⟩ existing run
    exact ⟨outputTypes, outputVals, outputNames, rfl, reached, keeps, outputs⟩

end Calls

theorem deepList_overwrite_outputs :
    ∃ outputTypes outputVals outputNames,
      inferStages deepListKind deepListState.op.inputVars = .ok (outputTypes, outputVals, outputNames) ∧
      (typeValueInference scalarEnv deepListKind true deepListState).state.op.outputVars =
        some (overwritten (deepListState.op.outputVars.getD []) (outputTypes.zip outputVals)) := by
  obtain ⟨outputTypes, outputVals, outputNames, staged, -, -, outputs⟩ :=
    overwrite_reinference scalarEnv deepListKind (show deepListState.op.outputVars = some _ from rfl) rfl
  exact ⟨outputTypes, outputVals, outputNames, staged, outputs⟩

/-- On the same bindings the creation branch raises the rank error, while an overwrite of the
existing output returns and gives it the rank-5 list type. -/
theorem overwrite_skips_rank_check :
    (typeValueInference scalarEnv deepListKind false (deepListState.setOutputVars none)).raised ≠ none ∧
      (typeValueInference scalarEnv deepListKind true deepListState).raised = none ∧
      ((typeValueInference scalarEnv deepListKind true deepListState).state.op.outputVars.getD []).map
        OutVar.symType = [deepListType] := by
  decide

section Failures

variable (env : Collaborators E) (kind : OpKind E)

/-- **What a raising inference leaves.** On an op without outputs: no outputs when a stage
raised, and otherwise the Vars built for the items before the one whose Var could not be built.
On an op with outputs, without overwrite: the whole state unchanged. With overwrite: the state
unchanged when a stage raised, and otherwise the outputs overwritten up to the first item the
loop could not finish, that item's output included when its new value failed to compare with
itself. -/
theorem failed_inference_outputs {overwrite : Bool} {st st' : State E} {e : PyError}
    (run : typeValueInference env kind overwrite st = .error e st') :
    (st.op.outputVars = none →
      (inferStages kind st.op.inputVars = .error e ∧ st'.op.outputVars = none) ∨
      ∃ outputTypes outputVals outputNames created,
        inferStages kind st.op.inputVars = .ok (outputTypes, outputVals, outputNames) ∧
        createdVars env kind.opType kind.inputSpec st 0
          ((creationItems outputTypes outputVals outputNames).take created.length) = .ok created ∧
        (∃ n symType symVal,
          (creationItems outputTypes outputVals outputNames)[created.length]? =
            some (n, symType, symVal) ∧
          newOutputVar env kind.opType kind.inputSpec st created.length n symType symVal = .error e) ∧
        st'.op.outputVars = some created) ∧
    (∀ outs, st.op.outputVars = some outs → overwrite = false → st' = st) ∧
    (∀ outs, st.op.outputVars = some outs → overwrite = true →
      (inferStages kind st.op.inputVars = .error e ∧ st' = st) ∨
      ∃ outputTypes outputVals outputNames,
        inferStages kind st.op.inputVars = .ok (outputTypes, outputVals, outputNames) ∧
        KeepsInputs st st' ∧ ∃ j < (outputTypes.zip outputVals).length,
          (∀ i < j, ∀ symType new, (outputTypes.zip outputVals)[i]? = some (symType, some new) →
            ∃ differs, anyNotEqual env new new = .ok differs) ∧
          ((j < outs.length ∧ (∃ symType new, (outputTypes.zip outputVals)[j]? = some (symType, some new) ∧
              anyNotEqual env new new = .error e) ∧
              st'.op.outputVars = some (overwritten outs ((outputTypes.zip outputVals).take (j + 1)))) ∨
            (j = outs.length ∧ e = .indexError "list index out of range" ∧
              st'.op.outputVars = some (overwritten outs ((outputTypes.zip outputVals).take j))))) := by
  refine ⟨fun fresh => ?_, fun outs existing unforced => ?_, fun outs existing forced => ?_⟩
  · rcases typeValueInference_error_fresh env kind overwrite fresh run with
      ⟨staged, rfl⟩ | ⟨outputTypes, outputVals, outputNames, created, staged, built, failure, -, outputs⟩
    · exact .inl ⟨staged, fresh⟩
    · exact .inr ⟨outputTypes, outputVals, outputNames, created, staged, built, failure, outputs⟩
  · subst unforced
    have unchanged := reinference_state env kind existing
    rwa [run, state_error] at unchanged
  · subst forced
    rw [typeValueInference_eq] at run
    rcases staged : inferStages kind st.op.inputVars with e' | ⟨outputTypes, outputVals, outputNames⟩
    · simp only [staged] at run
      cases run
      exact .inl ⟨rfl, rfl⟩
    · simp only [staged, existing] at run
      exact .inr ⟨outputTypes, outputVals, outputNames, rfl, checkOutputs_overwrite_error env st _ [] outs
        st st' e ⟨rfl, rfl, rfl, rfl⟩ existing run⟩

end Failures

theorem deepList_failed_outputs :
    ∃ created, (typeValueInference scalarEnv deepListKind false
      (deepListState.setOutputVars none)).state.op.outputVars = some created := by
  rcases (@failed_inference_outputs Scalar scalarEnv deepListKind false (deepListState.setOutputVars none) _ _
    rfl).1 rfl with ⟨staged, -⟩ | ⟨-, -, -, created, -, -, -, outputs⟩
  · cases staged
  · exact ⟨created, outputs⟩

/-- A first inference that raises the rank error leaves an empty, non-`None` output list. -/
theorem rank_error_leaves_empty_outputs :
    (deepListState.setOutputVars none).op.outputVars = none ∧
      (typeValueInference scalarEnv deepListKind false (deepListState.setOutputVars none)).raised =
        some (.valueError ("Core ML only supports list of elements with rank <= 4. Layer " ++
          "\"make_list_0\", with type \"make_list\", outputs a list of rank 5 tensors.")) ∧
      (typeValueInference scalarEnv deepListKind false (deepListState.setOutputVars none)).state.op.outputVars =
        some [] := by
  decide

/-! ## Overwrite after creation -/

section AfterCreation

variable (env : Collaborators E)

theorem checkOutputs_overwrite_returns :
    ∀ (items : List (Ty × Option (PyVal E))) (pre rest : List (OutVar E)) (s : State E),
      s.op.outputVars = some (pre ++ rest) → items.length ≤ rest.length →
      (∀ item ∈ items, ∀ new, item.2 = some new → ∃ differs, anyNotEqual env new new = .ok differs) →
        ∃ s', checkOutputs env true pre.length items s = .ok () s'
  | [], _, _, s, _, _, _ => ⟨s, rfl⟩
  | _ :: _, _, [], _, _, long, _ => absurd long (by simp)
  | (symType, symVal) :: items, pre, o :: rest, s, outputs, long, compared => by
      rw [checkOutputs_cons_overwrite env outputs]
      have continued := checkOutputs_overwrite_returns items
        (pre ++ [({ o with symType, symVal } : OutVar E)]) rest
        (s.setOutputVars (some ((pre ++ [({ o with symType, symVal } : OutVar E)]) ++ rest))) rfl
        (by simpa using long) fun item member => compared item (List.mem_cons_of_mem _ member)
      rw [List.length_append, List.length_singleton] at continued
      cases symVal with
      | none => exact continued
      | some new =>
          obtain ⟨differs, same⟩ := compared _ (List.mem_cons_self _ _) new rfl
          simpa only [same] using continued

theorem overwritten_createdVars (opType : String) (spec : InputSpec) (st : State E) :
    ∀ (i : Nat) (items : List (String × Ty × Option (PyVal E))) (created : List (OutVar E)),
      createdVars env opType spec st i items = .ok created →
        overwritten created (items.map Prod.snd) =
          List.zipWith (fun o symVal => if o.symType.isList then { o with symVal } else o) created
            (items.map fun item => item.2.2)
  | _, [], created, run => by cases run; rfl
  | i, (n, symType, symVal) :: rest, created, run => by
      cases built : newOutputVar env opType spec st i n symType symVal with
      | error e => simp only [createdVars, built, except_error_bind, reduceCtorEq] at run
      | ok o =>
          cases others : createdVars env opType spec st (i + 1) rest with
          | error e =>
              simp only [createdVars, built, others, except_ok_bind, except_error_bind,
                reduceCtorEq] at run
          | ok later =>
              simp only [createdVars, built, others, except_ok_bind, except_pure,
                Except.ok.injEq] at run
              subst run
              obtain ⟨-, -, -, typed, valued⟩ := newOutputVar_ok env opType spec built
              rw [List.map_cons, List.map_cons, overwritten, List.zipWith_cons_cons,
                overwritten_createdVars opType spec st (i + 1) rest later others]
              obtain ⟨name, oType, oVal, producer, position, kind⟩ := o
              simp only at typed valued
              subst typed valued
              by_cases list : oType.isList <;> simp [list]

variable (kind : OpKind E)

/-- **Overwrite after creation.** After a returning first inference, with output names for
every type and new values that numpy can compare with themselves, inference with overwrite on
the unchanged inputs returns. Every output stays as created, except that a list output, which
kept its value only if it was a Python list, now holds the value `_auto_val` gave, whatever it
is. -/
theorem overwrite_after_creation {overwrite : Bool} {st st₁ : State E}
    (fresh : st.op.outputVars = none)
    (named : ∀ types names, kind.typeInference st.op.inputVars = .ok types →
      kind.outputNames st.op.inputVars = .ok names → names.toList.length = types.toList.length)
    (compared : ∀ outputTypes outputVals outputNames,
      inferStages kind st.op.inputVars = .ok (outputTypes, outputVals, outputNames) →
        ∀ v, some v ∈ outputVals → ∃ differs, anyNotEqual env v v = .ok differs)
    (first : typeValueInference env kind overwrite st = .ok () st₁) :
    ∃ outputTypes outputVals outputNames outs st₂,
      inferStages kind st.op.inputVars = .ok (outputTypes, outputVals, outputNames) ∧
      st₁.op.outputVars = some outs ∧ typeValueInference env kind true st₁ = .ok () st₂ ∧
      st₂.op.outputVars = some (List.zipWith
        (fun o symVal => if o.symType.isList then { o with symVal } else o) outs outputVals) := by
  obtain ⟨outputTypes, outputVals, outputNames, created, staged, built, keeps, outputs⟩ :=
    typeValueInference_ok_fresh env kind overwrite fresh first
  obtain ⟨types, typed, rfl, valued, naming⟩ := inferStages_ok staged
  have enoughNames := outputNamesOrDefault_length kind (named types · typed) naming
  have fewValues := autoVal_length_le kind _ _ valued
  have items : (creationItems types.toList outputVals outputNames).map Prod.snd =
      types.toList.zip outputVals :=
    List.map_snd_zip _ _ (by simp only [List.length_zip]; omega)
  have values : (creationItems types.toList outputVals outputNames).map (fun item => item.2.2) =
      outputVals := by
    rw [show (fun item : String × Ty × Option (PyVal E) => item.2.2) = Prod.snd ∘ Prod.snd from rfl,
      ← List.map_map, items, List.map_snd_zip _ _ fewValues]
  have lengths := (createdVars_ok env kind.opType kind.inputSpec st 0 _ created built).1
  have reinfer : typeValueInference env kind true st₁ =
      checkOutputs env true 0 (types.toList.zip outputVals) st₁ := by
    rw [typeValueInference_eq, keeps.2.2.2, staged]
    simp only [outputs]
  obtain ⟨st₂, returned⟩ := checkOutputs_overwrite_returns env (types.toList.zip outputVals) [] created
    st₁ outputs (by simp only [List.length_zip, lengths, creationItems]; omega)
    fun item member new known => compared _ _ _ staged new (known ▸ (List.of_mem_zip member).2)
  obtain ⟨-, -, overwrittenOutputs⟩ := checkOutputs_overwrite_ok env st₁ _ [] created st₁ st₂
    ⟨rfl, rfl, rfl, rfl⟩ outputs returned
  refine ⟨types.toList, outputVals, outputNames, created, st₂, staged, outputs, reinfer ▸ returned, ?_⟩
  rw [overwrittenOutputs, List.nil_append, ← items, overwritten_createdVars env _ _ st 0 _ created built,
    values]

end AfterCreation

/-- A list-producing op whose `value_inference` returns a numpy array, not a `mil_list`. -/
def arrayListKind : OpKind Scalar where
  opType := "make_list"
  inputSpec := ⟨[], by decide, by decide⟩
  typeDomains := fun _ => none
  typeInference := fun _ => .ok (.one (.list (.tensor .fp32 [.known 2]) (some 1) true))
  valueInference := fun _ => .ok (.one (.value (.array ⟨[2], [.finite 1, .finite 2], rfl⟩)))
  outputNames := baseOutputNames "make_list"

/-- Creation stores no value in the list output; overwrite then stores the array. -/
theorem arrayList_overwrite_stores_array :
    ∃ outputTypes outputVals outputNames outs st₂,
      inferStages arrayListKind makeListState.op.inputVars = .ok (outputTypes, outputVals, outputNames) ∧
      (typeValueInference scalarEnv arrayListKind false makeListState).state.op.outputVars = some outs ∧
      typeValueInference scalarEnv arrayListKind true
        (typeValueInference scalarEnv arrayListKind false makeListState).state = .ok () st₂ ∧
      st₂.op.outputVars = some (List.zipWith
        (fun o symVal => if o.symType.isList then { o with symVal } else o) outs outputVals) :=
  overwrite_after_creation scalarEnv arrayListKind (show makeListState.op.outputVars = none from rfl)
    (fun _ _ _ given => nomatch given)
    (fun _ _ _ staged v member => by
      cases staged
      simp only [OneOrTuple.toList, List.zip_cons_cons, List.zip_nil_right, List.map_cons,
        List.map_nil, Candidate.unwrap, List.mem_singleton, Option.some.injEq] at member
      exact ⟨false, by rw [member]; rfl⟩)
    (show typeValueInference scalarEnv arrayListKind false makeListState = .ok () _ from rfl)

example :
    ((typeValueInference scalarEnv arrayListKind false makeListState).state.op.outputVars.getD []).map
        OutVar.symVal = [none] ∧
      ((typeValueInference scalarEnv arrayListKind true
        (typeValueInference scalarEnv arrayListKind false makeListState).state).state.op.outputVars.getD
          []).map OutVar.symVal = [some (.array ⟨[2], [.finite 1, .finite 2], rfl⟩)] := by
  decide

end MilOperation
