import MilOperation.State

/-!
Contract: `Operation._auto_val` and `Operation.type_value_inference`.

Type inference yields one type per output. `_auto_val` turns `value_inference`'s outcome
into one value per output, or `None` for every output when value inference is unavailable.
The first inference builds the output Vars one by one; every later inference checks the new
types and values against the existing Vars, or overwrites them when asked.

Owns: both branches as the source runs them, in order, with every error they can raise:
the list-element rank limit, a missing op name, the attribute error of a `const` op with a
complex output and no value, an index past the existing outputs, and the two drift errors.

Does not own: `_set_nonreplaceable_vars_upstream`, which the re-inference loop calls on every
output after each check; it updates a marker of the Vars no modelled function reads.
-/

namespace MilOperation

variable {E : Type}

/-! ## Values and names -/

/-- `_auto_val(output_types)`: `None` for every output when `value_inference` raises
`NotImplementedError` or returns a `None` entry; otherwise the entries, paired with the
output types by `zip`. Any other exception of `value_inference` propagates. -/
def autoVal (kind : OpKind E) (inputVars : String → Option (Binding E)) (outputTypes : List Ty) :
    Except PyError (List (Option (PyVal E))) :=
  match kind.valueInference inputVars with
  | .error e => if e.isNotImplemented then .ok (outputTypes.map fun _ => none) else .error e
  | .ok vals =>
      if vals.toList.any Candidate.isNone then .ok (outputTypes.map fun _ => none)
      else .ok ((outputTypes.zip vals.toList).map fun pair => pair.2.unwrap)

/-- The `try: output_names = self.output_names() ... except NotImplementedError:` block: the
class's names, or `"0"`, `"1"`, ... for several outputs and `""` for one. -/
def outputNamesOrDefault (kind : OpKind E) (inputVars : String → Option (Binding E))
    (outputTypes : List Ty) : Except PyError (List String) :=
  match kind.outputNames inputVars with
  | .ok names => .ok names.toList
  | .error e =>
      if e.isNotImplemented then
        .ok (if 1 < outputTypes.length then (List.range outputTypes.length).map toString else [""])
      else .error e

def outputVarName (opName : Option String) (n : String) : Except PyError (Option String) :=
  if n = "" then .ok opName
  else
    match opName with
    | some name => .ok (some (name ++ "_" ++ n))
    | none => .error (.typeError "unsupported operand type(s) for +: 'NoneType' and 'str'")

def inputAttribute (opType : String) (spec : InputSpec) (st : State E) (name : String) :
    Except PyError (Option (Binding E)) :=
  if spec.contains name then .ok (st.op.inputVars name)
  else .error (.attributeError ("'" ++ opType ++ "' object has no attribute '" ++ name ++ "'"))

def outputAt (st : State E) (i : Nat) : Except PyError (OutVar E) :=
  match (st.op.outputVars.getD [])[i]? with
  | some outVar => .ok outVar
  | none => .error (.indexError "list index out of range")

section Branches

variable (env : Collaborators E) (opType : String) (spec : InputSpec)

/-- The real and imaginary parts of a complex output: the op's `real_data` and `imag_data`
for `complex`, `np.real`/`np.imag` of the value for `const`, nothing otherwise. -/
def complexParts (st : State E) (symVal : Option (PyVal E)) :
    Except PyError (ComplexPart E × ComplexPart E) :=
  if opType = "complex" then do
    let real ← inputAttribute opType spec st "real_data"
    let imag ← inputAttribute opType spec st "imag_data"
    return (.input real, .input imag)
  else if opType = "const" then
    match symVal with
    | some v => .ok (.value (env.real v), .value (env.imag v))
    | none => .error (.attributeError "'NoneType' object has no attribute 'val'")
  else .ok (.none, .none)

def listOutputValue : Option (PyVal E) → Option (PyVal E)
  | some (.list items) => some (.list items)
  | _ => none

/-- The body of the creation loop for output `i`: a `ListVar` keeping its value only when it is
a Python list and rejecting elements of rank 5 or more, a `ComplexVar` for a complex tensor,
a plain `Var` otherwise. -/
def newOutputVar (st : State E) (i : Nat) (n : String) (symType : Ty) (symVal : Option (PyVal E)) :
    Except PyError (OutVar E) := do
  let name ← outputVarName st.op.name n
  match symType with
  | .list elemType _ _ =>
      let newVar : OutVar E := ⟨name, symType, listOutputValue symVal, st.op.id, i, .list⟩
      match elemType.elemShape with
      | some elemShape =>
          if 5 ≤ elemShape.length then
            throw (.valueError ("Core ML only supports list of elements with rank <= 4. Layer \"" ++
              showName st.op.name ++ "\", with type \"" ++ opType ++ "\", outputs a list of rank " ++
              toString elemShape.length ++ " tensors."))
          else pure newVar
      | none => pure newVar
  | _ =>
      if symType.isComplexTensor then do
        let parts ← complexParts env opType spec st symVal
        return ⟨name, symType, symVal, st.op.id, i, .complex parts.1 parts.2⟩
      else return ⟨name, symType, symVal, st.op.id, i, .plain⟩

/-- The creation loop over `enumerate(zip(output_names, output_types, output_vals))`. -/
def createOutputs : Nat → List (String × Ty × Option (PyVal E)) → EStateM PyError (State E) Unit
  | _, [] => pure ()
  | i, (n, symType, symVal) :: rest => do
      let newVar ← fromExcept (newOutputVar env opType spec (← get) i n symType symVal)
      modify (State.appendOutput newVar)
      createOutputs (i + 1) rest

/-- The value check of the re-inference loop for output `i`, reading `out_var.sym_val` after
the optional overwrite. -/
def checkValue (overwrite : Bool) (i : Nat) (symVal : Option (PyVal E)) :
    EStateM PyError (State E) Unit := do
  let st ← get
  let outVar ← fromExcept (outputAt st i)
  match symVal, outVar.symVal with
  | some new, some old =>
      let differs ← fromExcept (anyNotEqual env new old)
      if differs then
        if overwrite then modify (State.modifyOutput i fun o => { o with symVal := symVal })
        else do
          let compatible ← fromExcept (isCompatibleSymbolicArray env new old)
          raiseIf (!compatible) (.valueError ("value_inference differs for var " ++
            showName outVar.name ++ " in op " ++ showName st.op.name))
      else pure ()
  | _, _ => pure ()

/-- The re-inference loop over `enumerate(zip(output_types, output_vals))`. -/
def checkOutputs (overwrite : Bool) : Nat → List (Ty × Option (PyVal E)) →
    EStateM PyError (State E) Unit
  | _, [] => pure ()
  | i, (symType, symVal) :: rest => do
      let st ← get
      let outVar ← fromExcept (outputAt st i)
      (if overwrite then modify (State.modifyOutput i fun o => { o with symType := symType })
        else raiseIf (!env.isCompatibleType symType outVar.symType)
          (.valueError ("Output Var " ++ showName outVar.name ++ " in op " ++
            showName st.op.name ++ " type changes with new input Vars")))
      (if overwrite then modify (State.modifyOutput i fun o => { o with symVal := symVal })
        else pure ())
      checkValue env overwrite i symVal
      checkOutputs overwrite (i + 1) rest

end Branches

/-- `Operation.type_value_inference(overwrite_output)`. -/
def typeValueInference (env : Collaborators E) (kind : OpKind E) (overwrite : Bool) :
    EStateM PyError (State E) Unit := do
  let st ← get
  let outputTypes := (← fromExcept (kind.typeInference st.op.inputVars)).toList
  let outputVals ← fromExcept (autoVal kind st.op.inputVars outputTypes)
  let outputNames ← fromExcept (outputNamesOrDefault kind st.op.inputVars outputTypes)
  match st.op.outputVars with
  | none =>
      modify (State.setOutputVars (some []))
      createOutputs env kind.opType kind.inputSpec 0 (outputNames.zip (outputTypes.zip outputVals))
  | some _ => checkOutputs env overwrite 0 (outputTypes.zip outputVals)

end MilOperation

namespace MilOperation

variable {E : Type}

/-! ## Frame: inference writes only `_output_vars` -/

/-- `s` agrees with `st` on everything but `_output_vars`. -/
def KeepsInputs (st s : State E) : Prop :=
  s.world = st.world ∧ s.op.id = st.op.id ∧ s.op.name = st.op.name ∧ s.op.inputVars = st.op.inputVars

theorem keepsInputs_setOutputVars {st : State E} (outputs : Option (List (OutVar E))) (s : State E)
    (keeps : KeepsInputs st s) : KeepsInputs st (s.setOutputVars outputs) :=
  keeps

section Frame

variable (env : Collaborators E) (opType : String) (spec : InputSpec) (st : State E)

theorem createOutputs_keepsInputs :
    ∀ (i : Nat) (items : List (String × Ty × Option (PyVal E))),
      Preserves (KeepsInputs st) (createOutputs env opType spec i items)
  | _, [] => Preserves.pure _
  | i, (n, symType, symVal) :: rest => by
      unfold createOutputs
      exact Preserves.bind Preserves.get fun _ => Preserves.bind (Preserves.fromExcept _) fun _ =>
        Preserves.bind (Preserves.modify fun _ => keepsInputs_setOutputVars _ _) fun _ =>
          createOutputs_keepsInputs (i + 1) rest

theorem checkValue_keepsInputs (overwrite : Bool) (i : Nat) (symVal : Option (PyVal E)) :
    Preserves (KeepsInputs st) (checkValue env overwrite i symVal) := by
  unfold checkValue
  refine Preserves.bind Preserves.get fun s => Preserves.bind (Preserves.fromExcept _) fun outVar => ?_
  split
  · refine Preserves.bind (Preserves.fromExcept _) fun differs => ?_
    split
    · split
      · exact Preserves.modify fun _ => keepsInputs_setOutputVars _ _
      · exact Preserves.bind (Preserves.fromExcept _) fun _ => Preserves.raiseIf _ _
    · exact Preserves.pure _
  · exact Preserves.pure _

theorem checkOutputs_keepsInputs (overwrite : Bool) :
    ∀ (i : Nat) (items : List (Ty × Option (PyVal E))),
      Preserves (KeepsInputs st) (checkOutputs env overwrite i items)
  | _, [] => Preserves.pure _
  | i, (symType, symVal) :: rest => by
      unfold checkOutputs
      exact Preserves.bind Preserves.get fun _ => Preserves.bind (Preserves.fromExcept _) fun _ =>
        Preserves.bind (Preserves.ite (Preserves.modify fun _ => keepsInputs_setOutputVars _ _)
          (Preserves.raiseIf _ _)) fun _ =>
        Preserves.bind (Preserves.ite (Preserves.modify fun _ => keepsInputs_setOutputVars _ _)
          (Preserves.pure _)) fun _ =>
        Preserves.bind (checkValue_keepsInputs env st overwrite i symVal) fun _ =>
          checkOutputs_keepsInputs overwrite (i + 1) rest

end Frame

/-- **Inference writes only `_output_vars`**, whether it returns or raises. -/
theorem typeValueInference_frame (env : Collaborators E) (kind : OpKind E) (overwrite : Bool)
    (st : State E) : KeepsInputs st (typeValueInference env kind overwrite st).state := by
  refine (?_ : Preserves (KeepsInputs st) (typeValueInference env kind overwrite)) st
    ⟨rfl, rfl, rfl, rfl⟩
  unfold typeValueInference
  refine Preserves.bind Preserves.get fun s => Preserves.bind (Preserves.fromExcept _) fun types =>
    Preserves.bind (Preserves.fromExcept _) fun vals =>
      Preserves.bind (Preserves.fromExcept _) fun names => ?_
  split
  · exact Preserves.bind (Preserves.modify fun _ => keepsInputs_setOutputVars _ _) fun _ =>
      createOutputs_keepsInputs env _ _ st _ _
  · exact checkOutputs_keepsInputs env st overwrite _ _

end MilOperation
