import MilOperation.Drift

/-!
Contract: runs of several calls on one op, each call starting from the state the previous
one left, whether it returned or raised.

Only the overwrite path of `type_value_inference` writes an existing output list: binding
inputs never reads `_output_vars`, and inference without overwrite on an op with outputs
writes nothing at all (`reinference_state`).

Owns: the calls a run is made of, the states runs reach from `__init__`, the stability of an
existing output list over every run without overwrite, and of what identifies each output
over every run.

Does not own: what one call does (`Inputs`, `Creation`, `Reinference`).
-/

namespace MilOperation

variable {E : Type} [DecidableEq E]

/-! ## Binding inputs never writes the outputs -/

section Frame

variable (env : Collaborators E) (outputs : Option (List (OutVar E))) (noCheck : Bool)

def HasOutputs (s : State E) : Prop :=
  s.op.outputVars = outputs

theorem validateAndSetInputs_outputs (kind : OpKind E) (kvs : List (String × Binding E)) :
    Preserves (HasOutputs outputs) (validateAndSetInputs env kind kvs noCheck) :=
  validateAndSetInputs_preserves env (fun _ _ holds => holds) (fun _ _ holds => holds)
    (fun _ _ _ holds => holds) kind kvs noCheck

end Frame

omit [DecidableEq E] in
theorem typeValueInference_outputs (env : Collaborators E) (kind : OpKind E)
    (outs : List (OutVar E)) :
    Preserves (HasOutputs (some outs)) (typeValueInference env kind false) := fun s existing => by
  rw [reinference_state env kind existing]
  exact existing

theorem setInputs_outputs (env : Collaborators E) (kind : OpKind E) (outs : List (OutVar E))
    (noCheck typeInference : Bool) (kvs : List (String × Binding E)) :
    Preserves (HasOutputs (some outs)) (setInputs env kind noCheck typeInference kvs) :=
  Preserves.bind (validateAndSetInputs_outputs env _ noCheck kind kvs) fun _ =>
    Preserves.bind (Preserves.ite (typeValueInference_outputs env kind outs) (Preserves.pure _)) fun _ =>
      Preserves.bind Preserves.get fun _ => Preserves.fromExcept _

/-! ## Runs -/

inductive Call (E : Type) where
  | setInputs (noCheck typeInference : Bool) (kvs : List (String × Binding E))
  | typeValueInference (overwrite : Bool)

def Call.overwrites : Call E → Bool
  | .typeValueInference overwrite => overwrite
  | .setInputs .. => false

def Call.run (env : Collaborators E) (kind : OpKind E) : Call E → EStateM PyError (State E) Unit
  | .setInputs noCheck typeInference kvs => MilOperation.setInputs env kind noCheck typeInference kvs
  | .typeValueInference overwrite => MilOperation.typeValueInference env kind overwrite

/-- The state after a run: each call starts where the previous one stopped, returned or
raised. -/
def runCalls (env : Collaborators E) (kind : OpKind E) : List (Call E) → State E → State E
  | [], st => st
  | call :: calls, st => runCalls env kind calls (call.run env kind st).state

theorem runCalls_append (env : Collaborators E) (kind : OpKind E) :
    ∀ (first rest : List (Call E)) (st : State E),
      runCalls env kind (first ++ rest) st = runCalls env kind rest (runCalls env kind first st)
  | [], _, _ => rfl
  | _ :: first, rest, _ => runCalls_append env kind first rest _

/-- The states an op reaches from a freshly allocated one: a successful `__init__`, then any
calls `admits` allows in the state each starts from, each returned or raised. -/
inductive Reached (env : Collaborators E) (kind : OpKind E) (admits : Call E → State E → Bool) :
    State E → Prop
  | init {kwargs : Kwargs E} {st₀ st : State E} :
      MilOperation.init env kind kwargs st₀ = .ok () st → Reached env kind admits st
  | call {st : State E} (call : Call E) : Reached env kind admits st → admits call st = true →
      Reached env kind admits (call.run env kind st).state

theorem Call.run_outputs (env : Collaborators E) (kind : OpKind E) (outs : List (OutVar E)) :
    ∀ call : Call E, call.overwrites = false → Preserves (HasOutputs (some outs)) (call.run env kind)
  | .setInputs noCheck typeInference kvs, _ => setInputs_outputs env kind outs noCheck typeInference kvs
  | .typeValueInference overwrite, unforced => by
      simp only [Call.overwrites] at unforced
      subst unforced
      exact typeValueInference_outputs env kind outs

theorem runCalls_outputs (env : Collaborators E) (kind : OpKind E) (outs : List (OutVar E)) :
    ∀ (calls : List (Call E)) (st : State E), (∀ call ∈ calls, call.overwrites = false) →
      st.op.outputVars = some outs → (runCalls env kind calls st).op.outputVars = some outs
  | [], _, _, existing => existing
  | call :: calls, st, unforced, existing =>
      runCalls_outputs env kind outs calls _ (fun other member => unforced other (.tail _ member))
        (call.run_outputs env kind outs (unforced call (.head _)) st existing)

/-- **Outputs are fixed once they exist.** In a run without overwrite, once the op's output
list is non-`None` it stays the same list: the same Vars, in the same order, each with the
type and value it was created with. -/
theorem outputs_fixed_once_created (env : Collaborators E) (kind : OpKind E) (calls : List (Call E))
    (st : State E) (k : Nat) (outs : List (OutVar E)) (unforced : ∀ call ∈ calls, call.overwrites = false)
    (created : (runCalls env kind (calls.take k) st).op.outputVars = some outs) :
    (runCalls env kind calls st).op.outputVars = some outs := by
  rw [← List.take_append_drop k calls, runCalls_append]
  exact runCalls_outputs env kind outs _ _
    (fun call member => unforced call (List.mem_of_mem_drop member)) created

theorem nanConst_outputs_fixed :
    (runCalls scalarEnv (constKind .nan)
        [.typeValueInference false, .typeValueInference false, .setInputs false true []]
        constState).op.outputVars =
      some [⟨some "const_0", .tensor .fp32 [.known 1], some (.array ⟨[1], [.nan], rfl⟩), 0, 0, .plain⟩] :=
  outputs_fixed_once_created scalarEnv (constKind .nan) _ constState 1 _ (by decide) (by decide)

/-! ## What identifies an output -/

section Identity

omit [DecidableEq E]

/-- What identifies an output Var: its name, producer, position and class. -/
def OutVar.identity (o : OutVar E) : Option String × Nat × Nat × OutVarKind E :=
  (o.name, o.op, o.opOutputIdx, o.kind)

def HasOutputIdentities (ids : List (Option String × Nat × Nat × OutVarKind E)) (s : State E) : Prop :=
  ∃ outs, s.op.outputVars = some outs ∧ outs.map OutVar.identity = ids

variable {ids : List (Option String × Nat × Nat × OutVarKind E)}

theorem map_identity_modify {f : OutVar E → OutVar E} (keeps : ∀ o, (f o).identity = o.identity) :
    ∀ (outs : List (OutVar E)) (i : Nat), (outs.modify f i).map OutVar.identity = outs.map OutVar.identity
  | [], i => by cases i <;> rfl
  | o :: outs, 0 => by rw [List.modify_zero_cons, List.map_cons, List.map_cons, keeps]
  | o :: outs, i + 1 => by
      rw [List.modify_succ_cons, List.map_cons, List.map_cons, map_identity_modify keeps outs i]

theorem modifyOutput_identities {f : OutVar E → OutVar E} (keeps : ∀ o, (f o).identity = o.identity)
    (i : Nat) : ∀ s : State E, HasOutputIdentities ids s → HasOutputIdentities ids (s.modifyOutput i f)
  | _, ⟨outs, outputs, same⟩ =>
      ⟨outs.modify f i, by simp [State.modifyOutput, outputs], by rw [map_identity_modify keeps, same]⟩

variable (env : Collaborators E)

theorem checkValue_identities (overwrite : Bool) (i : Nat) (symVal : Option (PyVal E)) :
    Preserves (HasOutputIdentities ids) (checkValue env overwrite i symVal) := by
  unfold checkValue
  refine Preserves.bind Preserves.get fun _ => Preserves.bind (Preserves.fromExcept _) fun _ => ?_
  split
  · refine Preserves.bind (Preserves.fromExcept _) fun _ => Preserves.ite (Preserves.ite
      (Preserves.modify (modifyOutput_identities (by intro; rfl) i)) ?_) (Preserves.pure _)
    exact Preserves.bind (Preserves.fromExcept _) fun _ => Preserves.raiseIf _ _
  · exact Preserves.pure _

theorem checkOutputs_identities (overwrite : Bool) :
    ∀ (i : Nat) (items : List (Ty × Option (PyVal E))),
      Preserves (HasOutputIdentities ids) (checkOutputs env overwrite i items)
  | _, [] => Preserves.pure _
  | i, (symType, symVal) :: rest => by
      unfold checkOutputs
      exact Preserves.bind Preserves.get fun _ => Preserves.bind (Preserves.fromExcept _) fun _ =>
        Preserves.bind (Preserves.ite (Preserves.modify (modifyOutput_identities (by intro; rfl) i))
          (Preserves.raiseIf _ _)) fun _ =>
        Preserves.bind (Preserves.ite (Preserves.modify (modifyOutput_identities (by intro; rfl) i))
          (Preserves.pure _)) fun _ =>
        Preserves.bind (checkValue_identities env overwrite i symVal) fun _ =>
          checkOutputs_identities overwrite (i + 1) rest

variable [DecidableEq E] (kind : OpKind E)

/-- **Step**: every call on an op with outputs keeps their identities, whether it returns or
raises. -/
theorem Call.run_identities (call : Call E) : Preserves (HasOutputIdentities ids) (call.run env kind) := by
  intro s ⟨outs, outputs, same⟩
  cases call with
  | setInputs noCheck typeInference kvs =>
      exact ⟨outs, setInputs_outputs env kind outs noCheck typeInference kvs s outputs, same⟩
  | typeValueInference overwrite =>
      show HasOutputIdentities ids (MilOperation.typeValueInference env kind overwrite s).state
      rw [typeValueInference_eq]
      cases inferStages kind s.op.inputVars with
      | error e => exact ⟨outs, outputs, same⟩
      | ok stages =>
          simp only [outputs]
          exact checkOutputs_identities env overwrite 0 _ s ⟨outs, outputs, same⟩

/-- **Outputs keep their identity once created.** In any run, overwrite included, once the
op's output list is non-`None` it keeps its length, and each output its name, producer,
position and class: only types and values change. -/
theorem output_identities_fixed (calls : List (Call E)) (st : State E) {outs : List (OutVar E)}
    (existing : st.op.outputVars = some outs) :
    ∃ outs', (runCalls env kind calls st).op.outputVars = some outs' ∧
      outs'.map OutVar.identity = outs.map OutVar.identity := by
  induction calls generalizing st outs with
  | nil => exact ⟨outs, existing, rfl⟩
  | cons call calls inductionHypothesis =>
      obtain ⟨outs₁, outputs₁, same₁⟩ := Call.run_identities env kind call st ⟨outs, existing, rfl⟩
      obtain ⟨outs', outputs', same'⟩ := inductionHypothesis _ outputs₁
      exact ⟨outs', outputs', same'.trans same₁⟩

end Identity

theorem deepList_output_identity_fixed :
    ∃ outs', (runCalls scalarEnv deepListKind [.typeValueInference true, .typeValueInference false]
        deepListState).op.outputVars = some outs' ∧
      outs'.map OutVar.identity = [(some "make_list_0", 0, 0, .list)] :=
  output_identities_fixed scalarEnv deepListKind _ deepListState rfl

end MilOperation
