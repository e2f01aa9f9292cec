import MilOperation.Inference

/-!
Contract: binding inputs. `Operation.__init__`, `set_inputs`, `_validate_and_set_inputs`
with its `check_and_detach`, `_ensure_required_inputs` and `_check_expected_inputs`.

Binding a slot detaches the op from the Vars it replaces, pairing old and new tuple elements
by `zip`, then attaches it to every new Var and stores the binding. `__init__` first resolves
the type domain of every tensor input into the class-level `InputType` objects.

Owns: these methods in source order, with the exceptions they raise.

Does not own: what the bindings mean for the consumer edges (`Edges`) or for the type
domains a class accepts (`TypeDomains`).
-/

namespace MilOperation

variable {E : Type}

def nonAttributes : List String :=
  ["name", "symbolic_datatype", "datatype", "symbolic_value", "value", "version", "before_op",
    "no_check_var_types", "enclosing_block", "scopes"]

/-- `_check_expected_inputs(kwargs)`: the first keyword that is neither a system keyword nor an
input raises `ValueError`. -/
def checkExpectedInputs (kind : OpKind E) (keys : List String) : Except PyError Unit :=
  match keys.find? fun key => !nonAttributes.contains key && !kind.inputSpec.contains key with
  | some key => .error (.valueError ("Unknown input '" ++ key ++ "' for op '" ++ kind.opType ++ "'"))
  | none => .ok ()

def requiredInputsPresent (opType : String) (op : Operation E) :
    List (String × InputType) → Except PyError Unit
  | [] => .ok ()
  | (name, inputType) :: rest =>
      if !inputType.optional && (op.inputVars name).isNone then
        .error (.valueError ("Op \"" ++ showName op.name ++ "\" (op_type: " ++ opType ++
          ") Required input " ++ name ++ " is missing"))
      else requiredInputsPresent opType op rest

def ensureRequiredInputs (kind : OpKind E) (op : Operation E) : Except PyError Unit :=
  requiredInputsPresent kind.opType op kind.inputSpec.inputTypes

/-- The keyword arguments of `Operation.__init__`: `name`, and every other keyword with its
value (`none` for Python's `None`; a system keyword's value is some other object). -/
structure Kwargs (E : Type) where
  name : Option String
  args : List (String × Option (Binding E))
  keys_nodup : (args.map Prod.fst).Nodup

/-- Binding `var` adds an edge to it, or to each Var of a sequence; any other object is bound
without an edge (the source's "ignore function inputs"). -/
def attach [DecidableEq E] (binding : Binding E) (st : State E) : State E :=
  match binding with
  | .var v => st.addChildOp v
  | .tuple vs => vs.foldl (fun st v => st.addChildOp v) st
  | .other => st

section Binding

variable [DecidableEq E] (env : Collaborators E)

def checkAndDetach (noCheck : Bool) (vNew vOld : Var E) : EStateM PyError (State E) Unit := do
  raiseIf (!env.isCompatibleType vNew.symType vOld.symType && !noCheck)
    (.valueError ("New var " ++ vNew.name ++ " doesn't have compatible subtype of existing var `" ++
      vOld.name ++ "`."))
  modify (State.removeChildOp vOld)

/-- `for v_old, v_new in zip(existing_input_var, var): check_and_detach(v_new, v_old, ...)`. -/
def detachPairs (noCheck : Bool) : List (Var E) → List (Var E) → EStateM PyError (State E) Unit
  | vOld :: olds, vNew :: news => do
      checkAndDetach env noCheck vNew vOld
      detachPairs noCheck olds news
  | _, _ => pure ()

/-- The detach step of one slot: nothing for an unbound slot, pairwise for a sequence, one
`check_and_detach` otherwise. Mismatched shapes raise what Python raises at `zip` or at
`.sym_type`. -/
def detachExisting (noCheck : Bool) : Option (Binding E) → Binding E → EStateM PyError (State E) Unit
  | none, _ => pure ()
  | some (.tuple olds), .tuple news => detachPairs env noCheck olds news
  | some (.tuple _), .var _ => throw (.typeError "'Var' object is not iterable")
  | some (.tuple _), .other => throw (.typeError "object is not iterable")
  | some (.var vOld), .var vNew => checkAndDetach env noCheck vNew vOld
  | some (.var _), .tuple _ => throw (.attributeError "'tuple' object has no attribute 'sym_type'")
  | some (.var _), .other => throw (.attributeError "object has no attribute 'sym_type'")
  | some .other, _ => throw (.attributeError "object has no attribute 'sym_type'")

def bindInput (noCheck : Bool) (name : String) (var : Binding E) : EStateM PyError (State E) Unit := do
  detachExisting env noCheck ((← get).op.inputVars name) var
  modify (attach var)
  modify (State.setInputVar name var)

/-- The binding loop `for name, var in input_kvs.items()` of `_validate_and_set_inputs`. -/
def bindInputs (noCheck : Bool) : List (String × Binding E) → EStateM PyError (State E) Unit
  | [] => pure ()
  | (name, var) :: rest => do
      bindInput env noCheck name var
      bindInputs noCheck rest

variable (kind : OpKind E)

/-- `_validate_and_set_inputs(input_kvs, no_check_var_types)`: reject an unknown key, validate
against the input spec, then bind. -/
def validateAndSetInputs (kvs : List (String × Binding E)) (noCheck : Bool) :
    EStateM PyError (State E) Unit :=
  match kvs.find? fun kv => !kind.inputSpec.contains kv.1 with
  | some (key, _) => throw (.runtimeError ("Unknown input '" ++ key ++ "' for op '" ++ kind.opType ++ "'"))
  | none => do
      let st ← get
      fromExcept (kind.inputSpec.validateInputs st.world.typeDomain (showName st.op.name) kind.opType kvs)
      bindInputs env noCheck kvs

def setInputs (noCheck typeInference : Bool) (kvs : List (String × Binding E)) :
    EStateM PyError (State E) Unit := do
  validateAndSetInputs env kind kvs noCheck
  (if typeInference && !noCheck then typeValueInference env kind false else pure ())
  fromExcept (ensureRequiredInputs kind (← get).op)

def resolveTypeDomain (inputType : InputType) : EStateM PyError (State E) Unit :=
  match inputType.kind with
  | .tensor typeDomainId => do
      if (← get).world.typeDomain inputType.ref = [] then
        match typeDomainId.bind kind.typeDomains with
        | some domain => modify (State.setTypeDomain inputType.ref domain)
        | none => throw (.valueError ("type_domain " ++ showName typeDomainId ++ " not defined."))
      else pure ()
  | _ => pure ()

def resolveTypeDomains : List (String × InputType) → EStateM PyError (State E) Unit
  | [] => pure ()
  | (_, inputType) :: rest => do
      resolveTypeDomain kind inputType
      resolveTypeDomains rest

def inputKv (kwargs : Kwargs E) : List (String × Binding E) :=
  kwargs.args.filterMap fun arg =>
    if kind.inputSpec.contains arg.1 then arg.2.map fun binding => (arg.1, binding) else none

/-- `Operation.__init__` up to the binding of its inputs: reset the op's fields, read
`enclosing_block` and `scopes`, `_check_expected_inputs`, and resolve the type domains. -/
def initPrelude (kwargs : Kwargs E) : EStateM PyError (State E) Unit := do
  modify fun st => { st with op := ⟨st.op.id, kwargs.name, fun _ => none, none⟩ }
  raiseIf (!kwargs.args.any (·.1 == "enclosing_block")) (.keyError "enclosing_block")
  raiseIf (!kwargs.args.any (·.1 == "scopes")) (.keyError "scopes")
  fromExcept (checkExpectedInputs kind (kwargs.args.map Prod.fst))
  resolveTypeDomains kind kind.inputSpec.inputTypes

def init (kwargs : Kwargs E) : EStateM PyError (State E) Unit := do
  initPrelude kind kwargs
  validateAndSetInputs env kind (inputKv kind kwargs) false
  fromExcept (ensureRequiredInputs kind (← get).op)

end Binding

/-! ## Frame: what binding can write -/

section Frame

variable [DecidableEq E] (env : Collaborators E) {P : State E → Prop}
  (removes : ∀ v s, P s → P (State.removeChildOp v s)) (adds : ∀ v s, P s → P (State.addChildOp v s))
  (sets : ∀ name binding s, P s → P (State.setInputVar name binding s))

include adds in
theorem attach_preserves (binding : Binding E) (s : State E) (holds : P s) : P (attach binding s) := by
  cases binding with
  | var v => exact adds v s holds
  | tuple vs =>
      induction vs generalizing s with
      | nil => exact holds
      | cons v vs inductionHypothesis => exact inductionHypothesis _ (adds v s holds)
  | other => exact holds

include removes in
theorem detachExisting_preserves (noCheck : Bool) (existing : Option (Binding E)) (new : Binding E) :
    Preserves P (detachExisting env noCheck existing new) := by
  have detachOne : ∀ vNew vOld, Preserves P (checkAndDetach env noCheck vNew vOld) := fun _ vOld =>
    Preserves.bind (Preserves.raiseIf _ _) fun _ => Preserves.modify (removes vOld)
  have detachAll : ∀ olds news, Preserves P (detachPairs env noCheck olds news) := by
    intro olds
    induction olds with
    | nil => intro _; exact Preserves.pure _
    | cons vOld olds inductionHypothesis =>
        intro news
        cases news with
        | nil => exact Preserves.pure _
        | cons vNew news => exact Preserves.bind (detachOne vNew vOld) fun _ => inductionHypothesis news
  unfold detachExisting
  split
  · exact Preserves.pure _
  · exact detachAll _ _
  all_goals first
    | exact Preserves.throw _
    | exact detachOne _ _

include removes adds sets in
/-- **Binding writes only edges and bindings**: a property of the state that survives removing
an edge, adding one and storing a binding survives `_validate_and_set_inputs`, whether it
returns or raises. -/
theorem validateAndSetInputs_preserves (kind : OpKind E) (kvs : List (String × Binding E))
    (noCheck : Bool) : Preserves P (validateAndSetInputs env kind kvs noCheck) := by
  have bindAll : ∀ kvs : List (String × Binding E), Preserves P (bindInputs env noCheck kvs) := by
    intro kvs
    induction kvs with
    | nil => exact Preserves.pure _
    | cons kv kvs inductionHypothesis =>
        refine Preserves.bind (Preserves.bind Preserves.get fun s => ?_) fun _ => inductionHypothesis
        exact Preserves.bind (detachExisting_preserves env removes _ _ _) fun _ =>
          Preserves.bind (Preserves.modify (attach_preserves adds kv.2)) fun _ =>
            Preserves.modify (sets kv.1 kv.2)
  unfold validateAndSetInputs
  split
  · exact Preserves.throw _
  · exact Preserves.bind Preserves.get fun _ => Preserves.bind (Preserves.fromExcept _) fun _ =>
      bindAll kvs

end Frame

end MilOperation
