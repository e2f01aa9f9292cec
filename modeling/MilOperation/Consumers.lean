import MilOperation.Runs

/-!
Contract: the inputs graph passes read from an op, `inputs` and `get_flattened_inputs`,
against the consumer edges the op leaves on its Vars, over every run of calls from
`__init__`, returned or raised.

A Var the op reads lists the op among its `child_ops` at least once per position, so a pass
that walks from a Var to its consumers finds every op that reads it. One raising call breaks
this: a `set_inputs` with type checks that rebinds a tuple slot and refuses a pair past the
first. `check_and_detach` has by then detached the old Vars of the earlier pairs, which the
slot still binds.

Owns: `inputs`, `get_flattened_inputs`, the calls that keep the edges, and the consumer-edge
invariant over the states they reach.

Does not own: the edge arithmetic of one rebinding (`Edges`).
-/

namespace MilOperation

variable {E : Type} [DecidableEq E]

/-! ## What graph passes read -/

/-- The `inputs` property: the bound slots in the order of `_input_vars`, which `__init__`
fills in the order of the input spec, without those holding an `InternalVar`. `isInternal v`
is whether `v` is an `InternalVar`. -/
def inputs (isInternal : Var E → Bool) (spec : InputSpec) (op : Operation E) :
    List (String × Binding E) :=
  spec.names.filterMap fun name =>
    match op.inputVars name with
    | some (.var v) => if isInternal v then none else some (name, .var v)
    | some binding => some (name, binding)
    | none => none

/-- The body of the loop of `get_flattened_inputs`: a sequence is extended by its Vars, any
other value appended. -/
def flattenInput : Binding E → List (Binding E)
  | .tuple vs => vs.map .var
  | binding => [binding]

def getFlattenedInputs (isInternal : Var E → Bool) (spec : InputSpec) (op : Operation E) :
    List (Binding E) :=
  (inputs isInternal spec op).flatMap fun entry => flattenInput entry.2

omit [DecidableEq E] in
theorem var_injective : Function.Injective (Binding.var : Var E → Binding E) :=
  fun _ _ same => Binding.var.inj same

theorem count_flattenInput (binding : Binding E) (w : Var E) :
    (flattenInput binding).count (.var w) = binding.vars.count w := by
  cases binding with
  | var v => exact List.count_map_of_injective [v] _ var_injective w
  | tuple vs => exact List.count_map_of_injective vs _ var_injective w
  | other => simp [flattenInput, Binding.vars]

theorem count_getFlattenedInputs_le (isInternal : Var E → Bool) (spec : InputSpec)
    (st : State E) (w : Var E) :
    (getFlattenedInputs isInternal spec st.op).count (.var w) ≤ st.positions spec w := by
  rw [getFlattenedInputs, List.count_flatMap, State.positions, inputs]
  induction spec.names with
  | nil => simp
  | cons name names inductionHypothesis =>
      rw [List.filterMap_cons, List.map_cons, List.sum_cons]
      cases slot : st.op.inputVars name with
      | none => simpa [occurrences] using inductionHypothesis
      | some binding =>
          have head := count_flattenInput binding w
          cases binding with
          | var v =>
              by_cases internal : isInternal v
              · simp only [internal, ↓reduceIte]
                exact inductionHypothesis.trans (Nat.le_add_left _ _)
              · simp only [internal, Bool.false_eq_true, ↓reduceIte, List.map_cons, List.sum_cons]
                exact Nat.add_le_add head.le inductionHypothesis
          | tuple _ | other =>
              simp only [List.map_cons, List.sum_cons]
              exact Nat.add_le_add head.le inductionHypothesis

/-! ## Calls that keep the edges -/

/-- Whether a call, from the state it starts in, keeps an edge under every bound position:
every call but a `set_inputs` that rebinds a tuple slot and refuses a pair past the first.
The keys of `set_inputs` are keyword arguments, hence distinct. -/
def Call.keepsEdges (env : Collaborators E) : Call E → State E → Bool
  | .setInputs noCheck _ kvs, st =>
      decide (kvs.map Prod.fst).Nodup &&
        kvs.all fun kv => laterPairsPass env noCheck (st.op.inputVars kv.1) kv.2
  | .typeValueInference _, _ => true

/-- **Step**: a call that keeps the edges keeps the balance, whether it returns or raises. -/
theorem Call.run_balanced (env : Collaborators E) (kind : OpKind E) {call : Call E} {st : State E}
    (keeps : call.keepsEdges env st = true) (balanced : Balanced kind.inputSpec st) :
    Balanced kind.inputSpec (call.run env kind st).state := by
  cases call with
  | typeValueInference overwrite =>
      have frame := typeValueInference_frame env kind overwrite st
      exact fun w => by
        rw [Call.run, frame.edges_eq, frame.positions_eq]
        exact balanced w
  | setInputs noCheck typeInference kvs =>
      simp only [Call.keepsEdges, Bool.and_eq_true, decide_eq_true_eq, List.all_eq_true] at keeps
      cases run : MilOperation.setInputs env kind noCheck typeInference kvs st with
      | ok _ st' => simpa [Call.run, run] using (setInputs_balance env run balanced).1
      | error e st' => simpa [Call.run, run] using setInputs_error_balanced env keeps.1 keeps.2 run balanced

/-- **Run**: every state reached by calls that keep the edges is balanced. -/
theorem Reached.balanced {env : Collaborators E} {kind : OpKind E} {st : State E}
    (reached : Reached env kind (Call.keepsEdges env) st) : Balanced kind.inputSpec st := by
  induction reached with
  | init run => exact fun w => by rw [init_edges env kind run w]; omega
  | call call _ keeps balanced => exact Call.run_balanced env kind keeps balanced

/-- **Consumers are registered.** On an op reached from `__init__` by calls that keep the
edges, each returned or raised, every Var `get_flattened_inputs` lists carries the op among
its `child_ops` at least as many times as it is listed. -/
theorem flattened_inputs_registered {env : Collaborators E} {kind : OpKind E} {st : State E}
    (reached : Reached env kind (Call.keepsEdges env) st) (isInternal : Var E → Bool) (w : Var E) :
    (getFlattenedInputs isInternal kind.inputSpec st.op).count (.var w) ≤ st.edges w :=
  (count_getFlattenedInputs_le isInternal kind.inputSpec st w).trans (reached.balanced w)

def concatBuilt : State Scalar :=
  (init scalarEnv concatKind concatKwargs (State.fresh 0 World.empty)).state

theorem concatBuilt_init :
    init scalarEnv concatKind concatKwargs (State.fresh 0 World.empty) = .ok () concatBuilt :=
  rfl

def intVectorVar (name : String) : Var Scalar :=
  ⟨name, .tensor .int32 [.known 2], none⟩

/-- Rebinding `values` with type checks to `(c, d)`: on `concat(values=(a, b))` the int32 `d` is
refused for the fp32 `b`. -/
def concatRefusedRebind : Call Scalar :=
  .setInputs false false [("values", .tuple [vectorVar "c", intVectorVar "d"])]

theorem concat_rebound_registered :
    (getFlattenedInputs (fun _ => false) concatKind.inputSpec
        ((Call.setInputs false false [("values", .tuple [vectorVar "a", vectorVar "c"])]).run
          scalarEnv concatKind concatBuilt).state.op).count (.var (vectorVar "a")) ≤
      ((Call.setInputs false false [("values", .tuple [vectorVar "a", vectorVar "c"])]).run
        scalarEnv concatKind concatBuilt).state.edges (vectorVar "a") :=
  flattened_inputs_registered (.call _ (.init concatBuilt_init) (by decide)) _ _

example :
    concatRefusedRebind.keepsEdges scalarEnv concatBuilt = false ∧
    (getFlattenedInputs (fun _ => false) concatKind.inputSpec
        (concatRefusedRebind.run scalarEnv concatKind concatBuilt).state.op).count
          (.var (vectorVar "a")) = 1 ∧
      (concatRefusedRebind.run scalarEnv concatKind concatBuilt).state.edges (vectorVar "a") = 0 := by
  decide

end MilOperation
