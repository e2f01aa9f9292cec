import MilOperation.Types

/-!
Contract: the input contract of an op class.

Owns: `InputType` objects with the identity that lets classes share them, the ordered
`input_spec.input_types` with its distinct names, the shape a slot's binding must have, and
the input-spec validation the node calls before it binds anything.

Does not own: the resolution of a tensor input's type domain, which `Operation.__init__`
performs and `TypeDomains` studies, nor the bindings themselves.
-/

namespace MilOperation

inductive InputKind where
  | tensor (typeDomainId : Option String)
  /-- `TupleInputType`: a sequence of Vars, each of an element type in `typeDomain`, a set the
  class gives explicitly (`__init__` resolves domain ids of tensor inputs only). -/
  | tuple (typeDomain : List DType)
  | other
deriving DecidableEq, Repr

/-- An `InputType` object of a class's `input_spec`. `ref` is its identity: a subclass that
inherits `input_spec` shares these objects with its parent, `type_domain` included. -/
structure InputType where
  ref : Nat
  optional : Bool
  kind : InputKind
deriving DecidableEq, Repr

/-- `input_spec.input_types`: an ordered dict, so its names are distinct, of `InputType`
objects each created for its own slot. -/
structure InputSpec where
  inputTypes : List (String × InputType)
  names_nodup : (inputTypes.map Prod.fst).Nodup
  refs_nodup : (inputTypes.map (·.2.ref)).Nodup

namespace InputSpec

def names (spec : InputSpec) : List String :=
  spec.inputTypes.map Prod.fst

def refs (spec : InputSpec) : List Nat :=
  spec.inputTypes.map (·.2.ref)

def contains (spec : InputSpec) (name : String) : Bool :=
  spec.names.contains name

@[simp] theorem contains_iff (spec : InputSpec) (name : String) :
    spec.contains name = true ↔ name ∈ spec.names := by
  simp [contains]

private theorem lookup_of_mem {name : String} {inputType : InputType} :
    ∀ {entries : List (String × InputType)}, (entries.map Prod.fst).Nodup →
      (name, inputType) ∈ entries → entries.lookup name = some inputType
  | [], _, member => absurd member (List.not_mem_nil _)
  | (head, headType) :: rest, nodup, member => by
      rw [List.map_cons, List.nodup_cons] at nodup
      by_cases same : name = head
      · subst same
        rcases List.mem_cons.1 member with here | there
        · cases here; simp
        · exact absurd (List.mem_map_of_mem Prod.fst there) nodup.1
      · rw [List.lookup_cons, beq_false_of_ne same]
        exact lookup_of_mem nodup.2 (by simpa [same] using member)

theorem lookup_eq_some_iff (spec : InputSpec) {name : String} {inputType : InputType} :
    spec.inputTypes.lookup name = some inputType ↔ (name, inputType) ∈ spec.inputTypes := by
  refine ⟨fun found => ?_, lookup_of_mem spec.names_nodup⟩
  obtain ⟨before, after, split, -⟩ := List.lookup_eq_some_iff.1 found
  rw [split]
  exact List.mem_append_right _ (List.mem_cons_self _ _)

theorem inputType_unique (spec : InputSpec) {name : String} {first second : InputType}
    (hasFirst : (name, first) ∈ spec.inputTypes) (hasSecond : (name, second) ∈ spec.inputTypes) :
    first = second :=
  Option.some.inj (((spec.lookup_eq_some_iff).2 hasFirst).symm.trans ((spec.lookup_eq_some_iff).2 hasSecond))

end InputSpec

variable {E : Type}

/-- Whether a slot's binding has the shape its kind reads: a sequence of Vars for a tuple
slot, one Var for any other. -/
def InputKind.holds : InputKind → Option (Binding E) → Bool
  | .tuple _, some (.tuple _) => true
  | .tensor _, some (.var _) => true
  | .other, some (.var _) => true
  | _, _ => false

def dtypeWithin (domain : List DType) (v : Var E) : Bool :=
  match v.symType.dtype with
  | some dtype => decide (dtype ∈ domain)
  | none => false

/-- Modelled from the spec: whether an `InputType` accepts a binding. A tensor slot takes one
Var whose element type lies in the slot's current domain, a tuple slot a sequence of Vars
checked element-wise against its domain, any other slot one Var or another Python object. -/
def InputType.accepts (domainOf : Nat → List DType) (inputType : InputType) :
    Binding E → Bool
  | .var v =>
      match inputType.kind with
      | .tensor _ => dtypeWithin (domainOf inputType.ref) v
      | .tuple _ => false
      | .other => true
  | .tuple vs =>
      match inputType.kind with
      | .tuple domain => vs.all (dtypeWithin domain)
      | _ => false
  | .other => inputType.kind == .other

/-- Modelled from the spec: `InputSpec.validate_inputs` (input_type.py) checks every supplied
binding against its slot and raises `ValueError` on the first one its slot does not accept. -/
def InputSpec.validateInputs (domainOf : Nat → List DType) (spec : InputSpec)
    (opName : String) (opType : String) : List (String × Binding E) → Except PyError Unit
  | [] => .ok ()
  | (name, binding) :: rest =>
      match spec.inputTypes.lookup name with
      | some inputType =>
          if inputType.accepts domainOf binding then
            InputSpec.validateInputs domainOf spec opName opType rest
          else
            .error (.valueError ("Op \"" ++ opName ++ "\" (op_type: " ++ opType ++ ") Input " ++
              name ++ " has a type its input type does not accept"))
      | none => .error (.keyError name)

theorem InputSpec.validateInputs_ok {domainOf : Nat → List DType} {spec : InputSpec}
    {opName opType : String} :
    ∀ {kvs : List (String × Binding E)}, spec.validateInputs domainOf opName opType kvs = .ok () →
      ∀ kv ∈ kvs, ∃ inputType, (kv.1, inputType) ∈ spec.inputTypes ∧
        inputType.accepts domainOf kv.2 = true
  | [], _ => by simp
  | (name, binding) :: rest, valid => by
      simp only [InputSpec.validateInputs] at valid
      cases found : spec.inputTypes.lookup name with
      | none => simp [found] at valid
      | some inputType =>
          cases accepts : inputType.accepts domainOf binding
          · simp [found, accepts] at valid
          · simp only [found, accepts, ↓reduceIte] at valid
            intro kv member
            rcases List.mem_cons.1 member with rfl | later
            · exact ⟨inputType, (spec.lookup_eq_some_iff).1 found, accepts⟩
            · exact InputSpec.validateInputs_ok valid kv later

theorem InputSpec.validateInputs_append_left {domainOf : Nat → List DType} {spec : InputSpec}
    {opName opType : String} :
    ∀ {pre : List (String × Binding E)} (post : List (String × Binding E)),
      spec.validateInputs domainOf opName opType (pre ++ post) = .ok () →
        spec.validateInputs domainOf opName opType pre = .ok ()
  | [], _, _ => rfl
  | (name, binding) :: pre, post, valid => by
      simp only [List.cons_append, InputSpec.validateInputs] at valid ⊢
      cases found : spec.inputTypes.lookup name with
      | none => simp [found] at valid
      | some inputType =>
          cases accepts : inputType.accepts domainOf binding
          · simp [found, accepts] at valid
          · simp only [found, accepts, ↓reduceIte] at valid ⊢
            exact InputSpec.validateInputs_append_left post valid

theorem InputType.holds_of_accepts {domainOf : Nat → List DType} {inputType : InputType}
    {binding : Binding E} (accepted : inputType.accepts domainOf binding = true)
    (notOther : binding ≠ .other) : inputType.kind.holds (some binding) = true := by
  cases binding with
  | var v => cases kind : inputType.kind <;> simp_all [InputType.accepts, InputKind.holds]
  | tuple vs => cases kind : inputType.kind <;> simp_all [InputType.accepts, InputKind.holds]
  | other => exact absurd rfl notOther

end MilOperation
