import MilOperation.Python
import Mathlib

/-!
Contract: the data an operation node reads and writes.

Owns: the builtin types as far as `operation.py` inspects them (`types.is_list`,
`types.is_tensor`, `types.is_complex`, a list's element shape), materialized values (numpy
arrays and the Python lists held by list outputs), input `Var`s with their `val`, bound
inputs, output `Var`s, and the collaborators the node consumes but does not define.

Does not own: the type registry, the symbolic algebra or numpy. What the node needs of
them is a field of `Collaborators`, so every theorem holds for each choice of them.
-/

namespace MilOperation

/-! ## Builtin types -/

/-- Element types of the builtin type system (`types.int32`, `types.fp16`, ...). -/
inductive DType where
  | bool | int8 | int16 | int32 | int64 | uint8 | uint16 | uint32 | uint64
  | fp16 | fp32 | fp64 | complex64 | complex128 | str
deriving DecidableEq, Repr, Inhabited

def DType.isComplex : DType → Bool
  | .complex64 | .complex128 => true
  | _ => false

inductive Dim where
  | known (size : Nat)
  | symbol (id : Nat)
deriving DecidableEq, Repr

/-- A builtin type. `other` stands for the types no modelled function inspects (tuples,
dictionaries, states, strings). -/
inductive Ty where
  | scalar (dtype : DType)
  | tensor (dtype : DType) (shape : List Dim)
  | list (elemType : Ty) (initLength : Option Nat) (dynamicLength : Bool)
  | unknown
  | other (name : String)
deriving DecidableEq, Repr, Inhabited

def Ty.isList : Ty → Bool
  | .list .. => true
  | _ => false

def Ty.isComplexTensor : Ty → Bool
  | .tensor dtype _ => dtype.isComplex
  | _ => false

def Ty.dtype : Ty → Option DType
  | .scalar dtype => some dtype
  | .tensor dtype _ => some dtype
  | _ => none

def Ty.elemShape : Ty → Option (List Dim)
  | .unknown => none
  | .tensor _ shape => some shape
  | _ => some []

/-! ## Values -/

/-- A numpy array held as its row-major flattening; a numpy scalar has shape `[]`. The
flattening always has as many elements as the shape says. -/
structure NdArray (E : Type) where
  shape : List Nat
  flat : List E
  size_eq : flat.length = shape.prod
deriving DecidableEq, Repr

inductive PyVal (E : Type) where
  | array (a : NdArray E)
  | list (items : List (NdArray E))
deriving DecidableEq, Repr

instance {E : Type} : Inhabited (PyVal E) := ⟨.list []⟩

/-- What the node consumes from the symbolic algebra, the type system and numpy. -/
structure Collaborators (E : Type) where
  isSymbolic : E → Bool
  ne : E → E → Bool
  isCompatibleType : Ty → Ty → Bool
  /-- `np.any(a != b)` where the model does not compute it itself: arrays of unequal shapes
  (broadcasting), Python lists of equal length (item comparison goes through object identity
  and numpy truth values), and an array against a list. -/
  compareOther : PyVal E → PyVal E → Except PyError Bool
  real : PyVal E → PyVal E
  imag : PyVal E → PyVal E

variable {E : Type}

def Collaborators.anySymbolic (env : Collaborators E) : Option (PyVal E) → Bool
  | none => false
  | some (.array a) => a.flat.any env.isSymbolic
  | some (.list items) => items.any fun a => a.flat.any env.isSymbolic

/-! ## Vars -/

/-- An input `Var`. Names are unique within a graph, so equal records are the same Var. -/
structure Var (E : Type) where
  name : String
  symType : Ty
  symVal : Option (PyVal E)
deriving DecidableEq, Repr

/-- Modelled from the spec: `Var.val` (var.py) is the materialized value, absent when there is
no value or when the value still holds a symbol. -/
def Var.val (env : Collaborators E) (v : Var E) : Option (PyVal E) :=
  if env.anySymbolic v.symVal then none else v.symVal

/-- What `_input_vars` holds for one slot once bound: a Var, a sequence of Vars (a tuple
slot), or another Python object such as a function, which `_validate_and_set_inputs`
binds without an edge. -/
inductive Binding (E : Type) where
  | var (v : Var E)
  | tuple (vs : List (Var E))
  | other
deriving DecidableEq, Repr

instance : Inhabited (Binding E) := ⟨.other⟩

def Binding.vars : Binding E → List (Var E)
  | .var v => [v]
  | .tuple vs => vs
  | .other => []

def occurrences [DecidableEq E] (v : Var E) : Option (Binding E) → Nat
  | some b => b.vars.count v
  | none => 0

/-- The real and imaginary parts a `ComplexVar` output carries: the op's own `real_data` and
`imag_data` inputs for a `complex` op, `np.real`/`np.imag` of the value for a `const` op,
and nothing for every other op. -/
inductive ComplexPart (E : Type) where
  | input (binding : Option (Binding E))
  | value (v : PyVal E)
  | none
deriving DecidableEq, Repr

inductive OutVarKind (E : Type) where
  | plain
  | list
  | complex (real imag : ComplexPart E)
deriving DecidableEq, Repr, Inhabited

/-- An output `Var` of the op: `op` is its producer and `opOutputIdx` its position. -/
structure OutVar (E : Type) where
  name : Option String
  symType : Ty
  symVal : Option (PyVal E)
  op : Nat
  opOutputIdx : Nat
  kind : OutVarKind E
deriving DecidableEq, Repr, Inhabited

end MilOperation
