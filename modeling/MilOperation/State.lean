import MilOperation.SymbolicArray
import MilOperation.InputSpec

/-!
Contract: the state a method of `Operation` reads and writes, and the op classes.

A call on `self` mutates the op (`_input_vars`, `_output_vars`) and objects shared with the
rest of the graph: every Var's consumer registry `child_ops`, and the `type_domain` of the
`InputType` objects of class-level input specs. `State` holds both halves.

Owns: `OpKind` (the class: `op_type`, `input_spec`, `type_domains` and the kind-specific
methods as functions of the bound inputs, with the base-class defaults), the class's
`opset_version` in its `_op_variants`, the two Var methods that move consumer edges, and one
update lemma per field.

Does not own: the methods of `Operation`, which start in `Inference`.
-/

namespace MilOperation

variable {E : Type}

/-- A result `r` normalised by `if not isinstance(r, tuple): r = (r,)`. For `value_inference`
`tuple` also stands for a Python list, which `_auto_val` treats the same way. -/
inductive OneOrTuple (α : Type) where
  | one (item : α)
  | tuple (items : List α)
deriving DecidableEq, Repr

def OneOrTuple.toList {α : Type} : OneOrTuple α → List α
  | .one item => [item]
  | .tuple items => items

/-- One entry of what `value_inference` returns: `None`, a value, or a `mil_list` wrapping a
Python list. -/
inductive Candidate (E : Type) where
  | none
  | value (v : PyVal E)
  | milList (items : List (NdArray E))
deriving DecidableEq, Repr

def Candidate.isNone : Candidate E → Bool
  | .none => true
  | _ => false

def Candidate.unwrap : Candidate E → Option (PyVal E)
  | .none => Option.none
  | .value v => some v
  | .milList items => some (.list items)

/-- An op class. Its kind-specific methods read the op's bound inputs; a method the class
does not implement is the base-class default below. -/
structure OpKind (E : Type) where
  opType : String
  inputSpec : InputSpec
  typeDomains : String → Option (List DType)
  typeInference : (String → Option (Binding E)) → Except PyError (OneOrTuple Ty)
  valueInference : (String → Option (Binding E)) → Except PyError (OneOrTuple (Candidate E))
  outputNames : (String → Option (Binding E)) → Except PyError (OneOrTuple String)

def baseTypeInference (_ : String → Option (Binding E)) : Except PyError (OneOrTuple Ty) :=
  .error (.notImplementedError "This function must be implemented by each op")

def baseValueInference (opType : String) (_ : String → Option (Binding E)) :
    Except PyError (OneOrTuple (Candidate E)) :=
  .error (.notImplementedError ("value_inference() is not implemented by op " ++ opType))

def baseOutputNames (opType : String) (_ : String → Option (Binding E)) :
    Except PyError (OneOrTuple String) :=
  .error (.notImplementedError ("output_names() is not implemented by op " ++ opType))

structure World (E : Type) where
  childOps : Var E → List Nat
  typeDomain : Nat → List DType

/-- The op `self`: its identity, `name`, `_input_vars` and `_output_vars`. -/
structure Operation (E : Type) where
  id : Nat
  name : Option String
  inputVars : String → Option (Binding E)
  outputVars : Option (List (OutVar E))

structure State (E : Type) where
  op : Operation E
  world : World E

def World.empty : World E :=
  ⟨fun _ => [], fun _ => []⟩

def State.fresh (id : Nat) (world : World E) : State E :=
  ⟨⟨id, none, fun _ => none, none⟩, world⟩

/-! ## Opset variants -/

/-- `opset_version`: the first opset version, in sorted order, at which the class's
`_op_variants` holds the op's own class, or none. Versions are ordered as the targets are,
classes compared by identity; any sort gives the one order of the versions. -/
def opsetVersion (opVariants : List (Nat × Nat)) (cls : Nat) : Option Nat :=
  ((opVariants.map Prod.fst).insertionSort (· ≤ ·)).find? fun version =>
    opVariants.lookup version == some cls

private theorem find?_least {p : Nat → Bool} : ∀ {versions : List Nat} {version : Nat},
    versions.Sorted (· ≤ ·) → versions.find? p = some version →
      ∀ other ∈ versions, p other = true → version ≤ other
  | [], _, _, found => by simp at found
  | head :: rest, version, sorted, found => by
      intro other member passes
      rw [List.Sorted, List.pairwise_cons] at sorted
      by_cases here : p head = true
      · rw [List.find?_cons_of_pos _ here, Option.some.injEq] at found
        subst found
        rcases List.mem_cons.1 member with rfl | later
        · exact le_rfl
        · exact sorted.1 other later
      · rw [List.find?_cons_of_neg _ here] at found
        rcases List.mem_cons.1 member with rfl | later
        · exact absurd passes here
        · exact find?_least sorted.2 found other later passes

/-- **`opset_version` is the least version registered for the class**, and none exactly when
the class is registered at no version. -/
theorem opset_version_least (opVariants : List (Nat × Nat)) (cls : Nat) :
    (∀ version, opsetVersion opVariants cls = some version ↔
      opVariants.lookup version = some cls ∧
        ∀ other, opVariants.lookup other = some cls → version ≤ other) ∧
    (opsetVersion opVariants cls = none ↔ ∀ version, opVariants.lookup version ≠ some cls) := by
  have sorted := List.sorted_insertionSort (· ≤ ·) (opVariants.map Prod.fst)
  have listed : ∀ version, opVariants.lookup version = some cls →
      version ∈ (opVariants.map Prod.fst).insertionSort (· ≤ ·) := fun version found => by
    obtain ⟨before, after, split, -⟩ := List.lookup_eq_some_iff.1 found
    simp [List.mem_insertionSort, split]
  have least : ∀ version, opsetVersion opVariants cls = some version →
      opVariants.lookup version = some cls ∧
        ∀ other, opVariants.lookup other = some cls → version ≤ other := fun version found =>
    ⟨by simpa using List.find?_some found, fun other registered =>
      find?_least sorted found other (listed other registered) (by simpa using registered)⟩
  refine ⟨fun version => ⟨least version, fun ⟨registered, below⟩ => ?_⟩, ?_⟩
  · cases found : opsetVersion opVariants cls with
    | none =>
        exact absurd (by simpa using registered)
          (List.find?_eq_none.1 found version (listed version registered))
    | some first =>
        have firstLeast := least first found
        rw [Nat.le_antisymm (firstLeast.2 version registered) (below first firstLeast.1)]
  · rw [opsetVersion, List.find?_eq_none]
    exact ⟨fun none version registered => none version (listed version registered) (by simpa using registered),
      fun unregistered version _ registered => unregistered version (by simpa using registered)⟩

example : opsetVersion [(8, 1), (6, 0), (7, 1)] 1 = some 7 := by decide

def showName : Option String → String
  | some name => name
  | none => "None"

/-! ## Consumer edges -/

section Edges

variable [DecidableEq E]

/-- Modelled from the spec: `Var.add_child_op` (var.py) records one more consumer edge. -/
def State.addChildOp (v : Var E) (st : State E) : State E :=
  { st with world := { st.world with
      childOps := Function.update st.world.childOps v (st.world.childOps v ++ [st.op.id]) } }

/-- Modelled from the spec: `Var.remove_child_op` (var.py) removes one edge of this op. -/
def State.removeChildOp (v : Var E) (st : State E) : State E :=
  { st with world := { st.world with
      childOps := Function.update st.world.childOps v ((st.world.childOps v).erase st.op.id) } }

@[simp] theorem State.addChildOp_op (v : Var E) (st : State E) : (st.addChildOp v).op = st.op := rfl

@[simp] theorem State.removeChildOp_op (v : Var E) (st : State E) :
    (st.removeChildOp v).op = st.op := rfl

@[simp] theorem State.addChildOp_typeDomain (v : Var E) (st : State E) :
    (st.addChildOp v).world.typeDomain = st.world.typeDomain := rfl

@[simp] theorem State.removeChildOp_typeDomain (v : Var E) (st : State E) :
    (st.removeChildOp v).world.typeDomain = st.world.typeDomain := rfl

def State.edges (st : State E) (w : Var E) : Nat :=
  (st.world.childOps w).count st.op.id

@[simp] theorem State.edges_addChildOp (v w : Var E) (st : State E) :
    (st.addChildOp v).edges w = st.edges w + if w = v then 1 else 0 := by
  by_cases same : w = v
  · subst same; simp [State.edges, State.addChildOp]
  · simp [State.edges, State.addChildOp, same]

@[simp] theorem State.edges_removeChildOp (v w : Var E) (st : State E) :
    (st.removeChildOp v).edges w = st.edges w - if w = v then 1 else 0 := by
  by_cases same : w = v
  · subst same; simp [State.edges, State.removeChildOp, List.count_erase]
  · simp [State.edges, State.removeChildOp, same]

end Edges

/-! ## Field updates -/

def State.setInputVar (name : String) (binding : Binding E) (st : State E) : State E :=
  { st with op := { st.op with inputVars := Function.update st.op.inputVars name (some binding) } }

def State.setOutputVars (outputs : Option (List (OutVar E))) (st : State E) : State E :=
  { st with op := { st.op with outputVars := outputs } }

def State.appendOutput (v : OutVar E) (st : State E) : State E :=
  st.setOutputVars (some (st.op.outputVars.getD [] ++ [v]))

def State.modifyOutput (i : Nat) (f : OutVar E → OutVar E) (st : State E) : State E :=
  st.setOutputVars (st.op.outputVars.map (List.modify f i))

def State.setTypeDomain (ref : Nat) (domain : List DType) (st : State E) : State E :=
  { st with world := { st.world with typeDomain := Function.update st.world.typeDomain ref domain } }

@[simp] theorem State.setTypeDomain_op (ref : Nat) (domain : List DType) (st : State E) :
    (st.setTypeDomain ref domain).op = st.op := rfl

@[simp] theorem State.setTypeDomain_childOps (ref : Nat) (domain : List DType) (st : State E) :
    (st.setTypeDomain ref domain).world.childOps = st.world.childOps := rfl

@[simp] theorem State.setInputVar_outputVars (name : String) (binding : Binding E) (st : State E) :
    (st.setInputVar name binding).op.outputVars = st.op.outputVars := rfl

@[simp] theorem State.setInputVar_world (name : String) (binding : Binding E) (st : State E) :
    (st.setInputVar name binding).world = st.world := rfl

@[simp] theorem State.setInputVar_id (name : String) (binding : Binding E) (st : State E) :
    (st.setInputVar name binding).op.id = st.op.id := rfl

@[simp] theorem State.setOutputVars_world (outputs : Option (List (OutVar E))) (st : State E) :
    (st.setOutputVars outputs).world = st.world := rfl

@[simp] theorem State.setOutputVars_inputVars (outputs : Option (List (OutVar E))) (st : State E) :
    (st.setOutputVars outputs).op.inputVars = st.op.inputVars := rfl

@[simp] theorem State.setOutputVars_outputVars (outputs : Option (List (OutVar E))) (st : State E) :
    (st.setOutputVars outputs).op.outputVars = outputs := rfl

@[simp] theorem State.setOutputVars_id (outputs : Option (List (OutVar E))) (st : State E) :
    (st.setOutputVars outputs).op.id = st.op.id := rfl

@[simp] theorem State.setOutputVars_name (outputs : Option (List (OutVar E))) (st : State E) :
    (st.setOutputVars outputs).op.name = st.op.name := rfl

end MilOperation
