import MilOperation.Types

/-!
Contract: the two value comparisons of the re-inference drift check.

`np.any(new != old)` decides whether a re-inferred value differs from the one an output
holds, and `_is_compatible_symbolic_array` decides whether such a difference is tolerated
because a symbol stands at every differing position.

Owns: both comparisons as the source computes them, including the attribute errors raised
when `_is_compatible_symbolic_array` reads `.shape` or `.flatten` of a Python list; and the law
of `_is_compatible_symbolic_array` on arrays: the loop's early return agrees with a condition
at every position of the flattening, and the check is symmetric exactly when numpy's `!=` is.

Does not own: numpy broadcasting and Python's item-by-item list comparison, which come in
through `Collaborators.compareOther`.
-/

namespace MilOperation

variable {E : Type}

def PyVal.shape : PyVal E → Except PyError (List Nat)
  | .array a => .ok a.shape
  | .list _ => .error (.attributeError "'list' object has no attribute 'shape'")

def PyVal.flatten : PyVal E → Except PyError (List E)
  | .array a => .ok a.flat
  | .list _ => .error (.attributeError "'list' object has no attribute 'flatten'")

section Comparisons

variable (env : Collaborators E)

/-- The loop of `_is_compatible_symbolic_array` over `zip(a, b)`: it returns `False` at the
first position where neither side is symbolic and the two differ. -/
def compatibleElements : List E → List E → Bool
  | t :: ts, v :: vs =>
      if !env.isSymbolic t && !env.isSymbolic v then
        if env.ne t v then false else compatibleElements ts vs
      else compatibleElements ts vs
  | _, _ => true

def isCompatibleSymbolicArray (a b : PyVal E) : Except PyError Bool := do
  let aShape ← a.shape
  let bShape ← b.shape
  if ¬aShape = bShape then return false
  let aFlat ← a.flatten
  let bFlat ← b.flatten
  return compatibleElements env aFlat bFlat

/-- `np.any(new != old)` in the drift check. Arrays of one shape are compared element by
element; Python lists of unequal length differ without any item being compared. -/
def anyNotEqual : PyVal E → PyVal E → Except PyError Bool
  | .array a, .array b =>
      if a.shape = b.shape then .ok ((a.flat.zip b.flat).any fun pair => env.ne pair.1 pair.2)
      else env.compareOther (.array a) (.array b)
  | .list xs, .list ys =>
      if xs.length = ys.length then env.compareOther (.list xs) (.list ys) else .ok true
  | x, y => env.compareOther x y

/-! ## Evaluation lemmas -/

@[simp] theorem isCompatibleSymbolicArray_list_left (items : List (NdArray E)) (b : PyVal E) :
    isCompatibleSymbolicArray env (.list items) b =
      .error (.attributeError "'list' object has no attribute 'shape'") := rfl

theorem isCompatibleSymbolicArray_array (a b : NdArray E) :
    isCompatibleSymbolicArray env (.array a) (.array b) =
      .ok (decide (a.shape = b.shape) && compatibleElements env a.flat b.flat) := by
  by_cases sameShape : a.shape = b.shape <;>
    simp [isCompatibleSymbolicArray, PyVal.shape, PyVal.flatten, sameShape, bind, Except.bind,
      pure, Except.pure]

@[simp] theorem anyNotEqual_list_length_ne {xs ys : List (NdArray E)}
    (lengths : xs.length ≠ ys.length) : anyNotEqual env (.list xs) (.list ys) = .ok true := by
  simp [anyNotEqual, lengths]

end Comparisons

/-! ## Concrete numpy elements -/

/-- A numpy element of a concrete run: a finite number, NaN, or a sympy symbol. -/
inductive Scalar where
  | finite (value : Int)
  | nan
  | symbol (id : Nat)
deriving DecidableEq, Repr

/-- numpy's `!=` on elements: NaN differs from every element, itself included; symbols compare
as sympy expressions, structurally. -/
def Scalar.ne : Scalar → Scalar → Bool
  | .nan, _ => true
  | _, .nan => true
  | a, b => a != b

def Scalar.isSymbolic : Scalar → Bool
  | .symbol _ => true
  | _ => false

/-- The collaborators of a concrete run: numpy elements with NaN, type compatibility as type
equality (reflexive, as `is_compatible_type` is), and `np.real`/`np.imag` as the identity,
which no concrete run reads. Comparisons the model leaves to numpy report a difference. -/
def scalarEnv : Collaborators Scalar where
  isSymbolic := Scalar.isSymbolic
  ne := Scalar.ne
  isCompatibleType := fun a b => a == b
  compareOther := fun _ _ => .ok true
  real := id
  imag := id

/-! ## The compatibility law on arrays -/

section Law

variable (env : Collaborators E)

theorem compatibleElements_eq_all : ∀ xs ys : List E, compatibleElements env xs ys =
    (xs.zip ys).all fun pair =>
      env.isSymbolic pair.1 || env.isSymbolic pair.2 || !env.ne pair.1 pair.2
  | t :: ts, v :: vs => by
      rw [List.zip_cons_cons, List.all_cons, ← compatibleElements_eq_all ts vs]
      simp only [compatibleElements]
      cases env.isSymbolic t <;> cases env.isSymbolic v <;> cases env.ne t v <;> rfl
  | [], _ => rfl
  | _ :: _, [] => rfl

theorem compatibleElements_iff (xs ys : List E) :
    compatibleElements env xs ys = true ↔
      ∀ (i : Nat) (x y : E), xs[i]? = some x → ys[i]? = some y →
        env.isSymbolic x = true ∨ env.isSymbolic y = true ∨ env.ne x y = false := by
  simp only [compatibleElements_eq_all, List.all_eq_true, Bool.or_eq_true, Bool.not_eq_true',
    or_assoc]
  constructor
  · intro fine i x y found found'
    exact fine (x, y)
      (List.mem_iff_getElem?.mpr ⟨i, List.getElem?_zip_eq_some.mpr ⟨found, found'⟩⟩)
  · rintro fine ⟨x, y⟩ member
    obtain ⟨i, found⟩ := List.mem_iff_getElem?.mp member
    obtain ⟨found, found'⟩ := List.getElem?_zip_eq_some.mp found
    exact fine i x y found found'

theorem compatibleElements_comm
    (symmetric : ∀ x y, env.isSymbolic x = false → env.isSymbolic y = false →
      env.ne x y = env.ne y x) :
    ∀ xs ys : List E, compatibleElements env xs ys = compatibleElements env ys xs
  | t :: ts, v :: vs => by
      simp only [compatibleElements, compatibleElements_comm symmetric ts vs]
      cases symbolicT : env.isSymbolic t <;> cases symbolicV : env.isSymbolic v
      case false.false => rw [symmetric t v symbolicT symbolicV]
      all_goals rfl
  | [], [] | [], _ :: _ | _ :: _, [] => rfl

theorem isCompatibleSymbolicArray_array_iff (a b : NdArray E) :
    isCompatibleSymbolicArray env (.array a) (.array b) = .ok true ↔
      a.shape = b.shape ∧ ∀ (i : Nat) (x y : E), a.flat[i]? = some x → b.flat[i]? = some y →
        env.isSymbolic x = true ∨ env.isSymbolic y = true ∨ env.ne x y = false := by
  rw [isCompatibleSymbolicArray_array, Except.ok.injEq, Bool.and_eq_true, decide_eq_true_eq,
    compatibleElements_iff]

theorem isCompatibleSymbolicArray_comm
    (symmetric : ∀ x y, env.isSymbolic x = false → env.isSymbolic y = false →
      env.ne x y = env.ne y x)
    (a b : NdArray E) :
    isCompatibleSymbolicArray env (.array a) (.array b) =
      isCompatibleSymbolicArray env (.array b) (.array a) := by
  rw [isCompatibleSymbolicArray_array, isCompatibleSymbolicArray_array,
    compatibleElements_comm env symmetric, decide_eq_decide.mpr eq_comm]

theorem ne_comm_of_isCompatibleSymbolicArray_comm
    (symmetric : ∀ a b : NdArray E, isCompatibleSymbolicArray env (.array a) (.array b) =
      isCompatibleSymbolicArray env (.array b) (.array a))
    (x y : E) (concreteX : env.isSymbolic x = false) (concreteY : env.isSymbolic y = false) :
    env.ne x y = env.ne y x := by
  simpa [isCompatibleSymbolicArray_array, compatibleElements_eq_all, concreteX, concreteY] using
    symmetric ⟨[1], [x], rfl⟩ ⟨[1], [y], rfl⟩

/-- **`_is_compatible_symbolic_array` on arrays.** It returns `True` exactly when the shapes are
equal and every position of the row-major flattenings holds a symbol on one side or two
elements that numpy's `!=` does not separate (numpy's `==` on numbers, so NaN is never equal to
itself). It is symmetric in its two arrays exactly when `!=` is symmetric on non-symbolic
elements, as numpy's comparison of numbers is. -/
theorem compatible_symbolic_array_law :
    (∀ a b : NdArray E, isCompatibleSymbolicArray env (.array a) (.array b) = .ok true ↔
      a.shape = b.shape ∧ ∀ (i : Nat) (x y : E), a.flat[i]? = some x → b.flat[i]? = some y →
        env.isSymbolic x = true ∨ env.isSymbolic y = true ∨ env.ne x y = false) ∧
    ((∀ a b : NdArray E, isCompatibleSymbolicArray env (.array a) (.array b) =
        isCompatibleSymbolicArray env (.array b) (.array a)) ↔
      ∀ x y, env.isSymbolic x = false → env.isSymbolic y = false → env.ne x y = env.ne y x) :=
  ⟨isCompatibleSymbolicArray_array_iff env, ne_comm_of_isCompatibleSymbolicArray_comm env,
    isCompatibleSymbolicArray_comm env⟩

example : isCompatibleSymbolicArray scalarEnv (.array ⟨[2], [.symbol 0, .symbol 2], rfl⟩)
    (.array ⟨[2], [.symbol 1, .finite 1], rfl⟩) = .ok true := rfl

example : isCompatibleSymbolicArray scalarEnv (.array ⟨[2], [.symbol 0, .finite 1], rfl⟩)
    (.array ⟨[2], [.symbol 1, .finite (-1)], rfl⟩) = .ok false := rfl

end Law

end MilOperation
