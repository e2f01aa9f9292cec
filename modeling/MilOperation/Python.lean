import Mathlib.Logic.Basic

/-!
Contract: the execution model under every method of `operation.py`.

A Python method either returns or raises, and in both cases the objects it touched
keep every mutation made before that point: there is no rollback. `EStateM` has exactly
this shape, since `Result.error e s` carries the state reached at the raise, so each
modelled method is an `EStateM PyError σ α` computation written in `do` notation in the
order of the source lines.

Owns: the exception classes the source raises or catches, the bind/pure/throw/modify
equations that let proofs run a method symbolically without unfolding `EStateM.bind`,
and `Preserves`, the frame predicate every invariant lemma is phrased with.

Does not own: any state of the operation itself.
-/

def EStateM.Result.state {ε σ α : Type} : EStateM.Result ε σ α → σ
  | .ok _ s => s
  | .error _ s => s

def EStateM.Result.raised {ε σ α : Type} : EStateM.Result ε σ α → Option ε
  | .ok _ _ => none
  | .error e _ => some e

namespace MilOperation

/-- The exception classes the modelled code raises, catches or passes through. A kind's own
`type_inference` or `value_inference` may raise any of them. -/
inductive PyError where
  | valueError (message : String)
  | runtimeError (message : String)
  | typeError (message : String)
  | attributeError (message : String)
  | indexError (message : String)
  | keyError (message : String)
  | notImplementedError (message : String)
deriving DecidableEq, Repr, Inhabited

def PyError.isNotImplemented : PyError → Bool
  | .notImplementedError _ => true
  | _ => false

section Equations

variable {ε σ α β : Type}

@[simp] theorem bind_apply (x : EStateM ε σ α) (f : α → EStateM ε σ β) (s : σ) :
    (x >>= f) s = match x s with
      | .ok a s => f a s
      | .error e s => .error e s := rfl

@[simp] theorem pure_apply (a : α) (s : σ) : (pure a : EStateM ε σ α) s = .ok a s := rfl

@[simp] theorem throw_apply (e : ε) (s : σ) : (throw e : EStateM ε σ α) s = .error e s := rfl

@[simp] theorem modify_apply (f : σ → σ) (s : σ) :
    (modify f : EStateM ε σ PUnit) s = .ok ⟨⟩ (f s) := rfl

theorem modify_bind_apply (f : σ → σ) (g : PUnit → EStateM ε σ β) (s : σ) :
    (modify f >>= g) s = g ⟨⟩ (f s) := rfl

@[simp] theorem get_apply (s : σ) : (get : EStateM ε σ σ) s = .ok s s := rfl

@[simp] theorem state_ok (a : α) (s : σ) : (EStateM.Result.ok a s : EStateM.Result ε σ α).state = s :=
  rfl

@[simp] theorem state_error (e : ε) (s : σ) :
    (EStateM.Result.error e s : EStateM.Result ε σ α).state = s := rfl

@[simp] theorem except_ok_bind (a : α) (f : α → Except ε β) : ((.ok a : Except ε α) >>= f) = f a :=
  rfl

@[simp] theorem except_error_bind (e : ε) (f : α → Except ε β) :
    ((.error e : Except ε α) >>= f) = .error e := rfl

@[simp] theorem except_pure (a : α) : (pure a : Except ε α) = .ok a := rfl

@[simp] theorem except_throw (e : ε) : (throw e : Except ε α) = .error e := rfl

/-- Raising what a pure helper raised, or returning its value, with the state untouched. -/
def fromExcept : Except ε α → EStateM ε σ α
  | .ok a => pure a
  | .error e => throw e

@[simp] theorem fromExcept_ok (a : α) (s : σ) :
    (fromExcept (.ok a) : EStateM ε σ α) s = .ok a s := rfl

@[simp] theorem fromExcept_error (e : ε) (s : σ) :
    (fromExcept (.error e) : EStateM ε σ α) s = .error e s := rfl

theorem fromExcept_state (x : Except ε α) (s : σ) : ((fromExcept x : EStateM ε σ α) s).state = s := by
  cases x <;> rfl

def raiseIf (cond : Bool) (e : ε) : EStateM ε σ Unit :=
  if cond then throw e else pure ()

@[simp] theorem raiseIf_false (e : ε) (s : σ) : (raiseIf false e : EStateM ε σ Unit) s = .ok () s :=
  rfl

@[simp] theorem raiseIf_true (e : ε) (s : σ) : (raiseIf true e : EStateM ε σ Unit) s = .error e s :=
  rfl

theorem fromExcept_eq_ok {x : Except ε α} {s s' : σ} {a : α}
    (run : (fromExcept x : EStateM ε σ α) s = .ok a s') : x = .ok a ∧ s' = s := by
  cases x <;> cases run
  exact ⟨rfl, rfl⟩

theorem raiseIf_eq_ok {cond : Bool} {e : ε} {s s' : σ} {u : Unit}
    (run : (raiseIf cond e : EStateM ε σ Unit) s = .ok u s') : cond = false ∧ s' = s := by
  cases cond <;> cases run
  exact ⟨rfl, rfl⟩

theorem bind_eq_ok {x : EStateM ε σ α} {f : α → EStateM ε σ β} {s s' : σ} {b : β}
    (run : (x >>= f) s = .ok b s') : ∃ a mid, x s = .ok a mid ∧ f a mid = .ok b s' := by
  rw [bind_apply] at run
  split at run
  · exact ⟨_, _, ‹_›, run⟩
  · cases run

theorem bind_eq_error {x : EStateM ε σ α} {f : α → EStateM ε σ β} {s s' : σ} {e : ε}
    (run : (x >>= f) s = .error e s') :
    x s = .error e s' ∨ ∃ a mid, x s = .ok a mid ∧ f a mid = .error e s' := by
  rw [bind_apply] at run
  split at run
  · exact .inr ⟨_, _, ‹_›, run⟩
  · cases run; exact .inl ‹_›

end Equations

/-! ## Frame predicates -/

section Preserves

variable {ε σ α β : Type}

/-- `m` keeps `P` on every state it can leave behind, including the state at a raise. -/
def Preserves (P : σ → Prop) (m : EStateM ε σ α) : Prop :=
  ∀ s, P s → P (m s).state

theorem Preserves.bind {P : σ → Prop} {x : EStateM ε σ α} {f : α → EStateM ε σ β}
    (first : Preserves P x) (rest : ∀ a, Preserves P (f a)) : Preserves P (x >>= f) := by
  intro s holds
  have afterFirst := first s holds
  rw [bind_apply]
  split <;> simp_all
  exact rest _ _ afterFirst

theorem Preserves.pure {P : σ → Prop} (a : α) : Preserves P (Pure.pure a : EStateM ε σ α) :=
  fun _ holds => holds

theorem Preserves.throw {P : σ → Prop} (e : ε) : Preserves P (throw e : EStateM ε σ α) :=
  fun _ holds => holds

theorem Preserves.get {P : σ → Prop} : Preserves P (get : EStateM ε σ σ) :=
  fun _ holds => holds

theorem Preserves.modify {P : σ → Prop} {f : σ → σ} (keeps : ∀ s, P s → P (f s)) :
    Preserves P (modify f : EStateM ε σ PUnit) :=
  fun s holds => keeps s holds

theorem Preserves.fromExcept {P : σ → Prop} (x : Except ε α) :
    Preserves P (MilOperation.fromExcept x : EStateM ε σ α) := by
  intro s holds
  rw [fromExcept_state]
  exact holds

theorem Preserves.raiseIf {P : σ → Prop} (cond : Bool) (e : ε) :
    Preserves P (MilOperation.raiseIf cond e : EStateM ε σ Unit) := by
  intro s holds
  cases cond <;> exact holds

theorem Preserves.ite {P : σ → Prop} {c : Prop} [Decidable c] {x y : EStateM ε σ α}
    (ifTrue : Preserves P x) (ifFalse : Preserves P y) : Preserves P (if c then x else y) := by
  split
  · exact ifTrue
  · exact ifFalse

end Preserves

end MilOperation
