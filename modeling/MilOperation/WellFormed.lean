import MilOperation.Consumers

/-!
Contract: what every op reached from `__init__` satisfies, whatever calls follow, returned or
raised. Only the contract's inputs are bound, each bound slot holds a binding its input type
accepts under the current type domains, and every required input is bound.

Validation runs before the binding loop and nothing else writes `_input_vars`, so no binding
escapes it, not even one stored by a call that raised halfway through the loop. Bindings are
replaced and never removed, so the required inputs `__init__` checked stay bound.

Owns: the invariant, and what it gives the required-input check that ends `set_inputs` and
the reads of the `precondition` wrapper.

Does not own: what the bindings mean for the consumer edges (`Consumers`).
-/

namespace MilOperation

variable {E : Type}

/-! ## The invariant -/

/-- The bindings of an op are those its contract allows: only its inputs are bound, each
holding a binding its input type accepts under the current type domains. -/
structure BindingsAccepted (spec : InputSpec) (st : State E) : Prop where
  known : ∀ name binding, st.op.inputVars name = some binding → name ∈ spec.names
  accepted : ∀ entry ∈ spec.inputTypes, ∀ binding, st.op.inputVars entry.1 = some binding →
    entry.2.accepts st.world.typeDomain binding = true

/-- An op as `__init__` leaves it: its bindings allowed, and every required input bound. -/
structure WellFormed (kind : OpKind E) (st : State E) extends
    BindingsAccepted kind.inputSpec st : Prop where
  required : ∀ entry ∈ kind.inputSpec.inputTypes, entry.2.optional = false →
    (st.op.inputVars entry.1).isSome = true

namespace BindingsAccepted

variable {spec : InputSpec} {st s : State E}

theorem congr (accepted : BindingsAccepted spec st) (inputs : s.op.inputVars = st.op.inputVars)
    (domains : s.world.typeDomain = st.world.typeDomain) : BindingsAccepted spec s where
  known name binding bound := accepted.known name binding (by rw [← inputs]; exact bound)
  accepted entry member binding bound := by
    rw [domains]
    exact accepted.accepted entry member binding (by rw [← inputs]; exact bound)

theorem unbound (empty : ∀ name, st.op.inputVars name = none) : BindingsAccepted spec st where
  known name binding bound := by simp [empty] at bound
  accepted entry _ binding bound := by simp [empty] at bound

theorem setInputVar (accepted : BindingsAccepted spec st) {name : String} {inputType : InputType}
    {binding : Binding E} (slot : (name, inputType) ∈ spec.inputTypes)
    (accepts : inputType.accepts st.world.typeDomain binding = true) :
    BindingsAccepted spec (st.setInputVar name binding) where
  known n b bound := by
    by_cases same : n = name
    · subst same
      exact List.mem_map_of_mem Prod.fst slot
    · exact accepted.known n b (by simpa [State.setInputVar, same] using bound)
  accepted entry member b bound := by
    obtain ⟨n, t⟩ := entry
    by_cases same : n = name
    · subst same
      simp only [State.setInputVar, Function.update_same, Option.some.injEq] at bound
      subst bound
      rw [spec.inputType_unique member slot]
      exact accepts
    · exact accepted.accepted (n, t) member b (by simpa [State.setInputVar, same] using bound)

end BindingsAccepted

theorem WellFormed.congr {kind : OpKind E} {st s : State E} (wellFormed : WellFormed kind st)
    (inputs : s.op.inputVars = st.op.inputVars) (domains : s.world.typeDomain = st.world.typeDomain) :
    WellFormed kind s :=
  { wellFormed.toBindingsAccepted.congr inputs domains with
    required := fun entry member required => by
      rw [inputs]
      exact wellFormed.required entry member required }

theorem requiredInputsPresent_eq_ok (opType : String) (op : Operation E) :
    ∀ entries : List (String × InputType), requiredInputsPresent opType op entries = .ok () ↔
      ∀ entry ∈ entries, entry.2.optional = false → (op.inputVars entry.1).isSome = true
  | [] => by simp [requiredInputsPresent]
  | (name, inputType) :: rest => by
      rw [requiredInputsPresent, List.forall_mem_cons, ← requiredInputsPresent_eq_ok opType op rest]
      cases inputType.optional <;> cases op.inputVars name <;> simp

/-! ## Every call keeps it -/

section Binding

variable [DecidableEq E] (env : Collaborators E) (noCheck : Bool)

theorem detachExisting_frame (existing : Option (Binding E)) (new : Binding E) (st : State E) :
    (detachExisting env noCheck existing new st).state.op = st.op ∧
      (detachExisting env noCheck existing new st).state.world.typeDomain = st.world.typeDomain :=
  (detachExisting_preserves env (fun _ _ same => same) noCheck existing new :
    Preserves (fun s : State E => s.op = st.op ∧ s.world.typeDomain = st.world.typeDomain) _)
    st ⟨rfl, rfl⟩

theorem bindInput_accepted {spec : InputSpec} {name : String} {inputType : InputType}
    {var : Binding E} {st : State E} (slot : (name, inputType) ∈ spec.inputTypes)
    (accepts : inputType.accepts st.world.typeDomain var = true) (accepted : BindingsAccepted spec st) :
    BindingsAccepted spec (bindInput env noCheck name var st).state ∧
      (bindInput env noCheck name var st).state.world.typeDomain = st.world.typeDomain := by
  have frame := detachExisting_frame env noCheck (st.op.inputVars name) var st
  simp only [bindInput, bind_apply, get_apply, modify_apply]
  cases detached : detachExisting env noCheck (st.op.inputVars name) var st with
  | ok _ mid =>
      rw [detached, state_ok] at frame
      simp only [state_ok]
      have attached : BindingsAccepted spec (attach var mid) :=
        accepted.congr (by simp [frame.1]) (by simp [frame.2])
      exact ⟨attached.setInputVar slot (by simpa [frame.2] using accepts), by simp [frame.2]⟩
  | error e mid =>
      rw [detached, state_error] at frame
      simp only [state_error]
      exact ⟨accepted.congr (by rw [frame.1]) frame.2, frame.2⟩

/-- **Loop**: a binding loop over bindings their slots accept keeps the invariant and the type
domains, whether it returns or raises. -/
theorem bindInputs_accepted {spec : InputSpec} :
    ∀ {kvs : List (String × Binding E)} {st : State E},
      (∀ kv ∈ kvs, ∃ inputType, (kv.1, inputType) ∈ spec.inputTypes ∧
        inputType.accepts st.world.typeDomain kv.2 = true) →
      BindingsAccepted spec st →
        BindingsAccepted spec (bindInputs env noCheck kvs st).state ∧
          (bindInputs env noCheck kvs st).state.world.typeDomain = st.world.typeDomain
  | [], _, _, accepted => ⟨accepted, rfl⟩
  | (name, var) :: rest, st, valid, accepted => by
      obtain ⟨inputType, slot, accepts⟩ := valid (name, var) (List.mem_cons_self _ _)
      have step := bindInput_accepted env noCheck slot accepts accepted
      simp only [bindInputs, bind_apply]
      cases bound : bindInput env noCheck name var st with
      | ok _ mid =>
          rw [bound, state_ok] at step
          have later := bindInputs_accepted (fun kv member => by
            rw [step.2]
            exact valid kv (List.mem_cons_of_mem _ member)) step.1
          exact ⟨later.1, later.2.trans step.2⟩
      | error e mid =>
          rw [bound, state_error] at step
          exact step

theorem validateAndSetInputs_accepted (kind : OpKind E) (kvs : List (String × Binding E))
    {st : State E} (accepted : BindingsAccepted kind.inputSpec st) :
    BindingsAccepted kind.inputSpec (validateAndSetInputs env kind kvs noCheck st).state := by
  unfold validateAndSetInputs
  cases found : kvs.find? (fun kv => !kind.inputSpec.contains kv.1) with
  | some kv => simpa [found] using accepted
  | none =>
      simp only [found, bind_apply, get_apply]
      cases valid : kind.inputSpec.validateInputs st.world.typeDomain (showName st.op.name)
        kind.opType kvs with
      | error err => simpa [valid] using accepted
      | ok u =>
          simpa [valid] using
            (bindInputs_accepted env noCheck (InputSpec.validateInputs_ok valid) accepted).1

theorem validateAndSetInputs_wellFormed (kind : OpKind E) (kvs : List (String × Binding E))
    {st : State E} (wellFormed : WellFormed kind st) :
    WellFormed kind (validateAndSetInputs env kind kvs noCheck st).state :=
  { validateAndSetInputs_accepted env noCheck kind kvs wellFormed.toBindingsAccepted with
    required := (validateAndSetInputs_preserves env (fun _ _ bound => bound) (fun _ _ bound => bound)
      (fun name binding s bound entry member required => by
        by_cases same : entry.1 = name
        · simp [State.setInputVar, same]
        · simpa [State.setInputVar, same] using bound entry member required) kind kvs noCheck :
      Preserves (fun s : State E => ∀ entry ∈ kind.inputSpec.inputTypes, entry.2.optional = false →
        (s.op.inputVars entry.1).isSome = true) _) st wellFormed.required }

end Binding

variable [DecidableEq E] (env : Collaborators E) (kind : OpKind E)

/-- **Step**: every call keeps the invariant, whether it returns or raises. -/
theorem Call.run_wellFormed (call : Call E) {st : State E} (wellFormed : WellFormed kind st) :
    WellFormed kind (call.run env kind st).state := by
  cases call with
  | typeValueInference overwrite =>
      have frame := typeValueInference_frame env kind overwrite st
      exact wellFormed.congr frame.2.2.2 (congrArg World.typeDomain frame.1)
  | setInputs noCheck typeInference kvs =>
      show WellFormed kind (MilOperation.setInputs env kind noCheck typeInference kvs st).state
      have bound := validateAndSetInputs_wellFormed env noCheck kind kvs wellFormed
      cases looped : validateAndSetInputs env kind kvs noCheck st with
      | ok _ mid =>
          have keeps := setInputs_keepsInputs_after env typeInference looped
          rw [looped, state_ok] at bound
          exact bound.congr keeps.2.2.2 (by rw [keeps.1])
      | error e mid =>
          rw [looped, state_error] at bound
          simpa [MilOperation.setInputs, looped] using bound

theorem init_wellFormed {kwargs : Kwargs E} {st₀ st : State E}
    (run : init env kind kwargs st₀ = .ok () st) : WellFormed kind st := by
  obtain ⟨_, mid, prelude, rest⟩ := bind_eq_ok run
  obtain ⟨_, bound, binding, checked⟩ := bind_eq_ok rest
  have reset := (initPrelude_frame kind kwargs st₀).1
  rw [prelude, state_ok] at reset
  have accepted := validateAndSetInputs_accepted env false kind (inputKv kind kwargs)
    (BindingsAccepted.unbound fun name => by simp [reset] : BindingsAccepted kind.inputSpec mid)
  rw [binding, state_ok] at accepted
  simp only [bind_apply, get_apply] at checked
  cases ensured : ensureRequiredInputs kind bound.op with
  | error e => simp [ensured] at checked
  | ok u =>
      simp only [ensured, fromExcept_ok, EStateM.Result.ok.injEq, true_and] at checked
      subst checked
      exact ⟨accepted, (requiredInputsPresent_eq_ok _ _ _).1 ensured⟩

/-- **Run**: every state reached from `__init__`, whatever calls follow, is well formed. -/
theorem Reached.wellFormed {admits : Call E → State E → Bool} {st : State E}
    (reached : Reached env kind admits st) : WellFormed kind st := by
  induction reached with
  | init run => exact init_wellFormed env kind run
  | call call _ _ wellFormed => exact Call.run_wellFormed env kind call wellFormed

/-- **Reached ops are well formed.** After `__init__` and any calls, each returned or raised,
only the contract's inputs are bound, each bound slot holds a binding its input type accepts
under the current type domains, and every required input is bound, so the required-input
check that ends `set_inputs` passes. -/
theorem reached_ops_well_formed {admits : Call E → State E → Bool} {st : State E}
    (reached : Reached env kind admits st) :
    WellFormed kind st ∧ ensureRequiredInputs kind st.op = .ok () :=
  ⟨reached.wellFormed, (requiredInputsPresent_eq_ok _ _ _).2 (reached.wellFormed env kind).required⟩

theorem concat_refused_rebind_well_formed :
    WellFormed concatKind (concatRefusedRebind.run scalarEnv concatKind concatBuilt).state ∧
      ensureRequiredInputs concatKind
        (concatRefusedRebind.run scalarEnv concatKind concatBuilt).state.op = .ok () :=
  reached_ops_well_formed scalarEnv concatKind
    (.call _ (.init concatBuilt_init) rfl : Reached scalarEnv concatKind (fun _ _ => true) _)

omit [DecidableEq E] in
/-- On a well-formed op every required slot holds what its kind reads, unless it holds an
object that is not a Var. -/
theorem WellFormed.requiredBound {st : State E} (wellFormed : WellFormed kind st)
    (vars : ∀ entry ∈ kind.inputSpec.inputTypes, entry.2.optional = false →
      st.op.inputVars entry.1 ≠ some .other) :
    RequiredBound kind.inputSpec st.op.inputVars := fun entry member required => by
  obtain ⟨binding, bound⟩ := Option.isSome_iff_exists.1 (wellFormed.required entry member required)
  rw [bound]
  exact InputType.holds_of_accepts (wellFormed.accepted entry member binding bound)
    fun other => vars entry member required (other ▸ bound)

/-- **The `precondition` scan returns on reached ops.** On an op reached from `__init__` by any
calls, each returned or raised, the scan of the wrapper reads every required slot without
raising and collects the classes of the required Vars, unless a required slot holds an object
that is not a Var. -/
theorem precondition_scan_returns {admits : Call E → State E → Bool} {st : State E}
    (reached : Reached env kind admits st)
    (vars : ∀ entry ∈ kind.inputSpec.inputTypes, entry.2.optional = false →
      st.op.inputVars entry.1 ≠ some .other) :
    scanInputs env st.op.inputVars kind.inputSpec.inputTypes ⟨false, false, false⟩ =
      .ok (Flags.present env (requiredVars kind.inputSpec st.op.inputVars)) :=
  scanInputs_eq env kind.inputSpec st.op.inputVars ((reached.wellFormed env kind).requiredBound kind vars)

theorem concat_refused_rebind_scan_returns :
    scanInputs scalarEnv (concatRefusedRebind.run scalarEnv concatKind concatBuilt).state.op.inputVars
        concatKind.inputSpec.inputTypes ⟨false, false, false⟩ =
      .ok (Flags.present scalarEnv (requiredVars concatKind.inputSpec
        (concatRefusedRebind.run scalarEnv concatKind concatBuilt).state.op.inputVars)) :=
  precondition_scan_returns scalarEnv concatKind
    (.call _ (.init concatBuilt_init) rfl : Reached scalarEnv concatKind (fun _ _ => true) _)
    (by decide)

end MilOperation
