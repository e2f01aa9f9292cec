import MilOperation.Inputs

/-!
Contract: the consumer edges `_validate_and_set_inputs` maintains between the op and the
Vars it reads.

Rebinding a slot removes one edge from each old Var that `zip` pairs with a new one, then
adds one edge to each new Var. When a tuple slot is rebound to a shorter sequence the
unpaired old Vars keep their edge although the op no longer reads them.

Owns: the exact effect of one slot rebinding on every Var's edge count and on the count of
positions at which the op binds it (`bindInput_balance`, `positions_setInputVar`), and from them
the edge balance over whole runs of successful calls; and what a raising `set_inputs` or
`__init__` leaves of bindings and edges, where it stopped. Nothing is rolled back: a call that
raises in its binding loop keeps the inputs bound before the failing one, and a refused tuple
pair leaves the earlier pairs' old Vars detached.

Does not own: the inference a `set_inputs` call may request, which touches neither edges nor
bindings (`typeValueInference_frame`).
-/

namespace MilOperation

variable {E : Type} [DecidableEq E]

/-! ## What a rebinding pairs -/

/-- The old Vars a rebinding from `existing` to `new` detaches: the first `len(new)` elements of
an old sequence (the pairs of `zip`), or the one old Var. -/
def pairedOlds : Option (Binding E) → Binding E → List (Var E)
  | some (.tuple olds), .tuple news => olds.take news.length
  | some (.var vOld), .var _ => [vOld]
  | _, _ => []

/-- The old Vars `zip` leaves unpaired: those past the length of the new sequence. -/
def staleOlds : Option (Binding E) → Binding E → List (Var E)
  | some (.tuple olds), .tuple news => olds.drop news.length
  | _, _ => []

/-- The positions at which the op binds `v`, a tuple slot counting each element. -/
def State.positions (spec : InputSpec) (st : State E) (v : Var E) : Nat :=
  (spec.names.map fun name => occurrences v (st.op.inputVars name)).sum

section Detach

variable (env : Collaborators E) {noCheck : Bool}

theorem checkAndDetach_ok {vNew vOld : Var E} {st st' : State E}
    (run : checkAndDetach env noCheck vNew vOld st = .ok () st') :
    (!env.isCompatibleType vNew.symType vOld.symType && !noCheck) = false ∧
      st' = st.removeChildOp vOld := by
  cases refused : (!env.isCompatibleType vNew.symType vOld.symType && !noCheck) <;>
    simp [checkAndDetach, refused] at run
  exact ⟨rfl, run.symm⟩

theorem detachPairs_ok :
    ∀ {olds news : List (Var E)} {st st' : State E},
      detachPairs env noCheck olds news st = .ok () st' →
        st'.op = st.op ∧ st'.world.typeDomain = st.world.typeDomain ∧
          ∀ w, st'.edges w = st.edges w - (olds.take news.length).count w
  | [], _, st, st', run | _ :: _, [], st, st', run => by
      cases run
      exact ⟨rfl, rfl, fun w => by simp⟩
  | vOld :: olds, vNew :: news, st, st', run => by
      obtain ⟨_, mid, first, rest⟩ := bind_eq_ok run
      obtain ⟨-, rfl⟩ := checkAndDetach_ok env first
      obtain ⟨sameOp, sameDomain, edges⟩ := detachPairs_ok rest
      refine ⟨by simp [sameOp], by simp [sameDomain], fun w => ?_⟩
      rw [edges, State.edges_removeChildOp, List.length_cons, List.take_succ_cons, List.count_cons]
      by_cases same : w = vOld
      · subst same; simp [Nat.sub_sub, Nat.add_comm]
      · simp [same, Ne.symm same]

theorem detachExisting_ok {existing : Option (Binding E)} {new : Binding E} {st st' : State E}
    (run : detachExisting env noCheck existing new st = .ok () st') :
    st'.op = st.op ∧ st'.world.typeDomain = st.world.typeDomain ∧
      (∀ w, st'.edges w = st.edges w - (pairedOlds existing new).count w) ∧
      ∀ w, occurrences w existing = (pairedOlds existing new).count w + (staleOlds existing new).count w := by
  match existing, new with
  | none, _ => simp_all [detachExisting, pairedOlds, staleOlds, occurrences]
  | some (.tuple olds), .tuple news =>
      obtain ⟨sameOp, sameDomain, edges⟩ := detachPairs_ok env run
      refine ⟨sameOp, sameDomain, edges, fun w => ?_⟩
      simp [occurrences, pairedOlds, staleOlds, Binding.vars, ← List.count_append]
  | some (.var vOld), .var vNew =>
      obtain ⟨-, rfl⟩ := checkAndDetach_ok env run
      refine ⟨rfl, rfl, fun w => ?_, fun w => ?_⟩ <;>
        by_cases same : w = vOld <;> simp [same, pairedOlds, staleOlds, occurrences, Binding.vars]
  | some (.tuple _), .var _ | some (.tuple _), .other | some (.var _), .tuple _
  | some (.var _), .other | some .other, _ => simp [detachExisting] at run

end Detach

/-! ## Attaching and storing -/

@[simp] theorem attach_op (binding : Binding E) (st : State E) : (attach binding st).op = st.op := by
  cases binding with
  | var v => rfl
  | tuple vs =>
      simp only [attach]
      induction vs generalizing st with
      | nil => rfl
      | cons v vs inductionHypothesis => simp [inductionHypothesis]
  | other => rfl

@[simp] theorem attach_typeDomain (binding : Binding E) (st : State E) :
    (attach binding st).world.typeDomain = st.world.typeDomain := by
  cases binding with
  | var v => rfl
  | tuple vs =>
      simp only [attach]
      induction vs generalizing st with
      | nil => rfl
      | cons v vs inductionHypothesis => simp [inductionHypothesis]
  | other => rfl

theorem attach_edges (binding : Binding E) (st : State E) (w : Var E) :
    (attach binding st).edges w = st.edges w + binding.vars.count w := by
  cases binding with
  | var v => by_cases same : w = v <;> simp [attach, Binding.vars, same]
  | tuple vs =>
      simp only [attach, Binding.vars]
      induction vs generalizing st with
      | nil => rfl
      | cons v vs inductionHypothesis =>
          rw [List.foldl_cons, inductionHypothesis, State.edges_addChildOp, List.count_cons]
          by_cases same : w = v
          · subst same; simp [Nat.add_assoc, Nat.add_comm]
          · simp [same, Ne.symm same]
  | other => simp [attach, Binding.vars]

private theorem sum_occurrences_update {names : List String} (nodup : names.Nodup) {name : String}
    (member : name ∈ names) (inputVars : String → Option (Binding E)) (var : Binding E)
    (w : Var E) :
    (names.map fun n => occurrences w (Function.update inputVars name (some var) n)).sum +
        occurrences w (inputVars name) =
      (names.map fun n => occurrences w (inputVars n)).sum + var.vars.count w := by
  induction names with
  | nil => simp at member
  | cons head names inductionHypothesis =>
      rw [List.nodup_cons] at nodup
      by_cases here : head = name
      · subst here
        have unchanged : names.map (fun n => occurrences w
            (Function.update inputVars head (some var) n)) =
            names.map fun n => occurrences w (inputVars n) :=
          List.map_congr_left fun n member' => by
            rw [Function.update_noteq (by rintro rfl; exact nodup.1 member')]
        rw [List.map_cons, List.map_cons, List.sum_cons, List.sum_cons, unchanged,
          Function.update_same]
        simp only [occurrences]
        omega
      · have inRest : name ∈ names := by simpa [Ne.symm here] using member
        simp only [List.map_cons, List.sum_cons, Function.update_noteq here]
        have := inductionHypothesis nodup.2 inRest
        omega

theorem positions_setInputVar (spec : InputSpec) {name : String} (member : name ∈ spec.names)
    (var : Binding E) (st : State E) (w : Var E) :
    (st.setInputVar name var).positions spec w + occurrences w (st.op.inputVars name) =
      st.positions spec w + var.vars.count w :=
  sum_occurrences_update spec.names_nodup member st.op.inputVars var w

/-! ## One slot, then the loop -/

omit [DecidableEq E] in
@[simp] theorem State.edges_setInputVar (name : String) (var : Binding E) (st : State E)
    (w : Var E) : (st.setInputVar name var).edges w = st.edges w := rfl

/-- Every Var carries at least one edge of the op per position at which the op binds it. -/
def Balanced (spec : InputSpec) (st : State E) : Prop :=
  ∀ w, st.positions spec w ≤ st.edges w

/-- The stale edges a binding loop leaves on `w`: per slot, the old elements `zip` leaves
unpaired, with the bindings tracked as the loop updates them. -/
def staleEdges (w : Var E) : (String → Option (Binding E)) → List (String × Binding E) → Nat
  | _, [] => 0
  | inputVars, (name, var) :: rest =>
      (staleOlds (inputVars name) var).count w +
        staleEdges w (Function.update inputVars name (some var)) rest

theorem occurrences_le_positions (spec : InputSpec) {name : String} (member : name ∈ spec.names)
    (st : State E) (w : Var E) : occurrences w (st.op.inputVars name) ≤ st.positions spec w := by
  have moved := positions_setInputVar spec member .other st w
  simp only [Binding.vars, List.count_nil, Nat.add_zero] at moved
  omega

omit [DecidableEq E] in
theorem KeepsInputs.edges_eq {st s : State E} (keeps : KeepsInputs st s) (w : Var E) :
    s.edges w = st.edges w := by
  simp [State.edges, keeps.1, keeps.2.1]

theorem KeepsInputs.positions_eq {st s : State E} (keeps : KeepsInputs st s) (spec : InputSpec)
    (w : Var E) : s.positions spec w = st.positions spec w := by
  simp [State.positions, keeps.2.2.2]

section Loop

variable (env : Collaborators E) {noCheck : Bool}

/-- **One slot rebinding**: the paired old Vars lose an edge, the new ones gain one, and the
slot holds the new binding. -/
theorem bindInput_ok {name : String} {var : Binding E} {st st' : State E}
    (run : bindInput env noCheck name var st = .ok () st') :
    st'.op = (st.setInputVar name var).op ∧ st'.world.typeDomain = st.world.typeDomain ∧
      (∀ w, st'.edges w =
        st.edges w - (pairedOlds (st.op.inputVars name) var).count w + var.vars.count w) ∧
      ∀ w, occurrences w (st.op.inputVars name) =
        (pairedOlds (st.op.inputVars name) var).count w + (staleOlds (st.op.inputVars name) var).count w := by
  simp only [bindInput, bind_apply, get_apply, modify_apply] at run
  split at run
  · rename_i mid detached
    obtain ⟨sameOp, sameDomain, edges, split⟩ := detachExisting_ok env detached
    simp only [EStateM.Result.ok.injEq, true_and] at run
    subst run
    refine ⟨by simp [State.setInputVar, sameOp], by simp [sameDomain], fun w => ?_, split⟩
    rw [State.edges_setInputVar, attach_edges, edges]
  · cases run

theorem bindInput_balance (spec : InputSpec) {name : String} {var : Binding E} {st st' : State E}
    (member : name ∈ spec.names) (run : bindInput env noCheck name var st = .ok () st')
    (balanced : Balanced spec st) (w : Var E) :
    st'.positions spec w ≤ st'.edges w ∧
      st'.edges w - st'.positions spec w =
        st.edges w - st.positions spec w + (staleOlds (st.op.inputVars name) var).count w := by
  obtain ⟨sameOp, -, edges, split⟩ := bindInput_ok env run
  have moved := positions_setInputVar spec member var st w
  have bound := occurrences_le_positions spec member st w
  have positions' : st'.positions spec w = (st.setInputVar name var).positions spec w := by
    simp [State.positions, sameOp]
  have before := balanced w
  have parts := split w
  rw [positions', edges w]
  omega

/-- **The binding loop** keeps the balance and adds the stale edges of every slot. -/
theorem bindInputs_balance (spec : InputSpec) :
    ∀ {kvs : List (String × Binding E)} {st st' : State E},
      (∀ kv ∈ kvs, kv.1 ∈ spec.names) → bindInputs env noCheck kvs st = .ok () st' →
        Balanced spec st →
          Balanced spec st' ∧ ∀ w, st'.edges w - st'.positions spec w =
            st.edges w - st.positions spec w + staleEdges w st.op.inputVars kvs
  | [], st, st', _, run, balanced => by
      simp only [bindInputs, pure_apply, EStateM.Result.ok.injEq, true_and] at run
      subst run
      exact ⟨balanced, fun w => by simp [staleEdges]⟩
  | (name, var) :: rest, st, st', known, run, balanced => by
      obtain ⟨_, mid, first, later⟩ := bind_eq_ok run
      have member : name ∈ spec.names := known (name, var) (List.mem_cons_self _ _)
      have step := bindInput_balance env spec member first balanced
      have midInputs : mid.op.inputVars = Function.update st.op.inputVars name (some var) := by
        rw [(bindInput_ok env first).1]; rfl
      obtain ⟨balanced', surplus⟩ := bindInputs_balance spec
        (fun kv member => known kv (List.mem_cons_of_mem _ member)) later fun w => (step w).1
      refine ⟨balanced', fun w => ?_⟩
      rw [surplus, (step w).2, staleEdges, midInputs]
      omega

theorem validateAndSetInputs_ok {kind : OpKind E} {kvs : List (String × Binding E)}
    {st st' : State E} (run : validateAndSetInputs env kind kvs noCheck st = .ok () st') :
    (∀ kv ∈ kvs, kv.1 ∈ kind.inputSpec.names) ∧ bindInputs env noCheck kvs st = .ok () st' := by
  unfold validateAndSetInputs at run
  cases found : kvs.find? (fun kv => !kind.inputSpec.contains kv.1) with
  | some kv => obtain ⟨key, value⟩ := kv; simp only [found, throw_apply, reduceCtorEq] at run
  | none =>
      refine ⟨fun kv member => by simpa using List.find?_eq_none.mp found kv member, ?_⟩
      simp only [found, bind_apply, get_apply] at run
      cases validated : kind.inputSpec.validateInputs st.world.typeDomain (showName st.op.name)
        kind.opType kvs with
      | error err => simp only [validated, fromExcept_error, reduceCtorEq] at run
      | ok u => simpa only [validated, fromExcept_ok] using run

theorem validateAndSetInputs_error {kind : OpKind E} {kvs : List (String × Binding E)}
    {st st' : State E} {e : PyError} (run : validateAndSetInputs env kind kvs noCheck st = .error e st') :
    st' = st ∨ (∀ kv ∈ kvs, kv.1 ∈ kind.inputSpec.names) ∧ bindInputs env noCheck kvs st = .error e st' := by
  unfold validateAndSetInputs at run
  cases found : kvs.find? (fun kv => !kind.inputSpec.contains kv.1) with
  | some kv =>
      obtain ⟨key, value⟩ := kv
      simp only [found, throw_apply, EStateM.Result.error.injEq] at run
      exact .inl run.2.symm
  | none =>
      simp only [found, bind_apply, get_apply] at run
      cases validated : kind.inputSpec.validateInputs st.world.typeDomain (showName st.op.name)
        kind.opType kvs with
      | error err =>
          simp only [validated, fromExcept_error, EStateM.Result.error.injEq] at run
          exact .inl run.2.symm
      | ok u => exact .inr ⟨fun kv member => by simpa using List.find?_eq_none.mp found kv member,
          by simpa only [validated, fromExcept_ok] using run⟩

theorem validateAndSetInputs_of_valid {kind : OpKind E} {kvs : List (String × Binding E)}
    {st : State E} (known : ∀ kv ∈ kvs, kv.1 ∈ kind.inputSpec.names)
    (valid : kind.inputSpec.validateInputs st.world.typeDomain (showName st.op.name) kind.opType kvs =
      .ok ()) :
    validateAndSetInputs env kind kvs noCheck st = bindInputs env noCheck kvs st := by
  have unknown : kvs.find? (fun kv => !kind.inputSpec.contains kv.1) = none :=
    List.find?_eq_none.2 fun kv member => by simpa using known kv member
  simp only [validateAndSetInputs, unknown, bind_apply, get_apply, valid, fromExcept_ok]

theorem setInputs_keepsInputs_after {kind : OpKind E} (typeInference : Bool)
    {kvs : List (String × Binding E)} {st mid : State E}
    (bound : validateAndSetInputs env kind kvs noCheck st = .ok () mid) :
    KeepsInputs mid (setInputs env kind noCheck typeInference kvs st).state := by
  unfold setInputs
  rw [bind_apply, bound]
  refine Preserves.bind (Preserves.ite (fun s keeps => ?_) (Preserves.pure _)) (fun _ =>
    Preserves.bind Preserves.get fun _ => Preserves.fromExcept _) mid ⟨rfl, rfl, rfl, rfl⟩
  obtain ⟨world, id, name, inputVars⟩ := typeValueInference_frame env kind false s
  exact ⟨world.trans keeps.1, id.trans keeps.2.1, name.trans keeps.2.2.1, inputVars.trans keeps.2.2.2⟩

theorem setInputs_ok {kind : OpKind E} {typeInference : Bool} {kvs : List (String × Binding E)}
    {st st' : State E} (run : setInputs env kind noCheck typeInference kvs st = .ok () st') :
    ∃ mid, validateAndSetInputs env kind kvs noCheck st = .ok () mid ∧ KeepsInputs mid st' := by
  obtain ⟨_, mid, bound, -⟩ := bind_eq_ok run
  have keeps := setInputs_keepsInputs_after env typeInference bound
  rw [run, state_ok] at keeps
  exact ⟨mid, bound, keeps⟩

theorem setInputs_error_after_binding {kind : OpKind E} {typeInference : Bool}
    {kvs : List (String × Binding E)} {st mid st' : State E} {e : PyError}
    (bound : validateAndSetInputs env kind kvs noCheck st = .ok () mid)
    (run : setInputs env kind noCheck typeInference kvs st = .error e st') :
    st'.op.inputVars = mid.op.inputVars ∧ st'.world.childOps = mid.world.childOps := by
  have keeps := setInputs_keepsInputs_after env typeInference bound
  rw [run, state_error] at keeps
  exact ⟨keeps.2.2.2, by rw [keeps.1]⟩

/-- **A successful `set_inputs`** keeps the balance and adds the stale edges of its binding
loop to the surplus of edges over positions. -/
theorem setInputs_balance {kind : OpKind E} {typeInference : Bool} {kvs : List (String × Binding E)}
    {st st' : State E} (run : setInputs env kind noCheck typeInference kvs st = .ok () st')
    (balanced : Balanced kind.inputSpec st) :
    Balanced kind.inputSpec st' ∧ ∀ w, st'.edges w - st'.positions kind.inputSpec w =
      st.edges w - st.positions kind.inputSpec w + staleEdges w st.op.inputVars kvs := by
  obtain ⟨mid, bound, keeps⟩ := setInputs_ok env run
  obtain ⟨known, looped⟩ := validateAndSetInputs_ok env bound
  obtain ⟨balanced', surplus⟩ := bindInputs_balance env kind.inputSpec known looped balanced
  exact ⟨fun w => by rw [keeps.edges_eq, keeps.positions_eq]; exact balanced' w,
    fun w => by rw [keeps.edges_eq, keeps.positions_eq]; exact surplus w⟩

omit [DecidableEq E] in
def storedBindings (inputVars : String → Option (Binding E)) :
    List (String × Binding E) → String → Option (Binding E)
  | [] => inputVars
  | (name, var) :: rest => storedBindings (Function.update inputVars name (some var)) rest

theorem bindInputs_ok_stored :
    ∀ {kvs : List (String × Binding E)} {st st' : State E},
      bindInputs env noCheck kvs st = .ok () st' →
        st'.op.inputVars = storedBindings st.op.inputVars kvs
  | [], _, _, run => by cases run; rfl
  | (name, var) :: rest, st, st', run => by
      obtain ⟨_, mid, first, later⟩ := bind_eq_ok run
      rw [bindInputs_ok_stored later, (bindInput_ok env first).1]
      rfl

end Loop

/-! ## Raising rebinds -/

/-- Whether every pair of a tuple rebinding past the first passes `check_and_detach`, that is,
has compatible types or is not checked. A single Var, and the first pair, are checked before
anything is detached. -/
def laterPairsPass (env : Collaborators E) (noCheck : Bool) : Option (Binding E) → Binding E → Bool
  | some (.tuple olds), .tuple news =>
      ((olds.zip news).drop 1).all fun pair => env.isCompatibleType pair.2.symType pair.1.symType || noCheck
  | _, _ => true

/-- The old Vars `check_and_detach` detaches along `zip(olds, news)` before it refuses a pair:
the old Var of every pair before the first refused one. -/
def detachedBefore (env : Collaborators E) (noCheck : Bool) : List (Var E) → List (Var E) → List (Var E)
  | vOld :: olds, vNew :: news =>
      if (!env.isCompatibleType vNew.symType vOld.symType && !noCheck) = true then []
      else vOld :: detachedBefore env noCheck olds news
  | _, _ => []

/-- The old Vars a raising detach step of a slot has detached: for a tuple rebinding, those of
the pairs before the refused one; none otherwise. -/
def detachedOnRaise (env : Collaborators E) (noCheck : Bool) : Option (Binding E) → Binding E → List (Var E)
  | some (.tuple olds), .tuple news => detachedBefore env noCheck olds news
  | _, _ => []

section Raising

variable (env : Collaborators E) {noCheck : Bool}

theorem checkAndDetach_error {vNew vOld : Var E} {st st' : State E} {e : PyError}
    (run : checkAndDetach env noCheck vNew vOld st = .error e st') :
    (!env.isCompatibleType vNew.symType vOld.symType && !noCheck) = true ∧ st' = st := by
  cases refused : (!env.isCompatibleType vNew.symType vOld.symType && !noCheck) <;>
    simp [checkAndDetach, refused] at run
  exact ⟨rfl, run.2.symm⟩

/-- **A raising detach loop** refused the pair of `zip(olds, news)` that follows the pairs whose
old Vars it detached, and removed one edge from each of those. -/
theorem detachPairs_error :
    ∀ {olds news : List (Var E)} {st st' : State E} {e : PyError},
      detachPairs env noCheck olds news st = .error e st' →
        (∃ vOld vNew, (olds.zip news)[(detachedBefore env noCheck olds news).length]? =
            some (vOld, vNew) ∧ (!env.isCompatibleType vNew.symType vOld.symType && !noCheck) = true) ∧
          st'.op = st.op ∧ ∀ w, st'.edges w = st.edges w - (detachedBefore env noCheck olds news).count w
  | [], _, _, _, _, run | _ :: _, [], _, _, _, run => by cases run
  | vOld :: olds, vNew :: news, st, st', e, run => by
      rcases bind_eq_error run with first | ⟨_, mid, first, rest⟩
      · obtain ⟨refused, rfl⟩ := checkAndDetach_error env first
        rw [detachedBefore, if_pos refused]
        exact ⟨⟨vOld, vNew, by rw [List.length_nil, List.zip_cons_cons, List.getElem?_cons_zero], refused⟩,
          rfl, fun w => by rw [List.count_nil, Nat.sub_zero]⟩
      · obtain ⟨passed, rfl⟩ := checkAndDetach_ok env first
        obtain ⟨refusedPair, sameOp, edges⟩ := detachPairs_error rest
        rw [detachedBefore, passed, if_neg Bool.false_ne_true, List.length_cons, List.zip_cons_cons,
          List.getElem?_cons_succ]
        refine ⟨refusedPair, sameOp, fun w => ?_⟩
        rw [edges, State.edges_removeChildOp, List.count_cons]
        by_cases same : w = vOld
        · subst same
          simp only [if_true, beq_self_eq_true]
          omega
        · simp only [same, if_false, beq_iff_eq, Ne.symm same]
          omega

/-- **A raising detach step** detached the old Vars of the tuple pairs before the refused one,
and nothing else. -/
theorem detachExisting_error_edges {existing : Option (Binding E)} {new : Binding E}
    {st st' : State E} {e : PyError} (run : detachExisting env noCheck existing new st = .error e st') :
    st'.op = st.op ∧ ∀ w, st'.edges w = st.edges w - (detachedOnRaise env noCheck existing new).count w := by
  match existing, new with
  | none, _ => cases run
  | some (.tuple olds), .tuple news => exact (detachPairs_error env run).2
  | some (.var vOld), .var vNew =>
      obtain ⟨-, rfl⟩ := checkAndDetach_error env run
      exact ⟨rfl, fun _ => rfl⟩
  | some (.tuple _), .var _ | some (.tuple _), .other | some (.var _), .tuple _
  | some (.var _), .other | some .other, _ =>
      simp only [detachExisting, throw_apply, EStateM.Result.error.injEq] at run
      obtain ⟨-, rfl⟩ := run
      exact ⟨rfl, fun _ => rfl⟩

theorem detachExisting_error {existing : Option (Binding E)} {new : Binding E} {st st' : State E}
    {e : PyError} (passes : laterPairsPass env noCheck existing new = true)
    (run : detachExisting env noCheck existing new st = .error e st') :
    st'.op = st.op ∧ ∀ w, st'.edges w = st.edges w := by
  obtain ⟨sameOp, edges⟩ := detachExisting_error_edges env run
  refine ⟨sameOp, fun w => ?_⟩
  suffices none : detachedOnRaise env noCheck existing new = [] by rw [edges, none, List.count_nil, Nat.sub_zero]
  match existing, new with
  | some (.tuple olds), .tuple news =>
      obtain ⟨⟨vOld, vNew, pair, refused⟩, -⟩ := detachPairs_error env run
      rw [detachedOnRaise]
      cases detached : detachedBefore env noCheck olds news with
      | nil => rfl
      | cons _ rest =>
          rw [detached, List.length_cons] at pair
          have later : (vOld, vNew) ∈ (olds.zip news).drop 1 :=
            List.mem_iff_getElem?.2 ⟨rest.length, by rw [List.getElem?_drop, Nat.add_comm]; exact pair⟩
          have checked : (env.isCompatibleType vNew.symType vOld.symType || noCheck) = true :=
            List.all_eq_true.1 passes _ later
          simp only [Bool.and_eq_true, Bool.not_eq_true'] at refused
          rw [refused.1, refused.2] at checked
          cases checked
  | none, _ | some (.var _), _ | some .other, _ | some (.tuple _), .var _ | some (.tuple _), .other => rfl

theorem bindInput_error {name : String} {var : Binding E} {st st' : State E} {e : PyError}
    (run : bindInput env noCheck name var st = .error e st') :
    detachExisting env noCheck (st.op.inputVars name) var st = .error e st' := by
  simp only [bindInput, bind_apply, get_apply, modify_apply] at run
  split at run
  · cases run
  · cases run; assumption

theorem bindInputs_error :
    ∀ {kvs : List (String × Binding E)} {st st' : State E} {e : PyError},
      bindInputs env noCheck kvs st = .error e st' →
        ∃ pre name var post mid, kvs = pre ++ (name, var) :: post ∧
          bindInputs env noCheck pre st = .ok () mid ∧ bindInput env noCheck name var mid = .error e st'
  | [], _, _, _, run => by cases run
  | (name, var) :: rest, st, st', e, run => by
      rcases bind_eq_error run with first | ⟨_, mid, first, later⟩
      · exact ⟨[], name, var, rest, st, rfl, rfl, first⟩
      · obtain ⟨pre, name', var', post, mid', split, looped, raised⟩ := bindInputs_error later
        exact ⟨(name, var) :: pre, name', var', post, mid', by rw [split]; rfl,
          by simp only [bindInputs, bind_apply, first, looped], raised⟩

theorem bindInputs_inputVars_other :
    ∀ {kvs : List (String × Binding E)} {st st' : State E} {name : String},
      bindInputs env noCheck kvs st = .ok () st' → name ∉ kvs.map Prod.fst →
        st'.op.inputVars name = st.op.inputVars name
  | [], _, _, _, run, _ => by cases run; rfl
  | (slot, var) :: rest, st, st', name, run, absent => by
      obtain ⟨_, mid, first, later⟩ := bind_eq_ok run
      rw [List.map_cons, List.mem_cons, not_or] at absent
      rw [bindInputs_inputVars_other later absent.2, (bindInput_ok env first).1]
      exact Function.update_noteq absent.1 _ _

theorem validateAndSetInputs_error_balanced {kind : OpKind E} {kvs : List (String × Binding E)}
    {st st' : State E} {e : PyError} (distinct : (kvs.map Prod.fst).Nodup)
    (passes : ∀ kv ∈ kvs, laterPairsPass env noCheck (st.op.inputVars kv.1) kv.2 = true)
    (run : validateAndSetInputs env kind kvs noCheck st = .error e st')
    (balanced : Balanced kind.inputSpec st) : Balanced kind.inputSpec st' := by
  rcases validateAndSetInputs_error env run with rfl | ⟨known, looped⟩
  · exact balanced
  obtain ⟨pre, name, var, post, mid, rfl, bound, raised⟩ := bindInputs_error env looped
  have balancedMid := (bindInputs_balance env kind.inputSpec
    (fun kv member => known kv (List.mem_append_left _ member)) bound balanced).1
  have fresh : name ∉ pre.map Prod.fst := fun member => by
    rw [List.map_append, List.map_cons] at distinct
    exact List.disjoint_of_nodup_append distinct member (List.mem_cons_self _ _)
  have slot := bindInputs_inputVars_other env bound fresh
  have checked := passes (name, var) (List.mem_append_right _ (List.mem_cons_self _ _))
  rw [← slot] at checked
  obtain ⟨sameOp, sameEdges⟩ := detachExisting_error env checked (bindInput_error env raised)
  intro w
  rw [sameEdges, State.positions, sameOp]
  exact balancedMid w

/-- **A raising `set_inputs`** over distinct keys whose later tuple pairs pass keeps the
balance, wherever it raised. -/
theorem setInputs_error_balanced {kind : OpKind E} {typeInference : Bool}
    {kvs : List (String × Binding E)} {st st' : State E} {e : PyError}
    (distinct : (kvs.map Prod.fst).Nodup)
    (passes : ∀ kv ∈ kvs, laterPairsPass env noCheck (st.op.inputVars kv.1) kv.2 = true)
    (run : setInputs env kind noCheck typeInference kvs st = .error e st')
    (balanced : Balanced kind.inputSpec st) : Balanced kind.inputSpec st' := by
  rcases bind_eq_error run with bound | ⟨_, mid, bound, -⟩
  · exact validateAndSetInputs_error_balanced env distinct passes bound balanced
  · have keeps := setInputs_keepsInputs_after env typeInference bound
    rw [run, state_error] at keeps
    obtain ⟨known, looped⟩ := validateAndSetInputs_ok env bound
    have balancedMid := (bindInputs_balance env kind.inputSpec known looped balanced).1
    exact fun w => by rw [keeps.edges_eq, keeps.positions_eq]; exact balancedMid w

end Raising

/-! ## Construction -/

section Construction

variable (env : Collaborators E) (kind : OpKind E)

omit [DecidableEq E] in
theorem resolveTypeDomains_keeps (st : State E) :
    ∀ entries : List (String × InputType),
      Preserves (fun s => s.op = st.op ∧ s.world.childOps = st.world.childOps)
        (resolveTypeDomains kind entries)
  | [] => Preserves.pure _
  | (_, inputType) :: rest => by
      unfold resolveTypeDomains
      refine Preserves.bind ?_ fun _ => resolveTypeDomains_keeps st rest
      unfold resolveTypeDomain
      split
      · refine Preserves.bind Preserves.get fun _ => Preserves.ite ?_ (Preserves.pure _)
        split
        · exact Preserves.modify fun _ keeps => by simpa using keeps
        · exact Preserves.throw _
      · exact Preserves.pure _

omit [DecidableEq E] in
theorem initPrelude_frame (kwargs : Kwargs E) (st : State E) :
    (initPrelude kind kwargs st).state.op = ⟨st.op.id, kwargs.name, fun _ => none, none⟩ ∧
      (initPrelude kind kwargs st).state.world.childOps = st.world.childOps := by
  unfold initPrelude
  rw [modify_bind_apply]
  exact (Preserves.bind (Preserves.raiseIf _ _) fun _ => Preserves.bind (Preserves.raiseIf _ _) fun _ =>
    Preserves.bind (Preserves.fromExcept _) fun _ => resolveTypeDomains_keeps kind _ _) _ ⟨rfl, rfl⟩

omit [DecidableEq E] in
private theorem inputKv_keys_sublist :
    ∀ args : List (String × Option (Binding E)),
      ((args.filterMap fun arg => if kind.inputSpec.contains arg.1 then
        arg.2.map fun binding => (arg.1, binding) else none).map Prod.fst).Sublist (args.map Prod.fst)
  | [] => List.Sublist.slnil
  | (key, value) :: rest => by
      have later := inputKv_keys_sublist rest
      by_cases known : kind.inputSpec.contains key <;> cases value <;>
        simp only [List.filterMap_cons, known, ↓reduceIte, Option.map, List.map_cons,
          Bool.false_eq_true] <;>
        first | exact later.cons _ | exact later.cons₂ _

omit [DecidableEq E] in
theorem inputKv_nodup (kwargs : Kwargs E) : ((inputKv kind kwargs).map Prod.fst).Nodup :=
  (inputKv_keys_sublist kind kwargs.args).nodup kwargs.keys_nodup

theorem bindInputs_fresh (noCheck : Bool) :
    ∀ (kvs : List (String × Binding E)) (st : State E), (kvs.map Prod.fst).Nodup →
      (∀ kv ∈ kvs, st.op.inputVars kv.1 = none) → ∃ st', bindInputs env noCheck kvs st = .ok () st'
  | [], st, _, _ => ⟨st, rfl⟩
  | (name, var) :: rest, st, nodup, unbound => by
      rw [List.map_cons, List.nodup_cons] at nodup
      have slot : st.op.inputVars name = none := unbound (name, var) (List.mem_cons_self _ _)
      obtain ⟨st', run⟩ := bindInputs_fresh noCheck rest ((attach var st).setInputVar name var) nodup.2
        fun kv member => by
          have other : kv.1 ≠ name := fun same =>
            nodup.1 (by simpa [same] using List.mem_map_of_mem Prod.fst member)
          simpa [State.setInputVar, other] using unbound kv (List.mem_cons_of_mem _ member)
      exact ⟨st', by simp [bindInputs, bindInput, slot, detachExisting, run]⟩

theorem staleEdges_fresh (w : Var E) :
    ∀ {inputVars : String → Option (Binding E)} {kvs : List (String × Binding E)},
      (kvs.map Prod.fst).Nodup → (∀ kv ∈ kvs, inputVars kv.1 = none) → staleEdges w inputVars kvs = 0
  | _, [], _, _ => rfl
  | inputVars, (name, var) :: rest, nodup, unbound => by
      rw [List.map_cons, List.nodup_cons] at nodup
      simp only [staleEdges, unbound (name, var) (List.mem_cons_self _ _), staleOlds, List.count_nil,
        Nat.zero_add]
      exact staleEdges_fresh w nodup.2 fun kv member => by
        have other : kv.1 ≠ name := fun same =>
          nodup.1 (by simpa [same] using List.mem_map_of_mem Prod.fst member)
        rw [Function.update_noteq other]
        exact unbound kv (List.mem_cons_of_mem _ member)

theorem initBinding_edges {kwargs : Kwargs E} {st mid st' : State E}
    (prelude : initPrelude kind kwargs st = .ok () mid)
    (bound : validateAndSetInputs env kind (inputKv kind kwargs) false mid = .ok () st') (w : Var E) :
    st'.edges w = st.edges w + st'.positions kind.inputSpec w := by
  have frame := initPrelude_frame kind kwargs st
  rw [prelude, state_ok] at frame
  obtain ⟨known, looped⟩ := validateAndSetInputs_ok env bound
  have fresh : Balanced kind.inputSpec mid := fun v => by
    simp [State.positions, frame.1, occurrences]
  obtain ⟨balanced, surplus⟩ := bindInputs_balance env kind.inputSpec known looped fresh
  have stale : staleEdges w mid.op.inputVars (inputKv kind kwargs) = 0 :=
    staleEdges_fresh w (inputKv_nodup kind kwargs) fun _ _ => by simp [frame.1]
  have edgesBefore : mid.edges w = st.edges w := by simp [State.edges, frame.1, frame.2]
  have positionsBefore : mid.positions kind.inputSpec w = 0 := by
    simp [State.positions, frame.1, occurrences]
  have moved := surplus w
  have covered := balanced w
  omega

theorem init_edges {kwargs : Kwargs E} {st st' : State E} (run : init env kind kwargs st = .ok () st')
    (w : Var E) : st'.edges w = st.edges w + st'.positions kind.inputSpec w := by
  obtain ⟨_, mid, prelude, rest⟩ := bind_eq_ok run
  obtain ⟨_, bound, binding, checked⟩ := bind_eq_ok rest
  simp only [bind_apply, get_apply] at checked
  cases ensured : ensureRequiredInputs kind bound.op <;> simp [ensured] at checked
  subst checked
  exact initBinding_edges env kind prelude binding w

end Construction

/-! ## Whole runs -/

/-- An op class with one required tuple input `values`, the main input of `concat`. -/
def concatKind : OpKind Scalar where
  opType := "concat"
  inputSpec := ⟨[("values", ⟨0, false, .tuple [.fp16, .fp32, .int32]⟩)], by decide, by decide⟩
  typeDomains := fun _ => none
  typeInference := baseTypeInference
  valueInference := baseValueInference "concat"
  outputNames := baseOutputNames "concat"

def vectorVar (name : String) : Var Scalar :=
  ⟨name, .tensor .fp32 [.known 2], none⟩

def concatKwargs : Kwargs Scalar :=
  ⟨some "concat_0", [("values", some (.tuple [vectorVar "a", vectorVar "b"])),
    ("enclosing_block", some .other), ("scopes", some .other)], by decide⟩

/-- An op reached from the freshly allocated `st₀` by a successful `__init__` and then
successful `set_inputs` calls; `stale w` counts the stale edges those calls left on `w`. -/
inductive Built (env : Collaborators E) (kind : OpKind E) (st₀ : State E) :
    State E → (Var E → Nat) → Prop
  | init {st : State E} (kwargs : Kwargs E) :
      MilOperation.init env kind kwargs st₀ = .ok () st → Built env kind st₀ st fun _ => 0
  | setInputs {st st' : State E} {stale : Var E → Nat} (noCheck typeInference : Bool)
      (kvs : List (String × Binding E)) : Built env kind st₀ st stale →
      MilOperation.setInputs env kind noCheck typeInference kvs st = .ok () st' →
      Built env kind st₀ st' fun w => stale w + staleEdges w st.op.inputVars kvs

/-- **Edge accounting over whole runs.** After construction and any successful rebinds, every
Var carries the edges it had before, one edge of the op per position at which the op binds
it, and the stale edges left when a tuple slot was rebound to a shorter sequence. -/
theorem built_edges {env : Collaborators E} {kind : OpKind E} {st₀ st : State E}
    {stale : Var E → Nat} (built : Built env kind st₀ st stale) :
    ∀ w, st.edges w = st₀.edges w + st.positions kind.inputSpec w + stale w := by
  induction built with
  | init kwargs run => simpa using init_edges env kind run
  | @setInputs st st' stale noCheck typeInference kvs _ run inductionHypothesis =>
      have balanced : Balanced kind.inputSpec st := fun v => by
        have := inductionHypothesis v
        omega
      obtain ⟨balanced', surplus⟩ := setInputs_balance env run balanced
      intro w
      have moved := surplus w
      have covered := balanced' w
      have before := inductionHypothesis w
      show _ = _ + _ + (stale w + staleEdges w st.op.inputVars kvs)
      omega

theorem concat_rebind_edges :
    let built := (init scalarEnv concatKind concatKwargs (State.fresh 0 World.empty)).state
    let rebound := (setInputs scalarEnv concatKind true false [("values", .tuple [vectorVar "c"])]
      built).state
    ∀ w, rebound.edges w = (State.fresh 0 World.empty).edges w +
      rebound.positions concatKind.inputSpec w +
        (0 + staleEdges w built.op.inputVars [("values", .tuple [vectorVar "c"])]) :=
  built_edges (.setInputs true false _ (.init concatKwargs rfl : Built scalarEnv concatKind _ _ _) rfl)

def concatRebind : EStateM PyError (State Scalar) Unit := do
  init scalarEnv concatKind concatKwargs
  setInputs scalarEnv concatKind true false [("values", .tuple [vectorVar "c"])]

/-- Both calls succeed, and the rebind detaches only `a`, the Var `zip` pairs: `b` keeps the
op as a consumer though the op no longer reads it. -/
theorem setInputs_shorter_tuple_keeps_stale_edge :
    (concatRebind (State.fresh 0 World.empty)).raised = none ∧
      (concatRebind (State.fresh 0 World.empty)).state.edges (vectorVar "b") = 1 ∧
      (concatRebind (State.fresh 0 World.empty)).state.positions concatKind.inputSpec
        (vectorVar "b") = 0 := by
  decide

/-! ## Failed calls -/

section Failures

variable (env : Collaborators E) (kind : OpKind E) {noCheck : Bool}

theorem setInputs_rejected {st : State E} {kvs : List (String × Binding E)} (typeInference : Bool)
    (rejected : (∃ kv ∈ kvs, kv.1 ∉ kind.inputSpec.names) ∨ ∃ err, kind.inputSpec.validateInputs
      st.world.typeDomain (showName st.op.name) kind.opType kvs = .error err) :
    ∃ e, setInputs env kind noCheck typeInference kvs st = .error e st := by
  unfold setInputs validateAndSetInputs
  cases found : kvs.find? (fun kv => !kind.inputSpec.contains kv.1) with
  | some kv =>
      obtain ⟨key, value⟩ := kv
      exact ⟨.runtimeError ("Unknown input '" ++ key ++ "' for op '" ++ kind.opType ++ "'"),
        by simp [found]⟩
  | none =>
      have known : ∀ kv ∈ kvs, kv.1 ∈ kind.inputSpec.names := fun kv member => by
        simpa using List.find?_eq_none.mp found kv member
      rcases rejected with ⟨kv, member, unknown⟩ | ⟨err, invalid⟩
      · exact absurd (known kv member) unknown
      · exact ⟨err, by simp [found, invalid]⟩

theorem setInputs_error_in_loop {st st' : State E} {kvs : List (String × Binding E)} {e : PyError}
    (typeInference : Bool) (known : ∀ kv ∈ kvs, kv.1 ∈ kind.inputSpec.names)
    (valid : kind.inputSpec.validateInputs st.world.typeDomain (showName st.op.name) kind.opType kvs =
      .ok ())
    (looped : bindInputs env noCheck kvs st = .error e st') :
    setInputs env kind noCheck typeInference kvs st = .error e st' ∧
      ∃ pre name var post mid, kvs = pre ++ (name, var) :: post ∧
        validateAndSetInputs env kind pre noCheck st = .ok () mid ∧
        detachExisting env noCheck (mid.op.inputVars name) var mid = .error e st' ∧
        st'.op = mid.op ∧
        ∀ w, st'.edges w = mid.edges w - (detachedOnRaise env noCheck (mid.op.inputVars name) var).count w := by
  have raised : setInputs env kind noCheck typeInference kvs st = .error e st' := by
    simp only [setInputs, bind_apply, validateAndSetInputs_of_valid env known valid, looped]
  obtain ⟨pre, name, var, post, mid, rfl, bound, failing⟩ := bindInputs_error env looped
  have detached := bindInput_error env failing
  refine ⟨raised, pre, name, var, post, mid, rfl, ?_, detached, detachExisting_error_edges env detached⟩
  rw [validateAndSetInputs_of_valid env (fun kv member => known kv (List.mem_append_left _ member))
    (InputSpec.validateInputs_append_left _ valid)]
  exact bound

theorem init_error_prelude {kwargs : Kwargs E} {st st' : State E} {e : PyError}
    (prelude : initPrelude kind kwargs st = .error e st') :
    init env kind kwargs st = .error e st' ∧ st'.world.childOps = st.world.childOps := by
  have frame := (initPrelude_frame kind kwargs st).2
  rw [prelude, state_error] at frame
  exact ⟨by simp only [init, bind_apply, prelude], frame⟩

theorem init_error_validation {kwargs : Kwargs E} {st pre st' : State E} {e : PyError}
    (prelude : initPrelude kind kwargs st = .ok () pre)
    (rejected : validateAndSetInputs env kind (inputKv kind kwargs) false pre = .error e st') :
    init env kind kwargs st = .error e st' ∧ st' = pre ∧ st'.world.childOps = st.world.childOps := by
  have frame := initPrelude_frame kind kwargs st
  rw [prelude, state_ok] at frame
  have unchanged : st' = pre := by
    rcases validateAndSetInputs_error env rejected with same | ⟨-, looped⟩
    · exact same
    · obtain ⟨_, fine⟩ := bindInputs_fresh env false (inputKv kind kwargs) pre
        (inputKv_nodup kind kwargs) fun _ _ => by simp [frame.1]
      rw [fine] at looped
      cases looped
  subst unchanged
  exact ⟨by simp only [init, bind_apply, prelude, rejected], rfl, frame.2⟩

theorem init_error_required {kwargs : Kwargs E} {st pre mid : State E} {e : PyError}
    (prelude : initPrelude kind kwargs st = .ok () pre)
    (bound : validateAndSetInputs env kind (inputKv kind kwargs) false pre = .ok () mid)
    (missing : ensureRequiredInputs kind mid.op = .error e) :
    init env kind kwargs st = .error e mid ∧
      mid.op.inputVars = storedBindings (fun _ => none) (inputKv kind kwargs) ∧
      ∀ w, mid.edges w = st.edges w + mid.positions kind.inputSpec w := by
  have reset := (initPrelude_frame kind kwargs st).1
  rw [prelude, state_ok] at reset
  refine ⟨by simp [init, bind_apply, prelude, bound, missing], ?_, initBinding_edges env kind prelude bound⟩
  rw [bindInputs_ok_stored env (validateAndSetInputs_ok env bound).2, reset]

end Failures

/-- **Failed calls.** A `set_inputs` raising at its key check or at validation leaves the state
as it was. One raising in its binding loop stops at the first input whose detach step raises,
with the inputs before it bound as a returning call over them alone binds them and the old Vars
of the refused tuple's earlier pairs detached. One raising after its binding loop keeps the
bindings and edges the loop left. An `__init__` raising before its binding returns moved no edge;
one raising at the required-input check leaves the op binding the inputs it was given and
attached once per position to each. -/
theorem failed_call_effects (env : Collaborators E) (kind : OpKind E) :
    (∀ (st : State E) (kvs : List (String × Binding E)) (noCheck typeInference : Bool),
      ((∃ kv ∈ kvs, kv.1 ∉ kind.inputSpec.names) ∨ ∃ err, kind.inputSpec.validateInputs
          st.world.typeDomain (showName st.op.name) kind.opType kvs = .error err) →
        ∃ e, setInputs env kind noCheck typeInference kvs st = .error e st) ∧
    (∀ (st st' : State E) (kvs : List (String × Binding E)) (noCheck typeInference : Bool)
      (e : PyError), (∀ kv ∈ kvs, kv.1 ∈ kind.inputSpec.names) →
        kind.inputSpec.validateInputs st.world.typeDomain (showName st.op.name) kind.opType kvs =
          .ok () →
        bindInputs env noCheck kvs st = .error e st' →
          setInputs env kind noCheck typeInference kvs st = .error e st' ∧
          ∃ pre name var post mid, kvs = pre ++ (name, var) :: post ∧
            validateAndSetInputs env kind pre noCheck st = .ok () mid ∧
            detachExisting env noCheck (mid.op.inputVars name) var mid = .error e st' ∧
            st'.op = mid.op ∧
            ∀ w, st'.edges w =
              mid.edges w - (detachedOnRaise env noCheck (mid.op.inputVars name) var).count w) ∧
    (∀ (st mid st' : State E) (kvs : List (String × Binding E)) (noCheck typeInference : Bool)
      (e : PyError), validateAndSetInputs env kind kvs noCheck st = .ok () mid →
        setInputs env kind noCheck typeInference kvs st = .error e st' →
          st'.op.inputVars = mid.op.inputVars ∧ st'.world.childOps = mid.world.childOps) ∧
    (∀ (st st' : State E) (kwargs : Kwargs E) (e : PyError),
      initPrelude kind kwargs st = .error e st' →
        init env kind kwargs st = .error e st' ∧ st'.world.childOps = st.world.childOps) ∧
    (∀ (st pre st' : State E) (kwargs : Kwargs E) (e : PyError),
      initPrelude kind kwargs st = .ok () pre →
        validateAndSetInputs env kind (inputKv kind kwargs) false pre = .error e st' →
          init env kind kwargs st = .error e st' ∧ st' = pre ∧
            st'.world.childOps = st.world.childOps) ∧
    (∀ (st pre mid : State E) (kwargs : Kwargs E) (e : PyError),
      initPrelude kind kwargs st = .ok () pre →
        validateAndSetInputs env kind (inputKv kind kwargs) false pre = .ok () mid →
          ensureRequiredInputs kind mid.op = .error e →
            init env kind kwargs st = .error e mid ∧
              mid.op.inputVars = storedBindings (fun _ => none) (inputKv kind kwargs) ∧
              ∀ w, mid.edges w = st.edges w + mid.positions kind.inputSpec w) :=
  ⟨fun _ _ _ typeInference rejected => setInputs_rejected env kind typeInference rejected,
    fun _ _ _ _ typeInference _ known valid looped =>
      setInputs_error_in_loop env kind typeInference known valid looped,
    fun _ _ _ _ _ _ _ bound run => setInputs_error_after_binding env bound run,
    fun _ _ _ _ prelude => init_error_prelude env kind prelude,
    fun _ _ _ _ _ prelude rejected => init_error_validation env kind prelude rejected,
    fun _ _ _ _ _ prelude bound missing => init_error_required env kind prelude bound missing⟩

/-- An elementwise binary op: two required tensor inputs of type domain `T`. -/
def addKind : OpKind Scalar where
  opType := "add"
  inputSpec := ⟨[("x", ⟨1, false, .tensor (some "T")⟩), ("y", ⟨2, false, .tensor (some "T")⟩)],
    by decide, by decide⟩
  typeDomains := fun id => if id = "T" then some [.fp16, .fp32, .int32] else none
  typeInference := baseTypeInference
  valueInference := baseValueInference "add"
  outputNames := baseOutputNames "add"

def addWithoutY : Kwargs Scalar :=
  ⟨some "add_0", [("x", some (.var (vectorVar "a"))), ("enclosing_block", some .other),
    ("scopes", some .other)], by decide⟩

/-- Building `add` without `y` raises at the required-input check and leaves `a` listing the
op it failed to build. -/
theorem init_missing_input_leaves_edge :
    (init scalarEnv addKind addWithoutY (State.fresh 0 World.empty)).raised =
        some (.valueError "Op \"add_0\" (op_type: add) Required input y is missing") ∧
      (State.fresh 0 World.empty : State Scalar).edges (vectorVar "a") = 0 ∧
      (init scalarEnv addKind addWithoutY (State.fresh 0 World.empty)).state.edges
        (vectorVar "a") = 1 := by
  decide

/-- `gather(x, indices)`: a tensor input of domain `T` and an index input of domain `U`. -/
def gatherKind : OpKind Scalar where
  opType := "gather"
  inputSpec := ⟨[("x", ⟨5, false, .tensor (some "T")⟩), ("indices", ⟨6, false, .tensor (some "U")⟩)],
    by decide, by decide⟩
  typeDomains := fun id =>
    if id = "T" then some [.fp16, .fp32, .int32] else if id = "U" then some [.int8, .int16, .int32] else none
  typeInference := baseTypeInference
  valueInference := baseValueInference "gather"
  outputNames := baseOutputNames "gather"

example :
    let i : Var Scalar := ⟨"i", .tensor .int32 [.known 2], none⟩
    let built := (init scalarEnv gatherKind ⟨some "gather_0", [("x", some (.var (vectorVar "a"))),
      ("indices", some (.var i)), ("enclosing_block", some .other), ("scopes", some .other)], by decide⟩
      (State.fresh 0 World.empty)).state
    let rebound := setInputs scalarEnv gatherKind false false
      [("x", .var (vectorVar "c")), ("indices", .var ⟨"j", .tensor .int16 [.known 2], none⟩)] built
    rebound.raised.isSome ∧ rebound.state.op.inputVars "x" = some (.var (vectorVar "c")) ∧
      rebound.state.edges (vectorVar "a") = 0 ∧ rebound.state.op.inputVars "indices" = some (.var i) := by
  decide

end MilOperation
