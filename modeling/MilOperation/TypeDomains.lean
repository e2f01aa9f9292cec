import MilOperation.Runs

/-!
Contract: the type domains `Operation.__init__` resolves into the `InputType` objects of the
class-level input spec.

`__init__` fills an empty `type_domain` from the class's `type_domains` and leaves a filled one
alone. The objects belong to the class, and a subclass that inherits `input_spec` shares them
with its parent: the first class constructed fixes the domain for all of them.

Owns: what one construction writes into the domains, the domains over a history of
constructions, and when a class gets its own `type_domains`.

Does not own: the validation against a domain (`InputSpec.validateInputs`).
-/

namespace MilOperation

variable {E : Type} [DecidableEq E]

/-! ## One construction -/

section Resolution

variable (kind : OpKind E)

omit [DecidableEq E] in
theorem resolveTypeDomain_other {ref : Nat} (domain : List DType) {inputType : InputType}
    (other : inputType.ref ≠ ref) :
    Preserves (fun s : State E => s.world.typeDomain ref = domain) (resolveTypeDomain kind inputType) := by
  unfold resolveTypeDomain
  split
  · refine Preserves.bind Preserves.get fun _ => Preserves.ite ?_ (Preserves.pure _)
    split
    · exact Preserves.modify fun s kept => by
        simpa [State.setTypeDomain, Function.update_noteq (Ne.symm other)] using kept
    · exact Preserves.throw _
  · exact Preserves.pure _

omit [DecidableEq E] in
theorem resolveTypeDomains_other (ref : Nat) (domain : List DType) :
    ∀ entries : List (String × InputType), ref ∉ entries.map (·.2.ref) →
      Preserves (fun s : State E => s.world.typeDomain ref = domain) (resolveTypeDomains kind entries)
  | [], _ => Preserves.pure _
  | (_, inputType) :: rest, outside => by
      simp only [List.map_cons, List.mem_cons, not_or] at outside
      exact Preserves.bind (resolveTypeDomain_other kind domain (Ne.symm outside.1)) fun _ =>
        resolveTypeDomains_other ref domain rest outside.2

omit [DecidableEq E] in
/-- **Resolution.** After a returning resolution loop, an input of domain id `tid` whose
domain was empty holds the class's `type_domains[tid]`, and one whose domain was filled keeps
it. -/
theorem resolveTypeDomains_ok :
    ∀ (entries : List (String × InputType)) (s s' : State E), (entries.map (·.2.ref)).Nodup →
      resolveTypeDomains kind entries s = .ok () s' →
      ∀ entry ∈ entries, ∀ tid, entry.2.kind = .tensor (some tid) →
        (s.world.typeDomain entry.2.ref = [] →
          kind.typeDomains tid = some (s'.world.typeDomain entry.2.ref)) ∧
        (s.world.typeDomain entry.2.ref ≠ [] →
          s'.world.typeDomain entry.2.ref = s.world.typeDomain entry.2.ref)
  | [], _, _, _, _, _, member, _, _ => nomatch member
  | (name, inputType) :: rest, s, s', nodup, run, entry, member, tid, tensor => by
      rw [List.map_cons, List.nodup_cons] at nodup
      obtain ⟨_, mid, first, later⟩ := bind_eq_ok run
      have afterFirst := resolveTypeDomains_other kind _ _ rest nodup.1 mid rfl
      rw [later, state_ok] at afterFirst
      rcases List.mem_cons.mp member with rfl | member
      · dsimp only at tensor afterFirst ⊢
        simp only [resolveTypeDomain, tensor, bind_apply, get_apply] at first
        by_cases empty : s.world.typeDomain inputType.ref = []
        · rcases found : kind.typeDomains tid with _ | domain
          · simp [empty, found] at first
          · simp only [empty, ↓reduceIte, Option.some_bind, found, modify_apply,
              EStateM.Result.ok.injEq, true_and] at first
            subst first
            refine ⟨fun _ => ?_, fun filled => absurd empty filled⟩
            simp [afterFirst, State.setTypeDomain]
        · simp only [empty, ↓reduceIte, pure_apply, EStateM.Result.ok.injEq, true_and] at first
          subst first
          exact ⟨fun cleared => absurd cleared empty, fun _ => afterFirst⟩
      · have other : inputType.ref ≠ entry.2.ref := fun same =>
          nodup.1 (same ▸ List.mem_map_of_mem (·.2.ref) member)
        have firstKeeps := resolveTypeDomain_other kind _ other s rfl
        rw [first, state_ok] at firstKeeps
        rw [← firstKeeps]
        exact resolveTypeDomains_ok rest mid s' nodup.2 later entry member tid tensor

end Resolution

/-! ## Whole constructions -/

section Construction

variable (env : Collaborators E) (kind : OpKind E)

omit [DecidableEq E] in
theorem initPrelude_ok {kwargs : Kwargs E} {st mid : State E}
    (run : initPrelude kind kwargs st = .ok () mid) :
    resolveTypeDomains kind kind.inputSpec.inputTypes
      { st with op := ⟨st.op.id, kwargs.name, fun _ => none, none⟩ } = .ok () mid := by
  unfold initPrelude at run
  rw [modify_bind_apply] at run
  obtain ⟨_, _, blockRead, run⟩ := bind_eq_ok run
  obtain ⟨-, rfl⟩ := raiseIf_eq_ok blockRead
  obtain ⟨_, _, scopesRead, run⟩ := bind_eq_ok run
  obtain ⟨-, rfl⟩ := raiseIf_eq_ok scopesRead
  obtain ⟨_, _, expected, run⟩ := bind_eq_ok run
  obtain ⟨-, rfl⟩ := fromExcept_eq_ok expected
  exact run

theorem initBinding_domains (kwargs : Kwargs E) (ref : Nat) (domain : List DType) :
    Preserves (fun s : State E => s.world.typeDomain ref = domain)
      (do validateAndSetInputs env kind (inputKv kind kwargs) false
          fromExcept (ensureRequiredInputs kind (← get).op)) :=
  Preserves.bind (validateAndSetInputs_preserves env (fun _ _ kept => kept) (fun _ _ kept => kept)
    (fun _ _ _ kept => kept) kind _ false) fun _ =>
      Preserves.bind Preserves.get fun _ => Preserves.fromExcept _

/-- **A construction writes only its own class's domains**, whether it returns or raises. -/
theorem init_domain_other (kwargs : Kwargs E) (st : State E) {ref : Nat}
    (outside : ref ∉ kind.inputSpec.refs) :
    (init env kind kwargs st).state.world.typeDomain ref = st.world.typeDomain ref := by
  refine (?_ : Preserves (fun s : State E => s.world.typeDomain ref = st.world.typeDomain ref)
    (init env kind kwargs)) st rfl
  unfold init initPrelude
  exact Preserves.bind (Preserves.bind (Preserves.modify fun _ kept => kept) fun _ =>
    Preserves.bind (Preserves.raiseIf _ _) fun _ => Preserves.bind (Preserves.raiseIf _ _) fun _ =>
      Preserves.bind (Preserves.fromExcept _) fun _ =>
        resolveTypeDomains_other kind ref _ _ outside) fun _ =>
    initBinding_domains env kind kwargs ref _

/-- **The domains a returning construction leaves**: the class's `type_domains[tid]` on each
tensor input whose domain was empty, the domain already there on every other. -/
theorem init_domains {kwargs : Kwargs E} {st st' : State E}
    (run : init env kind kwargs st = .ok () st') :
    ∀ entry ∈ kind.inputSpec.inputTypes, ∀ tid, entry.2.kind = .tensor (some tid) →
      (st.world.typeDomain entry.2.ref = [] →
        kind.typeDomains tid = some (st'.world.typeDomain entry.2.ref)) ∧
      (st.world.typeDomain entry.2.ref ≠ [] →
        st'.world.typeDomain entry.2.ref = st.world.typeDomain entry.2.ref) := by
  obtain ⟨_, mid, prelude, rest⟩ := bind_eq_ok run
  intro entry member tid tensor
  have kept := initBinding_domains env kind kwargs entry.2.ref _ mid rfl
  rw [rest, state_ok] at kept
  rw [kept]
  exact resolveTypeDomains_ok kind _ _ _ kind.inputSpec.refs_nodup (initPrelude_ok kind prelude)
    entry member tid tensor

/-- The graph after constructing the ops of `history` one after the other from `world`, op
`id` first, each construction returning or raising. -/
def constructAll : Nat → List (OpKind E × Kwargs E) → World E → World E
  | _, [], world => world
  | id, (kind, kwargs) :: rest, world =>
      constructAll (id + 1) rest (init env kind kwargs (State.fresh id world)).state.world

theorem constructAll_other (ref : Nat) :
    ∀ (id : Nat) (history : List (OpKind E × Kwargs E)) (world : World E),
      (∀ built ∈ history, ref ∉ built.1.inputSpec.refs) →
      (constructAll env id history world).typeDomain ref = world.typeDomain ref
  | _, [], _, _ => rfl
  | id, (kind, kwargs) :: rest, world, outside => by
      rw [constructAll, constructAll_other ref (id + 1) rest _
        fun built member => outside built (.tail _ member)]
      exact init_domain_other env kind kwargs _ (outside _ (.head _))

/-- **Classes that share no `InputType` object do not interfere.** After any history of
constructions of classes none of which shares an `InputType` object with `kind`, from a graph
where the domains of `kind`'s inputs with a domain id are unresolved, a returning construction
of `kind` leaves its own `type_domains[tid]` on each tensor input of domain id `tid`. -/
theorem own_domains_without_sharing (history : List (OpKind E × Kwargs E)) (kwargs : Kwargs E)
    (n id : Nat) (world : World E) {st' : State E}
    (unshared : ∀ built ∈ history, ∀ ref ∈ kind.inputSpec.refs, ref ∉ built.1.inputSpec.refs)
    (unresolved : ∀ entry ∈ kind.inputSpec.inputTypes, ∀ tid, entry.2.kind = .tensor (some tid) →
      world.typeDomain entry.2.ref = [])
    (run : init env kind kwargs (State.fresh id (constructAll env n history world)) = .ok () st') :
    ∀ entry ∈ kind.inputSpec.inputTypes, ∀ tid, entry.2.kind = .tensor (some tid) →
      kind.typeDomains tid = some (st'.world.typeDomain entry.2.ref) := by
  intro entry member tid tensor
  have own : entry.2.ref ∈ kind.inputSpec.refs := List.mem_map_of_mem _ member
  refine (init_domains env kind run entry member tid tensor).1 ?_
  rw [State.fresh, constructAll_other env _ n history world
    fun built built_member => unshared built built_member _ own]
  exact unresolved entry member tid tensor

end Construction

def addKwargs : Kwargs Scalar :=
  ⟨some "add_0", [("x", some (.var (vectorVar "a"))), ("y", some (.var (vectorVar "b"))),
    ("enclosing_block", some .other), ("scopes", some .other)], by decide⟩

theorem add_after_concat_domains :
    addKind.typeDomains "T" = some ((init scalarEnv addKind addKwargs
        (State.fresh 1 (constructAll scalarEnv 0 [(concatKind, concatKwargs)] World.empty))).state.world.typeDomain
          1) ∧
      addKind.typeDomains "T" = some ((init scalarEnv addKind addKwargs
        (State.fresh 1 (constructAll scalarEnv 0 [(concatKind, concatKwargs)] World.empty))).state.world.typeDomain
          2) :=
  have resolved := own_domains_without_sharing scalarEnv addKind [(concatKind, concatKwargs)] addKwargs 0 1
    World.empty (by decide) (fun _ _ _ _ => rfl) rfl
  ⟨resolved ("x", ⟨1, false, .tensor (some "T")⟩) (.head _) "T" rfl,
    resolved ("y", ⟨2, false, .tensor (some "T")⟩) (.tail _ (.head _)) "T" rfl⟩

/-- A subclass of `add` that inherits its `input_spec`, and with it the `InputType` objects,
and widens `type_domains`. -/
def widenedAddKind : OpKind Scalar :=
  { addKind with
    typeDomains := fun id => if id = "T" then some [.fp16, .fp32, .int8, .int16, .int32, .uint8, .uint16]
      else none }

/-- Built first, the subclass resolves its inputs to its own widened domain; built after an
`add`, it finds the inherited objects resolved and keeps the parent's domain. -/
theorem inherited_domain_depends_on_history :
    (constructAll scalarEnv 0 [(widenedAddKind, addKwargs)] World.empty).typeDomain 1 =
        [.fp16, .fp32, .int8, .int16, .int32, .uint8, .uint16] ∧
      (constructAll scalarEnv 0 [(addKind, addKwargs), (widenedAddKind, addKwargs)]
        World.empty).typeDomain 1 = [.fp16, .fp32, .int32] := by
  decide

end MilOperation
