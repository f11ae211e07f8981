import KernelForge.Proofs.Provider.Registered

/-!
# Bindings of names

A name is bound by the first registration of a module that ends with it, and to this module for
good. All other calls leave the registry alone, and so does a registration that conflicts with an
earlier one. The account is kept as a list of the modules that were to be registered, in order.
-/

namespace KernelForge

/-! ### Names of modules -/

/-- A name is what stands after the last point of a module, or the whole module if there is none. -/
def FinalSegment (module name : String) : Prop :=
  '.' ∉ name.toList ∧ (module = name ∨ ∃ front, module = front ++ "." ++ name)

/-- What stands before the first mark of a list is its part without marks. -/
private theorem takeWhile_ne_eq_iff {A : Type} [DecidableEq A] {c : A} {list front : List A} :
    list.takeWhile (· ≠ c) = front ↔
      c ∉ front ∧ (list = front ∨ ∃ rest, list = front ++ c :: rest) := by
  induction list generalizing front with
  | nil =>
    rw [List.takeWhile_nil]
    constructor
    · rintro rfl
      exact ⟨List.not_mem_nil, .inl rfl⟩
    · rintro ⟨-, h | ⟨rest, h⟩⟩
      · exact h
      · simp at h
  | cons a list ih =>
    by_cases ha : a = c
    · subst ha
      rw [List.takeWhile_cons_of_neg (by simp)]
      constructor
      · rintro rfl
        exact ⟨List.not_mem_nil, .inr ⟨list, rfl⟩⟩
      · rintro ⟨hnone, h | ⟨rest, h⟩⟩
        · exact absurd (h ▸ List.mem_cons_self) hnone
        · cases front with
          | nil => rfl
          | cons b front =>
            cases h
            exact absurd List.mem_cons_self hnone
    · rw [List.takeWhile_cons_of_pos (by simpa using ha)]
      cases front with
      | nil => simp [ha]
      | cons b front =>
        simp only [List.cons.injEq, ih, List.mem_cons, not_or, List.cons_append]
        constructor
        · rintro ⟨rfl, hnone, h⟩
          exact ⟨⟨Ne.symm ha, hnone⟩, by simpa using h⟩
        · rintro ⟨⟨-, hnone⟩, h⟩
          have hb : a = b := by
            rcases h with ⟨h, -⟩ | ⟨_, h, -⟩ <;> exact h
          exact ⟨hb, hnone, by simpa [hb] using h⟩

/-- The name of a module is its final segment. -/
theorem kernelName_eq_iff {module name : String} :
    kernelName module = name ↔ FinalSegment module name := by
  have hname : kernelName module = name ↔
      module.toList.reverse.takeWhile (· ≠ '.') = name.toList.reverse := by
    rw [← String.toList_inj, kernelName, String.toList_ofList, List.reverse_eq_iff]
  have hwhole : module.toList.reverse = name.toList.reverse ↔ module = name := by
    rw [List.reverse_inj, String.toList_inj]
  have hfront : (∃ rest, module.toList.reverse = name.toList.reverse ++ '.' :: rest) ↔
      ∃ front, module = front ++ "." ++ name := by
    constructor
    · rintro ⟨rest, h⟩
      refine ⟨String.ofList rest.reverse, String.toList_injective ?_⟩
      rw [List.reverse_eq_iff] at h
      simpa using h
    · rintro ⟨front, rfl⟩
      exact ⟨front.toList.reverse, by simp⟩
  rw [hname, takeWhile_ne_eq_iff, hwhole, hfront, List.mem_reverse, FinalSegment]

/-! ### One registration -/

variable {Fn σ : Type}

/-- A registration binds a name that is free, finds its own binding, or conflicts with that of
another module. -/
theorem Session.register_apply (module : String) (s : Session Fn σ) :
    Session.register module s = match s.provider.registry.get? (kernelName module) with
      | none => (.ok (kernelName module),
          { s with provider :=
              { s.provider with
                registry := s.provider.registry.insert (kernelName module) module } })
      | some existing =>
          if existing = module then (.ok (kernelName module), s)
          else (.error (.registrationConflict (kernelName module) existing module), s) := by
  unfold Session.register Provider.register
  cases hbound : s.provider.registry.get? (kernelName module) with
  | none => simp only [hbound]
  | some existing =>
    by_cases h : existing = module
    · simp only [hbound, if_pos h]
    · simp only [hbound, if_neg h]

/-- A name keeps its binding, or is bound to a module of this name that is registered. -/
theorem Session.get?_register (module name : String) (s : Session Fn σ) :
    (Session.register module s).2.provider.registry.get? name =
      (s.provider.registry.get? name).or
        (if kernelName module = name then some module else none) := by
  rw [Session.register_apply]
  cases hbound : s.provider.registry.get? (kernelName module) with
  | none =>
    rw [NameMap.get?_insert]
    by_cases hname : kernelName module = name
    · rw [if_pos hname.symm, if_pos hname, ← hname, hbound, Option.none_or]
    · rw [if_neg (Ne.symm hname), if_neg hname, Option.or_none]
  | some existing =>
    have hsame : (s.provider.registry.get? name).or
        (if kernelName module = name then some module else none) =
          s.provider.registry.get? name := by
      by_cases hname : kernelName module = name
      · rw [← hname, hbound, Option.some_or]
      · rw [if_neg hname, Option.or_none]
    rw [hsame]
    simp only []
    split <;> rfl

/-- A registration leaves all but the registry alone. -/
theorem Session.register_quiet (module : String) (s : Session Fn σ) :
    ∃ registry, (Session.register module s).2 =
      { s with provider := { s.provider with registry := registry } } := by
  rw [Session.register_apply]
  cases s.provider.registry.get? (kernelName module) with
  | none => exact ⟨_, rfl⟩
  | some existing =>
    refine ⟨s.provider.registry, ?_⟩
    simp only []
    split <;> rfl

/-- A registration succeeds exactly if the name is free or bound to the module. -/
theorem Session.register_eq_ok_iff (module : String) (s : Session Fn σ) :
    (Session.register module s).1 = .ok (kernelName module) ↔
      s.provider.registry.get? (kernelName module) = none ∨
        s.provider.registry.get? (kernelName module) = some module := by
  rw [Session.register_apply]
  cases s.provider.registry.get? (kernelName module) with
  | none => exact ⟨fun _ => .inl rfl, fun _ => rfl⟩
  | some existing =>
    by_cases h : existing = module
    · simp [h]
    · simp [h]

/-- A registration conflicts with a binding to another module. -/
theorem Session.register_conflict {module existing : String} {s : Session Fn σ}
    (hbound : s.provider.registry.get? (kernelName module) = some existing)
    (hother : existing ≠ module) :
    Session.register module s =
      (.error (.registrationConflict (kernelName module) existing module), s) := by
  rw [Session.register_apply, hbound]
  exact if_neg hother

/-! ### Registrations of a history -/

/-- The modules that a call is to register, in order. The second packing kernel is only registered
after the first one was. -/
def Call.registers (s : Session Fn σ) : Call σ → List String
  | .register module => [module]
  | .packing => Builtin.Packing.packModule ::
      match (Session.register Builtin.Packing.packModule s).1 with
      | .ok _ => [Builtin.Packing.unpackModule]
      | .error _ => []
  | _ => []

/-- The first of some modules that has a name. -/
def firstNamed (name : String) (modules : List String) : Option String :=
  modules.find? (kernelName · = name)

/-- A name goes to the earlier modules before the later ones. -/
theorem firstNamed_append (name : String) (modules more : List String) :
    firstNamed name (modules ++ more) = (firstNamed name modules).or (firstNamed name more) :=
  List.find?_append

/-- One module has one name. -/
theorem firstNamed_singleton (name module : String) :
    firstNamed name [module] = if kernelName module = name then some module else none := by
  by_cases h : kernelName module = name <;> simp [firstNamed, h]

/-- A name without modules is that of none of them. -/
theorem firstNamed_eq_none {name : String} {modules : List String} :
    firstNamed name modules = none ↔ ∀ module ∈ modules, ¬FinalSegment module name := by
  simp only [firstNamed, List.find?_eq_none, decide_eq_true_eq, kernelName_eq_iff]

/-- A name goes to the first module that ends in it. -/
theorem firstNamed_eq_some {name module : String} {modules : List String} :
    firstNamed name modules = some module ↔ FinalSegment module name ∧
      ∃ earlier later, modules = earlier ++ module :: later ∧
        ∀ other ∈ earlier, ¬FinalSegment other name := by
  simp only [firstNamed, List.find?_eq_some_iff_append, Bool.not_eq_true', decide_eq_true_eq,
    decide_eq_false_iff_not, kernelName_eq_iff]

/-- Both packing kernels are registered, or the first one conflicts. -/
theorem Session.get?_packing (name : String) (s : Session Fn σ) :
    (Packing.create s).2.provider.registry.get? name =
      (s.provider.registry.get? name).or (firstNamed name (Call.packing.registers s)) := by
  have hpack := get?_register Builtin.Packing.packModule name s
  rw [← firstNamed_singleton] at hpack
  unfold Packing.create
  cases hfirst : register Builtin.Packing.packModule s with
  | mk result s₁ =>
    rw [hfirst] at hpack
    cases result with
    | error error =>
      rw [bind_of_error hfirst, hpack, Call.registers, hfirst]
    | ok pack =>
      have hunpack := get?_register Builtin.Packing.unpackModule name s₁
      rw [← firstNamed_singleton, hpack, Option.or_assoc, ← firstNamed_append] at hunpack
      rw [bind_of_ok hfirst, Call.registers, hfirst, ← List.singleton_append, ← hunpack]
      cases hsecond : register Builtin.Packing.unpackModule s₁ with
      | mk result s₂ =>
        cases result with
        | error error => rw [bind_of_error hsecond]
        | ok unpack => rw [bind_of_ok hsecond]; rfl

namespace History

variable {backend : Backend Fn σ} {h : History Fn σ}

/-- A call binds the names of the modules that it registers, unless they are bound. -/
theorem get?_call (hk : h.Kept (fun _ => True) fun _ _ => True) (name : String) (c : Call σ) :
    (h.call backend c).session.provider.registry.get? name =
      (h.session.provider.registry.get? name).or (firstNamed name (c.registers h.session)) := by
  have hquiet (hregister : ∀ module, c ≠ .register module) (hpacking : c ≠ .packing) :
      (h.call backend c).session.provider.registry = h.session.provider.registry := by
    have hkept : h.Kept (fun s => s.provider.registry = h.session.provider.registry)
      fun _ _ => True := ⟨rfl, hk.2⟩
    have hserves := backend.serves_registry (· = h.session.provider.registry)
    exact (hkept.serve hserves c hregister hpacking fun _ _ _ h => h).1
  cases c with
  | register module =>
    rw [Call.registers, firstNamed_singleton, ← Session.get?_register]
    rfl
  | packing => exact Session.get?_packing name h.session
  | _ =>
    rw [hquiet nofun nofun]
    exact (Option.or_none).symm

variable (backend) in
/-- The modules that a number of calls is to register, in order. -/
def registrations (h : History Fn σ) : List (Call σ) → List String
  | [] => []
  | c :: rest => c.registers h.session ++ registrations (h.call backend c) rest

/-- Calls bind a name only if it has no module, and then to the first that they register. -/
theorem get?_calls (hk : h.Kept (fun _ => True) fun _ _ => True) (name : String)
    (calls : List (Call σ)) :
    (calls.foldl (call backend) h).session.provider.registry.get? name =
      (h.session.provider.registry.get? name).or
        (firstNamed name (h.registrations backend calls)) := by
  induction calls generalizing h with
  | nil => exact (Option.or_none).symm
  | cons c rest ih =>
    have hnext := hk.call backend.preserves_anything c fun _ _ _ h => h
    rw [List.foldl_cons, ih hnext, get?_call hk, registrations, firstNamed_append, Option.or_assoc]

/-- After any calls, the registry has the first of the modules for each name. -/
theorem get?_after (world : World σ) (name : String) (calls : List (Call σ)) :
    (after backend world calls).session.provider.registry.get? name =
      firstNamed name (registrations backend (start world) calls) := by
  have hstart : (start world : History Fn σ).Kept (fun _ => True) fun _ _ => True :=
    ⟨trivial, fun _ hkernel => absurd hkernel List.not_mem_nil⟩
  exact (get?_calls hstart name calls).trans (Option.none_or ..)

end History

/-- How names are bound after some modules were to be registered: to the first module of the
name, if there is one. What a further registration does, and what becomes of a kernel without a
binding. -/
structure Backend.BindsFirst (backend : Backend Fn σ) (modules : List String) (s : Session Fn σ) :
    Prop where
  unbound_iff : ∀ name, s.provider.registry.get? name = none ↔
    ∀ module ∈ modules, ¬FinalSegment module name
  bound_iff : ∀ name module, s.provider.registry.get? name = some module ↔
    FinalSegment module name ∧ ∃ earlier later, modules = earlier ++ module :: later ∧
      ∀ other ∈ earlier, ¬FinalSegment other name
  registers_iff : ∀ module, (Session.register module s).1 = .ok (kernelName module) ↔
    s.provider.registry.get? (kernelName module) = none ∨
      s.provider.registry.get? (kernelName module) = some module
  registers_quietly : ∀ module, ∃ registry, (Session.register module s).2 =
    { s with provider := { s.provider with registry := registry } }
  conflicts : ∀ module existing,
    s.provider.registry.get? (kernelName module) = some existing → existing ≠ module →
      Session.register module s =
        (.error (.registrationConflict (kernelName module) existing module), s)
  unknown : ∀ name params dims operands, s.provider.registry.get? name = none →
    backend.kernel name params dims operands s = (.error (.unknownKernel name), s)

/-- Whatever is called, a name is bound to the first module that ends with it and was to be
registered, and no later call changes this; a registration that would do so conflicts and changes
nothing, and a kernel of a name without a module is unknown, without any work for the backend. -/
theorem History.bindings_immutable (backend : Backend Fn σ) (world : World σ)
    (calls more : List (Call σ)) :
    backend.BindsFirst (registrations backend (start world) calls)
        (after backend world calls).session ∧
      ∀ name module, (after backend world calls).session.Registered name module →
        (after backend world (calls ++ more)).session.Registered name module := by
  refine ⟨?_, fun name module h => registered_append h more⟩
  exact {
    unbound_iff := fun name => by rw [get?_after, firstNamed_eq_none]
    bound_iff := fun name module => by rw [get?_after, firstNamed_eq_some]
    registers_iff := fun module => Session.register_eq_ok_iff module _
    registers_quietly := fun module => Session.register_quiet module _
    conflicts := fun _ _ => Session.register_conflict
    unknown := fun name params dims operands h => by rw [Backend.kernel_apply, h] }

end KernelForge
