import KernelForge.Kernel.Recording
import KernelForge.Proofs.Elementwise.Requests
import KernelForge.Proofs.Provider.Freezing
import KernelForge.Proofs.Provider.Lasting
import KernelForge.Proofs.Provider.Rotation

/-!
# Kernels follow the active member

A kernel that was given for operands with banks launches, at any later moment, what a kernel launches
that is asked for at this moment, with the active members in the place of the banks. The function is
the same because a provider remembers it, and the values are the same because a bank resolves to its
active member.
-/

namespace KernelForge

open Builtin

variable {Fn σ : Type}

/-- A result of which a part is renamed. -/
theorem ok_of_map {ε A B : Type} {outcome : Except ε A} {f : A → B} {b : B}
    (h : outcome.map f = .ok b) : ∃ a, outcome = .ok a ∧ f a = b := by
  cases outcome with
  | error error => cases h
  | ok a => exact ⟨a, rfl, Except.ok.inj h⟩

/-! ### Requests -/

/-- A request for a kernel whose operands may be banks. -/
inductive Request where
  | kernel (name : String) (params : Params) (dims : List UInt64) (operands : Operands)
  | combination (result : Operand) (terms : List Operand)
  | copy (target source : Operand)

namespace Request

/-- The request as a call on a provider. -/
def call : Request → Call σ
  | kernel name params dims operands => .kernel name params dims operands
  | combination result terms => .combination result terms
  | copy target source => .copy target source

/-- The work that gives the kernel. -/
def work (backend : Backend Fn σ) : Request → SessionM Fn σ (Obtained Fn)
  | kernel name params dims operands => return .bound (← backend.kernel name params dims operands)
  | combination result terms => return .combination (← backend.combination result terms)
  | copy target source => return .bound (← backend.copy target source)

/-- What the function of the kernel is remembered under. -/
def key (registry : NameMap String) : Request → Except KernelError RenderKey
  | kernel name params _ _ =>
      match registry.get? name with
      | none => .error (.unknownKernel name)
      | some module => .ok ⟨name, module, params⟩
  | combination result terms =>
      (Backend.combinationLayout result terms).map fun layout =>
        ⟨Combination.kernelName, Combination.module,
          Elementwise.params (Elementwise.countParams terms.length) layout.elementType⟩
  | copy target source =>
      (Backend.copyLayout target source).map fun layout =>
        ⟨Copy.kernelName, Copy.module, Elementwise.params .empty layout.elementType⟩

/-- The kernel that is made of a function with its contract. -/
def bind (result : Fn × Contract) : Request → Except KernelError (Obtained Fn)
  | kernel _ _ dims operands => (Backend.bind result.1 result.2 dims operands).map .bound
  | combination target terms =>
      (Backend.combinationLayout target terms).map fun layout => .combination
        ⟨result.1, result.2, layout.elements, layout.elementType, target, terms⟩
  | copy target source =>
      match Backend.copyLayout target source with
      | .error error => .error error
      | .ok layout =>
          (Backend.bind result.1 result.2 [layout.elements]
            (.ofList [("dst", target), ("src", source)])).map .bound

/-- The call gives the kernel to somebody. -/
theorem session_call (request : Request) (backend : Backend Fn σ) (history : History Fn σ) :
    (history.call backend request.call).session = (request.work backend history.session).2 := by
  have hobtain {A : Type} (wrap : A → Obtained Fn) (given : SessionM Fn σ A) :
      (history.obtain wrap given).session =
        ((do return wrap (← given) : SessionM Fn σ (Obtained Fn)) history.session).2 := by
    rw [bind_apply, History.obtain]
    rcases given history.session with ⟨error | a, s'⟩ <;> rfl
  cases request with
  | kernel name params dims operands => exact hobtain _ _
  | combination result terms => exact hobtain _ _
  | copy target source => exact hobtain _ _

/-- A kernel is given by asking for its function and binding it. -/
theorem work_apply (request : Request) (backend : Backend Fn σ) (s : Session Fn σ) :
    request.work backend s = match request.key s.provider.registry with
      | .error error => (.error error, s)
      | .ok key =>
          match backend.function key.name key.module key.params s with
          | (.error error, s') => (.error error, s')
          | (.ok result, s') => (request.bind result, s') := by
  cases request with
  | kernel name params dims operands =>
    simp only [work, key]
    rw [bind_apply, Backend.kernel_apply]
    cases s.provider.registry.get? name with
    | none => rfl
    | some module =>
      simp only [bind_apply]
      rcases backend.function name module params s with ⟨error | result, s'⟩
      · rfl
      · simp only [bind, Session.ofExcept]
        cases Backend.bind result.1 result.2 dims operands <;> rfl
  | combination target terms =>
    simp only [work, key, Backend.combination]
    rw [bind_apply, bind_apply]
    simp only [Session.ofExcept, bind]
    cases Backend.combinationLayout target terms with
    | error error => rfl
    | ok layout =>
      simp only [bind_apply, Except.map, Elementwise.params, Elementwise.countParams]
      generalize backend.function Combination.kernelName Combination.module _ s = given
      rcases given with ⟨error | result, s'⟩ <;> rfl
  | copy target source =>
    simp only [work, key, Backend.copy]
    rw [bind_apply, bind_apply]
    simp only [Session.ofExcept, bind]
    cases Backend.copyLayout target source with
    | error error => rfl
    | ok layout =>
      simp only [bind_apply, Except.map, Elementwise.params]
      generalize backend.function Copy.kernelName Copy.module _ s = given
      rcases given with ⟨error | result, s'⟩
      · rfl
      · simp only []
        cases Backend.bind result.1 result.2 [layout.elements]
          (.ofList [("dst", target), ("src", source)]) <;> rfl

/-! ### Asking again -/

/-- The key of a request stays, once it has one. -/
theorem preserves_key (request : Request) (backend : Backend Fn σ) (key : RenderKey) :
    backend.Preserves (fun s => request.key s.provider.registry = .ok key) fun _ _ => True := by
  have hserves := backend.serves_registry fun registry => request.key registry = .ok key
  refine ⟨fun module => ?_, hserves.function, hserves.launch⟩
  cases request with
  | combination result terms => exact Session.keeps_register fun _ _ h => h
  | copy target source => exact Session.keeps_register fun _ _ h => h
  | kernel name params dims operands =>
    intro s hs
    refine ⟨?_, fun _ _ => trivial⟩
    simp only [Request.key] at hs ⊢
    cases hbound : s.provider.registry.get? name with
    | none =>
      rw [hbound] at hs
      cases hs
    | some bound =>
      have hlater : (Session.register module s).2.provider.registry.get? name = some bound :=
        (Session.Registered.keeps_register name bound module s hbound).1
      rw [hbound] at hs
      rw [hlater]
      exact hs

/-- The key and the function of a request that a session has. -/
structure Answered (request : Request) (key : RenderKey) (result : Fn × Contract)
    (s : Session Fn σ) : Prop where
  key_eq : request.key s.provider.registry = .ok key
  has : s.Has key result

variable {request : Request} {backend : Backend Fn σ} {s s' : Session Fn σ}

/-- A kernel that is given is made of a function, which the session has from then on. -/
theorem answered_of_work {kernel : Obtained Fn} (h : request.work backend s = (.ok kernel, s')) :
    ∃ key result, request.Answered key result s' ∧ request.bind result = .ok kernel := by
  rw [work_apply] at h
  split at h
  · cases h
  · next key hkey =>
    split at h
    · cases h
    · next result s₁ hfunction =>
      obtain ⟨hbind, rfl⟩ := Prod.mk.inj h
      refine ⟨key, result, ⟨?_, Session.has_of_function hfunction⟩, hbind⟩
      have hkept := ((backend.serves_registry fun registry =>
        request.key registry = .ok key).function key.name key.module key.params s hkey).1
      rwa [hfunction] at hkept

/-- A session that has the function of a request makes the kernel of it. -/
theorem Answered.work {key : RenderKey} {result : Fn × Contract}
    (h : request.Answered key result s) : (request.work backend s).1 = request.bind result := by
  have hfunction := h.has.function backend
  rw [work_apply, h.key_eq]
  simp only []
  rcases hresult : backend.function key.name key.module key.params s with ⟨error | given, s'⟩
  · rw [hresult] at hfunction
    cases hfunction
  · rw [hresult] at hfunction
    cases hfunction
    rfl

/-! ### Asking for the active members -/

/-- A bank is an operand of a request. -/
def Uses (b : Bank) : Request → Prop
  | kernel _ _ _ operands => ∃ name, operands.get? name = some (.bank b)
  | combination result terms => .bank b ∈ result :: terms
  | copy target source => .bank b ∈ [target, source]

/-- All banks of a request have members of one layout. -/
def Uniform (request : Request) : Prop := ∀ b, request.Uses b → b.Uniform

/-- The request with the active members in the place of the banks. -/
def frozen (store : Store) : Request → Request
  | kernel name params dims operands => kernel name params dims (operands.map (·.frozen store))
  | combination result terms =>
      combination (result.frozen store) (terms.map (·.frozen store))
  | copy target source => copy (target.frozen store) (source.frozen store)

/-- The operands that a run of the kernel binds. -/
def operands (kernel : Obtained Fn) (args : List Scalar) : Request → Operands
  | .kernel _ _ _ operands => operands
  | .copy target source => .ofList [("dst", target), ("src", source)]
  | .combination _ _ =>
      match kernel, args with
      | .combination kernel, weight :: weights => kernel.operands weight weights
      | _, _ => .empty

/-- The operands of a kernel that is asked for have members of one layout. -/
theorem uniform_kernel {name : String} {params : Params} {dims : List UInt64}
    {operands : Operands} (h : (kernel name params dims operands).Uniform) : operands.Uniform :=
  fun name _ hoperand b hb => h b ⟨name, hb ▸ hoperand⟩

/-- So have those of a combination. -/
theorem uniform_combination {result : Operand} {terms : List Operand}
    (h : (combination result terms).Uniform) : ∀ operand ∈ result :: terms, operand.Uniform := by
  rintro operand hoperand b rfl
  exact h b hoperand

/-- So have those of a copy. -/
theorem uniform_copy {target source : Operand} (h : (copy target source).Uniform) :
    ∀ operand ∈ [target, source], operand.Uniform := by
  rintro operand hoperand b rfl
  exact h b hoperand

/-- The function that is asked for does not depend on which members are active. -/
theorem key_frozen (h : request.Uniform) (store : Store) (registry : NameMap String) :
    (request.frozen store).key registry = request.key registry := by
  cases request with
  | kernel name params dims operands => rfl
  | combination result terms =>
    have hlayout : Backend.combinationLayout (result.frozen store) (terms.map (·.frozen store)) =
        Backend.combinationLayout result terms :=
      Backend.combinationLayout_frozen (uniform_combination h _ List.mem_cons_self)
        fun term hterm => uniform_combination h _ (List.mem_cons_of_mem _ hterm)
    simp only [frozen, key, hlayout, List.length_map]
  | copy target source =>
    have hlayout : Backend.copyLayout (target.frozen store) (source.frozen store) =
        Backend.copyLayout target source :=
      Backend.copyLayout_frozen (uniform_copy h _ List.mem_cons_self)
        (uniform_copy h _ (List.mem_cons_of_mem _ List.mem_cons_self))
    simp only [frozen, key, hlayout]

end Request

/-- An argument list that there is for banks is there for the active members, with the same values. -/
theorem BoundArgument.list_frozen {operands frozen : Operands} {store : Store} (h : operands.Uniform)
    (hfrozen : operands.FrozenTo store frozen) {dims : List UInt64} {contract : Contract}
    {args : List BoundArgument} (hlist : list dims contract operands = .ok args) :
    ∃ args', list dims contract frozen = .ok args' ∧
      args'.map (·.resolve store) = args.map (·.resolve store) := by
  have hvalues := values_list h hfrozen dims contract
  rw [hlist, values_ok] at hvalues
  cases hfresh : list dims contract frozen with
  | error error =>
    rw [hfresh] at hvalues
    cases hvalues
  | ok args' =>
    rw [hfresh] at hvalues
    exact ⟨args', rfl, Option.some.inj hvalues⟩

/-- A function is bound to the active members if it is bound to the banks, with the same values. -/
theorem Backend.bind_frozen {operands frozen : Operands} {store : Store} (h : operands.Uniform)
    (hfrozen : operands.FrozenTo store frozen) {function : Fn} {contract : Contract}
    {dims : List UInt64} {kernel : BoundKernel Fn}
    (hbind : bind function contract dims operands = .ok kernel) :
    ∃ fresh, bind function contract dims frozen = .ok fresh ∧
      ∀ args, fresh.launch args store = kernel.launch args store := by
  obtain ⟨rfl, rfl, hlist⟩ := bind_eq_ok hbind
  obtain ⟨args, hfresh, hargs⟩ := BoundArgument.list_frozen h hfrozen hlist
  have hpositive : kernel.dims.all (0 < ·) = true := by
    simp only [bind, hlist, BoundKernel.create, Bind.bind, Except.bind] at hbind
    split at hbind
    · assumption
    · cases hbind
  refine ⟨⟨kernel.dims, kernel.function, args⟩, ?_, fun _ => ?_⟩
  · simp only [bind, hfresh, BoundKernel.create, Bind.bind, Except.bind]
    exact if_pos hpositive
  · rw [BoundKernel.launch, BoundKernel.launch, hargs]

/-- A combination of the active members launches what the combination of the banks does. -/
theorem CombinationKernel.launch_frozen (kernel : CombinationKernel Fn) {store : Store}
    (h : ∀ operand ∈ kernel.result :: kernel.terms, operand.Uniform) (args : List Scalar) :
    (launch { kernel with
        result := kernel.result.frozen store
        terms := kernel.terms.map (·.frozen store) } args store).toOption =
      (kernel.launch args store).toOption := by
  cases args with
  | nil => rfl
  | cons weight weights =>
    have huniform : (kernel.operands weight weights).Uniform := by
      rintro name operand hoperand b rfl
      rcases mem_of_get?_operands hoperand with hmem | ⟨s, hs⟩
      · exact h _ hmem b rfl
      · cases hs
    have hvalues := BoundArgument.values_list huniform
      (kernel.frozenTo_operands store weight weights) [kernel.count] kernel.contract
    simp only [launch, List.length_map]
    split
    · revert hvalues
      generalize BoundArgument.list [kernel.count] kernel.contract
        (kernel.operands weight weights) = bound
      generalize BoundArgument.list [kernel.count] kernel.contract (operands _ _ _) = frozen
      intro hvalues
      rcases frozen with error | frozen <;> rcases bound with error' | bound
      · rfl
      · cases hvalues
      · cases hvalues
      · have hsame : frozen.map (·.resolve store) = bound.map (·.resolve store) :=
          Option.some.inj hvalues
        simp only [hsame]
    · rfl

namespace Request

variable {request : Request}

/-- Both operands of a copy are frozen. -/
theorem frozenTo_copy (target source : Operand) (store : Store) :
    Operands.FrozenTo (.ofList [("dst", target), ("src", source)]) store
      (.ofList [("dst", target.frozen store), ("src", source.frozen store)]) :=
  (Operands.FrozenTo.empty.insert "dst" target).insert "src" source

/-- What is found among the operands of a copy. -/
theorem mem_of_get?_copy {target source operand : Operand} {name : String}
    (h : (NameMap.ofList [("dst", target), ("src", source)]).get? name = some operand) :
    operand ∈ [target, source] := by
  simp only [NameMap.ofList, List.foldl_cons, List.foldl_nil, NameMap.get?_insert,
    NameMap.get?_empty] at h
  split at h
  · cases h
    exact List.mem_cons_of_mem _ List.mem_cons_self
  · split at h
    · cases h
      exact List.mem_cons_self
    · cases h

/-- A kernel that is made of a function is made of it for the active members too, and launches the same
then. -/
theorem bind_frozen (h : request.Uniform) (store : Store) {result : Fn × Contract}
    {kernel : Obtained Fn} (hbind : request.bind result = .ok kernel) :
    ∃ fresh, (request.frozen store).bind result = .ok fresh ∧
      ∀ args, (fresh.launch args store).toOption = (kernel.launch args store).toOption := by
  cases request with
  | kernel name params dims operands =>
    obtain ⟨bound, hbound, rfl⟩ := ok_of_map hbind
    obtain ⟨fresh, hfresh, hlaunch⟩ := Backend.bind_frozen (uniform_kernel h)
      (fun name => operands.get?_map (·.frozen store) name) hbound
    exact ⟨.bound fresh, congrArg (Except.map _) hfresh,
      fun args => congrArg Except.toOption (hlaunch args)⟩
  | combination target terms =>
    have huniform := uniform_combination h
    have hlayout : Backend.combinationLayout (target.frozen store) (terms.map (·.frozen store)) =
        Backend.combinationLayout target terms :=
      Backend.combinationLayout_frozen (huniform _ List.mem_cons_self)
        fun term hterm => huniform _ (List.mem_cons_of_mem _ hterm)
    obtain ⟨layout, hfound, rfl⟩ := ok_of_map hbind
    refine ⟨_, by rw [frozen, bind, hlayout, hfound]; rfl, fun args => ?_⟩
    exact CombinationKernel.launch_frozen
      ⟨result.1, result.2, layout.elements, layout.elementType, target, terms⟩ huniform args
  | copy target source =>
    have huniform := uniform_copy h
    have hlayout : Backend.copyLayout (target.frozen store) (source.frozen store) =
        Backend.copyLayout target source :=
      Backend.copyLayout_frozen (huniform _ List.mem_cons_self)
        (huniform _ (List.mem_cons_of_mem _ List.mem_cons_self))
    simp only [bind] at hbind
    split at hbind
    · cases hbind
    · next layout hfound =>
      obtain ⟨bound, hbound, rfl⟩ := ok_of_map hbind
      have hoperands : Operands.Uniform (.ofList [("dst", target), ("src", source)]) :=
        fun _ operand hoperand => huniform operand (mem_of_get?_copy hoperand)
      obtain ⟨fresh, hfresh, hlaunch⟩ :=
        Backend.bind_frozen hoperands (frozenTo_copy target source store) hbound
      refine ⟨.bound fresh, ?_, fun args => congrArg Except.toOption (hlaunch args)⟩
      simp only [frozen, bind, hlayout, hfound, hfresh]
      rfl

/-- What a kernel launches: its function over the dimensions, and what is passed for one declared
argument after the other. -/
theorem launch_pieces {result : Fn × Contract} {kernel : Obtained Fn}
    (hbind : request.bind result = .ok kernel) {args : List Scalar} {store : Store}
    {launch : Launch Fn} (hlaunch : kernel.launch args store = .ok launch) :
    launch.function = result.1 ∧ ∃ pieces,
      launch.values = launch.dims.map .ofCount ++ pieces.flatten ∧
      List.Forall₂ ((request.operands kernel args).Passes store) result.2.declared pieces := by
  have hbound {operands : Operands} {dims : List UInt64} {bound : BoundKernel Fn}
      (hbound : Backend.bind result.1 result.2 dims operands = .ok bound)
      (hlaunch : bound.launch args store = .ok launch) :
      launch.function = result.1 ∧ ∃ pieces,
        launch.values = launch.dims.map .ofCount ++ pieces.flatten ∧
        List.Forall₂ (operands.Passes store) result.2.declared pieces := by
    obtain ⟨hfunction, hdims, hlist⟩ := Backend.bind_eq_ok hbound
    unfold BoundKernel.launch at hlaunch
    split at hlaunch
    · cases hlaunch
      exact ⟨hfunction, hdims ▸ BoundArgument.values_pieces hlist store⟩
    · cases hlaunch
  cases request with
  | kernel name params dims operands =>
    obtain ⟨bound, hmade, rfl⟩ := ok_of_map hbind
    exact hbound hmade hlaunch
  | copy target source =>
    simp only [bind] at hbind
    split at hbind
    · cases hbind
    · obtain ⟨bound, hmade, rfl⟩ := ok_of_map hbind
      exact hbound hmade hlaunch
  | combination target terms =>
    obtain ⟨layout, -, rfl⟩ := ok_of_map hbind
    cases args with
    | nil => cases hlaunch
    | cons weight weights =>
      simp only [Obtained.launch, CombinationKernel.launch] at hlaunch
      split at hlaunch
      · split at hlaunch
        · cases hlaunch
        · next bound hlist =>
          cases hlaunch
          exact ⟨rfl, BoundArgument.values_pieces hlist store⟩
      · cases hlaunch

/-- The banks among the operands of a run are banks of the request. -/
theorem uses_of_operands {result : Fn × Contract} {kernel : Obtained Fn}
    (hbind : request.bind result = .ok kernel) {args : List Scalar} {name : String} {b : Bank}
    (h : (request.operands kernel args).get? name = some (.bank b)) : request.Uses b := by
  cases request with
  | kernel name' params dims operands => exact ⟨name, h⟩
  | copy target source => exact mem_of_get?_copy h
  | combination target terms =>
    obtain ⟨layout, -, rfl⟩ := ok_of_map hbind
    cases args with
    | nil => cases h
    | cons weight weights =>
      rcases CombinationKernel.mem_of_get?_operands h with h | ⟨s, hs⟩
      · exact h
      · cases hs

end Request

/-! ### Every moment -/

namespace Rotation

variable {backend : Backend Fn σ} {r : Rotation Fn σ} {request : Request} {kernel : Obtained Fn}

/-- What is passed for a declared argument that is bound to a bank: the address of the member with the
index that was last made active for the bank. -/
def Passes (r : Rotation Fn σ) (last : Nat → Option Nat) (operands : Operands)
    (declared : String × List SlotType) (piece : List SlotValue) : Prop :=
  piece.length = declared.2.length ∧ ∀ b, operands.get? declared.1 = some (.bank b) →
    ∃ handle ∈ r.handles, ∃ index m, handle.bank = b ∧ last handle.origin = some index ∧
      b.members[index]? = some m ∧ piece.head? = some (.pointer m.address)

/-- A kernel of a request follows the banks: whoever asks again gets it again; it does what a kernel for
the active members does that is asked for now; and it passes the active members in the slots of the
banks. -/
def Follows (backend : Backend Fn σ) (r : Rotation Fn σ) (last : Nat → Option Nat)
    (request : Request) (kernel : Obtained Fn) : Prop :=
  let s := r.history.session
  (request.work backend s).1 = .ok kernel ∧
  ∃ key function contract fresh, request.key s.provider.registry = .ok key ∧
    (backend.function key.name key.module key.params s).1 = .ok (function, contract) ∧
    ((request.frozen r.store).work backend s).1 = .ok fresh ∧
    ∀ args,
      (∃ error error', kernel.run backend args s.world = (.error error, s.world) ∧
        fresh.run backend args s.world = (.error error', s.world)) ∨
      ∃ dims pieces, let values := dims.map .ofCount ++ List.flatten pieces
        kernel.run backend args s.world = backend.launch function dims values s.world ∧
        fresh.run backend args s.world = backend.launch function dims values s.world ∧
        List.Forall₂ (r.Passes last (request.operands kernel args)) contract.declared pieces

/-- A kernel that was given for banks follows them as long as the provider has its function. -/
theorem follows_of_answered {last : Nat → Option Nat} (h : r.Coherent) (hreports : r.Reports last)
    (hbanks : ∀ b, request.Uses b → ∃ handle ∈ r.handles, handle.bank = b) {key : RenderKey}
    {result : Fn × Contract} (hanswered : request.Answered key result r.history.session)
    (hbind : request.bind result = .ok kernel) : r.Follows backend last request kernel := by
  have huniform : request.Uniform := by
    intro b hb
    obtain ⟨handle, hmem, rfl⟩ := hbanks b hb
    exact h.uniform handle hmem
  obtain ⟨fresh, hfresh, hlaunches⟩ := Request.bind_frozen huniform r.store hbind
  have hfrozen : (request.frozen r.store).Answered key result r.history.session :=
    ⟨(Request.key_frozen huniform r.store _).trans hanswered.key_eq, hanswered.has⟩
  refine ⟨hanswered.work.trans hbind, key, result.1, result.2, fresh, hanswered.key_eq,
    hanswered.has.function backend, hfrozen.work.trans hfresh, fun args => ?_⟩
  have hlaunch := hlaunches args
  rw [kernel.run_eq_launch, fresh.run_eq_launch]
  cases hgiven : kernel.launch args r.history.session.world.store with
  | error error =>
    rw [store, hgiven] at hlaunch
    cases hnow : fresh.launch args r.history.session.world.store with
    | error error' => exact .inl ⟨error, error', rfl, rfl⟩
    | ok launch =>
      rw [hnow] at hlaunch
      cases hlaunch
  | ok launch =>
    rw [store, hgiven] at hlaunch
    cases hnow : fresh.launch args r.history.session.world.store with
    | error error' =>
      rw [hnow] at hlaunch
      cases hlaunch
    | ok launch' =>
      rw [hnow] at hlaunch
      obtain rfl : launch' = launch := Option.some.inj hlaunch
      obtain ⟨hfunction, pieces, hvalues, hpieces⟩ := Request.launch_pieces hbind hgiven
      refine .inr ⟨launch'.dims, pieces, ?_, ?_, hpieces.imp fun declared piece hpiece => ?_⟩
      · simp only [hfunction, hvalues]
      · simp only [hfunction, hvalues]
      · refine ⟨hpiece.1, fun b hb => ?_⟩
        obtain ⟨handle, hmem, rfl⟩ := hbanks b (Request.uses_of_operands hbind hb)
        exact ⟨handle, hmem, _, _, rfl, hreports handle hmem,
          Bank.getElem?_selected (h.selected handle hmem), hpiece.2 _ hb⟩

/-- What callers see of the banks that they have: all copies of a bank report the index that was last
made active for it, which is the number of a member. An index that is not in range is refused, and
changes nothing. -/
structure Shared (backend : Backend Fn σ) (r : Rotation Fn σ) (last : Nat → Option Nat) : Prop where
  reports : ∀ handle ∈ r.handles, last handle.origin = some (handle.bank.selected r.store)
  selected_lt : ∀ handle ∈ r.handles, handle.bank.selected r.store < handle.bank.size
  copies : ∀ handle ∈ r.handles, ∀ other ∈ r.handles, handle.origin = other.origin →
    handle.bank = other.bank
  accepts_iff : ∀ handle ∈ r.handles, ∀ index,
    (handle.bank.select index r.store).isOk ↔ index.toNat < handle.bank.size
  refused : ∀ i handle index, r.handles[i]? = some handle → handle.bank.size ≤ index.toNat →
    handle.bank.select index r.store = .error (.outOfBounds index handle.bank.size) ∧
      r.turn backend (.select i index) = r

/-- Banks that are in accord are shared. -/
theorem shared_of_reports {last : Nat → Option Nat} (h : r.Coherent) (hreports : r.Reports last) :
    r.Shared backend last where
  reports := hreports
  selected_lt := h.selected
  copies := h.equal
  accepts_iff handle _ index := by
    unfold Bank.select
    split
    · next hlt => exact iff_of_true rfl hlt
    · next hge => exact iff_of_false nofun hge
  refused i handle index hhandle hge := by
    have herror : handle.bank.select index r.store =
        .error (.outOfBounds index handle.bank.size) := if_neg (Nat.not_lt.mpr hge)
    refine ⟨herror, ?_⟩
    simp only [turn, hhandle, herror]

section AnyTurns

variable (hbackend : backend.KeepsSelections) (world : World σ)

include hbackend

/-- After any turns, every bank reports through all its copies the last index that was made active for
it. -/
theorem shared_after {turns : List (Turn σ)} (hturns : ∀ t ∈ turns, t.KeepsSelections) :
    (after backend world turns).Shared backend
      fun origin => (activations backend (start world) origin turns).getLast? :=
  shared_of_reports (coherent_after hbackend world hturns) (reports_after hbackend world hturns)

/-- A kernel that was given for banks follows them, whatever comes later. -/
theorem follows_after {earlier later : List (Turn σ)} {request : Request} {kernel : Obtained Fn}
    (hturns : ∀ t ∈ earlier ++ .call request.call :: later, t.KeepsSelections)
    (hbanks : ∀ b, request.Uses b →
      ∃ handle ∈ (after backend world earlier).handles, handle.bank = b)
    (hkernel :
      (request.work backend (after backend world earlier).history.session).1 = .ok kernel) :
    (after backend world (earlier ++ .call request.call :: later)).Follows backend
      (fun origin => (activations backend (start world) origin
        (earlier ++ .call request.call :: later)).getLast?) request kernel := by
  have hcoherent := coherent_after hbackend world hturns
  have hreports := reports_after hbackend world hturns
  have hearlier : (after backend world earlier).Coherent :=
    coherent_after hbackend world fun t ht => hturns t (List.mem_append_left _ ht)
  let next := (after backend world earlier).turn backend (.call request.call)
  have hr : after backend world (earlier ++ .call request.call :: later) =
      later.foldl (turn backend) next := by
    change (earlier ++ _ :: later).foldl _ _ = _
    rw [List.foldl_append, List.foldl_cons]
    rfl
  obtain ⟨s', hs'⟩ : ∃ s', request.work backend (after backend world earlier).history.session =
      (.ok kernel, s') := ⟨_, Prod.ext hkernel rfl⟩
  have hsession : next.history.session = s' :=
    (request.session_call backend _).trans (congrArg Prod.snd hs')
  obtain ⟨key, result, hanswered, hbind⟩ := Request.answered_of_work hs'
  rw [← hsession] at hanswered
  have hkernels : next.history.Kept (fun _ => True) fun _ _ => True :=
    ((after backend world earlier).turned backend _).kept backend.preserves_anything
      (fun _ _ h => h) hearlier.kept
  have hkey := kept_turns (request.preserves_key backend key) (fun _ _ h => h) later
    ⟨hanswered.key_eq, hkernels.2⟩
  have hhas := kept_turns (backend.preserves_has key result) (fun _ _ h => h) later
    ⟨hanswered.has, hkernels.2⟩
  rw [← hr] at hkey hhas
  refine follows_of_answered hcoherent hreports (fun b hb => ?_) ⟨hkey.1, hhas.1⟩ hbind
  obtain ⟨handle, hmem, hbank⟩ := hbanks b hb
  refine ⟨handle, ?_, hbank⟩
  rw [hr]
  exact mem_handles_turns later (((after backend world earlier).turned backend _).mem hmem)

end AnyTurns

/-- After any turns, every bank reports through all its copies the last index that was made active for
it, and every kernel that was given earlier for banks follows them. -/
theorem kernels_follow_banks (hbackend : backend.KeepsSelections) (world : World σ)
    (turns : List (Turn σ)) (hturns : ∀ t ∈ turns, t.KeepsSelections) :
    let r := after backend world turns
    let last := fun origin => (activations backend (start world) origin turns).getLast?
    r.Shared backend last ∧
      ∀ earlier request later kernel, turns = earlier ++ .call (Request.call request) :: later →
        (∀ b, request.Uses b → ∃ handle ∈ (after backend world earlier).handles, handle.bank = b) →
        (request.work backend (after backend world earlier).history.session).1 = .ok kernel →
        r.Follows backend last request kernel := by
  refine ⟨shared_after hbackend world hturns, ?_⟩
  rintro earlier request later kernel rfl hbanks hkernel
  exact follows_after hbackend world hturns hbanks hkernel

/-! ### A copy of a bank that is switched -/

/-- The recording backend keeps the selections. -/
theorem keepsSelections_recording (renderer : Renderer) :
    (Recording.backend renderer).KeepsSelections where
  render name module params world := by
    change (renderer.renderIn name module params world).2.store.selections = _
    unfold Renderer.renderIn
    cases renderer.renderKernel name module params <;> rfl
  build name source slots world := by
    obtain ⟨store, refusals | refusals, builds, launches⟩ := world <;> rfl
  launch _ _ _ _ := rfl

/-- Matrices of one row of two elements. -/
def switchedMatrix (index : Nat) (address : UInt64) : Matrix :=
  ⟨⟨index, address, 16⟩, ⟨.float64, 1, 2, 2, 2, .dense, by decide, by decide⟩⟩

/-- A bank of two of them. -/
def switchedBank : Bank := ⟨switchedMatrix 0 0x55813e400000, [switchedMatrix 1 0x55813e400010], 0⟩

/-- A copy of the active member to a third matrix. -/
def switchedCopy : Request :=
  .copy (.matrix (switchedMatrix 2 0x55813e400020)) (.bank switchedBank)

/-- Nothing was asked of the backend. -/
def switchedWorld : World Recording := ⟨.empty, .empty 0⟩

/-- The bank is made. -/
def switchedBefore : List (Turn Recording) := [.create switchedBank.members 0]

/-- A copy of the bank selects the other member; an index that is not in range is refused. -/
def switchedAfter : List (Turn Recording) := [.clone 0, .select 1 1, .select 0 2]

/-- The renderer for the host. -/
def switchedRenderer : Renderer := .ofTarget .host .double .builtin

/-- The kernel that was got before the switch follows the bank, of which the second member was the last
to be made active. -/
theorem switchedCopy_follows : ∃ kernel : Obtained RecordedFunction,
    (switchedCopy.work (Recording.backend switchedRenderer)
      (after (Recording.backend switchedRenderer) switchedWorld
        switchedBefore).history.session).1 = .ok kernel ∧
    ∃ last : Nat → Option Nat, last 0 = some 1 ∧
      (after (Recording.backend switchedRenderer) switchedWorld
        (switchedBefore ++ .call switchedCopy.call :: switchedAfter)).Follows
          (Recording.backend switchedRenderer) last switchedCopy kernel := by
  cases hkernel : (switchedCopy.work (Recording.backend switchedRenderer)
      (after (Recording.backend switchedRenderer) switchedWorld
        switchedBefore).history.session).1 with
  | error error =>
    have hgiven : (switchedCopy.work (Recording.backend switchedRenderer)
        (after (Recording.backend switchedRenderer) switchedWorld
          switchedBefore).history.session).1.isOk = true := by decide +kernel
    rw [hkernel] at hgiven
    cases hgiven
  | ok kernel =>
    have hturns : ∀ t ∈ switchedBefore ++ .call switchedCopy.call :: switchedAfter,
        t.KeepsSelections := by
      intro t ht f hf
      subst hf
      simp [switchedBefore, switchedAfter, switchedCopy, Request.call] at ht
    refine ⟨kernel, rfl, _, ?_, (kernels_follow_banks (keepsSelections_recording _) switchedWorld _
      hturns).2 switchedBefore switchedCopy switchedAfter kernel rfl ?_ hkernel⟩
    · decide +kernel
    · intro b hb
      obtain rfl : b = switchedBank := by simpa [switchedCopy, Request.Uses] using hb
      exact ⟨⟨switchedBank, 0⟩, List.mem_singleton.mpr rfl, rfl⟩

end Rotation

end KernelForge
