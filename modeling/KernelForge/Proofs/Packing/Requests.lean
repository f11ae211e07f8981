import KernelForge.Proofs.Packing.Running
import KernelForge.Proofs.Provider.Registered
import KernelForge.Proofs.Provider.Rendering

/-!
# Packing kernels that are given

The names of the two packing kernels are bound to their modules for good. A packing kernel that is
given for a view was therefore built from the loops over the blocks of that view, and every run
launches its function over the blocks with the buffers of the view and the exchange matrix.
-/

namespace KernelForge

open Code

variable {Fn σ : Type}

/-! ### Rendering -/

namespace Packing

/-- The sizes of a block and the type are parameters of the request. -/
theorem get?_params (view : View) :
    (params view).get? Builtin.Packing.columnsParam = some (.ofCount view.columns) ∧
      (params view).get? Builtin.Packing.rowsParam = some (.ofCount view.rows) ∧
      (params view).get? Params.floatTypeName = some (.elementType view.elementType) := by
  simp only [params, NameMap.ofList, List.foldl_cons, List.foldl_nil, NameMap.get?_insert]
  exact ⟨rfl, rfl, rfl⟩

/-- The draft that a packing module leaves: its one kernel after the beginning of the module. -/
theorem run_template {generator : Generator} {setting : Setting} {name : String}
    {view exchange : Intent} {body : Nat → Nat → List Stmt} {v : View} {draft : Draft}
    (h : ((Builtin.Packing.template name view exchange body).script setting (params v)).run generator
      (.start generator setting.floatType) = .ok draft) :
    let args := Builtin.Packing.arguments setting.floatType view exchange
    draft = ⟨generator.prelude setting.floatType ++ Draft.piece (generator.kernel name 1 args
        (bodyText [] (body v.rows.toNat v.columns.toNat))),
      NameMap.empty.insert name (.ofArguments 1 args)⟩ := by
  obtain ⟨hcolumns, hrows, -⟩ := get?_params v
  simp only [Builtin.Packing.template, Script.withValue] at h
  split at h
  · next columns hcount =>
    split at h
    · next rows hcount' =>
      rw [Params.count_of_ofCount hcolumns hcount, Params.count_of_ofCount hrows hcount'] at h
      cases h
      rfl
    · cases h
  · cases h

/-- A packing module is rendered to the loops over the blocks of a view, for a floating-point
type. -/
theorem renderKernel_eq_ok {renderer : Renderer} {module name : String} {view exchange : Intent}
    {body : Nat → Nat → List Stmt} {v : View} {rendered : RenderedKernel}
    (htemplate : renderer.templates.get? module =
      some (Builtin.Packing.template name view exchange body))
    (h : renderer.renderKernel name module (params v) = .ok rendered) :
    v.elementType.isFloat = true ∧
      rendered.source = renderer.kernelText v.elementType name
        (Builtin.Packing.arguments v.elementType view exchange)
        (bodyText [] (body v.rows.toNat v.columns.toNat)) ∧
      rendered.contract =
        .ofArguments 1 (Builtin.Packing.arguments v.elementType view exchange) := by
  obtain ⟨hfloat, draft, hrun, hsource, hcontract⟩ :=
    renderer.renderKernel_eq_ok htemplate (get?_params v).2.2 h
  obtain rfl := run_template hrun
  refine ⟨hfloat, hsource, ?_⟩
  rw [NameMap.get?_insert, if_pos rfl] at hcontract
  exact (Option.some.inj hcontract).symm

/-! ### Argument lists -/

/-- The view and its exchange matrix are its operands. -/
theorem get?_operands (v : ExchangeView) :
    (NameMap.ofList [("v", Operand.exchangeView v), ("m", .matrix v.exchange)]).get? "v" =
        some (.exchangeView v) ∧
      (NameMap.ofList [("v", Operand.exchangeView v), ("m", .matrix v.exchange)]).get? "m" =
        some (.matrix v.exchange) := by
  simp only [NameMap.ofList, List.foldl_cons, List.foldl_nil, NameMap.get?_insert]
  exact ⟨rfl, rfl⟩

/-- What the view and its exchange matrix fill. -/
theorem ofDeclared_eq_ok {v : ExchangeView} {t : ElementType} {view exchange : Intent}
    {args : List BoundArgument}
    (h : BoundArgument.ofDeclared (.ofList [("v", .exchangeView v), ("m", .matrix v.exchange)])
      (Contract.ofArguments 1 (Builtin.Packing.arguments t view exchange)).declared = .ok args) :
    v.exchange.layout.subLeading.toNat < twoPow 31 ∧
      args = [.address v.view.mapping.address, .address v.view.strides.address,
        .address v.exchange.address,
        .value (.scalar (.int32 (Int32.ofNat v.exchange.layout.subLeading.toNat)))] := by
  have hdeclared : (Contract.ofArguments 1 (Builtin.Packing.arguments t view exchange)).declared =
      [("v", [.pointer, .pointer]), ("m", [.pointer, .scalar .int32])] := rfl
  obtain ⟨hview, hmatrix⟩ := get?_operands v
  simp only [hdeclared, BoundArgument.ofDeclared, hview, hmatrix] at h
  obtain ⟨own, hown, h⟩ := ok_of_bind h
  cases hown
  obtain ⟨rest, hrest, h⟩ := ok_of_bind h
  cases h
  obtain ⟨own, hown, hrest⟩ := ok_of_bind hrest
  obtain ⟨leading, hleading, hown⟩ := ok_of_bind hown
  cases hown
  obtain ⟨_, hnil, hrest⟩ := ok_of_bind hrest
  cases hnil
  cases hrest
  obtain ⟨hlt, rfl⟩ := BoundArgument.int32_eq_ok hleading
  exact ⟨hlt, rfl⟩

/-! ### Requests -/

/-- A packing that is made has bound the names of both kernels to their modules. -/
theorem registered_of_create {s s' : Session Fn σ} {packing : Packing}
    (h : create s = (.ok packing, s')) :
    packing = ⟨Builtin.Packing.packKernelName, Builtin.Packing.unpackKernelName⟩ ∧
      s'.Registered Builtin.Packing.packKernelName Builtin.Packing.packModule ∧
      s'.Registered Builtin.Packing.unpackKernelName Builtin.Packing.unpackModule := by
  unfold create at h
  rcases hpack : Session.register Builtin.Packing.packModule s with ⟨error | pack, middle⟩
  · rw [bind_of_error hpack] at h
    cases h
  rw [bind_of_ok hpack] at h
  rcases hunpack : Session.register Builtin.Packing.unpackModule middle with ⟨error | unpack, last⟩
  · rw [bind_of_error hunpack] at h
    cases h
  rw [bind_of_ok hunpack] at h
  cases h
  obtain ⟨rfl, hpackBound⟩ := Session.registered_of_register hpack
  obtain ⟨rfl, hunpackBound⟩ := Session.registered_of_register hunpack
  have hkept := (Session.Registered.keeps_register _ _ Builtin.Packing.unpackModule middle hpackBound).1
  rw [hunpack] at hkept
  exact ⟨rfl, hkept, hunpackBound⟩

/-- The names of both kernels stay bound to their modules after a packing was made. -/
theorem registered_after {backend : Backend Fn σ} {world : World σ} {earlier : List (Call σ)}
    {packing : Packing} (later : List (Call σ))
    (h : (create (History.after backend world earlier).session).1 = .ok packing) :
    let s := (History.after backend world (earlier ++ .packing :: later)).session
    packing = ⟨Builtin.Packing.packKernelName, Builtin.Packing.unpackKernelName⟩ ∧
      s.Registered Builtin.Packing.packKernelName Builtin.Packing.packModule ∧
      s.Registered Builtin.Packing.unpackKernelName Builtin.Packing.unpackModule := by
  rcases hcreate : create (History.after backend world earlier).session with ⟨result, s'⟩
  rw [hcreate] at h
  cases h
  obtain ⟨hnames, hpack, hunpack⟩ := registered_of_create hcreate
  have hafter : (History.after backend world (earlier ++ [.packing])).session = s' := by
    rw [History.after, List.foldl_append]
    exact congrArg Prod.snd hcreate
  rw [← hafter] at hpack hunpack
  have hsplit : earlier ++ .packing :: later = earlier ++ [.packing] ++ later := by
    rw [List.append_assoc, List.singleton_append]
  rw [hsplit]
  exact ⟨hnames, History.registered_append hpack later, History.registered_append hunpack later⟩

/-- A packing was made after some calls on a new provider, and gave a kernel for a view after some
more. -/
def Gives (backend : Backend Fn σ) (renderer : Renderer) (name : Packing → String)
    (v : ExchangeView) (kernel : BoundKernel Fn) : Prop :=
  ∃ world earlier later packing,
    (create (History.after (backend.rendering renderer) world earlier).session).1 = .ok packing ∧
      (Packing.kernel (backend.rendering renderer) (name packing) v
        (History.after (backend.rendering renderer) world (earlier ++ .packing :: later)).session).1 =
          .ok kernel

/-- A kernel of a body over the blocks of a view: its function was built from the text of the body,
and every run launches it over the blocks with the buffers of the view and the exchange matrix. -/
structure Loops (backend : Backend Fn σ) (renderer : Renderer) (v : ExchangeView) (name : String)
    (args : List Argument) (body : List Stmt) (kernel : BoundKernel Fn) : Prop where
  built : ∃ world, (backend.build name
    (renderer.kernelText v.view.elementType name args (bodyText [] body))
    (Contract.ofArguments 1 args).slotTypes world).1 = .ok kernel.function
  launch : ∀ store, (Obtained.bound kernel).launch [] store =
    .ok ⟨kernel.function, [UInt64.ofNat v.view.count], slotValues v⟩

/-- The kernel of a packing module for a view loops over the blocks of the view. -/
theorem loops_of_kernel {backend : Backend Fn σ} {renderer : Renderer} {world : World σ}
    {calls : List (Call σ)} {module name : String} {view exchange : Intent}
    {body : Nat → Nat → List Stmt} {v : ExchangeView} {kernel : BoundKernel Fn}
    (htemplate : renderer.templates.get? module =
      some (Builtin.Packing.template name view exchange body))
    (hcount : (UInt64.ofNat v.view.count).toNat = v.view.count) (hshape : v.Shaped)
    (hmodule : (History.after (backend.rendering renderer) world calls).session.Registered name
      module)
    (hkernel : (Packing.kernel (backend.rendering renderer) name v
      (History.after (backend.rendering renderer) world calls).session).1 = .ok kernel) :
    v.view.elementType.isFloat = true ∧ v.view.count < twoPow 31 ∧
      Loops backend renderer v name (Builtin.Packing.arguments v.view.elementType view exchange)
        (body v.view.rows.toNat v.view.columns.toNat) kernel := by
  obtain ⟨rendered, hrender, hbuild, hdims, hargs⟩ := History.kernel_eq_ok hmodule hkernel
  obtain ⟨hfloat, hsource, hcontract⟩ := renderKernel_eq_ok htemplate hrender
  rw [hsource, hcontract] at hbuild
  rw [hcontract] at hargs
  obtain ⟨dimArgs, filled, hdimArgs, hfilled, heq, -⟩ := BoundArgument.list_eq_ok hargs
  obtain ⟨-, rfl⟩ := ofDeclared_eq_ok hfilled
  obtain ⟨count, hcount', hdimArgs⟩ := ok_of_bind hdimArgs
  cases hdimArgs
  obtain ⟨hlt, rfl⟩ := BoundArgument.int32_eq_ok hcount'
  rw [hshape.subLeading_eq, hcount] at heq
  rw [hcount] at hlt
  refine ⟨hfloat, hlt, hbuild, fun store => ?_⟩
  rw [Obtained.launch, BoundKernel.launch, heq, hdims]
  rfl

section Gives

variable {backend : Backend Fn σ} {renderer : Renderer} {v : ExchangeView} {kernel : BoundKernel Fn}

/-- The gathering kernel of the built-in module. -/
theorem Gives.pack (h : Gives backend renderer Packing.pack v kernel)
    (htemplate : renderer.templates.get? Builtin.Packing.packModule = some Builtin.Packing.pack)
    (hcount : (UInt64.ofNat v.view.count).toNat = v.view.count) (hshape : v.Shaped) :
    v.view.elementType.isFloat = true ∧ v.view.count < twoPow 31 ∧
      Loops backend renderer v Builtin.Packing.packKernelName
        (Builtin.Packing.arguments v.view.elementType .input .output)
        (Builtin.Packing.packBody v.view.rows.toNat v.view.columns.toNat) kernel := by
  obtain ⟨world, earlier, later, packing, hcreate, hkernel⟩ := h
  obtain ⟨rfl, hpack, -⟩ := registered_after later hcreate
  exact loops_of_kernel htemplate hcount hshape hpack hkernel

/-- The scattering kernel of the built-in module. -/
theorem Gives.unpack (h : Gives backend renderer Packing.unpack v kernel)
    (htemplate : renderer.templates.get? Builtin.Packing.unpackModule =
      some Builtin.Packing.unpack)
    (hcount : (UInt64.ofNat v.view.count).toNat = v.view.count) (hshape : v.Shaped) :
    v.view.elementType.isFloat = true ∧ v.view.count < twoPow 31 ∧
      Loops backend renderer v Builtin.Packing.unpackKernelName
        (Builtin.Packing.arguments v.view.elementType .output .input)
        (Builtin.Packing.unpackBody v.view.rows.toNat v.view.columns.toNat) kernel := by
  obtain ⟨world, earlier, later, packing, hcreate, hkernel⟩ := h
  obtain ⟨rfl, -, hunpack⟩ := registered_after later hcreate
  exact loops_of_kernel htemplate hcount hshape hunpack hkernel

end Gives

end Packing

end KernelForge
