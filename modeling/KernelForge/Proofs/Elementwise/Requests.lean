import KernelForge.Proofs.Elementwise.Operands
import KernelForge.Proofs.Provider.Registered
import KernelForge.Proofs.Provider.Rendering

/-!
# Element-wise kernels that are given

Linear combinations and copies are given only for matrices and banks of one layout and a
floating-point type. Their modules are rendered for that type, whatever the precision of the renderer
is, and every run launches the function over all elements of the layout, padding included.
-/

namespace KernelForge

open Code Builtin

variable {Fn σ : Type}

/-! ### Rendering -/

namespace Elementwise

/-- The parameters of a module of element-wise kernels: the element type, and what is set besides. -/
def params (own : Params) (type : ElementType) : Params :=
  own.insert Params.floatTypeName (.elementType type)

/-- The type of an element-wise kernel is among its parameters. -/
theorem get?_floatType (own : Params) (type : ElementType) :
    (params own type).get? Params.floatTypeName = some (.elementType type) := by
  rw [params, NameMap.get?_insert, if_pos rfl]

/-- A module of one kernel over one dimension is rendered for the type that the parameters name. -/
theorem renderKernel_eq_ok {renderer : Renderer} {template : Template} {own : Params}
    {type : ElementType} {name module : String} {rendered : RenderedKernel}
    (args : ElementType → List Argument) (text : ElementType → String)
    (htemplate : renderer.templates.get? module = some template)
    (hscript : ∀ setting draft draft',
      (template.script setting (params own type)).run renderer.generator draft = .ok draft' →
        draft.kernel renderer.generator name 1 (args setting.floatType) (text setting.floatType) =
          .ok draft')
    (h : renderer.renderKernel name module (params own type) = .ok rendered) :
    type.isFloat = true ∧
      rendered.source = renderer.kernelText type name (args type) (text type) ∧
      rendered.contract = .ofArguments 1 (args type) := by
  obtain ⟨hfloat, draft, hrun, hsource, hcontract⟩ :=
    renderer.renderKernel_eq_ok htemplate (get?_floatType own type) h
  have hdraft := hscript _ _ _ hrun
  cases hdraft
  rw [NameMap.get?_insert, if_pos rfl] at hcontract
  exact ⟨hfloat, hsource, (Option.some.inj hcontract).symm⟩

/-- A script of one kernel succeeds only by declaring it. -/
theorem run_declare {generator : Generator} {name text : String} {args : List Argument}
    {draft draft' : Draft}
    (h : (Script.declare name 1 args text .done).run generator draft = .ok draft') :
    draft.kernel generator name 1 args text = .ok draft' := by
  rw [Script.declare, Script.run] at h
  split at h
  · next hdraft => exact hdraft.trans h
  · cases h

/-- The text of the body of a combination. -/
def combinationText (n : Nat) (type : ElementType) : String :=
  bodyText (moduleTypeNames type) (Combination.body type n)

/-- The number of terms is a parameter of the module of combinations. -/
def countParams (n : Nat) : Params :=
  NameMap.empty.insert Combination.countParam (.ofCount (UInt64.ofNat n))

/-- So is the number of terms of a combination. -/
theorem get?_countParam (n : Nat) (type : ElementType) :
    (params (countParams n) type).get? Combination.countParam = some (.ofCount (UInt64.ofNat n)) := by
  rw [params, NameMap.get?_insert, if_neg (by decide), countParams, NameMap.get?_insert, if_pos rfl]

/-- The template of a combination declares one kernel for the number of terms. -/
theorem run_combination {generator : Generator} {n : Nat} (hn : n < twoPow 64) {type : ElementType}
    (setting : Setting) (draft draft' : Draft)
    (h : (Combination.template.script setting (params (countParams n) type)).run generator draft =
      .ok draft') :
    draft.kernel generator Combination.kernelName 1 (Combination.arguments setting.floatType n)
      (combinationText n setting.floatType) = .ok draft' := by
  simp only [Combination.template, Script.withValue] at h
  split at h
  · next count hcount =>
    rw [Params.count_of_ofCount (get?_countParam n type) hcount, UInt64.toNat_ofNat_of_lt' hn] at h
    exact run_declare h
  · cases h

/-- The text of the body of a copy. -/
def copyText : String := bodyText [] Copy.body

end Elementwise

/-! ### Accepted operands -/

/-- An operand of which a layout is required has it. -/
theorem Operand.requireLayout_eq_ok {operand : Operand} {layout : Layout}
    (h : operand.requireLayout = .ok layout) : operand.layout? = some layout := by
  unfold requireLayout at h
  split at h
  · next hlayout =>
    cases h
    exact hlayout
  · cases h

/-- Layouts that are required to be the same are. -/
theorem Layout.requireSame_eq_ok {layout other : Layout} {name reference : String}
    (h : layout.requireSame other name reference = .ok ()) : other = layout := by
  unfold requireSame at h
  split at h
  · next heq => exact heq
  · cases h

/-- Elements that are required to be floating-point numbers are. -/
theorem Layout.requireFloat_eq_ok {layout : Layout} (h : layout.requireFloat = .ok ()) :
    layout.elementType.isFloat = true := by
  unfold requireFloat at h
  split at h
  · next hfloat => exact hfloat
  · cases h

/-- Work for every entry of a list succeeds only if it does for each of them. -/
theorem ok_of_forM {ε α : Type} {work : α → Except ε Unit} {list : List α}
    (h : list.forM work = .ok ()) : ∀ a ∈ list, work a = .ok () := by
  induction list with
  | nil => exact fun a ha => absurd ha List.not_mem_nil
  | cons first rest ih =>
    change (work first >>= fun _ => rest.forM work) = _ at h
    obtain ⟨⟨⟩, hfirst, hrest⟩ := ok_of_bind h
    intro a ha
    rcases List.mem_cons.mp ha with rfl | ha
    · exact hfirst
    · exact ih hrest a ha

namespace Backend

/-- The operands of a combination have one layout of a floating-point type. -/
theorem combinationLayout_eq_ok {result : Operand} {terms : List Operand} {layout : Layout}
    (h : combinationLayout result terms = .ok layout) :
    result.layout? = some layout ∧ (∀ term ∈ terms, term.layout? = some layout) ∧
      layout.elementType.isFloat = true := by
  obtain ⟨found, hfound, h⟩ := ok_of_bind h
  obtain ⟨⟨⟩, hterms, h⟩ := ok_of_bind h
  obtain ⟨⟨⟩, hfloat, h⟩ := ok_of_bind h
  cases h
  refine ⟨Operand.requireLayout_eq_ok hfound, fun term hterm => ?_,
    Layout.requireFloat_eq_ok hfloat⟩
  obtain ⟨i, hi⟩ := List.mem_iff_getElem?.mp hterm
  obtain ⟨other, hother, hsame⟩ :=
    ok_of_bind (ok_of_forM hterms (term, i) (List.mk_mem_zipIdx_iff_getElem?.mpr hi))
  rw [Operand.requireLayout_eq_ok hother, Layout.requireSame_eq_ok hsame]

/-- The operands of a copy have one layout of a floating-point type. -/
theorem copyLayout_eq_ok {target source : Operand} {layout : Layout}
    (h : copyLayout target source = .ok layout) :
    target.layout? = some layout ∧ source.layout? = some layout ∧
      layout.elementType.isFloat = true := by
  obtain ⟨found, hfound, h⟩ := ok_of_bind h
  obtain ⟨other, hother, h⟩ := ok_of_bind h
  obtain ⟨⟨⟩, hsame, h⟩ := ok_of_bind h
  obtain ⟨⟨⟩, hfloat, h⟩ := ok_of_bind h
  cases h
  obtain rfl := Layout.requireSame_eq_ok hsame
  exact ⟨Operand.requireLayout_eq_ok hfound, Operand.requireLayout_eq_ok hother,
    Layout.requireFloat_eq_ok hfloat⟩

end Backend

/-! ### Requests -/

namespace Elementwise

/-- A function was built from a module of one kernel over one dimension. -/
def Built (backend : Backend Fn σ) (renderer : Renderer) (type : ElementType) (name : String)
    (args : List Argument) (text : String) (function : Fn) : Prop :=
  ∃ before, (backend.build name (renderer.kernelText type name args text)
    (Contract.ofArguments 1 args).slotTypes before).1 = .ok function

section Requests

variable {backend : Backend Fn σ} {renderer : Renderer} {world : World σ} {calls : List (Call σ)}

/-- A combination that is given is one of the terms and the result, over all elements of their
layout. -/
theorem combination_eq_ok {result : Operand} {terms : List Operand} {kernel : CombinationKernel Fn}
    (htemplate : renderer.templates.get? Combination.module = some Combination.template)
    (hcount : terms.length < twoPow 64)
    (h : ((backend.rendering renderer).combination result terms
      (History.after (backend.rendering renderer) world calls).session).1 = .ok kernel) :
    ∃ layout, result.layout? = some layout ∧ (∀ term ∈ terms, term.layout? = some layout) ∧
      layout.elementType.isFloat = true ∧
      Built backend renderer layout.elementType Combination.kernelName
        (Combination.arguments layout.elementType terms.length)
        (combinationText terms.length layout.elementType) kernel.function ∧
      kernel.contract = .ofArguments 1 (Combination.arguments layout.elementType terms.length) ∧
      kernel.count = layout.elements ∧ kernel.elementType = layout.elementType ∧
      kernel.result = result ∧ kernel.terms = terms := by
  obtain ⟨layout, s', hfirst, h⟩ := ok_of_bind_fst h
  obtain ⟨hlayout, rfl⟩ := Prod.mk.inj hfirst
  obtain ⟨hresult, hterms, hfloat⟩ := Backend.combinationLayout_eq_ok hlayout
  obtain ⟨⟨function, contract⟩, s', hfunction, h⟩ := ok_of_bind_fst h
  cases h
  obtain ⟨rendered, hrender, rfl, hbuild⟩ := History.function_eq_ok (congrArg Prod.fst hfunction)
  have hrender' : renderer.renderKernel Combination.kernelName Combination.module
      (params (countParams terms.length) layout.elementType) = .ok rendered := hrender
  obtain ⟨-, hsource, hcontract⟩ := renderKernel_eq_ok
    (fun type => Combination.arguments type terms.length) (combinationText terms.length) htemplate
    (run_combination hcount) hrender'
  rw [hsource, hcontract] at hbuild
  exact ⟨layout, hresult, hterms, hfloat, hbuild, hcontract, rfl, rfl, rfl, rfl⟩

/-- The function of a copy was built from the built-in module. -/
theorem copyFunction_eq_ok {type : ElementType} {function : Fn} {contract : Contract}
    (htemplate : renderer.templates.get? Copy.module = some Copy.template)
    (h : ((backend.rendering renderer).function Copy.kernelName Copy.module
      (params NameMap.empty type)
      (History.after (backend.rendering renderer) world calls).session).1 = .ok (function, contract)) :
    Built backend renderer type Copy.kernelName (Copy.arguments type) copyText function ∧
      contract = .ofArguments 1 (Copy.arguments type) := by
  obtain ⟨rendered, hrender, rfl, hbuild⟩ := History.function_eq_ok h
  obtain ⟨-, hsource, hcontract⟩ := renderKernel_eq_ok Copy.arguments (fun _ => copyText) htemplate
    (fun _ _ _ h => run_declare h) hrender
  rw [hsource, hcontract] at hbuild
  exact ⟨hbuild, hcontract⟩

/-- A copy that is given has the addresses of both operands and the number of all elements of their
layout, which an `int` can hold. -/
theorem copy_eq_ok {target source : Operand} {kernel : BoundKernel Fn}
    (htemplate : renderer.templates.get? Copy.module = some Copy.template)
    (h : ((backend.rendering renderer).copy target source
      (History.after (backend.rendering renderer) world calls).session).1 = .ok kernel) :
    ∃ layout, target.layout? = some layout ∧ source.layout? = some layout ∧
      layout.elementType.isFloat = true ∧
      Built backend renderer layout.elementType Copy.kernelName (Copy.arguments layout.elementType)
        copyText kernel.function ∧
      layout.elements.toNat < twoPow 31 ∧
      kernel = ⟨[layout.elements], kernel.function,
        [.value (.scalar (.int32 (Int32.ofNat layout.elements.toNat))), target.pointerArgument,
          source.pointerArgument]⟩ := by
  obtain ⟨layout, s', hfirst, h⟩ := ok_of_bind_fst h
  obtain ⟨hlayout, rfl⟩ := Prod.mk.inj hfirst
  obtain ⟨htarget, hsource, hfloat⟩ := Backend.copyLayout_eq_ok hlayout
  obtain ⟨⟨function, contract⟩, s', hfunction, h⟩ := ok_of_bind_fst h
  obtain ⟨hbuilt, rfl⟩ := copyFunction_eq_ok htemplate (congrArg Prod.fst hfunction)
  obtain ⟨rfl, hdims, hargs⟩ := Backend.bind_eq_ok h
  rw [Backend.list_copy layout.elementType htarget hsource] at hargs
  split at hargs
  · next hlt =>
    refine ⟨layout, htarget, hsource, hfloat, hbuilt, hlt, ?_⟩
    obtain ⟨dims, function, args⟩ := kernel
    cases hdims
    cases hargs
    rfl
  · cases hargs

/-- A copy of more elements than an `int` can hold is refused once its function was asked for. -/
theorem copy_too_wide {target source : Operand} {layout : Layout}
    (htemplate : renderer.templates.get? Copy.module = some Copy.template)
    (hlayout : Backend.copyLayout target source = .ok layout)
    (hwide : twoPow 31 ≤ layout.elements.toNat) :
    let s := (History.after (backend.rendering renderer) world calls).session
    (backend.rendering renderer).copy target source s =
      match (backend.rendering renderer).function Copy.kernelName Copy.module
        (params NameMap.empty layout.elementType) s with
      | (.ok _, s') => (.error (.argumentMismatch (.tooWide "dimension" layout.elements)), s')
      | (.error error, s') => (.error error, s') := by
  intro s
  obtain ⟨htarget, hsource, -⟩ := Backend.copyLayout_eq_ok hlayout
  have hfirst : (Session.ofExcept (Backend.copyLayout target source) :
      SessionM Fn σ Layout) s = (.ok layout, s) := congrArg (·, s) hlayout
  unfold Backend.copy
  rw [bind_of_ok hfirst]
  change ((backend.rendering renderer).function Copy.kernelName Copy.module
    (params NameMap.empty layout.elementType) >>= _) s = _
  rw [bind_apply]
  rcases hfunction : (backend.rendering renderer).function Copy.kernelName Copy.module
    (params NameMap.empty layout.elementType) s with ⟨error | ⟨function, contract⟩, s'⟩
  · rfl
  · obtain ⟨-, rfl⟩ := copyFunction_eq_ok htemplate (congrArg Prod.fst hfunction)
    have hbind : Backend.bind function (.ofArguments 1 (Copy.arguments layout.elementType))
        [layout.elements] (.ofList [("dst", target), ("src", source)]) =
          .error (.argumentMismatch (.tooWide "dimension" layout.elements)) := by
      rw [Backend.bind, Backend.list_copy layout.elementType htarget hsource,
        if_neg (Nat.not_lt.mpr hwide)]
      rfl
    exact congrArg (·, s') hbind

end Requests

end Elementwise

end KernelForge
