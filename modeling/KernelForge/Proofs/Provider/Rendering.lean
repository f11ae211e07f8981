import KernelForge.Proofs.Provider.Runs
import KernelForge.Template.Renderer

/-!
# What a module is rendered to

A module whose parameters name the floating-point type is rendered for that type, which has to be
one, by the script of the template that the library has under the name of the module.
-/

namespace KernelForge

/-! ### Parameters -/

namespace Params

variable {params : Params}

/-- A count that a parameter holds. -/
theorem count_of_lt {name : String} {n : UInt64} (hparam : params.get? name = some (.ofCount n))
    (hn : n.toNat < twoPow 63) : params.count name = .ok n.toNat := by
  have hint : params.int name = .ok n.toInt64 := by
    rw [int, require, hparam]
    rfl
  have hvalue : n.toInt64.toInt = n.toNat :=
    BitVec.toInt_eq_toNat_of_lt (by change 2 * n.toNat < 2 * twoPow 63; omega)
  rw [Params.count, hint]
  change (if 0 ≤ n.toInt64.toInt then _ else _) = Except.ok n.toNat
  rw [hvalue, if_pos (Int.natCast_nonneg _), Int.toNat_natCast]

/-- A count that a parameter holds, unless it has wrapped. -/
theorem count_of_ofCount {name : String} {n : UInt64} {count : Nat}
    (hparam : params.get? name = some (.ofCount n)) (h : params.count name = .ok count) :
    count = n.toNat := by
  have hint : params.int name = .ok n.toInt64 := by
    rw [int, require, hparam]
    rfl
  rw [Params.count, hint] at h
  change (if 0 ≤ n.toInt64.toInt then _ else _) = Except.ok count at h
  split at h
  · next hnonneg =>
    cases h
    have hvalue : n.toInt64.toInt = if 2 * n.toNat < 2 ^ 64 then (n.toNat : Int)
        else n.toNat - (2 ^ 64 : Nat) := BitVec.toInt_eq_toNat_cond n.toBitVec
    have hlt := n.toNat_lt
    split at hvalue
    · omega
    · omega
  · cases h

/-- The floating-point type that the parameters name has to be one. -/
theorem floatType_of_get? {type : ElementType}
    (hparam : params.get? floatTypeName = some (.elementType type)) :
    params.floatType = if type.isFloat then .ok type
      else .error (.invalidParam floatTypeName (type.name ++ " is not a floating-point type")) := by
  have htype : params.elementType floatTypeName = .ok type := by
    rw [elementType, require, hparam]
    rfl
  rw [floatType, htype]
  rfl

/-- The floating-point type that the parameters name. -/
theorem floatType_eq_ok {type t : ElementType}
    (hparam : params.get? floatTypeName = some (.elementType type))
    (h : params.floatType = .ok t) : type.isFloat = true ∧ t = type := by
  rw [floatType_of_get? hparam] at h
  split at h
  · next hfloat =>
    cases h
    exact ⟨hfloat, rfl⟩
  · cases h

end Params

/-! ### Modules -/

/-- The built-in library has the templates of the built-in kernels. -/
theorem TemplateLibrary.get?_builtin :
    builtin.get? Builtin.Combination.module = some Builtin.Combination.template ∧
      builtin.get? Builtin.Copy.module = some Builtin.Copy.template ∧
      builtin.get? Builtin.Product.module = some Builtin.Product.template := by
  simp only [builtin, Builtin.templates, NameMap.ofList, List.foldl_cons, List.foldl_nil,
    NameMap.get?_insert]
  exact ⟨rfl, rfl, rfl⟩

/-- The text of a module with one kernel over one dimension. -/
def Renderer.kernelText (renderer : Renderer) (floatType : ElementType) (name : String)
    (args : List Argument) (body : String) : String :=
  renderer.generator.prelude floatType ++
    Draft.piece (renderer.generator.kernel name 1 args body)

/-- Parameters that name the floating-point type are left as they are. -/
theorem Renderer.complete_of_get? {renderer : Renderer} {params : Params} {type : ElementType}
    (hparam : params.get? Params.floatTypeName = some (.elementType type)) :
    renderer.complete params = params := by
  rw [complete, NameMap.contains, hparam]
  rfl

/-- A kernel is rendered by running the script of its module for the floating-point type that the
parameters name. -/
theorem Renderer.renderKernel_eq_ok {renderer : Renderer} {name module : String} {params : Params}
    {template : Template} {type : ElementType} {rendered : RenderedKernel}
    (htemplate : renderer.templates.get? module = some template)
    (hparam : params.get? Params.floatTypeName = some (.elementType type))
    (h : renderer.renderKernel name module params = .ok rendered) :
    type.isFloat = true ∧ ∃ draft,
      (template.script ⟨module, type, renderer.generator.target⟩ params).run renderer.generator
        (.start renderer.generator type) = .ok draft ∧
      rendered.source = draft.source ∧ draft.contracts.get? name = some rendered.contract := by
  obtain ⟨draft, hmodule, hcontract⟩ := ok_of_bind h
  obtain ⟨⟨floatType, script⟩, hscript, hrun⟩ := ok_of_bind hmodule
  obtain ⟨found, hfind, hrest⟩ := ok_of_bind hscript
  rw [TemplateLibrary.find, htemplate] at hfind
  cases hfind
  rw [complete_of_get? hparam] at hrest
  obtain ⟨t, ht, hrest⟩ := ok_of_bind hrest
  cases hrest
  obtain ⟨hfloat, rfl⟩ := Params.floatType_eq_ok hparam ht
  split at hcontract
  · next contract hget =>
    cases hcontract
    exact ⟨hfloat, draft, hrun, rfl, hget⟩
  · cases hcontract

end KernelForge
