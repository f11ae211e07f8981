import KernelForge.Proofs.Provider.Runs
import KernelForge.Proofs.Rendering.Pieces
import KernelForge.Template.Renderer

/-!
# One module for two targets

A template that does not ask for its target makes the same pieces for both, so it fails for both, with
one error, or for neither, and what it declares for both has the same contracts. Both generators begin
a kernel with a signature that lists the parameters of its contract. The signatures differ in three
words of the targets: what makes the kernel visible to the linker, the promise that pointers do not
overlap, and what stands for no parameters at all.
-/

namespace KernelForge

/-! ### Signatures -/

/-- The words of a target in the signatures of its kernels. -/
structure SignatureWords where
  /-- What comes before the type of the result. -/
  linkage : String
  /-- The promise that a pointer does not overlap with others. -/
  restrict : String
  /-- The list of no parameters. -/
  empty : String

/-- The signature of a kernel with parameters. -/
def SignatureWords.signature (words : SignatureWords) (name : String)
    (params : List SourceParameter) : String :=
  words.linkage ++ "void " ++ name ++ "(" ++
    (if params.isEmpty then words.empty
      else ", ".intercalate (params.map (·.declaration words.restrict))) ++ ")"

/-- The words of the targets. -/
def Target.words : Target → SignatureWords
  | host => ⟨"", "restrict", "void"⟩
  | cuda => ⟨"extern \"C\" __global__ ", "__restrict__", ""⟩

/-- A kernel begins with its signature, for either target. -/
theorem Generator.kernel_eq_signature (target : Target) (name : String) (ndim : UInt64)
    (args : List Argument) (body : String) :
    ∃ rest, (Generator.ofTarget target).kernel name ndim args body =
      target.words.signature name (SourceParameter.ofKernel ndim args) ++ "\n\x7b\n" ++ rest := by
  have hopen : ")\n\x7b\n" = ")" ++ "\n\x7b\n" := by decide
  set params := SourceParameter.ofKernel ndim args with hparams
  cases target with
  | host =>
    have hlist : Host.parameterList params = if params.isEmpty then "void"
        else ", ".intercalate (params.map (·.declaration "restrict")) := rfl
    refine ⟨Host.looped ndim body ++ "\n\x7d\n\n" ++ Host.entry name params, ?_⟩
    change Host.kernel name ndim args body = _
    simp only [Host.kernel, ← hparams, hlist, hopen, SignatureWords.signature, Target.words,
      String.empty_append, String.append_assoc]
  | cuda =>
    have hlist : ", ".intercalate (params.map (·.declaration "__restrict__")) =
        if params.isEmpty then ""
          else ", ".intercalate (params.map (·.declaration "__restrict__")) := by
      cases params with
      | nil => rfl
      | cons p rest => exact (if_neg Bool.false_ne_true).symm
    have hlinkage : "extern \"C\" __global__ void " = "extern \"C\" __global__ " ++ "void " := by
      decide
    refine ⟨Cuda.guarded ndim body ++ "\n\x7d\n", ?_⟩
    change "extern \"C\" __global__ void " ++ name ++ "(" ++
      ", ".intercalate (params.map (·.declaration "__restrict__")) ++ ")\n\x7b\n" ++
        Cuda.guarded ndim body ++ "\n\x7d\n" = _
    rw [hlinkage, hopen, hlist, SignatureWords.signature, Target.words]
    simp only [String.append_assoc]

example : Target.host.words.signature "scale"
    (SourceParameter.ofKernel 1 [⟨"x", .input, .matrix .float64 true⟩, ⟨"a", .input, .pointer⟩]) =
      "void scale(int _nx, const double* restrict x, int ldx, void* a)" := by
  decide

/-! ### Renderers -/

/-- A template that does not ask for its target. -/
def Template.IgnoresTarget (template : Template) : Prop :=
  ∀ module floatType params, template.script ⟨module, floatType, .host⟩ params =
    template.script ⟨module, floatType, .cuda⟩ params

namespace Renderer

/-- The pieces of a module, with the floating-point type that it is rendered for. -/
def pieces (renderer : Renderer) (module : String) (params : Params) :
    Except TemplateError (ElementType × List Piece) := do
  let (floatType, script) ← renderer.script module params
  return (floatType, ← script.pieces [])

/-- A renderer puts the pieces into the words of its target. -/
theorem renderModule_eq_pieces (renderer : Renderer) (module : String) (params : Params) :
    renderer.renderModule module params =
      (renderer.pieces module params).map fun made =>
        Draft.ofPieces renderer.generator made.1 made.2 := by
  rw [renderModule, pieces]
  cases renderer.script module params with
  | error error => rfl
  | ok made =>
    obtain ⟨floatType, script⟩ := made
    change script.run renderer.generator (.ofPieces renderer.generator floatType []) = _
    rw [Script.run_ofPieces]
    change _ = Except.map _ (script.pieces [] >>= fun written => .ok (floatType, written))
    cases script.pieces [] <;> rfl

/-- What is asked of a rendered module for one kernel depends on the contracts only. -/
theorem contract_renderKernel (renderer : Renderer) (name module : String) (params : Params) :
    (renderer.renderKernel name module params).map (·.contract) =
      ((renderer.renderModule module params).map (·.contracts) >>= fun contracts =>
        match contracts.get? name with
        | some contract => .ok contract
        | none => .error (.kernelNotDefined name module)) := by
  rw [renderKernel]
  cases renderer.renderModule module params with
  | error error => rfl
  | ok draft =>
    simp only [bind, Except.bind, Except.map]
    cases draft.contracts.get? name <;> rfl

variable {templates : TemplateLibrary} {module : String}

/-- A template that does not ask for its target makes the same pieces for both. -/
theorem pieces_ofTarget
    (h : ∀ template, templates.get? module = some template → template.IgnoresTarget)
    (precision : Precision) (params : Params) :
    (ofTarget .host precision templates).pieces module params =
      (ofTarget .cuda precision templates).pieces module params := by
  have hscript : (ofTarget .host precision templates).script module params =
      (ofTarget .cuda precision templates).script module params := by
    change (templates.find module >>= _) = (templates.find module >>= _)
    rw [TemplateLibrary.find]
    cases htemplate : templates.get? module with
    | none => rfl
    | some template =>
      change ((ofTarget .host precision templates).complete params).floatType >>= _ = _
      refine bind_congr (m := Except TemplateError) fun floatType => ?_
      exact congrArg (fun s => Except.ok (floatType, s)) (h template htemplate module floatType _)
  rw [pieces, hscript, ← pieces]

/-- The contracts of a module are those of its pieces. -/
theorem contracts_renderModule (renderer : Renderer) (module : String) (params : Params) :
    (renderer.renderModule module params).map (·.contracts) =
      (renderer.pieces module params).map fun made => Piece.contracts made.2 := by
  rw [renderModule_eq_pieces]
  cases renderer.pieces module params with
  | error error => rfl
  | ok made => exact congrArg Except.ok (Draft.contracts_ofPieces made.2)

/-- No two kernels of a module have one name. -/
theorem nodup_kernelNames_pieces {renderer : Renderer} {params : Params} {floatType : ElementType}
    {written : List Piece} (h : renderer.pieces module params = .ok (floatType, written)) :
    (Piece.kernelNames written).Nodup := by
  obtain ⟨⟨type, script⟩, -, h⟩ := ok_of_bind h
  obtain ⟨made, hmade, h⟩ := ok_of_bind h
  cases h
  have hnone : (Piece.kernelNames []).Nodup := List.nodup_nil
  exact Script.nodup_kernelNames hnone hmade

/-- A template that does not ask for its target is rendered alike for both targets. Rendering a
module, or one kernel of it, fails with one error or gives the same contracts. The two texts are made
of the same pieces, with no two kernels of one name, and every kernel that is declared begins with a
signature for either target: both list the parameters that belong to its contract, each with its type
and its name in one order, and only the words of the targets differ. -/
theorem renderings_agree
    (h : ∀ template, templates.get? module = some template → template.IgnoresTarget)
    (precision : Precision) (params : Params) :
    ((ofTarget .host precision templates).renderModule module params).map (·.contracts) =
      ((ofTarget .cuda precision templates).renderModule module params).map (·.contracts) ∧
    (∀ name, ((ofTarget .host precision templates).renderKernel name module params).map
        (·.contract) =
      ((ofTarget .cuda precision templates).renderKernel name module params).map (·.contract)) ∧
    ∀ host cuda, (ofTarget .host precision templates).renderModule module params = .ok host →
      (ofTarget .cuda precision templates).renderModule module params = .ok cuda →
      ∃ floatType pieces,
        host = .ofPieces (.ofTarget .host) floatType pieces ∧
        cuda = .ofPieces (.ofTarget .cuda) floatType pieces ∧
        (Piece.kernelNames pieces).Nodup ∧
        ∀ name contract, host.contracts.get? name = some contract →
          ∃ ndim args body, Piece.kernel name ndim args body ∈ pieces ∧
            contract = .ofArguments ndim args ∧ ∀ target : Target, ∃ rest,
              (Piece.kernel name ndim args body).source (.ofTarget target) =
                target.words.signature name (SourceParameter.ofKernel ndim args) ++
                  "\n\x7b\n" ++ rest := by
  have hpieces := pieces_ofTarget h precision params
  have hcontracts : ((ofTarget .host precision templates).renderModule module params).map
        (·.contracts) =
      ((ofTarget .cuda precision templates).renderModule module params).map (·.contracts) := by
    rw [contracts_renderModule, contracts_renderModule, hpieces]
  refine ⟨hcontracts, fun name => ?_, fun host cuda hhost hcuda => ?_⟩
  · rw [contract_renderKernel, contract_renderKernel, hcontracts]
  · rw [renderModule_eq_pieces] at hhost hcuda
    cases hmade : (ofTarget .cuda precision templates).pieces module params with
    | error error =>
      rw [hmade] at hcuda
      cases hcuda
    | ok made =>
      obtain ⟨floatType, written⟩ := made
      rw [hpieces, hmade] at hhost
      rw [hmade] at hcuda
      cases hhost
      cases hcuda
      have hnodup := nodup_kernelNames_pieces hmade
      refine ⟨floatType, written, rfl, rfl, hnodup, fun name contract hcontract => ?_⟩
      rw [Draft.contracts_ofPieces, Piece.get?_contracts hnodup] at hcontract
      obtain ⟨ndim, args, body, hkernel, hcontract⟩ := hcontract
      exact ⟨ndim, args, body, hkernel, hcontract, fun target =>
        Generator.kernel_eq_signature target name ndim args body⟩

/-! A kernel that scales the rows of a matrix with the help of a function. -/

/-- A helper function, and a kernel over one dimension that calls it. -/
def scalingTemplate : Template where
  script setting _ :=
    .function "fpdtype_t" "twice" "fpdtype_t v" "return v + v;"
      (.declare "scale" 1
        [⟨"x", .inOut, .matrix setting.floatType true⟩, ⟨"a", .input, .scalar setting.floatType⟩]
        "x[_x*ldx] = twice(a)*x[_x*ldx];")

/-- The library of this template. -/
def scalingLibrary : TemplateLibrary := .ofList [("scaling", scalingTemplate)]

/-- The template does not ask for its target. -/
theorem scalingTemplate_ignoresTarget : scalingTemplate.IgnoresTarget := fun _ _ _ => rfl

/-- The kernel has one contract on both targets. -/
theorem scaling_renderings_agree :
    (∀ template, scalingLibrary.get? "scaling" = some template → template.IgnoresTarget) ∧
    ∃ contract,
      ((ofTarget .host .double scalingLibrary).renderKernel "scale" "scaling" .empty).map
        (·.contract) = .ok contract ∧
      ((ofTarget .cuda .double scalingLibrary).renderKernel "scale" "scaling" .empty).map
        (·.contract) = .ok contract := by
  have hblind : ∀ template, scalingLibrary.get? "scaling" = some template →
      template.IgnoresTarget := by
    intro template htemplate
    cases htemplate
    exact scalingTemplate_ignoresTarget
  obtain ⟨-, hkernels, -⟩ := renderings_agree hblind .double .empty
  have hhost : ((ofTarget .host .double scalingLibrary).renderKernel "scale" "scaling" .empty).map
      (·.contract) = .ok (.ofArguments 1 [⟨"x", .inOut, .matrix .float64 true⟩,
        ⟨"a", .input, .scalar .float64⟩]) := by
    rfl
  exact ⟨hblind, _, hhost, (hkernels "scale").symm.trans hhost⟩

/-! A kernel without dimensions and arguments, of which the signatures are not alike. -/

/-- A kernel that takes nothing. -/
def noopTemplate : Template := ⟨fun _ _ => .declare "noop" 0 [] ""⟩

/-- The library of this template. -/
def noopLibrary : TemplateLibrary := .ofList [("noop", noopTemplate)]

/-- No text for the list of parameters makes the signatures of both targets, as the host writes a word
where there are none. -/
theorem noop_signatures_differ :
    noopTemplate.IgnoresTarget ∧
    (∀ target, (ofTarget target .double noopLibrary).renderModule "noop" .empty =
      .ok (.ofPieces (.ofTarget target) .float64 [.kernel "noop" 0 [] ""])) ∧
    ¬∃ list hostRest cudaRest,
      (Piece.kernel "noop" 0 [] "").source (.ofTarget .host) =
        "void noop(" ++ list ++ ")" ++ hostRest ∧
      (Piece.kernel "noop" 0 [] "").source (.ofTarget .cuda) =
        "extern \"C\" __global__ void noop(" ++ list ++ ")" ++ cudaRest := by
  refine ⟨fun _ _ _ => rfl, fun target => ?_, ?_⟩
  · rw [renderModule_eq_pieces]
    rfl
  · rintro ⟨list, hostRest, cudaRest, hhost, hcuda⟩
    obtain ⟨hostBody, hhostBody⟩ := Generator.kernel_eq_signature .host "noop" 0 [] ""
    obtain ⟨cudaBody, hcudaBody⟩ := Generator.kernel_eq_signature .cuda "noop" 0 [] ""
    have hhostSignature : Target.host.words.signature "noop" (SourceParameter.ofKernel 0 []) =
        "void noop(" ++ "void)" := by decide
    have hcudaSignature : Target.cuda.words.signature "noop" (SourceParameter.ofKernel 0 []) =
        "extern \"C\" __global__ void noop(" ++ ")" := by decide
    replace hhost := hhostBody.symm.trans hhost
    replace hcuda := hcudaBody.symm.trans hcuda
    rw [hhostSignature] at hhost
    rw [hcudaSignature] at hcuda
    simp only [String.append_assoc, String.append_right_inj] at hhost hcuda
    -- The host writes a letter where the other target closes the list.
    have hletter := congrArg (fun text => text.toList.head?) hhost
    have hclose := congrArg (fun text => text.toList.head?) hcuda
    simp only [String.toList_append] at hletter hclose
    cases hlist : list.toList with
    | nil => simp [hlist] at hletter
    | cons c rest =>
      simp only [hlist] at hletter hclose
      have hv : some 'v' = some c := hletter
      have hparenthesis : some ')' = some c := hclose
      exact absurd (hv.trans hparenthesis.symm) (by decide)

end Renderer

end KernelForge
