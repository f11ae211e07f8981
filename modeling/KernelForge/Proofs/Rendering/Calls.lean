import KernelForge.Proofs.Rendering.Pieces
import KernelForge.Template.Renderer

/-!
# Modules record the calls that succeed

While a template writes a module it makes one call after the other, and it may go on after a kernel was
refused. A call changes the module statement by statement, so a kernel must be refused before anything
of it is written. Then the module is at any moment what its generator makes of the calls that have
succeeded: the text has the pieces of just these calls, and the contracts are those of the kernels among
them. So the kernels of a rendered module are those that were declared with success, and all of them
share one text.
-/

namespace KernelForge

/-! ### Calls -/

/-- Work on a module that is being written. What it has written stays also if it fails. -/
abbrev DraftM := ExceptT TemplateError (StateM Draft)

namespace Piece

/-- The call that writes a piece. A kernel is written in four statements: it is checked twice, then
its text is added, and then its contract. -/
def write (generator : Generator) : Piece → DraftM Unit
  | text lines => modify (·.emit lines)
  | function result name params body => modify (·.function generator result name params body)
  | kernel name ndim args body => do
      if 2 < ndim then
        throw (.invalidKernel name (toString ndim.toNat ++ " dimensions, at most 2 supported"))
      if (← get).contracts.contains name then throw (.duplicateKernel name)
      modify (·.emit (generator.kernel name ndim args body))
      modify fun draft =>
        { draft with contracts := draft.contracts.insert name (.ofArguments ndim args) }

/-- Statement by statement, a kernel is added as a whole or not at all. -/
theorem write_kernel (generator : Generator) (name : String) (ndim : UInt64)
    (args : List Argument) (body : String) (draft : Draft) :
    (kernel name ndim args body).write generator draft =
      match draft.kernel generator name ndim args body with
      | .ok added => (.ok (), added)
      | .error error => (.error error, draft) := by
  rw [write, Draft.kernel]
  by_cases hndim : 2 < ndim
  · rw [if_pos hndim, if_pos hndim]
    rfl
  · rw [if_neg hndim, if_neg hndim]
    change (if draft.contracts.contains name then _ else _ : DraftM Unit) draft = _
    split
    · rfl
    · rfl

/-- Why a call is refused after pieces. -/
def refused? (pieces : List Piece) : Piece → Option TemplateError
  | text _ | function _ _ _ _ => none
  | kernel name ndim _ _ => refusal? pieces name ndim

/-- Why calls are refused after calls that have succeeded: a kernel has more than two dimensions, or the
name of a kernel before. -/
inductive Refused (succeeded : List Piece) : Piece → TemplateError → Prop
  | dimensions {name : String} {ndim : UInt64} {args : List Argument} {body : String}
      (hndim : 2 < ndim) : Refused succeeded (kernel name ndim args body)
        (.invalidKernel name (toString ndim.toNat ++ " dimensions, at most 2 supported"))
  | duplicate {name : String} {ndim : UInt64} {args : List Argument} {body : String}
      (hndim : ¬2 < ndim) (hname : name ∈ kernelNames succeeded) :
      Refused succeeded (kernel name ndim args body) (.duplicateKernel name)

/-- Calls are refused for these reasons and no others. -/
theorem refused?_eq_some_iff {pieces : List Piece} {call : Piece} {error : TemplateError} :
    call.refused? pieces = some error ↔ Refused pieces call error := by
  constructor
  · intro h
    cases call with
    | text lines => cases h
    | function result name params body => cases h
    | kernel name ndim args body =>
      rcases refusal?_eq_some_iff.mp h with ⟨hndim, rfl⟩ | ⟨hndim, hname, rfl⟩
      · exact .dimensions hndim
      · exact .duplicate hndim hname
  · rintro (hndim | ⟨hndim, hname⟩)
    · exact refusal?_eq_some_iff.mpr (.inl ⟨hndim, rfl⟩)
    · exact refusal?_eq_some_iff.mpr (.inr ⟨hndim, hname, rfl⟩)

/-- A call that is not refused keeps the names of kernels apart. -/
theorem nodup_concat {pieces : List Piece} {call : Piece} (h : (kernelNames pieces).Nodup)
    (hcall : call.refused? pieces = none) : (kernelNames (pieces ++ [call])).Nodup := by
  cases call with
  | text lines =>
    rw [kernelNames_concat]
    exact (List.append_nil _).symm ▸ h
  | function result name params body =>
    rw [kernelNames_concat]
    exact (List.append_nil _).symm ▸ h
  | kernel name ndim args body => exact nodup_kernelNames_concat h hcall args body

/-- A call on a module made of pieces adds one piece, or is refused and changes nothing. -/
theorem write_ofPieces (generator : Generator) (floatType : ElementType) (pieces : List Piece)
    (call : Piece) :
    call.write generator (.ofPieces generator floatType pieces) =
      match call.refused? pieces with
      | none => (.ok (), .ofPieces generator floatType (pieces ++ [call]))
      | some error => (.error error, .ofPieces generator floatType pieces) := by
  cases call with
  | text lines =>
    rw [Draft.ofPieces_concat]
    rfl
  | function result name params body =>
    rw [Draft.ofPieces_concat]
    rfl
  | kernel name ndim args body =>
    rw [write_kernel, Draft.kernel_ofPieces, refused?]
    cases refusal? pieces name ndim <;> rfl

end Piece

/-! ### Sequences of calls -/

/-- A module that is being written, and the calls on it that have succeeded. -/
structure Writing where
  draft : Draft
  succeeded : List Piece

namespace Writing

variable (generator : Generator)

/-- A module that has only its beginning. -/
def start (floatType : ElementType) : Writing := ⟨.start generator floatType, []⟩

/-- Makes a call, and goes on whatever comes of it. -/
def call (w : Writing) (call : Piece) : Writing :=
  match call.write generator w.draft with
  | (.ok (), draft) => ⟨draft, w.succeeded ++ [call]⟩
  | (.error _, draft) => ⟨draft, w.succeeded⟩

/-- Makes calls one after the other. -/
def calls (w : Writing) (calls : List Piece) : Writing := calls.foldl (call generator) w

/-- The module is made of the calls that have succeeded, and no two of them declare one kernel. -/
structure Faithful (floatType : ElementType) (w : Writing) : Prop where
  draft_eq : w.draft = .ofPieces generator floatType w.succeeded
  nodup : (Piece.kernelNames w.succeeded).Nodup

variable {generator} {floatType : ElementType} {w : Writing}

/-- The beginning of a module is made of no calls. -/
theorem faithful_start : (start generator floatType).Faithful generator floatType :=
  ⟨rfl, List.nodup_nil⟩

/-- What becomes of a call is read off the calls that have succeeded before. -/
theorem Faithful.write_eq (h : w.Faithful generator floatType) (call : Piece) :
    call.write generator w.draft =
      match call.refused? w.succeeded with
      | none => (.ok (), .ofPieces generator floatType (w.succeeded ++ [call]))
      | some error => (.error error, w.draft) := by
  rw [h.draft_eq, Piece.write_ofPieces]

/-- A call keeps a module faithful, whether it succeeds or not. -/
theorem Faithful.call (h : w.Faithful generator floatType) (call : Piece) :
    (w.call generator call).Faithful generator floatType := by
  rw [Writing.call, h.write_eq]
  cases hcall : call.refused? w.succeeded with
  | none => exact ⟨rfl, Piece.nodup_concat h.nodup hcall⟩
  | some error => exact h

/-- So does any number of calls. -/
theorem Faithful.calls (h : w.Faithful generator floatType) (calls : List Piece) :
    (w.calls generator calls).Faithful generator floatType := by
  induction calls generalizing w with
  | nil => exact h
  | cons call rest ih => exact ih (h.call call)

/-- What has succeeded are calls that were made, in their order. -/
theorem succeeded_calls (generator : Generator) (w : Writing) (calls : List Piece) :
    ∃ added, (w.calls generator calls).succeeded = w.succeeded ++ added ∧ added.Sublist calls := by
  induction calls generalizing w with
  | nil => exact ⟨[], (List.append_nil _).symm, .slnil⟩
  | cons call rest ih =>
    obtain ⟨added, heq, hadded⟩ := ih (w.call generator call)
    change ∃ added, ((w.call generator call).calls generator rest).succeeded = _ ∧ _
    rw [heq, Writing.call]
    split
    · exact ⟨call :: added, List.append_assoc .., hadded.cons_cons call⟩
    · exact ⟨added, rfl, hadded.cons call⟩

/-- A call fails just if it is refused, and the module stays as it is. -/
theorem Faithful.write_eq_error_iff (h : w.Faithful generator floatType) {call : Piece}
    {error : TemplateError} {draft : Draft} :
    call.write generator w.draft = (.error error, draft) ↔
      draft = w.draft ∧ Piece.Refused w.succeeded call error := by
  rw [h.write_eq, ← Piece.refused?_eq_some_iff]
  cases call.refused? w.succeeded with
  | none => exact ⟨nofun, nofun⟩
  | some refusal =>
    constructor
    · intro heq
      cases heq
      exact ⟨rfl, rfl⟩
    · rintro ⟨rfl, heq⟩
      cases heq
      rfl

end Writing

/-! ### What a module records -/

/-- The text of a module is the beginning for its floating-point type, and then what its generator
writes for calls, in order: for each a line feed, the text, and a line feed again unless the text ends
with one. It has a contract for every kernel that is declared among them, which happens once. -/
structure Draft.Records (generator : Generator) (floatType : ElementType) (draft : Draft)
    (calls : List Piece) : Prop where
  source_eq : draft.source = generator.prelude floatType ++ String.join (calls.map fun call =>
    let text := call.source generator
    "\n" ++ text ++ if text.endsWith "\n" then "" else "\n")
  once : (Piece.kernelNames calls).Nodup
  contract_iff : ∀ name contract, draft.contracts.get? name = some contract ↔
    ∃ ndim args body, .kernel name ndim args body ∈ calls ∧ contract = .ofArguments ndim args

/-- The names without a contract are those that are not declared. -/
theorem Draft.Records.get?_eq_none_iff {generator : Generator} {floatType : ElementType}
    {draft : Draft} {calls : List Piece} (h : draft.Records generator floatType calls)
    {name : String} : draft.contracts.get? name = none ↔ name ∉ Piece.kernelNames calls := by
  rw [Piece.mem_kernelNames]
  constructor
  · rintro hnone ⟨ndim, args, body, hkernel⟩
    cases hnone.symm.trans ((h.contract_iff name _).mpr ⟨ndim, args, body, hkernel, rfl⟩)
  · intro hnew
    cases hcontract : draft.contracts.get? name with
    | none => rfl
    | some contract =>
      obtain ⟨ndim, args, body, hkernel, -⟩ := (h.contract_iff name contract).mp hcontract
      exact absurd ⟨ndim, args, body, hkernel⟩ hnew

/-- The text of a module that is made of pieces, up to the last line feed. -/
theorem Draft.source_ofPieces (generator : Generator) (floatType : ElementType)
    (pieces : List Piece) :
    (ofPieces generator floatType pieces).source = generator.prelude floatType ++
      String.join (pieces.map fun call =>
        let text := call.source generator
        "\n" ++ text ++ if text.endsWith "\n" then "" else "\n") := by
  induction pieces using List.reverseRecOn with
  | nil => exact (String.append_empty).symm
  | append_singleton pieces call ih =>
    rw [ofPieces_concat, List.map_append, String.join_append, ← String.append_assoc, ← ih,
      List.map_singleton, String.join_cons, String.join_nil, String.append_empty]
    rfl

/-- A faithful module records the calls that have succeeded. -/
theorem Writing.Faithful.records {generator : Generator} {floatType : ElementType} {w : Writing}
    (h : w.Faithful generator floatType) : w.draft.Records generator floatType w.succeeded where
  source_eq := by rw [h.draft_eq, Draft.source_ofPieces]
  once := h.nodup
  contract_iff name contract := by
    rw [h.draft_eq, Draft.contracts_ofPieces]
    exact Piece.get?_contracts h.nodup

/-! ### Scripts -/

/-- The calls that a script makes on a module, and how the script ends. What it does next may depend on
why a kernel was refused. -/
def Script.calls (generator : Generator) : Script → Draft → List Piece × Except TemplateError Unit
  | done, _ => ([], .ok ())
  | fail error, _ => ([], .error error)
  | emit text next, draft =>
      let call : Piece := .text text
      (next.calls generator (call.write generator draft).2).map (call :: ·) id
  | function result name params body next, draft =>
      let call : Piece := .function result name params body
      (next.calls generator (call.write generator draft).2).map (call :: ·) id
  | kernel name ndim args body next, draft =>
      let call : Piece := .kernel name ndim args body
      match call.write generator draft with
      | (.ok (), draft) => ((next none).calls generator draft).map (call :: ·) id
      | (.error error, draft) => ((next (some error)).calls generator draft).map (call :: ·) id

/-- A script leaves the module that its calls leave, unless it fails in the end. -/
theorem Script.run_eq_calls (generator : Generator) (script : Script) (w : Writing) :
    script.run generator w.draft =
      (script.calls generator w.draft).2.map fun _ =>
        (w.calls generator (script.calls generator w.draft).1).draft := by
  induction script generalizing w with
  | done => rfl
  | fail error => rfl
  | emit text next ih => exact ih (w.call generator (.text text))
  | function result name params body next ih =>
    exact ih (w.call generator (.function result name params body))
  | kernel name ndim args body next ih =>
    let call : Piece := .kernel name ndim args body
    have hwrite := Piece.write_kernel generator name ndim args body w.draft
    rw [run, calls]
    cases hkernel : w.draft.kernel generator name ndim args body with
    | ok added =>
      rw [hkernel] at hwrite
      change call.write generator w.draft = (.ok (), added) at hwrite
      have hcall : w.call generator call = ⟨added, w.succeeded ++ [call]⟩ := by
        rw [Writing.call, hwrite]
      rw [hwrite]
      change _ = Except.map (fun _ => ((w.call generator call).calls generator _).draft) _
      rw [hcall]
      exact ih none ⟨added, _⟩
    | error error =>
      rw [hkernel] at hwrite
      change call.write generator w.draft = (.error error, w.draft) at hwrite
      have hcall : w.call generator call = w := by rw [Writing.call, hwrite]
      rw [hwrite]
      change _ = Except.map (fun _ => ((w.call generator call).calls generator _).draft) _
      rw [hcall]
      exact ih (some error) w

namespace Renderer

/-- A kernel is rendered from what the calls of the script leave. -/
theorem renderKernel_eq_calls {renderer : Renderer} {module : String} {params : Params}
    {floatType : ElementType} {script : Script}
    (hscript : renderer.script module params = .ok (floatType, script)) (name : String) :
    let made := script.calls renderer.generator (.start renderer.generator floatType)
    let w := (Writing.start renderer.generator floatType).calls renderer.generator made.1
    renderer.renderKernel name module params = made.2.bind fun _ =>
      match w.draft.contracts.get? name with
      | some contract => .ok ⟨w.draft.source, contract⟩
      | none => .error (.kernelNotDefined name module) := by
  intro made w
  have hrun := script.run_eq_calls renderer.generator (.start renderer.generator floatType)
  change script.run renderer.generator (.start renderer.generator floatType) =
    made.2.map fun _ => w.draft at hrun
  rw [renderKernel, renderModule, hscript]
  change script.run renderer.generator (.start renderer.generator floatType) >>= _ = _
  rw [hrun]
  cases made.2 with
  | error error => rfl
  | ok ended =>
    change (match w.draft.contracts.get? name with | some contract => _ | none => _) = _
    cases w.draft.contracts.get? name <;> rfl

/-- Whatever calls are made on a module, whether they succeed or not, a call fails only for a kernel of
more than two dimensions or of a name that was declared before, and it then leaves the module as it
was. The text of the module is the beginning followed by the texts of the calls that have succeeded, in
order and between line feeds, and its contracts are those of the kernels that they declare, each of
them once. The script of a template makes such calls. If it ends well, its kernels can be rendered, and
no others, all of them with one text and each with the contract of its declaration. -/
theorem modules_record_calls :
    (∀ (generator : Generator) (floatType : ElementType) (calls : List Piece),
      let w := (Writing.start generator floatType).calls generator calls
      w.draft.Records generator floatType w.succeeded ∧ w.succeeded.Sublist calls ∧
      ∀ (call : Piece) (error : TemplateError) (draft : Draft),
        call.write generator w.draft = (.error error, draft) ↔
          draft = w.draft ∧ Piece.Refused w.succeeded call error) ∧
    ∀ (renderer : Renderer) (module : String) (params : Params) (floatType : ElementType)
      (script : Script), renderer.script module params = .ok (floatType, script) →
      let made := script.calls renderer.generator (.start renderer.generator floatType)
      let w := (Writing.start renderer.generator floatType).calls renderer.generator made.1
      (∀ error, made.2 = .error error →
        ∀ name, renderer.renderKernel name module params = .error error) ∧
      (made.2 = .ok () → ∀ name,
        (∀ rendered, renderer.renderKernel name module params = .ok rendered ↔
          rendered.source = w.draft.source ∧ ∃ ndim args body,
            .kernel name ndim args body ∈ w.succeeded ∧
              rendered.contract = .ofArguments ndim args) ∧
        ∀ error, renderer.renderKernel name module params = .error error ↔
          name ∉ Piece.kernelNames w.succeeded ∧ error = .kernelNotDefined name module) := by
  constructor
  · intro generator floatType calls w
    have hfaithful : w.Faithful generator floatType := Writing.faithful_start.calls calls
    obtain ⟨added, hadded, hsublist⟩ := (Writing.start generator floatType).succeeded_calls
      generator calls
    exact ⟨hfaithful.records, hadded ▸ hsublist, fun _ _ _ => hfaithful.write_eq_error_iff⟩
  · intro renderer module params floatType script hscript made w
    have hrecords : w.draft.Records renderer.generator floatType w.succeeded :=
      (Writing.faithful_start.calls made.1).records
    have hkernel := renderKernel_eq_calls hscript
    refine ⟨fun error herror name => ?_, fun hended name => ?_⟩
    · have hname := hkernel name
      change _ = made.2.bind _ at hname
      rw [hname, herror]
      rfl
    · have hname : renderer.renderKernel name module params =
          match w.draft.contracts.get? name with
          | some contract => .ok ⟨w.draft.source, contract⟩
          | none => .error (.kernelNotDefined name module) := by
        refine (hkernel name).trans ?_
        change made.2.bind _ = _
        rw [hended]
        rfl
      simp only [← hrecords.contract_iff, ← hrecords.get?_eq_none_iff, hname]
      cases w.draft.contracts.get? name with
      | none =>
        refine ⟨fun _ => ⟨nofun, fun h => nomatch h.2⟩, fun error => ⟨fun h => ?_, fun h => ?_⟩⟩
        · exact ⟨rfl, (Except.error.inj h).symm⟩
        · rw [h.2]
      | some contract =>
        refine ⟨fun rendered => ⟨fun h => ?_, fun ⟨hsource, hcontract⟩ => ?_⟩, fun _ => ⟨nofun, nofun⟩⟩
        · cases h
          exact ⟨rfl, rfl⟩
        · rw [hsource.symm, Option.some.inj hcontract]

/-! A template that goes on after two of its kernels were refused. -/

/-- Declares a kernel of a name that is taken, and then one of three dimensions, as if nothing had
happened. -/
def stubbornTemplate : Template where
  script _ _ :=
    .kernel "step" 1 [⟨"x", .inOut, .pointer⟩] "x = x;" fun _ =>
      .kernel "step" 2 [] "" fun _ =>
        .kernel "cube" 3 [] "" fun _ => .emit "/* the end */" .done

/-- The library of this template. -/
def stubbornLibrary : TemplateLibrary := .ofList [("stubborn", stubbornTemplate)]

/-- Of the four calls the first and the last are recorded. -/
theorem stubborn_records_calls :
    ∃ source, (ofTarget .cuda .single stubbornLibrary).renderKernel "step" "stubborn" .empty =
        .ok ⟨source, .ofArguments 1 [⟨"x", .inOut, .pointer⟩]⟩ ∧
      (ofTarget .cuda .single stubbornLibrary).renderKernel "cube" "stubborn" .empty =
        .error (.kernelNotDefined "cube" "stubborn") := by
  have hscript : (ofTarget .cuda .single stubbornLibrary).script "stubborn" .empty =
      .ok (.float32, stubbornTemplate.script ⟨"stubborn", .float32, .cuda⟩ .empty) := rfl
  obtain ⟨-, hended⟩ := modules_record_calls.2 _ _ _ _ _ hscript
  have hkernels := hended (by decide +kernel)
  refine ⟨_, ((hkernels "step").1 ⟨_, _⟩).mpr ⟨rfl, 1, _, "x = x;", ?_, rfl⟩,
    ((hkernels "cube").2 _).mpr ⟨?_, rfl⟩⟩
  · decide +kernel
  · decide +kernel

end Renderer

end KernelForge
