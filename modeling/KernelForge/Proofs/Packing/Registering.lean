import KernelForge.Proofs.Packing.Requests
import KernelForge.Proofs.Provider.Bindings

/-!
# Registering the packing kernels

The two packing modules are registered one after the other, and a binding is never undone. An attempt
that finds one of the two names bound to another module fails. When the name is that of the first
module, nothing has happened. When it is that of the second one, the first module stays registered,
which later calls can see if its name was free before: then another module of this name is refused,
where it was not without the attempt. No other name is ever bound otherwise than without the attempt,
which is shown by following two histories, with the attempt and without it, call by call.
-/

namespace KernelForge

open Builtin.Packing (packModule unpackModule packKernelName unpackKernelName)

variable {Fn σ : Type}

/-- Nothing but the module itself is bound to the name of a module. -/
def Session.Admits (s : Session Fn σ) (module : String) : Prop :=
  ∀ other, s.Registered (kernelName module) other → other = module

namespace Session

variable {s : Session Fn σ} {module : String}

/-- A registration succeeds if the name is free for the module. -/
theorem register_of_admits (h : s.Admits module) :
    (register module s).1 = .ok (kernelName module) := by
  rw [register_eq_ok_iff]
  cases hbound : s.provider.registry.get? (kernelName module) with
  | none => exact .inl rfl
  | some other => exact .inr (congrArg some (h other hbound))

/-- A module that is registered already changes nothing. -/
theorem register_of_registered (h : s.Registered (kernelName module) module) :
    register module s = (.ok (kernelName module), s) := by
  rw [register_apply, h]
  exact if_pos rfl

/-- The first module of a name binds it. -/
theorem register_of_none (h : s.provider.registry.get? (kernelName module) = none) :
    (register module s).2 =
      { s with provider :=
          { s.provider with
            registry := s.provider.registry.insert (kernelName module) module } } := by
  rw [register_apply, h]

/-- A module whose name is bound to another one is refused. -/
theorem register_of_not_admits (h : ¬s.Admits module) :
    ∃ other, s.Registered (kernelName module) other ∧ other ≠ module ∧
      register module s = (.error (.registrationConflict (kernelName module) other module), s) := by
  obtain ⟨other, hbound, hother⟩ := by simpa only [Admits, not_forall] using h
  exact ⟨other, hbound, hother, register_conflict hbound hother⟩

/-- Whether a module is refused depends on the bindings of its name only. -/
theorem register_fst_congr {s' : Session Fn σ}
    (h : s'.provider.registry.get? (kernelName module) =
      s.provider.registry.get? (kernelName module)) :
    (register module s').1 = (register module s).1 := by
  rw [register_apply, register_apply, h]
  cases s.provider.registry.get? (kernelName module) with
  | none => rfl
  | some existing =>
    simp only []
    split <;> rfl

end Session

/-! ### One attempt -/

namespace Packing

variable {s : Session Fn σ}

/-- The module that gathers names its kernel. -/
theorem kernelName_packModule : kernelName packModule = packKernelName := rfl

/-- So does the module that scatters. -/
theorem kernelName_unpackModule : kernelName unpackModule = unpackKernelName := rfl

/-- An attempt is to register no other name. -/
theorem firstNamed_packing {name : String} (hpack : name ≠ packKernelName)
    (hunpack : name ≠ unpackKernelName) : firstNamed name (Call.packing.registers s) = none := by
  rw [Call.registers, ← List.singleton_append, firstNamed_append, firstNamed_singleton,
    kernelName_packModule, if_neg (Ne.symm hpack), Option.none_or]
  split
  · rw [firstNamed_singleton, kernelName_unpackModule, if_neg (Ne.symm hunpack)]
  · rfl

/-- An attempt ends before it does anything if the first name is bound to another module. -/
theorem create_of_not_admits_pack (hpack : ¬s.Admits packModule) :
    ∃ other, s.Registered (kernelName packModule) other ∧ other ≠ packModule ∧
      create s = (.error (.registrationConflict (kernelName packModule) other packModule), s) := by
  obtain ⟨other, hbound, hother, hregister⟩ := Session.register_of_not_admits hpack
  exact ⟨other, hbound, hother, bind_of_error hregister⟩

/-- The registration of the first module takes its name and no other one. -/
theorem register_pack (hpack : s.Admits packModule) :
    ∃ s', Session.register packModule s = (.ok packKernelName, s') ∧
      s'.Registered packKernelName packModule ∧
      ∀ name ≠ packKernelName,
        s'.provider.registry.get? name = s.provider.registry.get? name := by
  have hregister : Session.register packModule s =
      (.ok packKernelName, (Session.register packModule s).2) :=
    Prod.ext (Session.register_of_admits hpack) rfl
  refine ⟨_, hregister, (Session.registered_of_register hregister).2, fun name hname => ?_⟩
  rw [Session.get?_register, kernelName_packModule, if_neg (Ne.symm hname), Option.or_none]

/-- An attempt that can register the first module only ends as if it had registered this alone. -/
theorem create_of_not_admits_unpack (hpack : s.Admits packModule)
    (hunpack : ¬s.Admits unpackModule) :
    ∃ other, s.Registered (kernelName unpackModule) other ∧ other ≠ unpackModule ∧
      create s = (.error (.registrationConflict (kernelName unpackModule) other unpackModule),
        (Session.register packModule s).2) := by
  obtain ⟨s', hregister, -, hothers⟩ := register_pack hpack
  have hunpack' : ¬s'.Admits unpackModule := by
    unfold Session.Admits Session.Registered
    rw [hothers _ (by decide)]
    exact hunpack
  obtain ⟨other, hbound, hother, hconflict⟩ := Session.register_of_not_admits hunpack'
  refine ⟨other, (hothers _ (by decide)).symm.trans hbound, hother, ?_⟩
  rw [create, bind_of_ok hregister, bind_of_error hconflict, hregister]

/-- An attempt that finds both names free for the modules succeeds. -/
theorem create_of_admits (hpack : s.Admits packModule) (hunpack : s.Admits unpackModule) :
    (create s).1 = .ok ⟨packKernelName, unpackKernelName⟩ := by
  obtain ⟨s', hregister, -, hothers⟩ := register_pack hpack
  have hunpack' : s'.Admits unpackModule := by
    unfold Session.Admits Session.Registered
    rw [hothers _ (by decide)]
    exact hunpack
  have hsecond : Session.register unpackModule s' =
      (.ok unpackKernelName, (Session.register unpackModule s').2) :=
    Prod.ext (Session.register_of_admits hunpack') rfl
  rw [create, bind_of_ok hregister, bind_of_ok hsecond]
  rfl

/-- What one attempt does. -/
structure Attempted (s : Session Fn σ) : Prop where
  /-- It succeeds if neither name is bound to another module. -/
  succeeds_iff : (∃ names, (create s).1 = .ok names) ↔
    s.Admits packModule ∧ s.Admits unpackModule
  /-- A success binds the two names and no other one. -/
  binds : ∀ names, (create s).1 = .ok names →
    names = ⟨packKernelName, unpackKernelName⟩ ∧
      (create s).2.Registered packKernelName packModule ∧
      (create s).2.Registered unpackKernelName unpackModule ∧
      ∀ name, name ≠ packKernelName → name ≠ unpackKernelName →
        (create s).2.provider.registry.get? name = s.provider.registry.get? name
  /-- A failure is a conflict with another module that is bound to one of the names. -/
  conflicts : ∀ error, (create s).1 = .error error →
    ∃ module other, (module = packModule ∨ module = unpackModule) ∧
      s.Registered (kernelName module) other ∧ other ≠ module ∧
      error = .registrationConflict (kernelName module) other module
  /-- A failure changes nothing if the first name was bound before. -/
  unchanged : ∀ error, (create s).1 = .error error →
    (∃ bound, s.Registered packKernelName bound) → (create s).2 = s
  /-- Otherwise a failure binds the first name, and changes nothing else. -/
  half_done : ∀ error, (create s).1 = .error error →
    s.provider.registry.get? packKernelName = none →
      (create s).2 = { s with provider :=
        { s.provider with registry := s.provider.registry.insert packKernelName packModule } }

/-- An attempt on names that are free for the modules. -/
theorem attempted_of_admits (hpack : s.Admits packModule) (hunpack : s.Admits unpackModule) :
    Attempted s := by
  have hcreate : create s = (.ok ⟨packKernelName, unpackKernelName⟩, (create s).2) :=
    Prod.ext (create_of_admits hpack hunpack) rfl
  obtain ⟨-, hpackBound, hunpackBound⟩ := registered_of_create hcreate
  have hsucceeds : ∀ error, (create s).1 ≠ .error error := by
    rw [hcreate]
    exact nofun
  refine {
    succeeds_iff := ⟨fun _ => ⟨hpack, hunpack⟩, fun _ => ⟨_, congrArg Prod.fst hcreate⟩⟩
    binds := fun names hnames => ?_
    conflicts := fun error h => absurd h (hsucceeds error)
    unchanged := fun error h => absurd h (hsucceeds error)
    half_done := fun error h => absurd h (hsucceeds error) }
  rw [hcreate] at hnames
  refine ⟨(Except.ok.inj hnames).symm, hpackBound, hunpackBound, fun name hname hname' => ?_⟩
  rw [Session.get?_packing, firstNamed_packing hname hname', Option.or_none]

/-- What is left to show of an attempt that fails. -/
theorem attempted_of_error {error : KernelError} (herror : (create s).1 = .error error)
    (hrefused : ¬(s.Admits packModule ∧ s.Admits unpackModule))
    (hconflict : ∃ module other, (module = packModule ∨ module = unpackModule) ∧
      s.Registered (kernelName module) other ∧ other ≠ module ∧
      error = .registrationConflict (kernelName module) other module)
    (hunchanged : (∃ bound, s.Registered packKernelName bound) → (create s).2 = s)
    (hhalf : s.provider.registry.get? packKernelName = none →
      (create s).2 = { s with provider :=
        { s.provider with registry := s.provider.registry.insert packKernelName packModule } }) :
    Attempted s := by
  have hfails : ∀ names, (create s).1 ≠ .ok names := by
    rw [herror]
    exact nofun
  refine {
    succeeds_iff := ⟨fun ⟨names, h⟩ => absurd h (hfails names), fun h => absurd h hrefused⟩
    binds := fun names h => absurd h (hfails names)
    conflicts := fun error' herror' => ?_
    unchanged := fun _ _ => hunchanged
    half_done := fun _ _ => hhalf }
  obtain rfl : error = error' := Except.error.inj (herror.symm.trans herror')
  exact hconflict

/-- Registering both kernels goes so in every session. -/
theorem attempted (s : Session Fn σ) : Attempted s := by
  by_cases hpack : s.Admits packModule
  · by_cases hunpack : s.Admits unpackModule
    · exact attempted_of_admits hpack hunpack
    · obtain ⟨other, hbound, hother, hcreate⟩ := create_of_not_admits_unpack hpack hunpack
      refine attempted_of_error (congrArg Prod.fst hcreate) (fun h => hunpack h.2)
        ⟨unpackModule, other, .inr rfl, hbound, hother, rfl⟩ ?_ ?_
      · rintro ⟨bound, hpackBound⟩
        rw [← kernelName_packModule] at hpackBound
        obtain rfl : bound = packModule := hpack bound hpackBound
        rw [hcreate, Session.register_of_registered hpackBound]
      · intro hnone
        rw [← kernelName_packModule] at hnone
        rw [hcreate, ← kernelName_packModule]
        exact Session.register_of_none hnone
  · obtain ⟨other, hbound, hother, hcreate⟩ := create_of_not_admits_pack hpack
    refine attempted_of_error (congrArg Prod.fst hcreate) (fun h => hpack h.1)
      ⟨packModule, other, .inl rfl, hbound, hother, rfl⟩ (fun _ => congrArg Prod.snd hcreate) ?_
    intro hnone
    rw [kernelName_packModule] at hbound
    exact absurd (hnone.symm.trans hbound) nofun

end Packing

namespace Packing

/-- A new provider on which another module has taken the name of the second packing module. -/
def foreignUnpack : Session Unit Unit := (Session.register "my.unpack" ⟨⟨.empty, ()⟩, .empty⟩).2

/-- The attempt fails and leaves the first packing module registered, so that another module of its
name, which could have been registered before, is refused. -/
theorem foreignUnpack_half_done :
    foreignUnpack.provider.registry.get? "pack" = none ∧
      (create foreignUnpack).1 =
        .error (.registrationConflict "unpack" "my.unpack" "frx.kernels.unpack") ∧
      (create foreignUnpack).2.Registered "pack" "frx.kernels.pack" ∧
      (Session.register "my.pack" foreignUnpack).1 = .ok "pack" ∧
      (Session.register "my.pack" (create foreignUnpack).2).1 =
        .error (.registrationConflict "pack" "frx.kernels.pack" "my.pack") := by
  refine ⟨?_, ?_, ?_, ?_, ?_⟩ <;> rfl

end Packing

/-! ### What later calls see -/

namespace History

variable {backend : Backend Fn σ}

/-- Two histories in which names are bound alike, but for the name of the first packing module, while
that of the second one is bound. -/
structure Alike (h h' : History Fn σ) : Prop where
  kept : h.Kept (fun _ => True) fun _ _ => True
  kept' : h'.Kept (fun _ => True) fun _ _ => True
  bound : ∃ module, h.session.Registered unpackKernelName module
  agree : ∀ name ≠ packKernelName,
    h'.session.provider.registry.get? name = h.session.provider.registry.get? name

/-- The next call leaves two such histories alike: it registers the same modules in both, but for an
attempt, of which the one may get further than the other; what it registers then is bound in both. -/
theorem Alike.call {h h' : History Fn σ} (halike : Alike h h') (c : Call σ) :
    Alike (h.call backend c) (h'.call backend c) := by
  obtain ⟨module, hmodule⟩ := halike.bound
  refine {
    kept := halike.kept.call backend.preserves_anything c fun _ _ _ h => h
    kept' := halike.kept'.call backend.preserves_anything c fun _ _ _ h => h
    bound := ⟨module, ?_⟩
    agree := fun name hname => ?_ }
  · unfold Session.Registered
    rw [get?_call halike.kept, hmodule, Option.some_or]
  · rw [get?_call halike.kept, get?_call halike.kept', halike.agree name hname]
    cases c with
    | packing =>
      by_cases hunpack : name = unpackKernelName
      · rw [hunpack, hmodule, Option.some_or, Option.some_or]
      · rw [Packing.firstNamed_packing hname hunpack, Packing.firstNamed_packing hname hunpack]
    | _ => rfl

/-- Histories that are alike stay so under the same calls. -/
theorem Alike.calls {h h' : History Fn σ} (halike : Alike h h') (calls : List (Call σ)) :
    Alike (calls.foldl (History.call backend) h) (calls.foldl (History.call backend) h') := by
  induction calls generalizing h h' with
  | nil => exact halike
  | cons c rest ih => exact ih (halike.call c)

variable {world : World σ} {calls : List (Call σ)} {error : KernelError}

/-- An attempt that fails and finds the first name bound is as no attempt. -/
theorem after_append_of_bound {bound : String}
    (herror : (Packing.create (after backend world calls).session).1 = .error error)
    (hbound : (after backend world calls).session.Registered packKernelName bound)
    (more : List (Call σ)) :
    after backend world (calls ++ .packing :: more) = after backend world (calls ++ more) := by
  have hunchanged := (Packing.attempted _).unchanged error herror ⟨bound, hbound⟩
  have hcall : (after backend world calls).call backend .packing = after backend world calls :=
    congrArg (fun s => { after backend world calls with session := s }) hunchanged
  rw [after, after, List.foldl_append, List.foldl_append, List.foldl_cons]
  exact congrArg (more.foldl (call backend)) hcall

/-- After an attempt that fails and finds the first name free, all other names are bound as without
it. -/
theorem alike_append
    (herror : (Packing.create (after backend world calls).session).1 = .error error)
    (hnone : (after backend world calls).session.provider.registry.get? packKernelName = none)
    (more : List (Call σ)) :
    Alike (after backend world (calls ++ more))
      (after backend world (calls ++ .packing :: more)) := by
  obtain ⟨module, other, hmodule, hbound, -, -⟩ := (Packing.attempted _).conflicts error herror
  have hunpack : (after backend world calls).session.Registered unpackKernelName other := by
    rcases hmodule with rfl | rfl
    · rw [Packing.kernelName_packModule] at hbound
      exact absurd (hnone.symm.trans hbound) nofun
    · exact hbound
  have hkept : (after backend world calls).Kept (fun _ => True) fun _ _ => True :=
    backend.preserves_anything.after trivial calls fun _ _ _ h => h
  have halike : Alike (after backend world calls)
      ((after backend world calls).call backend .packing) := {
    kept := hkept
    kept' := hkept.call backend.preserves_anything .packing fun _ _ _ h => h
    bound := ⟨other, hunpack⟩
    agree := fun name hname => ?_ }
  · rw [after, after, List.foldl_append, List.foldl_append, List.foldl_cons]
    exact halike.calls more
  · have hhalf : ((after backend world calls).call backend .packing).session = _ :=
      (Packing.attempted _).half_done error herror hnone
    rw [hhalf]
    exact (NameMap.get?_insert ..).trans (if_neg hname)

/-- After an attempt that fails and finds the first name free, this name is bound for good. -/
theorem registered_of_half_done
    (herror : (Packing.create (after backend world calls).session).1 = .error error)
    (hnone : (after backend world calls).session.provider.registry.get? packKernelName = none)
    (more : List (Call σ)) :
    (after backend world (calls ++ .packing :: more)).session.Registered packKernelName
      packModule := by
  have hsplit : calls ++ .packing :: more = calls ++ [.packing] ++ more := by
    rw [List.append_assoc, List.singleton_append]
  have hafter : (after backend world (calls ++ [.packing])).session =
      (Packing.create (after backend world calls).session).2 := by
    rw [after, List.foldl_append]
    rfl
  rw [hsplit]
  refine registered_append ?_ more
  unfold Session.Registered
  rw [hafter, (Packing.attempted _).half_done error herror hnone]
  exact (NameMap.get?_insert ..).trans (if_pos rfl)

/-- An attempt to register both packing modules succeeds exactly if neither name is bound to another
module, and then binds these two names and no other one. Otherwise it fails as a conflict, and changes
nothing if the name of the first module was bound; if it was free, the first module stays registered
and nothing else changes. Whatever is called after a failed attempt, a registration ends as without the
attempt, unless the name of the first module was free and it is of another module of this name, which
is refused from then on. -/
theorem packing_attempted (backend : Backend Fn σ) (world : World σ) (calls : List (Call σ)) :
    Packing.Attempted (after backend world calls).session ∧
      ∀ error, (Packing.create (after backend world calls).session).1 = .error error →
        ∀ more module,
          (kernelName module ≠ packKernelName ∨
              (∃ bound, (after backend world calls).session.Registered packKernelName bound) →
            (Session.register module
                (after backend world (calls ++ .packing :: more)).session).1 =
              (Session.register module (after backend world (calls ++ more)).session).1) ∧
          ((after backend world calls).session.provider.registry.get? packKernelName = none →
            kernelName module = packKernelName → module ≠ packModule →
              (Session.register module
                  (after backend world (calls ++ .packing :: more)).session).1 =
                .error (.registrationConflict packKernelName packModule module)) := by
  refine ⟨Packing.attempted _, fun error herror more module =>
    ⟨fun h => Session.register_fst_congr ?_, fun hnone hname hother => ?_⟩⟩
  · cases hpack : (after backend world calls).session.provider.registry.get? packKernelName with
    | some bound => rw [after_append_of_bound herror hpack]
    | none =>
      have hname : kernelName module ≠ packKernelName :=
        h.resolve_right fun ⟨bound, hbound⟩ => absurd (hpack.symm.trans hbound) nofun
      exact (alike_append herror hpack more).agree _ hname
  · have hbound := registered_of_half_done herror hnone more
    rw [← hname] at hbound ⊢
    exact congrArg Prod.fst (Session.register_conflict hbound (Ne.symm hother))

/-- A backend that can do nothing. -/
def idleBackend : Backend Unit Unit where
  render _ module _ := throw (.unknownKernel module)
  build name _ _ := throw (.symbolNotFound name)
  launch _ _ _ := throw (.symbolNotFound "")

/-- The name of the second module is taken, and the attempt is made twice: other names are not
affected, and the name of the first module is taken from the first attempt on. -/
theorem twoAttempts_attempted :
    (Packing.create
          (after idleBackend ⟨.empty, ()⟩ [.register "my.unpack"]).session).1 =
        .error (.registrationConflict "unpack" "my.unpack" "frx.kernels.unpack") ∧
      (Session.register "my.scale" (after idleBackend ⟨.empty, ()⟩
          [.register "my.unpack", .packing, .packing]).session).1 = .ok "scale" ∧
      (Session.register "my.pack" (after idleBackend ⟨.empty, ()⟩
          [.register "my.unpack", .packing, .packing]).session).1 =
        .error (.registrationConflict "pack" "frx.kernels.pack" "my.pack") := by
  have hfails : (Packing.create
      (after idleBackend ⟨.empty, ()⟩ [.register "my.unpack"]).session).1 =
        .error (.registrationConflict "unpack" "my.unpack" "frx.kernels.unpack") := rfl
  obtain ⟨-, hlater⟩ := packing_attempted idleBackend ⟨.empty, ()⟩ [.register "my.unpack"]
  have hscale := (hlater _ hfails [.packing] "my.scale").1 (.inl (by decide))
  have hpack := (hlater _ hfails [.packing] "my.pack").2 rfl rfl (by decide)
  exact ⟨hfails, hscale, hpack⟩

end History

end KernelForge
