import KernelForge.Proofs.Code.Calling
import KernelForge.Proofs.Exact.Machine
import KernelForge.Proofs.Packing.Running

/-!
# Packing kernels on exact numbers

On exact numbers the gathering kernel puts every element of the blocks of a view at its place in the
exchange matrix, and the scattering kernel puts it back, block by block in the order in which the
blocks are done.
-/

namespace KernelForge.Packing

open Code

variable {R : Type} [Ring R] [DecidableEq R] {reading : Reading R} {order : Nat → List Nat}
  {limit : Nat} {v : ExchangeView} {view exchange : Intent} {placed : List (UInt64 × Int32)}
  {m : ExactMemory R}

omit [DecidableEq R] in
/-- A packing kernel gets its arguments from the values of its slots. -/
theorem exactArguments_slotValues (hcount : v.view.count < twoPow 31) (view exchange : Intent) :
    List.zipWith (Host.exactArgument reading)
      (paramTypes 1 (Builtin.Packing.arguments v.view.elementType view exchange)) (slotValues v) =
        kernelValues v view := by
  have hint : (Int32.ofNat v.view.count).toInt = v.view.count := Int32.toInt_ofNat_of_lt hcount
  change [Host.exactArgument reading (.int .int) _, Host.exactArgument reading (.pointer _ true) _,
    Host.exactArgument reading (.pointer (.int .int) true) _,
    Host.exactArgument reading (.pointer _ _) _, Host.exactArgument reading (.int .int) _] = _
  simp only [Host.exactArgument_int32, Host.exactArgument_pointer, hint, kernelValues]

/-- A kernel whose body puts a number for one element puts the numbers for all of them. -/
theorem runExact_blockLoop (name : String) {statement : Stmt} {target : ViewElement → Nat}
    {value : ViewElement → ExactMemory R → R} (hcount : v.view.count < twoPow 31)
    (hrows : v.view.rows.toNat < limit) (hcolumns : v.view.columns.toNat < limit)
    (horder : (order v.view.count).Perm (List.range v.view.count))
    (hstatement : ∀ e, v.Has e → ∀ now : ExactMemory R, now.memory = m.memory →
      statement.exec (Host.exactContext R order limit)
          ⟨now, elementLocals (exactMachine R order 1) v view exchange e⟩ =
        .ok (.next, ⟨now.put (target e) (value e now), elementLocals _ v view exchange e⟩)) :
    Host.runExact reading order limit name
        (Builtin.Packing.arguments v.view.elementType view exchange)
        (Builtin.Packing.blockLoop v.view.rows.toNat v.view.columns.toNat statement) (slotValues v)
        m = .ok (m.putAll target value (v.elements order)) := by
  let step (e : ViewElement) (now : ExactMemory R) : Option (ExactMemory R) :=
    some (now.put (target e) (value e now))
  have hexact : (exactMachine R order 1).IsExact := exactMachine_isExact
  have hperforms : ∀ e, v.Has e → statement.Performs (Host.exactContext R order limit)
      (elementLocals _ v view exchange e) (fun now : ExactMemory R => now.memory = m.memory)
      (step e) := fun e he now hnow => ⟨_, rfl, hnow, hstatement e he now hnow⟩
  have hloop := performs_blockLoop hexact rfl hrows hcolumns horder hperforms
  obtain ⟨hvalues, hlocals⟩ := boundLocals_kernelValues hexact v view exchange name
    (Builtin.Packing.blockLoop v.view.rows.toNat v.view.columns.toNat statement)
  obtain ⟨m', hsteps, -, henter⟩ := @enter_of_performs (exactMachine R order 1) m
    (entryLocals _ v view exchange) (Host.loopFunction name _ _) _ (Host.exactContext R order limit)
    _ _ _ rfl hvalues hlocals hloop rfl
  have hfold : (v.elements order).foldlM (fun now e => step e now) m =
      some (m.putAll target value (v.elements order)) := List.foldlM_pure ..
  cases hfold.symm.trans hsteps
  exact Host.runExact_of_enter (exactArguments_slotValues hcount view exchange) henter

/-- The gathering kernel puts every element at its place in the exchange matrix. -/
theorem runExact_pack (hfloat : v.view.elementType.isFloat = true)
    (hcount : v.view.count < twoPow 31) (hrows : v.view.rows.toNat < limit)
    (hcolumns : v.view.columns.toNat < limit)
    (horder : (order v.view.count).Perm (List.range v.view.count))
    (hstands : v.Stands m.memory placed) :
    Host.runExact reading order limit Builtin.Packing.packKernelName
        (Builtin.Packing.arguments v.view.elementType .input .output)
        (Builtin.Packing.packBody v.view.rows.toNat v.view.columns.toNat) (slotValues v) m =
      .ok (m.putAll v.inExchange (fun e now => now.numbers (v.inView placed e))
        (v.elements order)) := by
  obtain ⟨kind, hkind, hbytes⟩ := ElementType.exists_floatKind hfloat
  have hexact : (exactMachine R order 1).IsExact := exactMachine_isExact
  refine runExact_blockLoop _ hcount hrows hcolumns horder fun e he now hnow => ?_
  have hnow' : v.Stands now.memory placed := hnow ▸ hstands
  obtain ⟨a, ha, -, hcovers⟩ := hnow'.inView_covers he
  have hpos := v.view.elementType.bytes_pos
  have hfrom := hnow'.wellFormed.peek_of_covers ha hcovers hpos
  have hto := hnow'.wellFormed.peek_of_covers hnow'.held (hnow'.inExchange_covers he) hpos
  rw [hbytes] at hfrom hto
  have hsource : Builtin.Packing.viewElement.IsElement (Host.exactContext R order limit)
      ⟨now, elementLocals _ v .input .output e⟩ kind (v.inView placed e) :=
    isElement_view .input .output rfl exactMachine_sees hexact hnow' he hkind hbytes
  exact exec_assign_element (isElement_exchange v .input .output e now rfl hexact hkind hbytes) hto
    (.element hsource hfrom)

/-- The scattering kernel puts every element back into its block. -/
theorem runExact_unpack (hfloat : v.view.elementType.isFloat = true)
    (hcount : v.view.count < twoPow 31) (hrows : v.view.rows.toNat < limit)
    (hcolumns : v.view.columns.toNat < limit)
    (horder : (order v.view.count).Perm (List.range v.view.count))
    (hstands : v.Stands m.memory placed) :
    Host.runExact reading order limit Builtin.Packing.unpackKernelName
        (Builtin.Packing.arguments v.view.elementType .output .input)
        (Builtin.Packing.unpackBody v.view.rows.toNat v.view.columns.toNat) (slotValues v) m =
      .ok (m.putAll (v.inView placed) (fun e now => now.numbers (v.inExchange e))
        (v.elements order)) := by
  obtain ⟨kind, hkind, hbytes⟩ := ElementType.exists_floatKind hfloat
  have hexact : (exactMachine R order 1).IsExact := exactMachine_isExact
  refine runExact_blockLoop _ hcount hrows hcolumns horder fun e he now hnow => ?_
  have hnow' : v.Stands now.memory placed := hnow ▸ hstands
  obtain ⟨a, ha, -, hcovers⟩ := hnow'.inView_covers he
  have hpos := v.view.elementType.bytes_pos
  have hto := hnow'.wellFormed.peek_of_covers ha hcovers hpos
  have hfrom := hnow'.wellFormed.peek_of_covers hnow'.held (hnow'.inExchange_covers he) hpos
  rw [hbytes] at hfrom hto
  have htarget : Builtin.Packing.viewElement.IsElement (Host.exactContext R order limit)
      ⟨now, elementLocals _ v .output .input e⟩ kind (v.inView placed e) :=
    isElement_view .output .input rfl exactMachine_sees hexact hnow' he hkind hbytes
  exact exec_assign_element htarget hto
    (.element (isElement_exchange v .output .input e now rfl hexact hkind hbytes) hfrom)

end KernelForge.Packing
