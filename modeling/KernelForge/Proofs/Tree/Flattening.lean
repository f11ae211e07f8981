import KernelForge.Kernel.Tree

/-!
# Trees run like lists

A tree has its single kernels in an order, from left to right. Running the tree does to them what
running their list does: one after the other, on the same arguments, up to and including the first
that fails, which ends the run at every level above it. The groups themselves stay as they are. Which
kernels a run reaches is seen when the step notes its runs; apart from the notes it does what the step
does.
-/

namespace KernelForge

namespace KernelTree

variable {α S : Type}

/-! ### The kernels of a tree -/

mutual

/-- The single kernels of a tree, from left to right. -/
def leaves : KernelTree α → List α
  | single kernel => [kernel]
  | group _ members => leavesAll members

/-- The single kernels of trees, from left to right. -/
def leavesAll : List (KernelTree α) → List α
  | [] => []
  | tree :: rest => tree.leaves ++ leavesAll rest

end

mutual

/-- A tree without its kernels: how its groups are nested, and their kinds. -/
def shape : KernelTree α → KernelTree Unit
  | single _ => single ()
  | group kind members => group kind (shapeAll members)

/-- Trees without their kernels. -/
def shapeAll : List (KernelTree α) → List (KernelTree Unit)
  | [] => []
  | tree :: rest => tree.shape :: shapeAll rest

end

mutual

/-- Trees of one shape have equally many kernels. -/
theorem length_leaves_of_shape {tree other : KernelTree α} (h : tree.shape = other.shape) :
    tree.leaves.length = other.leaves.length := by
  cases tree with
  | single kernel =>
    cases other with
    | single kernel' => rfl
    | group kind' members' => cases h
  | group kind members =>
    cases other with
    | single kernel' => cases h
    | group kind' members' =>
      exact length_leavesAll_of_shapeAll (group.inj h).2

/-- Trees of equal shapes have equally many single kernels. -/
theorem length_leavesAll_of_shapeAll {trees others : List (KernelTree α)}
    (h : shapeAll trees = shapeAll others) :
    (leavesAll trees).length = (leavesAll others).length := by
  cases trees with
  | nil =>
    cases others with
    | nil => rfl
    | cons other others => cases h
  | cons tree trees =>
    cases others with
    | nil => cases h
    | cons other others =>
      obtain ⟨htree, htrees⟩ := List.cons.inj h
      rw [leavesAll, leavesAll, List.length_append, List.length_append,
        length_leaves_of_shape htree, length_leavesAll_of_shapeAll htrees]

end

mutual

/-- A tree is determined by its shape and its kernels. -/
theorem eq_of_shape_of_leaves {tree other : KernelTree α} (hshape : tree.shape = other.shape)
    (hleaves : tree.leaves = other.leaves) : tree = other := by
  cases tree with
  | single kernel =>
    cases other with
    | single kernel' => rw [List.singleton_inj.mp hleaves]
    | group kind' members' => cases hshape
  | group kind members =>
    cases other with
    | single kernel' => cases hshape
    | group kind' members' =>
      obtain ⟨hkind, hmembers⟩ := group.inj hshape
      rw [hkind, eq_of_shapeAll_of_leavesAll hmembers hleaves]

/-- Trees are what their shapes and single kernels are. -/
theorem eq_of_shapeAll_of_leavesAll {trees others : List (KernelTree α)}
    (hshape : shapeAll trees = shapeAll others) (hleaves : leavesAll trees = leavesAll others) :
    trees = others := by
  cases trees with
  | nil =>
    cases others with
    | nil => rfl
    | cons other others => cases hshape
  | cons tree trees =>
    cases others with
    | nil => cases hshape
    | cons other others =>
      obtain ⟨htree, htrees⟩ := List.cons.inj hshape
      obtain ⟨hfirst, hrest⟩ := List.append_inj hleaves (length_leaves_of_shape htree)
      rw [eq_of_shape_of_leaves htree hfirst, eq_of_shapeAll_of_leavesAll htrees hrest]

end

/-! ### Kernels one after the other -/

/-- Runs kernels in order up to the first failure; the kernels behind it stay as they are. -/
def runEach (step : Step α S) (args : List Scalar) :
    List α → StateM S (Except KernelError Unit × List α)
  | [] => return (.ok (), [])
  | kernel :: rest => do
      let (result, kernel) ← step kernel args
      match result with
      | .error error => return (.error error, kernel :: rest)
      | .ok _ =>
          let (result, rest) ← runEach step args rest
          return (result, kernel :: rest)

variable (step : Step α S) (args : List Scalar)

/-- The kernels behind a kernel are run in the state that it leaves, unless it fails. -/
theorem runEach_cons_apply (kernel : α) (rest : List α) (s : S) :
    runEach step args (kernel :: rest) s = match step kernel args s with
      | ((.error error, kernel), s) => ((.error error, kernel :: rest), s)
      | ((.ok _, kernel), s) =>
          (((runEach step args rest s).1.1, kernel :: (runEach step args rest s).1.2),
            (runEach step args rest s).2) := by
  simp only [runEach, bind, StateT.bind]
  rcases step kernel args s with ⟨⟨error | _, changed⟩, s'⟩ <;> rfl

/-- The second part of a list is run if no kernel of the first part fails. -/
theorem runEach_append (kernels more : List α) :
    runEach step args (kernels ++ more) = do
      let (result, kernels) ← runEach step args kernels
      match result with
      | .error error => return (.error error, kernels ++ more)
      | .ok _ =>
          let (result, more) ← runEach step args more
          return (result, kernels ++ more) := by
  induction kernels with
  | nil => simp [runEach]
  | cons kernel rest ih =>
    simp only [List.cons_append, runEach, ih, bind_assoc]
    congr 1
    funext (result, changed)
    cases result with
    | error error => simp
    | ok _ =>
      simp only [bind_assoc, pure_bind]
      congr 1
      funext (result, changed)
      cases result with
      | error error => simp
      | ok _ => simp

mutual

/-- A tree does to its kernels and to the state what their list does, with the same result. -/
theorem leaves_run (tree : KernelTree α) :
    (fun out => (out.1, out.2.leaves)) <$> run step args tree = runEach step args tree.leaves := by
  cases tree with
  | single kernel =>
    simp only [run, leaves, runEach, map_bind, map_pure]
    congr 1
    funext (result, changed)
    cases result with
    | error error => simp
    | ok _ => simp
  | group kind members =>
    rw [run, leaves, ← leaves_runAll members, map_bind, map_eq_pure_bind]
    simp only [map_pure, leaves]

/-- Running trees runs their single kernels in a row. -/
theorem leaves_runAll (trees : List (KernelTree α)) :
    (fun out => (out.1, leavesAll out.2)) <$> runAll step args trees =
      runEach step args (leavesAll trees) := by
  cases trees with
  | nil => simp [runAll, leavesAll, runEach]
  | cons tree rest =>
    -- What a failure inside the first tree leaves behind is the whole rest of the group.
    rw [leavesAll, runEach_append, ← leaves_run tree, ← leaves_runAll rest]
    simp only [runAll, map_bind, bind_map_left]
    congr 1
    funext (result, changed)
    cases result with
    | error error => simp [leavesAll]
    | ok _ => simp [leavesAll]

end

/-- So does running one tree, from any state. -/
theorem leaves_run_apply (tree : KernelTree α) (s : S) :
    (((run step args tree s).1.1, (run step args tree s).1.2.leaves), (run step args tree s).2) =
      runEach step args tree.leaves s :=
  congrFun (leaves_run step args tree) s

/-- A group ends as its members do. -/
theorem run_group_apply (kind : KernelKind) (members : List (KernelTree α)) (s : S) :
    run step args (group kind members) s =
      (((runAll step args members s).1.1, group kind (runAll step args members s).1.2),
        (runAll step args members s).2) := by
  rw [run]
  rfl

/-- The members behind a tree are run in the state that it leaves, unless it fails. -/
theorem runAll_cons_apply (tree : KernelTree α) (rest : List (KernelTree α)) (s : S) :
    runAll step args (tree :: rest) s = match run step args tree s with
      | ((.error error, tree), s) => ((.error error, tree :: rest), s)
      | ((.ok _, tree), s) =>
          (((runAll step args rest s).1.1, tree :: (runAll step args rest s).1.2),
            (runAll step args rest s).2) := by
  rw [runAll]
  simp only [bind, StateT.bind]
  rcases run step args tree s with ⟨⟨error | _, changed⟩, s'⟩ <;> rfl

mutual

/-- Groups do not change. -/
theorem shape_run (tree : KernelTree α) (s : S) :
    (run step args tree s).1.2.shape = tree.shape := by
  cases tree with
  | single kernel =>
    rw [run]
    rfl
  | group kind members => rw [run_group_apply, shape, shape, shape_runAll members s]

/-- Running trees leaves their shapes. -/
theorem shape_runAll (trees : List (KernelTree α)) (s : S) :
    shapeAll (runAll step args trees s).1.2 = shapeAll trees := by
  cases trees with
  | nil => rfl
  | cons tree rest =>
    have htree := shape_run tree s
    rw [runAll_cons_apply]
    rcases hrun : run step args tree s with ⟨⟨error | _, changed⟩, s'⟩
    · rw [hrun] at htree
      rw [shapeAll, shapeAll, htree]
    · rw [hrun] at htree
      rw [shapeAll, shapeAll, htree, shape_runAll rest s']

end

/-! ### Notes of runs -/

/-- What is noted of one run: the kernel as it was, what it was run on, and how the run ended. -/
structure Note (α : Type) where
  kernel : α
  args : List Scalar
  result : Except KernelError Unit

/-- Does a step and notes it. -/
def noting (step : Step α S) : Step α (S × List (Note α)) := fun kernel args (s, notes) =>
  let ((result, changed), s) := step kernel args s
  ((result, changed), (s, notes ++ [⟨kernel, args, result⟩]))

/-- Kernels were run up to the first failure: all of them, each with success, or those before the one
that failed and this one. In the second case the run failed as this kernel did, and the kernels behind
it are as before. -/
inductive EndsAtFailure (args : List Scalar) :
    List α → Except KernelError Unit × List α → List (Note α) → Prop
  | none (kernels changed : List α) (hlength : changed.length = kernels.length) :
      EndsAtFailure args kernels (.ok (), changed) (kernels.map fun k => ⟨k, args, .ok ()⟩)
  | first (before : List α) (kernel : α) (behind changed : List α) (error : KernelError)
      (hlength : changed.length = before.length + 1) :
      EndsAtFailure args (before ++ kernel :: behind) (.error error, changed ++ behind)
        ((before.map fun k => ⟨k, args, .ok ()⟩) ++ [⟨kernel, args, .error error⟩])

/-- One more kernel that is run with success comes before the others. -/
theorem EndsAtFailure.cons {kernels : List α} {out : Except KernelError Unit × List α}
    {notes : List (Note α)} (h : EndsAtFailure args kernels out notes) (kernel changed : α) :
    EndsAtFailure args (kernel :: kernels) (out.1, changed :: out.2)
      (⟨kernel, args, .ok ()⟩ :: notes) := by
  cases h with
  | none kernels rest hlength =>
    exact .none (kernel :: kernels) (changed :: rest) (congrArg (· + 1) hlength)
  | first before failing behind rest error hlength =>
    exact .first (kernel :: before) failing behind (changed :: rest) error
      (congrArg (· + 1) hlength)

/-- Noting changes nothing else, and the notes tell that the run ended at the first failure. -/
theorem runEach_noting (kernels : List α) (s : S) (notes : List (Note α)) :
    ∃ more, runEach (noting step) args kernels (s, notes) =
        ((runEach step args kernels s).1, (runEach step args kernels s).2, notes ++ more) ∧
      EndsAtFailure args kernels (runEach step args kernels s).1 more := by
  induction kernels generalizing s notes with
  | nil => exact ⟨[], by rw [List.append_nil]; rfl, .none [] [] rfl⟩
  | cons kernel rest ih =>
    rw [runEach_cons_apply, runEach_cons_apply, noting]
    rcases step kernel args s with ⟨⟨error | _, changed⟩, s'⟩
    · exact ⟨[⟨kernel, args, .error error⟩], rfl, .first [] kernel rest [changed] error rfl⟩
    · obtain ⟨more, hmore, hends⟩ := ih s' (notes ++ [⟨kernel, args, .ok ()⟩])
      refine ⟨⟨kernel, args, .ok ()⟩ :: more, ?_, hends.cons args kernel changed⟩
      simp only [hmore, List.append_assoc, List.singleton_append]

/-- Noting changes nothing else about the run of a tree. -/
theorem run_noting (tree : KernelTree α) (s : S) :
    ∃ notes, run (noting step) args tree (s, []) =
        ((run step args tree s).1, (run step args tree s).2, notes) ∧
      EndsAtFailure args tree.leaves
        ((run step args tree s).1.1, (run step args tree s).1.2.leaves) notes := by
  obtain ⟨notes, hnotes, hends⟩ := runEach_noting step args tree.leaves s []
  rw [← leaves_run_apply, ← leaves_run_apply] at hnotes
  rw [← leaves_run_apply] at hends
  obtain ⟨hout, hstate⟩ := Prod.mk.inj hnotes
  obtain ⟨hresult, hleaves⟩ := Prod.mk.inj hout
  have hshape : (run (noting step) args tree (s, [])).1.2.shape =
      (run step args tree s).1.2.shape := by
    rw [shape_run, shape_run]
  exact ⟨notes, Prod.ext (Prod.ext hresult (eq_of_shape_of_leaves hshape hleaves)) hstate, hends⟩

/-- A tree runs like the list of its kernels: it gives the same result, and does the same to every
kernel and to the state, while its groups stay as they are. The kernels that are run, each once and
on the arguments of the tree, are those up to and including the first one that fails; the tree then
fails as that kernel did, and no kernel behind it is run, in whatever group it is. -/
theorem run_flattens (tree : KernelTree α) (s : S) :
    (((run step args tree s).1.1, (run step args tree s).1.2.leaves), (run step args tree s).2) =
        runEach step args tree.leaves s ∧
      (run step args tree s).1.2.shape = tree.shape ∧
      ∃ notes, run (noting step) args tree (s, []) =
          ((run step args tree s).1, (run step args tree s).2, notes) ∧
        EndsAtFailure args tree.leaves
          ((run step args tree s).1.1, (run step args tree s).1.2.leaves) notes :=
  ⟨leaves_run_apply step args tree s, shape_run step args tree s, run_noting step args tree s⟩

/-- The third kernel fails inside an inner group, and the fourth one of the outer group is not run. -/
example :
    let step : Step Nat (List Nat) := fun kernel _ ran =>
      ((if kernel = 3 then .error (.symbolNotFound "three") else .ok (), kernel), ran ++ [kernel])
    (run step [] (group .compute [single 1, group .compute [single 2, single 3], single 4]) []).2 =
      [1, 2, 3] := by
  rfl

end KernelTree

end KernelForge
