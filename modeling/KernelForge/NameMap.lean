/-!
# Maps from names to values

A map keeps its bindings in strictly ascending order of their names, so that two maps with the same
bindings are equal and list them alike. Names are compared by code points. The lemmas describe
insertion through lookup, which decides a map.
-/

namespace KernelForge

/-- Bindings of distinct names, in ascending order of the names. -/
structure NameMap (α : Type) where
  entries : List (String × α)
  sorted : entries.Pairwise fun a b => a.1 < b.1

namespace NameMap

variable {α : Type}

/-- Puts a binding into its place, replacing an earlier one of the same name. -/
def insertEntry (name : String) (value : α) : List (String × α) → List (String × α)
  | [] => [(name, value)]
  | (other, kept) :: rest =>
      if name < other then (name, value) :: (other, kept) :: rest
      else if name = other then (name, value) :: rest
      else (other, kept) :: insertEntry name value rest

/-- The value that a list of bindings gives to a name. -/
def lookupEntry (name : String) : List (String × α) → Option α
  | [] => none
  | (other, value) :: rest => if name = other then some value else lookupEntry name rest

/-- Puts a binding into its place, and gives the value whose place it takes. -/
def replaceEntry (name : String) (value : α) : List (String × α) → Option α × List (String × α)
  | [] => (none, [(name, value)])
  | (other, kept) :: rest =>
      if name < other then (none, (name, value) :: (other, kept) :: rest)
      else if name = other then (some kept, (name, value) :: rest)
      else
        let (earlier, replaced) := replaceEntry name value rest
        (earlier, (other, kept) :: replaced)

/-- An inserted list has the new entry and old ones. -/
theorem mem_insertEntry {name : String} {value : α} {list : List (String × α)} {e : String × α}
    (h : e ∈ insertEntry name value list) : e = (name, value) ∨ e ∈ list := by
  induction list with
  | nil => simpa [insertEntry] using h
  | cons head rest ih =>
      obtain ⟨other, kept⟩ := head
      simp only [insertEntry] at h
      split at h
      · simpa using h
      · split at h
        · rcases List.mem_cons.mp h with h | h
          · exact .inl h
          · exact .inr (List.mem_cons_of_mem _ h)
        · rcases List.mem_cons.mp h with h | h
          · exact .inr (h ▸ List.mem_cons_self ..)
          · rcases ih h with h | h
            · exact .inl h
            · exact .inr (List.mem_cons_of_mem _ h)

/-- Inserting keeps names in ascending order. -/
theorem sorted_insertEntry {name : String} {value : α} {list : List (String × α)}
    (h : list.Pairwise fun a b => a.1 < b.1) :
    (insertEntry name value list).Pairwise fun a b => a.1 < b.1 := by
  induction list with
  | nil => simp [insertEntry]
  | cons head rest ih =>
      obtain ⟨other, kept⟩ := head
      obtain ⟨hhead, hrest⟩ := List.pairwise_cons.mp h
      simp only [insertEntry]
      split
      · rename_i hlt
        refine List.pairwise_cons.mpr ⟨fun e he => ?_, h⟩
        rcases List.mem_cons.mp he with rfl | he
        · exact hlt
        · exact String.lt_trans hlt (hhead e he)
      · split
        · rename_i heq
          exact List.pairwise_cons.mpr ⟨fun e he => heq ▸ hhead e he, hrest⟩
        · rename_i hlt hne
          refine List.pairwise_cons.mpr ⟨fun e he => ?_, ih hrest⟩
          rcases mem_insertEntry he with rfl | he
          · have hle : other ≤ name := String.not_lt.mp hlt
            refine Decidable.byContradiction fun h' => ?_
            exact hne (String.le_antisymm (String.not_lt.mp h') hle)
          · exact hhead e he

/-- A name before all others has no value. -/
theorem lookupEntry_eq_none {name : String} {list : List (String × α)}
    (h : ∀ e ∈ list, name < e.1) : lookupEntry name list = none := by
  induction list with
  | nil => rfl
  | cons head rest ih =>
      obtain ⟨hhead, hrest⟩ := List.forall_mem_cons.mp h
      rw [lookupEntry, if_neg (String.ne_of_lt hhead), ih hrest]

/-- Replacing is looking up before inserting. Ascending names make the walk stop at the right place. -/
theorem replaceEntry_eq {name : String} {value : α} {list : List (String × α)}
    (h : list.Pairwise fun a b => a.1 < b.1) :
    replaceEntry name value list = (lookupEntry name list, insertEntry name value list) := by
  induction list with
  | nil => rfl
  | cons head rest ih =>
      obtain ⟨other, kept⟩ := head
      obtain ⟨hhead, hrest⟩ := List.pairwise_cons.mp h
      simp only [replaceEntry, insertEntry]
      split
      · rename_i hlt
        rw [lookupEntry_eq_none]
        exact List.forall_mem_cons.mpr ⟨hlt, fun e he => String.lt_trans hlt (hhead e he)⟩
      · split
        · rename_i heq
          rw [lookupEntry, if_pos heq]
        · rename_i hne
          rw [lookupEntry, if_neg hne, ih hrest]

/-- Replacing keeps names in ascending order. -/
theorem sorted_replaceEntry {name : String} {value : α} {list : List (String × α)}
    (h : list.Pairwise fun a b => a.1 < b.1) :
    (replaceEntry name value list).2.Pairwise fun a b => a.1 < b.1 := by
  rw [replaceEntry_eq h]
  exact sorted_insertEntry h

/-- A name that is looked up is not before all bound ones. -/
theorem le_of_lookupEntry {name other : String} {value kept : α} {list : List (String × α)}
    (hlist : ((other, kept) :: list).Pairwise fun a b => a.1 < b.1)
    (h : lookupEntry name ((other, kept) :: list) = some value) : other ≤ name := by
  refine String.not_lt.mp fun hlt => ?_
  have hall : ∀ e ∈ (other, kept) :: list, name < e.1 :=
    List.forall_mem_cons.mpr
      ⟨hlt, fun e he => String.lt_trans hlt ((List.pairwise_cons.mp hlist).1 e he)⟩
  rw [lookupEntry_eq_none hall] at h
  cases h

/-- Ascending bindings are determined by what is looked up in them. -/
theorem eq_of_lookupEntry {a b : List (String × α)} (ha : a.Pairwise fun x y => x.1 < y.1)
    (hb : b.Pairwise fun x y => x.1 < y.1) (h : ∀ name, lookupEntry name a = lookupEntry name b) :
    a = b := by
  have hself (e : String × α) (rest : List (String × α)) :
      lookupEntry e.1 (e :: rest) = some e.2 := if_pos rfl
  induction a generalizing b with
  | nil =>
      cases b with
      | nil => rfl
      | cons head rest => exact nomatch (h head.1).trans (hself head rest)
  | cons head rest ih =>
      cases b with
      | nil => exact nomatch (h head.1).symm.trans (hself head rest)
      | cons head' rest' =>
          have hvalue := (h head.1).symm.trans (hself head rest)
          have hvalue' := (h head'.1).trans (hself head' rest')
          have hname : head'.1 = head.1 :=
            String.le_antisymm (le_of_lookupEntry hb hvalue) (le_of_lookupEntry ha hvalue')
          have hhead : head' = head := by
            rw [← hname, hself] at hvalue
            exact Prod.ext hname (Option.some.inj hvalue)
          subst hhead
          obtain ⟨hfirst, hrest⟩ := List.pairwise_cons.mp ha
          obtain ⟨hfirst', hrest'⟩ := List.pairwise_cons.mp hb
          refine congrArg _ (ih hrest hrest' fun name => ?_)
          by_cases heq : name = head'.1
          · subst heq
            rw [lookupEntry_eq_none hfirst, lookupEntry_eq_none hfirst']
          · simpa only [lookupEntry, if_neg heq] using h name

/-- The map without bindings. -/
def empty : NameMap α := ⟨[], .nil⟩

instance : EmptyCollection (NameMap α) := ⟨empty⟩
instance : Inhabited (NameMap α) := ⟨empty⟩

/-- Binds a name, replacing its earlier binding. -/
def insert (map : NameMap α) (name : String) (value : α) : NameMap α :=
  ⟨insertEntry name value map.entries, sorted_insertEntry map.sorted⟩

/-- Binds a name, and gives the value that it had. -/
def replace (map : NameMap α) (name : String) (value : α) : Option α × NameMap α :=
  let replaced := replaceEntry name value map.entries
  (replaced.1, ⟨replaced.2, sorted_replaceEntry map.sorted⟩)

/-- Takes the binding of a name away. -/
def erase (map : NameMap α) (name : String) : NameMap α :=
  ⟨map.entries.filter fun e => e.1 ≠ name, map.sorted.filter _⟩

/-- The value of a name. -/
def get? (map : NameMap α) (name : String) : Option α := lookupEntry name map.entries

/-- Whether a name is bound. -/
def contains (map : NameMap α) (name : String) : Bool := (map.get? name).isSome

/-- How many names are bound. -/
def size (map : NameMap α) : Nat := map.entries.length

/-- The bound names, ascending. -/
def keys (map : NameMap α) : List String := map.entries.map Prod.fst

/-- Binds the names of a list in order; the last binding of a name stays. -/
def ofList (list : List (String × α)) : NameMap α :=
  list.foldl (fun map e => map.insert e.1 e.2) empty

instance [DecidableEq α] : DecidableEq (NameMap α) := fun a b =>
  if h : a.entries = b.entries then
    .isTrue (by cases a; cases b; cases h; rfl)
  else .isFalse fun h' => h (h' ▸ rfl)

/-- An inserted name has its new value, and every other name its old one. -/
theorem lookupEntry_insertEntry (name key : String) (value : α) (list : List (String × α)) :
    lookupEntry key (insertEntry name value list) =
      if key = name then some value else lookupEntry key list := by
  induction list with
  | nil => rfl
  | cons head rest ih =>
      obtain ⟨other, kept⟩ := head
      simp only [insertEntry]
      split
      · rfl
      · split
        · rename_i heq
          subst heq
          simp only [lookupEntry]
          split <;> rfl
        · rename_i hne
          simp only [lookupEntry, ih]
          split
          · rename_i heq
            rw [if_neg (fun h => hne (h.symm.trans heq))]
          · rfl

/-- An empty map has no values. -/
@[simp] theorem get?_empty (key : String) : (empty : NameMap α).get? key = none := rfl

/-- After an insertion its name has the new value and every other name its old one. -/
theorem get?_insert (map : NameMap α) (name key : String) (value : α) :
    (map.insert name value).get? key = if key = name then some value else map.get? key :=
  lookupEntry_insertEntry name key value map.entries

/-- What a replacement gives and leaves. -/
theorem replace_eq (map : NameMap α) (name : String) (value : α) :
    map.replace name value = (map.get? name, map.insert name value) := by
  simp only [replace, get?, insert, replaceEntry_eq map.sorted]

/-- Maps that give every name the same value are equal. -/
theorem eq_of_get? {a b : NameMap α} (h : ∀ name, a.get? name = b.get? name) : a = b := by
  obtain ⟨entries, hsorted⟩ := a
  obtain ⟨entries', hsorted'⟩ := b
  cases eq_of_lookupEntry hsorted hsorted' h
  rfl

end NameMap

end KernelForge
