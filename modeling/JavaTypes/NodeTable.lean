import JavaTypes.Ty

/-!
# Tables of parameterized nodes

A model keeps each parameterized node that it built once.  The table stores the
size of a node beside it, so that most nodes are told apart without a look at
their arguments.
-/

namespace JavaTypes

/-- The number of nodes of the arguments. -/
def ParameterizedTy.size (node : ParameterizedTy) : Nat :=
  Ty.sizeList node.args

/-- A set of parameterized nodes. -/
structure NodeTable where
  entries : List (Nat × ParameterizedTy)
  sized : ∀ entry ∈ entries, entry.1 = entry.2.size

namespace NodeTable

/-- The nodes of a table, the newest first. -/
def toList (table : NodeTable) : List ParameterizedTy :=
  table.entries.map Prod.snd

/-- The table without nodes. -/
def empty : NodeTable :=
  ⟨[], by simp⟩

/-- The number of nodes of a table. -/
def count (table : NodeTable) : Nat :=
  table.entries.length

/-- Whether a node is in a table. -/
def contains (table : NodeTable) (node : ParameterizedTy) : Bool :=
  let size := node.size
  table.entries.any fun entry => entry.1 == size && entry.2 == node

/-- A table with a node added in front. -/
def insert (table : NodeTable) (node : ParameterizedTy) : NodeTable where
  entries := (node.size, node) :: table.entries
  sized := by
    intro entry member
    rcases List.mem_cons.mp member with rfl | member
    · rfl
    · exact table.sized entry member

/-- The number of arguments of the nodes of a class, if there are any. -/
def arity? (table : NodeTable) (erasure : ClassId) : Option Nat :=
  (table.toList.find? fun node => node.erasure == erasure).map
    fun node => node.args.length

@[simp]
theorem toList_empty : empty.toList = [] :=
  rfl

@[simp]
theorem toList_insert (table : NodeTable) (node : ParameterizedTy) :
    (table.insert node).toList = node :: table.toList :=
  rfl

@[simp]
theorem length_toList (table : NodeTable) :
    table.toList.length = table.count := by
  simp [toList, count]

theorem contains_iff (table : NodeTable) (node : ParameterizedTy) :
    table.contains node = true ↔ node ∈ table.toList := by
  simp only [contains, toList, List.any_eq_true, Bool.and_eq_true, beq_iff_eq,
    List.mem_map]
  constructor
  · rintro ⟨entry, member, _, same⟩
    exact ⟨entry, member, same⟩
  · rintro ⟨entry, member, rfl⟩
    exact ⟨entry, member, table.sized entry member, rfl⟩

end NodeTable

end JavaTypes
