import JavaTypes.Id

/-!
# Name tables

A name table binds names to classes, each name at most once as far as lookups
can tell.
-/

namespace JavaTypes

/-- A finite map from names to class ids. -/
structure NameTable where
  entries : List (String × ClassId)
  deriving DecidableEq

namespace NameTable

/-- The table that binds nothing. -/
def empty : NameTable :=
  ⟨[]⟩

/-- The class a name is bound to. -/
def find? (table : NameTable) (name : String) : Option ClassId :=
  table.entries.lookup name

/-- Bind a name, whatever it was bound to before. -/
def insert (table : NameTable) (name : String) (id : ClassId) : NameTable :=
  ⟨(name, id) :: table.entries⟩

/-- Unbind a name. -/
def erase (table : NameTable) (name : String) : NameTable :=
  ⟨table.entries.filter fun entry => entry.1 != name⟩

@[simp]
theorem find?_empty (name : String) : empty.find? name = none :=
  rfl

@[simp]
theorem find?_insert (table : NameTable) (name other : String) (id : ClassId) :
    (table.insert name id).find? other =
      if other = name then some id else table.find? other := by
  by_cases same : other = name
  · simp [find?, insert, same]
  · have differs : (other == name) = false := by simpa using same
    simp [find?, insert, List.lookup_cons, same, differs]

@[simp]
theorem find?_erase (table : NameTable) (name other : String) :
    (table.erase name).find? other =
      if other = name then none else table.find? other := by
  obtain ⟨entries⟩ := table
  simp only [find?, erase]
  induction entries with
  | nil => simp
  | cons entry rest induction =>
      obtain ⟨bound, id⟩ := entry
      by_cases dropped : bound = name
      · subst dropped
        simp only [bne_self_eq_false, Bool.false_eq_true, not_false_eq_true,
          List.filter_cons_of_neg, induction, List.lookup_cons]
        by_cases same : other = bound
        · simp [same]
        · have differs : (other == bound) = false := by simpa using same
          simp [same, differs]
      · have kept : (bound != name) = true := by simpa using dropped
        simp only [kept, List.filter_cons_of_pos, List.lookup_cons, induction]
        by_cases hit : other = bound
        · subst hit
          simp [dropped]
        · have differs : (other == bound) = false := by simpa using hit
          simp [differs]

end NameTable

end JavaTypes
