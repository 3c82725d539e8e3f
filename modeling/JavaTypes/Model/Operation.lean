import JavaTypes.Model.Skeleton

/-!
# Runs of operations

Every operation that may change a model, as data.  A model is reachable when a
run of such operations leads to it from a fresh model, whether the single
operations succeed or fail.
-/

namespace JavaTypes

/-- An operation on a model with its arguments. -/
inductive Operation where
  | internClass (name : String)
  | defineClass (id : ClassId) (definition : ClassDef)
  | addClass (definition : ClassDef)
  | addTypeVar (definition : TypeVarDef)
  | defineTypeVar (id : TypeVarId) (definition : TypeVarDef)
  | addGeneric (name : String) (kind : ClassKind) (params : List String)
      (superClass : Option Ty) (interfaces : List Ty)
  | narrow (type : Ty) (args : List Ty)
  | narrowClass (id : ClassId) (args : List Ty)
  deriving DecidableEq

namespace Model

/-- The model after an operation. -/
def perform (model : Model) : Operation → Model
  | .internClass name => (model.internClass name).1
  | .defineClass id definition => (model.defineClass id definition).model
  | .addClass definition => (model.addClass definition).model
  | .addTypeVar definition => (model.addTypeVar definition).model
  | .defineTypeVar id definition => (model.defineTypeVar id definition).model
  | .addGeneric name kind params superClass interfaces =>
      (model.addGeneric name kind params superClass interfaces).model
  | .narrow type args => (model.narrow type args).model
  | .narrowClass id args => (model.narrowClass id args).model

/-- The model after a run of operations. -/
def run (model : Model) (operations : List Operation) : Model :=
  operations.foldl perform model

@[simp]
theorem run_nil (model : Model) : model.run [] = model :=
  rfl

@[simp]
theorem run_cons (model : Model) (operation : Operation)
    (operations : List Operation) :
    model.run (operation :: operations) =
      (model.perform operation).run operations :=
  rfl

theorem run_append (model : Model) (first second : List Operation) :
    model.run (first ++ second) = (model.run first).run second := by
  simp [run, List.foldl_append]

/-- Some run of operations on a fresh model leads to the model. -/
def Reachable (model : Model) : Prop :=
  ∃ (config : Config) (operations : List Operation),
    model = (Model.new config).model.run operations

theorem reachable_new (config : Config) :
    Reachable (Model.new config).model :=
  ⟨config, [], rfl⟩

theorem Reachable.run {model : Model} (reachable : model.Reachable)
    (operations : List Operation) : (model.run operations).Reachable := by
  obtain ⟨config, before, rfl⟩ := reachable
  exact ⟨config, before ++ operations, (run_append _ _ _).symm⟩

end Model

end JavaTypes
