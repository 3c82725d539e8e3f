import JavaTypes.Proofs.Construction
import JavaTypes.Proofs.FailedOperations
import Mathlib.Data.Finset.Card

/-!
# Narrowing in any order

Callers may narrow through one model at the same time.  Each of their requests
takes the table of nodes for itself while it uses it, so together they make some
sequence of requests, and nobody knows which.

The order does not matter.  A request reads declarations, which no request
changes, and so its answer is the same at every place of a sequence.  The nodes
of the table afterwards are those of before together with the nodes among the
answers.  Each of these that is new is reported as interned once, whoever asked
for it first, and every other request for a node reports that it was found.
-/

namespace JavaTypes

/-- A call that narrows, with its arguments. -/
inductive Request where
  | narrow (type : Ty) (args : List Ty)
  | narrowClass (id : ClassId) (args : List Ty)
  deriving DecidableEq

/-- A request as an operation of a run. -/
def Request.operation : Request → Operation
  | .narrow type args => .narrow type args
  | .narrowClass id args => .narrowClass id args

/-- The event says that a node is new. -/
def Event.isInterned : Event → Bool
  | .nodeInterned _ _ => true
  | _ => false

namespace Model

def serve (model : Model) : Request → Outcome Ty
  | .narrow type args => model.narrow type args
  | .narrowClass id args => model.narrowClass id args

private theorem perform_operation (model : Model) (request : Request) :
    model.perform request.operation = (model.serve request).model := by
  cases request <;> rfl

/-- What each request of a sequence leaves behind, in order. -/
def outcomes (model : Model) : List Request → List (Outcome Ty)
  | [] => []
  | request :: requests =>
      model.serve request :: (model.serve request).model.outcomes requests

/-- The node among the answers: what a request is answered with, if that is a
parameterized type. -/
def node? (model : Model) (request : Request) : Option ParameterizedTy :=
  match (model.serve request).answer with
  | .ok (.parameterized erasure args) => some ⟨erasure, args⟩
  | _ => none

private theorem node?_eq_some_iff
    {model : Model} {request : Request} {node : ParameterizedTy} :
    model.node? request = some node ↔
      (model.serve request).answer = .ok node.toTy := by
  obtain ⟨erasure, args⟩ := node
  unfold node? ParameterizedTy.toTy
  split
  · rename_i erasure' args' answered
    simp [answered]
  · rename_i other
    simp only [reduceCtorEq, false_iff]
    exact other erasure args

/-! ## One request -/

/-- Answers depend on declarations only. -/
private theorem answer_serve_congr
    {first second : Model} (sameEnv : first.env = second.env)
    (request : Request) :
    (first.serve request).answer = (second.serve request).answer := by
  have sameClasses : first.classDef? = second.classDef? :=
    congrArg Env.classDef? sameEnv
  have ofClass (id : ClassId) (args : List Ty) :
      (first.narrowClass id args).answer =
        (second.narrowClass id args).answer := by
    simp only [narrowClass, sameClasses]
    cases second.classDef? id with
    | none => rfl
    | some definition =>
        dsimp only
        split
        · rfl
        · split
          · rfl
          · simp only [Traced.map, answer_internNode]
  cases request with
  | narrow type args =>
      simp only [serve, narrow]
      split
      · simp [Outcome.fail, render, sameEnv]
      · exact ofClass _ args
  | narrowClass id args => exact ofClass id args

private theorem node?_congr
    {first second : Model} (sameEnv : first.env = second.env) :
    first.node? = second.node? := by
  funext request
  rw [node?, answer_serve_congr sameEnv request, node?]

private theorem env_serve (model : Model) (request : Request) :
    (model.serve request).model.env = model.env := by
  cases request with
  | narrow type args => exact env_narrow model type args
  | narrowClass id args => exact env_narrowClass model id args

private theorem narrowClass_cases (model : Model) (id : ClassId)
    (args : List Ty) :
    (∃ answer : Except ModelError Ty,
      model.narrowClass id args = ⟨model, [], answer⟩ ∧
        ∀ node : ParameterizedTy, answer ≠ .ok node.toTy) ∨
    ∃ node : ParameterizedTy,
      model.narrowClass id args = (model.internNode node).map .ok := by
  unfold narrowClass
  split
  · exact Or.inl ⟨_, rfl, by simp⟩
  · split
    · exact Or.inl ⟨_, rfl, by simp⟩
    · split
      · exact Or.inl ⟨_, rfl, by simp [ParameterizedTy.toTy]⟩
      · exact Or.inr ⟨⟨id, args⟩, rfl⟩

/-- A request that is not answered with a node does nothing; any other does what
interning its node does. -/
private theorem serve_cases (model : Model) (request : Request) :
    (model.node? request = none ∧ (model.serve request).model = model ∧
      (model.serve request).events = []) ∨
    ∃ node, model.node? request = some node ∧
      model.serve request = (model.internNode node).map .ok := by
  have idle {answer : Except ModelError Ty}
      (served : model.serve request = ⟨model, [], answer⟩)
      (noNode : ∀ node : ParameterizedTy, answer ≠ .ok node.toTy) :
      model.node? request = none ∧ (model.serve request).model = model ∧
        (model.serve request).events = [] := by
    refine ⟨?_, by rw [served], by rw [served]⟩
    rw [Option.eq_none_iff_forall_ne_some]
    intro node found
    rw [node?_eq_some_iff, served] at found
    exact noNode node found
  have ofClass {id : ClassId} {args : List Ty}
      (served : model.serve request = model.narrowClass id args) :
      (model.node? request = none ∧ (model.serve request).model = model ∧
        (model.serve request).events = []) ∨
      ∃ node, model.node? request = some node ∧
        model.serve request = (model.internNode node).map .ok := by
    rcases narrowClass_cases model id args with
      ⟨answer, narrowed, noNode⟩ | ⟨node, narrowed⟩
    · exact Or.inl (idle (served.trans narrowed) noNode)
    · refine Or.inr ⟨node, ?_, served.trans narrowed⟩
      rw [node?_eq_some_iff, served, narrowed, Traced.map, answer_internNode]
  cases request with
  | narrow type args =>
      cases shape : type.classId? with
      | none =>
          have served : model.serve (.narrow type args) =
              ⟨model, [], .error (.notGeneric (model.render .qualified type))⟩ := by
            simp [serve, narrow, shape, Outcome.fail]
          exact Or.inl (idle served (by simp))
      | some id =>
          have served : model.serve (.narrow type args) =
              model.narrowClass id args := by
            simp [serve, narrow, shape]
          exact ofClass served
  | narrowClass id args => exact ofClass rfl

/-- The nodes after a request are those of before and the one it is answered
with. -/
private theorem mem_interned_serve (model : Model) (request : Request)
    (node : ParameterizedTy) :
    node ∈ (model.serve request).model.interned.toList ↔
      node ∈ model.interned.toList ∨ model.node? request = some node := by
  rcases serve_cases model request with ⟨none, same, _⟩ | ⟨met, some, served⟩
  · simp [none, same]
  · rw [served, some]
    simp only [Traced.map, internNode, Option.some.injEq]
    split
    · rename_i present
      rw [NodeTable.contains_iff] at present
      constructor
      · exact Or.inl
      · rintro (old | rfl)
        · exact old
        · exact present
    · simp [eq_comm, or_comm]

/-- A request adds one node for each report that a node is new. -/
private theorem count_interned_serve (model : Model) (request : Request) :
    (model.serve request).model.interned.count =
      model.interned.count +
        (model.serve request).events.countP Event.isInterned := by
  rcases serve_cases model request with ⟨_, same, quiet⟩ | ⟨node, _, served⟩
  · simp [same, quiet]
  · rw [served]
    simp only [Traced.map, internNode]
    split
    · simp [Event.isInterned]
    · simp [Event.isInterned, NodeTable.count, NodeTable.insert]

/-- A request for a node reports that the node was found or that it is new, and
any other request reports nothing. -/
private theorem events_serve (model : Model) (request : Request) :
    (∀ node : ParameterizedTy,
      (model.serve request).answer = .ok node.toTy →
        (model.serve request).events = [.nodeFound node.erasure] ∨
          ∃ count, (model.serve request).events =
            [.nodeInterned node.erasure count]) ∧
    ((∀ node : ParameterizedTy,
      (model.serve request).answer ≠ .ok node.toTy) →
        (model.serve request).events = []) := by
  rcases serve_cases model request with ⟨none, _, quiet⟩ | ⟨met, some, served⟩
  · refine ⟨fun node answered => ?_, fun _ => quiet⟩
    rw [← node?_eq_some_iff, none] at answered
    cases answered
  · constructor
    · intro node answered
      rw [← node?_eq_some_iff, some] at answered
      cases answered
      rw [served]
      simp only [Traced.map, internNode]
      split
      · exact Or.inl rfl
      · exact Or.inr ⟨_, rfl⟩
    · intro noNode
      exact absurd (node?_eq_some_iff.mp some) (noNode met)

/-! ## Sequences of requests -/

private theorem run_operations_cons (model : Model) (request : Request)
    (requests : List Request) :
    model.run ((request :: requests).map Request.operation) =
      (model.serve request).model.run (requests.map Request.operation) := by
  rw [List.map_cons, run_cons, perform_operation]

private theorem answers_outcomes (model : Model) (requests : List Request) :
    (model.outcomes requests).map Traced.answer =
      requests.map fun request => (model.serve request).answer := by
  induction requests generalizing model with
  | nil => rfl
  | cons request requests inductionHypothesis =>
      have sameAnswers :=
        funext (answer_serve_congr (env_serve model request))
      simp only [outcomes, List.map_cons, inductionHypothesis, sameAnswers]

private theorem exists_serve_of_mem_outcomes
    {model : Model} {requests : List Request} {outcome : Outcome Ty}
    (member : outcome ∈ model.outcomes requests) :
    ∃ (later : Model) (request : Request), outcome = later.serve request := by
  induction requests generalizing model with
  | nil => cases member
  | cons request requests inductionHypothesis =>
      rcases List.mem_cons.mp member with rfl | rest
      · exact ⟨model, request, rfl⟩
      · exact inductionHypothesis rest

private theorem mem_interned_requests (model : Model) (requests : List Request)
    (node : ParameterizedTy) :
    node ∈ (model.run (requests.map Request.operation)).interned.toList ↔
      node ∈ model.interned.toList ∨
        node ∈ requests.filterMap model.node? := by
  induction requests generalizing model with
  | nil => simp
  | cons request requests inductionHypothesis =>
      rw [run_operations_cons, inductionHypothesis, mem_interned_serve,
        node?_congr (env_serve model request), or_assoc]
      cases found : model.node? request with
      | none => simp [found]
      | some met => simp [found, eq_comm]

private theorem count_interned_requests (model : Model)
    (requests : List Request) :
    (model.run (requests.map Request.operation)).interned.count =
      model.interned.count +
        ((model.outcomes requests).flatMap Traced.events).countP
          Event.isInterned := by
  induction requests generalizing model with
  | nil => simp [outcomes]
  | cons request requests inductionHypothesis =>
      rw [run_operations_cons, inductionHypothesis, count_interned_serve]
      simp [outcomes, Nat.add_assoc]

/-! ## The table holds each node once -/

def NodesDistinct (model : Model) : Prop :=
  model.interned.toList.Nodup

private theorem Setup.nodesDistinct
    {before after : Model} (step : Setup before after)
    (distinct : before.NodesDistinct) : after.NodesDistinct := by
  cases step with
  | keep _ fresh => exact List.nodup_cons.mpr ⟨fresh, distinct⟩
  | _ => exact distinct

private theorem Edit.nodesDistinct
    {before after : Model} (edit : Edit before after)
    (distinct : before.NodesDistinct) : after.NodesDistinct := by
  cases edit with
  | keep _ _ _ fresh => exact List.nodup_cons.mpr ⟨fresh, distinct⟩
  | _ => exact distinct

theorem Reachable.nodesDistinct
    {model : Model} (reachable : model.Reachable) : model.NodesDistinct :=
  reachable.invariant (fun _ => List.nodup_nil) Setup.nodesDistinct
    Edit.nodesDistinct

/-- The nodes that requests are answered with and the model does not hold. -/
def newNodes (model : Model) (requests : List Request) :
    Finset ParameterizedTy :=
  (requests.filterMap model.node?).toFinset \ model.interned.toList.toFinset

private theorem newNodes_of_perm
    {model : Model} {requests order : List Request}
    (permuted : order.Perm requests) :
    model.newNodes order = model.newNodes requests := by
  have sameNodes :
      (order.filterMap model.node?).toFinset =
        (requests.filterMap model.node?).toFinset :=
    List.toFinset_eq_of_perm _ _ (permuted.filterMap model.node?)
  rw [newNodes, sameNodes, newNodes]

theorem NodesDistinct.count_requests
    {model : Model} (distinct : model.NodesDistinct) (requests : List Request) :
    (model.run (requests.map Request.operation)).interned.count =
      model.interned.count + (model.newNodes requests).card := by
  have laterDistinct :
      (model.run (requests.map Request.operation)).NodesDistinct :=
    (edits_run model _).invariant Edit.nodesDistinct distinct
  have laterNodes :
      (model.run (requests.map Request.operation)).interned.toList.toFinset =
        (requests.filterMap model.node?).toFinset ∪
          model.interned.toList.toFinset := by
    ext node
    rw [Finset.mem_union, List.mem_toFinset, List.mem_toFinset,
      List.mem_toFinset, mem_interned_requests, or_comm]
  calc (model.run (requests.map Request.operation)).interned.count
      = (model.run
          (requests.map Request.operation)).interned.toList.toFinset.card := by
        rw [List.toFinset_card_of_nodup laterDistinct, NodeTable.length_toList]
    _ = (model.newNodes requests).card +
          model.interned.toList.toFinset.card := by
        rw [laterNodes, newNodes, Finset.card_sdiff_add_card]
    _ = model.interned.count + (model.newNodes requests).card := by
        rw [List.toFinset_card_of_nodup distinct, NodeTable.length_toList,
          Nat.add_comm]

/-! ## Narrowing again -/

private theorem classId?_of_narrow
    {model : Model} {type result : Ty} {args : List Ty}
    (answered : (model.narrow type args).answer = .ok result) :
    result.classId? = type.classId? := by
  obtain ⟨id, shape, same⟩ := narrow_eq_narrowClass answered
  rw [same] at answered
  obtain ⟨definition, _, _, outcome⟩ := declared_of_narrowClass answered
  rcases outcome with ⟨_, rfl⟩ | ⟨_, rfl, _⟩
  · exact shape.symm
  · exact shape.symm

/-- Narrowing a result replaces its arguments, in any model. -/
theorem narrow_of_narrow
    {model : Model} {type result : Ty} {args : List Ty}
    (answered : (model.narrow type args).answer = .ok result)
    (other : Model) (others : List Ty) :
    other.narrow result others = other.narrow type others := by
  obtain ⟨id, shape, _⟩ := narrow_eq_narrowClass answered
  simp only [narrow, classId?_of_narrow answered, shape]

/-- Requests may come in any order.  Each gets the answer that it gets from the
model at the start; the nodes afterwards are those of the start and those among
the answers, each once; there are as many more as there are new nodes among the
answers, which is the number of reports of a new node; and every other request
for a node reports that it was found.  Narrowing a result is narrowing what it
was made from. -/
theorem narrowing_requests_commute
    (model : Model) (reachable : model.Reachable)
    (requests order : List Request) (permuted : order.Perm requests) :
    let later := model.run (order.map Request.operation)
    ((model.outcomes order).map Traced.answer =
      order.map fun request => (model.serve request).answer) ∧
    (∀ node, node ∈ later.interned.toList ↔
      node ∈ model.interned.toList ∨
        ∃ request ∈ requests,
          (model.serve request).answer = .ok node.toTy) ∧
    later.interned.toList.Nodup ∧
    later.interned.count =
      model.interned.count + (model.newNodes requests).card ∧
    ((model.outcomes order).flatMap Traced.events).countP Event.isInterned =
      (model.newNodes requests).card ∧
    (∀ outcome ∈ model.outcomes order,
      (∀ node : ParameterizedTy, outcome.answer = .ok node.toTy →
        outcome.events = [.nodeFound node.erasure] ∨
          ∃ count, outcome.events = [.nodeInterned node.erasure count]) ∧
      ((∀ node : ParameterizedTy, outcome.answer ≠ .ok node.toTy) →
        outcome.events = [])) ∧
    (∀ type args result others,
      (model.narrow type args).answer = .ok result →
        ∀ other : Model,
          other.narrow result others = other.narrow type others) := by
  intro later
  have distinct := reachable.nodesDistinct
  have grows :
      later.interned.count =
        model.interned.count + (model.newNodes requests).card := by
    rw [← newNodes_of_perm permuted]
    exact distinct.count_requests order
  have reported := count_interned_requests model order
  refine ⟨answers_outcomes model order, ?_,
    (edits_run model _).invariant Edit.nodesDistinct distinct, grows, ?_, ?_,
    ?_⟩
  · intro node
    rw [mem_interned_requests, (permuted.filterMap model.node?).mem_iff,
      List.mem_filterMap]
    simp only [node?_eq_some_iff]
  · change later.interned.count = _ at reported
    omega
  · intro outcome member
    obtain ⟨before, request, rfl⟩ := exists_serve_of_mem_outcomes member
    exact events_serve before request
  · intro type args result others answered other
    exact narrow_of_narrow answered other others

/-- Requests for `List<String>` twice, for a list of such lists, for the node
`Comparable<Integer>` that the skeleton has, for `String` without arguments, and
two that are refused. -/
def skeletonRequests : List Request :=
  [.narrowClass (.ofNat 12) [.cls (.ofNat 6)],
    .narrow (.cls (.ofNat 12)) [.parameterized (.ofNat 12) [.cls (.ofNat 6)]],
    .narrow (.parameterized (.ofNat 12) [.unbounded]) [.cls (.ofNat 6)],
    .narrowClass (.ofNat 4) [.cls (.ofNat 8)],
    .narrowClass (.ofNat 6) [],
    .narrowClass (.ofNat 14) [.unbounded],
    .narrow .unbounded []]

/-- In whatever order these requests come, the skeleton gets two nodes more. -/
theorem narrowing_requests_commute_skeleton :
    skeleton.Reachable ∧ skeletonRequests.reverse.Perm skeletonRequests ∧
      (skeleton.run
          (skeletonRequests.reverse.map Request.operation)).interned.count = 9 ∧
        ((skeleton.outcomes skeletonRequests.reverse).flatMap
            Traced.events).countP Event.isInterned = 2 ∧
          (skeleton.outcomes skeletonRequests.reverse).map Traced.answer =
            skeletonRequests.reverse.map fun request =>
              (skeleton.serve request).answer := by
  have reachable : skeleton.Reachable := reachable_new _
  have permuted := List.reverse_perm skeletonRequests
  obtain ⟨held, new⟩ :
      skeleton.interned.count = 7 ∧
        (skeleton.newNodes skeletonRequests).card = 2 := by
    decide +kernel
  obtain ⟨answers, _, _, count, reports, _⟩ :=
    narrowing_requests_commute skeleton reachable skeletonRequests
      skeletonRequests.reverse permuted
  rw [held, new] at count
  rw [new] at reports
  exact ⟨reachable, permuted, count, reports, answers⟩

end Model

end JavaTypes
