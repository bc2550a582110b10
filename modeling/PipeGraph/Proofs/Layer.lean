import PipeGraph.Proofs.Edges

/-!
# Layers of a tree

Which edges lead from a node to the nodes below it, and how the tree at a node
is put together from the trees at their sources.  A layer takes the relation
between sources and trees as a parameter, so that one and the same description
serves the walk, with whatever budget it has left, and the unfolding of a
model, which knows of no budget.
-/

namespace PipeGraph

namespace InputTree

mutual

/-- The number of nodes on a longest way down an input tree. -/
def height : InputTree → Nat
  | command _ input parameters _ =>
      1 + max (inputHeight input) (parametersHeight parameters)
  | data _ _ => 1
  | operation _ left right => 1 + max left.height right.height

/-- The height of an optional pipe input. -/
def inputHeight : Option InputTree → Nat
  | none => 0
  | some input => input.height

/-- The greatest height of a parameter value. -/
def parametersHeight : List (String × InputTree) → Nat
  | [] => 0
  | (_, value) :: others => max value.height (parametersHeight others)

end

theorem height_pos (tree : InputTree) : 0 < tree.height := by
  cases tree <;> simp only [height] <;> omega

theorem left_height_lt (operator : Operator) (left right : InputTree) :
    left.height < (operation operator left right).height := by
  simp only [height]
  omega

theorem right_height_lt (operator : Operator) (left right : InputTree) :
    right.height < (operation operator left right).height := by
  simp only [height]
  omega

theorem inputHeight_lt (name : String) (input : Option InputTree)
    (parameters : List (String × InputTree)) (switches : List String) :
    inputHeight input < (command name input parameters switches).height := by
  simp only [height]
  omega

theorem parametersHeight_lt (name : String) (input : Option InputTree)
    (parameters : List (String × InputTree)) (switches : List String) :
    parametersHeight parameters <
      (command name input parameters switches).height := by
  simp only [height]
  omega

theorem value_height_le (name : String) (value : InputTree)
    (others : List (String × InputTree)) :
    value.height ≤ parametersHeight ((name, value) :: others) :=
  Nat.le_max_left _ _

theorem parametersHeight_le_cons (name : String) (value : InputTree)
    (others : List (String × InputTree)) :
    parametersHeight others ≤ parametersHeight ((name, value) :: others) :=
  Nat.le_max_right _ _

end InputTree

namespace Incoming

variable {below otherBelow : InputTree → NodeId → Prop}
  {edges : List Incoming}

theorem Operands.unique {leftId rightId otherLeftId otherRightId : NodeId}
    (first : Operands edges leftId rightId)
    (second : Operands edges otherLeftId otherRightId) :
    leftId = otherLeftId ∧ rightId = otherRightId := by
  rcases first with rfl | rfl <;> simpa [Operands, and_comm] using second

namespace PipeFrom

variable {input : Option InputTree}

theorem mono (pipe : PipeFrom below input edges)
    (lift : ∀ lower sourceId, lower.height ≤ InputTree.inputHeight input →
      below lower sourceId → otherBelow lower sourceId) :
    PipeFrom otherBelow input edges := by
  induction pipe with
  | absent => exact .absent
  | first feeds treeBelow =>
      exact .first feeds (lift _ _ (by simp [InputTree.inputHeight]) treeBelow)
  | later named _ ih => exact .later named (ih lift)

theorem height_le (pipe : PipeFrom below input edges) {bound : Nat}
    (lowerLe : ∀ lower sourceId, below lower sourceId →
      lower.height ≤ bound) :
    InputTree.inputHeight input ≤ bound := by
  induction pipe with
  | absent => simp [InputTree.inputHeight]
  | first _ treeBelow => exact lowerLe _ _ treeBelow
  | later _ _ ih => exact ih

theorem exists_of_find? (pipe : PipeFrom below input edges) {edge : Incoming}
    (found : edges.find? (fun edge => edge.FeedsPipe) = some edge) :
    ∃ tree, input = some tree ∧ below tree edge.source := by
  have related := pipeFrom_iff.mp pipe
  rw [head?_pipeSources, found] at related
  cases related with
  | some treeBelow => exact ⟨_, rfl, treeBelow⟩

end PipeFrom

namespace ParametersFrom

variable {parameters : List (String × InputTree)}

theorem mono (collected : ParametersFrom below parameters edges)
    (lift : ∀ lower sourceId,
      lower.height ≤ InputTree.parametersHeight parameters →
      below lower sourceId → otherBelow lower sourceId) :
    ParametersFrom otherBelow parameters edges := by
  induction collected with
  | absent => exact .absent
  | named isNamed treeBelow _ ih =>
      refine .named isNamed
        (lift _ _ (InputTree.value_height_le _ _ _) treeBelow) (ih ?_)
      intro lower sourceId lowerLe
      exact lift lower sourceId
        (Nat.le_trans lowerLe (InputTree.parametersHeight_le_cons _ _ _))
  | unnamed feeds _ ih => exact .unnamed feeds (ih lift)

theorem height_le (collected : ParametersFrom below parameters edges)
    {bound : Nat}
    (lowerLe : ∀ lower sourceId, below lower sourceId →
      lower.height ≤ bound) :
    InputTree.parametersHeight parameters ≤ bound := by
  induction collected with
  | absent => simp [InputTree.parametersHeight]
  | named _ treeBelow _ ih =>
      have treeLe := lowerLe _ _ treeBelow
      simp only [InputTree.parametersHeight]
      omega
  | unnamed _ _ ih => exact ih

theorem exists_of_mem (collected : ParametersFrom below parameters edges)
    {edge : Incoming} {name : String} (member : edge ∈ edges)
    (isNamed : edge.handle = some (.named name)) :
    ∃ tree, tree.height ≤ InputTree.parametersHeight parameters ∧
      below tree edge.source := by
  induction collected with
  | absent => simp at member
  | @named first _ tree _ _ _ treeBelow _ ih =>
      rcases List.mem_cons.mp member with rfl | later
      · exact ⟨tree, InputTree.value_height_le _ _ _, treeBelow⟩
      · obtain ⟨lower, lowerLe, lowerBelow⟩ := ih later
        refine ⟨lower, ?_, lowerBelow⟩
        exact Nat.le_trans lowerLe (InputTree.parametersHeight_le_cons _ _ _)
  | unnamed feeds _ ih =>
      rcases List.mem_cons.mp member with rfl | later
      · exact (feeds _ isNamed).elim
      · exact ih later

end ParametersFrom

end Incoming

namespace Model

/-- The edges that the walk follows back from a node: the first pipe edge and
every named edge of a command, and both edges of an operator that has its two
operands. -/
inductive Follows (model : Model) (nodeId : NodeId) : NodeId → Prop
  | pipe {name switches edge} :
      model.role? nodeId = some (.command name switches) →
      (model.incoming nodeId).find? (fun edge => edge.FeedsPipe) = some edge →
      Follows model nodeId edge.source
  | parameter {name switches edge parameter} :
      model.role? nodeId = some (.command name switches) →
      edge ∈ model.incoming nodeId → edge.handle = some (.named parameter) →
      Follows model nodeId edge.source
  | left {operator leftId rightId} :
      model.role? nodeId = some (.operation operator) →
      Incoming.Operands (model.incoming nodeId) leftId rightId →
      Follows model nodeId leftId
  | right {operator leftId rightId} :
      model.role? nodeId = some (.operation operator) →
      Incoming.Operands (model.incoming nodeId) leftId rightId →
      Follows model nodeId rightId

/-- One layer of the tree at a node, where `below` relates trees to the
sources at which they stand. -/
inductive Layer (policy : PipePolicy) (model : Model)
    (below : InputTree → NodeId → Prop) : InputTree → NodeId → Prop
  | data {nodeId text literalType} :
      model.role? nodeId = some (.data text literalType) →
      Layer policy model below (.data text literalType) nodeId
  | operation {nodeId operator leftId rightId left right} :
      model.role? nodeId = some (.operation operator) →
      Incoming.Operands (model.incoming nodeId) leftId rightId →
      below left leftId → below right rightId →
      Layer policy model below (.operation operator left right) nodeId
  | command {nodeId name switches input parameters} :
      model.role? nodeId = some (.command name switches) →
      (policy = .strict →
        (model.incoming nodeId).countP (fun edge => edge.FeedsPipe) ≤ 1) →
      Incoming.PipeFrom below input (model.incoming nodeId) →
      Incoming.ParametersFrom below parameters (model.incoming nodeId) →
      Layer policy model below (.command name input parameters switches) nodeId

namespace Layer

variable {policy : PipePolicy} {model : Model}
  {below otherBelow : InputTree → NodeId → Prop} {tree : InputTree}
  {nodeId : NodeId}

theorem role_isSome (layer : Layer policy model below tree nodeId) :
    ∃ role, model.role? nodeId = some role ∧ role ≠ .result := by
  cases layer with
  | data isData => exact ⟨_, isData, by simp⟩
  | operation isOperation _ _ _ => exact ⟨_, isOperation, by simp⟩
  | command isCommand _ _ _ => exact ⟨_, isCommand, by simp⟩

theorem data_iff {text : String} {literalType : LiteralType}
    (isData : model.role? nodeId = some (.data text literalType)) :
    Layer policy model below tree nodeId ↔ tree = .data text literalType := by
  constructor
  · rintro (same | ⟨other, _⟩ | ⟨other, _⟩)
    · rw [isData] at same
      cases same
      rfl
    · rw [isData] at other
      cases other
    · rw [isData] at other
      cases other
  · rintro rfl
    exact .data isData

theorem operation_iff {operator : Operator}
    (isOperation : model.role? nodeId = some (.operation operator)) :
    Layer policy model below tree nodeId ↔
      ∃ leftId rightId left right,
        Incoming.Operands (model.incoming nodeId) leftId rightId ∧
        below left leftId ∧ below right rightId ∧
        tree = .operation operator left right := by
  constructor
  · rintro (other | ⟨same, operands, left, right⟩ | ⟨other, _⟩)
    · rw [isOperation] at other
      cases other
    · rw [isOperation] at same
      cases same
      exact ⟨_, _, _, _, operands, left, right, rfl⟩
    · rw [isOperation] at other
      cases other
  · rintro ⟨leftId, rightId, left, right, operands, leftBelow, rightBelow,
      rfl⟩
    exact .operation isOperation operands leftBelow rightBelow

theorem command_iff {name : String} {switches : List String}
    (isCommand : model.role? nodeId = some (.command name switches)) :
    Layer policy model below tree nodeId ↔
      ∃ input parameters,
        (policy = .strict →
          (model.incoming nodeId).countP (fun edge => edge.FeedsPipe) ≤ 1) ∧
        Incoming.PipeFrom below input (model.incoming nodeId) ∧
        Incoming.ParametersFrom below parameters (model.incoming nodeId) ∧
        tree = .command name input parameters switches := by
  constructor
  · rintro (other | ⟨other, _⟩ | ⟨same, allowed, input, parameters⟩)
    · rw [isCommand] at other
      cases other
    · rw [isCommand] at other
      cases other
    · rw [isCommand] at same
      cases same
      exact ⟨_, _, allowed, input, parameters, rfl⟩
  · rintro ⟨input, parameters, allowed, inputBelow, parametersBelow, rfl⟩
    exact .command isCommand allowed inputBelow parametersBelow

/-- The trees below may be related otherwise, as long as those lower than the
tree itself are. -/
theorem mono (layer : Layer policy model below tree nodeId)
    (lift : ∀ lower sourceId, lower.height < tree.height →
      below lower sourceId → otherBelow lower sourceId) :
    Layer policy model otherBelow tree nodeId := by
  cases layer with
  | data isData => exact .data isData
  | operation isOperation operands leftBelow rightBelow =>
      exact .operation isOperation operands
        (lift _ _ (InputTree.left_height_lt _ _ _) leftBelow)
        (lift _ _ (InputTree.right_height_lt _ _ _) rightBelow)
  | command isCommand allowed inputBelow parametersBelow =>
      refine .command isCommand allowed (inputBelow.mono ?_)
        (parametersBelow.mono ?_)
      · intro lower sourceId lowerLe
        exact lift lower sourceId
          (Nat.lt_of_le_of_lt lowerLe (InputTree.inputHeight_lt _ _ _ _))
      · intro lower sourceId lowerLe
        exact lift lower sourceId
          (Nat.lt_of_le_of_lt lowerLe (InputTree.parametersHeight_lt _ _ _ _))

/-- A layer adds one to the height of what is below it. -/
theorem height_le (layer : Layer policy model below tree nodeId) {bound : Nat}
    (lowerLe : ∀ lower sourceId, below lower sourceId →
      lower.height ≤ bound) :
    tree.height ≤ bound + 1 := by
  cases layer with
  | data isData => simp [InputTree.height]
  | operation _ _ leftBelow rightBelow =>
      have leftLe := lowerLe _ _ leftBelow
      have rightLe := lowerLe _ _ rightBelow
      simp only [InputTree.height]
      omega
  | command _ _ inputBelow parametersBelow =>
      have inputLe := inputBelow.height_le lowerLe
      have parametersLe := parametersBelow.height_le lowerLe
      simp only [InputTree.height]
      omega

/-- At the source of every followed edge stands a lower tree. -/
theorem exists_of_follows (layer : Layer policy model below tree nodeId)
    {sourceId : NodeId} (follows : Follows model nodeId sourceId) :
    ∃ lower, below lower sourceId ∧ lower.height < tree.height := by
  cases follows with
  | pipe isCommand found =>
      obtain ⟨input, parameters, _, inputBelow, _, rfl⟩ :=
        (command_iff isCommand).mp layer
      obtain ⟨lower, rfl, lowerBelow⟩ := inputBelow.exists_of_find? found
      exact ⟨lower, lowerBelow, InputTree.inputHeight_lt _ (some lower) _ _⟩
  | parameter isCommand member named =>
      obtain ⟨input, parameters, _, _, parametersBelow, rfl⟩ :=
        (command_iff isCommand).mp layer
      obtain ⟨lower, lowerLe, lowerBelow⟩ :=
        parametersBelow.exists_of_mem member named
      exact ⟨lower, lowerBelow,
        Nat.lt_of_le_of_lt lowerLe (InputTree.parametersHeight_lt _ _ _ _)⟩
  | left isOperation operands =>
      obtain ⟨leftId, rightId, left, right, sameOperands, leftBelow, _, rfl⟩ :=
        (operation_iff isOperation).mp layer
      obtain ⟨rfl, rfl⟩ := operands.unique sameOperands
      exact ⟨left, leftBelow, InputTree.left_height_lt _ _ _⟩
  | right isOperation operands =>
      obtain ⟨leftId, rightId, left, right, sameOperands, _, rightBelow, rfl⟩ :=
        (operation_iff isOperation).mp layer
      obtain ⟨rfl, rfl⟩ := operands.unique sameOperands
      exact ⟨right, rightBelow, InputTree.right_height_lt _ _ _⟩

end Layer

end Model

end PipeGraph
