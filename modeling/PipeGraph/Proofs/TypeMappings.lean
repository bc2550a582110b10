import PipeGraph.Proofs.Artifacts

/-!
# Type mappings

A type mapping lets a host use a type name of its own.  Mappings may be added
in any number, for one name repeatedly, for the empty name, for a canonical name
and for names that are themselves the target of a mapping.  All of this comes
down to replacing the declared type of every node once, by the target of the
last mapping for it: a graph with these types needs no mappings and compiles in
the same way.
-/

namespace PipeGraph

/-- The target of the last of some mappings for a declared type. -/
def lastMapping? (mappings : List (String × String)) (declared : String) :
    Option String :=
  (mappings.filter fun mapping => mapping.1 = declared).getLast?.map Prod.snd

theorem lastMapping?_concat (mappings : List (String × String))
    (mapping : String × String) (declared : String) :
    lastMapping? (mappings ++ [mapping]) declared =
      if mapping.1 = declared then some mapping.2
      else lastMapping? mappings declared := by
  unfold lastMapping?
  by_cases here : mapping.1 = declared
  · simp [List.filter_append, here]
  · simp [List.filter_append, here]

namespace Editor

/-- A node with its declared type replaced by what the last mapping for it says.
A missing type is looked up under the empty name, and a type without a mapping
stays as it is. -/
def Node.retype (mappings : List (String × String)) (node : Node) : Node :=
  { node with
    declaredType := (lastMapping? mappings (node.declaredType.getD "")).or
      node.declaredType }

/-- A graph with the declared types of its nodes replaced. -/
def Graph.retype (mappings : List (String × String)) (graph : Graph) : Graph :=
  { graph with nodes := graph.nodes.map (Node.retype mappings) }

end Editor

namespace Rules

/-- No mappings, and a validator or none. -/
def unmapped (validator : Option LiteralValidator) : Rules := ⟨[], validator⟩

/-- Add type mappings one after the other. -/
def withTypeMappings (mappings : List (String × String)) (rules : Rules) :
    Rules :=
  mappings.foldl
    (fun rules mapping => rules.withTypeMapping mapping.1 mapping.2) rules

theorem withTypeMappings_concat (mappings : List (String × String))
    (mapping : String × String) (rules : Rules) :
    rules.withTypeMappings (mappings ++ [mapping]) =
      (rules.withTypeMappings mappings).withTypeMapping mapping.1
        mapping.2 := by
  simp [withTypeMappings]

/-- A new mapping counts for its own type name and leaves the others alone. -/
theorem canonicalType_withTypeMapping (rules : Rules)
    (userType canonical declared : String) :
    (rules.withTypeMapping userType canonical).canonicalType declared =
      if userType = declared then canonical
      else rules.canonicalType declared := by
  simp only [canonicalType, withTypeMapping, List.reverse_append,
    List.reverse_singleton, List.singleton_append, List.lookup_cons]
  by_cases here : userType = declared
  · simp [here]
  · have notSame : (declared == userType) = false := by
      simpa using Ne.symm here
    simp [here, notSame]

theorem canonicalType_withTypeMappings (mappings : List (String × String))
    (validator : Option LiteralValidator) (declared : String) :
    ((unmapped validator).withTypeMappings mappings).canonicalType declared =
      (lastMapping? mappings declared).getD declared := by
  -- From the back, because a later mapping hides the earlier ones.
  induction mappings using List.reverseRecOn with
  | nil => rfl
  | append_singleton mappings mapping ih =>
      rw [withTypeMappings_concat, canonicalType_withTypeMapping, ih,
        lastMapping?_concat]
      split <;> rfl

theorem validator_withTypeMappings (mappings : List (String × String))
    (rules : Rules) :
    (rules.withTypeMappings mappings).validator = rules.validator := by
  induction mappings using List.reverseRecOn with
  | nil => rfl
  | append_singleton mappings mapping ih =>
      rw [withTypeMappings_concat]
      exact ih

section Retyped

variable (mappings : List (String × String))
  (validator : Option LiteralValidator)

theorem nodeType_retype (node : Editor.Node) :
    (unmapped validator).nodeType (node.retype mappings) =
      ((unmapped validator).withTypeMappings mappings).nodeType node := by
  rw [nodeType, nodeType, canonicalType_withTypeMappings]
  change ((lastMapping? mappings (node.declaredType.getD "")).or
    node.declaredType).getD "" = _
  cases lastMapping? mappings (node.declaredType.getD "") <;> rfl

theorem classify_retype (node : Editor.Node) :
    (unmapped validator).classify (node.retype mappings) =
      ((unmapped validator).withTypeMappings mappings).classify node := by
  simp only [classify, nodeType_retype]
  rfl

theorem declare_retype (declared : Declared) (node : Editor.Node) :
    (unmapped validator).declare declared (node.retype mappings) =
      ((unmapped validator).withTypeMappings mappings).declare declared
        node := by
  have sameCheck (role : Role) :
      (unmapped validator).checkLiteral node.id role =
        ((unmapped validator).withTypeMappings mappings).checkLiteral node.id
          role := by
    cases role <;> simp only [checkLiteral, validator_withTypeMappings]
  have sameId : (node.retype mappings).id = node.id := rfl
  simp only [declare, classify_retype, sameId, sameCheck]

end Retyped

end Rules

theorem Model.build_retype (mappings : List (String × String))
    (validator : Option LiteralValidator) (graph : Editor.Graph) :
    build (.unmapped validator) (graph.retype mappings) =
      build ((Rules.unmapped validator).withTypeMappings mappings) graph := by
  simp only [build, Editor.Graph.retype, List.foldlM_map, Rules.declare_retype]

/-- Type mappings can be compiled away.  A graph compiles under any mappings as
the graph with its types replaced compiles under none: it returns the same
artifacts or the same error, and reports the same on the way. -/
theorem Compiler.artifacts_retype (mappings : List (String × String))
    (validator : Option LiteralValidator) (policy : PipePolicy)
    (graph : Editor.Graph) :
    artifacts ⟨(Rules.unmapped validator).withTypeMappings mappings, policy⟩
        graph =
      artifacts ⟨.unmapped validator, policy⟩ (graph.retype mappings) := by
  have sameCount : (graph.retype mappings).nodes.length =
      graph.nodes.length := List.length_map _
  have sameEdges : (graph.retype mappings).edges = graph.edges := rfl
  simp only [artifacts, Compiler.model, Model.build_retype, sameCount,
    sameEdges]

/-- The literal of the sample graph gets its type from the last mapping for the
name that it declares, and the mapping for that type is not applied to it. -/
theorem sampleGraph_artifacts_retype :
    (Compiler.artifacts
        ⟨(Rules.unmapped none).withTypeMappings
          [("literal", "command"), ("data", "result"), ("literal", "data")],
          .firstWins⟩ Model.sampleGraph).outcome =
      .ok sampleInput.artifacts := by
  rw [Compiler.artifacts_retype]
  exact Compiler.artifacts_eq_ok_iff.mpr
    ⟨Model.sampleModel, rfl, sampleInput, rfl, rfl⟩

end PipeGraph
