/-! # Authoring problems

    What can be wrong with a flow version before it is compiled, each kind of problem
    with its message. -/

namespace Dialogue.Flow

/-- What can be wrong with a version. -/
inductive Problem where
  | noFirstTask
  | unknownFirstTask (id : String)
  | repeatedVariable (id : String)
  | noPrompt (variableName typeName : String)
  | noEnumValues (variableName : String)
  | undeclaredVariable (taskId variableId : String)
  | repeatedDescription (taskId description : String)
  | unknownConnection (taskId connectedId : String)
  | noTimeout (taskId : String)
  deriving DecidableEq, Repr

/-- The problem in words. -/
def Problem.message : Problem → String
  | .noFirstTask => "ConversationalFlowVersion requires field \"firstTask\" when draft is false"
  | .unknownFirstTask id => s!"firstTask \"{id}\" does not exist in tasks array"
  | .repeatedVariable id => s!"Variable id \"{id}\" is declared twice"
  | .noPrompt name type => s!"Variable \"{name}\" of type \"{type}\" requires a prompt"
  | .noEnumValues name => s!"Variable \"{name}\" of type \"enum\" requires enumValues"
  | .undeclaredVariable task variableId =>
    s!"Task \"{task}\" references undeclared variable \"{variableId}\""
  | .repeatedDescription task description =>
    s!"Task \"{task}\" reuses description \"{description}\""
  | .unknownConnection task connected =>
    s!"Task \"{task}\" references non-existent connectedTask \"{connected}\""
  | .noTimeout task => s!"Task \"{task}\": routingParameters.timeout must be a positive number"

end Dialogue.Flow
