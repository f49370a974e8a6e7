namespace FlowPlan

inductive Section where
  /-- The document itself. -/
  | model
  | timestepper
  | nodes
  | edges
  | parameters
  | recorders
  | tables
  | outputs
deriving DecidableEq

namespace Section

def key : Section → String
  | .model => "model"
  | .timestepper => "timestepper"
  | .nodes => "nodes"
  | .edges => "edges"
  | .parameters => "parameters"
  | .recorders => "recorders"
  | .tables => "tables"
  | .outputs => "outputs"

end Section

end FlowPlan
