import LoanWorkflow.Model.Context

/-! # Data that flows between tasks

    Inputs of a task are read from the outputs of finished tasks, payloads are
    checked against JSON schemas, and fields of a finished task are copied
    into the metadata of its case.
-/

namespace LoanWorkflow

/-! ## Paths -/

def splitPath (path : String) : List String :=
  ((trimSpace path).splitOn ".").filterMap nullIfEmptyString

def Json.get? : Json → List String → Option Json
  | j, [] => some j
  | j, segment :: segments => (j.field? segment).bind (fun value => value.get? segments)

def getByPath (data : Json) (path : String) : Option Json :=
  match splitPath path with
  | [] => none
  | segments => data.get? segments

/-- The path without a leading part, if it has it. -/
def stripPrefix? (path lead : String) : Option String :=
  if lead.toList.isPrefixOf path.toList then some (String.ofList (path.toList.drop lead.length))
  else none

/-! ## Inputs of a task -/

/-- Errors of `ResolveTaskInputs`. -/
inductive InputError where
  | dependency (sourceTask sourceField : String)
  | failed (e : Err)

/-- `DependencyError.Error`. -/
def dependencyText (sourceTask sourceField : String) : String :=
  "Dependency not satisfied: waiting for " ++ trimSpace sourceTask ++ "." ++ trimSpace sourceField

/-- Does `t` come before `u` in the order of the latest completion? -/
def Task.finishedAfter (t u : Task) : Bool :=
  match t.completedAt, u.completedAt with
  | some a, some b => decide (b < a) || (a == b && decide (u.createdAt < t.createdAt))
  | some _, none => true
  | none, some _ => false
  | none, none => decide (u.createdAt < t.createdAt)

/-- The completed task of a case that finished last under a code. -/
def latestCompletedTask (s : Store) (caseId : Id) (code : String) : Option Task :=
  let candidates := (s.tasks.rows.map Prod.snd).filter (fun t =>
    t.caseId == caseId && t.status == .completed && t.taskDefinitionCode == code)
  candidates.foldl (fun best t =>
    match best with
    | none => some t
    | some b => if t.finishedAfter b then some t else best) none

/-- The outputs of the source tasks that are there. -/
def sourceOutputs (s : Store) (caseId : Id) (sources : List String) :
    Except InputError (List (String × Json)) :=
  (sources.filterMap (fun code => (latestCompletedTask s caseId code).map (fun t => (code, t)))).mapM
    (fun e =>
      if e.2.outputPayload.isMap then .ok (e.1, e.2.outputPayload)
      else .error (.failed ("ResolveTaskInputs: parse output payload for " ++ e.1)))

/-- The value that one input reads, if it is there. -/
def inputValue (outputs : List (String × Json)) (sourceTask sourceField : String) : Option Json := do
  let payload ← outputs.lookup sourceTask
  match getByPath payload sourceField with
  | some value => some value
  | none => (stripPrefix? sourceField "output_payload.").bind (getByPath payload)

/-- One input, added to the fields resolved so far. -/
def resolveInput (taskDef : TaskDefinition) (outputs : List (String × Json)) (resolved : Json)
    (input : TaskInputDefinition) : Except InputError Json :=
  let field := trimSpace input.field
  let sourceTask := trimSpace input.sourceTask
  if field = "" then
    .error (.failed ("ResolveTaskInputs: input field is required for task " ++ taskDef.code))
  else if sourceTask = "" then
    if input.required && (resolved.field? field).isNone then
      .error (.dependency taskDef.code field)
    else .ok resolved
  else
    let sourceField := (nullIfEmptyString input.sourceField).getD field
    match inputValue outputs sourceTask sourceField with
    | some value =>
      match resolved with
      | .obj fields => .ok (.obj (Json.setField fields field value))
      -- the defaults were the JSON null, which decodes to a nil map
      | _ => .error (.failed "assignment to entry in nil map")
    | none =>
      if input.required then .error (.dependency sourceTask sourceField) else .ok resolved

/-- The default inputs of a task definition: its configuration. -/
def defaultInputs (taskDef : TaskDefinition) (e : Err) : Except InputError Json :=
  let config := taskDef.config.getD (.obj [])
  if config.isMap then .ok config else .error (.failed e)

def resolveTaskInputs (s : Store) (caseId : Id) (taskDef : TaskDefinition) :
    Except InputError Json := do
  let resolved ← defaultInputs taskDef "ResolveTaskInputs: parse task config defaults"
  let sources := (taskDef.inputs.map (fun input => trimSpace input.sourceTask)).filter (· != "")
  let outputs ← sourceOutputs s caseId sources.dedup
  taskDef.inputs.foldlM (resolveInput taskDef outputs) resolved

/-- The inputs of a new task: its configuration, or what its input definitions resolve to. -/
def taskInputs (s : Store) (caseId : Id) (taskDef : TaskDefinition) : Except InputError Json := do
  let defaults ← defaultInputs taskDef
    ("failed to parse default input config for task " ++ taskDef.code)
  if taskDef.inputs.isEmpty then return defaults else resolveTaskInputs s caseId taskDef

/-! ## Schemas -/

/-- Is a payload accepted by a schema, if there is one? -/
def acceptedBy (lib : Library) (schema : Option Json) (payload : Json) : Bool :=
  match schema with
  | none => true
  | some (.obj []) => true
  | some schema => lib.schemaAccepts schema payload

def validateTaskInput (lib : Library) (taskDef : TaskDefinition) (payload : Json) :
    Except Err Unit :=
  ensure (acceptedBy lib taskDef.inputSchema payload) "ValidateTaskInput: validation failed"

def validateTaskOutput (lib : Library) (taskDef : TaskDefinition) (payload : Json) :
    Except Err Unit :=
  ensure (acceptedBy lib taskDef.outputSchema payload) "ValidateTaskOutput: validation failed"

/-! ## Aggregation -/

def resolveAggregationSourceValue (taskInput taskOutput : Json) (sourceField : String) :
    Option Json :=
  let sourceField := trimSpace sourceField
  if sourceField = "" then none
  else
    match stripPrefix? sourceField "input_payload.", stripPrefix? sourceField "output_payload." with
    | some path, _ => getByPath taskInput path
    | none, some path => getByPath taskOutput path
    | none, none => getByPath taskOutput sourceField <|> getByPath taskInput sourceField

/-- The metadata path that a rule writes for a finished task; none when the rule does not
    apply. -/
def AggregationRule.target? (rule : AggregationRule) (task : Task) : Option String :=
  let target := trimSpace rule.targetField
  let target := (stripPrefix? target "metadata.").getD target
  if rule.onTaskComplete && trimSpace rule.sourceTask == trimSpace task.taskDefinitionCode &&
      target != "" then some target
  else none

def isPathChar (c : Char) : Bool := c.isAlphanum || c == '_' || c == '-'

/-- `jsonbPathLiteral`: the segments of a safe path. -/
def jsonbPath (path : String) : Except Err (List String) := do
  let segments := splitPath path
  ensure (!segments.isEmpty) "jsonbPathLiteral: path is empty"
  ensure (segments.all (fun segment => segment.toList.all isPathChar))
    "jsonbPathLiteral: unsafe path segment"
  return segments

/-- The patches of the rules: the path and the value each rule writes. -/
def aggregationPatches (task : Task) (rules : List AggregationRule) :
    Except Err (List (String × Json)) :=
  (rules.filterMap (fun rule => (rule.target? task).map (fun target => (rule, target)))).mapM
    (fun e => do
      let value ← orFail
        (resolveAggregationSourceValue task.inputPayload task.outputPayload e.1.sourceField)
        ("ApplyAggregationRules: source field not found for rule source_task=" ++ e.1.sourceTask ++
          " source_field=" ++ e.1.sourceField)
      return (e.2, value))

def applyAggregationRules (lib : Library) (s : Store) (caseId : Id) (task : Task)
    (rules : List AggregationRule) : Except Err Store := do
  ensure (task.inputPayload.isMap && task.outputPayload.isMap)
    "ApplyAggregationRules: parse task payload"
  let patches ← aggregationPatches task rules
  if patches.isEmpty then return s
  else
    let paths ← patches.mapM (fun patch => do
      let segments ← jsonbPath patch.1
      return (segments, patch.2))
    match s.cases.get? caseId with
    | none => return s
    | some c =>
      let metadata ← paths.foldlM (fun doc patch => lib.jsonbSet doc patch.1 patch.2) c.metadata
      return s.updateCase caseId
        (fun c => { c with metadata := metadata, rowVersion := c.rowVersion + 1 })

end LoanWorkflow
