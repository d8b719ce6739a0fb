import ModelPort.Stream.Translation

/-!
# The response policy for tool calls

What the gateway requires of the tool calls in an upstream response: a name that was declared, an
argument object that satisfies the tool's schema, and a number of calls that fits the request.
With best-effort validation everything passes.
-/

namespace ModelPort.Stream

/-- How tool calls are checked. -/
inductive ToolResponseValidation where
  | bestEffort
  | strict
  deriving DecidableEq

/-- A compiled schema: the path of the instance and of the schema where a value fails. -/
abbrev Validator := Json → Except (String × String) Unit

/-- What tool calls may be. -/
structure ToolResponsePolicy where
  validation : ToolResponseValidation
  allowedNames : Option (List String)
  inputValidators : List (String × Validator)
  minimumCalls : ℕ
  maximumCalls : Option ℕ

namespace ToolResponsePolicy

variable (policy : ToolResponsePolicy)

def validateName (name : Option String) : Except AppError String :=
  if policy.validation = .bestEffort then .ok (name.getD "tool")
  else
    match name.filter (trim · ≠ "") with
    | none =>
      .error (.upstreamProtocol "OpenAI-compatible tool call is missing a function name")
    | some name =>
      if policy.allowedNames.any (!·.contains name) then
        .error (.upstreamProtocol
          ("OpenAI-compatible upstream returned undeclared tool `" ++ name ++ "`"))
      else .ok name

/-- The value of an argument text. -/
def argumentValue (serde : Serde) (arguments : String) : Except AppError Json :=
  if trim arguments = "" then .ok (.obj [])
  else
    match serde.fromStr arguments with
    | .ok (.obj fields) => .ok (.obj fields)
    | .ok value =>
      if policy.validation = .bestEffort then .ok (.obj [("_raw_arguments", value)])
      else .error (.upstreamProtocol "OpenAI-compatible tool arguments must be a JSON object")
    | .error error =>
      if policy.validation = .bestEffort then .ok (.obj [("_raw_arguments", .str arguments)])
      else
        .error (.upstreamProtocol
          ("OpenAI-compatible tool arguments are invalid JSON: " ++ error))

def parseArguments (serde : Serde) (name arguments : String) : Except AppError Json := do
  let value ← policy.argumentValue serde arguments
  if policy.validation = .strict then
    match policy.inputValidators.lookup name with
    | none =>
      throw (.upstreamProtocol "OpenAI-compatible tool call has no compiled input schema")
    | some validate =>
      match validate value with
      | .ok () => pure value
      | .error (instancePath, schemaPath) =>
        throw (.toolArgumentsInvalid instancePath schemaPath none)
  else pure value

def validateCallSummary (callCount : ℕ) (finishReason : Option String) : Except AppError Unit :=
  let stoppedForTools :=
    finishReason = some "tool_calls" ∨ finishReason = some "function_call"
  if policy.validation = .bestEffort then .ok ()
  else if callCount < policy.minimumCalls then
    .error (.upstreamProtocol ("OpenAI-compatible upstream returned " ++ toString callCount
      ++ " tool calls, but tool_choice requires at least " ++ toString policy.minimumCalls))
  else if policy.maximumCalls.any (· < callCount) then
    .error (.upstreamProtocol ("OpenAI-compatible upstream returned " ++ toString callCount
      ++ " tool calls, exceeding the allowed maximum of "
      ++ toString (policy.maximumCalls.getD 0)))
  else if 0 < callCount ∧ ¬stoppedForTools then
    .error (.upstreamProtocol
      "OpenAI-compatible upstream returned tool calls without a tool_calls finish reason")
  else if callCount = 0 ∧ stoppedForTools then
    .error (.upstreamProtocol
      "OpenAI-compatible upstream returned a tool_calls finish reason without a tool call")
  else .ok ()

end ToolResponsePolicy

end ModelPort.Stream
