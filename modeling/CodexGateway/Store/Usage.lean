import CodexGateway.Store.Schema

/-! # Usage rows

A usage row is opened with its request and completed once. A second completion with
the same values is accepted, one with other values is a conflict.
-/

namespace Store

open Billing

/-- An empty string is stored as `NULL`. -/
def valueOrNil (value : Text) : Option Text :=
  if value = [] then none else some value

def endpointNamed (name : Text) : Option Endpoint :=
  [("responses".toList, Endpoint.responses), ("responses.compact".toList, .responsesCompact),
    ("models".toList, .models), ("gemini.generateContent".toList, .geminiGenerateContent),
    ("gemini.streamGenerateContent".toList, .geminiStreamGenerateContent),
    ("messages".toList, .messages), ("messages.count_tokens".toList, .messagesCountTokens)].lookup
      name

/-! ## Opening -/

structure BeginUsageRequestParams where
  requestID : Text
  userID : UserID
  deviceID : DeviceID
  apiKeyID : KeyID
  model : Text
  requestedServiceTier : Text
  pricingRuleVersion : Int
  endpoint : Text
  requestedAt : Time
  requestBytes : Int
  deriving Repr, DecidableEq

def normalizeBeginUsageRequest (params : BeginUsageRequestParams) :
    Except StoreError BeginUsageRequestParams :=
  let params := { params with
    model := Text.trimSpace params.model
    requestedServiceTier := Text.trimSpace params.requestedServiceTier
    pricingRuleVersion := if params.pricingRuleVersion = 0 then 1 else params.pricingRuleVersion }
  if params.requestID = [] ∨ params.model = [] ∨ params.requestBytes < 0 ∨
      (params.pricingRuleVersion ≠ 1 ∧ params.pricingRuleVersion ≠ 2) ∨
      Text.byteLength params.requestedServiceTier > 32 then
    .error (.invalid "invalid usage request metadata")
  else .ok params

/-- The token columns of a row that no usage was recorded for. -/
def noMetrics : UsageMetrics := ⟨0, 0, 0, false, 0, 0, false, 0, 0⟩

theorem noMetrics_valid : noMetrics.Valid := by
  decide

def openUsage (params : BeginUsageRequestParams) (endpoint : Endpoint) : UsageRequest where
  requestID := params.requestID
  userID := params.userID
  deviceID := params.deviceID
  apiKeyID := params.apiKeyID
  model := params.model
  endpoint := endpoint
  requestedAt := params.requestedAt
  firstTokenAt := none
  completedAt := none
  state := .inProgress
  httpStatus := none
  errorCode := none
  metrics := ⟨noMetrics, noMetrics_valid⟩
  requestBytes := params.requestBytes
  responseBytes := 0
  upstreamRequestID := none
  upstreamAccountID := none
  actualServiceTier := none
  conversationHash := none
  pricingServiceTier := none
  contextClass := none
  pricingFallbackReason := none

/-- The row is selected from the key history, so an unknown key inserts nothing. -/
def beginUsageRequest (db : Db) (params : BeginUsageRequestParams) (endpoint : Endpoint) :
    Except StoreError (Db × UsageRequest) :=
  match db.apiKeys.find? params.apiKeyID with
  | none => .error (.notFound "begin usage request")
  | some key =>
    if key.userID = params.userID ∧ key.deviceID = params.deviceID then
      let row := openUsage params endpoint
      match db.usage.insert? row with
      | none => .error (.conflict "begin usage request")
      | some usage => .ok ({ db with usage }, row)
    else .error (.notFound "begin usage request")

/-! ## Completion -/

structure CompleteUsageRequestParams where
  requestID : Text
  conversationHash : Text
  state : UsageState
  httpStatus : Int
  errorCode : Text
  firstTokenAt : Option Time
  completedAt : Time
  metrics : UsageMetrics
  requestBytes : Int
  responseBytes : Int
  upstreamRequestID : Text
  upstreamAccountID : Text
  actualModel : Text
  actualServiceTier : Text
  deriving Repr, DecidableEq

def validateCacheWriteTTL (total fiveMinute oneHour : Int) (totalPresent ttlPresent : Bool) :
    Except StoreError Unit :=
  if total < 0 ∨ fiveMinute < 0 ∨ oneHour < 0 then
    .error (.invalid "negative cache write TTL metrics")
  else if ttlPresent then
    if totalPresent = false ∨ fiveMinute > total ∨ oneHour ≠ total - fiveMinute then
      .error (.invalid "cache write TTL metrics do not match total")
    else .ok ()
  else if fiveMinute ≠ 0 ∨ oneHour ≠ 0 then
    .error (.invalid "unobserved cache write TTL metrics")
  else .ok ()

/-- The checks on the token counts of a completion. -/
def validateUsageMetrics (m : UsageMetrics) : Except StoreError Unit := do
  if m.inputTokens < 0 ∨ m.cachedInputTokens < 0 ∨ m.cacheWriteTokens < 0 ∨ m.outputTokens < 0 ∨
      m.reasoningTokens < 0 ∨ m.cachedInputTokens > m.inputTokens ∨
      m.cacheWriteTokens > m.inputTokens - m.cachedInputTokens then
    throw (.invalid "invalid usage metrics")
  validateCacheWriteTTL m.cacheWriteTokens m.cacheWrite5mTokens m.cacheWrite1hTokens
    m.cacheWriteTokensPresent m.cacheWriteTTLPresent

def validConversationHash (value : Text) : Bool :=
  Text.byteLength value = 37 && "conv-".toList.isPrefixOf value &&
    (value.drop 5).all fun c => ('a' ≤ c ∧ c ≤ 'f') ∨ ('0' ≤ c ∧ c ≤ '9')

/-- An account id that does not match the pattern is dropped. -/
def normalizeUpstreamAccountID (value : Text) : Option AccountID :=
  if valid : IsAccountID (Text.trimSpace value) then some ⟨Text.trimSpace value, valid⟩ else none

/-- A completion after its checks, with the account it is attributed to. -/
structure Completion where
  params : CompleteUsageRequestParams
  account : Option AccountID
  deriving DecidableEq

def normalizeCompletion (params : CompleteUsageRequestParams) : Except StoreError Completion := do
  if params.requestID = [] ∨ params.state = .inProgress then
    throw (.invalid "invalid terminal usage state")
  if params.httpStatus < 100 ∨ params.httpStatus > 599 ∨ params.requestBytes < 0 ∨
      params.responseBytes < 0 then
    throw (.invalid "invalid usage metrics")
  validateUsageMetrics params.metrics
  let tier := Text.trimSpace params.actualServiceTier
  if Text.byteLength tier > 32 then throw (.invalid "invalid actual service tier")
  return {
    params := { params with
      actualModel := Text.trimSpace params.actualModel
      conversationHash :=
        if validConversationHash params.conversationHash then params.conversationHash else []
      actualServiceTier := tier }
    account := normalizeUpstreamAccountID params.upstreamAccountID }

/-- The account of a completion, created if it is unknown. A store for one provider
drops the account of another and fails the request. -/
def attributeUsage (provider : Option UpstreamProvider) (db : Db) (completion : Completion) :
    Db × Completion :=
  match completion.account with
  | none => (db, completion)
  | some id =>
    match db.upstreamAccounts.find? id with
    | none =>
      match db.upstreamAccounts.insert? ⟨id, provider.getD .codex, true⟩ with
      | none => (db, completion)
      | some upstreamAccounts => ({ db with upstreamAccounts }, completion)
    | some account =>
      if provider.all (· = account.provider) then (db, completion)
      else
        let params := completion.params
        if params.state = .completed ∨ params.state = .degraded then
          (db, ⟨{ params with
            state := .failed
            errorCode := "upstream_account_provider_mismatch".toList }, none⟩)
        else (db, ⟨params, none⟩)

def UsageRequest.complete (row : UsageRequest) (completion : Completion)
    (valid : completion.params.metrics.Valid) : UsageRequest :=
  let params := completion.params
  { row with
    state := params.state
    httpStatus := some params.httpStatus
    errorCode := valueOrNil params.errorCode
    firstTokenAt := row.firstTokenAt.or params.firstTokenAt
    completedAt := some params.completedAt
    metrics := ⟨params.metrics, valid⟩
    requestBytes := params.requestBytes
    responseBytes := params.responseBytes
    upstreamRequestID := valueOrNil params.upstreamRequestID
    model := if params.actualModel = [] then row.model else params.actualModel
    actualServiceTier := valueOrNil params.actualServiceTier
    upstreamAccountID := completion.account
    conversationHash := valueOrNil params.conversationHash }

/-- The rows that a completion may update. -/
def UsageRequest.admits (row : UsageRequest) (params : CompleteUsageRequestParams) : Bool :=
  row.state = .inProgress ∧ row.requestedAt ≤ params.completedAt ∧
    params.firstTokenAt.all fun at' => row.requestedAt ≤ at' ∧ at' ≤ params.completedAt

def UsageRequest.replays (row : UsageRequest) (completion : Completion) : Bool :=
  let params := completion.params
  row.state = params.state ∧ row.httpStatus = some params.httpStatus ∧
    row.errorCode = valueOrNil params.errorCode ∧ row.completedAt = some params.completedAt ∧
    row.metrics.val.inputTokens = params.metrics.inputTokens ∧
    row.metrics.val.cachedInputTokens = params.metrics.cachedInputTokens ∧
    row.metrics.val.cacheWriteTokens = params.metrics.cacheWriteTokens ∧
    row.metrics.val.cacheWriteTokensPresent = params.metrics.cacheWriteTokensPresent ∧
    row.metrics.val.cacheWrite5mTokens = params.metrics.cacheWrite5mTokens ∧
    row.metrics.val.cacheWrite1hTokens = params.metrics.cacheWrite1hTokens ∧
    row.metrics.val.cacheWriteTTLPresent = params.metrics.cacheWriteTTLPresent ∧
    row.metrics.val.outputTokens = params.metrics.outputTokens ∧
    row.metrics.val.reasoningTokens = params.metrics.reasoningTokens ∧
    row.requestBytes = params.requestBytes ∧ row.responseBytes = params.responseBytes ∧
    row.upstreamRequestID = valueOrNil params.upstreamRequestID ∧
    row.firstTokenAt = params.firstTokenAt ∧
    (params.actualModel = [] ∨ row.model = params.actualModel) ∧
    row.actualServiceTier = valueOrNil params.actualServiceTier ∧
    row.conversationHash = valueOrNil params.conversationHash ∧
    row.upstreamAccountID = completion.account

/-- The update of the row, and what is said when there is nothing to update. -/
def recordCompletion (db : Db) (completion : Completion) : Except StoreError (Db × UsageRequest) :=
  let params := completion.params
  match db.usage.find? params.requestID with
  | none => .error (.notFound "complete usage request")
  | some row =>
    if row.admits params then
      if valid : params.metrics.Valid then
        let completed := row.complete completion valid
        if row.firstTokenAt.any (params.completedAt < ·) then
          .error (.invalid "complete usage request")
        else
          .ok ({ db with
            usage := db.usage.modify params.requestID
              (fun row => row.complete completion valid) (fun _ => rfl) }, completed)
      else .error (.invalid "complete usage request")
    else if row.replays completion then .ok (db, row)
    else if row.state ≠ .inProgress then
      .error (.conflict "complete usage request differently")
    else .error (.notFound "complete usage request")

/-- The account is created before the row is updated, and stays if the update fails. -/
def completeUsageRequest (provider : Option UpstreamProvider) (db : Db)
    (params : CompleteUsageRequestParams) : Db × Except StoreError UsageRequest :=
  match normalizeCompletion params with
  | .error err => (db, .error err)
  | .ok completion =>
    let (attributed, completion) := attributeUsage provider db completion
    match recordCompletion attributed completion with
    | .error err => (attributed, .error err)
    | .ok (recorded, row) => (recorded, .ok row)

end Store
