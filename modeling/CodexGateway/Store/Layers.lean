import CodexGateway.Store.Groups
import CodexGateway.Store.Pricing

/-! # Funding layers

The funding sources of a request in billing order: the pools of the user's
usable groups, then the personal layer. Admission records them; settlement reads
them back and binds the layer whose pool contains the account that served the
request.
-/

namespace Store

open Billing

def maxUpstreamAllocationCandidates : Nat := 256

/-- The range of an `INTEGER` column. -/
def maxUpstreamAllocationWeight : Nat := 2 ^ 31 - 1

namespace FundingLayer

def position : FundingLayer → Nat
  | .group layer => layer.position
  | .personal position => position

def contains (layer : FundingLayer) (accountID : Text) : Bool :=
  match layer with
  | .group layer => layer.accountIDs.contains accountID
  | .personal _ => true

end FundingLayer

/-! ## Admission -/

def snapshotGroupUpstreamAllocationGroup (db : Db) (groupID : GroupID)
    (provider : UpstreamProvider) : List AccountID :=
  if (groupID, provider) ∈ db.upstreamAccess.selected then
    (db.upstreamAccounts.rows.filter fun account =>
      account.provider = provider ∧
        (groupID, provider, account.id) ∈ db.upstreamAccess.pooled).map UpstreamAccount.id
  else
    (db.upstreamAccounts.rows.filter fun account => account.provider = provider).map
      UpstreamAccount.id

/-- The accounts of a pool that the user may use, in the order of their ids. -/
def userPermittedAccounts (db : Db) (userID : UserID) (provider : UpstreamProvider)
    (ids : List AccountID) : List Text :=
  let permitted := db.upstreamAccounts.rows.filter fun account =>
    account.id ∈ ids ∧ account.provider = provider ∧
      (account.shared ∨ (account.id, userID) ∈ db.upstreamAccess.granted) ∧
      ((userID, provider) ∉ db.upstreamAccess.restricted ∨
        (userID, provider, account.id) ∈ db.upstreamAccess.allowed)
  (permitted.map fun account => account.id.val).insertionSort (· ≤ ·)

/-- The group layers before they are numbered; an empty pool drops its group. -/
def groupPools (db : Db) (params : BillingReservationParams) :
    List GroupSummary → Except StoreError (List GroupLayer)
  | [] => .ok []
  | group :: rest => do
    let pool := snapshotGroupUpstreamAllocationGroup db group.id params.upstreamProvider
    let ids := userPermittedAccounts db params.userID params.upstreamProvider pool
    if ids = [] then groupPools db params rest
    else if ids.length > maxUpstreamAllocationCandidates then
      throw (.invalid "group account pool exceeds the forwarding limit")
    else
      let others ← groupPools db params rest
      return ⟨0, group.id, group.periodID, ids⟩ :: others

/-- Number the layers from one; the personal layer comes last. -/
def numberLayers (personal : Bool) : Nat → List GroupLayer → List FundingLayer
  | position, [] => if personal then [.personal position] else []
  | position, layer :: rest =>
    .group { layer with position } :: numberLayers personal (position + 1) rest

def fundingLayers (db : Db) (params : BillingReservationParams) (groups : List GroupSummary)
    (personal : Bool) : Except StoreError (List FundingLayer) := do
  let pools ← groupPools db params groups
  return numberLayers (personal || params.billingMode = .internalZero) 1 pools

/-- The column `account_ids` of a group layer, as its `CHECK` wants it. -/
def accountColumn (accountIDs : List Text) : Option (List AccountID) :=
  if 1 ≤ accountIDs.length ∧ accountIDs.length ≤ 256 then
    accountIDs.mapM fun text => if valid : IsAccountID text then some ⟨text, valid⟩ else none
  else none

def layerPool : FundingLayer → Option LayerPool
  | .personal _ => some .personal
  | .group layer =>
    (accountColumn layer.accountIDs).map (.group layer.groupID layer.groupPeriodID ·)

/-- The rows that the partial unique indexes on layers compare a new row with. -/
def LayerRow.clashes (row other : LayerRow) : Bool :=
  row.requestID = other.requestID &&
    match row.pool, other.pool with
    | .group groupID _ _, .group otherID _ _ => groupID = otherID
    | .personal, .personal => true
    | _, _ => false

def recordFundingLayer (db : Db) (requestID : Text) (userID : UserID) (layer : FundingLayer) :
    Except StoreError Db := do
  match layerPool layer with
  | none => throw (.invalid "record billing funding layer")
  | some pool =>
    if layer.position < 1 ∨ layer.position > 65 then
      throw (.invalid "record billing funding layer")
    let row : LayerRow := ⟨requestID, layer.position, userID, pool⟩
    if db.layers.rows.any row.clashes then throw (.conflict "record billing funding layer")
    match db.layers.insert? row with
    | none => throw (.conflict "record billing funding layer")
    | some layers => return { db with layers }

def recordFundingLayers (requestID : Text) (userID : UserID) :
    List FundingLayer → Db → Except StoreError Db
  | [], db => .ok db
  | layer :: rest, db => do
    let db ← recordFundingLayer db requestID userID layer
    recordFundingLayers requestID userID rest db

/-! ## Settlement -/

/-- The text of `array_to_string(account_ids, ',')`. -/
def joinAccounts (ids : List AccountID) : Text :=
  [','].intercalate (ids.map Subtype.val)

def splitAccounts (accounts : Text) : List Text :=
  if accounts = [] then [] else accounts.splitOn ','

def LayerRow.read (row : LayerRow) : FundingLayer :=
  match row.pool with
  | .personal => .personal row.position
  | .group groupID periodID ids =>
    .group ⟨row.position, groupID, periodID, splitAccounts (joinAccounts ids)⟩

def readFundingLayers (db : Db) (requestID : Text) : Except StoreError (List FundingLayer) :=
  let rows := (db.layers.rows.filter fun row => row.requestID = requestID).insertionSort
    fun a b => a.position ≤ b.position
  if rows = [] then .error (.conflict "rule 4 reservation without funding layers")
  else .ok (rows.map LayerRow.read)

/-- The group layers of a list that contain an account. -/
def groupsContaining (accountID : Text) (layers : List FundingLayer) : List GroupLayer :=
  (layers.filter fun layer => layer.contains accountID).filterMap fun
    | .group layer => some layer
    | .personal _ => none

def hasPersonal (layers : List FundingLayer) : Bool :=
  layers.any fun
    | .personal _ => true
    | .group _ => false

structure LayerCandidates where
  groups : List GroupLayer
  personal : Bool
  attributed : Bool
  deriving Repr, DecidableEq

def settlementLayerCandidates (layers : List FundingLayer) (accountID : Text) : LayerCandidates :=
  let groups := if accountID = [] then [] else groupsContaining accountID layers
  let personal := if accountID = [] then false else hasPersonal layers
  if groups ≠ [] ∨ personal then ⟨groups, personal, true⟩
  else
    match layers with
    | .group first :: _ => ⟨[first], false, false⟩
    | .personal _ :: _ => ⟨[], true, false⟩
    | [] => ⟨[], false, false⟩

/-- The funds of a group period that a request may be bound to. -/
def candidatePeriod (db : Db) (context : String) (groupID : GroupID) (periodID : PeriodID) :
    Except StoreError GroupPeriod :=
  match db.groupPeriods.find? periodID with
  | none => .error (.notFound context)
  | some period => if period.groupID = groupID then .ok period else .error (.notFound context)

/-- The first candidate that still has period and member funds. -/
def fundedCandidate (db : Db) (userID : UserID) :
    List GroupLayer → Except StoreError (Option GroupLayer)
  | [] => .ok none
  | layer :: rest => do
    let period ← candidatePeriod db "read candidate group funding" layer.groupID
      layer.groupPeriodID
    let remaining := groupMemberRemaining db layer.groupPeriodID userID
      (period.memberLimitUSD.map numericText)
    if billingPositive (numericText period.available) ∧ remaining.all billingPositive then
      return some layer
    else fundedCandidate db userID rest

def bindSettlementLayer (db : Db) (reservation : BillingReservation)
    (candidates : List GroupLayer) (personal : Bool) :
    Except StoreError (Db × BillingReservation) := do
  let funded ← fundedCandidate db reservation.userID candidates
  let chosen := funded.or candidates.head?
  if chosen = none ∧ personal = false then
    throw (.conflict "rule 4 settlement without a paying layer")
  let groupID := chosen.map GroupLayer.groupID
  let groupPeriodID := chosen.map GroupLayer.groupPeriodID
  let affected := (db.reservations.find? reservation.requestID).any fun row => row.state = .reserved
  if affected = false then throw (.notFound "bind settlement funding layer")
  return ({ db with
    reservations := db.reservations.modify reservation.requestID
      (fun row => { row with groupID, groupPeriodID }) (fun _ => rfl) },
    { reservation with groupID, groupPeriodID })

end Store
