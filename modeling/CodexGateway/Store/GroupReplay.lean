import CodexGateway.Store.GroupTimeline
import CodexGateway.Store.Invitations

/-! # Repeated group writes

A group write leaves a record of its operation id that no later operation changes. A
repetition is compared with the record, so its answer depends on the record alone, except
for the checks that the write of an account pool makes before it looks for the record.
-/

namespace Store

open Billing Except

variable {db : InvitationDb} {db' : Db} {id : Text} {now : Time} {g : GroupSummary}
  {params : ReviewParams} {row : GroupOperation}

/-! ## Requests -/

inductive GroupRequest where
  | put (params : PutGroupParams) (ids : PutGroupIDs)
  | members (params : SetGroupMembersParams) (newID : PeriodID)
  | archive (params : ArchiveGroupParams) (newID : PeriodID)
  | accounts (params : SetGroupUpstreamAccountsParams)

def GroupRequest.write : GroupRequest → GroupWriteParams
  | .put params _ => params.write
  | .members params _ => params.write
  | .archive params _ => params.write
  | .accounts params => params.write

def GroupRequest.result (db : Db) : GroupRequest → Except StoreError (Db × GroupResponse)
  | .put params ids => putGroup db params ids
  | .members params newID => setGroupMembers db params newID
  | .archive params newID => archiveGroup db params newID
  | .accounts params => setGroupUpstreamAccounts db params

/-- The parameters of a request in the form that the write normalizes them to. -/
inductive GroupAction where
  | put (settings : GroupSettings)
  | members (action : MembersAction) (groupID : GroupID) (userIDs : List UserID)
  | archive (groupID : GroupID)
  | accounts (pool : PoolSettings)
  deriving DecidableEq

def GroupAction.text : GroupAction → Text
  | .put _ => "put".toList
  | .members action _ _ => action.text
  | .archive _ => "archive".toList
  | .accounts _ => "group_upstream_accounts".toList

def GroupAction.values : GroupAction → List Text
  | .put settings => putGroupValues settings
  | .members _ groupID userIDs => idText groupID :: userIDs.map idText
  | .archive groupID => [idText groupID]
  | .accounts pool => poolValues pool

/-- The checks that a request makes before it looks for a record of its operation. -/
def GroupAction.check (db : Db) : GroupAction → Except StoreError Unit
  | .accounts pool => checkPool db pool
  | _ => .ok ()

/-- The normalized parameters of a request, unless a check that reads no table refuses it. -/
def GroupRequest.action : GroupRequest → Except StoreError GroupAction
  | .put params _ => do
    let settings ← putGroupSettings params
    validateGroupWrite params.write
    return .put settings
  | .members params _ => do
    let ids ← memberInput params
    validateGroupWrite params.write
    return .members params.action params.groupID ids
  | .archive params _ => do
    validateGroupWrite params.write
    return .archive params.groupID
  | .accounts params => do
    let pool ← normalizeGroupUpstreamParams params
    validateGroupWrite params.write
    return .accounts pool

/-! ## What a write keeps of the records -/

variable {newID : PeriodID} {s : GroupSettings} {current : Option PeriodID} {r : GroupRequest}
  {a b : GroupAction} {isSet : Bool} {α : Type} {tag : Text} {kind : InvitationKind}
  {users : UserID → Option User} {changed : Nat}

theorem rollGroup_operations {db : Db} {id : GroupID}
    (ok : rollGroup db id now newID = .ok (db', g)) : db'.groupOperations = db.groupOperations := by
  rw [(rollGroup_ok ok).frame]

theorem changeMembers_operations (action : MembersAction) (groupID : GroupID) (ids : List UserID)
    (db : Db) : (changeMembers action groupID ids db).groupOperations = db.groupOperations := by
  have fold (change : Db → UserID → Db)
      (keeps : ∀ db id, (change db id).groupOperations = db.groupOperations) (db : Db) :
      (ids.foldl change db).groupOperations = db.groupOperations := by
    induction ids generalizing db with
    | nil => rfl
    | cons id rest ih => exact (ih (change db id)).trans (keeps db id)
  cases action with
  | add => exact fold (addMember groupID) (fun _ _ => rfl) db
  | remove => exact fold (removeMember groupID) (fun _ _ => rfl) db
  | removeAll => rfl

/-- A function on the database that leaves the records of group writes. -/
def KeepsOperations {α : Type} (apply : Db → Except StoreError (Db × α)) : Prop :=
  ∀ db db' result, apply db = .ok (db', result) → db'.groupOperations = db.groupOperations

theorem keepsOperations_draftGroup (s : GroupSettings) (now : Time) (ids : PutGroupIDs) :
    KeepsOperations fun db => draftGroup db s now ids := by
  intro db db' result ok
  unfold draftGroup at ok
  split at ok
  · obtain ⟨models, -, ok⟩ := bind_eq_ok.mp ok
    cases ok
    rfl
  · obtain ⟨-, ok⟩ := check_bind_eq_ok.mp ok
    obtain ⟨⟨rolled, g⟩, roll, ok⟩ := bind_eq_ok.mp ok
    obtain ⟨-, ok⟩ := check_bind_eq_ok.mp ok
    obtain ⟨models, -, ok⟩ := bind_eq_ok.mp ok
    cases ok
    exact rollGroup_operations roll

theorem saveGroup_operations {db : Db} {start : Time} {expires : Option Time}
    (ok : saveGroup db s g start expires current = .ok db') :
    db'.groupOperations = db.groupOperations := by
  unfold saveGroup at ok
  split at ok
  · split at ok <;> cases ok
    rfl
  · cases ok
    rfl

theorem savePeriod_operations {db : Db} {reset : Bool}
    (ok : savePeriod db reset s g current now newID = .ok db') :
    db'.groupOperations = db.groupOperations := by
  unfold savePeriod at ok
  split at ok
  · rw [(replaceGroupPeriod_ok ok).1]
  · obtain ⟨⟨rolled, g'⟩, roll, ok⟩ := bind_eq_ok.mp ok
    have kept : rolled.groupOperations = (limitPeriod db s g).groupOperations :=
      rollGroup_operations roll
    cases ok
    exact kept

theorem keepsOperations_applyPutGroup (s : GroupSettings) (now : Time) (ids : PutGroupIDs) :
    KeepsOperations (applyPutGroup s now ids) := by
  intro db db' detail ok
  obtain ⟨⟨drafted, old, current⟩, draft, ok⟩ := bind_eq_ok.mp ok
  obtain ⟨g, -, ok⟩ := bind_eq_ok.mp ok
  obtain ⟨expires, -, ok⟩ := bind_eq_ok.mp ok
  obtain ⟨saved, save, ok⟩ := bind_eq_ok.mp ok
  obtain ⟨placed, place, ok⟩ := bind_eq_ok.mp ok
  obtain ⟨read, -, ok⟩ := bind_eq_ok.mp ok
  have kept := calc placed.groupOperations
      _ = saved.groupOperations := savePeriod_operations place
      _ = drafted.groupOperations := saveGroup_operations save
      _ = db.groupOperations := keepsOperations_draftGroup s now ids db _ _ draft
  cases ok
  exact kept

theorem keepsOperations_applySetGroupMembers (params : SetGroupMembersParams) (ids : List UserID)
    (newID : PeriodID) : KeepsOperations (applySetGroupMembers params ids newID) := by
  intro db db' detail ok
  obtain ⟨-, ok⟩ := check_bind_eq_ok.mp ok
  obtain ⟨-, ok⟩ := check_bind_eq_ok.mp ok
  obtain ⟨⟨rolled, g⟩, roll, ok⟩ := bind_eq_ok.mp ok
  obtain ⟨-, ok⟩ := check_bind_eq_ok.mp ok
  obtain ⟨read, -, ok⟩ := bind_eq_ok.mp ok
  cases ok
  exact (changeMembers_operations _ _ _ rolled).trans (rollGroup_operations roll)

theorem keepsOperations_applyArchiveGroup (params : ArchiveGroupParams) (newID : PeriodID) :
    KeepsOperations (applyArchiveGroup params newID) := by
  intro db db' detail ok
  obtain ⟨-, ok⟩ := check_bind_eq_ok.mp ok
  obtain ⟨⟨rolled, g⟩, roll, ok⟩ := bind_eq_ok.mp ok
  obtain ⟨-, ok⟩ := check_bind_eq_ok.mp ok
  obtain ⟨read, -, ok⟩ := bind_eq_ok.mp ok
  have kept := rollGroup_operations roll
  cases ok
  exact kept

theorem keepsOperations_applyPreference (params : SetGroupMembershipPreferenceParams) :
    KeepsOperations (applyPreference params) := by
  intro db db' response ok
  unfold applyPreference at ok
  split at ok
  · cases ok
  · obtain ⟨-, ok⟩ := refuse_eq_ok.mp ok
    obtain ⟨-, ok⟩ := refuse_eq_ok.mp ok
    cases ok
    rfl

/-- `groupWrite` runs on the database and answers with the detail of the group. -/
def detailed (apply : Db → Except StoreError (Db × GroupDetail)) (claimed : Db) :
    Except StoreError (Db × GroupResponse) := do
  let (done, detail) ← apply claimed
  return (done, .group detail)

theorem KeepsOperations.detailed {apply : Db → Except StoreError (Db × GroupDetail)}
    (keeps : KeepsOperations apply) : KeepsOperations (detailed apply) := by
  intro db db' response ok
  obtain ⟨⟨done, detail⟩, applied, ok⟩ := bind_eq_ok.mp ok
  have kept := keeps db done detail applied
  cases ok
  exact kept

theorem groupWrite_of_valid {params : GroupWriteParams} (valid : validateGroupWrite params = .ok ())
    (db : Db) (action : Text) (values : List Text)
    (apply : Db → Except StoreError (Db × GroupDetail)) :
    groupWrite db params action values apply =
      claimedWrite db params action (values ++ [Text.trimSpace params.reason]) (detailed apply) := by
  unfold groupWrite
  rw [valid]
  rfl

/-- A request with accepted parameters makes its checks and is then a claimed write. -/
theorem GroupRequest.result_of_action
    (accepted : r.action = .ok a) : ∃ apply, KeepsOperations apply ∧ ∀ db, r.result db = (do
      a.check db
      claimedWrite db r.write a.text (a.values ++ [Text.trimSpace r.write.reason]) apply) := by
  unfold action at accepted
  cases r with
  | put params ids =>
    obtain ⟨settings, read, accepted⟩ := bind_eq_ok.mp accepted
    obtain ⟨valid, accepted⟩ := check_bind_eq_ok.mp accepted
    cases accepted
    refine ⟨_, (keepsOperations_applyPutGroup settings params.write.at' ids).detailed, fun db => ?_⟩
    simp only [result, putGroup, read, ok_bind, groupWrite_of_valid valid]
    rfl
  | members params newID =>
    obtain ⟨userIDs, read, accepted⟩ := bind_eq_ok.mp accepted
    obtain ⟨valid, accepted⟩ := check_bind_eq_ok.mp accepted
    cases accepted
    refine ⟨_, (keepsOperations_applySetGroupMembers params userIDs newID).detailed, fun db => ?_⟩
    simp only [result, setGroupMembers, read, ok_bind, groupWrite_of_valid valid]
    rfl
  | archive params newID =>
    obtain ⟨valid, accepted⟩ := check_bind_eq_ok.mp accepted
    cases accepted
    refine ⟨_, (keepsOperations_applyArchiveGroup params newID).detailed, fun db => ?_⟩
    simp only [result, archiveGroup, groupWrite_of_valid valid]
    rfl
  | accounts params =>
    obtain ⟨pool, read, accepted⟩ := bind_eq_ok.mp accepted
    obtain ⟨valid, accepted⟩ := check_bind_eq_ok.mp accepted
    cases accepted
    refine ⟨fun claimed => .ok (savePool pool claimed, .policy ⟨pool.groupID, pool.provider,
      pool.strategy, pool.accountIDs, params.write.at'⟩), ?_, fun db => ?_⟩
    · intro db db' response ok
      cases ok
      rfl
    · simp only [result, setGroupUpstreamAccounts, read, valid, ok_bind]
      rfl

/-- Parameters that are not accepted are refused as invalid, whatever the database. -/
theorem GroupRequest.result_of_refused {err : StoreError}
    (refused : r.action = .error err) : ∃ text, ∀ db, r.result db = .error (.invalid text) := by
  have write : ∀ params, FailsWith (fun err => ∃ text, err = .invalid text)
      (validateGroupWrite params) := by
    intro params
    exact failsWith_refuse ⟨_, rfl⟩ fun _ => failsWith_ok _
  cases r with
  | put params ids =>
    have fails : FailsWith (fun err => ∃ text, err = .invalid text) (putGroupSettings params) :=
      failsWith_putGroupSettings (fun text _ => ⟨text, rfl⟩) params
    cases read : putGroupSettings params with
    | error err' =>
      obtain ⟨text, rfl⟩ := fails err' read
      exact ⟨text, fun db => by simp only [result, putGroup, read, error_bind]⟩
    | ok settings =>
      cases valid : validateGroupWrite params.write with
      | error err' =>
        obtain ⟨text, rfl⟩ := write _ err' valid
        exact ⟨text, fun db => by
          simp only [result, putGroup, groupWrite, read, valid, ok_bind, error_bind]⟩
      | ok _ => simp only [action, read, valid, ok_bind, pure_eq, reduceCtorEq] at refused
  | members params newID =>
    have fails : FailsWith (fun err => ∃ text, err = .invalid text) (memberInput params) :=
      failsWith_refuse ⟨_, rfl⟩ fun _ => by
        split
        · exact failsWith_ok _
        · exact failsWith_error ⟨_, rfl⟩
    cases read : memberInput params with
    | error err' =>
      obtain ⟨text, rfl⟩ := fails err' read
      exact ⟨text, fun db => by simp only [result, setGroupMembers, read, error_bind]⟩
    | ok userIDs =>
      cases valid : validateGroupWrite params.write with
      | error err' =>
        obtain ⟨text, rfl⟩ := write _ err' valid
        exact ⟨text, fun db => by
          simp only [result, setGroupMembers, groupWrite, read, valid, ok_bind, error_bind]⟩
      | ok _ => simp only [action, read, valid, ok_bind, pure_eq, reduceCtorEq] at refused
  | archive params newID =>
    cases valid : validateGroupWrite params.write with
    | error err' =>
      obtain ⟨text, rfl⟩ := write _ err' valid
      exact ⟨text, fun db => by
        simp only [result, archiveGroup, groupWrite, valid, error_bind]⟩
    | ok _ => simp only [action, valid, ok_bind, pure_eq, reduceCtorEq] at refused
  | accounts params =>
    have fails : FailsWith (fun err => ∃ text, err = .invalid text)
        (normalizeGroupUpstreamParams params) := by
      unfold normalizeGroupUpstreamParams poolAccounts
      split
      · exact failsWith_error ⟨_, rfl⟩
      · exact failsWith_error ⟨_, rfl⟩
      · refine failsWith_refuse ⟨_, rfl⟩ fun _ => FailsWith.map ?_ _
        split
        · exact failsWith_error ⟨_, rfl⟩
        · split
          · exact failsWith_ok _
          · exact failsWith_error ⟨_, rfl⟩
    cases read : normalizeGroupUpstreamParams params with
    | error err' =>
      obtain ⟨text, rfl⟩ := fails err' read
      exact ⟨text, fun db => by simp only [result, setGroupUpstreamAccounts, read, error_bind]⟩
    | ok pool =>
      cases valid : validateGroupWrite params.write with
      | error err' =>
        obtain ⟨text, rfl⟩ := write _ err' valid
        exact ⟨text, fun db => by
          simp only [result, setGroupUpstreamAccounts, read, valid, ok_bind, error_bind]⟩
      | ok _ => simp only [action, read, valid, ok_bind, pure_eq, reduceCtorEq] at refused

theorem GroupRequest.action_of_ok {db : Db} {response : GroupResponse}
    (ok : r.result db = .ok (db', response)) : ∃ a, r.action = .ok a := by
  cases accepted : r.action with
  | ok a => exact ⟨a, rfl⟩
  | error err =>
    obtain ⟨text, refused⟩ := r.result_of_refused accepted
    rw [refused] at ok
    cases ok

/-! ## Records -/

section Claims

variable {db db' : Db} {params : GroupWriteParams} {action : Text} {fingerprint : List Text}
  {apply : Db → Except StoreError (Db × GroupResponse)} {response answer : GroupResponse}

theorem claimedWrite_keeps (keeps : KeepsOperations apply)
    (ok : claimedWrite db params action fingerprint apply = .ok (db', answer))
    (recorded : db.groupOperations.find? id = some row) :
    db'.groupOperations.find? id = some row := by
  rcases claimedWrite_ok ok with ⟨rfl, -⟩ | ⟨absent, operations, done, inserted, applied, rfl⟩
  · exact recorded
  · have different : id ≠ params.operationID := by
      rintro rfl
      cases absent.symm.trans recorded
    have kept : done.groupOperations = operations := keeps _ _ _ applied
    simp only [finishGroupOperation, Table.find?_modify, if_neg different, kept,
      Table.find?_insert? inserted]
    rwa [if_neg (Ne.symm different)]

theorem claimedWrite_records (keeps : KeepsOperations apply)
    (new : db.groupOperations.find? params.operationID = none)
    (ok : claimedWrite db params action fingerprint apply = .ok (db', answer)) :
    db'.groupOperations.find? params.operationID =
      some ⟨params.operationID, params.actorUserID, action, fingerprint, some answer⟩ := by
  rcases claimedWrite_ok ok with
    ⟨-, stored, found, -⟩ | ⟨-, operations, done, inserted, applied, rfl⟩
  · cases new.symm.trans found
  · have kept : done.groupOperations = operations := keeps _ _ _ applied
    simp only [finishGroupOperation, Table.find?_modify, if_true, kept,
      Table.find?_insert? inserted, Option.map_some]

theorem claimedWrite_of_recorded (recorded : db.groupOperations.find? params.operationID = some row)
    (answered : row.response = some response) :
    claimedWrite db params action fingerprint apply =
      if row.actorUserID = params.actorUserID ∧ row.action = action ∧ row.fingerprint = fingerprint
      then .ok (db, response) else .error (.conflict "group operation replay mismatch") := by
  unfold claimedWrite claimGroupOperation
  simp only [recorded, answered]
  by_cases same : row.actorUserID = params.actorUserID ∧ row.action = action ∧
      row.fingerprint = fingerprint
  · rw [if_pos same, if_neg (by tauto)]
    rfl
  · rw [if_neg same, if_pos (by tauto)]
    rfl

end Claims

/-! ## Fingerprints -/

theorem idText_injective : Function.Injective idText := by
  intro m n same
  have spelled (k : Nat) : Text.ofInt k = idText k := by simp [Text.ofInt, idText]
  have equal : Text.ofInt m = Text.ofInt n := by rw [spelled, spelled, same]
  exact Int.ofNat.inj (Text.ofInt_injective equal)

theorem idText_ne_nil (id : Nat) : idText id ≠ [] := by
  simp [idText, Nat.toDigits_ne_nil]

theorem ofInt_ne_nil (n : Int) : Text.ofInt n ≠ [] := by
  unfold Text.ofInt
  split
  · exact List.cons_ne_nil _ _
  · simp [Nat.toDigits_ne_nil]

/-- A text that `joinZero` can be taken apart at. -/
def Joinable (text : Text) : Prop := text ≠ [] ∧ Char.ofNat 0 ∉ text

theorem joinZero_injective {xs ys : List Text} (left : ∀ x ∈ xs, Joinable x)
    (right : ∀ y ∈ ys, Joinable y) (same : joinZero xs = joinZero ys) : xs = ys := by
  have nonempty : ∀ {x : Text} {rest : List Text}, Joinable x → joinZero (x :: rest) ≠ [] := by
    intro x rest joinable
    cases rest with
    | nil => exact joinable.1
    | cons y rest => simp [joinZero]
  induction xs generalizing ys with
  | nil =>
    cases ys with
    | nil => rfl
    | cons y ys => exact absurd same.symm (nonempty (right y List.mem_cons_self))
  | cons x xs ih =>
    have joinable := left x List.mem_cons_self
    cases ys with
    | nil => exact absurd same (nonempty joinable)
    | cons y ys =>
      have joinable' := right y List.mem_cons_self
      -- without a second text there is no separator
      match xs, ys with
      | [], [] => simpa [joinZero] using same
      | [], z :: zs => simp_all [joinZero, Joinable]
      | z :: zs, [] =>
        have member : Char.ofNat 0 ∈ joinZero (x :: z :: zs) := by simp [joinZero]
        rw [same] at member
        exact absurd member joinable'.2
      | z :: zs, w :: ws =>
        obtain ⟨rfl, rest⟩ := Text.split_unique joinable.2 joinable'.2 same
        rw [ih (fun t member => left t (List.mem_cons_of_mem _ member))
          (fun t member => right t (List.mem_cons_of_mem _ member)) rest]

theorem joinable_of_validModelAccessModel {model : Text}
    (valid : validModelAccessModel model = true) : Joinable model := by
  simp only [validModelAccessModel, Bool.and_eq_true, Bool.not_eq_true', List.isEmpty_eq_false_iff,
    List.all_eq_true] at valid
  refine ⟨valid.1.1, fun member => ?_⟩
  exact absurd (valid.2 _ member) (by decide)

theorem joinable_accountID (id : AccountID) : Joinable id.val := by
  constructor
  · intro empty
    have length := id.property.1
    simp [empty] at length
  · intro member
    rcases id.property.2 _ member with ⟨low, -⟩ | ⟨low, -⟩ <;> exact absurd low (by decide)

/-- What the checks leave of the settings is determined by the values of the fingerprint. -/
structure GroupSettings.Spelled (s : GroupSettings) : Prop where
  duration : groupPeriodDuration s.period s.customDays = .ok s.duration
  memberLimit : ∀ limit, s.memberLimit = some (some limit) → limit ≠ "null".toList
  models : ∀ models, s.models = some models → ∀ model ∈ models, Joinable model

theorem memberLimitInput_ok {given : Option Text} {limit : Text}
    (ok : memberLimitInput given isSet = .ok (some (some limit))) : limit ≠ "null".toList := by
  unfold memberLimitInput at ok
  split at ok
  · obtain ⟨amount, parsed, same⟩ := map_eq_ok.mp (mapError_eq_ok.mp ok)
    cases same
    obtain ⟨units, value, -⟩ := parseBounded_units parsed (by decide)
    rintro rfl
    have none : Decimal.value? "null".toList = none := by decide +kernel
    cases none.symm.trans value
  · split at ok <;> cases ok

theorem modelInput_ok {given : List Text} {models : List Text}
    (ok : modelInput given isSet = .ok (some models)) : ∀ model ∈ models, Joinable model := by
  unfold modelInput at ok
  split at ok
  · obtain ⟨normal, accepted, same⟩ := map_eq_ok.mp ok
    cases same
    obtain ⟨valid, accepted⟩ := refuse_eq_ok.mp accepted
    obtain ⟨-, accepted⟩ := refuse_eq_ok.mp accepted
    cases accepted
    intro model member
    have mem : model ∈ given.map Text.trimSpace :=
      List.mem_dedup.mp ((List.mem_insertionSort _).mp member)
    exact joinable_of_validModelAccessModel
      (List.all_eq_true.mp (Bool.not_eq_false _ ▸ valid) model mem)
  · cases ok

theorem putGroupSettings_spelled {params : PutGroupParams}
    (ok : putGroupSettings params = .ok s) : s.Spelled := by
  have checked := putGroupSettings_ok ok
  obtain ⟨-, ok⟩ := refuse_eq_ok.mp ok
  obtain ⟨amount, -, ok⟩ := bind_eq_ok.mp ok
  obtain ⟨memberLimit, limited, ok⟩ := bind_eq_ok.mp ok
  obtain ⟨⟨period, duration⟩, -, ok⟩ := bind_eq_ok.mp ok
  obtain ⟨-, ok⟩ := check_bind_eq_ok.mp ok
  obtain ⟨-, ok⟩ := check_bind_eq_ok.mp ok
  obtain ⟨models, named, ok⟩ := bind_eq_ok.mp ok
  obtain ⟨-, ok⟩ := check_bind_eq_ok.mp ok
  cases ok
  refine ⟨checked.duration, ?_, ?_⟩
  · intro limit given
    dsimp only at given
    exact memberLimitInput_ok (given ▸ limited)
  · intro chosen given
    dsimp only at given
    exact modelInput_ok (given ▸ named)

/-- An optional value after its tag can be told from what follows it. -/
theorem tagged_injective {spell : α → Text} {x y : Option α}
    {rest rest' : List Text} (untagged : rest.head? ≠ some tag) (untagged' : rest'.head? ≠ some tag)
    (spelled : ∀ a b, x = some a → y = some b → spell a = spell b → a = b)
    (same : x.elim [] (fun a => [tag, spell a]) ++ rest =
      y.elim [] (fun a => [tag, spell a]) ++ rest') : x = y ∧ rest = rest' := by
  cases x with
  | none =>
    cases y with
    | none => exact ⟨rfl, same⟩
    | some b =>
      have head := congrArg List.head? same
      exact absurd head untagged
  | some a =>
    cases y with
    | none =>
      have head := congrArg List.head? same
      exact absurd head.symm untagged'
    | some b =>
      simp only [Option.elim_some, List.cons_append, List.nil_append, List.cons.injEq,
        true_and] at same
      exact ⟨congrArg some (spelled a b rfl rfl same.1), same.2⟩

theorem groupPeriodText_injective : Function.Injective groupPeriodText := by
  intro a b same
  cases a <;> cases b <;> first | rfl | exact absurd same (by decide)

/-- The tags and models that end the values of a fingerprint. -/
def modelValues (models : Option (List Text)) : List Text :=
  models.elim ["model_ids_omitted".toList] fun models => ["model_ids".toList, joinZero models]

theorem modelValues_injective {models models' : Option (List Text)}
    (left : ∀ list, models = some list → ∀ model ∈ list, Joinable model)
    (right : ∀ list, models' = some list → ∀ model ∈ list, Joinable model)
    (same : modelValues models = modelValues models') : models = models' := by
  cases models with
  | none =>
    cases models' with
    | none => rfl
    | some list => simp [modelValues] at same
  | some list =>
    cases models' with
    | none => simp [modelValues] at same
    | some list' =>
      simp only [modelValues, Option.elim_some, List.cons.injEq, true_and, and_true] at same
      rw [joinZero_injective (left list rfl) (right list' rfl) same]

theorem head?_modelValues (models : Option (List Text)) (omitted : "model_ids_omitted".toList ≠ tag)
    (given : "model_ids".toList ≠ tag) : (modelValues models).head? ≠ some tag := by
  cases models <;> simp_all [modelValues]

theorem optional_injective {spell : α → Text} (injective : Function.Injective spell)
    (nonempty : ∀ a, spell a ≠ []) {x y : Option α}
    (same : (x.map spell).getD [] = (y.map spell).getD []) : x = y := by
  cases x with
  | none =>
    cases y with
    | none => rfl
    | some b => exact absurd same.symm (nonempty b)
  | some a =>
    cases y with
    | none => exact absurd same (nonempty a)
    | some b => exact congrArg some (injective same)

theorem putGroupValues_injective {s' : GroupSettings} (spelled : s.Spelled)
    (spelled' : s'.Spelled) (same : putGroupValues s = putGroupValues s') : s = s' := by
  have whole : ∀ s, putGroupValues s =
      [(s.groupID.map idText).getD [], s.name, s.amount, groupPeriodText s.period,
        Text.ofInt s.customDays, (s.startsAt.map Text.ofInt).getD []] ++
      (s.memberLimit.elim [] (fun limit => ["member_limit_usd".toList, limit.getD "null".toList]) ++
      (s.periodCount.elim [] (fun count => ["period_count".toList, Text.ofInt count]) ++
      modelValues s.models)) := by
    intro s
    simp only [putGroupValues, modelValues, List.append_assoc]
  rw [whole, whole] at same
  obtain ⟨fixed, tail⟩ := List.append_inj same rfl
  simp only [List.cons.injEq, and_true] at fixed
  obtain ⟨group, name, amount, period, days, start⟩ := fixed
  have counted : ∀ s : GroupSettings,
      (s.periodCount.elim [] (fun count => ["period_count".toList, Text.ofInt count]) ++
        modelValues s.models).head? ≠ some "member_limit_usd".toList := by
    intro s
    cases s.periodCount with
    | none => exact head?_modelValues s.models (by decide) (by decide)
    | some count => simp
  obtain ⟨limits, tail⟩ := tagged_injective (counted s) (counted s')
    (by
      intro limit limit' given given' equal
      cases limit with
      | none =>
        cases limit' with
        | none => rfl
        | some text => exact absurd equal.symm (spelled'.memberLimit text given')
      | some text =>
        cases limit' with
        | none => exact absurd equal (spelled.memberLimit text given)
        | some text' => exact congrArg some equal)
    tail
  obtain ⟨counts, tail⟩ := tagged_injective
    (head?_modelValues s.models (by decide) (by decide))
    (head?_modelValues s'.models (by decide) (by decide))
    (fun _ _ _ _ equal => Text.ofInt_injective equal) tail
  have models := modelValues_injective spelled.models spelled'.models tail
  have groups := optional_injective idText_injective idText_ne_nil group
  have starts := optional_injective Text.ofInt_injective ofInt_ne_nil start
  have periods := groupPeriodText_injective period
  have lengths := Text.ofInt_injective days
  have durations : s.duration = s'.duration := by
    have left := spelled.duration
    rw [periods, lengths, spelled'.duration] at left
    exact (Except.ok.inj left).symm
  cases s
  cases s'
  simp_all

theorem poolValues_injective {pool pool' : PoolSettings} (same : poolValues pool = poolValues pool') :
    pool = pool' := by
  simp only [poolValues, List.cons.injEq, true_and, and_true] at same
  obtain ⟨group, provider, strategy, accounts⟩ := same
  have providers : pool.provider = pool'.provider := by
    revert provider
    cases pool.provider <;> cases pool'.provider <;> decide
  have strategies : pool.strategy = pool'.strategy := by
    revert strategy
    cases pool.strategy <;> cases pool'.strategy <;> decide
  have joinable : ∀ (ids : List AccountID), ∀ text ∈ ids.map Subtype.val, Joinable text := by
    intro ids text member
    obtain ⟨id, -, rfl⟩ := List.mem_map.mp member
    exact joinable_accountID id
  have ids := List.map_injective_iff.mpr Subtype.val_injective
    (joinZero_injective (joinable _) (joinable _) accounts)
  have groups := idText_injective group
  cases pool
  cases pool'
  simp_all

/-- Accepted parameters are determined by the values of the fingerprint. -/
def GroupAction.Spelled : GroupAction → Prop
  | .put settings => settings.Spelled
  | _ => True

theorem GroupRequest.action_spelled (accepted : r.action = .ok a) : a.Spelled := by
  unfold action at accepted
  cases r with
  | put params ids =>
    obtain ⟨settings, read, accepted⟩ := bind_eq_ok.mp accepted
    obtain ⟨-, accepted⟩ := check_bind_eq_ok.mp accepted
    cases accepted
    exact putGroupSettings_spelled read
  | members params newID =>
    obtain ⟨userIDs, -, accepted⟩ := bind_eq_ok.mp accepted
    obtain ⟨-, accepted⟩ := check_bind_eq_ok.mp accepted
    cases accepted
    trivial
  | archive params newID =>
    obtain ⟨-, accepted⟩ := check_bind_eq_ok.mp accepted
    cases accepted
    trivial
  | accounts params =>
    obtain ⟨pool, -, accepted⟩ := bind_eq_ok.mp accepted
    obtain ⟨-, accepted⟩ := check_bind_eq_ok.mp accepted
    cases accepted
    trivial

theorem MembersAction.text_injective : Function.Injective MembersAction.text := by
  intro a b same
  cases a <;> cases b <;> first | rfl | exact absurd same (by decide)

theorem GroupAction.text_ne_members (action : MembersAction) :
    action.text ≠ "put".toList ∧ action.text ≠ "archive".toList ∧
      action.text ≠ "group_upstream_accounts".toList := by
  cases action <;> decide

theorem GroupAction.eq_of_fingerprint (spelled : a.Spelled)
    (spelled' : b.Spelled) (text : a.text = b.text) (values : a.values = b.values) : a = b := by
  cases a with
  | put settings =>
    cases b with
    | put settings' => exact congrArg put (putGroupValues_injective spelled spelled' values)
    | members action groupID userIDs => exact absurd text.symm (text_ne_members action).1
    | archive groupID => exact absurd text (by decide : "put".toList ≠ "archive".toList)
    | accounts pool => exact absurd text (by decide : "put".toList ≠ "group_upstream_accounts".toList)
  | members action groupID userIDs =>
    cases b with
    | put settings' => exact absurd text (text_ne_members action).1
    | members action' groupID' userIDs' =>
      obtain ⟨group, users⟩ := List.cons.inj values
      rw [MembersAction.text_injective text, idText_injective group,
        List.map_injective_iff.mpr idText_injective users]
    | archive groupID' => exact absurd text (text_ne_members action).2.1
    | accounts pool => exact absurd text (text_ne_members action).2.2
  | archive groupID =>
    cases b with
    | put settings' => exact absurd text (by decide : "archive".toList ≠ "put".toList)
    | members action groupID' userIDs => exact absurd text.symm (text_ne_members action).2.1
    | archive groupID' => rw [idText_injective (List.cons.inj values).1]
    | accounts pool => exact absurd text (by decide : "archive".toList ≠ "group_upstream_accounts".toList)
  | accounts pool =>
    cases b with
    | put settings' => exact absurd text (by decide : "group_upstream_accounts".toList ≠ "put".toList)
    | members action groupID' userIDs => exact absurd text.symm (text_ne_members action).2.2
    | archive groupID' => exact absurd text (by decide : "group_upstream_accounts".toList ≠ "archive".toList)
    | accounts pool' => exact congrArg accounts (poolValues_injective values)

/-! ## Later operations -/

/-- Operations on groups, memberships, account pools and periods. -/
inductive GroupOp where
  | request (r : GroupRequest)
  | preference (params : SetGroupMembershipPreferenceParams)
  | join (hash : Text) (userID : UserID) (now : Time) (newID : ApplicationID)
  | review (params : ReviewParams)
  | roll (id : GroupID) (now : Time) (newID : PeriodID)
  | removeAccount (id : AccountID)

def GroupOp.result (db : InvitationDb) : GroupOp → Except StoreError InvitationDb
  | .request r => (r.result db.store).map fun done => { db with store := done.1 }
  | .preference params =>
    (setGroupMembershipPriority db.store params).map fun done => { db with store := done.1 }
  | .join hash userID now newID => (joinInvitation db hash userID now newID).map Prod.fst
  | .review params => (reviewInvitationApplications db params).map Prod.fst
  | .roll id now newID =>
    (rollGroup db.store id now newID).map fun done => { db with store := done.1 }
  | .removeAccount id => .ok { db with
      store := { db.store with
        upstreamAccounts := db.store.upstreamAccounts.delete fun account => account.id = id } }

def GroupOp.apply (db : InvitationDb) (op : GroupOp) : InvitationDb :=
  Transaction.commit (fun db => op.result db) db

def groupRun (db : InvitationDb) (ops : List GroupOp) : InvitationDb :=
  Transaction.run GroupOp.apply db ops

theorem joinInvitation_operations {db' : InvitationDb} {hash : Text} {userID : UserID}
    {newID : ApplicationID} {answer : JoinAnswer}
    (ok : joinInvitation db hash userID now newID = .ok (db', answer)) :
    db'.store.groupOperations = db.store.groupOperations := by
  obtain ⟨user, -, ok⟩ := bind_eq_ok.mp ok
  obtain ⟨-, ok⟩ := refuse_eq_ok.mp ok
  split at ok
  · cases ok
  · split at ok
    · unfold joinGroup at ok
      split at ok
      · cases ok
        rfl
      · split at ok
        · cases ok
          rfl
        · obtain ⟨-, ok⟩ := check_bind_eq_ok.mp ok
          obtain ⟨-, ok⟩ := check_bind_eq_ok.mp ok
          obtain ⟨⟨last, application⟩, inserted, ok⟩ := bind_eq_ok.mp ok
          have kept : last.store = db.store := by
            unfold insertInvitationApplication at inserted
            dsimp only at inserted
            split at inserted <;> cases inserted
            rfl
          cases ok
          split
          · rw [kept]
          · rw [← kept]
            rfl
    · cases ok

theorem reviewApplication_operations {db' : InvitationDb} {a : InvitationApplication}
    {changed : Bool} (ok : reviewApplication params kind users db a = .ok (db', changed)) :
    db'.store.groupOperations = db.store.groupOperations := by
  unfold reviewApplication at ok
  split at ok
  · obtain ⟨-, ok⟩ := refuse_eq_ok.mp ok
    cases ok
    rfl
  · split at ok
    · cases ok
    · split at ok
      · obtain ⟨last, rejected, ok⟩ := bind_eq_ok.mp ok
        cases ok
        unfold rejectApplicant at rejected
        split at rejected
        · obtain ⟨-, rejected⟩ := refuse_eq_ok.mp rejected
          obtain ⟨-, rejected⟩ := refuse_eq_ok.mp rejected
          obtain ⟨-, rejected⟩ := refuse_eq_ok.mp rejected
          cases rejected
          rfl
        · cases rejected
          rfl
      · obtain ⟨store, approved, ok⟩ := bind_eq_ok.mp ok
        have kept : store.groupOperations = db.store.groupOperations := by
          unfold approveApplication at approved
          split at approved
          · obtain ⟨-, approved⟩ := refuse_eq_ok.mp approved
            cases approved
            rfl
          · obtain ⟨-, approved⟩ := refuse_eq_ok.mp approved
            cases approved
            rfl
        cases ok
        exact kept

theorem reviewAll_operations {applications : List InvitationApplication} {db' : InvitationDb}
    {total : Nat} (ok : reviewAll params kind users applications db changed = .ok (db', total)) :
    db'.store.groupOperations = db.store.groupOperations := by
  induction applications generalizing db changed with
  | nil =>
    cases ok
    rfl
  | cons a rest ih =>
    obtain ⟨⟨middle, one⟩, first, ok⟩ := bind_eq_ok.mp ok
    exact (ih ok).trans (reviewApplication_operations first)

theorem reviewInvitationApplications_operations {db' : InvitationDb}
    (ok : reviewInvitationApplications db params = .ok (db', changed)) :
    db'.store.groupOperations = db.store.groupOperations := by
  obtain ⟨-, ok⟩ := refuse_eq_ok.mp ok
  obtain ⟨-, ok⟩ := check_bind_eq_ok.mp ok
  split at ok
  · cases ok
  · obtain ⟨-, ok⟩ := refuse_eq_ok.mp ok
    dsimp only at ok
    obtain ⟨-, ok⟩ := refuse_eq_ok.mp ok
    obtain ⟨-, ok⟩ := check_bind_eq_ok.mp ok
    exact reviewAll_operations ok

theorem GroupOp.keeps {db' : InvitationDb} {op : GroupOp} (ok : op.result db = .ok db')
    (recorded : db.store.groupOperations.find? id = some row) :
    db'.store.groupOperations.find? id = some row := by
  cases op with
  | request r =>
    obtain ⟨⟨store, response⟩, result, rfl⟩ := map_eq_ok.mp ok
    obtain ⟨a, accepted⟩ := r.action_of_ok result
    obtain ⟨apply, keeps, claimed⟩ := r.result_of_action accepted
    rw [claimed] at result
    obtain ⟨-, result⟩ := check_bind_eq_ok.mp result
    exact claimedWrite_keeps keeps result recorded
  | preference params =>
    obtain ⟨⟨store, response⟩, result, rfl⟩ := map_eq_ok.mp ok
    obtain ⟨-, result⟩ := check_bind_eq_ok.mp result
    obtain ⟨-, result⟩ := check_bind_eq_ok.mp result
    obtain ⟨-, result⟩ := check_bind_eq_ok.mp result
    obtain ⟨-, result⟩ := check_bind_eq_ok.mp result
    exact claimedWrite_keeps (keepsOperations_applyPreference params) result recorded
  | join hash userID now newID =>
    obtain ⟨⟨last, answer⟩, result, rfl⟩ := map_eq_ok.mp ok
    rwa [joinInvitation_operations result]
  | review params =>
    obtain ⟨⟨last, changed⟩, result, rfl⟩ := map_eq_ok.mp ok
    rwa [reviewInvitationApplications_operations result]
  | roll groupID now newID =>
    obtain ⟨⟨store, g⟩, result, rfl⟩ := map_eq_ok.mp ok
    rwa [rollGroup_operations result]
  | removeAccount account =>
    cases ok
    exact recorded

theorem groupRun_keeps (db : InvitationDb)
    (recorded : db.store.groupOperations.find? id = some row) (ops : List GroupOp) :
    (groupRun db ops).store.groupOperations.find? id = some row := by
  let Recorded (db : InvitationDb) : Prop := db.store.groupOperations.find? id = some row
  refine Transaction.run_preserves (P := Recorded) recorded (fun db op before => ?_) ops
  exact Transaction.commit_preserves (P := Recorded) before fun _ ok => GroupOp.keeps ok before

/-! ## Replay -/

/-- The second request asks for what the first asked for, by the same actor. -/
def GroupRequest.Repeats (r w : GroupRequest) : Prop :=
  r.write.actorUserID = w.write.actorUserID ∧
    Text.trimSpace r.write.reason = Text.trimSpace w.write.reason ∧
    ∃ a, r.action = .ok a ∧ w.action = .ok a

/-- A repetition gets the first response and changes nothing; any other request with the
operation id is a conflict. -/
def GroupRequest.Replays (r w : GroupRequest) (response : GroupResponse) (db : Db) : Prop :=
  (r.Repeats w → r.result db = .ok (db, response)) ∧
    (¬ r.Repeats w → ∃ text, r.result db = .error (.conflict text))

/-- The parameters are accepted. If the request is for an account pool, the group exists;
its accounts are stored for the provider if the group is active, and a request for an
archived group does not repeat the first. -/
def GroupRequest.Reaches (r w : GroupRequest) (db : Db) : Prop :=
  ∃ a, r.action = .ok a ∧ ∀ pool, a = .accounts pool →
    ∃ group, db.groups.find? pool.groupID = some group ∧
      (group.archivedAt = none → ∀ id ∈ pool.accountIDs,
        ∃ account, db.upstreamAccounts.find? id = some account ∧ account.provider = pool.provider) ∧
      (group.archivedAt.isSome = true → ¬ r.Repeats w)

section Pool

variable {db : Db} {pool : PoolSettings}

theorem checkPool_eq_ok : checkPool db pool = .ok () ↔
    ∃ group, db.groups.find? pool.groupID = some group ∧ group.archivedAt = none ∧
      ∀ id ∈ pool.accountIDs, ∃ account, db.upstreamAccounts.find? id = some account ∧
        account.provider = pool.provider := by
  unfold checkPool
  cases found : db.groups.find? pool.groupID with
  | none => simp
  | some group =>
    cases archived : group.archivedAt with
    | some time => simp [archived]
    | none => simp [archived, Option.any_eq_true]

/-- A conflict of the check means that the group is archived. -/
theorem checkPool_conflict : (∃ text, checkPool db pool = .error (.conflict text)) ↔
    ∃ group, db.groups.find? pool.groupID = some group ∧ group.archivedAt.isSome = true := by
  unfold checkPool
  cases found : db.groups.find? pool.groupID with
  | none => simp
  | some group =>
    cases archived : group.archivedAt with
    | some time => simp [archived]
    | none =>
      simp only [archived, Option.isSome_none, Bool.false_eq_true, if_false, Option.some.injEq]
      split <;> simp_all

end Pool

section Answer

variable {r w : GroupRequest} {a : GroupAction} {response : GroupResponse} {db : Db}

def GroupRequest.record (w : GroupRequest) (a : GroupAction) (response : GroupResponse) :
    GroupOperation :=
  ⟨w.write.operationID, w.write.actorUserID, a.text,
    a.values ++ [Text.trimSpace w.write.reason], some response⟩

theorem GroupRequest.result_records (new : db.groupOperations.find? w.write.operationID = none)
    (accepted : w.action = .ok a) (ok : w.result db = .ok (db', response)) :
    db'.groupOperations.find? w.write.operationID = some (w.record a response) := by
  obtain ⟨apply, keeps, claimed⟩ := w.result_of_action accepted
  rw [claimed] at ok
  obtain ⟨-, ok⟩ := check_bind_eq_ok.mp ok
  exact claimedWrite_records keeps new ok

/-- The comparison with the record tells a repetition from every other request. -/
theorem GroupRequest.repeats_iff (accepted : w.action = .ok a)
    (accepted' : r.action = .ok b) : r.Repeats w ↔
      w.write.actorUserID = r.write.actorUserID ∧ a.text = b.text ∧
        a.values ++ [Text.trimSpace w.write.reason] =
          b.values ++ [Text.trimSpace r.write.reason] := by
  constructor
  · rintro ⟨actor, reason, c, here, there⟩
    cases accepted.symm.trans there
    cases accepted'.symm.trans here
    exact ⟨actor.symm, rfl, by rw [reason]⟩
  · rintro ⟨actor, text, fingerprint⟩
    obtain ⟨values, reason⟩ := List.append_inj' fingerprint rfl
    have same : a = b := GroupAction.eq_of_fingerprint (w.action_spelled accepted)
      (r.action_spelled accepted') text values
    exact ⟨actor.symm, (List.cons.inj reason).1.symm, b, accepted', same ▸ accepted⟩

/-- The answer to a request with the id of a recorded one. -/
theorem GroupRequest.result_of_recorded
    (recorded : db.groupOperations.find? w.write.operationID = some (w.record a response))
    (id : r.write.operationID = w.write.operationID) (accepted : w.action = .ok a)
    (accepted' : r.action = .ok b) (passes : b.check db = .ok ()) :
    (r.Repeats w → r.result db = .ok (db, response)) ∧
      (¬ r.Repeats w → r.result db = .error (.conflict "group operation replay mismatch")) := by
  obtain ⟨apply, keeps, claimed⟩ := r.result_of_action accepted'
  rw [claimed, passes, ok_bind, claimedWrite_of_recorded (id ▸ recorded) rfl,
    r.repeats_iff accepted accepted']
  exact ⟨fun same => if_pos same, fun different => if_neg different⟩

end Answer

/-- After a write has committed, and whatever other operations follow, a request with its
operation id is answered from the record exactly when it reaches the record. -/
theorem groupRun_replays {db : InvitationDb} {w : GroupRequest} {committed : Db}
    {response : GroupResponse}
    (new : db.store.groupOperations.find? w.write.operationID = none)
    (ok : w.result db.store = .ok (committed, response)) (later : List GroupOp)
    {r : GroupRequest} (id : r.write.operationID = w.write.operationID) :
    r.Replays w response (groupRun { db with store := committed } later).store ↔
      r.Reaches w (groupRun { db with store := committed } later).store := by
  obtain ⟨a, accepted⟩ := w.action_of_ok ok
  have recorded := groupRun_keeps { db with store := committed }
    (w.result_records new accepted ok) later
  generalize (groupRun { db with store := committed } later).store = reached at recorded ⊢
  constructor
  · rintro ⟨repeated, differing⟩
    cases accepted' : r.action with
    | error err =>
      -- a refused request is not a repetition, and its error is not a conflict
      obtain ⟨text, refused⟩ := r.result_of_refused accepted'
      have different : ¬ r.Repeats w := by
        rintro ⟨-, -, b, here, -⟩
        cases accepted'.symm.trans here
      obtain ⟨other, conflict⟩ := differing different
      rw [refused] at conflict
      cases conflict
    | ok b =>
      refine ⟨b, accepted', ?_⟩
      rintro pool rfl
      obtain ⟨apply, keeps, claimed⟩ := r.result_of_action accepted'
      cases passes : checkPool reached pool with
      | ok _ =>
        obtain ⟨group, found, active, stored⟩ := checkPool_eq_ok.mp passes
        exact ⟨group, found, fun _ => stored, fun archived => by simp [active] at archived⟩
      | error err =>
        have failed : r.result reached = .error err := by
          rw [claimed]
          simp only [GroupAction.check, passes, error_bind]
        have different : ¬ r.Repeats w := by
          intro same
          cases failed.symm.trans (repeated same)
        obtain ⟨text, conflict⟩ := differing different
        cases failed.symm.trans conflict
        obtain ⟨group, found, archived⟩ := checkPool_conflict.mp ⟨text, passes⟩
        exact ⟨group, found, fun active => by simp [active] at archived, fun _ => different⟩
  · rintro ⟨b, accepted', pools⟩
    have passed (passes : b.check reached = .ok ()) : r.Replays w response reached :=
      have answers := r.result_of_recorded recorded id accepted accepted' passes
      ⟨answers.1, fun different => ⟨_, answers.2 different⟩⟩
    cases b with
    | put settings => exact passed rfl
    | members action groupID userIDs => exact passed rfl
    | archive groupID => exact passed rfl
    | accounts pool =>
      obtain ⟨group, found, stored, archived⟩ := pools pool rfl
      cases state : group.archivedAt with
      | none => exact passed (checkPool_eq_ok.mpr ⟨group, found, state, stored state⟩)
      | some time =>
        -- the conflict is that of the archived group
        have different := archived (by simp [state])
        obtain ⟨text, conflict⟩ := checkPool_conflict.mpr ⟨group, found, by simp [state]⟩
        obtain ⟨apply, keeps, claimed⟩ := r.result_of_action accepted'
        refine ⟨fun same => absurd same different, fun _ => ⟨text, ?_⟩⟩
        rw [claimed]
        simp only [GroupAction.check, conflict, error_bind]

/-! An empty group. Its pool can be written again until it is archived. -/

def emptyGroup : InvitationDb where
  store := { Db.empty ⟨10 ^ Billing.amountScale, [], true⟩ with
    users := ⟨[⟨4, ['o'], .active⟩], List.nodup_singleton 4⟩
    groups := ⟨[⟨9, ['g'], 5, none, .day, 0, 0, some 3, none, 0, 1, none, [], false⟩],
      List.nodup_singleton 9⟩
    groupPeriods := ⟨[⟨3, 9, 0, day, 5, 0, none, none⟩], List.nodup_singleton 3⟩ }
  owners := [4]
  invitations := .empty
  applications := .empty

def poolRequest : GroupRequest :=
  .accounts ⟨⟨['p'], 4, ['r'], 0⟩, 9, "codex".toList, "all".toList, []⟩

def archiveRequest : GroupRequest := .archive ⟨⟨['z'], 4, ['r'], 0⟩, 9⟩ 0

/-- Once the group is archived, the repetition of the write is refused. -/
theorem groupRun_archivedPool :
    (poolRequest.result emptyGroup.store).isOk = true ∧
    (poolRequest.result (groupRun emptyGroup [.request poolRequest]).store).isOk = true ∧
    (poolRequest.result
        (groupRun emptyGroup [.request poolRequest, .request archiveRequest]).store).map Prod.snd =
      .error (.conflict "group is archived") ∧
    ∀ response, ¬ poolRequest.Replays poolRequest response
      (groupRun emptyGroup [.request poolRequest, .request archiveRequest]).store := by
  have refused : (poolRequest.result
      (groupRun emptyGroup [.request poolRequest, .request archiveRequest]).store).isOk = false := by
    decide +kernel
  refine ⟨by decide +kernel, by decide +kernel, by decide +kernel, fun response replays => ?_⟩
  have accepted : poolRequest.action = .ok (.accounts ⟨9, .codex, .all, []⟩) := by decide +kernel
  rw [replays.1 ⟨rfl, rfl, _, accepted, accepted⟩] at refused
  cases refused

theorem groupRun_replays_archive : ∃ committed response,
    archiveRequest.result emptyGroup.store = .ok (committed, response) ∧
    archiveRequest.Replays archiveRequest response
      (groupRun { emptyGroup with store := committed } [.request poolRequest]).store := by
  obtain ⟨⟨committed, response⟩, ok⟩ := exists_of_isOk
    (show (archiveRequest.result emptyGroup.store).isOk = true by decide +kernel)
  have accepted : archiveRequest.action = .ok (.archive 9) := by decide +kernel
  refine ⟨committed, response, ok, (groupRun_replays rfl ok _ rfl).mpr ⟨_, accepted, ?_⟩⟩
  intro pool impossible
  cases impossible

end Store
