import CodexGateway.Store.Reservation
import CodexGateway.Store.SettlementErrors

/-! # The layer that pays

Admission numbers the layers of a request and stores them; settlement reads them
back and binds one. What is read back is what admission decided, and the serving
account alone decides which groups may pay.
-/

namespace Store

open Billing

variable {db : Db} {userID : UserID} {requestID : Text} {layers : List FundingLayer}

/-! ## Candidates -/

/-- A group layer whose period and member funds are not used up. -/
def Funded (db : Db) (userID : UserID) (layer : GroupLayer) : Prop :=
  ∃ period, db.groupPeriods.find? layer.groupPeriodID = some period ∧
    0 < groupHeld db userID period

theorem groupHeld_pos {period : GroupPeriod} :
    0 < groupHeld db userID period ↔
      billingPositive (numericText period.available) ∧
        (groupMemberRemaining db period.id userID (period.memberLimitUSD.map numericText)).all
          billingPositive := by
  unfold groupHeld
  cases limit : period.memberLimitUSD with
  | none => simp [groupMemberRemaining]
  | some value => simp [groupMemberRemaining]

theorem fundedCandidate_ok {candidates : List GroupLayer} {funded : Option GroupLayer}
    (ok : fundedCandidate db userID candidates = .ok funded) :
    (funded = none ∧ ∀ layer ∈ candidates, ¬ Funded db userID layer) ∨
      ∃ before layer after, funded = some layer ∧ candidates = before ++ layer :: after ∧
        Funded db userID layer ∧ ∀ other ∈ before, ¬ Funded db userID other := by
  induction candidates with
  | nil =>
    cases ok
    exact .inl ⟨rfl, by simp⟩
  | cons layer rest ih =>
    obtain ⟨period, found, ok⟩ := Except.bind_eq_ok.mp ok
    obtain ⟨row, _⟩ := candidatePeriod_ok found
    have named : period.id = layer.groupPeriodID := Table.key_of_find? row
    have isFunded : Funded db userID layer ↔ 0 < groupHeld db userID period := by
      constructor
      · rintro ⟨other, otherRow, positive⟩
        rw [row] at otherRow
        cases otherRow
        exact positive
      · exact fun positive => ⟨period, row, positive⟩
    rw [groupHeld_pos, named] at isFunded
    dsimp only at ok
    split at ok
    · rename_i enough
      cases ok
      exact .inr ⟨[], layer, rest, rfl, rfl, isFunded.mpr enough, by simp⟩
    · rename_i short
      have unfunded : ¬ Funded db userID layer := fun funds => short (isFunded.mp funds)
      rcases ih ok with ⟨none', others⟩ | ⟨before, chosen, after, some', split, funds, others⟩
      · left
        refine ⟨none', ?_⟩
        intro other member
        rcases List.mem_cons.mp member with rfl | later
        · exact unfunded
        · exact others other later
      · right
        refine ⟨layer :: before, chosen, after, some', by rw [split]; rfl, funds, ?_⟩
        intro other member
        rcases List.mem_cons.mp member with rfl | later
        · exact unfunded
        · exact others other later

/-- A request whose serving account no recorded layer contains. -/
def Unattributed (layers : List FundingLayer) (account : Text) : Prop :=
  account = [] ∨ (groupsContaining account layers = [] ∧ hasPersonal layers = false)

/-- The candidates are the layers that contain the serving account, or the first
layer when there are none. -/
theorem settlementLayerCandidates_spec (layers : List FundingLayer) (account : Text) :
    (account ≠ [] → ¬ Unattributed layers account →
      settlementLayerCandidates layers account =
        ⟨groupsContaining account layers, hasPersonal layers, true⟩) ∧
    (Unattributed layers account →
      (∀ layer rest, layers = .group layer :: rest →
        settlementLayerCandidates layers account = ⟨[layer], false, false⟩) ∧
      ∀ position rest, layers = .personal position :: rest →
        settlementLayerCandidates layers account = ⟨[], true, false⟩) := by
  unfold settlementLayerCandidates
  dsimp only
  refine ⟨?_, ?_⟩
  · intro named attributed
    rw [if_neg named, if_neg named, if_pos]
    by_contra none'
    push Not at none'
    exact attributed (.inr ⟨none'.1, by simpa using none'.2⟩)
  · intro unattributed
    have nothing : ¬ ((if account = [] then [] else groupsContaining account layers) ≠ [] ∨
        (if account = [] then false else hasPersonal layers) = true) := by
      rcases unattributed with rfl | ⟨noGroup, noPersonal⟩
      · simp
      · simp [noGroup, noPersonal]
    rw [if_neg nothing]
    refine ⟨?_, ?_⟩
    · rintro layer rest rfl
      rfl
    · rintro position rest rfl
      rfl

/-! ## Binding -/

def BoundTo (settled : BillingReservation) (layer : GroupLayer) : Prop :=
  settled.groupID = some layer.groupID ∧ settled.groupPeriodID = some layer.groupPeriodID

def NoGroup (settled : BillingReservation) : Prop :=
  settled.groupID = none ∧ settled.groupPeriodID = none

/-- How a settlement chooses the group that pays, given the recorded layers and the
account that served the request. -/
structure BindsLayer (db : Db) (layers : List FundingLayer) (account : Text)
    (settled : BillingReservation) : Prop where
  attributed : account ≠ [] → groupsContaining account layers ≠ [] →
    ∃ before layer after, groupsContaining account layers = before ++ layer :: after ∧
      BoundTo settled layer ∧
      ((Funded db settled.userID layer ∧ ∀ other ∈ before, ¬ Funded db settled.userID other) ∨
        (before = [] ∧
          ∀ other ∈ groupsContaining account layers, ¬ Funded db settled.userID other))
  personal : account ≠ [] → groupsContaining account layers = [] → hasPersonal layers = true →
    NoGroup settled
  unattributed : Unattributed layers account →
    (∃ layer rest, layers = .group layer :: rest ∧ BoundTo settled layer) ∨
      ∃ position rest, layers = .personal position :: rest ∧ NoGroup settled
  isolated : ∀ groupID, settled.groupID = some groupID → ¬ Unattributed layers account →
    ∃ layer, FundingLayer.group layer ∈ layers ∧ layer.groupID = groupID ∧
      account ∈ layer.accountIDs

theorem lockLayerCandidates_ok {usage : UsageRequest} {candidates : LayerCandidates}
    (reads : readFundingLayers db requestID = .ok layers)
    (terminal : db.usage.find? requestID = some usage)
    (ok : lockLayerCandidates db requestID = .ok candidates) :
    candidates = settlementLayerCandidates layers usage.account := by
  obtain ⟨layers', reads', ok⟩ := Except.bind_eq_ok.mp ok
  obtain ⟨usage', found, ok⟩ := Except.bind_eq_ok.mp ok
  obtain ⟨_, ok⟩ := Except.check_bind_eq_ok.mp ok
  cases ok
  rw [reads] at reads'
  cases reads'
  have row := (terminalUsage_ok found).1
  rw [terminal] at row
  cases row
  rfl

theorem mem_groupsContaining {account : Text} {layer : GroupLayer} :
    layer ∈ groupsContaining account layers ↔
      FundingLayer.group layer ∈ layers ∧ account ∈ layer.accountIDs := by
  unfold groupsContaining
  rw [List.mem_filterMap]
  constructor
  · rintro ⟨other, member, chosen⟩
    obtain ⟨member, contains⟩ := List.mem_filter.mp member
    cases other with
    | personal position => cases chosen
    | group candidate =>
      cases chosen
      exact ⟨member, by simpa [FundingLayer.contains] using contains⟩
  · rintro ⟨member, contains⟩
    exact ⟨.group layer, List.mem_filter.mpr ⟨member, by simpa [FundingLayer.contains] using contains⟩,
      rfl⟩

theorem bindsLayer_of_boundLayer {usage : UsageRequest} {chosen : Option GroupLayer}
    {settled : BillingReservation} (reads : readFundingLayers db requestID = .ok layers)
    (nonempty : layers ≠ []) (terminal : db.usage.find? requestID = some usage)
    (ok : boundLayer db requestID userID = .ok chosen) (owner : settled.userID = userID)
    (group : settled.groupID = chosen.map GroupLayer.groupID)
    (period : settled.groupPeriodID = chosen.map GroupLayer.groupPeriodID) :
    BindsLayer db layers usage.account settled := by
  obtain ⟨candidates, locked, ok⟩ := Except.bind_eq_ok.mp ok
  obtain ⟨funded, scanned, ok⟩ := Except.bind_eq_ok.mp ok
  cases ok
  have candidatesEq := lockLayerCandidates_ok reads terminal locked
  obtain ⟨whenAttributed, whenUnattributed⟩ :=
    settlementLayerCandidates_spec layers usage.account
  subst owner
  have attributed : usage.account ≠ [] → groupsContaining usage.account layers ≠ [] →
      ∃ before layer after, groupsContaining usage.account layers = before ++ layer :: after ∧
        BoundTo settled layer ∧
        ((Funded db settled.userID layer ∧ ∀ other ∈ before, ¬ Funded db settled.userID other) ∨
          (before = [] ∧ ∀ other ∈ groupsContaining usage.account layers,
            ¬ Funded db settled.userID other)) := by
    intro named some'
    have known : ¬ Unattributed layers usage.account := by
      rintro (unnamed | ⟨none', _⟩)
      · exact named unnamed
      · exact some' none'
    rw [candidatesEq, whenAttributed named known] at scanned group period
    dsimp only at scanned group period
    rcases fundedCandidate_ok scanned with ⟨rfl, unfunded⟩ |
      ⟨before, layer, after, rfl, split, funds, others⟩
    · obtain ⟨first, rest, list⟩ := List.exists_cons_of_ne_nil some'
      rw [list] at group period
      exact ⟨[], first, rest, list, ⟨group, period⟩, .inr ⟨rfl, unfunded⟩⟩
    · exact ⟨before, layer, after, split, ⟨group, period⟩, .inl ⟨funds, others⟩⟩
  have personal : usage.account ≠ [] → groupsContaining usage.account layers = [] →
      hasPersonal layers = true → NoGroup settled := by
    intro named none' hasOne
    have known : ¬ Unattributed layers usage.account := by
      rintro (unnamed | ⟨_, noPersonal⟩)
      · exact named unnamed
      · rw [hasOne] at noPersonal
        cases noPersonal
    rw [candidatesEq, whenAttributed named known, none'] at scanned group period
    cases scanned
    exact ⟨group, period⟩
  refine ⟨attributed, personal, ?_, ?_⟩
  · intro unknown
    obtain ⟨groupFirst, personalFirst⟩ := whenUnattributed unknown
    obtain ⟨first, rest, list⟩ := List.exists_cons_of_ne_nil nonempty
    cases first with
    | group layer =>
      rw [candidatesEq, groupFirst layer rest list] at scanned group period
      dsimp only at scanned group period
      refine .inl ⟨layer, rest, list, ?_⟩
      -- The only candidate is chosen, with funds or without.
      have only : funded.or [layer].head? = some layer := by
        rcases fundedCandidate_ok scanned with ⟨rfl, _⟩ |
          ⟨before, chosen, after, rfl, split, _⟩
        · rfl
        · have member : chosen ∈ [layer] := by
            rw [split]
            simp
          rw [List.mem_singleton.mp member]
          rfl
      rw [only] at group period
      exact ⟨group, period⟩
    | personal position =>
      rw [candidatesEq, personalFirst position rest list] at scanned group period
      cases scanned
      exact .inr ⟨position, rest, list, group, period⟩
  · intro groupID bound known
    have named : usage.account ≠ [] := fun unnamed => known (.inl unnamed)
    by_cases none' : groupsContaining usage.account layers = []
    · have hasOne : hasPersonal layers = true := by
        by_contra without
        exact known (.inr ⟨none', by simpa using without⟩)
      rw [(personal named none' hasOne).1] at bound
      cases bound
    · obtain ⟨before, layer, after, list, binding, _⟩ := attributed named none'
      have member : layer ∈ groupsContaining usage.account layers := by
        rw [list]
        simp
      obtain ⟨recorded, contains⟩ := mem_groupsContaining.mp member
      rw [binding.1] at bound
      exact ⟨layer, recorded, Option.some.inj bound, contains⟩

/-! ## Errors that cannot occur -/

/-- The errors other than the two of a request without a layer to pay. -/
def HasLayer (err : StoreError) : Prop :=
  err ≠ .conflict "rule 4 settlement without a paying layer" ∧
    err ≠ .conflict "rule 4 reservation without funding layers"

theorem hasLayer_of_chargeError {err : StoreError} (charging : ChargeError err) : HasLayer err := by
  constructor
  · rintro rfl
    exact absurd charging (by unfold ChargeError; decide)
  · rintro rfl
    exact absurd charging (by unfold ChargeError; decide)

/-- With layers recorded, there is a group to bind or a personal layer. -/
theorem payable_settlementLayerCandidates (nonempty : layers ≠ []) (account : Text) :
    (settlementLayerCandidates layers account).groups ≠ [] ∨
      (settlementLayerCandidates layers account).personal = true := by
  obtain ⟨attributed, unattributed⟩ := settlementLayerCandidates_spec layers account
  by_cases unknown : Unattributed layers account
  · obtain ⟨groupFirst, personalFirst⟩ := unattributed unknown
    obtain ⟨first, rest, list⟩ := List.exists_cons_of_ne_nil nonempty
    cases first with
    | group layer =>
      rw [groupFirst layer rest list]
      exact .inl (List.cons_ne_nil _ _)
    | personal position =>
      rw [personalFirst position rest list]
      exact .inr rfl
  · have named : account ≠ [] := fun unnamed => unknown (.inl unnamed)
    rw [attributed named unknown]
    by_cases none' : groupsContaining account layers = []
    · right
      by_contra without
      exact unknown (.inr ⟨none', by simpa using without⟩)
    · exact .inl none'

theorem settleBilling_hasLayer {now : Time} {reservation : BillingReservation}
    (found : db.reservations.find? requestID = some reservation)
    (reserved : reservation.state = .reserved) (rule : reservation.fundingRuleVersion = 4)
    (reads : readFundingLayers db requestID = .ok layers) (nonempty : layers ≠ []) :
    Except.FailsWith HasLayer (settleBilling db requestID now) := by
  have charging {α : Type} {x : Except StoreError α} (fails : Except.FailsWith ChargeError x) :
      Except.FailsWith HasLayer x := fails.imp fun _ => hasLayer_of_chargeError
  unfold settleBilling
  rw [found]
  dsimp only
  rw [reserved]
  dsimp only
  rw [if_pos rule]
  by_cases unnamed : requestID = []
  · rw [if_pos unnamed]
    exact charging (Except.failsWith_error trivial)
  rw [if_neg unnamed]
  have locking : Except.FailsWith HasLayer (lockLayerCandidates db requestID) := by
    unfold lockLayerCandidates
    rw [reads, Except.ok_bind]
    apply (charging (chargeError_terminalUsage (by decide) _)).bind
    intro usage _
    apply (Except.failsWith_forM fun layer _ => charging (chargeError_lockBoundGroupPeriod _ _)).bind
    intro _ _
    exact Except.failsWith_ok _
  apply locking.bind
  intro candidates locked
  apply (charging (chargeError_terminalUsage (by decide) _)).bind
  intro usage terminal
  have candidatesEq := lockLayerCandidates_ok reads (terminalUsage_ok terminal).1 locked
  have binding : Except.FailsWith HasLayer
      (bindSettlementLayer db reservation candidates.groups candidates.personal) := by
    unfold bindSettlementLayer
    apply (charging (chargeError_fundedCandidate _ _)).bind
    intro funded _
    dsimp only
    split
    · rename_i without
      obtain ⟨noneChosen, noPersonal⟩ := without
      rcases payable_settlementLayerCandidates nonempty usage.account with groups | personal
      · rw [← candidatesEq] at groups
        have headless := (Option.or_eq_none_iff.mp noneChosen).2
        exact absurd (List.head?_eq_none_iff.mp headless) groups
      · rw [← candidatesEq, noPersonal] at personal
        cases personal
    · split
      · exact Except.failsWith_error ⟨by decide, by decide⟩
      · exact Except.failsWith_ok _
  apply binding.bind
  intro _ _
  refine (chargeUsage_failsWith _ _).imp ?_
  rintro err (charging | ⟨rfl, -⟩)
  · exact hasLayer_of_chargeError charging
  · exact ⟨by decide, by decide⟩

/-! ## From admission to settlement -/

/-- The foreign key of the recorded layers. -/
def LayersOwned (db : Db) : Prop :=
  ∀ row ∈ db.layers.rows, (db.reservations.find? row.requestID).isSome

/-- Admission stores the layers it decided on, and they read back unchanged as long
as the rows of the request stay. -/
theorem readFundingLayers_of_reserveBilling {structureDigest : Config.ModelPriceStructure → Text}
    {db₁ db₂ : Db} {params : BillingReservationParams} {fresh : FreshPeriods}
    {reservation : BillingReservation} (owned : LayersOwned db)
    (admitted : reserveBilling structureDigest db params fresh = .ok (db₁, reservation, layers))
    (kept : ∀ row : LayerRow, row.requestID = reservation.requestID →
      (row ∈ db₂.layers.rows ↔ row ∈ db₁.layers.rows)) :
    layers ≠ [] ∧ readFundingLayers db₂ reservation.requestID = .ok layers := by
  obtain ⟨reserved⟩ := reserveBilling_ok structureDigest admitted
  have made := reserved.made
  obtain ⟨rows, reads, named, positions, stored⟩ := made.layers
  have increasing : layers.Pairwise fun a b => a.position < b.position := by
    obtain ⟨pools, _, numbered⟩ := Except.bind_eq_ok.mp reserved.layered
    rw [← Except.ok.inj numbered]
    exact (numberLayers_positions _ _ _).1
  have before : layerRows db reservation.requestID = [] := by
    apply List.filter_eq_nil_iff.mpr
    intro row member
    simp only [decide_eq_true_eq]
    intro same
    have owner := owned row member
    rw [same, made.fresh] at owner
    cases owner
  have after : layerRows db₁ reservation.requestID = rows.reverse := by
    have earlier : (db.layers.rows.filter fun row => row.requestID = reservation.requestID) = [] :=
      before
    rw [layerRows, stored, List.filter_append, earlier, List.append_nil, List.filter_eq_self]
    intro row member
    simpa using named row (List.mem_reverse.mp member)
  have perm : (layerRows db₂ reservation.requestID).Perm rows := by
    have nodup (t : Table LayerRow.key) : t.rows.Nodup := List.Nodup.of_map _ t.unique
    have sameRows : (layerRows db₂ reservation.requestID).Perm
        (layerRows db₁ reservation.requestID) := by
      apply (List.perm_ext_iff_of_nodup ((nodup db₂.layers).filter _)
        ((nodup db₁.layers).filter _)).mpr
      intro row
      simp only [List.mem_filter, decide_eq_true_eq]
      constructor
      · rintro ⟨member, same⟩
        exact ⟨(kept row same).mp member, same⟩
      · rintro ⟨member, same⟩
        exact ⟨(kept row same).mpr member, same⟩
    rw [after] at sameRows
    exact sameRows.trans (List.reverse_perm rows)
  exact ⟨reserved.nonempty,
    readFundingLayers_of_rows perm reads positions increasing reserved.nonempty⟩

/-- Whatever happens to the funds of the groups between admission and settlement, a
rule 4 settlement finds the layers of the admission, has one to bind, and binds
it by the account that served the request. -/
theorem settleBilling_bindsLayer {structureDigest : Config.ModelPriceStructure → Text}
    {db db₁ db₂ : Db} {params : BillingReservationParams} {fresh : FreshPeriods}
    {reservation : BillingReservation} {layers : List FundingLayer} {usage : UsageRequest}
    {now : Time} (owned : LayersOwned db)
    (admitted : reserveBilling structureDigest db params fresh = .ok (db₁, reservation, layers))
    (kept : ∀ row : LayerRow, row.requestID = reservation.requestID →
      (row ∈ db₂.layers.rows ↔ row ∈ db₁.layers.rows))
    (found : db₂.reservations.find? reservation.requestID = some reservation)
    (terminal : db₂.usage.find? reservation.requestID = some usage) :
    readFundingLayers db₂ reservation.requestID = .ok layers ∧
      Except.FailsWith HasLayer (settleBilling db₂ reservation.requestID now) ∧
      ∀ db' settled, settleBilling db₂ reservation.requestID now = .ok (db', settled) →
        BindsLayer db₂ layers usage.account settled ∧
        (NoGroup settled → ∀ charge at', settled.state = .settled charge at' →
          charge.groupChargedUSD = 0) := by
  obtain ⟨nonempty, reads⟩ := readFundingLayers_of_reserveBilling owned admitted kept
  obtain ⟨made⟩ := reserveBilling_ok structureDigest admitted
  have made := made.made
  refine ⟨reads, settleBilling_hasLayer found made.reserved made.rule reads nonempty, ?_⟩
  intro db' settled ok
  obtain ⟨row, rowFound, replay | charged⟩ := settleBilling_ok ok
  · obtain ⟨charge, at', state, -⟩ := replay
    rw [found] at rowFound
    cases rowFound
    rw [made.reserved] at state
    cases state
  · rw [found] at rowFound
    cases rowFound
    obtain ⟨bound, reservations, usage', _, _, group, personal, charge, -, binds, layer, -,
      bindsRow, row, -, -, -, charged⟩ := charged
    obtain ⟨chosen, chooses, groupID, periodID⟩ := layer made.rule
    obtain ⟨settledRow, settledFound, rfl, -⟩ := charged.reservations
    have sameID : bound.requestID = reservation.requestID := by rw [binds]
    have sameUser : bound.userID = reservation.userID := by rw [binds]
    rw [bindsRow, if_pos sameID] at settledFound
    cases settledFound
    refine ⟨bindsLayer_of_boundLayer reads nonempty terminal chooses sameUser groupID periodID, ?_⟩
    rintro ⟨noGroup, -⟩ other at' state
    cases state
    have none' : bound.groupID = none := noGroup
    rw [charged.groupCharged, charged.group_eq, groupHoldings, none']
    rfl

/-! Two groups have the account that serves a request in their pools. The first of them has spent
its funds when the request is settled, and the second one pays. -/

def servingAccount : AccountID := ⟨List.replicate 16 '4', by decide +kernel⟩

def otherAccount : AccountID := ⟨List.replicate 16 '5', by decide +kernel⟩

def pooledFunds : Db :=
  { sampleFunds with
    groups := ⟨[⟨5, ['g'], 10 ^ 13, none, .day, 0, 0, some 6, none, 0, 1, none, [['m']], true⟩,
      ⟨7, ['h'], 10 ^ 13, none, .day, 0, 0, some 8, none, 0, 1, none, [['m']], true⟩], by decide⟩
    groupPeriods := ⟨[⟨6, 5, 0, day, 10 ^ 13, 0, none, none⟩,
      ⟨8, 7, 0, day, 10 ^ 13, 0, none, none⟩], by decide⟩
    memberships := ⟨[⟨5, 1, 1⟩, ⟨7, 1, 2⟩], by decide⟩
    upstreamAccounts := ⟨[⟨servingAccount, .codex, true⟩, ⟨otherAccount, .codex, true⟩], by decide⟩
    upstreamAccess := ⟨[], [], [], [(5, .codex)], [(5, .codex, servingAccount)]⟩ }

def served (db : Db) : Db :=
  { db with
    usage := ⟨[{ sampleUsage with upstreamAccountID := some servingAccount }], by decide⟩
    groupPeriods := db.groupPeriods.modify 6
      (fun period => { period with usedUSD := period.limitUSD }) (fun _ => rfl) }

theorem settleBilling_bindsLayer_pooledFunds : ∃ db₁ reservation layers db' settled,
    reserveBilling (fun _ => []) pooledFunds sampleParams ⟨fun _ => 0, fun _ => 0⟩ =
        .ok (db₁, reservation, layers) ∧
      layers = [.group ⟨1, 5, 6, [servingAccount.val]⟩,
        .group ⟨2, 7, 8, [servingAccount.val, otherAccount.val]⟩, .personal 3] ∧
      settleBilling (served db₁) reservation.requestID 2 = .ok (db', settled) ∧
      (settled.groupID = some 7 ∧ settled.groupPeriodID = some 8) ∧
      BindsLayer (served db₁) layers servingAccount.val settled := by
  have admits : (reserveBilling (fun _ => []) pooledFunds sampleParams
      ⟨fun _ => 0, fun _ => 0⟩).toOption.map (fun made => (made.2.1.requestID, made.2.2)) =
        some (['r'], [.group ⟨1, 5, 6, [servingAccount.val]⟩,
          .group ⟨2, 7, 8, [servingAccount.val, otherAccount.val]⟩, .personal 3]) := by
    decide +kernel
  have settles : ((reserveBilling (fun _ => []) pooledFunds sampleParams
      ⟨fun _ => 0, fun _ => 0⟩).toOption.bind fun made =>
        (settleBilling (served made.1) ['r'] 2).toOption.map fun result =>
          (result.2.groupID, result.2.groupPeriodID)) = some (some 7, some 8) := by
    decide +kernel
  obtain ⟨⟨db₁, reservation, layers⟩, made, same⟩ := Option.map_eq_some_iff.mp admits
  obtain ⟨named, listed⟩ := Prod.mk.inj same
  rw [made] at settles
  obtain ⟨⟨db', settled⟩, ok, bound⟩ := Option.map_eq_some_iff.mp settles
  obtain ⟨groupID, periodID⟩ := Prod.mk.inj bound
  have admitted := Except.toOption_eq_some.mp made
  dsimp only at named ok
  rw [Except.toOption_eq_some, ← named] at ok
  have found : (served db₁).reservations.find? reservation.requestID = some reservation := by
    obtain ⟨reserved⟩ := reserveBilling_ok _ admitted
    refine Table.find?_of_mem (t := db₁.reservations) ?_
    rw [reserved.made.reservations]
    exact List.mem_cons_self
  have terminal : (served db₁).usage.find? reservation.requestID =
      some { sampleUsage with upstreamAccountID := some servingAccount } := by
    rw [named]
    rfl
  have owned : LayersOwned pooledFunds := by
    intro row impossible
    cases impossible
  have kept : ∀ row : LayerRow, row.requestID = reservation.requestID →
      (row ∈ (served db₁).layers.rows ↔ row ∈ db₁.layers.rows) := fun _ _ => Iff.rfl
  have binds := (settleBilling_bindsLayer owned admitted kept found terminal).2.2 db' settled ok
  exact ⟨db₁, reservation, layers, db', settled, admitted, listed, ok, ⟨groupID, periodID⟩,
    binds.1⟩

end Store
