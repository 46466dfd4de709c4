import CodexGateway.Store.FundingOrder
import CodexGateway.Store.Cash
import CodexGateway.Library.JsonRoundTrip

/-! # The stored list of funding sources

A reservation keeps its sources as a JSON array. The column may order the members of each object
anew; what is read back are the same records.
-/

namespace Store

open Billing Json Decoder

/-- `BillingFundingSource` with its ids as texts, as it is written and read. -/
structure BillingFundingSource where
  sourceType : Text
  subscriptionID : Text
  periodID : Text
  cashLotCutoff : Int
  priority : Int
  periodDays : Int
  remainingUSD : Text
  deriving DecidableEq, Repr

namespace BillingFundingSource

def zero : BillingFundingSource := ⟨[], [], [], 0, 0, 0, []⟩

def fields : List (GoField BillingFundingSource) :=
  [.of "source_type" sourceType (fun s sourceType => { s with sourceType }) string,
    .of "subscription_id" subscriptionID (fun s subscriptionID => { s with subscriptionID }) string,
    .of "period_id" periodID (fun s periodID => { s with periodID }) string,
    .of "cash_lot_cutoff" cashLotCutoff (fun s cashLotCutoff => { s with cashLotCutoff }) int64,
    .of "priority" priority (fun s priority => { s with priority }) int64,
    .of "period_days" periodDays (fun s periodDays => { s with periodDays }) int64,
    .of "remaining_usd" remainingUSD (fun s remainingUSD => { s with remainingUSD }) string]

def members (s : BillingFundingSource) : List (Text × Json) :=
  [("source_type".toList, .string s.sourceType)] ++
    omitEmpty (s.subscriptionID = []) "subscription_id" (.string s.subscriptionID) ++
    omitEmpty (s.periodID = []) "period_id" (.string s.periodID) ++
    omitEmpty (s.cashLotCutoff = 0) "cash_lot_cutoff" (ofInt s.cashLotCutoff) ++
    [("priority".toList, ofInt s.priority)] ++
    omitEmpty (s.periodDays = 0) "period_days" (ofInt s.periodDays) ++
    [("remaining_usd".toList, .string s.remainingUSD)]

def json (s : BillingFundingSource) : Json := .object s.members

/-- A record of which only some fields have been read. -/
def mix (s : BillingFundingSource) (seen : Text → Bool) : BillingFundingSource where
  sourceType := if seen "source_type".toList then s.sourceType else []
  subscriptionID := if seen "subscription_id".toList then s.subscriptionID else []
  periodID := if seen "period_id".toList then s.periodID else []
  cashLotCutoff := if seen "cash_lot_cutoff".toList then s.cashLotCutoff else 0
  priority := if seen "priority".toList then s.priority else 0
  periodDays := if seen "period_days".toList then s.periodDays else 0
  remainingUSD := if seen "remaining_usd".toList then s.remainingUSD else []

/-- The numbers of a record fit the fields they are read into. -/
def InRange (s : BillingFundingSource) : Prop :=
  (Json.minInt64 ≤ s.cashLotCutoff ∧ s.cashLotCutoff ≤ Json.maxInt64) ∧
    (Json.minInt64 ≤ s.priority ∧ s.priority ≤ Json.maxInt64) ∧
    (Json.minInt64 ≤ s.periodDays ∧ s.periodDays ≤ Json.maxInt64)

theorem storeMember_mix {s : BillingFundingSource} (range : s.InRange) {member : Text × Json}
    (listed : member ∈ s.members) (seen : Text → Bool) {stored : Json}
    (same : Same member.2 stored) :
    storeMember false fields (s.mix seen) (member.1, stored) =
      some (s.mix fun name => seen name || name = member.1) := by
  simp only [members, List.mem_append, List.mem_singleton, mem_omitEmpty] at listed
  rcases listed with (((((rfl | ⟨-, rfl⟩) | ⟨-, rfl⟩) | ⟨-, rfl⟩) | rfl) | ⟨-, rfl⟩) | rfl
  · rw [storeMember_of rfl (reads_string _ _ _ same)]
    simp only [mix, String.toList_inj, String.reduceEq, decide_true, decide_false, Bool.or_true,
      Bool.or_false, if_true]
  · rw [storeMember_of rfl (reads_string _ _ _ same)]
    simp only [mix, String.toList_inj, String.reduceEq, decide_true, decide_false, Bool.or_true,
      Bool.or_false, if_true]
  · rw [storeMember_of rfl (reads_string _ _ _ same)]
    simp only [mix, String.toList_inj, String.reduceEq, decide_true, decide_false, Bool.or_true,
      Bool.or_false, if_true]
  · rw [storeMember_of rfl (reads_int64 _ range.1 _ same)]
    simp only [mix, String.toList_inj, String.reduceEq, decide_true, decide_false, Bool.or_true,
      Bool.or_false, if_true]
  · rw [storeMember_of rfl (reads_int64 _ range.2.1 _ same)]
    simp only [mix, String.toList_inj, String.reduceEq, decide_true, decide_false, Bool.or_true,
      Bool.or_false, if_true]
  · rw [storeMember_of rfl (reads_int64 _ range.2.2 _ same)]
    simp only [mix, String.toList_inj, String.reduceEq, decide_true, decide_false, Bool.or_true,
      Bool.or_false, if_true]
  · rw [storeMember_of rfl (reads_string _ _ _ same)]
    simp only [mix, String.toList_inj, String.reduceEq, decide_true, decide_false, Bool.or_true,
      Bool.or_false, if_true]

theorem nodup_keys (s : BillingFundingSource) : (s.members.map Prod.fst).Nodup := by
  have all : (["source_type".toList] ++ ["subscription_id".toList] ++ ["period_id".toList] ++
      ["cash_lot_cutoff".toList] ++ ["priority".toList] ++ ["period_days".toList] ++
      ["remaining_usd".toList]).Nodup := by decide
  refine all.sublist ?_
  simp only [members, List.map_append, List.map_cons, List.map_nil]
  exact (((((((List.Sublist.refl _).append (keys_omitEmpty_sublist _ _ _)).append
    (keys_omitEmpty_sublist _ _ _)).append (keys_omitEmpty_sublist _ _ _)).append
    (.refl _)).append (keys_omitEmpty_sublist _ _ _)).append (.refl _))

/-- A field that was left out holds the zero it is left out for. -/
theorem mix_members (s : BillingFundingSource) :
    s.mix (fun name => name ∈ s.members.map Prod.fst) = s := by
  simp only [mix, members, List.map_append, List.map_cons, List.map_nil, List.mem_append,
    List.mem_singleton, mem_keys_omitEmpty, String.toList_inj, String.reduceEq, and_false, or_false,
    false_or, and_true, or_true, decide_true, if_true, decide_not, Bool.not_eq_true',
    decide_eq_false_iff_not, ite_not]
  obtain ⟨sourceType, subscriptionID, periodID, cashLotCutoff, priority, periodDays,
    remainingUSD⟩ := s
  congr 1 <;> split <;> simp_all

theorem reads_json {s : BillingFundingSource} (range : s.InRange) :
    Reads (struct false fields) zero s.json s := by
  have read := @reads_struct _ false fields s.mix _ s.nodup_keys
    fun member listed seen _ stored same => storeMember_mix range listed seen same
  rwa [mix_members] at read

end BillingFundingSource

def encodeBillingFundingSources (sources : List BillingFundingSource) : Json :=
  .array (sources.map BillingFundingSource.json)

/-- `json.Unmarshal` into a new slice; `null` leaves it nil. -/
def decodeBillingFundingSources (body : Bytes) : Option (List BillingFundingSource) :=
  (scan? body).bind fun value =>
    (slice .zero (struct false BillingFundingSource.fields) none value).map fun stored =>
      (stored.map GoSlice.items).getD []

theorem nesting_encodeBillingFundingSources (sources : List BillingFundingSource) :
    nesting (encodeBillingFundingSources sources) ≤ 10000 := by
  have flat (s : BillingFundingSource) : nesting s.json ≤ 1 := by
    simp only [BillingFundingSource.json, nesting]
    refine Nat.succ_le_succ (nestingMembers_le.mpr fun member listed => ?_)
    simp only [BillingFundingSource.members, List.mem_append, List.mem_singleton,
      mem_omitEmpty] at listed
    rcases listed with (((((rfl | ⟨-, rfl⟩) | ⟨-, rfl⟩) | ⟨-, rfl⟩) | rfl) | ⟨-, rfl⟩) | rfl <;>
      exact le_rfl
  have items : nestingItems (sources.map BillingFundingSource.json) ≤ 1 := by
    refine nestingItems_le.mpr fun item listed => ?_
    obtain ⟨s, -, rfl⟩ := List.mem_map.mp listed
    exact flat s
  simp only [encodeBillingFundingSources, nesting]
  omega

/-- What was written is read back, in whatever order the members of the records are kept. -/
theorem decodeBillingFundingSources_of_same {sources : List BillingFundingSource}
    (range : ∀ source ∈ sources, source.InRange) {stored : Json} {body : Bytes}
    (same : Same (encodeBillingFundingSources sources) stored)
    (kept : ofBytes body = some stored) :
    decodeBillingFundingSources body = some sources := by
  have each : List.Forall₂ (Reads (struct false BillingFundingSource.fields) .zero)
      (sources.map BillingFundingSource.json) sources := by
    rw [List.forall₂_map_left_iff, List.forall₂_same]
    exact fun source listed => BillingFundingSource.reads_json (range source listed)
  rw [decodeBillingFundingSources,
    scan?_of_same same kept (nesting_encodeBillingFundingSources sources), Option.bind_some,
    reads_slice each stored same]
  rfl

/-! ## Sources and their records -/

def SourceType.text : SourceType → Text
  | .subscription => "subscription".toList
  | .cash => "cash".toList
  | .day => "day".toList
  | .week => "week".toList
  | .month => "month".toList
  | .unknown name => name

def SourceType.ofText (text : Text) : SourceType :=
  if text = "subscription".toList then .subscription
  else if text = "cash".toList then .cash
  else if text = "day".toList then .day
  else if text = "week".toList then .week
  else if text = "month".toList then .month
  else .unknown text

/-- The id that a text stands for; the empty text stands for none. -/
def idOfText (text : Text) : Option Nat :=
  if text = [] then none else some (Nat.ofDigitChars 10 text 0)

theorem idOfText_idText (id : Option Nat) : idOfText ((id.map idText).getD []) = id := by
  cases id with
  | none => rfl
  | some id =>
    have value : Nat.ofDigitChars 10 (Nat.toDigits 10 id) 0 = id :=
      Nat.ofDigitChars_toDigits (by decide) (by decide)
    simp [idOfText, idText, Nat.toDigits_ne_nil, value]

def FundingSource.record (source : FundingSource) : BillingFundingSource where
  sourceType := source.sourceType.text
  subscriptionID := (source.subscriptionID.map idText).getD []
  periodID := (source.periodID.map idText).getD []
  cashLotCutoff := source.cashLotCutoff
  priority := source.priority
  periodDays := source.periodDays
  remainingUSD := source.remainingUSD

def BillingFundingSource.source (record : BillingFundingSource) : FundingSource where
  sourceType := .ofText record.sourceType
  subscriptionID := idOfText record.subscriptionID
  periodID := idOfText record.periodID
  cashLotCutoff := record.cashLotCutoff
  priority := record.priority
  periodDays := record.periodDays
  remainingUSD := record.remainingUSD

theorem FundingSource.Personal.source_record {source : FundingSource} (personal : source.Personal) :
    source.record.source = source := by
  have kind : SourceType.ofText source.sourceType.text = source.sourceType := by
    rcases personal with kind | kind <;> rw [kind] <;> decide
  simp only [FundingSource.record, BillingFundingSource.source, kind, idOfText_idText]

theorem FundingSource.Fit.inRange {source : FundingSource} (fit : source.Fit) :
    source.record.InRange := by
  have cutoff := fit.cashLotCutoff
  have days := fit.periodDays
  have priority := fit.sortable.priority
  simp only [BillingFundingSource.InRange, FundingSource.record, Json.minInt64, Json.maxInt64] at *
  omega

/-- The sources of a user are one list in one order, which is stored, read and settled as it
was made. -/
theorem snapshotBillingFunding_canonical {db : Db} {account : BillingAccount}
    (rows : FundingRows db account) (model : Text) (now : Time) :
    ∃ sources,
      snapshotBillingFunding db account.userID model now (numericText account.balanceUSD)
        account.cashPriority (cashCutoff account) = .ok sources ∧
      (∀ returned, returned.Perm (subscriptionSources db account.userID model now) →
        sortBillingFundingSources (returned ++ cashSource db model
          (numericText account.balanceUSD) account.cashPriority (cashCutoff account)) =
            .ok sources) ∧
      sources.Perm (fundingSources db account model now) ∧
      (sources.map FundingSource.periodID).Nodup ∧
      sources.Pairwise (fun a b => a.key < b.key) ∧
      (∀ stored body, Same (encodeBillingFundingSources (sources.map FundingSource.record)) stored →
        ofBytes body = some stored →
        (decodeBillingFundingSources body).map (List.map BillingFundingSource.source) =
          some sources) ∧
      ∀ reservation : BillingReservation,
        reservation.fundingRuleVersion = 3 ∨ reservation.fundingRuleVersion = 4 →
        reservation.orderedFundingSources = sources →
          billingSettlementSources reservation = .ok sources := by
  have arranged := List.perm_insertionSort (fun a b : FundingSource => a.key ≤ b.key)
    (fundingSources db account model now)
  have distinct := @nodup_key_fundingSources db account model now rows
  have fit : ∀ source ∈ (fundingSources db account model now).insertionSort
      (fun a b => a.key ≤ b.key), source.Fit :=
    fun source listed => fit_of_mem rows (arranged.subset listed)
  have sorted {returned : List FundingSource}
      (perm : returned.Perm (fundingSources db account model now)) :
      sortBillingFundingSources returned = .ok ((fundingSources db account model now).insertionSort
        fun a b => a.key ≤ b.key) := by
    rw [sortBillingFundingSources_eq
      (fun source listed => (fit_of_mem rows (perm.subset listed)).personal)
      (fun source listed => (fit_of_mem rows (perm.subset listed)).sortable),
      insertionSort_key_of_perm perm distinct]
  have periods : ((fundingSources db account model now).insertionSort
      fun a b => a.key ≤ b.key).Pairwise fun a b => a.periodID ≠ b.periodID := by
    have apart : ((fundingSources db account model now).map FundingSource.periodID).Nodup := by
      rw [List.Nodup, List.pairwise_map]
      exact (pairwise_fundingSources rows).imp fun both => both.2
    have kept := (arranged.map FundingSource.periodID).nodup_iff.mpr apart
    rwa [List.Nodup, List.pairwise_map] at kept
  refine ⟨_, sorted (.refl _), fun returned perm => sorted (perm.append_right _), arranged, ?_,
    pairwise_key_lt distinct, fun stored body same kept => ?_, fun reservation version bound => ?_⟩
  · rwa [List.Nodup, List.pairwise_map]
  · rw [decodeBillingFundingSources_of_same ?_ same kept, Option.map_some, List.map_map]
    · congr 1
      conv_rhs => rw [← List.map_id (List.insertionSort _ _)]
      exact List.map_congr_left fun source listed => (fit source listed).personal.source_record
    · intro record listed
      obtain ⟨source, known, rfl⟩ := List.mem_map.mp listed
      exact (fit source known).inRange
  · rw [billingSettlementSources, if_pos version, bound,
      validateFundingSnapshot_of_fit fit periods (fun _ _ => List.not_mem_nil)]
    rfl

/-- A weekly subscription behind cash of a higher priority. -/
def weekAndCash : Db :=
  { Db.empty ⟨10 ^ amountScale, [['m']], true⟩ with
    subscriptions := ⟨[⟨4, 1, ['w'], .week, true, 9, some 8, 0, 1, none, none, 7, [['m']], true,
      true, 20, none, none, 1⟩], by decide⟩
    subscriptionPeriods := ⟨[⟨8, 4, 1, .week, 0, 700, 9, 3, 1, 0, none, 7, none⟩], by decide⟩ }

def cashFirst : BillingAccount := ⟨1, 5, 3, false, 10, none⟩

theorem snapshotBillingFunding_weekAndCash : ∃ sources,
    snapshotBillingFunding weekAndCash 1 ['m'] 100 (numericText 5) 10 (some 2) = .ok sources ∧
      sources.map FundingSource.periodID = [none, some 8] ∧
      sources.Pairwise fun a b => a.key < b.key := by
  have rows : FundingRows weekAndCash cashFirst := by
    refine ⟨by decide, by decide, fun s stored period found => ?_, by decide, by decide⟩
    have single := List.mem_singleton.mp stored
    rw [single] at found ⊢
    have current : (some 8 : Option Nat).bind weekAndCash.subscriptionPeriods.find? =
        some ⟨8, 4, 1, .week, 0, 700, 9, 3, 1, 0, none, 7, none⟩ := by decide
    cases current.symm.trans found
    rfl
  have cutoff : cashCutoff cashFirst = some 2 := by decide +kernel
  obtain ⟨sources, made, -, -, -, sorted, -⟩ :=
    snapshotBillingFunding_canonical rows ['m'] 100
  rw [cutoff] at made
  have listed : (snapshotBillingFunding weekAndCash 1 ['m'] 100 (numericText 5) 10 (some 2)).map
      (List.map FundingSource.periodID) = .ok [none, some 8] := by decide +kernel
  refine ⟨sources, made, ?_, sorted⟩
  obtain ⟨again, same, periods⟩ := Except.map_eq_ok.mp listed
  cases same.symm.trans made
  exact periods

end Store
