import CodexGateway.Store.Layers

/-! # Recorded layers

Admission stores the layers of a request one row at a time, the pools as arrays of
account ids; settlement reads the rows back in position order, each array through
a comma-joined text. What is read is what was stored.
-/

namespace Store

open Billing

variable {ids : List AccountID} {db : Db} {requestID : Text}

theorem comma_not_mem_accountID (id : AccountID) : ',' ∉ id.val := by
  intro member
  rcases id.property.2 ',' member with ⟨low, _⟩ | ⟨low, _⟩
  · exact absurd low (by decide)
  · exact absurd low (by decide)

theorem splitAccounts_joinAccounts (nonempty : ids ≠ []) :
    splitAccounts (joinAccounts ids) = ids.map Subtype.val := by
  have split : (joinAccounts ids).splitOn ',' = ids.map Subtype.val := by
    apply List.splitOn_intercalate
    · intro text member
      obtain ⟨id, _, rfl⟩ := List.mem_map.mp member
      exact comma_not_mem_accountID id
    · exact fun empty => nonempty (List.map_eq_nil_iff.mp empty)
  unfold splitAccounts
  split
  · rename_i empty
    rw [empty] at split
    -- An empty text would be a single id without characters.
    cases ids with
    | nil => exact absurd rfl nonempty
    | cons id rest =>
      have blank : id.val = [] := by
        have := congrArg List.head? split
        simpa using this.symm
      have long := id.property.1
      rw [blank] at long
      cases long
  · exact split

private theorem mapM_accountIDs {texts : List Text} (typed : (texts.mapM fun text =>
      if valid : IsAccountID text then some (⟨text, valid⟩ : AccountID) else none) = some ids) :
    ids.map Subtype.val = texts := by
  induction texts generalizing ids with
  | nil =>
    cases typed
    rfl
  | cons text rest ih =>
    rw [List.mapM_cons] at typed
    by_cases valid : IsAccountID text
    · rw [dif_pos valid] at typed
      cases others : rest.mapM fun text =>
          if valid : IsAccountID text then some (⟨text, valid⟩ : AccountID) else none with
      | none =>
        rw [others] at typed
        cases typed
      | some restIDs =>
        rw [others] at typed
        cases typed
        rw [List.map_cons, ih others]
    · rw [dif_neg valid] at typed
      cases typed

theorem accountColumn_eq {accountIDs : List Text} (column : accountColumn accountIDs = some ids) :
    ids ≠ [] ∧ ids.map Subtype.val = accountIDs := by
  unfold accountColumn at column
  split at column
  · rename_i sized
    have same := mapM_accountIDs column
    refine ⟨?_, same⟩
    intro empty
    rw [← same, empty] at sized
    exact absurd sized.1 (by decide)
  · cases column

variable {layer : FundingLayer} {db' : Db} {userID : UserID} {layers : List FundingLayer}

theorem layerPool_read {pool : LayerPool} (column : layerPool layer = some pool) (requestID : Text)
    (userID : UserID) : LayerRow.read ⟨requestID, layer.position, userID, pool⟩ = layer := by
  cases layer with
  | personal position =>
    cases column
    rfl
  | group layer =>
    obtain ⟨ids, typed, rfl⟩ := Option.map_eq_some_iff.mp column
    obtain ⟨nonempty, same⟩ := accountColumn_eq typed
    simp only [LayerRow.read, FundingLayer.position, splitAccounts_joinAccounts nonempty, same]

theorem recordFundingLayer_ok (ok : recordFundingLayer db requestID userID layer = .ok db') :
    ∃ pool, LayerRow.read ⟨requestID, layer.position, userID, pool⟩ = layer ∧
      db'.layers.rows = ⟨requestID, layer.position, userID, pool⟩ :: db.layers.rows ∧
      db' = { db with layers := db'.layers } := by
  unfold recordFundingLayer at ok
  cases column : layerPool layer with
  | none =>
    rw [column] at ok
    cases ok
  | some pool =>
    rw [column] at ok
    obtain ⟨-, ok⟩ := Except.refuse_eq_ok.mp ok
    obtain ⟨-, ok⟩ := Except.refuse_eq_ok.mp ok
    refine ⟨pool, layerPool_read column requestID userID, ?_⟩
    split at ok
    · cases ok
    · rename_i layers inserted
      cases ok
      exact ⟨(Table.insert?_eq_some.mp inserted).2, rfl⟩

theorem recordFundingLayers_ok (ok : recordFundingLayers requestID userID layers db = .ok db') :
    ∃ rows : List LayerRow, rows.map LayerRow.read = layers ∧
      (∀ row ∈ rows, row.requestID = requestID) ∧
      rows.map LayerRow.position = layers.map FundingLayer.position ∧
      db'.layers.rows = rows.reverse ++ db.layers.rows ∧
      db' = { db with layers := db'.layers } := by
  induction layers generalizing db with
  | nil =>
    cases ok
    exact ⟨[], rfl, by simp, rfl, rfl, rfl⟩
  | cons layer rest ih =>
    obtain ⟨middle, recorded, ok⟩ := Except.bind_eq_ok.mp ok
    obtain ⟨pool, reads, inserted, frame⟩ := recordFundingLayer_ok recorded
    obtain ⟨rows, readRest, named, positions, appended, laterFrame⟩ := ih ok
    refine ⟨⟨requestID, layer.position, userID, pool⟩ :: rows, ?_, ?_, ?_, ?_, ?_⟩
    · rw [List.map_cons, reads, readRest]
    · intro row member
      rcases List.mem_cons.mp member with rfl | later
      · rfl
      · exact named row later
    · rw [List.map_cons, positions, List.map_cons]
    · rw [appended, inserted, List.reverse_cons, List.append_assoc]
      rfl
    · rw [laterFrame, frame]

/-! ## Reading back -/

theorem numberLayers_positions (personal : Bool) (position : Nat) (pools : List GroupLayer) :
    (numberLayers personal position pools).Pairwise (fun a b => a.position < b.position) ∧
      ∀ layer ∈ numberLayers personal position pools, position ≤ layer.position := by
  induction pools generalizing position with
  | nil =>
    unfold numberLayers
    split
    · exact ⟨List.pairwise_singleton _ _, by simp [FundingLayer.position]⟩
    · exact ⟨List.Pairwise.nil, by simp⟩
  | cons pool rest ih =>
    obtain ⟨increasing, above⟩ := ih (position + 1)
    refine ⟨List.pairwise_cons.mpr ⟨?_, increasing⟩, ?_⟩
    · intro layer member
      exact above layer member
    · intro layer member
      rcases List.mem_cons.mp member with rfl | later
      · exact Nat.le_refl position
      · exact Nat.le_of_succ_le (above layer later)

/-- The rows of a request among those of all requests. -/
def layerRows (db : Db) (requestID : Text) : List LayerRow :=
  db.layers.rows.filter fun row => row.requestID = requestID

/-- Rows in position order read back as they were recorded, however the table
lists them. -/
theorem readFundingLayers_of_rows {rows : List LayerRow}
    (stored : (layerRows db requestID).Perm rows) (reads : rows.map LayerRow.read = layers)
    (positions : rows.map LayerRow.position = layers.map FundingLayer.position)
    (increasing : layers.Pairwise fun a b => a.position < b.position) (nonempty : layers ≠ []) :
    readFundingLayers db requestID = .ok layers := by
  have ordered : rows.Pairwise fun a b => a.position < b.position := by
    have strict : (rows.map LayerRow.position).Pairwise (· < ·) := by
      rw [positions]
      exact List.pairwise_map.mpr increasing
    exact List.pairwise_map.mp strict
  have sorted : (layerRows db requestID).insertionSort (fun a b => a.position ≤ b.position) =
      rows := by
    have perm := (List.perm_insertionSort (fun a b : LayerRow => a.position ≤ b.position)
      (layerRows db requestID)).trans stored
    apply List.Perm.eq_of_pairwise ?_ (List.pairwise_insertionSort _ _)
      (ordered.imp fun below => Nat.le_of_lt below) perm
    -- Two rows of one position are one row, because the positions are distinct.
    intro a b inSorted inRows below above
    have distinct : (rows.map LayerRow.position).Nodup :=
      (List.pairwise_map.mpr ordered).imp fun below => Nat.ne_of_lt below
    exact List.inj_on_of_nodup_map distinct (perm.mem_iff.mp inSorted) inRows
      (Nat.le_antisymm below above)
  have some' : rows ≠ [] := by
    intro empty
    rw [empty] at reads
    exact nonempty reads.symm
  unfold readFundingLayers
  dsimp only
  change (if (layerRows db requestID).insertionSort _ = [] then _ else
    Except.ok (((layerRows db requestID).insertionSort _).map LayerRow.read)) = _
  rw [sorted, if_neg some', reads]

end Store
