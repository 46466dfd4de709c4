import CodexGateway.Billing.Amount

/-! # Exact costs

Every cost function adds up lines of tokens and prices, takes the sum times the multiplier, and
rounds once. Costs therefore grow with every line, and forms with the same lines agree.
-/

namespace Billing

variable {cost : ℚ} {multiplier : Text}

/-- The exact cost of tokens at prices for a million of them. -/
def exactCost (lines : List (Int × Text)) (multiplier : Text) : ℚ :=
  (lines.map fun line => (line.1 : ℚ) * ratOf line.2).sum * ratOf multiplier / 10 ^ 6

/-- The units of a cost: rounded once, halves away from zero. -/
def costUnits (cost : ℚ) : Int := Decimal.roundHalfAway (cost * 10 ^ amountScale)

/-- An outcome is the text of the rounded cost with twelve fractional digits, and a failure only
if the rounded cost has more than eighteen integer digits. -/
def Exact (outcome : Except String Text) (cost : ℚ) : Prop :=
  outcome = if (costUnits cost).natAbs < 10 ^ (amountScale + maxIntegerDigits) then
      .ok (Decimal.fixedText amountScale (costUnits cost))
    else .error ("amount exceeds NUMERIC(30,12): " ++ errInvalidDecimal)

/-- Where the larger outcome is a cost, the smaller one is a cost that does not exceed it. -/
def NotAbove (outcome outcome' : Except String Text) : Prop :=
  ∀ cost', outcome' = .ok cost' → ∃ cost, outcome = .ok cost ∧ ratOf cost ≤ ratOf cost'

theorem exact_roundAmount {value : ℚ} (same : value = cost) : Exact (roundAmount value) cost := by
  rw [same, Exact, roundAmount_eq]
  rfl

theorem Exact.unique {outcome outcome' : Except String Text} (exact : Exact outcome cost)
    (exact' : Exact outcome' cost) : outcome = outcome' :=
  Eq.trans exact exact'.symm

theorem Exact.notAbove {outcome outcome' : Except String Text} {cost' : ℚ}
    (exact : Exact outcome cost) (exact' : Exact outcome' cost') (nonneg : 0 ≤ cost)
    (le : cost ≤ cost') : NotAbove outcome outcome' := by
  intro text returned
  have power : (0 : ℚ) < 10 ^ amountScale := by positivity
  have ordered : costUnits cost ≤ costUnits cost' :=
    Decimal.roundHalfAway_mono (mul_le_mul_of_nonneg_right le power.le)
  have positive : 0 ≤ costUnits cost := Decimal.roundHalfAway_nonneg (mul_nonneg nonneg power.le)
  rw [exact'] at returned
  split at returned
  · rename_i range
    cases returned
    refine ⟨_, exact.trans (if_pos (by omega)), ?_⟩
    rw [ratOf, ratOf, Decimal.value?_fixedText, Decimal.value?_fixedText, Option.getD_some,
      Option.getD_some]
    have cast : (costUnits cost : ℚ) ≤ costUnits cost' := by exact_mod_cast ordered
    gcongr
  · cases returned

/-- Lines with no fewer tokens at no lower prices. -/
def Grows (lines lines' : List (Int × Text)) : Prop :=
  List.Forall₂ (fun line line' => line.1 ≤ line'.1 ∧ ratOf line.2 ≤ ratOf line'.2) lines lines'

/-- Lines of counted tokens at accepted prices. -/
def Priced (lines : List (Int × Text)) : Prop := ∀ line ∈ lines, 0 ≤ line.1 ∧ IsPrice line.2

theorem Priced.sum_nonneg {lines : List (Int × Text)} (priced : Priced lines) :
    0 ≤ (lines.map fun line => (line.1 : ℚ) * ratOf line.2).sum := by
  apply List.sum_nonneg
  intro amount member
  obtain ⟨line, listed, rfl⟩ := List.mem_map.mp member
  obtain ⟨counted, price⟩ := priced line listed
  have : (0 : ℚ) ≤ line.1 := by exact_mod_cast counted
  exact mul_nonneg this price.nonneg

theorem Grows.sum_le {lines lines' : List (Int × Text)} (grows : Grows lines lines')
    (priced : Priced lines) :
    (lines.map fun line => (line.1 : ℚ) * ratOf line.2).sum ≤
      (lines'.map fun line => (line.1 : ℚ) * ratOf line.2).sum := by
  induction grows with
  | nil => simp
  | @cons line line' lines lines' first rest ih =>
    obtain ⟨counted, price⟩ := priced line List.mem_cons_self
    have tokens : (line.1 : ℚ) ≤ line'.1 := by exact_mod_cast first.1
    have positive : (0 : ℚ) ≤ line'.1 := by exact_mod_cast counted.trans first.1
    simp only [List.map_cons, List.sum_cons]
    exact add_le_add (mul_le_mul tokens first.2 price.nonneg positive)
      (ih fun other member => priced other (.tail _ member))

theorem IsMultiplier.nonneg (factor : IsMultiplier multiplier) : 0 ≤ ratOf multiplier := by
  obtain ⟨canonical, accepted⟩ := factor
  exact (parseBounded_unsigned_value accepted).1

theorem exactCost_nonneg {lines : List (Int × Text)} (priced : Priced lines)
    (factor : IsMultiplier multiplier) : 0 ≤ exactCost lines multiplier :=
  div_nonneg (mul_nonneg priced.sum_nonneg factor.nonneg) (by positivity)

theorem exactCost_mono {lines lines' : List (Int × Text)} {multiplier' : Text}
    (grows : Grows lines lines') (priced : Priced lines) (factor : IsMultiplier multiplier)
    (larger : ratOf multiplier ≤ ratOf multiplier') :
    exactCost lines multiplier ≤ exactCost lines' multiplier' := by
  have sums := grows.sum_le priced
  have positive := priced.sum_nonneg
  unfold exactCost
  gcongr
  · exact factor.nonneg
  · exact positive.trans sums

/-! ## The calls -/

/-- A call of `CalculateCostWithMultiplier` with valid counts. -/
structure V1Call where
  inputTokens : Int
  cachedInputTokens : Int
  outputTokens : Int
  inputPrice : Text
  cachedPrice : Text
  outputPrice : Text
  multiplier : Text
  counts : 0 ≤ cachedInputTokens ∧ cachedInputTokens ≤ inputTokens ∧ 0 ≤ outputTokens
  prices : IsPrice inputPrice ∧ IsPrice cachedPrice ∧ IsPrice outputPrice
  factor : IsMultiplier multiplier

def V1Call.run (call : V1Call) : Except String Text :=
  calculateCostWithMultiplier call.inputTokens call.cachedInputTokens call.outputTokens
    call.inputPrice call.cachedPrice call.outputPrice call.multiplier

def V1Call.lines (call : V1Call) : List (Int × Text) :=
  [(call.inputTokens - call.cachedInputTokens, call.inputPrice),
    (call.cachedInputTokens, call.cachedPrice), (call.outputTokens, call.outputPrice)]

/-- A call of `CalculateCostV2WithMultiplier` with valid counts. -/
structure V2Call where
  inputTokens : Int
  cachedInputTokens : Int
  cacheWriteTokens : Int
  outputTokens : Int
  separate : Bool
  inputPrice : Text
  cachedPrice : Text
  cacheWritePrice : Text
  outputPrice : Text
  multiplier : Text
  counts : 0 ≤ cachedInputTokens ∧ cachedInputTokens ≤ inputTokens ∧ 0 ≤ cacheWriteTokens ∧
    0 ≤ outputTokens
  writes : separate = true → cacheWriteTokens ≤ inputTokens - cachedInputTokens
  prices : IsPrice inputPrice ∧ IsPrice cachedPrice ∧ IsPrice cacheWritePrice ∧
    IsPrice outputPrice
  factor : IsMultiplier multiplier

def V2Call.mode (call : V2Call) : Text :=
  if call.separate then cacheWriteSeparate else cacheWriteIncludedInInput

def V2Call.run (call : V2Call) : Except String Text :=
  calculateCostV2WithMultiplier call.inputTokens call.cachedInputTokens call.cacheWriteTokens
    call.outputTokens call.mode call.inputPrice call.cachedPrice call.cacheWritePrice
    call.outputPrice call.multiplier

def V2Call.lines (call : V2Call) : List (Int × Text) :=
  if call.separate then
    [(call.inputTokens - call.cachedInputTokens - call.cacheWriteTokens, call.inputPrice),
      (call.cachedInputTokens, call.cachedPrice), (call.cacheWriteTokens, call.cacheWritePrice),
      (call.outputTokens, call.outputPrice)]
  else
    [(call.inputTokens - call.cachedInputTokens, call.inputPrice),
      (call.cachedInputTokens, call.cachedPrice), (call.outputTokens, call.outputPrice)]

/-- A call of `CalculateCostV2TTLWithMultiplier` with valid counts. -/
structure TTLCall where
  inputTokens : Int
  cachedInputTokens : Int
  cacheWriteTokens : Int
  cacheWrite5mTokens : Int
  cacheWrite1hTokens : Int
  outputTokens : Int
  cacheWriteTTLPresent : Bool
  inputPrice : Text
  cachedPrice : Text
  cacheWrite5mPrice : Text
  cacheWrite1hPrice : Text
  outputPrice : Text
  multiplier : Text
  counts : 0 ≤ cachedInputTokens ∧ cachedInputTokens ≤ inputTokens ∧ 0 ≤ cacheWriteTokens ∧
    cacheWriteTokens ≤ inputTokens - cachedInputTokens ∧ 0 ≤ outputTokens
  lifetimes : if cacheWriteTTLPresent then
      0 ≤ cacheWrite5mTokens ∧ cacheWrite5mTokens ≤ cacheWriteTokens ∧
        cacheWrite1hTokens = cacheWriteTokens - cacheWrite5mTokens
    else cacheWrite5mTokens = 0 ∧ cacheWrite1hTokens = 0
  prices : IsPrice inputPrice ∧ IsPrice cachedPrice ∧ IsPrice cacheWrite5mPrice ∧
    IsPrice cacheWrite1hPrice ∧ IsPrice outputPrice
  factor : IsMultiplier multiplier

def TTLCall.run (call : TTLCall) : Except String Text :=
  calculateCostV2TTLWithMultiplier call.inputTokens call.cachedInputTokens call.cacheWriteTokens
    call.cacheWrite5mTokens call.cacheWrite1hTokens call.outputTokens call.cacheWriteTTLPresent
    call.inputPrice call.cachedPrice call.cacheWrite5mPrice call.cacheWrite1hPrice call.outputPrice
    call.multiplier

def largerPrice (left right : Text) : Text := if ratOf left < ratOf right then right else left

def TTLCall.lines (call : TTLCall) : List (Int × Text) :=
  [(call.inputTokens - call.cachedInputTokens - call.cacheWriteTokens, call.inputPrice),
    (call.cachedInputTokens, call.cachedPrice)] ++
  (if call.cacheWriteTTLPresent then
    [(call.cacheWrite5mTokens, call.cacheWrite5mPrice),
      (call.cacheWrite1hTokens, call.cacheWrite1hPrice)]
  else [(call.cacheWriteTokens, largerPrice call.cacheWrite5mPrice call.cacheWrite1hPrice)]) ++
  [(call.outputTokens, call.outputPrice)]

theorem ratOf_largerPrice (left right : Text) :
    ratOf (largerPrice left right) = max (ratOf left) (ratOf right) := by
  unfold largerPrice
  split
  · rename_i less
    rw [max_eq_right less.le]
  · rename_i least
    rw [max_eq_left (not_lt.mp least)]

/-! ## Exactness -/

theorem V1Call.exact (call : V1Call) : Exact call.run (exactCost call.lines call.multiplier) := by
  rw [V1Call.run, calculateCostWithMultiplier_eq call.counts call.prices.1 call.prices.2.1
    call.prices.2.2 call.factor]
  refine exact_roundAmount ?_
  simp only [exactCost, V1Call.lines, List.map_cons, List.map_nil, List.sum_cons, List.sum_nil]
  push_cast
  ring

theorem V2Call.exact (call : V2Call) : Exact call.run (exactCost call.lines call.multiplier) := by
  have mode : call.mode = cacheWriteSeparate ∨ call.mode = cacheWriteIncludedInInput := by
    unfold V2Call.mode
    split
    · exact .inl rfl
    · exact .inr rfl
  have separate : call.mode = cacheWriteSeparate ↔ call.separate = true := by
    unfold V2Call.mode
    cases call.separate with
    | true => simp
    | false => exact ⟨fun same => absurd same (by decide), fun same => absurd same (by decide)⟩
  rw [V2Call.run, calculateCostV2WithMultiplier_eq call.counts mode
    (fun same => call.writes (separate.mp same)) call.prices.1 call.prices.2.1 call.prices.2.2.1
    call.prices.2.2.2 call.factor]
  refine exact_roundAmount ?_
  simp only [exactCost, V2Call.lines, separate]
  split <;> simp only [List.map_cons, List.map_nil, List.sum_cons, List.sum_nil] <;>
    push_cast <;> ring

theorem TTLCall.exact (call : TTLCall) : Exact call.run (exactCost call.lines call.multiplier) := by
  rw [TTLCall.run, calculateCostV2TTLWithMultiplier_eq call.counts call.lifetimes call.prices.1
    call.prices.2.1 call.prices.2.2.1 call.prices.2.2.2.1 call.prices.2.2.2.2 call.factor]
  refine exact_roundAmount ?_
  simp only [exactCost, TTLCall.lines]
  split <;> simp only [List.map_cons, List.map_append, List.map_nil, List.sum_cons,
    List.sum_append, List.sum_nil, ratOf_largerPrice] <;> push_cast <;> ring

/-! ## Lines of valid calls -/

theorem V1Call.priced (call : V1Call) : Priced call.lines := by
  obtain ⟨cached, input, output⟩ := call.counts
  obtain ⟨inputPrice, cachedPrice, outputPrice⟩ := call.prices
  simp only [Priced, V1Call.lines, List.forall_mem_cons]
  exact ⟨⟨by omega, inputPrice⟩, ⟨cached, cachedPrice⟩, ⟨output, outputPrice⟩, by simp⟩

theorem V2Call.priced (call : V2Call) : Priced call.lines := by
  obtain ⟨cached, input, write, output⟩ := call.counts
  obtain ⟨inputPrice, cachedPrice, writePrice, outputPrice⟩ := call.prices
  unfold V2Call.lines
  split
  · rename_i separate
    have fits := call.writes separate
    simp only [Priced, List.forall_mem_cons]
    exact ⟨⟨by omega, inputPrice⟩, ⟨cached, cachedPrice⟩, ⟨write, writePrice⟩,
      ⟨output, outputPrice⟩, by simp⟩
  · simp only [Priced, List.forall_mem_cons]
    exact ⟨⟨by omega, inputPrice⟩, ⟨cached, cachedPrice⟩, ⟨output, outputPrice⟩, by simp⟩

theorem isPrice_largerPrice {left right : Text} (l : IsPrice left) (r : IsPrice right) :
    IsPrice (largerPrice left right) := by
  unfold largerPrice
  split
  · exact r
  · exact l

theorem TTLCall.priced (call : TTLCall) : Priced call.lines := by
  obtain ⟨cached, input, write, fits, output⟩ := call.counts
  obtain ⟨inputPrice, cachedPrice, price5m, price1h, outputPrice⟩ := call.prices
  have lifetimes := call.lifetimes
  unfold TTLCall.lines
  split
  · rename_i present
    rw [if_pos present] at lifetimes
    simp only [Priced, List.cons_append, List.nil_append, List.forall_mem_cons]
    exact ⟨⟨by omega, inputPrice⟩, ⟨cached, cachedPrice⟩, ⟨lifetimes.1, price5m⟩,
      ⟨by omega, price1h⟩, ⟨output, outputPrice⟩, by simp⟩
  · simp only [Priced, List.cons_append, List.nil_append, List.forall_mem_cons]
    exact ⟨⟨by omega, inputPrice⟩, ⟨cached, cachedPrice⟩,
      ⟨write, isPrice_largerPrice price5m price1h⟩, ⟨output, outputPrice⟩, by simp⟩

/-! ## Growth -/

/-- No category of tokens, no price and not the multiplier is smaller in the second call. -/
structure V1Call.Le (call call' : V1Call) : Prop where
  ordinary : call.inputTokens - call.cachedInputTokens ≤ call'.inputTokens - call'.cachedInputTokens
  cached : call.cachedInputTokens ≤ call'.cachedInputTokens
  output : call.outputTokens ≤ call'.outputTokens
  inputPrice : ratOf call.inputPrice ≤ ratOf call'.inputPrice
  cachedPrice : ratOf call.cachedPrice ≤ ratOf call'.cachedPrice
  outputPrice : ratOf call.outputPrice ≤ ratOf call'.outputPrice
  multiplier : ratOf call.multiplier ≤ ratOf call'.multiplier

/-- Calls of one mode. Writes that are included in the input are no category of their own. -/
structure V2Call.Le (call call' : V2Call) : Prop where
  mode : call.separate = call'.separate
  ordinary : call.inputTokens - call.cachedInputTokens -
      (if call.separate then call.cacheWriteTokens else 0) ≤
    call'.inputTokens - call'.cachedInputTokens -
      (if call'.separate then call'.cacheWriteTokens else 0)
  cached : call.cachedInputTokens ≤ call'.cachedInputTokens
  cacheWrite : call.cacheWriteTokens ≤ call'.cacheWriteTokens
  output : call.outputTokens ≤ call'.outputTokens
  inputPrice : ratOf call.inputPrice ≤ ratOf call'.inputPrice
  cachedPrice : ratOf call.cachedPrice ≤ ratOf call'.cachedPrice
  cacheWritePrice : ratOf call.cacheWritePrice ≤ ratOf call'.cacheWritePrice
  outputPrice : ratOf call.outputPrice ≤ ratOf call'.outputPrice
  multiplier : ratOf call.multiplier ≤ ratOf call'.multiplier

structure TTLCall.Le (call call' : TTLCall) : Prop where
  present : call.cacheWriteTTLPresent = call'.cacheWriteTTLPresent
  ordinary : call.inputTokens - call.cachedInputTokens - call.cacheWriteTokens ≤
    call'.inputTokens - call'.cachedInputTokens - call'.cacheWriteTokens
  cached : call.cachedInputTokens ≤ call'.cachedInputTokens
  cacheWrite : call.cacheWriteTokens ≤ call'.cacheWriteTokens
  cacheWrite5m : call.cacheWrite5mTokens ≤ call'.cacheWrite5mTokens
  cacheWrite1h : call.cacheWrite1hTokens ≤ call'.cacheWrite1hTokens
  output : call.outputTokens ≤ call'.outputTokens
  inputPrice : ratOf call.inputPrice ≤ ratOf call'.inputPrice
  cachedPrice : ratOf call.cachedPrice ≤ ratOf call'.cachedPrice
  cacheWrite5mPrice : ratOf call.cacheWrite5mPrice ≤ ratOf call'.cacheWrite5mPrice
  cacheWrite1hPrice : ratOf call.cacheWrite1hPrice ≤ ratOf call'.cacheWrite1hPrice
  outputPrice : ratOf call.outputPrice ≤ ratOf call'.outputPrice
  multiplier : ratOf call.multiplier ≤ ratOf call'.multiplier

theorem V1Call.Le.grows {call call' : V1Call} (le : call.Le call') : Grows call.lines call'.lines :=
  .cons ⟨le.ordinary, le.inputPrice⟩ (.cons ⟨le.cached, le.cachedPrice⟩
    (.cons ⟨le.output, le.outputPrice⟩ .nil))

theorem V2Call.Le.grows {call call' : V2Call} (le : call.Le call') :
    Grows call.lines call'.lines := by
  have mode := le.mode
  have ordinary := le.ordinary
  unfold V2Call.lines
  cases separate : call.separate with
  | true =>
    rw [separate] at mode
    simp only [separate, ← mode, if_true] at ordinary ⊢
    exact .cons ⟨ordinary, le.inputPrice⟩ (.cons ⟨le.cached, le.cachedPrice⟩
      (.cons ⟨le.cacheWrite, le.cacheWritePrice⟩ (.cons ⟨le.output, le.outputPrice⟩ .nil)))
  | false =>
    rw [separate] at mode
    simp only [separate, ← mode, Bool.false_eq_true, if_false, sub_zero] at ordinary ⊢
    exact .cons ⟨ordinary, le.inputPrice⟩ (.cons ⟨le.cached, le.cachedPrice⟩
      (.cons ⟨le.output, le.outputPrice⟩ .nil))

theorem TTLCall.Le.grows {call call' : TTLCall} (le : call.Le call') :
    Grows call.lines call'.lines := by
  have present := le.present
  have larger : ratOf (largerPrice call.cacheWrite5mPrice call.cacheWrite1hPrice) ≤
      ratOf (largerPrice call'.cacheWrite5mPrice call'.cacheWrite1hPrice) := by
    rw [ratOf_largerPrice, ratOf_largerPrice]
    exact max_le_max le.cacheWrite5mPrice le.cacheWrite1hPrice
  unfold TTLCall.lines
  cases split : call.cacheWriteTTLPresent with
  | true =>
    rw [split] at present
    simp only [← present, if_true]
    exact .cons ⟨le.ordinary, le.inputPrice⟩ (.cons ⟨le.cached, le.cachedPrice⟩
      (.cons ⟨le.cacheWrite5m, le.cacheWrite5mPrice⟩
        (.cons ⟨le.cacheWrite1h, le.cacheWrite1hPrice⟩ (.cons ⟨le.output, le.outputPrice⟩ .nil))))
  | false =>
    rw [split] at present
    simp only [← present, Bool.false_eq_true, if_false]
    exact .cons ⟨le.ordinary, le.inputPrice⟩ (.cons ⟨le.cached, le.cachedPrice⟩
      (.cons ⟨le.cacheWrite, larger⟩ (.cons ⟨le.output, le.outputPrice⟩ .nil)))

/-! ## Forms with the same lines -/

/-- The call in separate mode with the counts of a call by lifetime. -/
def TTLCall.separate (call : TTLCall) : V2Call where
  inputTokens := call.inputTokens
  cachedInputTokens := call.cachedInputTokens
  cacheWriteTokens := call.cacheWriteTokens
  outputTokens := call.outputTokens
  separate := true
  inputPrice := call.inputPrice
  cachedPrice := call.cachedPrice
  cacheWritePrice := call.cacheWrite5mPrice
  outputPrice := call.outputPrice
  multiplier := call.multiplier
  counts := ⟨call.counts.1, call.counts.2.1, call.counts.2.2.1, call.counts.2.2.2.2⟩
  writes := fun _ => call.counts.2.2.2.1
  prices := ⟨call.prices.1, call.prices.2.1, call.prices.2.2.1, call.prices.2.2.2.2⟩
  factor := call.factor

/-- With one price for both lifetimes their tokens are only counted apart. -/
theorem TTLCall.exactCost_separate {call : TTLCall}
    (equal : ratOf call.cacheWrite5mPrice = ratOf call.cacheWrite1hPrice) :
    exactCost call.lines call.multiplier =
      exactCost call.separate.lines call.separate.multiplier := by
  have lifetimes := call.lifetimes
  simp only [exactCost, TTLCall.lines, V2Call.lines, TTLCall.separate, if_true]
  split
  · rename_i present
    rw [if_pos present] at lifetimes
    simp only [List.map_cons, List.map_append, List.map_nil, List.sum_cons, List.sum_append,
      List.sum_nil, ← equal, lifetimes.2.2]
    push_cast
    ring
  · simp only [List.map_cons, List.map_append, List.map_nil, List.sum_cons, List.sum_append,
      List.sum_nil, ratOf_largerPrice, ← equal, max_self]
    ring

/-- The call of the first version with the counts of a call in included mode. -/
def V2Call.included (call : V2Call) : V1Call where
  inputTokens := call.inputTokens
  cachedInputTokens := call.cachedInputTokens
  outputTokens := call.outputTokens
  inputPrice := call.inputPrice
  cachedPrice := call.cachedPrice
  outputPrice := call.outputPrice
  multiplier := call.multiplier
  counts := ⟨call.counts.1, call.counts.2.1, call.counts.2.2.2⟩
  prices := ⟨call.prices.1, call.prices.2.1, call.prices.2.2.2⟩
  factor := call.factor

/-- Every cost is the exact one, rounded once; it does not fall when a category, a price or the
multiplier grows; equal lifetime prices cost what separate writes cost, and included writes what
the first version charges. -/
theorem costs_exact :
    (∀ call : V1Call, Exact call.run (exactCost call.lines call.multiplier)) ∧
    (∀ call : V2Call, Exact call.run (exactCost call.lines call.multiplier)) ∧
    (∀ call : TTLCall, Exact call.run (exactCost call.lines call.multiplier)) ∧
    (∀ call call' : V1Call, call.Le call' → NotAbove call.run call'.run) ∧
    (∀ call call' : V2Call, call.Le call' → NotAbove call.run call'.run) ∧
    (∀ call call' : TTLCall, call.Le call' → NotAbove call.run call'.run) ∧
    (∀ call : TTLCall, ratOf call.cacheWrite5mPrice = ratOf call.cacheWrite1hPrice →
      call.run = call.separate.run) ∧
    ∀ call : V2Call, call.separate = false → call.run = call.included.run := by
  refine ⟨V1Call.exact, V2Call.exact, TTLCall.exact, ?_, ?_, ?_, ?_, ?_⟩
  · intro call call' le
    exact call.exact.notAbove call'.exact (exactCost_nonneg call.priced call.factor)
      (exactCost_mono le.grows call.priced call.factor le.multiplier)
  · intro call call' le
    exact call.exact.notAbove call'.exact (exactCost_nonneg call.priced call.factor)
      (exactCost_mono le.grows call.priced call.factor le.multiplier)
  · intro call call' le
    exact call.exact.notAbove call'.exact (exactCost_nonneg call.priced call.factor)
      (exactCost_mono le.grows call.priced call.factor le.multiplier)
  · intro call equal
    have exact := call.separate.exact
    rw [← TTLCall.exactCost_separate equal] at exact
    exact call.exact.unique exact
  · intro call included
    have lines : call.lines = call.included.lines := by
      simp [V2Call.lines, included, V1Call.lines, V2Call.included]
    have exact := call.exact
    rw [lines] at exact
    exact exact.unique call.included.exact

/-! Writes with both lifetimes at one price, spelled in two ways; the cost lies half a unit above
the last digit that is kept. -/

def lifetimeCall : TTLCall where
  inputTokens := 10
  cachedInputTokens := 2
  cacheWriteTokens := 4
  cacheWrite5mTokens := 1
  cacheWrite1hTokens := 3
  outputTokens := 1
  cacheWriteTTLPresent := true
  inputPrice := ['2']
  cachedPrice := "0.5".toList
  cacheWrite5mPrice := "2.5".toList
  cacheWrite1hPrice := "2.50".toList
  outputPrice := "0.000001".toList
  multiplier := "1.5".toList
  counts := by decide
  lifetimes := by decide
  prices := ⟨⟨_, rfl⟩, ⟨_, rfl⟩, ⟨_, rfl⟩, ⟨_, rfl⟩, ⟨_, rfl⟩⟩
  factor := ⟨_, rfl⟩

def includedCall : V2Call :=
  { lifetimeCall.separate with separate := false, writes := nofun }

theorem costs_exact_lifetimeCall :
    lifetimeCall.run = .ok "0.000028500002".toList ∧
    Exact lifetimeCall.run (exactCost lifetimeCall.lines lifetimeCall.multiplier) ∧
    lifetimeCall.run = lifetimeCall.separate.run ∧
    includedCall.run = includedCall.included.run := by
  obtain ⟨-, -, exact, -, -, -, equal, included⟩ := costs_exact
  exact ⟨by decide +kernel, exact lifetimeCall, equal lifetimeCall (by decide +kernel),
    included includedCall rfl⟩

end Billing
