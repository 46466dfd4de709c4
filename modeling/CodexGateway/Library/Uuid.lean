import CodexGateway.Library.Strings

/-! # UUIDs

The canonical text of a UUID and the number that it spells.
-/

namespace Uuid

def isHex (c : Char) : Bool := c.isDigit || ('a' ≤ c && c ≤ 'f')

/-- The text form `8-4-4-4-12` in lower case. -/
def isCanonical (text : Text) : Bool :=
  text.length = 36 && text.zipIdx.all fun (c, i) =>
    if i ∈ [8, 13, 18, 23] then c = '-' else isHex c

def hexValue (c : Char) : Nat :=
  if c.isDigit then c.toNat - '0'.toNat else c.toNat - 'a'.toNat + 10

/-- The number that a text spells; dashes do not count. -/
def value (text : Text) : Nat :=
  (text.filter fun c => c ≠ '-').foldl (fun n c => 16 * n + hexValue c) 0

/-- `uuid.Parse`, for a text that is the parsed UUID's own. -/
def parse? (text : Text) : Option Nat :=
  if isCanonical text then some (value text) else none

theorem allowed_of_mem {text : Text} (canonical : isCanonical text = true) {c : Char}
    (member : c ∈ text) : c = '-' ∨ isHex c = true := by
  simp only [isCanonical, Bool.and_eq_true, List.all_eq_true] at canonical
  obtain ⟨i, bound, here⟩ := List.getElem_of_mem member
  have allowed := canonical.2 (c, i)
    (List.mem_zipIdx_iff_getElem?.mpr (by rw [← here]; exact List.getElem?_eq_getElem bound))
  split at allowed
  · exact .inl (of_decide_eq_true allowed)
  · exact .inr allowed

end Uuid
