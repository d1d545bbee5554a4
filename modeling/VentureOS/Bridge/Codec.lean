import VentureOS.Bridge.Dispatch
import VentureOS.Foundations.JsonText
import VentureOS.Foundations.TextDecoder

/-! # The codec of frames

`canonicalize` and `canonicalJson` of `codec.ts` on all values of JavaScript: strings may have surrogates that stand
alone, and whatever the codec refuses is a value too. A value that it accepts has one text (`canonicalJson_of_perm`),
from which it is parsed again (`parse_of_canonicalJson`). -/

namespace VentureOS.Bridge

open JsonText

namespace Codec

/-- A text is at most 2048 code units long, and not sensitive. A surrogate that stands alone is no letter, digit or
space, and neither is its replacement. -/
def acceptsText (text : Text) : Bool := decide (text.length ≤ 2048) && !isSensitive (toWellFormed text)

/-- A key is a name, and not sensitive. -/
def acceptsKey (key : Text) : Bool := fieldPattern (toWellFormed key) && !isSensitive (toWellFormed key)

mutual

/-- `canonicalize` returns. -/
def accepts : Value → Bool
  | .null => true
  | .bool _ => true
  | .str text => acceptsText text
  | .int n => isSafeInteger n
  | .num _ => false
  | .arr items => decide (items.length ≤ 256) && acceptsItems items
  | .obj fields => decide (fields.length ≤ 64) && acceptsFields fields
  | .other => false

/-- `value.map(canonicalize)` returns. -/
def acceptsItems : List Value → Bool
  | [] => true
  | item :: rest => accepts item && acceptsItems rest

/-- `canonicalize` returns for every entry. -/
def acceptsFields : List (Text × Value) → Bool
  | [] => true
  | (key, nested) :: rest => acceptsKey key && accepts nested && acceptsFields rest

end

/-- `canonicalize`: `none` when it throws. -/
def canonicalize (value : Value) : Option Value := if accepts value then some value.sorted else none

/-- `canonicalJson`. -/
def canonicalJson (value : Value) : Option (List Char) := (canonicalize value).map Value.print

theorem acceptsItems_iff {items : List Value} : acceptsItems items = true ↔ ∀ item ∈ items, accepts item = true := by
  induction items with
  | nil => simp [acceptsItems]
  | cons item rest ih => rw [acceptsItems, Bool.and_eq_true, ih, List.forall_mem_cons]

theorem acceptsFields_iff {fields : List (Text × Value)} :
    acceptsFields fields = true ↔ ∀ field ∈ fields, acceptsKey field.1 = true ∧ accepts field.2 = true := by
  induction fields with
  | nil => simp [acceptsFields]
  | cons field rest ih =>
    obtain ⟨key, nested⟩ := field
    rw [acceptsFields, Bool.and_eq_true, Bool.and_eq_true, ih, List.forall_mem_cons]

theorem canonicalJson_eq_some {value : Value} {text : List Char} :
    canonicalJson value = some text ↔ accepts value = true ∧ value.sorted.print = text := by
  unfold canonicalJson canonicalize
  split
  · rename_i haccepts
    simp [haccepts]
  · rename_i haccepts
    simp [haccepts]

/-- A sorted value is accepted when the value is. -/
theorem accepts_sorted (value : Value) : accepts value.sorted = accepts value := by
  induction value using Value.induction with
  | arr items ih =>
    rw [Value.sorted, Value.sortedItems_eq_map, Bool.eq_iff_iff, accepts, accepts, Bool.and_eq_true,
      Bool.and_eq_true, acceptsItems_iff, acceptsItems_iff, List.length_map, List.forall_mem_map]
    refine and_congr_right fun _ => forall₂_congr fun item hitem => ?_
    rw [ih item hitem]
  | obj fields ih =>
    have hperm := sortBy_perm (fun a b : Text × Value => compareKeys a.1 b.1) (Value.sortedFields fields)
    rw [Value.sorted, Bool.eq_iff_iff, accepts, accepts, Bool.and_eq_true, Bool.and_eq_true, acceptsFields_iff,
      acceptsFields_iff, hperm.length_eq]
    simp only [hperm.mem_iff]
    rw [Value.sortedFields_eq_map, List.length_map, List.forall_mem_map]
    refine and_congr_right fun _ => forall₂_congr fun field hfield => ?_
    rw [ih field hfield]
  | _ => rfl

/-- **The text of a value does not depend on the order of its fields.** -/
theorem canonicalJson_of_same {value value' : Value} (h : value.Same value') :
    canonicalJson value = canonicalJson value' := by
  unfold canonicalJson canonicalize
  rw [← accepts_sorted value, ← accepts_sorted value', h]

theorem canonicalJson_of_perm {fields fields' : List (Text × Value)} (hkeys : (fields.map Prod.fst).Nodup)
    (h : fields.Perm fields') : canonicalJson (.obj fields) = canonicalJson (.obj fields') :=
  canonicalJson_of_same (Value.sorted_eq_of_perm hkeys h)

/-- What is accepted can be printed. -/
theorem printable_of_accepts {value : Value} (hkeyed : value.Keyed) (h : accepts value = true) : value.Printable := by
  induction value using Value.induction with
  | int n => exact h
  | num literal => cases h
  | arr items ih =>
    rw [Value.Keyed, Value.keyedItems_iff] at hkeyed
    rw [accepts, Bool.and_eq_true, acceptsItems_iff] at h
    rw [Value.Printable, Value.printableItems_iff]
    exact fun item hitem => ih item hitem (hkeyed item hitem) (h.2 item hitem)
  | obj fields ih =>
    rw [Value.Keyed, Value.keyedFields_iff] at hkeyed
    rw [accepts, Bool.and_eq_true, acceptsFields_iff] at h
    rw [Value.Printable, Value.printableFields_iff]
    exact ⟨hkeyed.1, fun field hfield => ih field hfield (hkeyed.2 field hfield) (h.2 field hfield).2⟩
  | other => cases h
  | _ => trivial

section Texts

variable {value : Value} {text : List Char} (hkeyed : value.Keyed) (h : canonicalJson value = some text)
include hkeyed h

theorem printable_of_canonicalJson : value.Printable :=
  printable_of_accepts hkeyed (canonicalJson_eq_some.mp h).1

/-- **The canonical text of a value is parsed as the value**, with its fields sorted. -/
theorem parse_of_canonicalJson : parse text = some value.sorted := by
  rw [← (canonicalJson_eq_some.mp h).2]
  exact parse_print (printable_of_canonicalJson hkeyed h).sorted

/-- The text is that of the sorted value. -/
theorem canonicalJson_sorted : canonicalJson value.sorted = some text := by
  rw [canonicalJson_of_same (printable_of_canonicalJson hkeyed h).sorted_sorted, h]

theorem printed_of_canonicalJson : ∀ c ∈ text, 32 ≤ c.toNat := by
  rw [← (canonicalJson_eq_some.mp h).2]
  exact (printable_of_canonicalJson hkeyed h).sorted.printed

end Texts

end Codec

end VentureOS.Bridge
