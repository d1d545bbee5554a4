import VentureOS.Foundations.Double
import VentureOS.Foundations.Json
import VentureOS.Foundations.OrderedMap
import VentureOS.Foundations.Sorting

/-! # JSON texts of arbitrary strings

A string of JavaScript is a list of code units of UTF-16, in which surrogates may stand alone. `JSON.stringify`
escapes these, so its text has code points only; `JSON.parse` puts them back. `Value` is what both can tell apart,
and `parse_print` says that a value is parsed as it was printed, when its numbers are safe integers and no record
has a key twice. -/

namespace VentureOS.JsonText

/-! ## Strings -/

/-- A string of JavaScript, by its code units. -/
abbrev Text := List UInt16

/-- The code units of a code point. -/
def units (c : Char) : Text := (charUnits c).map UInt16.ofNat

/-- A string without lone surrogates. -/
def ofString (s : String) : Text := s.toList.flatMap units

def isHighSurrogate (u : UInt16) : Bool := decide (0xD800 ≤ u.toNat ∧ u.toNat < 0xDC00)

def isLowSurrogate (u : UInt16) : Bool := decide (0xDC00 ≤ u.toNat ∧ u.toNat < 0xE000)

/-- A code point of a string, or a surrogate that stands alone. -/
abbrev Point := Char ⊕ UInt16

/-- A code unit that is no part of a pair. -/
def single (u : UInt16) : Point :=
  if isHighSurrogate u || isLowSurrogate u then .inr u else .inl (Char.ofNat u.toNat)

/-- The code points of a string. -/
def points : Text → List Point
  | [] => []
  | [u] => [single u]
  | u :: v :: rest =>
    if isHighSurrogate u && isLowSurrogate v then
      .inl (Char.ofNat (0x10000 + (u.toNat - 0xD800) * 0x400 + (v.toNat - 0xDC00))) :: points rest
    else single u :: points (v :: rest)

/-- `text.toWellFormed()`. -/
def toWellFormed (text : Text) : String :=
  String.ofList ((points text).map fun
    | .inl c => c
    | .inr _ => '\uFFFD')

/-- Four hexadecimal digits of a code unit. -/
def hexUnit (u : UInt16) : List Char :=
  [hexDigit (u.toNat / 0x1000), hexDigit (u.toNat / 0x100 % 16), hexDigit (u.toNat / 16 % 16), hexDigit (u.toNat % 16)]

/-- One code point inside a quoted string. -/
def quotePoint : Point → List Char
  | .inl c => quoteChar c
  | .inr u => '\\' :: 'u' :: hexUnit u

/-- A quoted string. -/
def quotedText (text : Text) : List Char := '"' :: ((points text).flatMap quotePoint ++ ['"'])

/-! ## Values -/

/-- A value of JavaScript. -/
inductive Value where
  | null
  | bool (b : Bool)
  /-- A number that is an integer. -/
  | int (n : Int)
  /-- Any other number, by a literal of it. -/
  | num (literal : List Char)
  | str (text : Text)
  | arr (items : List Value)
  /-- A plain record: its own enumerable properties. -/
  | obj (fields : List (Text × Value))
  /-- `undefined`, a function, an instance of a class, or a record that cannot be read. -/
  | other

namespace Value

section Induction

variable {P : Value → Prop} (null : P .null) (bool : ∀ b, P (.bool b)) (int : ∀ n, P (.int n))
  (num : ∀ literal, P (.num literal)) (str : ∀ text, P (.str text))
  (arr : ∀ items, (∀ item ∈ items, P item) → P (.arr items))
  (obj : ∀ fields, (∀ field ∈ fields, P field.2) → P (.obj fields)) (other : P .other)

include null bool int num str arr obj other

/-- Induction over values. -/
@[elab_as_elim]
theorem induction (v : Value) : P v := by
  refine @Value.rec P (fun items => ∀ item ∈ items, P item) (fun fields => ∀ field ∈ fields, P field.2)
    (fun field => P field.2) null bool int num str arr obj other ?_ ?_ ?_ ?_ ?_ v
  · exact fun item hitem => absurd hitem List.not_mem_nil
  · exact fun item items hitem hitems => List.forall_mem_cons.mpr ⟨hitem, hitems⟩
  · exact fun field hfield => absurd hfield List.not_mem_nil
  · exact fun field fields hfield hfields => List.forall_mem_cons.mpr ⟨hfield, hfields⟩
  · exact fun key nested hnested => hnested

end Induction

mutual

/-- `JSON.stringify`, of values in which no `other` is. -/
def print : Value → List Char
  | .null => ['n', 'u', 'l', 'l']
  | .bool true => ['t', 'r', 'u', 'e']
  | .bool false => ['f', 'a', 'l', 's', 'e']
  | .int n => integerText n
  | .num literal => literal
  | .str text => quotedText text
  | .arr [] => ['[', ']']
  | .arr (item :: rest) => '[' :: (item.print ++ printItems rest)
  | .obj [] => ['{', '}']
  | .obj ((key, nested) :: rest) => '{' :: (quotedText key ++ ':' :: (nested.print ++ printFields rest))
  | .other => ['n', 'u', 'l', 'l']

/-- The items of an array after the first, with the closing bracket. -/
def printItems : List Value → List Char
  | [] => [']']
  | item :: rest => ',' :: (item.print ++ printItems rest)

/-- The fields of a record after the first, with the closing brace. -/
def printFields : List (Text × Value) → List Char
  | [] => ['}']
  | (key, nested) :: rest => ',' :: (quotedText key ++ ':' :: (nested.print ++ printFields rest))

end

end Value

/-! ## Sorted records -/

/-- `left === right ? 0 : left < right ? -1 : 1`. -/
def compareKeys (left right : Text) : Int :=
  if left = right then 0 else if left.map UInt16.toNat < right.map UInt16.toNat then -1 else 1

theorem orders_compareKeys : Orders (fun a b : Text × Value => compareKeys a.1 b.1) (fun a => a.1.map UInt16.toNat) := by
  intro a b
  have hinjective : Function.Injective (List.map UInt16.toNat) :=
    List.map_injective_iff.mpr fun _ _ h => UInt16.toNat_inj.mp h
  dsimp only
  unfold compareKeys
  by_cases hkey : a.1 = b.1
  · rw [if_pos hkey, hkey]
    simp
  · have hne : a.1.map UInt16.toNat ≠ b.1.map UInt16.toNat := fun h => hkey (hinjective h)
    rw [if_neg hkey]
    by_cases hlt : a.1.map UInt16.toNat < b.1.map UInt16.toNat
    · rw [if_pos hlt]
      simp [hlt, hne]
    · rw [if_neg hlt]
      simp [hlt, hne]

variable {fields : List (Text × Value)}

namespace Value

mutual

/-- The value with the fields of its records sorted by their keys. -/
def sorted : Value → Value
  | .arr items => .arr (sortedItems items)
  | .obj fields => .obj (sortBy (fun a b => compareKeys a.1 b.1) (sortedFields fields))
  | value => value

def sortedItems : List Value → List Value
  | [] => []
  | item :: rest => item.sorted :: sortedItems rest

def sortedFields : List (Text × Value) → List (Text × Value)
  | [] => []
  | (key, nested) :: rest => (key, nested.sorted) :: sortedFields rest

end

/-- The values are equal, but for the order in which their records list their fields. -/
def Same (v w : Value) : Prop := v.sorted = w.sorted

theorem sortedItems_eq_map (items : List Value) : sortedItems items = items.map sorted := by
  induction items with
  | nil => rfl
  | cons item rest ih => rw [sortedItems, ih, List.map_cons]

theorem sortedFields_eq_map (fields : List (Text × Value)) :
    sortedFields fields = fields.map fun field => (field.1, field.2.sorted) := by
  induction fields with
  | nil => rfl
  | cons field rest ih =>
    obtain ⟨key, nested⟩ := field
    rw [sortedFields, ih, List.map_cons]

theorem map_fst_sortedFields (fields : List (Text × Value)) :
    (sortedFields fields).map Prod.fst = fields.map Prod.fst := by
  rw [sortedFields_eq_map, List.map_map]
  rfl

/-- Records with the same fields, each key once, are sorted alike. -/
theorem sortBy_compareKeys {fields' : List (Text × Value)} (hkeys : (fields.map Prod.fst).Nodup)
    (h : fields.Perm fields') :
    sortBy (fun a b => compareKeys a.1 b.1) fields = sortBy (fun a b => compareKeys a.1 b.1) fields' := by
  refine sortBy_eq_of_perm orders_compareKeys (fun a ha b hb hab => ?_) h
  have hinjective : Function.Injective (List.map UInt16.toNat) :=
    List.map_injective_iff.mpr fun _ _ h => UInt16.toNat_inj.mp h
  exact List.inj_on_of_nodup_map hkeys ha hb (hinjective hab)

/-- **The order of the fields does not matter.** -/
theorem sorted_eq_of_perm {fields' : List (Text × Value)} (hkeys : (fields.map Prod.fst).Nodup)
    (h : fields.Perm fields') : (Value.obj fields).sorted = (Value.obj fields').sorted := by
  rw [sorted, sorted, sortedFields_eq_map, sortedFields_eq_map]
  refine congrArg obj (sortBy_compareKeys ?_ (h.map _))
  rw [List.map_map]
  exact hkeys

end Value

/-! ## Parsing -/

/-- White space of JSON. -/
def isSpace (c : Char) : Bool := c == ' ' || c == '\t' || c == '\n' || c == '\r'

def skipSpace (text : List Char) : List Char := text.dropWhile isSpace

/-- The value of a hexadecimal digit of either case. -/
def hexDigitValue? (c : Char) : Option Nat :=
  if c.isDigit then some (c.toNat - 48)
  else if 'a' ≤ c ∧ c ≤ 'f' then some (c.toNat - 87)
  else if 'A' ≤ c ∧ c ≤ 'F' then some (c.toNat - 55)
  else none

/-- The code unit of an escape with four digits. -/
def hexUnit? (a b c d : Char) : Option UInt16 := do
  let a ← hexDigitValue? a
  let b ← hexDigitValue? b
  let c ← hexDigitValue? c
  let d ← hexDigitValue? d
  return UInt16.ofNat (((a * 16 + b) * 16 + c) * 16 + d)

/-- The code unit of an escape with one character. -/
def escape? : Char → Option UInt16
  | '"' => some 0x22
  | '\\' => some 0x5C
  | '/' => some 0x2F
  | 'b' => some 0x08
  | 'f' => some 0x0C
  | 'n' => some 0x0A
  | 'r' => some 0x0D
  | 't' => some 0x09
  | _ => none

/-- A string, after its opening quote. -/
def parseText : List Char → Option (Text × List Char)
  | [] => none
  | c :: rest =>
    if c = '"' then some ([], rest)
    else if c = '\\' then
      match rest with
      | 'u' :: a :: b :: c :: d :: rest => do
        let u ← hexUnit? a b c d
        let (text, rest) ← parseText rest
        some (u :: text, rest)
      | e :: rest => do
        let u ← escape? e
        let (text, rest) ← parseText rest
        some (u :: text, rest)
      | [] => none
    else if c.toNat < 0x20 then none
    else do
      let (text, rest) ← parseText rest
      some (units c ++ text, rest)

/-- The nearest double to `m / 10 ^ k`, when it is an integer below `2 ^ 53`: with 53 significant bits, ties to
even, and no bit below `2 ^ -1074`. -/
def roundedInteger? (m k : Nat) : Option Nat :=
  let scale := 10 ^ k
  let shift := Nat.log2 scale + 52 - Nat.log2 m
  let shift := min 1074 (if m * 2 ^ shift < scale * 2 ^ 52 then shift + 1 else shift)
  let q := m * 2 ^ shift / scale
  let r := m * 2 ^ shift % scale
  let rounded := if scale < 2 * r ∨ (2 * r = scale ∧ q % 2 = 1) then q + 1 else q
  if rounded % 2 ^ shift = 0 then some (rounded / 2 ^ shift) else none

/-- The number of a literal. -/
def literalValue (literal : List Char) (negative : Bool) (digits : List Char) (exponent : Int) : Value :=
  let m := Nat.ofDigitChars 10 digits 0
  let magnitude? := if 0 ≤ exponent then some (m * 10 ^ exponent.toNat) else roundedInteger? m exponent.natAbs
  match magnitude? with
  | some magnitude =>
    let n : Int := if negative then -magnitude else magnitude
    if isSafeInteger n then .int n else .num literal
  | none => .num literal

/-- The fraction of a literal. -/
def parseFraction : List Char → Option (List Char × List Char)
  | '.' :: rest =>
    let digits := rest.takeWhile Char.isDigit
    if digits = [] then none else some (digits, rest.dropWhile Char.isDigit)
  | rest => some ([], rest)

/-- The exponent of a literal. -/
def parseExponent : List Char → Option (Int × List Char)
  | c :: rest =>
    if c = 'e' ∨ c = 'E' then
      let (negative, rest) : Bool × List Char :=
        match rest with
        | '-' :: rest => (true, rest)
        | '+' :: rest => (false, rest)
        | rest => (false, rest)
      let digits := rest.takeWhile Char.isDigit
      let exponent : Int := Nat.ofDigitChars 10 digits 0
      if digits = [] then none
      else some (if negative then -exponent else exponent, rest.dropWhile Char.isDigit)
    else some (0, c :: rest)
  | [] => some (0, [])

/-- The sign of a literal. -/
def parseSign : List Char → Bool × List Char
  | '-' :: rest => (true, rest)
  | rest => (false, rest)

/-- A number. -/
def parseNumber (text : List Char) : Option (Value × List Char) :=
  let (negative, rest) := parseSign text
  let digits := rest.takeWhile Char.isDigit
  if digits = [] ∨ (1 < digits.length ∧ digits.head? = some '0') then none
  else do
    let (fraction, rest) ← parseFraction (rest.dropWhile Char.isDigit)
    let (exponent, rest) ← parseExponent rest
    let literal := text.take (text.length - rest.length)
    some (literalValue literal negative (digits ++ fraction) (exponent - fraction.length), rest)

/-- The record of some entries: a later one of a key takes the place of an earlier one. -/
def ofEntries (entries : List (Text × Value)) : List (Text × Value) :=
  entries.foldl (fun fields entry => setEntry entry.1 entry.2 fields) []

mutual

/-- A value. -/
def parseValue : Nat → List Char → Option (Value × List Char)
  | 0, _ => none
  | fuel + 1, text =>
    match skipSpace text with
    | 'n' :: 'u' :: 'l' :: 'l' :: rest => some (.null, rest)
    | 't' :: 'r' :: 'u' :: 'e' :: rest => some (.bool true, rest)
    | 'f' :: 'a' :: 'l' :: 's' :: 'e' :: rest => some (.bool false, rest)
    | '"' :: rest => do
      let (text, rest) ← parseText rest
      some (.str text, rest)
    | '[' :: rest =>
      match skipSpace rest with
      | ']' :: rest => some (.arr [], rest)
      | rest => do
        let (item, rest) ← parseValue fuel rest
        let (items, rest) ← parseItems fuel rest
        some (.arr (item :: items), rest)
    | '{' :: rest =>
      match skipSpace rest with
      | '}' :: rest => some (.obj [], rest)
      | rest => do
        let (entry, rest) ← parseField fuel rest
        let (entries, rest) ← parseFields fuel rest
        some (.obj (ofEntries (entry :: entries)), rest)
    | text => parseNumber text

/-- The items of an array after the first. -/
def parseItems : Nat → List Char → Option (List Value × List Char)
  | 0, _ => none
  | fuel + 1, text =>
    match skipSpace text with
    | ']' :: rest => some ([], rest)
    | ',' :: rest => do
      let (item, rest) ← parseValue fuel rest
      let (items, rest) ← parseItems fuel rest
      some (item :: items, rest)
    | _ => none

/-- A field of a record. -/
def parseField : Nat → List Char → Option ((Text × Value) × List Char)
  | 0, _ => none
  | fuel + 1, text =>
    match skipSpace text with
    | '"' :: rest => do
      let (key, rest) ← parseText rest
      match skipSpace rest with
      | ':' :: rest => do
        let (nested, rest) ← parseValue fuel rest
        some ((key, nested), rest)
      | _ => none
    | _ => none

/-- The fields of a record after the first. -/
def parseFields : Nat → List Char → Option (List (Text × Value) × List Char)
  | 0, _ => none
  | fuel + 1, text =>
    match skipSpace text with
    | '}' :: rest => some ([], rest)
    | ',' :: rest => do
      let (entry, rest) ← parseField fuel rest
      let (entries, rest) ← parseFields fuel rest
      some (entry :: entries, rest)
    | _ => none

end

/-- `JSON.parse`. -/
def parse (text : List Char) : Option Value :=
  match parseValue (text.length + 1) text with
  | some (value, rest) => if skipSpace rest = [] then some value else none
  | none => none


/-! ## Strings are parsed as they were printed -/

/-- The code units of a code point, or of a surrogate that stands alone. -/
def pointUnits : Point → Text
  | .inl c => units c
  | .inr u => [u]

theorem toNat_ofNat_of_isValidChar {n : Nat} (h : n.isValidChar) : (Char.ofNat n).toNat = n := by
  unfold Char.ofNat
  rw [dif_pos h]
  rfl

theorem pointUnits_single (u : UInt16) : pointUnits (single u) = [u] := by
  unfold single
  split
  · rfl
  · rename_i hsurrogate
    have hbound := u.toNat_lt
    have hvalid : Nat.isValidChar u.toNat := by
      simp only [isHighSurrogate, isLowSurrogate, Bool.or_eq_true, decide_eq_true_eq, not_or, not_and, not_lt]
        at hsurrogate
      unfold Nat.isValidChar
      omega
    have hchar : (Char.ofNat u.toNat).toNat = u.toNat := toNat_ofNat_of_isValidChar hvalid
    rw [pointUnits, units, charUnits, hchar, if_pos (by omega), List.map_singleton, UInt16.ofNat_toNat]

theorem pointUnits_pair {u v : UInt16} (hu : isHighSurrogate u = true) (hv : isLowSurrogate v = true) :
    pointUnits (.inl (Char.ofNat (0x10000 + (u.toNat - 0xD800) * 0x400 + (v.toNat - 0xDC00)))) = [u, v] := by
  have hhigh := of_decide_eq_true hu
  have hlow := of_decide_eq_true hv
  have hvalid : Nat.isValidChar (0x10000 + (u.toNat - 0xD800) * 0x400 + (v.toNat - 0xDC00)) := by
    unfold Nat.isValidChar
    omega
  rw [pointUnits, units, charUnits, toNat_ofNat_of_isValidChar hvalid, if_neg (by omega)]
  have hfirst : 0xD800 + (0x10000 + (u.toNat - 0xD800) * 0x400 + (v.toNat - 0xDC00) - 0x10000) / 0x400 = u.toNat := by
    omega
  have hsecond : 0xDC00 + (0x10000 + (u.toNat - 0xD800) * 0x400 + (v.toNat - 0xDC00) - 0x10000) % 0x400 = v.toNat := by
    omega
  rw [hfirst, hsecond, List.map_cons, List.map_singleton, UInt16.ofNat_toNat, UInt16.ofNat_toNat]

/-- The code points of a string have its code units. -/
theorem flatMap_points (text : Text) : (points text).flatMap pointUnits = text := by
  fun_induction points text with
  | case1 => rfl
  | case2 u => rw [List.flatMap_singleton, pointUnits_single]
  | case3 u v rest hpair ih =>
    rw [Bool.and_eq_true] at hpair
    rw [List.flatMap_cons, ih, pointUnits_pair hpair.1 hpair.2]
    rfl
  | case4 u v rest hpair ih =>
    rw [List.flatMap_cons, ih, pointUnits_single]
    rfl

theorem points_single {u : UInt16} (h : isHighSurrogate u = false) (rest : Text) :
    points (u :: rest) = single u :: points rest := by
  cases rest with
  | nil => rw [points, points]
  | cons v rest =>
    rw [points, h, Bool.false_and]
    rfl

/-- A code point is read back from its code units. -/
theorem points_units (c : Char) (rest : Text) : points (units c ++ rest) = .inl c :: points rest := by
  have hvalid := c.valid
  have hval : c.val.toNat = c.toNat := rfl
  have hofNat : Char.ofNat c.toNat = c := Char.ofNat_toNat c
  unfold units charUnits
  split
  · rename_i hbasic
    have hunit : (UInt16.ofNat c.toNat).toNat = c.toNat := by
      rw [UInt16.toNat_ofNat']
      omega
    -- A code point is no surrogate.
    have hrange : c.toNat < 0xD800 ∨ 0xE000 ≤ c.toNat := by
      rcases hvalid with h | h
      · exact Or.inl h
      · exact Or.inr (by have h' : 0xDFFF < c.toNat := h.1; omega)
    have hhigh : isHighSurrogate (UInt16.ofNat c.toNat) = false := by
      rw [isHighSurrogate, hunit, decide_eq_false_iff_not]
      omega
    have hlow : isLowSurrogate (UInt16.ofNat c.toNat) = false := by
      rw [isLowSurrogate, hunit, decide_eq_false_iff_not]
      omega
    rw [List.map_singleton, List.singleton_append, points_single hhigh, single, hhigh, hlow, hunit, hofNat]
    rfl
  · rename_i hastral
    have hmax : c.toNat < 0x110000 := by
      rcases hvalid with h | h
      · have h' : c.toNat < 0xD800 := h
        omega
      · exact h.2
    have hu : (UInt16.ofNat (0xD800 + (c.toNat - 0x10000) / 0x400)).toNat = 0xD800 + (c.toNat - 0x10000) / 0x400 := by
      rw [UInt16.toNat_ofNat']
      omega
    have hv : (UInt16.ofNat (0xDC00 + (c.toNat - 0x10000) % 0x400)).toNat = 0xDC00 + (c.toNat - 0x10000) % 0x400 := by
      rw [UInt16.toNat_ofNat']
      omega
    have hhigh : isHighSurrogate (UInt16.ofNat (0xD800 + (c.toNat - 0x10000) / 0x400)) = true := by
      rw [isHighSurrogate, hu, decide_eq_true_iff]
      omega
    have hlow : isLowSurrogate (UInt16.ofNat (0xDC00 + (c.toNat - 0x10000) % 0x400)) = true := by
      rw [isLowSurrogate, hv, decide_eq_true_iff]
      omega
    have hpoint : 0x10000 + (0xD800 + (c.toNat - 0x10000) / 0x400 - 0xD800) * 0x400
        + (0xDC00 + (c.toNat - 0x10000) % 0x400 - 0xDC00) = c.toNat := by omega
    simp only [List.map_cons, List.map_nil, List.cons_append, List.nil_append, points, hhigh, hlow, Bool.and_self,
      if_true, hu, hv, hpoint, hofNat]

theorem toWellFormed_ofString (s : String) : toWellFormed (ofString s) = s := by
  have hpoints : ∀ l : List Char, points (l.flatMap units) = l.map .inl := by
    intro l
    induction l with
    | nil => rfl
    | cons c l ih => rw [List.flatMap_cons, points_units, ih, List.map_cons]
  rw [toWellFormed, ofString, hpoints, List.map_map]
  exact (congrArg String.ofList (List.map_id s.toList)).trans String.ofList_toList

/-- A string has at most twice as many code units as code points. -/
theorem length_le_toWellFormed (text : Text) : text.length ≤ 2 * (toWellFormed text).toList.length := by
  rw [toWellFormed, String.toList_ofList, List.length_map]
  fun_induction points text with
  | case1 => exact Nat.le_refl _
  | case2 u => exact (by decide : 1 ≤ 2 * 1)
  | case3 u v rest hpair ih =>
    simp only [List.length_cons]
    omega
  | case4 u v rest hpair ih =>
    simp only [List.length_cons] at ih ⊢
    omega

theorem hexDigitValue?_hexDigit {n : Nat} (h : n < 16) : hexDigitValue? (hexDigit n) = some n := by
  have hall : ∀ n < 16, hexDigitValue? (hexDigit n) = some n := by decide
  exact hall n h

theorem hexUnit?_hexUnit (u : UInt16) : hexUnit? (hexDigit (u.toNat / 0x1000)) (hexDigit (u.toNat / 0x100 % 16))
    (hexDigit (u.toNat / 16 % 16)) (hexDigit (u.toNat % 16)) = some u := by
  have hbound := u.toNat_lt
  have hvalue : ((u.toNat / 0x1000 * 16 + u.toNat / 0x100 % 16) * 16 + u.toNat / 16 % 16) * 16 + u.toNat % 16
      = u.toNat := by omega
  unfold hexUnit?
  rw [hexDigitValue?_hexDigit (by omega), hexDigitValue?_hexDigit (by omega), hexDigitValue?_hexDigit (by omega),
    hexDigitValue?_hexDigit (by omega)]
  show some (UInt16.ofNat _) = some u
  rw [hvalue, UInt16.ofNat_toNat]

/-- Read the rest of a string after some code units. -/
def afterUnits (read : Text) : Option (Text × List Char) → Option (Text × List Char) :=
  Option.map fun p => (read ++ p.1, p.2)

theorem parseText_cons (c : Char) (rest : List Char) : parseText (c :: rest) =
    if c = '"' then some ([], rest)
    else if c = '\\' then
      match rest with
      | 'u' :: a :: b :: c :: d :: rest =>
        (hexUnit? a b c d).bind fun u => (parseText rest).bind fun p => some (u :: p.1, p.2)
      | e :: rest => (escape? e).bind fun u => (parseText rest).bind fun p => some (u :: p.1, p.2)
      | [] => none
    else if c.toNat < 0x20 then none
    else (parseText rest).bind fun p => some (units c ++ p.1, p.2) := by
  rw [parseText.eq_def]
  rfl

theorem parseText_unit (u : UInt16) (rest : List Char) :
    parseText ('\\' :: 'u' :: (hexUnit u ++ rest)) = afterUnits [u] (parseText rest) := by
  rw [hexUnit, parseText_cons]
  simp only [List.cons_append, List.nil_append, hexUnit?_hexUnit]
  rw [if_neg (by decide), if_pos trivial]
  cases parseText rest <;> rfl

theorem parseText_escape {e : Char} {u : UInt16} (he : escape? e = some u) (rest : List Char) :
    parseText ('\\' :: e :: rest) = afterUnits [u] (parseText rest) := by
  have hne : e ≠ 'u' := by
    rintro rfl
    cases he
  rw [parseText_cons]
  rw [if_neg (by decide), if_pos rfl]
  split
  · rename_i heq
    cases heq
    exact absurd rfl hne
  · rename_i heq
    cases heq
    rw [he]
    cases parseText rest <;> rfl
  · rename_i heq
    cases heq

theorem parseText_plain {c : Char} (hquote : c ≠ '"') (hescape : c ≠ '\\') (hcontrol : 32 ≤ c.toNat)
    (rest : List Char) : parseText (c :: rest) = afterUnits (units c) (parseText rest) := by
  rw [parseText_cons, if_neg hquote, if_neg hescape, if_neg (by omega)]
  cases parseText rest <;> rfl

/-- A code point is read back from the front of any text. -/
theorem parseText_quotePoint (p : Point) (rest : List Char) :
    parseText (quotePoint p ++ rest) = afterUnits (pointUnits p) (parseText rest) := by
  cases p with
  | inr u => exact parseText_unit u rest
  | inl c =>
    rw [quotePoint, pointUnits]
    unfold quoteChar
    by_cases h1 : c = '"'
    · subst h1
      exact parseText_escape rfl rest
    by_cases h2 : c = '\\'
    · subst h2
      exact parseText_escape rfl rest
    by_cases h3 : c = '\x08'
    · subst h3
      exact parseText_escape rfl rest
    by_cases h4 : c = '\t'
    · subst h4
      exact parseText_escape rfl rest
    by_cases h5 : c = '\n'
    · subst h5
      exact parseText_escape rfl rest
    by_cases h6 : c = '\x0c'
    · subst h6
      exact parseText_escape rfl rest
    by_cases h7 : c = '\r'
    · subst h7
      exact parseText_escape rfl rest
    rw [if_neg h1, if_neg h2, if_neg h3, if_neg h4, if_neg h5, if_neg h6, if_neg h7]
    by_cases h8 : c.toNat < 32
    · -- A control character is escaped by its code unit.
      have hunit : (UInt16.ofNat c.toNat).toNat = c.toNat := by
        rw [UInt16.toNat_ofNat']
        omega
      have hhex : hexUnit (UInt16.ofNat c.toNat) = ['0', '0', hexDigit (c.toNat / 16), hexDigit (c.toNat % 16)] := by
        have hthousands : c.toNat / 0x1000 = 0 := by omega
        have hhundreds : c.toNat / 0x100 % 16 = 0 := by omega
        have htens : c.toNat / 16 % 16 = c.toNat / 16 := by omega
        rw [hexUnit, hunit, hthousands, hhundreds, htens]
        rfl
      have hread := parseText_unit (UInt16.ofNat c.toNat) rest
      rw [hhex] at hread
      rw [if_pos h8, units, charUnits, if_pos (by omega)]
      exact hread
    · rw [if_neg h8]
      exact parseText_plain h1 h2 (by omega) rest

/-- **A string is parsed as it was printed.** -/
theorem parseText_points (text : Text) (rest : List Char) :
    parseText ((points text).flatMap quotePoint ++ '"' :: rest) = some (text, rest) := by
  have hpoints : ∀ ps : List Point,
      parseText (ps.flatMap quotePoint ++ '"' :: rest) = some (ps.flatMap pointUnits, rest) := by
    intro ps
    induction ps with
    | nil =>
      rw [List.flatMap_nil, List.nil_append, parseText_cons]
      rfl
    | cons p ps ih =>
      rw [List.flatMap_cons, List.append_assoc, parseText_quotePoint, ih, List.flatMap_cons]
      rfl
  rw [hpoints, flatMap_points]

/-! ## Numbers -/

/-- What follows a value starts with no character of a number. -/
def Stops (rest : List Char) : Prop := ∀ c tail, rest = c :: tail → isNumberChar c = false ∧ c ≠ 'E'

theorem stops_cons {c : Char} (h : isNumberChar c = false ∧ c ≠ 'E') (tail : List Char) : Stops (c :: tail) := by
  intro c' tail' heq
  cases heq
  exact h

variable {rest : List Char}

theorem Stops.not_digit (h : Stops rest) : rest.takeWhile Char.isDigit = []
    ∧ rest.dropWhile Char.isDigit = rest := by
  cases rest with
  | nil => exact ⟨rfl, rfl⟩
  | cons c tail =>
    have hdigit : c.isDigit = false := by
      have hnumber := (h c tail rfl).1
      simp only [isNumberChar, Bool.or_eq_false_iff] at hnumber
      exact hnumber.1.1.1.1
    rw [List.takeWhile_cons, List.dropWhile_cons, hdigit]
    exact ⟨rfl, rfl⟩

theorem Stops.parseFraction {rest : List Char} (h : Stops rest) : parseFraction rest = some ([], rest) := by
  unfold JsonText.parseFraction
  split
  · exact absurd (h _ _ rfl).1 (by decide)
  · rfl

theorem Stops.parseExponent {rest : List Char} (h : Stops rest) : parseExponent rest = some (0, rest) := by
  unfold JsonText.parseExponent
  split
  · rename_i c tail
    have hnot : ¬ (c = 'e' ∨ c = 'E') := by
      obtain ⟨hnumber, hupper⟩ := h c tail rfl
      rintro (rfl | rfl)
      · exact absurd hnumber (by decide)
      · exact hupper rfl
    rw [if_neg hnot]
  · rfl

/-- The text of a positive number starts with no zero. -/
theorem head?_toDigits {n : Nat} (h : 0 < n) : (Nat.toDigits 10 n).head? ≠ some '0' := by
  induction n using Nat.strongRecOn with
  | ind n ih =>
    by_cases hsmall : n < 10
    · have hall : ∀ n < 10, 0 < n → (Nat.toDigits 10 n).head? ≠ some '0' := by decide
      exact hall n hsmall h
    · rw [Nat.toDigits_of_base_le (by decide) (by omega), List.head?_append]
      have hquotient := ih (n / 10) (by omega) (by omega)
      cases hhead : (Nat.toDigits 10 (n / 10)).head? with
      | none => exact absurd (List.head?_eq_none_iff.mp hhead) Nat.toDigits_ne_nil
      | some c =>
        rw [hhead] at hquotient
        exact hquotient

theorem not_leadingZero (n : Nat) :
    ¬ (Nat.toDigits 10 n = [] ∨ (1 < (Nat.toDigits 10 n).length ∧ (Nat.toDigits 10 n).head? = some '0')) := by
  rintro (hnil | ⟨hlength, hhead⟩)
  · exact Nat.toDigits_ne_nil hnil
  · by_cases hn : n = 0
    · subst hn
      exact absurd hlength (by decide)
    · exact head?_toDigits (Nat.pos_of_ne_zero hn) hhead

theorem takeWhile_toDigits (n : Nat) (h : Stops rest) :
    (Nat.toDigits 10 n ++ rest).takeWhile Char.isDigit = Nat.toDigits 10 n
      ∧ (Nat.toDigits 10 n ++ rest).dropWhile Char.isDigit = rest := by
  have hall : ∀ c ∈ Nat.toDigits 10 n, c.isDigit = true := fun c hc => isDigit_of_mem_toDigits_ten hc
  obtain ⟨htake, hdrop⟩ := h.not_digit
  rw [List.takeWhile_append_of_pos hall, List.dropWhile_append_of_pos hall, htake, hdrop, List.append_nil]
  exact ⟨rfl, rfl⟩

theorem parseSign_integerText (n : Int) (rest : List Char) :
    parseSign (integerText n ++ rest) = (decide (n < 0), Nat.toDigits 10 n.natAbs ++ rest) := by
  unfold integerText
  by_cases hneg : n < 0
  · rw [if_pos hneg, decide_eq_true hneg]
    rfl
  · rw [if_neg hneg, decide_eq_false hneg]
    unfold parseSign
    split
    · -- A digit is no minus sign.
      rename_i tail heq
      cases hdigits : Nat.toDigits 10 n.natAbs with
      | nil => exact absurd hdigits Nat.toDigits_ne_nil
      | cons c digits =>
        have hdigit := isDigit_of_mem_toDigits_ten (hdigits ▸ List.mem_cons_self)
        rw [hdigits] at heq
        cases heq
        exact absurd hdigit (by decide)
    · rfl

/-- **A safe integer is parsed as it was printed.** -/
theorem parseNumber_integerText {n : Int} (hsafe : isSafeInteger n = true) (h : Stops rest) :
    parseNumber (integerText n ++ rest) = some (.int n, rest) := by
  obtain ⟨htake, hdrop⟩ := takeWhile_toDigits n.natAbs h
  have hzero := not_leadingZero n.natAbs
  have hvalue : Nat.ofDigitChars 10 (Nat.toDigits 10 n.natAbs) 0 = n.natAbs := Nat.ofDigitChars_ten_toDigits
  have hliteral : ∀ literal, literalValue literal (decide (n < 0)) (Nat.toDigits 10 n.natAbs ++ []) (0 - 0)
      = .int n := by
    intro literal
    have hsign : (if decide (n < 0) = true then -(n.natAbs : Int) else n.natAbs) = n := by
      by_cases hneg : n < 0
      · rw [if_pos (decide_eq_true hneg)]
        omega
      · rw [if_neg (by simp [hneg])]
        omega
    simp only [literalValue, List.append_nil, hvalue]
    rw [if_pos (by decide)]
    simp only [Int.sub_zero, Int.toNat_zero, Nat.pow_zero, Nat.mul_one, hsign, hsafe, if_true]
  unfold parseNumber
  simp only [parseSign_integerText, htake, hdrop, if_neg hzero, h.parseFraction, h.parseExponent, Option.bind_eq_bind,
    Option.bind_some, List.length_nil, Nat.cast_zero, hliteral]


/-! ## Values -/

/-- What a test finds of all characters of a list. -/
theorem forall_mem_of_all {p : Char → Prop} [DecidablePred p] {chars : List Char}
    (h : chars.all (fun c => decide (p c)) = true) : ∀ c ∈ chars, p c :=
  fun c hc => of_decide_eq_true (List.all_eq_true.mp h c hc)

/-- No number starts with a space. -/
theorem isSpace_of_number {c : Char} (h : c.isDigit = true ∨ c = '-') : isSpace c = false := by
  cases hspace : isSpace c with
  | false => rfl
  | true =>
    simp only [isSpace, Bool.or_eq_true, beq_iff_eq] at hspace
    rcases hspace with ((rfl | rfl) | rfl) | rfl <;> exact absurd h (by decide)

variable {items : List Value} {v : Value}

namespace Value

mutual

/-- The value is JSON with safe integers for numbers, and no record in it has a key twice. -/
def Printable : Value → Prop
  | .int n => isSafeInteger n = true
  | .num _ => False
  | .arr items => PrintableItems items
  | .obj fields => (fields.map Prod.fst).Nodup ∧ PrintableFields fields
  | .other => False
  | _ => True

def PrintableItems : List Value → Prop
  | [] => True
  | item :: rest => item.Printable ∧ PrintableItems rest

def PrintableFields : List (Text × Value) → Prop
  | [] => True
  | (_, nested) :: rest => nested.Printable ∧ PrintableFields rest

end

mutual

/-- No record in the value has a key twice. -/
def Keyed : Value → Prop
  | .arr items => KeyedItems items
  | .obj fields => (fields.map Prod.fst).Nodup ∧ KeyedFields fields
  | _ => True

def KeyedItems : List Value → Prop
  | [] => True
  | item :: rest => item.Keyed ∧ KeyedItems rest

def KeyedFields : List (Text × Value) → Prop
  | [] => True
  | (_, nested) :: rest => nested.Keyed ∧ KeyedFields rest

end

/-- A value in which no record has a key twice, as in JavaScript. -/
abbrev Js := { value : Value // value.Keyed }

theorem keyedItems_iff : KeyedItems items ↔ ∀ item ∈ items, item.Keyed := by
  induction items with
  | nil => simp [KeyedItems]
  | cons item rest ih => rw [KeyedItems, ih, List.forall_mem_cons]

theorem keyedFields_iff : KeyedFields fields ↔ ∀ field ∈ fields, field.2.Keyed := by
  induction fields with
  | nil => simp [KeyedFields]
  | cons field rest ih =>
    obtain ⟨key, nested⟩ := field
    rw [KeyedFields, ih, List.forall_mem_cons]

theorem printableItems_iff : PrintableItems items ↔ ∀ item ∈ items, item.Printable := by
  induction items with
  | nil => simp [PrintableItems]
  | cons item rest ih => rw [PrintableItems, ih, List.forall_mem_cons]

theorem printableFields_iff :
    PrintableFields fields ↔ ∀ field ∈ fields, field.2.Printable := by
  induction fields with
  | nil => simp [PrintableFields]
  | cons field rest ih =>
    obtain ⟨key, nested⟩ := field
    rw [PrintableFields, ih, List.forall_mem_cons]

/-- A sorted value can be printed when the value can. -/
theorem Printable.sorted (h : v.Printable) : v.sorted.Printable := by
  induction v using Value.induction with
  | arr items ih =>
    rw [Value.sorted, Printable, sortedItems_eq_map, printableItems_iff, List.forall_mem_map]
    rw [Printable, printableItems_iff] at h
    exact fun item hitem => ih item hitem (h item hitem)
  | obj fields ih =>
    rw [Printable, printableFields_iff] at h
    have hperm := sortBy_perm (fun a b : Text × Value => compareKeys a.1 b.1) (sortedFields fields)
    rw [Value.sorted, Printable, printableFields_iff]
    constructor
    · rw [(hperm.map Prod.fst).nodup_iff, map_fst_sortedFields]
      exact h.1
    · intro field hfield
      rw [hperm.mem_iff, sortedFields_eq_map] at hfield
      obtain ⟨source, hsource, rfl⟩ := List.mem_map.mp hfield
      exact ih source hsource (h.2 source hsource)
  | _ => exact h

/-- A sorted value is sorted. -/
theorem Printable.sorted_sorted (h : v.Printable) : v.sorted.sorted = v.sorted := by
  induction v using Value.induction with
  | arr items ih =>
    rw [Printable, printableItems_iff] at h
    rw [Value.sorted, Value.sorted, sortedItems_eq_map, sortedItems_eq_map, List.map_map]
    exact congrArg arr (List.map_congr_left fun item hitem => ih item hitem (h item hitem))
  | obj fields ih =>
    rw [Printable, printableFields_iff] at h
    have hperm := sortBy_perm (fun a b : Text × Value => compareKeys a.1 b.1) (sortedFields fields)
    have hfields : sortedFields (sortedFields fields) = sortedFields fields := by
      simp only [sortedFields_eq_map, List.map_map]
      apply List.map_congr_left
      intro field hfield
      exact congrArg (Prod.mk field.1) (ih field hfield (h.2 field hfield))
    have hkeys : ((sortedFields fields).map Prod.fst).Nodup := by
      rw [map_fst_sortedFields]
      exact h.1
    have hsorted := sorted_eq_of_perm hkeys hperm.symm
    rw [Value.sorted, Value.sorted, hfields] at hsorted
    rw [Value.sorted, Value.sorted]
    exact hsorted.symm
  | _ => rfl

/-! ### Printed texts -/

/-- No text of a string has control characters. -/
theorem quotedText_printed (text : Text) : ∀ c ∈ quotedText text, 32 ≤ c.toNat := by
  have hdigit : ∀ n < 16, 32 ≤ (hexDigit n).toNat := by decide
  have hpoint : ∀ p : Point, ∀ c ∈ quotePoint p, 32 ≤ c.toNat := by
    intro p c hc
    cases p with
    | inr u =>
      have hbound := u.toNat_lt
      simp only [quotePoint, hexUnit, List.mem_cons, List.not_mem_nil, or_false] at hc
      rcases hc with rfl | rfl | rfl | rfl | rfl | rfl
      · decide
      · decide
      · exact hdigit _ (by omega)
      · exact hdigit _ (by omega)
      · exact hdigit _ (by omega)
      · exact hdigit _ (by omega)
    | inl d =>
      rw [quotePoint] at hc
      unfold quoteChar at hc
      split_ifs at hc with h1 h2 h3 h4 h5 h6 h7 h8
      all_goals simp only [List.mem_cons, List.not_mem_nil, or_false] at hc
      · rcases hc with rfl | rfl <;> decide
      · rcases hc with rfl | rfl <;> decide
      · rcases hc with rfl | rfl <;> decide
      · rcases hc with rfl | rfl <;> decide
      · rcases hc with rfl | rfl <;> decide
      · rcases hc with rfl | rfl <;> decide
      · rcases hc with rfl | rfl <;> decide
      · rcases hc with rfl | rfl | rfl | rfl | rfl | rfl
        · decide
        · decide
        · decide
        · decide
        · exact hdigit _ (by omega)
        · exact hdigit _ (by omega)
      · rw [hc]
        omega
  intro c hc
  rw [quotedText, List.mem_cons, List.mem_append, List.mem_singleton] at hc
  rcases hc with rfl | hc | rfl
  · decide
  · obtain ⟨p, -, hc⟩ := List.mem_flatMap.mp hc
    exact hpoint p c hc
  · decide

theorem printItems_printed (h : ∀ item ∈ items, ∀ c ∈ item.print, 32 ≤ c.toNat) :
    ∀ c ∈ printItems items, 32 ≤ c.toNat := by
  induction items with
  | nil => simp [printItems]
  | cons item rest ih =>
    rw [List.forall_mem_cons] at h
    rw [printItems, List.forall_mem_cons, List.forall_mem_append]
    exact ⟨by decide, h.1, ih h.2⟩

theorem printFields_printed (h : ∀ field ∈ fields, ∀ c ∈ field.2.print, 32 ≤ c.toNat) :
    ∀ c ∈ printFields fields, 32 ≤ c.toNat := by
  induction fields with
  | nil => simp [printFields]
  | cons field rest ih =>
    obtain ⟨key, nested⟩ := field
    rw [List.forall_mem_cons] at h
    rw [printFields, List.forall_mem_cons, List.forall_mem_append, List.forall_mem_cons, List.forall_mem_append]
    exact ⟨by decide, quotedText_printed key, by decide, h.1, ih h.2⟩

/-- No text of a value has control characters. -/
theorem Printable.printed (h : v.Printable) : ∀ c ∈ v.print, 32 ≤ c.toNat := by
  induction v using Value.induction with
  | null => exact forall_mem_of_all (by decide)
  | bool b => cases b <;> exact forall_mem_of_all (by decide)
  | int n =>
    intro c hc
    rcases mem_integerText hc with hdigit | rfl
    · simp only [Char.isDigit, Bool.and_eq_true, decide_eq_true_eq] at hdigit
      have hlow : 48 ≤ c.val.toNat := UInt32.le_iff_toNat_le.mp hdigit.1
      exact Nat.le_trans (by decide) hlow
    · decide
  | num literal => exact absurd h id
  | str text => exact quotedText_printed text
  | arr items ih =>
    rw [Printable, printableItems_iff] at h
    cases items with
    | nil => exact forall_mem_of_all (by decide)
    | cons item rest =>
      have hall := fun item hitem => ih item hitem (h item hitem)
      rw [List.forall_mem_cons] at hall
      rw [print, List.forall_mem_cons, List.forall_mem_append]
      exact ⟨by decide, hall.1, printItems_printed hall.2⟩
  | obj fields ih =>
    rw [Printable, printableFields_iff] at h
    cases fields with
    | nil => exact forall_mem_of_all (by decide)
    | cons field rest =>
      obtain ⟨key, nested⟩ := field
      have hall := fun field hfield => ih field hfield (h.2 field hfield)
      rw [List.forall_mem_cons] at hall
      rw [print, List.forall_mem_cons, List.forall_mem_append, List.forall_mem_cons, List.forall_mem_append]
      exact ⟨by decide, quotedText_printed key, by decide, hall.1, printFields_printed hall.2⟩
  | other => exact absurd h id

/-- The text of a value starts like a value. -/
theorem print_head (h : v.Printable) : ∃ c tail, v.print = c :: tail ∧ isSpace c = false ∧ c ≠ ']' := by
  cases v with
  | bool b => cases b <;> exact ⟨_, _, rfl, rfl, by decide⟩
  | int n =>
    cases hprint : integerText n with
    | nil => exact absurd hprint (integerText_ne_nil n)
    | cons c tail =>
      have hc := mem_integerText (hprint ▸ List.mem_cons_self)
      refine ⟨c, tail, hprint, isSpace_of_number hc, ?_⟩
      rintro rfl
      exact absurd hc (by decide)
  | num literal => exact absurd h id
  | arr items => cases items <;> exact ⟨_, _, rfl, rfl, by decide⟩
  | obj fields =>
    cases fields with
    | nil => exact ⟨_, _, rfl, rfl, by decide⟩
    | cons field rest =>
      obtain ⟨key, nested⟩ := field
      exact ⟨_, _, rfl, rfl, by decide⟩
  | other => exact absurd h id
  | _ => exact ⟨_, _, rfl, rfl, by decide⟩

/-- The text of a record starts with a brace, and does not end there. -/
theorem print_obj (fields : List (Text × Value)) : ∃ c tail, (Value.obj fields).print = '{' :: c :: tail := by
  cases fields with
  | nil => exact ⟨_, _, rfl⟩
  | cons field rest =>
    obtain ⟨key, nested⟩ := field
    exact ⟨_, _, rfl⟩

end Value

theorem skipSpace_cons {c : Char} (h : isSpace c = false) (tail : List Char) : skipSpace (c :: tail) = c :: tail := by
  rw [skipSpace, List.dropWhile_cons, h]
  rfl

theorem stops_printItems (items : List Value) (rest : List Char) : Stops (Value.printItems items ++ rest) := by
  cases items with
  | _ => exact stops_cons (by decide) _

theorem stops_printFields (fields : List (Text × Value)) (rest : List Char) :
    Stops (Value.printFields fields ++ rest) := by
  cases fields with
  | nil => exact stops_cons (by decide) _
  | cons field fields =>
    obtain ⟨key, nested⟩ := field
    exact stops_cons (by decide) _

/-- What starts with a digit or a minus sign is parsed as a number. -/
theorem parseValue_number {c : Char} (h : c.isDigit = true ∨ c = '-') (fuel : Nat) (tail : List Char) :
    parseValue (fuel + 1) (c :: tail) = parseNumber (c :: tail) := by
  rw [parseValue, skipSpace_cons (isSpace_of_number h)]
  split
  all_goals first
    | rfl
    | (rename_i heq
       cases heq
       rcases h with hdigit | heq
       · exact absurd hdigit (by decide)
       · exact absurd heq (by decide))

/-- Entries with different keys are those of their record. -/
theorem ofEntries_eq {entries : List (Text × Value)} (h : (entries.map Prod.fst).Nodup) : ofEntries entries = entries := by
  have hfold : ∀ before after : List (Text × Value), ((before ++ after).map Prod.fst).Nodup →
      after.foldl (fun fields entry => setEntry entry.1 entry.2 fields) before = before ++ after := by
    intro before after
    induction after generalizing before with
    | nil => exact fun _ => (List.append_nil before).symm
    | cons entry after ih =>
      intro hnodup
      have hnew : lookupEntry entry.1 before = none := by
        rw [lookupEntry_eq_none]
        rw [List.map_append, List.nodup_append] at hnodup
        exact fun hmem => hnodup.2.2 _ hmem _ List.mem_cons_self rfl
      have hafter := ih (before ++ [entry]) (by rwa [List.append_assoc])
      rw [List.foldl_cons, setEntry_of_lookup_none _ hnew, hafter, List.append_assoc]
      rfl
  exact hfold [] entries h

theorem parseValue_text (text : Text) (fuel : Nat) (rest : List Char) :
    parseValue (fuel + 1) (quotedText text ++ rest) = some (.str text, rest) := by
  rw [quotedText, List.cons_append, List.append_assoc, parseValue, skipSpace_cons rfl]
  simp only [List.cons_append, List.nil_append, parseText_points, Option.bind_eq_bind, Option.bind_some]

theorem parseValue_array {fuel : Nat} {text between rest : List Char} {item : Value} {items : List Value}
    (htext : ∃ c tail, text = c :: tail ∧ isSpace c = false ∧ c ≠ ']')
    (hitem : parseValue fuel text = some (item, between)) (hitems : parseItems fuel between = some (items, rest)) :
    parseValue (fuel + 1) ('[' :: text) = some (.arr (item :: items), rest) := by
  obtain ⟨c, tail, rfl, hspace, hne⟩ := htext
  rw [parseValue, skipSpace_cons rfl]
  simp only [skipSpace_cons hspace]
  split
  · rename_i heq
    cases heq
    exact absurd rfl hne
  · rw [hitem, Option.bind_eq_bind, Option.bind_some, hitems]
    rfl

variable {text : List Char}

variable {between : List Char}

theorem parseItems_cons {fuel : Nat} {item : Value}
    (hitem : parseValue fuel text = some (item, between)) (hitems : parseItems fuel between = some (items, rest)) :
    parseItems (fuel + 1) (',' :: text) = some (item :: items, rest) := by
  rw [parseItems, skipSpace_cons rfl]
  simp only [hitem, hitems, Option.bind_eq_bind, Option.bind_some]

theorem parseField_eq {fuel : Nat} {nested : Value} (key : Text)
    (hnested : parseValue fuel text = some (nested, rest)) :
    parseField (fuel + 1) (quotedText key ++ ':' :: text) = some ((key, nested), rest) := by
  rw [quotedText, List.cons_append, List.append_assoc, parseField, skipSpace_cons rfl]
  simp only [List.cons_append, List.nil_append, parseText_points, Option.bind_eq_bind, Option.bind_some]
  rw [skipSpace_cons rfl]
  simp only [hnested, Option.bind_some]

theorem parseValue_record {fuel : Nat} {key : Text} {nested : Value}
    (hfield : parseField fuel (quotedText key ++ text) = some ((key, nested), between))
    (hfields : parseFields fuel between = some (fields, rest)) :
    parseValue (fuel + 1) ('{' :: (quotedText key ++ text))
      = some (.obj (ofEntries ((key, nested) :: fields)), rest) := by
  rw [parseValue, skipSpace_cons rfl]
  have hskip : skipSpace (quotedText key ++ text) = quotedText key ++ text := skipSpace_cons rfl _
  simp only [hskip]
  split
  · rename_i heq
    cases heq
  · rw [hfield, Option.bind_eq_bind, Option.bind_some, hfields]
    rfl

theorem parseFields_cons {fuel : Nat} {entry : Text × Value}
    (hfield : parseField fuel text = some (entry, between))
    (hfields : parseFields fuel between = some (fields, rest)) :
    parseFields (fuel + 1) (',' :: text) = some (entry :: fields, rest) := by
  rw [parseFields, skipSpace_cons rfl]
  simp only [hfield, hfields, Option.bind_eq_bind, Option.bind_some]

mutual

/-- **A value is parsed as it was printed**, at the front of any text. -/
theorem parseValue_print : ∀ (v : Value) (fuel : Nat) (rest : List Char), v.Printable → v.print.length ≤ fuel →
    Stops rest → parseValue fuel (v.print ++ rest) = some (v, rest)
  | v, 0, rest, hv, hfuel, _ => by
    obtain ⟨c, tail, hprint, -⟩ := Value.print_head hv
    rw [hprint] at hfuel
    cases hfuel
  | .null, fuel + 1, rest, _, _, _ => rfl
  | .bool true, fuel + 1, rest, _, _, _ => rfl
  | .bool false, fuel + 1, rest, _, _, _ => rfl
  | .int n, fuel + 1, rest, hv, _, hrest => by
    have hnumber := parseNumber_integerText hv hrest
    show parseValue (fuel + 1) (integerText n ++ rest) = _
    cases hprint : integerText n with
    | nil => exact absurd hprint (integerText_ne_nil n)
    | cons c tail =>
      have hhead := mem_integerText (hprint ▸ List.mem_cons_self)
      rw [hprint] at hnumber
      rw [List.cons_append, parseValue_number hhead, ← List.cons_append, hnumber]
  | .num _, _ + 1, _, hv, _, _ => absurd hv id
  | .str text, fuel + 1, rest, _, _, _ => parseValue_text text fuel rest
  | .arr [], fuel + 1, rest, _, _, _ => rfl
  | .arr (item :: items), fuel + 1, rest, hv, hfuel, hrest => by
    have hlength : item.print.length + (Value.printItems items).length ≤ fuel := by
      rw [Value.print, List.length_cons, List.length_append] at hfuel
      omega
    have hitem := parseValue_print item fuel (Value.printItems items ++ rest) hv.1 (by omega) (stops_printItems _ _)
    have hitems := parseItems_print items fuel rest hv.2 (by omega)
    obtain ⟨c, tail, hprint, hhead⟩ := Value.print_head hv.1
    have hparsed := parseValue_array
      ⟨c, tail ++ (Value.printItems items ++ rest), by rw [hprint]; rfl, hhead⟩ hitem hitems
    rw [Value.print, List.cons_append, List.append_assoc]
    exact hparsed
  | .obj [], fuel + 1, rest, _, _, _ => rfl
  | .obj ((key, nested) :: fields), fuel + 1, rest, hv, hfuel, hrest => by
    have hlength : (quotedText key).length + 1 + nested.print.length + (Value.printFields fields).length ≤ fuel := by
      rw [Value.print, List.length_cons, List.length_append, List.length_cons, List.length_append] at hfuel
      omega
    have hfield := parseField_print key nested fuel (Value.printFields fields ++ rest) hv.2.1 (by omega)
      (stops_printFields _ _)
    have hfields := parseFields_print fields fuel rest hv.2.2 (by omega)
    have hparsed := parseValue_record hfield hfields
    rw [ofEntries_eq hv.1] at hparsed
    rw [Value.print, List.cons_append, List.append_assoc, List.cons_append, List.append_assoc]
    exact hparsed
  | .other, _ + 1, _, hv, _, _ => absurd hv id

theorem parseItems_print : ∀ (items : List Value) (fuel : Nat) (rest : List Char), Value.PrintableItems items →
    (Value.printItems items).length ≤ fuel → parseItems fuel (Value.printItems items ++ rest) = some (items, rest)
  | [], 0, _, _, hfuel => absurd hfuel (by decide)
  | [], fuel + 1, rest, _, _ => rfl
  | item :: items, 0, _, _, hfuel => by
    rw [Value.printItems] at hfuel
    cases hfuel
  | item :: items, fuel + 1, rest, hitems, hfuel => by
    have hlength : item.print.length + (Value.printItems items).length ≤ fuel := by
      rw [Value.printItems, List.length_cons, List.length_append] at hfuel
      omega
    have hitem := parseValue_print item fuel (Value.printItems items ++ rest) hitems.1 (by omega)
      (stops_printItems _ _)
    have hrest := parseItems_print items fuel rest hitems.2 (by omega)
    rw [Value.printItems, List.cons_append, List.append_assoc]
    exact parseItems_cons hitem hrest

theorem parseField_print : ∀ (key : Text) (nested : Value) (fuel : Nat) (rest : List Char), nested.Printable →
    (quotedText key).length + 1 + nested.print.length ≤ fuel → Stops rest →
    parseField fuel (quotedText key ++ ':' :: (nested.print ++ rest)) = some ((key, nested), rest)
  | key, nested, 0, _, _, hfuel, _ => by omega
  | key, nested, fuel + 1, rest, hnested, hfuel, hrest =>
    parseField_eq key (parseValue_print nested fuel rest hnested (by omega) hrest)

theorem parseFields_print : ∀ (fields : List (Text × Value)) (fuel : Nat) (rest : List Char),
    Value.PrintableFields fields → (Value.printFields fields).length ≤ fuel →
    parseFields fuel (Value.printFields fields ++ rest) = some (fields, rest)
  | [], 0, _, _, hfuel => absurd hfuel (by decide)
  | [], fuel + 1, rest, _, _ => rfl
  | (key, nested) :: fields, 0, _, _, hfuel => by
    rw [Value.printFields] at hfuel
    cases hfuel
  | (key, nested) :: fields, fuel + 1, rest, hfields, hfuel => by
    have hlength : (quotedText key).length + 1 + nested.print.length + (Value.printFields fields).length ≤ fuel := by
      rw [Value.printFields, List.length_cons, List.length_append, List.length_cons, List.length_append] at hfuel
      omega
    have hfield := parseField_print key nested fuel (Value.printFields fields ++ rest) hfields.1 (by omega)
      (stops_printFields _ _)
    have hrest := parseFields_print fields fuel rest hfields.2 (by omega)
    rw [Value.printFields, List.cons_append, List.append_assoc, List.cons_append, List.append_assoc]
    exact parseFields_cons hfield hrest

end

/-- **`JSON.parse` reads a value back from the text of `JSON.stringify`.** -/
theorem parse_print (h : v.Printable) : parse v.print = some v := by
  have hparsed := parseValue_print v (v.print.length + 1) [] h (Nat.le_succ _) fun _ _ heq => by cases heq
  rw [List.append_nil] at hparsed
  rw [parse, hparsed]
  rfl

/-! ## What is parsed has no key twice -/

theorem mem_setEntry {key key' : Text} {nested nested' : Value}
    (h : (key', nested') ∈ setEntry key nested fields) : (key', nested') ∈ fields ∨ nested' = nested := by
  induction fields with
  | nil =>
    rw [setEntry, List.mem_singleton] at h
    cases h
    exact .inr rfl
  | cons field rest ih =>
    obtain ⟨key'', nested''⟩ := field
    rw [setEntry] at h
    split at h
    · rcases List.mem_cons.mp h with heq | hmem
      · cases heq
        exact .inr rfl
      · exact .inl (List.mem_cons_of_mem _ hmem)
    · rcases List.mem_cons.mp h with heq | hmem
      · cases heq
        exact .inl List.mem_cons_self
      · exact (ih hmem).imp (List.mem_cons_of_mem _) id

/-- The record of entries has no key twice, and no other values than they. -/
theorem keyed_ofEntries {entries : List (Text × Value)} (h : ∀ entry ∈ entries, entry.2.Keyed) :
    (Value.obj (ofEntries entries)).Keyed := by
  have hfold : ∀ after before : List (Text × Value), (∀ entry ∈ after, entry.2.Keyed) →
      (Value.obj before).Keyed →
      (Value.obj (after.foldl (fun fields entry => setEntry entry.1 entry.2 fields) before)).Keyed := by
    intro after
    induction after with
    | nil => exact fun before _ hbefore => hbefore
    | cons entry after ih =>
      intro before hafter hbefore
      rw [List.forall_mem_cons] at hafter
      rw [Value.Keyed, Value.keyedFields_iff] at hbefore
      refine ih _ hafter.2 ⟨?_, ?_⟩
      · rw [map_fst_setEntry]
        split
        · exact hbefore.1
        · rename_i hnew
          exact List.nodup_append.mpr ⟨hbefore.1, List.nodup_singleton _, fun a ha b hb heq => by
            rw [List.mem_singleton] at hb
            subst hb heq
            exact hnew ha⟩
      · rw [Value.keyedFields_iff]
        rintro ⟨key, nested⟩ hmem
        rcases mem_setEntry hmem with hmem | rfl
        · exact hbefore.2 _ hmem
        · exact hafter.1
  exact hfold entries [] h ⟨List.nodup_nil, trivial⟩

theorem keyed_literalValue (literal : List Char) (negative : Bool) (digits : List Char) (exponent : Int) :
    (literalValue literal negative digits exponent).Keyed := by
  have hsafe : ∀ n, (if isSafeInteger n = true then Value.int n else Value.num literal).Keyed := by
    intro n
    split
    · trivial
    · trivial
  simp only [literalValue]
  split
  · exact hsafe _
  · trivial

theorem keyed_parseNumber (h : parseNumber text = some (v, rest)) : v.Keyed := by
  simp only [parseNumber, Option.bind_eq_bind] at h
  split at h
  · cases h
  · simp only [Option.bind_eq_some_iff, Option.some.injEq, Prod.mk.injEq, Prod.exists] at h
    obtain ⟨fraction, -, -, exponent, -, -, rfl, -⟩ := h
    exact keyed_literalValue _ _ _ _

mutual

theorem keyed_parseValue : ∀ (fuel : Nat) {text rest : List Char} {v : Value},
    parseValue fuel text = some (v, rest) → v.Keyed
  | 0, _, _, _, h => by cases h
  | fuel + 1, text, rest, v, h => by
    rw [parseValue] at h
    split at h
    · cases h
      trivial
    · cases h
      trivial
    · cases h
      trivial
    · simp only [Option.bind_eq_bind, Option.bind_eq_some_iff, Option.some.injEq, Prod.mk.injEq, Prod.exists] at h
      obtain ⟨_, _, -, rfl, -⟩ := h
      trivial
    · split at h
      · cases h
        trivial
      · simp only [Option.bind_eq_bind, Option.bind_eq_some_iff, Option.some.injEq, Prod.mk.injEq, Prod.exists] at h
        obtain ⟨item, between, hitem, items, _, hitems, rfl, -⟩ := h
        exact ⟨keyed_parseValue fuel hitem, Value.keyedItems_iff.mpr (keyed_parseItems fuel hitems)⟩
    · split at h
      · cases h
        exact ⟨List.nodup_nil, trivial⟩
      · simp only [Option.bind_eq_bind, Option.bind_eq_some_iff, Option.some.injEq, Prod.mk.injEq, Prod.exists] at h
        obtain ⟨key, nested, between, hfield, entries, _, hfields, rfl, -⟩ := h
        apply keyed_ofEntries
        rw [List.forall_mem_cons]
        exact ⟨keyed_parseField fuel hfield, keyed_parseFields fuel hfields⟩
    · exact keyed_parseNumber h

theorem keyed_parseItems : ∀ (fuel : Nat) {text rest : List Char} {items : List Value},
    parseItems fuel text = some (items, rest) → ∀ item ∈ items, item.Keyed
  | 0, _, _, _, h => by cases h
  | fuel + 1, text, rest, items, h => by
    rw [parseItems] at h
    split at h
    · cases h
      exact fun item hitem => absurd hitem List.not_mem_nil
    · simp only [Option.bind_eq_bind, Option.bind_eq_some_iff, Option.some.injEq, Prod.mk.injEq, Prod.exists] at h
      obtain ⟨item, between, hitem, items, _, hitems, rfl, -⟩ := h
      rw [List.forall_mem_cons]
      exact ⟨keyed_parseValue fuel hitem, keyed_parseItems fuel hitems⟩
    · cases h

theorem keyed_parseField : ∀ (fuel : Nat) {text rest : List Char} {entry : Text × Value},
    parseField fuel text = some (entry, rest) → entry.2.Keyed
  | 0, _, _, _, h => by cases h
  | fuel + 1, text, rest, entry, h => by
    rw [parseField] at h
    split at h
    · simp only [Option.bind_eq_bind, Option.bind_eq_some_iff, Prod.exists] at h
      obtain ⟨key, between, -, h⟩ := h
      split at h
      · simp only [Option.bind_eq_some_iff, Option.some.injEq, Prod.mk.injEq, Prod.exists] at h
        obtain ⟨nested, _, hnested, rfl, -⟩ := h
        exact keyed_parseValue fuel hnested
      · cases h
    · cases h

theorem keyed_parseFields : ∀ (fuel : Nat) {text rest : List Char} {entries : List (Text × Value)},
    parseFields fuel text = some (entries, rest) → ∀ entry ∈ entries, entry.2.Keyed
  | 0, _, _, _, h => by cases h
  | fuel + 1, text, rest, entries, h => by
    rw [parseFields] at h
    split at h
    · cases h
      exact fun entry hentry => absurd hentry List.not_mem_nil
    · simp only [Option.bind_eq_bind, Option.bind_eq_some_iff, Option.some.injEq, Prod.mk.injEq, Prod.exists] at h
      obtain ⟨key, nested, between, hfield, entries, _, hfields, rfl, -⟩ := h
      rw [List.forall_mem_cons]
      exact ⟨keyed_parseField fuel hfield, keyed_parseFields fuel hfields⟩
    · cases h

end

/-- **No record that is parsed has a key twice.** -/
theorem keyed_of_parse (h : parse text = some v) : v.Keyed := by
  unfold parse at h
  split at h
  · rename_i value rest hvalue
    split at h
    · cases h
      exact keyed_parseValue _ hvalue
    · cases h
  · cases h

end VentureOS.JsonText
