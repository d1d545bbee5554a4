import Mathlib.Data.List.Basic
import Mathlib.Data.Char
import Mathlib.Tactic.IntervalCases

/-! # JavaScript values and their JSON text

`Json` is the part of a JavaScript value that `JSON.stringify` and a structural check can tell
apart. Values outside JSON (`undefined`, functions, symbols, non-finite numbers, instances of
classes) are one constructor, `notJson`; `Json.Safe` holds of the values without it.

`Json.text` is what `JSON.stringify` prints, as a list of code points. The text of a safe value is
self-delimiting: `text_append_inj` reads a value back from the front of any longer text, so equal
texts come from equal values (`text_injective`). -/

namespace VentureOS

/-! ## Numbers -/

/-- The characters of a number in JSON text. -/
def isNumberChar (c : Char) : Bool := c.isDigit || c == '-' || c == '+' || c == '.' || c == 'e'

/-- The text of a finite number that is not printed as plain decimal digits: a fraction, or a
magnitude of `1e21` and more. -/
structure NumberText where
  /-- The text `Number.prototype.toString` prints. -/
  chars : List Char
  /-- Only number characters occur. -/
  valid : chars.all isNumberChar = true
  /-- A point or an exponent occurs. -/
  marked : chars.any (fun c => c == '.' || c == 'e') = true

/-- The decimal text of an integer. -/
def integerText (n : Int) : List Char :=
  if n < 0 then '-' :: Nat.toDigits 10 n.natAbs else Nat.toDigits 10 n.natAbs

/-- Decimal digits are digits. -/
theorem isDigit_of_mem_toDigits_ten {n : Nat} {c : Char} (h : c ∈ Nat.toDigits 10 n) :
    c.isDigit = true :=
  Nat.isDigit_of_mem_toDigits (by decide) (by decide) h

/-- Decimal digits determine the number. -/
theorem toDigits_ten_injective {m n : Nat} (h : Nat.toDigits 10 m = Nat.toDigits 10 n) : m = n := by
  have := congrArg (fun l => Nat.ofDigitChars 10 l 0) h
  simpa only [Nat.ofDigitChars_ten_toDigits] using this

/-- An integer's text has digits, after at most a minus sign. -/
theorem mem_integerText {n : Int} {c : Char} (h : c ∈ integerText n) :
    c.isDigit = true ∨ c = '-' := by
  unfold integerText at h
  split at h
  · rcases List.mem_cons.mp h with rfl | h
    · exact Or.inr rfl
    · exact Or.inl (isDigit_of_mem_toDigits_ten h)
  · exact Or.inl (isDigit_of_mem_toDigits_ten h)

/-- Different integers have different texts. -/
theorem integerText_injective {m n : Int} (h : integerText m = integerText n) : m = n := by
  have hminus : ∀ k : Nat, '-' ∉ Nat.toDigits 10 k := fun k hk => by
    have := isDigit_of_mem_toDigits_ten hk
    revert this; decide
  unfold integerText at h
  split at h <;> split at h
  · have := toDigits_ten_injective (List.cons.inj h).2; omega
  · exact absurd (h ▸ List.mem_cons_self) (hminus n.natAbs)
  · exact absurd (h.symm ▸ List.mem_cons_self) (hminus m.natAbs)
  · have := toDigits_ten_injective h; omega

/-- An integer's text is no marked text. -/
theorem integerText_ne_chars (n : Int) (t : NumberText) : integerText n ≠ t.chars := by
  intro h
  obtain ⟨c, hc, hmark⟩ := List.any_eq_true.mp t.marked
  rw [← h] at hc
  rcases mem_integerText hc with hd | rfl
  · rcases (Bool.or_eq_true _ _).mp hmark with hc' | hc' <;>
      (rw [beq_iff_eq] at hc'; subst hc'; revert hd; decide)
  · revert hmark; decide

theorem integerText_ne_nil (n : Int) : integerText n ≠ [] := by
  unfold integerText
  split
  · simp
  · exact Nat.toDigits_ne_nil

theorem integerText_all (n : Int) : (integerText n).all isNumberChar = true := by
  refine List.all_eq_true.mpr fun c hc => ?_
  rcases mem_integerText hc with hd | rfl
  · simp [isNumberChar, hd]
  · decide

/-! ## Quoted strings -/

/-- A lower-case hexadecimal digit. -/
def hexDigit (n : Nat) : Char := if n < 10 then Char.ofNat (48 + n) else Char.ofNat (87 + n)

/-- One character inside a quoted JSON string. -/
def quoteChar (c : Char) : List Char :=
  if c = '"' then ['\\', '"']
  else if c = '\\' then ['\\', '\\']
  else if c = '\x08' then ['\\', 'b']
  else if c = '\t' then ['\\', 't']
  else if c = '\n' then ['\\', 'n']
  else if c = '\x0c' then ['\\', 'f']
  else if c = '\r' then ['\\', 'r']
  else if c.toNat < 32 then
    ['\\', 'u', '0', '0', hexDigit (c.toNat / 16), hexDigit (c.toNat % 16)]
  else [c]

/-- The characters of a quoted JSON string up to its closing quote. -/
def quoteBody (cs : List Char) : List Char := cs.flatMap quoteChar

/-- A quoted JSON string. -/
def quoted (s : String) : List Char := '"' :: (quoteBody s.toList ++ ['"'])

/-- The value of a hexadecimal digit. -/
def hexValue (c : Char) : Nat := if c.isDigit then c.toNat - 48 else c.toNat - 87

/-- Read one character of a quoted string back. -/
def unquoteChar : List Char → Option (Char × List Char)
  | '\\' :: '"' :: r => some ('"', r)
  | '\\' :: '\\' :: r => some ('\\', r)
  | '\\' :: 'b' :: r => some ('\x08', r)
  | '\\' :: 't' :: r => some ('\t', r)
  | '\\' :: 'n' :: r => some ('\n', r)
  | '\\' :: 'f' :: r => some ('\x0c', r)
  | '\\' :: 'r' :: r => some ('\r', r)
  | '\\' :: 'u' :: '0' :: '0' :: a :: b :: r => some (Char.ofNat (16 * hexValue a + hexValue b), r)
  | c :: r => some (c, r)
  | [] => none

/-- `unquoteChar` inverts `quoteChar` at the front of any text. -/
theorem unquoteChar_quoteChar (c : Char) (r : List Char) :
    unquoteChar (quoteChar c ++ r) = some (c, r) := by
  have hhex : ∀ n < 16, hexValue (hexDigit n) = n := by decide
  by_cases h1 : c = '"'
  · subst h1; rfl
  by_cases h2 : c = '\\'
  · subst h2; rfl
  by_cases h3 : c = '\x08'
  · subst h3; rfl
  by_cases h4 : c = '\t'
  · subst h4; rfl
  by_cases h5 : c = '\n'
  · subst h5; rfl
  by_cases h6 : c = '\x0c'
  · subst h6; rfl
  by_cases h7 : c = '\r'
  · subst h7; rfl
  by_cases h8 : c.toNat < 32
  · simp only [quoteChar, h1, h2, h3, h4, h5, h6, h7, h8, if_true, if_false, List.cons_append,
      List.nil_append, unquoteChar]
    rw [hhex _ (by omega), hhex _ (by omega), Nat.div_add_mod, Char.ofNat_toNat]
  · simp only [quoteChar, h1, h2, h3, h4, h5, h6, h7, h8, if_false, List.cons_append,
      List.nil_append]
    rw [unquoteChar.eq_def]
    split <;> simp_all

/-- No quoted character starts with the closing quote. -/
theorem quoteChar_append_ne_quote (c : Char) (r t : List Char) : quoteChar c ++ r ≠ '"' :: t := by
  unfold quoteChar
  intro h
  split_ifs at h <;> simp_all

variable {x y : List Char}

/-- A quoted string is self-delimiting. -/
theorem quoteBody_append_inj {a b : List Char}
    (h : quoteBody a ++ '"' :: x = quoteBody b ++ '"' :: y) : a = b ∧ x = y := by
  induction a generalizing b with
  | nil =>
    cases b with
    | nil => exact ⟨rfl, (List.cons.inj h).2⟩
    | cons d b =>
      simp only [quoteBody, List.flatMap_nil, List.nil_append, List.flatMap_cons, List.append_assoc] at h
      exact absurd h.symm (quoteChar_append_ne_quote d _ x)
  | cons c a ih =>
    cases b with
    | nil =>
      simp only [quoteBody, List.flatMap_nil, List.nil_append, List.flatMap_cons, List.append_assoc] at h
      exact absurd h (quoteChar_append_ne_quote c _ y)
    | cons d b =>
      simp only [quoteBody, List.flatMap_cons, List.append_assoc] at h
      -- Both texts start with a quoted character, and reading one back is a function.
      have hread := congrArg unquoteChar h
      rw [unquoteChar_quoteChar, unquoteChar_quoteChar, Option.some.injEq, Prod.mk.injEq] at hread
      obtain ⟨hc, hrest⟩ := ih hread.2
      exact ⟨by rw [hread.1, hc], hrest⟩

/-- A quoted string at the front of a text determines the string and the rest of the text. -/
theorem quoted_append_inj {s t : String} (h : quoted s ++ x = quoted t ++ y) : s = t ∧ x = y := by
  simp only [quoted, List.cons_append, List.append_assoc, List.nil_append, List.cons.injEq, true_and] at h
  obtain ⟨hs, hx⟩ := quoteBody_append_inj h
  exact ⟨String.toList_injective hs, hx⟩

/-! ## Values -/

/-- A JavaScript value, as far as JSON can see it. -/
inductive Json where
  /-- `null`. -/
  | null
  /-- A boolean. -/
  | bool (b : Bool)
  /-- A number printed as plain decimal digits. -/
  | int (n : Int)
  /-- Any other finite number. -/
  | num (t : NumberText)
  /-- A string. -/
  | str (s : String)
  /-- An array. -/
  | arr (items : List Json)
  /-- A plain object: its own enumerable properties in enumeration order. -/
  | obj (fields : List (String × Json))
  /-- A value outside JSON: `undefined`, a function, a non-finite number, a class instance. -/
  | notJson

namespace Json

mutual

/-- What `JSON.stringify` prints. Outside JSON it prints what it does for a non-finite number. -/
def text : Json → List Char
  | .null => ['n', 'u', 'l', 'l']
  | .bool true => ['t', 'r', 'u', 'e']
  | .bool false => ['f', 'a', 'l', 's', 'e']
  | .int n => integerText n
  | .num t => t.chars
  | .str s => quoted s
  | .arr [] => ['[', ']']
  | .arr (v :: vs) => '[' :: (v.text ++ itemsText vs)
  | .obj [] => ['{', '}']
  | .obj ((k, v) :: fs) => '{' :: (quoted k ++ ':' :: (v.text ++ fieldsText fs))
  | .notJson => ['n', 'u', 'l', 'l']

/-- The items of an array after the first, with the closing bracket. -/
def itemsText : List Json → List Char
  | [] => [']']
  | v :: vs => ',' :: (v.text ++ itemsText vs)

/-- The fields of an object after the first, with the closing brace. -/
def fieldsText : List (String × Json) → List Char
  | [] => ['}']
  | (k, v) :: fs => ',' :: (quoted k ++ ':' :: (v.text ++ fieldsText fs))

end

mutual

/-- The value contains nothing outside JSON. -/
def Safe : Json → Prop
  | .arr vs => SafeItems vs
  | .obj fs => SafeFields fs
  | .notJson => False
  | _ => True

/-- Every item is safe. -/
def SafeItems : List Json → Prop
  | [] => True
  | v :: vs => v.Safe ∧ SafeItems vs

/-- Every field is safe. -/
def SafeFields : List (String × Json) → Prop
  | [] => True
  | (_, v) :: fs => v.Safe ∧ SafeFields fs

end

/-- `Buffer.byteLength(text, 'utf8')`. -/
def byteLength (cs : List Char) : Nat := (cs.map Char.utf8Size).sum

/-- The text that may follow a value: nothing, or a separator. -/
def Delimited : List Char → Prop
  | [] => True
  | c :: _ => isNumberChar c = false

/-- What kind of value a text starting with `c` denotes. -/
def leadKind (c : Char) : Nat :=
  if c = 'n' then 0 else if c = 't' then 1 else if c = 'f' then 2 else if c = '"' then 3
  else if c = '[' then 4 else if c = '{' then 5 else if isNumberChar c then 6 else 7

/-- The kind of a value, as its text shows it in the first character. -/
def kind : Json → Nat
  | .null => 0
  | .bool true => 1
  | .bool false => 2
  | .str _ => 3
  | .arr _ => 4
  | .obj _ => 5
  | .int _ => 6
  | .num _ => 6
  | .notJson => 0

/-- A number character introduces a number. -/
theorem leadKind_of_isNumberChar {c : Char} (h : isNumberChar c = true) : leadKind c = 6 := by
  unfold leadKind
  split_ifs <;> first | rfl | contradiction | (subst_vars; revert h; decide)

/-- The first character of a value's text tells the kind of the value. -/
theorem text_head (v : Json) : ∃ c r, v.text = c :: r ∧ leadKind c = v.kind := by
  -- The two kinds of numbers have only number characters.
  have hnum : ∀ l : List Char, l ≠ [] → l.all isNumberChar = true →
      ∃ c r, l = c :: r ∧ leadKind c = 6 := by
    intro l hne hall
    cases l with
    | nil => exact absurd rfl hne
    | cons c r =>
      rw [List.all_cons, Bool.and_eq_true] at hall
      exact ⟨c, r, rfl, leadKind_of_isNumberChar hall.1⟩
  cases v with
  | bool b => cases b <;> exact ⟨_, _, rfl, rfl⟩
  | int n => exact hnum _ (integerText_ne_nil n) (integerText_all n)
  | num t =>
    refine hnum _ (fun h => ?_) t.valid
    have hmarked := t.marked
    rw [show t.chars = [] from h] at hmarked
    cases hmarked
  | arr vs => cases vs <;> exact ⟨_, _, rfl, rfl⟩
  | obj fs => cases fs with
    | nil => exact ⟨_, _, rfl, rfl⟩
    | cons f fs => obtain ⟨k, v⟩ := f; exact ⟨_, _, rfl, rfl⟩
  | _ => exact ⟨_, _, rfl, rfl⟩

/-- Values whose texts share a first character are of one kind. -/
theorem kind_eq_of_text_append {v w : Json} (h : v.text ++ x = w.text ++ y) : v.kind = w.kind := by
  obtain ⟨c, r, hv, hc⟩ := v.text_head
  obtain ⟨d, t, hw, hd⟩ := w.text_head
  rw [hv, hw, List.cons_append, List.cons_append, List.cons.injEq] at h
  rw [← hc, ← hd, h.1]

/-- No value's text starts with a closing bracket. -/
theorem text_append_ne_bracket (v : Json) (x y : List Char) : v.text ++ x ≠ ']' :: y := by
  obtain ⟨c, r, hv, hc⟩ := v.text_head
  intro h
  rw [hv, List.cons_append, List.cons.injEq] at h
  rw [h.1] at hc
  cases v with
  | bool b => cases b <;> revert hc <;> decide
  | _ => revert hc; simp only [kind]; decide

/-- Number texts are delimited by what may follow a value. -/
theorem numberText_append_inj {a b : List Char} (ha : a.all isNumberChar = true)
    (hb : b.all isNumberChar = true) (hx : Delimited x) (hy : Delimited y)
    (h : a ++ x = b ++ y) : a = b ∧ x = y := by
  -- A number text is what is read until the first character that is none of a number.
  have hread : ∀ {c z : List Char}, c.all isNumberChar = true → Delimited z → (c ++ z).takeWhile isNumberChar = c := by
    intro c z hc hz
    rw [List.takeWhile_append_of_pos (List.all_eq_true.mp hc)]
    cases z with
    | nil => exact List.append_nil c
    | cons d z => rw [List.takeWhile_cons_of_neg (by rw [show isNumberChar d = false from hz]; nofun), List.append_nil]
  obtain rfl : a = b := by rw [← hread ha hx, h, hread hb hy]
  exact ⟨rfl, List.append_cancel_left h⟩

theorem delimited_itemsText (vs : List Json) (x : List Char) : Delimited (itemsText vs ++ x) := by
  cases vs with
  | nil => exact (by decide : isNumberChar ']' = false)
  | cons v vs => exact (by decide : isNumberChar ',' = false)

theorem delimited_fieldsText (fs : List (String × Json)) (x : List Char) :
    Delimited (fieldsText fs ++ x) := by
  cases fs with
  | nil => exact (by decide : isNumberChar '}' = false)
  | cons f fs => obtain ⟨k, v⟩ := f; exact (by decide : isNumberChar ',' = false)

/-- Numbers are read back from the front of a text. -/
theorem number_append_inj {v w : Json} (hv : v.kind = 6) (hw : w.kind = 6)
    (hx : Delimited x) (hy : Delimited y) (h : v.text ++ x = w.text ++ y) : v = w ∧ x = y := by
  have hall : ∀ u : Json, u.kind = 6 → u.text.all isNumberChar = true := by
    intro u hu
    cases u with
    | int n => exact integerText_all n
    | num t => exact t.valid
    | bool b => cases b <;> cases hu
    | _ => cases hu
  obtain ⟨ht, hxy⟩ := numberText_append_inj (hall v hv) (hall w hw) hx hy h
  refine ⟨?_, hxy⟩
  cases v with
  | int m => cases w with
    | int n => rw [integerText_injective ht]
    | num t => exact absurd ht (integerText_ne_chars m t)
    | bool b => cases b <;> cases hw
    | _ => cases hw
  | num t => cases w with
    | int n => exact absurd ht.symm (integerText_ne_chars n t)
    | num t' => cases t; cases t'; cases ht; rfl
    | bool b => cases b <;> cases hw
    | _ => cases hw
  | bool b => cases b <;> cases hv
  | _ => cases hv

mutual

/-- **Values are self-delimiting.** A safe value's text at the front of a text determines the value
and the rest of the text. -/
theorem text_append_inj : ∀ (v w : Json) (x y : List Char), v.Safe → w.Safe → Delimited x →
    Delimited y → v.text ++ x = w.text ++ y → v = w ∧ x = y
  | .int m, w, x, y, _, _, hx, hy, h =>
    number_append_inj rfl (kind_eq_of_text_append h).symm hx hy h
  | .num t, w, x, y, _, _, hx, hy, h =>
    number_append_inj rfl (kind_eq_of_text_append h).symm hx hy h
  -- The first character tells the kind; `notJson` also prints `null`, but is not safe.
  | .null, w, x, y, _, hw, _, _, h => by
    have hk := kind_eq_of_text_append h
    cases w with
    | null => exact ⟨rfl, List.append_cancel_left h⟩
    | bool b => cases b <;> cases hk
    | notJson => exact hw.elim
    | _ => cases hk
  | .bool b, w, x, y, _, _, _, _, h => by
    have hk := kind_eq_of_text_append h
    cases w with
    | bool b' =>
      cases b <;> cases b' <;> first | exact ⟨rfl, List.append_cancel_left h⟩ | cases hk
    | _ => cases b <;> cases hk
  | .str s, w, x, y, _, _, _, _, h => by
    have hk := kind_eq_of_text_append h
    cases w with
    | str t =>
      obtain ⟨hs, hx⟩ := quoted_append_inj h
      exact ⟨by rw [hs], hx⟩
    | bool b => cases b <;> cases hk
    | _ => cases hk
  | .arr vs, w, x, y, hv, hw, _, _, h => by
    have hk := kind_eq_of_text_append h
    cases w with
    | arr ws =>
      obtain ⟨hvs, hx⟩ := arr_append_inj vs ws x y hv hw h
      exact ⟨by rw [hvs], hx⟩
    | bool b => cases b <;> cases hk
    | _ => cases hk
  | .obj fs, w, x, y, hv, hw, _, _, h => by
    have hk := kind_eq_of_text_append h
    cases w with
    | obj gs =>
      obtain ⟨hfs, hx⟩ := obj_append_inj fs gs x y hv hw h
      exact ⟨by rw [hfs], hx⟩
    | bool b => cases b <;> cases hk
    | _ => cases hk
  | .notJson, _, _, _, hv, _, _, _, _ => hv.elim

/-- Arrays are self-delimiting. -/
theorem arr_append_inj : ∀ (vs ws : List Json) (x y : List Char), SafeItems vs → SafeItems ws →
    (Json.arr vs).text ++ x = (Json.arr ws).text ++ y → vs = ws ∧ x = y
  | [], [], x, y, _, _, h => ⟨rfl, List.append_cancel_left h⟩
  | [], w :: ws, x, y, _, _, h => by
    simp only [text, List.cons_append, List.nil_append, List.append_assoc, List.cons.injEq, true_and] at h
    exact absurd h.symm (text_append_ne_bracket w _ x)
  | v :: vs, [], x, y, _, _, h => by
    simp only [text, List.cons_append, List.nil_append, List.append_assoc, List.cons.injEq, true_and] at h
    exact absurd h (text_append_ne_bracket v _ y)
  | v :: vs, w :: ws, x, y, hv, hw, h => by
    simp only [text, List.cons_append, List.append_assoc, List.cons.injEq, true_and] at h
    obtain ⟨rfl, hrest⟩ := text_append_inj v w _ _ hv.1 hw.1 (delimited_itemsText vs x)
      (delimited_itemsText ws y) h
    obtain ⟨rfl, hx⟩ := items_append_inj vs ws x y hv.2 hw.2 hrest
    exact ⟨rfl, hx⟩

/-- The rest of an array is self-delimiting. -/
theorem items_append_inj : ∀ (vs ws : List Json) (x y : List Char), SafeItems vs → SafeItems ws →
    itemsText vs ++ x = itemsText ws ++ y → vs = ws ∧ x = y
  | [], [], x, y, _, _, h => ⟨rfl, List.append_cancel_left h⟩
  | [], _ :: _, _, _, _, _, h => by simp [itemsText] at h
  | _ :: _, [], _, _, _, _, h => by simp [itemsText] at h
  | v :: vs, w :: ws, x, y, hv, hw, h => by
    simp only [itemsText, List.cons_append, List.append_assoc, List.cons.injEq, true_and] at h
    obtain ⟨rfl, hrest⟩ := text_append_inj v w _ _ hv.1 hw.1 (delimited_itemsText vs x)
      (delimited_itemsText ws y) h
    obtain ⟨rfl, hx⟩ := items_append_inj vs ws x y hv.2 hw.2 hrest
    exact ⟨rfl, hx⟩

/-- Objects are self-delimiting. -/
theorem obj_append_inj : ∀ (fs gs : List (String × Json)) (x y : List Char), SafeFields fs →
    SafeFields gs → (Json.obj fs).text ++ x = (Json.obj gs).text ++ y → fs = gs ∧ x = y
  | [], [], x, y, _, _, h => ⟨rfl, List.append_cancel_left h⟩
  | [], (k, w) :: gs, x, y, _, _, h => by simp [text, quoted] at h
  | (k, v) :: fs, [], x, y, _, _, h => by simp [text, quoted] at h
  | (k, v) :: fs, (l, w) :: gs, x, y, hv, hw, h => by
    simp only [text, List.cons_append, List.append_assoc, List.cons.injEq, true_and] at h
    obtain ⟨rfl, hvalue⟩ := quoted_append_inj h
    obtain ⟨rfl, hrest⟩ := text_append_inj v w _ _ hv.1 hw.1 (delimited_fieldsText fs x)
      (delimited_fieldsText gs y) (List.cons.inj hvalue).2
    obtain ⟨rfl, hx⟩ := fields_append_inj fs gs x y hv.2 hw.2 hrest
    exact ⟨rfl, hx⟩

/-- The rest of an object is self-delimiting. -/
theorem fields_append_inj : ∀ (fs gs : List (String × Json)) (x y : List Char), SafeFields fs →
    SafeFields gs → fieldsText fs ++ x = fieldsText gs ++ y → fs = gs ∧ x = y
  | [], [], x, y, _, _, h => ⟨rfl, List.append_cancel_left h⟩
  | [], (_, _) :: _, _, _, _, _, h => by simp [fieldsText] at h
  | (_, _) :: _, [], _, _, _, _, h => by simp [fieldsText] at h
  | (k, v) :: fs, (l, w) :: gs, x, y, hv, hw, h => by
    simp only [fieldsText, List.cons_append, List.append_assoc, List.cons.injEq, true_and] at h
    obtain ⟨rfl, hvalue⟩ := quoted_append_inj h
    obtain ⟨rfl, hrest⟩ := text_append_inj v w _ _ hv.1 hw.1 (delimited_fieldsText fs x)
      (delimited_fieldsText gs y) (List.cons.inj hvalue).2
    obtain ⟨rfl, hx⟩ := fields_append_inj fs gs x y hv.2 hw.2 hrest
    exact ⟨rfl, hx⟩

end

/-- **`JSON.stringify` is injective on JSON values.** -/
theorem text_injective {v w : Json} (hv : v.Safe) (hw : w.Safe) (h : v.text = w.text) : v = w := by
  refine (text_append_inj v w [] [] hv hw trivial trivial ?_).1
  rw [h]

end Json

end VentureOS
