import Mathlib.Algebra.GroupWithZero.Nat
import Mathlib.Data.List.Basic
import Mathlib.Data.Char

/-! # Strings, regular expressions and time stamps of the JavaScript standard library

Executable definitions of the library functions that validation code calls: `String.length` (UTF-16
code units), `trim`, `RegExp.test` for the fragment of regular expressions in use (classes,
sequences, alternatives, options, counted repetitions, word boundaries, the flags `i` and `u`), and
`Date.prototype.toISOString`. -/

namespace VentureOS

/-! ## Lengths and blanks -/

/-- `s.length`: the number of UTF-16 code units. -/
def utf16Length (s : String) : Nat :=
  (s.toList.map (fun c => if c.toNat < 0x10000 then 1 else 2)).sum

theorem utf16Length_append (s t : String) :
    utf16Length (s ++ t) = utf16Length s + utf16Length t := by
  simp [utf16Length]

/-- A character of the basic plane, repeated. -/
theorem utf16Length_replicate {n : Nat} {c : Char} (h : c.toNat < 0x10000) :
    utf16Length (String.ofList (List.replicate n c)) = n := by
  simp [utf16Length, h]

/-! ## Joined texts -/

section Joined

variable {α : Type*} [BEq α] [LawfulBEq α] (sep : α)

/-- Texts that are joined with a separator are taken apart into their own parts, one text after the other. -/
theorem splitOn_intercalate {texts : List (List α)} (h : texts ≠ []) :
    ([sep].intercalate texts).splitOn sep = texts.flatMap (List.splitOn sep) := by
  induction texts with
  | nil => exact absurd rfl h
  | cons text rest ih =>
    cases rest with
    | nil => simp
    | cons next rest =>
      have hrest := ih (List.cons_ne_nil next rest)
      rw [List.intercalate_cons_cons, List.append_assoc, List.singleton_append, List.flatMap_cons, ← hrest]
      exact List.splitOnP_append_cons text _ (beq_self_eq_true sep)

/-- **Texts are joined to the same text exactly when they have the same parts in turn.** -/
theorem intercalate_eq_iff {texts texts' : List (List α)} (h : texts ≠ []) (h' : texts' ≠ []) :
    [sep].intercalate texts = [sep].intercalate texts'
      ↔ texts.flatMap (List.splitOn sep) = texts'.flatMap (List.splitOn sep) := by
  constructor
  · intro hjoined
    rw [← splitOn_intercalate sep h, ← splitOn_intercalate sep h', hjoined]
  · intro hparts
    rw [← splitOn_intercalate sep h, ← splitOn_intercalate sep h'] at hparts
    have hjoined := congrArg [sep].intercalate hparts
    rw [List.intercalate_splitOn, List.intercalate_splitOn] at hjoined
    exact hjoined

end Joined

/-- The white space and line terminators that `trim` strips and `\s` matches. -/
def isJsSpace (c : Char) : Bool :=
  let n := c.toNat
  (9 ≤ n && n ≤ 13) || n == 0x20 || n == 0xA0 || n == 0x1680 || (0x2000 ≤ n && n ≤ 0x200A)
    || n == 0x2028 || n == 0x2029 || n == 0x202F || n == 0x205F || n == 0x3000 || n == 0xFEFF

/-- `s.trim().length === 0`. -/
def isBlank (s : String) : Bool := s.toList.all isJsSpace

/-- `\p{Cc}`: the control characters. -/
def isControl (c : Char) : Bool :=
  let n := c.toNat
  n ≤ 0x1F || (0x7F ≤ n && n ≤ 0x9F)

/-- `[A-Za-z0-9]`. -/
def isAlnum (c : Char) : Bool :=
  ('A' ≤ c && c ≤ 'Z') || ('a' ≤ c && c ≤ 'z') || ('0' ≤ c && c ≤ '9')

/-- A character of a joined text is one of a part, or of the separator. -/
theorem mem_intercalate {sep : String} {texts : List String} {c : Char} :
    c ∈ (sep.intercalate texts).toList ↔
      (∃ text ∈ texts, c ∈ text.toList) ∨ (2 ≤ texts.length ∧ c ∈ sep.toList) := by
  induction texts with
  | nil => simp
  | cons text rest ih =>
    by_cases hrest : rest = []
    · subst hrest
      simp
    · have hlength : 0 < rest.length := List.length_pos_of_ne_nil hrest
      rw [String.intercalate_cons_of_ne_nil hrest]
      simp only [String.toList_append, List.mem_append, ih, List.mem_cons, exists_eq_or_imp, List.length_cons]
      constructor
      · rintro ((h | h) | (h | ⟨-, h⟩))
        · exact Or.inl (Or.inl h)
        · exact Or.inr ⟨by omega, h⟩
        · exact Or.inl (Or.inr h)
        · exact Or.inr ⟨by omega, h⟩
      · rintro ((h | h) | ⟨-, h⟩)
        · exact Or.inl (Or.inl h)
        · exact Or.inr (Or.inl h)
        · exact Or.inl (Or.inr h)

/-! ## Regular expressions -/

/-- Regular expressions over code points. -/
inductive Regex where
  /-- The empty expression. -/
  | eps
  /-- One character of a class. -/
  | cls (p : Char → Bool)
  /-- One expression after the other. -/
  | seq (r s : Regex)
  /-- Either of two expressions. -/
  | alt (r s : Regex)
  /-- Any number of repetitions. -/
  | star (r : Regex)
  /-- `\b`: exactly one of the two neighbouring characters is a word character. -/
  | wordBoundary

namespace Regex

/-- A place in a text: the character before it, if any, and the characters after it. -/
abbrev Position := Option Char × List Char

/-- `\w`. -/
def isWord (c : Char) : Bool := isAlnum c || c == '_'

/-- The places reached from a place by at most `fuel` rounds of `advance`. -/
def rounds (advance : Position → List Position) : Nat → Position → List Position
  | 0, p => [p]
  | fuel + 1, p => p :: (advance p).flatMap (rounds advance fuel)

/-- The places at which a match of the expression that starts at a place can end. A repetition is
unrolled as often as there are characters left. -/
def ends : Regex → Position → List Position
  | .eps, p => [p]
  | .cls _, (_, []) => []
  | .cls f, (_, c :: rest) => if f c then [(some c, rest)] else []
  | .seq r s, p => (ends r p).flatMap (ends s)
  | .alt r s, p => ends r p ++ ends s p
  | .star r, p => rounds (ends r) p.2.length p
  | .wordBoundary, p => if p.1.any isWord != p.2.head?.any isWord then [p] else []

/-- Whether some match starts at the given place or later. -/
def searchFrom (r : Regex) : Option Char → List Char → Bool
  | before, [] => !(r.ends (before, [])).isEmpty
  | before, c :: rest => !(r.ends (before, c :: rest)).isEmpty || searchFrom r (some c) rest

/-- `regex.test(s)`. -/
def test (r : Regex) (s : String) : Bool := r.searchFrom none s.toList

/-- `r?`. -/
def opt (r : Regex) : Regex := .alt r .eps

/-- `r{n}`. -/
def times : Nat → Regex → Regex
  | 0, _ => .eps
  | n + 1, r => .seq r (times n r)

/-- `r{n,}`. -/
def atLeast (n : Nat) (r : Regex) : Regex := .seq (times n r) (.star r)

/-- The expressions one after the other. -/
def seqAll : List Regex → Regex
  | [] => .eps
  | r :: rs => .seq r (seqAll rs)

/-- Any one of the expressions; the empty list matches nothing. -/
def altAll : List Regex → Regex
  | [] => .cls (fun _ => false)
  | r :: rs => .alt r (altAll rs)

/-- A literal text. -/
def literal (s : String) : Regex := seqAll (s.toList.map (fun c => .cls (fun d => d == c)))

/-- Simple case folding onto ASCII: besides the capital letters, the long s and the Kelvin sign. -/
def foldCase (c : Char) : Char :=
  if 'A' ≤ c && c ≤ 'Z' then Char.ofNat (c.toNat + 32)
  else if c.toNat = 0x17F then 's'
  else if c.toNat = 0x212A then 'k'
  else c

/-- A lower-case literal text under the flag `i`. -/
def literalIgnoreCase (s : String) : Regex :=
  seqAll (s.toList.map (fun c => .cls (fun d => foldCase d == c)))

/-- `.`: any character but a line terminator. -/
def dot : Regex :=
  .cls (fun c => !(c == '\n' || c == '\r' || c.toNat == 0x2028 || c.toNat == 0x2029))

/-- One of the listed characters. -/
def oneOf (s : String) : Regex := .cls (fun c => s.toList.contains c)

end Regex

/-! ## Time stamps -/

/-- The civil date of a day number counted from 1970-01-01: year, month and day. -/
def civilFromDays (days : Int) : Int × Int × Int :=
  let z := days + 719468
  let era := z / 146097
  let doe := z % 146097
  let yoe := (doe - doe / 1460 + doe / 36524 - doe / 146096) / 365
  let doy := doe - (365 * yoe + yoe / 4 - yoe / 100)
  let mp := (5 * doy + 2) / 153
  let month := if mp < 10 then mp + 3 else mp - 9
  (yoe + era * 400 + (if month ≤ 2 then 1 else 0), month, doy - (153 * mp + 2) / 5 + 1)

/-- A non-negative number with leading zeros. -/
def padded (width : Nat) (n : Int) : List Char :=
  let digits := Nat.toDigits 10 n.natAbs
  List.replicate (width - digits.length) '0' ++ digits

/-- The year of a time stamp: four digits, or six digits with a sign. -/
def yearText (year : Int) : List Char :=
  if 0 ≤ year ∧ year ≤ 9999 then padded 4 year
  else (if year < 0 then '-' else '+') :: padded 6 year

/-- `new Date(t).toISOString()`; `none` is the `RangeError` of a time outside the calendar. -/
def toISOString (t : Int) : Option String :=
  if 8640000000000000 < t.natAbs then none
  else
    let ms := t % 86400000
    let (year, month, day) := civilFromDays (t / 86400000)
    some <| String.ofList <|
      yearText year ++ '-' :: padded 2 month ++ '-' :: padded 2 day
        ++ 'T' :: padded 2 (ms / 3600000) ++ ':' :: padded 2 (ms / 60000 % 60)
        ++ ':' :: padded 2 (ms / 1000 % 60) ++ '.' :: padded 3 (ms % 1000) ++ ['Z']

example : toISOString 1787227195000 = some "2026-08-20T11:59:55.000Z" := by decide

end VentureOS
