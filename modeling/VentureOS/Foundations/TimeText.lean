import VentureOS.Foundations.Text
import Mathlib.Data.Nat.Digits.Defs

/-! # Texts of times

What the texts of `Date.prototype.toISOString` are made of, and how long they are. -/

namespace VentureOS

/-- The characters of a time stamp. -/
def timeAlphabet : List Char :=
  ['0', '1', '2', '3', '4', '5', '6', '7', '8', '9', '-', '+', ':', '.', 'T', 'Z']

theorem mem_timeAlphabet_of_isDigit {c : Char} (h : c.isDigit = true) : c ∈ timeAlphabet := by
  have hall : ∀ n < 58, 48 ≤ n → Char.ofNat n ∈ timeAlphabet := by decide
  have hrange : 48 ≤ c.toNat ∧ c.toNat ≤ 57 := by
    simpa [Char.isDigit, UInt32.le_iff_toNat_le] using h
  rw [← Char.ofNat_toNat c]
  exact hall c.toNat (by omega) hrange.1

theorem mem_padded {width : Nat} {n : Int} {c : Char} (h : c ∈ padded width n) : c ∈ timeAlphabet := by
  rcases List.mem_append.mp h with hzero | hdigit
  · rw [List.eq_of_mem_replicate hzero]
    decide
  · exact mem_timeAlphabet_of_isDigit (Nat.isDigit_of_mem_toDigits (by decide) (by decide) hdigit)

theorem length_padded {w k : Nat} {n : Int} (hk : 0 < k) (hwidth : w ≤ k) (h : n.natAbs < 10 ^ k) :
    (padded w n).length ≤ k := by
  have hdigits := Nat.toDigits_length 10 n.natAbs k hk h
  simp only [padded, List.length_append, List.length_replicate]
  omega

theorem mem_yearText {year : Int} {c : Char} (h : c ∈ yearText year) : c ∈ timeAlphabet := by
  unfold yearText at h
  split at h
  · exact mem_padded h
  · rcases List.mem_cons.mp h with rfl | hdigit
    · split <;> decide
    · exact mem_padded hdigit

theorem length_yearText {year : Int} (h : year.natAbs < 10 ^ 6) : (yearText year).length ≤ 7 := by
  unfold yearText
  split
  · exact Nat.le_succ_of_le (length_padded (by decide) (by decide) h)
  · rw [List.length_cons]
    exact Nat.succ_le_succ (length_padded (by decide) (by decide) h)

/-- The date of a day in the range of the calendar. -/
theorem civilFromDays_bounds {days : Int} (h : days.natAbs ≤ 100000001) :
    (civilFromDays days).1.natAbs < 10 ^ 6 ∧ (civilFromDays days).2.1.natAbs < 10 ^ 2
      ∧ (civilFromDays days).2.2.natAbs < 10 ^ 3 := by
  simp only [civilFromDays]
  generalize hz : days + 719468 = z
  have hera : -700 ≤ z / 146097 ∧ z / 146097 ≤ 700 := by omega
  have hdoe : 0 ≤ z % 146097 ∧ z % 146097 ≤ 146096 := by omega
  generalize z / 146097 = era at hera
  generalize z % 146097 = doe at hdoe
  generalize hyoe : (doe - doe / 1460 + doe / 36524 - doe / 146096) / 365 = yoe
  have hyears : 0 ≤ yoe ∧ yoe ≤ 401 := by omega
  generalize hdoy : doe - (365 * yoe + yoe / 4 - yoe / 100) = doy
  have hdays : -110 ≤ doy ∧ doy ≤ 480 := by omega
  generalize hmp : (5 * doy + 2) / 153 = mp
  have hmonths : -5 ≤ mp ∧ mp ≤ 16 := by omega
  refine ⟨?_, ?_, ?_⟩
  · split <;> split <;> omega
  · split <;> omega
  · omega

/-- **A time stamp is short**, and of its characters. -/
theorem toISOString_spec {t : Int} {text : String} (h : toISOString t = some text) :
    (∀ c ∈ text.toList, c ∈ timeAlphabet) ∧ text.toList.length ≤ 32 := by
  unfold toISOString at h
  split at h
  · cases h
  · rename_i hrange
    obtain ⟨hyear, hmonth, hday⟩ := civilFromDays_bounds (show (t / 86400000).natAbs ≤ 100000001 by omega)
    generalize hdate : civilFromDays (t / 86400000) = date at h hyear hmonth hday
    obtain ⟨year, month, day⟩ := date
    dsimp only at hyear hmonth hday
    simp only [Option.some.injEq] at h
    subst h
    rw [String.toList_ofList]
    have hhours : (t % 86400000 / 3600000).natAbs < 10 ^ 2 := by omega
    have hminutes : (t % 86400000 / 60000 % 60).natAbs < 10 ^ 2 := by omega
    have hseconds : (t % 86400000 / 1000 % 60).natAbs < 10 ^ 2 := by omega
    have hmillis : (t % 86400000 % 1000).natAbs < 10 ^ 3 := by omega
    constructor
    · have hpadded : ∀ w n, ∀ c ∈ padded w n, c ∈ timeAlphabet := fun w n c hc => mem_padded hc
      have hyearText : ∀ c ∈ yearText year, c ∈ timeAlphabet := fun c hc => mem_yearText hc
      obtain ⟨hdash, htee, hcolon, hdot, hzed⟩ : '-' ∈ timeAlphabet ∧ 'T' ∈ timeAlphabet ∧ ':' ∈ timeAlphabet
          ∧ '.' ∈ timeAlphabet ∧ 'Z' ∈ timeAlphabet := by decide
      simp only [List.forall_mem_append, List.forall_mem_cons]
      exact ⟨⟨⟨⟨⟨⟨⟨hyearText, hdash, hpadded _ _⟩, hdash, hpadded _ _⟩, htee, hpadded _ _⟩, hcolon, hpadded _ _⟩,
        hcolon, hpadded _ _⟩, hdot, hpadded _ _⟩, hzed, fun _ hc => absurd hc List.not_mem_nil⟩
    · have h1 := length_yearText hyear
      have h2 := length_padded (w := 2) (by decide) (by decide) hmonth
      have h3 := length_padded (w := 2) (by decide) (by decide) hday
      have h4 := length_padded (w := 2) (by decide) (by decide) hhours
      have h5 := length_padded (w := 2) (by decide) (by decide) hminutes
      have h6 := length_padded (w := 2) (by decide) (by decide) hseconds
      have h7 := length_padded (w := 3) (by decide) (by decide) hmillis
      simp only [List.length_append, List.length_cons, List.length_nil]
      omega

end VentureOS
