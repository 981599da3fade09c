import Mathlib.Data.Int.Notation
import Mathlib.Algebra.Group.Int.Defs

/-!
# Decimal numbers

What is printed as a number reads back as that number. The reader takes more than
the printer writes: a plus sign and leading zeros. It refuses what does not fit 64
bits.
-/

namespace Text

/-- One digit or more, and nothing else. -/
def readNat (digits : List Char) : Option Nat :=
  if digits ≠ [] ∧ digits.all Char.isDigit then some (Nat.ofDigitChars 10 digits 0) else none

/-- Digits, maybe behind a sign. -/
def readInt : List Char → Option Int
  | '+' :: digits => (readNat digits).map Int.ofNat
  | '-' :: digits => (readNat digits).map fun n => -n
  | digits => (readNat digits).map Int.ofNat

/-- A number of 64 bits. -/
def atoi (s : String) : Option Int64 :=
  (readInt s.toList).bind fun n =>
    if -2 ^ 63 ≤ n ∧ n < 2 ^ 63 then some (Int64.ofInt n) else none

theorem readNat_toDigits (n : Nat) : readNat (Nat.toDigits 10 n) = some n := by
  have hdigits : (Nat.toDigits 10 n).all Char.isDigit = true :=
    List.all_eq_true.mpr fun c hc => Nat.isDigit_of_mem_toDigits (by decide) (by decide) hc
  rw [readNat, if_pos ⟨Nat.toDigits_ne_nil, hdigits⟩, Nat.ofDigitChars_toDigits]
  · decide
  · decide

/-- A digit is no sign. -/
theorem readInt_of_readNat {digits : List Char} {n : Nat} (hread : readNat digits = some n) :
    readInt digits = some (n : Int) := by
  unfold readInt
  split
  · rename_i rest
    simp [readNat] at hread
  · rename_i rest
    simp [readNat] at hread
  · simp [hread]

theorem toList_toString_natCast (n : Nat) : (toString (n : Int)).toList = Nat.toDigits 10 n :=
  Nat.toList_repr

theorem readInt_toString (n : Int) : readInt (toString n).toList = some n := by
  cases n with
  | ofNat n =>
      rw [Int.ofNat_eq_natCast, toList_toString_natCast]
      exact readInt_of_readNat (readNat_toDigits n)
  | negSucc n =>
      have hprint : (toString (Int.negSucc n)).toList = '-' :: Nat.toDigits 10 (n + 1) := by
        show ("-" ++ Nat.repr (n + 1)).toList = _
        rw [String.toList_append, Nat.toList_repr]
        rfl
      rw [hprint]
      simp only [readInt, readNat_toDigits]
      rfl

/-- A printed number reads back. -/
theorem atoi_toString (n : Int64) : atoi (toString n.toInt) = some n := by
  have hfits : -2 ^ 63 ≤ n.toInt ∧ n.toInt < 2 ^ 63 := ⟨n.le_toInt, n.toInt_lt⟩
  rw [atoi, readInt_toString, Option.bind_some, if_pos hfits, Int64.ofInt_toInt]

theorem atoi_toString_of_fits {n : Int} (hfits : -2 ^ 63 ≤ n ∧ n < 2 ^ 63) :
    ∃ read, atoi (toString n) = some read ∧ read.toInt = n := by
  refine ⟨Int64.ofInt n, ?_, Int64.toInt_ofInt_of_le hfits.1 hfits.2⟩
  rw [atoi, readInt_toString, Option.bind_some, if_pos hfits]

/-- What is printed of a number that is not negative has digits only. -/
theorem isDigit_of_mem_toString {n : Int} (hn : 0 ≤ n) {c : Char} (hc : c ∈ (toString n).toList) :
    c.isDigit = true := by
  obtain ⟨k, rfl⟩ := Int.eq_ofNat_of_zero_le hn
  rw [toList_toString_natCast] at hc
  exact Nat.isDigit_of_mem_toDigits (by decide) (by decide) hc

/-- A printed number has digits and a sign in it. -/
theorem notMem_toString_nat {c : Char} (hc : c.isDigit = false) (n : Nat) :
    c ∉ (toString n).toList := by
  intro hmem
  have hdigit := Nat.isDigit_of_mem_toDigits (by decide) (by decide)
    (show c ∈ Nat.toDigits 10 n from Nat.toList_repr ▸ hmem)
  simp [hc] at hdigit

theorem notMem_toString_int {c : Char} (hc : c.isDigit = false) (hsign : c ≠ '-') (n : Int) :
    c ∉ (toString n).toList := by
  cases n with
  | ofNat n => exact notMem_toString_nat hc n
  | negSucc n =>
      show c ∉ ("-" ++ toString (n + 1)).toList
      rw [String.toList_append, List.mem_append, not_or]
      exact ⟨by simpa using hsign, notMem_toString_nat hc (n + 1)⟩

end Text
