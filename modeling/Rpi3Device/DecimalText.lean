import Mathlib.Data.List.TakeWhile
import Mathlib.Tactic

/-!
# Decimal numbers in texts

A decimal number is written with digits, after blanks and at most one sign. `strtol` reads the
longest such beginning of a text, for a `long` of a given width: a number out of its range is
read as the nearest end of the range, and a text that does not begin with a number is read as
zero with nothing consumed.
-/

namespace Rpi3Device.DecimalText

def isSpace (c : Char) : Bool := c = ' ' || (9 ≤ c.toNat && c.toNat ≤ 13)

def digitsValue (digits : List Char) : ℕ :=
  digits.foldl (fun n c => n * 10 + (c.toNat - 48)) 0

def takeSign : List Char → Bool × List Char
  | '-' :: text => (true, text)
  | '+' :: text => (false, text)
  | text => (false, text)

def signed (negative : Bool) (n : ℕ) : ℤ := if negative then -(n : ℤ) else n

/-- The nearest number that a signed integer of `bits` bits can hold. -/
def saturate (bits : ℕ) (z : ℤ) : ℤ := max (-2 ^ (bits - 1)) (min (2 ^ (bits - 1) - 1) z)

/-- The number that is read, and the text behind it. -/
def strtol (bits : ℕ) (text : List Char) : ℤ × List Char :=
  let body := takeSign (text.dropWhile isSpace)
  let digits := body.2.takeWhile Char.isDigit
  if digits = [] then (0, text)
  else (saturate bits (signed body.1 (digitsValue digits)), body.2.dropWhile Char.isDigit)

def IsDecimal (text : List Char) (z : ℤ) : Prop :=
  ∃ blanks body negative digits, text = blanks ++ body ∧ (∀ c ∈ blanks, isSpace c = true) ∧
    (body = digits ∧ negative = false ∨ body = '+' :: digits ∧ negative = false ∨
      body = '-' :: digits ∧ negative = true) ∧
      digits ≠ [] ∧ (∀ c ∈ digits, c.isDigit = true) ∧ z = signed negative (digitsValue digits)

section Text
variable {bits : ℕ} {text digits : List Char} {z : ℤ}

theorem isSpace_of_isDigit {c : Char} (h : c.isDigit = true) : isSpace c = false := by
  have hlow : 48 ≤ c.toNat := by
    simp only [Char.isDigit, Bool.and_eq_true, decide_eq_true_eq, UInt32.le_iff_toNat_le] at h
    exact h.1
  have hne : c ≠ ' ' := by
    intro heq
    rw [heq] at hlow
    exact absurd hlow (by decide)
  have hhigh : ¬c.toNat ≤ 13 := by omega
  simp [isSpace, hne, hhigh]

theorem takeSign_digits (h : ∀ c ∈ digits, c.isDigit = true) :
    takeSign digits = (false, digits) := by
  match digits with
  | [] => rfl
  | c :: digits =>
    have hdigit := h c List.mem_cons_self
    have hminus : c ≠ '-' := by
      intro heq
      simp [heq] at hdigit
    have hplus : c ≠ '+' := by
      intro heq
      simp [heq] at hdigit
    simp [takeSign, hminus, hplus]

theorem strtol_of_isDecimal (h : IsDecimal text z) : strtol bits text = (saturate bits z, []) := by
  obtain ⟨blanks, body, negative, digits, rfl, hblanks, hbody, hne, hdigits, rfl⟩ := h
  have htake : takeSign body = (negative, digits) := by
    rcases hbody with ⟨rfl, rfl⟩ | ⟨rfl, rfl⟩ | ⟨rfl, rfl⟩
    · exact takeSign_digits hdigits
    · rfl
    · rfl
  have hbegin : body.dropWhile isSpace = body := by
    obtain ⟨first, rest, rfl⟩ := List.exists_cons_of_ne_nil hne
    have hfirst := isSpace_of_isDigit (hdigits first List.mem_cons_self)
    rcases hbody with ⟨rfl, rfl⟩ | ⟨rfl, rfl⟩ | ⟨rfl, rfl⟩
    · simp [hfirst]
    · rfl
    · rfl
  have hdrop : (blanks ++ body).dropWhile isSpace = body := by
    rw [List.dropWhile_append_of_pos hblanks, hbegin]
  have hwhole : digits.takeWhile Char.isDigit = digits := List.takeWhile_eq_self_iff.mpr hdigits
  have hnone : digits.dropWhile Char.isDigit = [] := List.dropWhile_eq_nil_iff.mpr hdigits
  simp only [strtol, hdrop, htake, hwhole, hnone, if_neg hne]

end Text

theorem saturate_eq_self {bits : ℕ} {z : ℤ} (hlow : -2 ^ (bits - 1) ≤ z)
    (hhigh : z < 2 ^ (bits - 1)) : saturate bits z = z := by
  unfold saturate
  omega

example : strtol 32 " 640".toList = (640, []) := by decide +kernel

example : strtol 32 "4294967936".toList = (2 ^ 31 - 1, []) := by decide +kernel

end Rpi3Device.DecimalText
