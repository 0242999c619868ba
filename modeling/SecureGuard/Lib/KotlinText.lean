import Mathlib.Data.List.DropRight
import Mathlib.Data.List.TakeWhile

/-! # Text in Kotlin

Digits, numbers and the ends of a text, as Kotlin's standard library has them. -/

namespace KotlinText

/-- The zeros of the decimal digits of Unicode, as far as one `Char` holds them. The other digits
of a script follow its zero. -/
def digitZeros : List Nat :=
  [0x30, 0x660, 0x6F0, 0x7C0, 0x966, 0x9E6, 0xA66, 0xAE6, 0xB66, 0xBE6, 0xC66, 0xCE6, 0xD66,
   0xDE6, 0xE50, 0xED0, 0xF20, 0x1040, 0x1090, 0x17E0, 0x1810, 0x1946, 0x19D0, 0x1A80, 0x1A90,
   0x1B50, 0x1BB0, 0x1C40, 0x1C50, 0xA620, 0xA8D0, 0xA900, 0xA9D0, 0xA9F0, 0xAA50, 0xABF0, 0xFF10]

def digitOf (c : Char) : Option Nat :=
  (digitZeros.find? fun z => z ≤ c.toNat && c.toNat < z + 10).map fun z => c.toNat - z

def isDigit (c : Char) : Bool := (digitOf c).isSome

/-- The number that digits stand for. -/
def number (digits : List Char) : Nat :=
  digits.foldl (fun n c => 10 * n + (digitOf c).getD 0) 0

/-- The number, where the text is digits and it does not pass the limit. -/
def numberUpTo (limit : Nat) (text : List Char) : Option Nat :=
  if text.all isDigit = true ∧ number text ≤ limit then some (number text) else none

def intMax : Nat := 2147483647

/-- `toIntOrNull`. What is less than `'0'` is taken for a sign. -/
def toIntOrNull : List Char → Option Int
  | [] => none
  | c :: rest =>
    if c < '0' then
      if rest = [] then none
      else if c = '-' then (numberUpTo (intMax + 1) rest).map fun n : Nat => -(n : Int)
      else if c = '+' then (numberUpTo intMax rest).map Int.ofNat
      else none
    else (numberUpTo intMax (c :: rest)).map Int.ofNat

/-- `trim(c)`. -/
def trim (c : Char) (text : List Char) : List Char :=
  (text.dropWhile fun d => d == c).rdropWhile fun d => d == c

theorem not_lt_of_isDigit {c : Char} (h : isDigit c = true) : ¬c < '0' := by
  obtain ⟨n, hn⟩ := Option.isSome_iff_exists.mp h
  obtain ⟨z, hz, -⟩ := Option.map_eq_some_iff.mp hn
  have hfound := List.find?_some hz
  rw [Bool.and_eq_true, decide_eq_true_eq] at hfound
  have hmin : ∀ z ∈ digitZeros, 48 ≤ z := by decide
  have hle : 48 ≤ c.toNat := (hmin z (List.mem_of_find?_eq_some hz)).trans hfound.1
  exact fun hlt => absurd (UInt32.lt_iff_toNat_lt.mp hlt) (Nat.not_lt.mpr hle)

/-- Digits are a number, where an `Int` can hold it. -/
theorem toIntOrNull_digits {text : List Char} (hne : text ≠ [])
    (h : ∀ c ∈ text, isDigit c = true) :
    toIntOrNull text = if number text ≤ intMax then some (number text : Int) else none := by
  obtain ⟨c, rest, rfl⟩ := List.exists_cons_of_ne_nil hne
  rw [toIntOrNull, if_neg (not_lt_of_isDigit (h c List.mem_cons_self)), numberUpTo]
  simp only [List.all_eq_true.mpr h, true_and]
  split <;> rfl

/-- A text that neither begins nor ends with `c` is left as it is. -/
theorem trim_eq_self {c : Char} {text : List Char} (hfirst : text.head? ≠ some c)
    (hlast : text.getLast? ≠ some c) : trim c text = text := by
  have hdrop : text.dropWhile (fun d => d == c) = text := by
    cases text with
    | nil => rfl
    | cons d text =>
      rw [List.dropWhile_cons, if_neg]
      simpa using hfirst
  rw [trim, hdrop, List.rdropWhile_eq_self_iff]
  intro hne
  rw [List.getLast?_eq_some_getLast hne] at hlast
  simpa using hlast

end KotlinText
