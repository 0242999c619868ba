import Mathlib.Data.List.TakeWhile

/-! # Text in C

Byte strings as the C library reads them: `strchr`, `atoi` and `inet_pton`. -/

namespace CText

abbrev Bytes := List UInt8

def isDigit (c : UInt8) : Bool := 48 ≤ c && c ≤ 57

def isSpace (c : UInt8) : Bool := c == 32 || (9 ≤ c && c ≤ 13)

/-- What stands before the first `c`, and where there is one, what follows it. -/
def cutAt (c : UInt8) (s : Bytes) : Bytes × Option Bytes :=
  (s.takeWhile fun b => b != c,
    match s.dropWhile fun b => b != c with
    | [] => none
    | _ :: rest => some rest)

theorem cutAt_of_none {c : UInt8} {s : Bytes} (h : (cutAt c s).2 = none) :
    (cutAt c s).1 = s := by
  have hdrop : s.dropWhile (fun b => b != c) = [] := by
    unfold cutAt at h
    split at h
    · assumption
    · cases h
  have hsplit := List.takeWhile_append_dropWhile (p := fun b => b != c) (l := s)
  rwa [hdrop, List.append_nil] at hsplit

/-! ## Numbers -/

/-- The value of decimal digits. -/
def decimal (s : Bytes) : Nat := s.foldl (fun n c => 10 * n + (c.toNat - 48)) 0

/-- The two widths of a `long`. -/
inductive Abi
  | ilp32
  | lp64
  deriving DecidableEq, Repr

def Abi.longMax : Abi → Int
  | .ilp32 => 0x7FFFFFFF
  | .lp64 => 0x7FFFFFFFFFFFFFFF

/-- `strtol(s, NULL, 10)`: white space, a sign, digits. The result is cut to a `long`. -/
def strtol (abi : Abi) (s : Bytes) : Int :=
  match s.dropWhile isSpace with
  | 45 :: digits => max (-decimal (digits.takeWhile isDigit)) (-abi.longMax - 1)
  | 43 :: digits => min (decimal (digits.takeWhile isDigit)) abi.longMax
  | digits => min (decimal (digits.takeWhile isDigit)) abi.longMax

/-- `atoi`: the low 32 bits of the `long`. -/
def atoi (abi : Abi) (s : Bytes) : Int := (strtol abi s).bmod 0x100000000

theorem Abi.le_longMax (abi : Abi) : 0x7FFFFFFF ≤ abi.longMax := by
  cases abi <;> decide

theorem isSpace_of_isDigit {c : UInt8} (h : isDigit c = true) :
    isSpace c = false ∧ c ≠ 45 ∧ c ≠ 43 := by
  simp only [isDigit, Bool.and_eq_true, decide_eq_true_eq, UInt8.le_iff_toNat_le] at h
  have hlow : 48 ≤ c.toNat := h.1
  refine ⟨?_, ?_, ?_⟩
  · simp only [isSpace, Bool.or_eq_false_iff, Bool.and_eq_false_iff, decide_eq_false_iff_not,
      beq_eq_false_iff_ne, UInt8.le_iff_toNat_le, ne_eq]
    refine ⟨?_, Or.inr ?_⟩
    · rintro rfl
      simp at hlow
    · have : (13 : UInt8).toNat = 13 := rfl
      omega
  · rintro rfl
    simp at hlow
  · rintro rfl
    simp at hlow

/-- Digits are read as their value, where it fits. -/
theorem atoi_of_digits (abi : Abi) {s : Bytes} (h : s.all isDigit = true)
    (hfits : decimal s ≤ 0x7FFFFFFF) : atoi abi s = decimal s := by
  have htake : s.takeWhile isDigit = s :=
    List.takeWhile_eq_self_iff.mpr fun c hc => List.all_eq_true.mp h c hc
  have hmax := abi.le_longMax
  have hstrtol : strtol abi s = min (decimal s : Int) abi.longMax := by
    cases s with
    | nil => rfl
    | cons c s =>
      obtain ⟨hspace, hminus, hplus⟩ := isSpace_of_isDigit (List.all_eq_true.mp h c (by simp))
      rw [strtol, List.dropWhile_cons_of_neg (by simp [hspace])]
      split
      · next he => exact absurd (List.cons.inj he).1 hminus
      · next he => exact absurd (List.cons.inj he).1 hplus
      · rw [htake]
  rw [atoi, hstrtol, Int.min_eq_left (by omega)]
  exact Int.bmod_eq_of_le (by omega) (by omega)

/-! ## Addresses -/

/-- A number of an IPv4 address: up to three digits, at most 255. -/
def octet (s : Bytes) : Option Nat :=
  if 1 ≤ s.length ∧ s.length ≤ 3 ∧ s.all isDigit ∧ decimal s ≤ 255 then some (decimal s)
  else none

/-- `inet_pton(AF_INET, s)`, first byte most significant. -/
def inetPton4 (s : Bytes) : Option (BitVec 32) :=
  match (s.splitOn 46).mapM octet with
  | some [a, b, c, d] => some (BitVec.ofNat 32 (((a * 256 + b) * 256 + c) * 256 + d))
  | _ => none

def hexDigit (c : UInt8) : Option Nat :=
  if isDigit c then some (c.toNat - 48)
  else if 97 ≤ c ∧ c ≤ 102 then some (c.toNat - 87)
  else if 65 ≤ c ∧ c ≤ 70 then some (c.toNat - 55)
  else none

/-- A group of an IPv6 address: up to four hexadecimal digits. -/
def hexGroup (s : Bytes) : Option Nat :=
  if 1 ≤ s.length ∧ s.length ≤ 4 then
    (s.mapM hexDigit).map fun ds => ds.foldl (fun n d => 16 * n + d) 0
  else none

/-- The groups between colons; none at all where the text is empty. -/
def hexGroups (s : Bytes) : Option (List Nat) :=
  if s = [] then some [] else (s.splitOn 58).mapM hexGroup

/-- What stands before the first `::`, and where there is one, what follows it. -/
def cutDouble : Bytes → Bytes × Option Bytes
  | 58 :: 58 :: rest => ([], some rest)
  | c :: rest => (c :: (cutDouble rest).1, (cutDouble rest).2)
  | [] => ([], none)

/-- `inet_pton(AF_INET6, s)` of a text without dots: eight groups, or fewer about one `::`. -/
def inetPton6 (s : Bytes) : Option (BitVec 128) :=
  let address (groups : List Nat) := BitVec.ofNat 128 (groups.foldl (fun n g => 65536 * n + g) 0)
  match cutDouble s with
  | (_, none) => (hexGroups s).bind fun gs =>
    if gs.length = 8 then some (address gs) else none
  | (front, some back) => (hexGroups front).bind fun fs => (hexGroups back).bind fun bs =>
    if fs.length + bs.length ≤ 7 then
      some (address (fs ++ List.replicate (8 - (fs.length + bs.length)) 0 ++ bs))
    else none

end CText
