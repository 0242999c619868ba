import Mathlib.Data.List.Basic

/-! # The lines of a text

A text is its lines, one after the other. A line ends in a newline; the last one need not. -/

namespace TextLines

/-- A line, without its newline. Only a line that is not empty can be without one. -/
structure Line where
  raw : List UInt8
  ended : Bool
  noNewline : 10 ∉ raw
  ne : ended = false → raw ≠ []

namespace Line

variable {l : Line}

def bytes (l : Line) : List UInt8 := if l.ended then l.raw ++ [10] else l.raw

/-- The line without its ending, which is a newline or a carriage return and a newline. -/
def text (l : Line) : List UInt8 :=
  if l.ended ∧ l.raw.getLast? = some 13 then l.raw.dropLast else l.raw

def cons (c : UInt8) (h : c ≠ 10) (l : Line) : Line :=
  ⟨c :: l.raw, l.ended, by simp [h.symm, l.noNewline], fun _ => List.cons_ne_nil c l.raw⟩

theorem cons_bytes (c : UInt8) (h : c ≠ 10) (l : Line) : (l.cons c h).bytes = c :: l.bytes := by
  unfold bytes cons
  split <;> rfl

/-- A single byte, without a newline. -/
def single (c : UInt8) (h : c ≠ 10) : Line :=
  ⟨[c], false, by simp [h.symm], fun _ => List.cons_ne_nil c []⟩

@[simp] theorem single_bytes (c : UInt8) (h : c ≠ 10) : (single c h).bytes = [c] := rfl

theorem bytes_ne_nil (l : Line) : l.bytes ≠ [] := by
  unfold bytes
  split
  · simp
  · next h => exact l.ne (by simpa using h)

/-- A newline stands nowhere but at the end of a line. -/
theorem eq_of_newline {i : Nat} (h : l.bytes[i]? = some 10) : i + 1 = l.bytes.length := by
  have hraw : l.raw[i]? ≠ some 10 := fun hi => l.noNewline (List.mem_of_getElem? hi)
  unfold bytes at h ⊢
  cases hended : l.ended with
  | false =>
    rw [hended] at h
    exact absurd h hraw
  | true =>
    rw [hended, if_pos rfl] at h
    rw [if_pos rfl, List.length_append, List.length_singleton]
    obtain hlt | hle := Nat.lt_or_ge i l.raw.length
    · exact absurd (List.getElem?_append_left hlt ▸ h) hraw
    · have hi := (List.getElem?_eq_some_iff.mp h).1
      rw [List.length_append, List.length_singleton] at hi
      omega

/-- The byte at a position is one of the line, or its newline. -/
theorem getElem?_bytes {i : Nat} {b : UInt8} (h : l.bytes[i]? = some b) :
    l.raw[i]? = some b ∨ b = 10 := by
  unfold bytes at h
  split at h
  · obtain hlt | hle := Nat.lt_or_ge i l.raw.length
    · exact .inl (List.getElem?_append_left hlt ▸ h)
    · rw [List.getElem?_append_right hle] at h
      exact .inr (List.mem_singleton.mp (List.mem_of_getElem? h))
  · exact .inl h

theorem getElem?_raw {i : Nat} {b : UInt8} (h : l.raw[i]? = some b) : l.bytes[i]? = some b := by
  unfold bytes
  split
  · rw [List.getElem?_append_left (List.getElem?_eq_some_iff.mp h).1, h]
  · exact h

/-- What stands behind the text: nothing, or one of the endings. -/
theorem exists_ending (l : Line) :
    ∃ ending, l.bytes = l.text ++ ending ∧ (ending = [] ∨ ending = [10] ∨ ending = [13, 10]) := by
  unfold bytes text
  cases hended : l.ended with
  | false => exact ⟨[], by simp⟩
  | true =>
    by_cases hcr : l.raw.getLast? = some 13
    · refine ⟨[13, 10], ?_, .inr (.inr rfl)⟩
      obtain ⟨hne, hlast⟩ := List.getLast?_eq_some_iff.mp hcr
      simp [hlast]
    · exact ⟨[10], by simp [hcr]⟩

theorem newline_notMem_text (l : Line) : 10 ∉ l.text := by
  unfold text
  split
  · exact fun h => l.noNewline ((List.dropLast_sublist _).subset h)
  · exact l.noNewline

end Line

/-- A byte in front of the first line. -/
def prepend (c : UInt8) (h : c ≠ 10) : List Line → List Line
  | [] => [.single c h]
  | l :: ls => l.cons c h :: ls

def lines : List UInt8 → List Line
  | [] => []
  | c :: content =>
    if h : c = 10 then ⟨[], true, List.not_mem_nil, nofun⟩ :: lines content
    else prepend c h (lines content)

end TextLines
