import SecureGuard.Lib.NetworkOrder
import SecureGuard.Native.DnsReply

/-! # The scans of `process_dns_reply`

The parser in terms of the bytes still to read. It skips a name up to the next byte 0x00 or
0xc0 and a question up to the next zero byte, whatever the lengths of the labels are. -/

namespace SecureGuard.Native

open NetworkOrder

/-! ## The parser over the bytes left -/

/-- The bytes from the next zero byte on. -/
def toZero : List UInt8 → List UInt8
  | [] => []
  | b :: rest => if b = 0 then b :: rest else toZero rest

/-- What is left behind `n` questions. -/
def dropQuestions : (n : Nat) → List UInt8 → List UInt8
  | 0, bytes => bytes
  | n + 1, bytes => if bytes = [] then [] else dropQuestions n ((toZero bytes).drop 5)

/-- What is left behind a record's name. -/
def dropName : List UInt8 → List UInt8
  | [] => []
  | b :: rest => if b = 0 then rest else if b = 0xc0 then rest.drop 1 else dropName rest

/-- The number in the two bytes at offset `i`. -/
def wordAt (bytes : List UInt8) (i : Nat) : Nat := beNat ((bytes.drop i).take 2)

/-- The address in the data of a record. -/
def addrIn (recType addrLen : Nat) (data : List UInt8) : Option ZdtunIp :=
  if recType = 0x1 ∧ addrLen = 4 then some (BitVec.ofNat 128 (beNat (data.take 4) <<< 96))
  else if recType = 0x1c ∧ addrLen = 16 then some (BitVec.ofNat 128 (beNat (data.take 16)))
  else none

/-- The addresses of the next `n` answers. -/
def addrsIn : (n : Nat) → List UInt8 → List ZdtunIp
  | 0, _ => []
  | n + 1, bytes =>
    if bytes = [] then []
    else
      let body := dropName bytes
      if body.length < 10 then []
      else if body.length - 10 < wordAt body 8 then []
      else (addrIn (wordAt body 0) (wordAt body 8) (body.drop 10)).toList ++
        addrsIn n ((body.drop 10).drop (wordAt body 8))

theorem wordAt_append (a : List UInt8) {n : Nat} (h : n < 0x10000) (rest : List UInt8) :
    wordAt (a ++ u16 n ++ rest) a.length = n := by
  have ht : (u16 n ++ rest).take 2 = u16 n := by simp [u16]
  rw [wordAt, List.append_assoc, List.drop_left, ht, beNat_u16 h]

theorem wordAt_append_right (a b : List UInt8) (i : Nat) :
    wordAt (a ++ b) (a.length + i) = wordAt b i := by
  rw [wordAt, wordAt, ← List.drop_drop, List.drop_left]

/-- The cursor stands before these bytes, and they reach to the end of the payload. -/
structure Before (l7 : Nat → UInt8) (c : Cursor) (bytes : List UInt8) : Prop where
  len : c.len = bytes.length
  byte : ∀ i, (h : i < bytes.length) → l7 (c.reply + i) = bytes[i]

section

variable {l7 : Nat → UInt8} {c : Cursor} {bytes : List UInt8}

theorem Before.skip (h : Before l7 c bytes) (n : Nat) : Before l7 (c.skip n) (bytes.drop n) := by
  refine ⟨?_, fun i hi => ?_⟩
  · simp only [Cursor.skip, h.len, List.length_drop]
  · rw [List.length_drop] at hi
    have hb := h.byte (n + i) (by omega)
    rw [List.getElem_drop, ← hb, Cursor.skip, Nat.add_assoc]

theorem Before.nil (h : c.len = 0) : Before l7 c [] := ⟨h, fun _ hi => absurd hi (by simp)⟩

theorem Before.head {reply len : Nat} {b : UInt8} (h : Before l7 ⟨reply, len⟩ (b :: bytes)) :
    l7 reply = b := h.byte 0 (by simp)

theorem Before.tail {reply len : Nat} {b : UInt8} (h : Before l7 ⟨reply, len + 1⟩ (b :: bytes)) :
    Before l7 ⟨reply + 1, len⟩ bytes := by
  simpa [Cursor.skip] using h.skip 1

theorem Before.questionName {reply len : Nat} (h : Before l7 ⟨reply, len⟩ bytes) :
    Before l7 (skipQuestionName l7 reply len) (toZero bytes) := by
  induction bytes generalizing reply len with
  | nil =>
    obtain rfl : len = 0 := h.len
    exact h
  | cons b bytes ih =>
    obtain rfl : len = bytes.length + 1 := h.len
    rw [skipQuestionName, toZero, h.head]
    split
    · exact h
    · exact ih h.tail

theorem Before.queries (n : Nat) (h : Before l7 c bytes) :
    Before l7 (skipQueries l7 n c) (dropQuestions n bytes) := by
  induction n generalizing c bytes with
  | zero => exact h
  | succ n ih =>
    have hnil : c.len = 0 ↔ bytes = [] := by rw [h.len, List.length_eq_zero_iff]
    rw [skipQueries, dropQuestions]
    by_cases hz : bytes = []
    · rw [if_pos hz, if_pos (hnil.mpr hz), ← hz]
      exact h
    · rw [if_neg hz, if_neg (fun he => hz (hnil.mp he))]
      exact ih (h.questionName.skip 5)

theorem Before.name {reply len : Nat} (h : Before l7 ⟨reply, len⟩ bytes) :
    Before l7 (skipName l7 reply len) (dropName bytes) := by
  induction bytes generalizing reply len with
  | nil =>
    obtain rfl : len = 0 := h.len
    exact h
  | cons b bytes ih =>
    obtain rfl : len = bytes.length + 1 := h.len
    rw [skipName, dropName, h.head]
    split
    · exact h.tail
    · split
      · exact h.tail.skip 1
      · exact ih h.tail

/-- The bytes at the cursor, as a list. -/
theorem Before.take (h : Before l7 c bytes) {i n : Nat} (hle : i + n ≤ bytes.length) :
    (List.range n).map (fun k => l7 (c.reply + i + k)) = (bytes.drop i).take n := by
  refine List.ext_getElem (by simp; omega) fun k hk _ => ?_
  simp only [List.length_map, List.length_range] at hk
  have hb := h.byte (i + k) (by omega)
  simp only [List.getElem_map, List.getElem_range, List.getElem_take, List.getElem_drop, ← hb,
    Nat.add_assoc]

theorem beBytes_eq (l7 : Nat → UInt8) (i n : Nat) :
    beBytes l7 i n = beNat ((List.range n).map fun k => l7 (i + k)) := by
  rw [beBytes, beNat, List.foldl_map]

theorem be16_eq_beBytes (l7 : Nat → UInt8) (i : Nat) : be16 l7 i = beBytes l7 i 2 := by
  simp [be16, beBytes, List.range_succ]

theorem Before.be16 (h : Before l7 c bytes) {i : Nat} (hle : i + 2 ≤ bytes.length) :
    be16 l7 (c.reply + i) = wordAt bytes i := by
  rw [be16_eq_beBytes, beBytes_eq, h.take hle, wordAt]

theorem Before.recordAddr (h : Before l7 c bytes) (recType : Nat) {addrLen : Nat}
    (hle : addrLen ≤ bytes.length) :
    recordAddr l7 recType addrLen c.reply = addrIn recType addrLen bytes := by
  unfold Native.recordAddr addrIn
  split
  · rename_i hc
    have ht := h.take (i := 0) (n := 4) (by omega)
    rw [beBytes_eq, ← List.drop_zero (l := bytes), ← ht, Nat.add_zero]
  · split
    · rename_i hc
      have ht := h.take (i := 0) (n := 16) (by omega)
      rw [beBytes_eq, ← List.drop_zero (l := bytes), ← ht, Nat.add_zero]
    · rfl

theorem Before.answers (n : Nat) (h : Before l7 c bytes) :
    readAnswers l7 n c = addrsIn n bytes := by
  induction n generalizing c bytes with
  | zero => rfl
  | succ n ih =>
    have hnil : c.len = 0 ↔ bytes = [] := by rw [h.len, List.length_eq_zero_iff]
    rw [readAnswers, addrsIn]
    by_cases hz : bytes = []
    · rw [if_pos hz, if_pos (hnil.mpr hz)]
    rw [if_neg hz, if_neg (fun he => hz (hnil.mp he))]
    have hbody : Before l7 (skipName l7 c.reply c.len) (dropName bytes) := h.name
    generalize skipName l7 c.reply c.len = d at hbody ⊢
    generalize dropName bytes = body at hbody ⊢
    dsimp only
    rw [hbody.len]
    by_cases hten : body.length < 10
    · rw [if_pos hten, if_pos hten]
    have hdata := hbody.skip 10
    have hw0 := hbody.be16 (i := 0) (by omega)
    have hw8 := hbody.be16 (i := 8) (by omega)
    rw [Nat.add_zero] at hw0
    rw [if_neg hten, if_neg hten, hw0, hw8, hdata.len, List.length_drop]
    by_cases hlen : body.length - 10 < wordAt body 8
    · rw [if_pos hlen, if_pos hlen]
    · rw [if_neg hlen, if_neg hlen, hdata.recordAddr _ (by rw [List.length_drop]; omega),
        ih (hdata.skip _)]

end

/-! ## Where the parser's scans end -/

/-- The bytes behind a scan for the end of a name, if the scan ends in these bytes. -/
def scanName : List UInt8 → Option (List UInt8)
  | [] => none
  | b :: rest =>
    if b = 0 then some rest
    else if b = 0xc0 then (if rest = [] then none else some (rest.drop 1))
    else scanName rest

/-- The bytes behind `n` scans for the end of a question, if they all end in these bytes. -/
def scanQuestions : (n : Nat) → List UInt8 → Option (List UInt8)
  | 0, bytes => some bytes
  | n + 1, bytes =>
    if 5 ≤ (toZero bytes).length then scanQuestions n ((toZero bytes).drop 5) else none

/-- The scan of a name ends with it exactly if the first byte 0x00 or 0xc0 is its last one and
0x00, or the last but one and 0xc0. -/
theorem scanName_eq_nil_iff (bytes : List UInt8) : scanName bytes = some [] ↔
    ∃ first, (∀ b ∈ first, b ≠ 0 ∧ b ≠ 0xc0) ∧
      (bytes = first ++ [0] ∨ ∃ x, bytes = first ++ [0xc0, x]) := by
  induction bytes with
  | nil => simp [scanName]
  | cons b rest ih =>
    rw [scanName]
    by_cases h0 : b = 0
    · rw [if_pos h0]
      constructor
      · intro h
        exact ⟨[], by simp, .inl (by simp_all)⟩
      · rintro ⟨first, hf, he⟩
        cases first with
        | nil => simp_all
        | cons c first =>
          have hb : b = c :=
            he.elim (fun h => (List.cons.inj h).1) fun ⟨x, h⟩ => (List.cons.inj h).1
          exact absurd (hb ▸ h0) (hf c (by simp)).1
    · rw [if_neg h0]
      by_cases hc : b = 0xc0
      · rw [if_pos hc]
        constructor
        · intro h
          cases rest with
          | nil => simp at h
          | cons x rest => exact ⟨[], by simp, .inr ⟨x, by simp_all⟩⟩
        · rintro ⟨first, hf, he⟩
          cases first with
          | nil =>
            rcases he with he | ⟨x, he⟩
            · simp_all
            · simp_all
          | cons c first =>
            have hb : b = c :=
              he.elim (fun h => (List.cons.inj h).1) fun ⟨x, h⟩ => (List.cons.inj h).1
            exact absurd (hb ▸ hc) (hf c (by simp)).2
      · rw [if_neg hc, ih]
        constructor
        · rintro ⟨first, hf, he⟩
          refine ⟨b :: first, by simp_all, ?_⟩
          rcases he with rfl | ⟨x, rfl⟩
          · exact .inl rfl
          · exact .inr ⟨x, rfl⟩
        · rintro ⟨first, hf, he⟩
          cases first with
          | nil => simp_all
          | cons c first =>
            refine ⟨first, fun d hd => hf d (by simp [hd]), ?_⟩
            simpa using (he.imp (fun h => (List.cons.inj h).2)
              fun ⟨x, h⟩ => ⟨x, (List.cons.inj h).2⟩)

theorem dropName_length_le (bytes : List UInt8) : (dropName bytes).length ≤ bytes.length := by
  induction bytes with
  | nil => simp [dropName]
  | cons b rest ih =>
    rw [dropName, List.length_cons]
    split
    · omega
    · split
      · rw [List.length_drop]
        omega
      · omega

theorem toZero_length_le (bytes : List UInt8) : (toZero bytes).length ≤ bytes.length := by
  induction bytes with
  | nil => simp [toZero]
  | cons b rest ih =>
    rw [toZero, List.length_cons]
    split
    · rw [List.length_cons]
    · omega

theorem dropQuestions_length_le (n : Nat) (bytes : List UInt8) :
    (dropQuestions n bytes).length ≤ bytes.length := by
  induction n generalizing bytes with
  | zero => simp [dropQuestions]
  | succ n ih =>
    rw [dropQuestions]
    split
    · simp
    · have h1 := ih ((toZero bytes).drop 5)
      have h2 := toZero_length_le bytes
      rw [List.length_drop] at h1
      omega

/-- A scan that ends in these bytes ends there whatever follows them. -/
theorem dropName_append {bytes left : List UInt8} (h : scanName bytes = some left)
    (rest : List UInt8) : dropName (bytes ++ rest) = left ++ rest := by
  induction bytes with
  | nil => simp [scanName] at h
  | cons b bytes ih =>
    rw [scanName] at h
    rw [List.cons_append, dropName]
    split at h
    · rename_i h0
      rw [if_pos h0, Option.some.inj h]
    · rename_i h0
      rw [if_neg h0]
      split at h
      · rename_i hc
        rw [if_pos hc]
        cases bytes with
        | nil => simp at h
        | cons x bytes =>
          obtain rfl : bytes = left := by simpa using h
          rfl
      · rename_i hc
        rw [if_neg hc]
        exact ih h

/-- A scan that does not end in these bytes runs into what follows them. -/
theorem dropName_append_lt {bytes rest : List UInt8} (h : scanName bytes = none)
    (hr : rest ≠ []) : (dropName (bytes ++ rest)).length < rest.length := by
  have hpos := List.length_pos_of_ne_nil hr
  induction bytes with
  | nil =>
    obtain ⟨b, rest, rfl⟩ := List.exists_cons_of_ne_nil hr
    have hle := dropName_length_le rest
    rw [List.nil_append, dropName]
    split
    · rw [List.length_cons]
      omega
    · split
      · rw [List.length_drop, List.length_cons]
        omega
      · rw [List.length_cons]
        omega
  | cons b bytes ih =>
    rw [scanName] at h
    rw [List.cons_append, dropName]
    split at h
    · simp at h
    · rename_i h0
      rw [if_neg h0]
      split at h
      · rename_i hc
        rw [if_pos hc]
        split at h
        · rename_i hnil
          rw [hnil, List.nil_append, List.length_drop]
          omega
        · simp at h
      · rename_i hc
        rw [if_neg hc]
        exact ih h

theorem toZero_append (bytes rest : List UInt8) : toZero (bytes ++ rest) =
    if toZero bytes = [] then toZero rest else toZero bytes ++ rest := by
  induction bytes with
  | nil => simp [toZero]
  | cons b bytes ih =>
    rw [List.cons_append, toZero, toZero]
    split
    · simp
    · exact ih

theorem dropQuestions_append {n : Nat} {bytes left rest : List UInt8}
    (h : scanQuestions n bytes = some left) (hr : rest ≠ []) :
    dropQuestions n (bytes ++ rest) = left ++ rest := by
  induction n generalizing bytes with
  | zero => rw [dropQuestions, Option.some.inj h]
  | succ n ih =>
    rw [scanQuestions] at h
    split at h
    · rename_i h5
      have hz : toZero bytes ≠ [] := by
        intro he
        simp [he] at h5
      rw [dropQuestions, if_neg (by simp [hr]), toZero_append, if_neg hz,
        List.drop_append_of_le_length h5]
      exact ih h
    · simp at h

theorem dropQuestions_append_lt {n : Nat} {bytes rest : List UInt8}
    (h : scanQuestions n bytes = none) (hr : rest ≠ []) :
    (dropQuestions n (bytes ++ rest)).length < rest.length := by
  have hpos := List.length_pos_of_ne_nil hr
  induction n generalizing bytes with
  | zero => simp [scanQuestions] at h
  | succ n ih =>
    rw [scanQuestions] at h
    rw [dropQuestions, if_neg (by simp [hr]), toZero_append]
    split at h
    · rename_i h5
      have hz : toZero bytes ≠ [] := by
        intro he
        simp [he] at h5
      rw [if_neg hz, List.drop_append_of_le_length h5]
      exact ih h
    · rename_i h5
      have hle := dropQuestions_length_le n
        ((if toZero bytes = [] then toZero rest else toZero bytes ++ rest).drop 5)
      rw [List.length_drop] at hle
      have hrest := toZero_length_le rest
      split at hle
      · rename_i hz
        rw [if_pos hz]
        omega
      · rename_i hz
        rw [if_neg hz]
        rw [List.length_append] at hle
        omega

/-- Behind the questions and the first name, the parser is at its place exactly if the scans end
with these bytes. -/
theorem scans_of_length {n : Nat} {bytes rest : List UInt8} (hr : rest ≠ [])
    (h : (dropName (dropQuestions n (bytes ++ rest))).length = rest.length) :
    (scanQuestions n bytes).bind scanName = some [] := by
  cases hq : scanQuestions n bytes with
  | none =>
    have h1 := dropQuestions_append_lt hq hr
    have h2 := dropName_length_le (dropQuestions n (bytes ++ rest))
    omega
  | some left =>
    rw [dropQuestions_append hq hr] at h
    rw [Option.bind_some]
    cases hn : scanName left with
    | none =>
      have h1 := dropName_append_lt hn hr
      omega
    | some left' =>
      rw [dropName_append hn, List.length_append] at h
      rw [List.length_eq_zero_iff.mp (by omega : left'.length = 0)]

/-! ## Bytes the scans do not tell apart -/

/-- `f` walks over bytes other than 0x00 and 0xc0 without telling them apart: such a byte is left
with what follows it, or `f` has gone past it. -/
def Blind (f : List UInt8 → List UInt8) : Prop := ∀ before after,
  (∃ left, ∀ x, x ≠ 0 → x ≠ 0xc0 → f (before ++ x :: after) = left ++ x :: after) ∨
    ∃ left, ∀ x, x ≠ 0 → x ≠ 0xc0 → f (before ++ x :: after) = left

theorem Blind.comp {f g : List UInt8 → List UInt8} (hg : Blind g) (hf : Blind f) :
    Blind (fun bytes => g (f bytes)) := by
  intro before after
  rcases hf before after with ⟨left, h⟩ | ⟨left, h⟩
  · rcases hg left after with ⟨left', h'⟩ | ⟨left', h'⟩
    · exact .inl ⟨left', fun x h0 hc => (congrArg g (h x h0 hc)).trans (h' x h0 hc)⟩
    · exact .inr ⟨left', fun x h0 hc => (congrArg g (h x h0 hc)).trans (h' x h0 hc)⟩
  · exact .inr ⟨g left, fun x h0 hc => congrArg g (h x h0 hc)⟩

theorem blind_drop (n : Nat) : Blind (List.drop n) := by
  intro before after
  by_cases hn : n ≤ before.length
  · exact .inl ⟨before.drop n, fun x _ _ => List.drop_append_of_le_length hn⟩
  · refine .inr ⟨after.drop (n - before.length - 1), fun x _ _ => ?_⟩
    obtain ⟨k, hk⟩ : ∃ k, n = before.length + (k + 1) := ⟨n - before.length - 1, by omega⟩
    have hk' : before.length + (k + 1) - before.length = k + 1 := by omega
    rw [hk, List.drop_append, hk', List.drop_succ_cons, Nat.add_sub_cancel,
      List.drop_eq_nil_of_le (by omega), List.nil_append]

theorem blind_toZero : Blind toZero := by
  intro before after
  induction before with
  | nil => exact .inr ⟨toZero after, fun x h0 _ => by rw [List.nil_append, toZero, if_neg h0]⟩
  | cons b before ih =>
    by_cases hb : b = 0
    · exact .inl ⟨b :: before, fun x _ _ => by rw [List.cons_append, toZero, if_pos hb]⟩
    · simp only [List.cons_append, toZero, if_neg hb]
      exact ih

theorem blind_dropName : Blind dropName := by
  intro before after
  induction before with
  | nil =>
    exact .inr ⟨dropName after, fun x h0 hc => by
      rw [List.nil_append, dropName, if_neg h0, if_neg hc]⟩
  | cons b before ih =>
    by_cases hb : b = 0
    · exact .inl ⟨before, fun x _ _ => by rw [List.cons_append, dropName, if_pos hb]⟩
    · by_cases hp : b = 0xc0
      · simp only [List.cons_append, dropName, if_neg hb, if_pos hp]
        exact blind_drop 1 before after
      · simp only [List.cons_append, dropName, if_neg hb, if_neg hp]
        exact ih

theorem blind_dropQuestions (n : Nat) : Blind (dropQuestions n) := by
  induction n with
  | zero => exact fun before after => .inl ⟨before, fun x _ _ => rfl⟩
  | succ n ih =>
    intro before after
    have h := (ih.comp ((blind_drop 5).comp blind_toZero)) before after
    have hne : ∀ x, before ++ x :: after ≠ [] := by simp
    simpa only [dropQuestions, if_neg (hne _)] using h

end SecureGuard.Native
