import SecureGuard.Lib.Loops
import SecureGuard.Native.DnsReply

/-! # The reads of `process_dns_reply`

The same parser as the source has it: four loops over a pointer and a signed count of the bytes
left, with every offset of the payload that is read written down. `len` is an `int` that may
drop below zero between two tests of it. -/

namespace SecureGuard.Native

open Loops

/-- The locals of `process_dns_reply`, the offsets read so far and the addresses added. -/
structure Walk where
  reply : Nat
  len : Int
  reads : List Nat
  adds : List ZdtunIp

namespace Walk

/-- Read `n` bytes at offset `i`. -/
def read (w : Walk) (i n : Nat) : Walk :=
  { w with reads := w.reads ++ (List.range n).map (i + ·) }

/-- `reply += n; len -= n`. -/
def advance (w : Walk) (n : Nat) : Walk := { w with reply := w.reply + n, len := w.len - n }

/-- The address of a record is read and added to the cache. -/
def address (l7 : Nat → UInt8) (w : Walk) (recType addrLen : Nat) : Walk :=
  match recordAddr l7 recType addrLen w.reply with
  | some ip => { w.read w.reply addrLen with adds := w.adds ++ [ip] }
  | none => w

/-- The place of the cursor in terms of the parser without reads. -/
def cursor (w : Walk) : Cursor := ⟨w.reply, w.len.toNat⟩

end Walk

variable (l7 : Nat → UInt8)

/-- `while((len > 0) && (*reply != '\0'))`. -/
def questionNameRound (w : Walk) : Option (Walk ⊕ Walk) :=
  if 0 < w.len then
    let w := w.read w.reply 1
    if l7 w.reply ≠ 0 then some (.inl (w.advance 1)) else some (.inr w)
  else some (.inr w)

/-- `for(int i=0; (i<num_queries) && (len > 0); i++)`. -/
def queriesRound (fuel numQueries : Nat) : Nat × Walk → Option (Nat × Walk ⊕ Walk)
  | (i, w) =>
    if i < numQueries ∧ 0 < w.len then
      (loop (questionNameRound l7) fuel w).bind fun w => some (.inl (i + 1, w.advance 5))
    else some (.inr w)

/-- `while(len > 0)` over a record's name. -/
def nameRound (w : Walk) : Option (Walk ⊕ Walk) :=
  if 0 < w.len then
    let w := w.read w.reply 1
    if l7 w.reply = 0 then some (.inr (w.advance 1))
    else if l7 w.reply = 0xc0 then some (.inr (w.advance 2))
    else some (.inl (w.advance 1))
  else some (.inr w)

/-- One answer from the end of its name on; a `return` leaves the loop too. -/
def answerRound (i : Nat) (w : Walk) : Nat × Walk ⊕ Walk :=
  if w.len < 10 then .inr w
  else
    let recType := be16 l7 w.reply
    let addrLen := be16 l7 (w.reply + 8)
    let w := ((w.read w.reply 2).read (w.reply + 8) 2).advance 10
    if w.len < addrLen then .inr w
    else .inl (i + 1, (w.address l7 recType addrLen).advance addrLen)

/-- `for(int i=0; (i<num_replies) && (len > 0); i++)`. -/
def answersRound (fuel numReplies : Nat) : Nat × Walk → Option (Nat × Walk ⊕ Walk)
  | (i, w) =>
    if i < numReplies ∧ 0 < w.len then
      (loop (nameRound l7) fuel w).bind fun w => some (answerRound l7 i w)
    else some (.inr w)

/-- `process_dns_reply`: what it has read and added when it returns. -/
def dnsReplyWalk (query : CStr) (l7Len fuel : Nat) : Option Walk :=
  let w : Walk := ⟨dnsHeaderLen, l7Len - dnsHeaderLen, [], []⟩
  if query.isEmpty || !query.contains dot || l7Len < dnsHeaderLen then some w
  else
    let w := w.read 2 2
    if be16 l7 2 < 0x8000 then some w
    else
      let w := w.read 4 2
      if be16 l7 4 = 0 then some w
      else
        let w := w.read 6 2
        if be16 l7 6 = 0 then some w
        else
          (loop (queriesRound l7 fuel (be16 l7 4)) fuel (0, w)).bind fun w =>
            loop (answersRound l7 fuel (min (be16 l7 6) 32)) fuel (0, w)

/-! ## What the walk keeps -/

namespace Walk

@[simp] theorem read_reply (w : Walk) (i n : Nat) : (w.read i n).reply = w.reply := rfl
@[simp] theorem read_len (w : Walk) (i n : Nat) : (w.read i n).len = w.len := rfl
@[simp] theorem read_adds (w : Walk) (i n : Nat) : (w.read i n).adds = w.adds := rfl
@[simp] theorem advance_reply (w : Walk) (n : Nat) : (w.advance n).reply = w.reply + n := rfl
@[simp] theorem advance_len (w : Walk) (n : Nat) : (w.advance n).len = w.len - n := rfl
@[simp] theorem advance_adds (w : Walk) (n : Nat) : (w.advance n).adds = w.adds := rfl

theorem advance_len_le (w : Walk) (n : Nat) : (w.advance n).len ≤ w.len := by
  rw [advance_len]
  omega

/-- The pointer and the count add up to the payload's length, and nothing past it was read. -/
structure InBounds (l7Len : Nat) (w : Walk) : Prop where
  place : (w.reply : Int) + w.len = l7Len
  below : ∀ i ∈ w.reads, i < l7Len

variable {l7Len : Nat} {w : Walk}

theorem InBounds.read (h : w.InBounds l7Len) {i n : Nat} (hr : i + n ≤ l7Len) :
    (w.read i n).InBounds l7Len := by
  refine ⟨h.place, fun j hj => ?_⟩
  rcases List.mem_append.mp hj with hj | hj
  · exact h.below j hj
  · obtain ⟨k, hk, rfl⟩ := List.mem_map.mp hj
    have := List.mem_range.mp hk
    omega

theorem InBounds.len_lt (h : w.InBounds l7Len) {fuel : Nat} (hf : l7Len < fuel) :
    w.len.toNat < fuel := by
  have := h.place
  omega

theorem InBounds.advance (h : w.InBounds l7Len) (n : Nat) : (w.advance n).InBounds l7Len := by
  refine ⟨?_, h.below⟩
  have := h.place
  simp only [advance_reply, advance_len]
  omega

/-- Reading at the pointer is in bounds while the count allows for it. -/
theorem InBounds.read_here (h : w.InBounds l7Len) {k n : Nat} (hl : (k + n : Nat) ≤ w.len) :
    (w.read (w.reply + k) n).InBounds l7Len := by
  have := h.place
  exact h.read (by omega)

/-- An address has as many bytes as its record says. -/
theorem InBounds.address (h : w.InBounds l7Len) {recType addrLen : Nat} (hl : addrLen ≤ w.len) :
    (w.address l7 recType addrLen).InBounds l7Len := by
  unfold Walk.address
  split
  · have hr : (w.read w.reply addrLen).InBounds l7Len := h.read_here (k := 0) (by omega)
    exact ⟨hr.place, hr.below⟩
  · exact h

theorem address_reply (recType addrLen : Nat) :
    (w.address l7 recType addrLen).reply = w.reply := by
  unfold Walk.address
  split <;> rfl

theorem address_len (recType addrLen : Nat) : (w.address l7 recType addrLen).len = w.len := by
  unfold Walk.address
  split <;> rfl

theorem address_adds (recType addrLen : Nat) : (w.address l7 recType addrLen).adds =
    w.adds ++ (recordAddr l7 recType addrLen w.reply).toList := by
  unfold Walk.address
  split <;> rename_i h <;> simp [h]

end Walk

/-! ## One spec lemma for each loop -/

section

variable {l7Len fuel : Nat} {w : Walk}

/-- Both loops over a name end in bounds where the parser without reads ends, and have added
nothing. -/
structure NameRead (l7Len : Nat) (w w' : Walk) (c : Cursor) : Prop where
  inBounds : w'.InBounds l7Len
  adds : w'.adds = w.adds
  cursor : w'.cursor = c
  le : w'.len ≤ w.len

/-- A round over a name has stayed in it: `skip` finds the same end from where it is. -/
structure InName (l7Len : Nat) (skip : Nat → Nat → Cursor) (w v : Walk) : Prop where
  inBounds : v.InBounds l7Len
  adds : v.adds = w.adds
  skip_eq : skip v.reply v.len.toNat = skip w.reply w.len.toNat
  le : v.len ≤ w.len

/-- What a round over a name has to do. -/
def NameRound (l7Len : Nat) (skip : Nat → Nat → Cursor) (w : Walk) : Walk ⊕ Walk → Prop :=
  Round (InName l7Len skip w) (fun v => v.len.toNat)
    (fun w' => NameRead l7Len w w' (skip w.reply w.len.toNat)) w

/-- Such rounds read the name to its end. -/
theorem nameLoop_ends {round : Walk → Option (Walk ⊕ Walk)} {skip : Nat → Nat → Cursor}
    (hround : ∀ v, v.InBounds l7Len → Ends (round v) (NameRound l7Len skip v))
    (h : w.InBounds l7Len) (hf : l7Len < fuel) :
    Ends (loop round fuel w) fun w' => NameRead l7Len w w' (skip w.reply w.len.toNat) := by
  have hstart : InName l7Len skip w w := ⟨h, rfl, rfl, Int.le_refl _⟩
  refine loop_ends (μ := fun v => v.len.toNat) (fun v hv => ?_) fuel w hstart (h.len_lt hf)
  refine (hround v hv.inBounds).mono fun r hr => ?_
  cases r with
  | inl v' =>
    obtain ⟨hstay, hlt⟩ := hr
    exact ⟨⟨hstay.inBounds, hstay.adds.trans hv.adds, hstay.skip_eq.trans hv.skip_eq,
      Int.le_trans hstay.le hv.le⟩, hlt⟩
  | inr v' => exact ⟨hr.inBounds, hr.adds.trans hv.adds, hr.cursor.trans hv.skip_eq,
      Int.le_trans hr.le hv.le⟩

theorem questionNameRound_ends (hv : w.InBounds l7Len) :
    Ends (questionNameRound l7 w) (NameRound l7Len (skipQuestionName l7) w) := by
  by_cases hpos : 0 < w.len
  · have hr := hv.read_here (k := 0) (n := 1) (by omega)
    have hn : w.len.toNat = (w.len - 1).toNat + 1 := by omega
    by_cases he : l7 w.reply = 0
    · have hround : questionNameRound l7 w = some (.inr (w.read w.reply 1)) := by
        simp [questionNameRound, hpos, he]
      have hskip : skipQuestionName l7 w.reply w.len.toNat = w.cursor := by
        rw [hn, skipQuestionName, if_pos he, ← hn, Walk.cursor]
      rw [hround]
      exact Ends.some ⟨hr, rfl, hskip.symm, Int.le_refl _⟩
    · have hround : questionNameRound l7 w = some (.inl ((w.read w.reply 1).advance 1)) := by
        simp [questionNameRound, hpos, he]
      have hskip : skipQuestionName l7 w.reply w.len.toNat =
          skipQuestionName l7 (w.reply + 1) (w.len - 1).toNat := by
        rw [hn, skipQuestionName, if_neg he]
      rw [hround]
      exact Ends.some ⟨⟨hr.advance 1, rfl, hskip.symm, Walk.advance_len_le _ 1⟩, by simp; omega⟩
  · have hround : questionNameRound l7 w = some (.inr w) := by simp [questionNameRound, hpos]
    have hz : w.len.toNat = 0 := by omega
    have hskip : skipQuestionName l7 w.reply w.len.toNat = w.cursor := by
      rw [hz, skipQuestionName, Walk.cursor, hz]
    rw [hround]
    exact Ends.some ⟨hv, rfl, hskip.symm, Int.le_refl _⟩

theorem nameRound_ends (hv : w.InBounds l7Len) :
    Ends (nameRound l7 w) (NameRound l7Len (skipName l7) w) := by
  by_cases hpos : 0 < w.len
  · have hr := hv.read_here (k := 0) (n := 1) (by omega)
    have hn : w.len.toNat = (w.len - 1).toNat + 1 := by omega
    by_cases he : l7 w.reply = 0
    · have hround : nameRound l7 w = some (.inr ((w.read w.reply 1).advance 1)) := by
        simp [nameRound, hpos, he]
      have hskip : skipName l7 w.reply w.len.toNat = ⟨w.reply + 1, (w.len - 1).toNat⟩ := by
        rw [hn, skipName, if_pos he]
      rw [hround]
      exact Ends.some ⟨hr.advance 1, rfl, hskip.symm, Walk.advance_len_le _ 1⟩
    · by_cases hp : l7 w.reply = 0xc0
      · have hround : nameRound l7 w = some (.inr ((w.read w.reply 1).advance 2)) := by
          simp [nameRound, hpos, hp]
        have hskip : skipName l7 w.reply w.len.toNat = ⟨w.reply + 2, (w.len - 2).toNat⟩ := by
          have hc : (w.len - 2).toNat = (w.len - 1).toNat - 1 := by omega
          rw [hn, skipName, if_neg he, if_pos hp, hc]
        rw [hround]
        exact Ends.some ⟨hr.advance 2, rfl, hskip.symm, Walk.advance_len_le _ 2⟩
      · have hround : nameRound l7 w = some (.inl ((w.read w.reply 1).advance 1)) := by
          simp [nameRound, hpos, he, hp]
        have hskip : skipName l7 w.reply w.len.toNat =
            skipName l7 (w.reply + 1) (w.len - 1).toNat := by
          rw [hn, skipName, if_neg he, if_neg hp]
        rw [hround]
        exact Ends.some ⟨⟨hr.advance 1, rfl, hskip.symm, Walk.advance_len_le _ 1⟩, by simp; omega⟩
  · have hround : nameRound l7 w = some (.inr w) := by simp [nameRound, hpos]
    have hz : w.len.toNat = 0 := by omega
    have hskip : skipName l7 w.reply w.len.toNat = w.cursor := by
      rw [hz, skipName, Walk.cursor, hz]
    rw [hround]
    exact Ends.some ⟨hv, rfl, hskip.symm, Int.le_refl _⟩

theorem questionName_ends (h : w.InBounds l7Len) (hf : l7Len < fuel) :
    Ends (loop (questionNameRound l7) fuel w) fun w' =>
      NameRead l7Len w w' (skipQuestionName l7 w.reply w.len.toNat) :=
  nameLoop_ends (fun _ hv => questionNameRound_ends l7 hv) h hf

theorem name_ends (h : w.InBounds l7Len) (hf : l7Len < fuel) :
    Ends (loop (nameRound l7) fuel w) fun w' =>
      NameRead l7Len w w' (skipName l7 w.reply w.len.toNat) :=
  nameLoop_ends (fun _ hv => nameRound_ends l7 hv) h hf

/-- The questions are skipped in bounds, as far as the parser without reads skips them. -/
theorem queries_ends (numQueries : Nat) (h : w.InBounds l7Len) (hf : l7Len < fuel) :
    Ends (loop (queriesRound l7 fuel numQueries) fuel (0, w)) fun w' =>
      NameRead l7Len w w' (skipQueries l7 numQueries w.cursor) := by
  refine loop_ends (I := fun p => p.2.InBounds l7Len ∧ p.2.adds = w.adds ∧ p.2.len ≤ w.len ∧
    skipQueries l7 (numQueries - p.1) p.2.cursor = skipQueries l7 numQueries w.cursor)
    (μ := fun p => p.2.len.toNat) ?_ fuel (0, w) ⟨h, rfl, Int.le_refl _, rfl⟩ (h.len_lt hf)
  rintro ⟨i, v⟩ ⟨hv, ha, hl, hs⟩
  change v.len ≤ w.len at hl
  by_cases hgo : i < numQueries ∧ 0 < v.len
  · have hn : numQueries - i = numQueries - (i + 1) + 1 := by omega
    have hpos : v.cursor.len ≠ 0 := by simp only [Walk.cursor]; omega
    rw [hn, skipQueries, if_neg hpos] at hs
    rw [queriesRound, if_pos hgo]
    refine (questionName_ends l7 hv hf).bind ?_
    intro v' hv'
    have hc : (v'.advance 5).cursor = (skipQuestionName l7 v.reply v.len.toNat).skip 5 := by
      rw [← hv'.cursor]
      simp only [Walk.cursor, Cursor.skip, Walk.advance_reply, Walk.advance_len,
        Cursor.mk.injEq, true_and]
      omega
    have hle : v'.len ≤ v.len := hv'.le
    refine Ends.some ⟨⟨hv'.inBounds.advance 5, hv'.adds.trans ha, by simp; omega, ?_⟩, ?_⟩
    · rw [← hs, hc]
      rfl
    · show (v'.len - 5).toNat < v.len.toNat
      omega
  · rw [queriesRound, if_neg hgo]
    refine Ends.some ⟨hv, ha, ?_, hl⟩
    rw [← hs]
    cases hd : numQueries - i with
    | zero => rfl
    | succ d =>
      have hz : v.cursor.len = 0 := by simp only [Walk.cursor]; omega
      rw [skipQueries, if_pos hz]

/-- One answer after its name: in bounds, and it adds what the parser without reads finds in
it. -/
theorem answerRound_keeps {n i : Nat} {start : Int} {as : List ZdtunIp} (hv : w.InBounds l7Len)
    (hstart : w.len ≤ start)
    (hs : w.adds ++ (if w.len.toNat < 10 then []
      else if w.len.toNat - 10 < be16 l7 (w.reply + 8) then []
      else (recordAddr l7 (be16 l7 w.reply) (be16 l7 (w.reply + 8)) (w.reply + 10)).toList ++
        readAnswers l7 n ((w.cursor.skip 10).skip (be16 l7 (w.reply + 8)))) = as) :
    match answerRound l7 i w with
    | .inl p => p.1 = i + 1 ∧ p.2.InBounds l7Len ∧ p.2.len < start ∧
        p.2.adds ++ readAnswers l7 n p.2.cursor = as
    | .inr w' => w'.InBounds l7Len ∧ w'.adds = as := by
  by_cases hten : w.len < 10
  · have hround : answerRound l7 i w = .inr w := if_pos hten
    rw [if_pos (by omega), List.append_nil] at hs
    rw [hround]
    exact ⟨hv, hs⟩
  rw [if_neg (by omega)] at hs
  obtain ⟨u, hu⟩ : ∃ u, u = ((w.read w.reply 2).read (w.reply + 8) 2).advance 10 := ⟨_, rfl⟩
  have hb : u.InBounds l7Len := by
    rw [hu]
    exact ((hv.read_here (k := 0) (by omega)).read_here (k := 8) (by simp; omega)).advance 10
  have hadds : u.adds = w.adds := by rw [hu]; rfl
  have hreply : u.reply = w.reply + 10 := by rw [hu]; rfl
  have hul : u.len = w.len - 10 := by rw [hu]; rfl
  by_cases hlen : u.len < be16 l7 (w.reply + 8)
  · have hround : answerRound l7 i w = .inr u := by
      rw [answerRound, if_neg hten, ← hu]
      exact if_pos hlen
    rw [if_pos (by omega), List.append_nil] at hs
    rw [hround]
    exact ⟨hb, hadds.trans hs⟩
  · have hround : answerRound l7 i w = .inl (i + 1, (u.address l7 (be16 l7 w.reply)
        (be16 l7 (w.reply + 8))).advance (be16 l7 (w.reply + 8))) := by
      rw [answerRound, if_neg hten, ← hu]
      exact if_neg hlen
    rw [if_neg (by omega)] at hs
    rw [hround]
    refine ⟨rfl, (hb.address l7 (by omega)).advance _, ?_, ?_⟩
    · simp only [Walk.advance_len, Walk.address_len]
      omega
    · have hc : ((u.address l7 (be16 l7 w.reply) (be16 l7 (w.reply + 8))).advance
          (be16 l7 (w.reply + 8))).cursor = (w.cursor.skip 10).skip (be16 l7 (w.reply + 8)) := by
        simp only [Walk.cursor, Cursor.skip, Walk.advance_reply, Walk.advance_len,
          Walk.address_reply, Walk.address_len, Cursor.mk.injEq]
        omega
      rw [← hs, hc, Walk.advance_adds, Walk.address_adds, hadds, hreply, List.append_assoc]

/-- The answers are read in bounds, and add what the parser without reads finds. -/
theorem answers_ends (numReplies : Nat) (h : w.InBounds l7Len) (hf : l7Len < fuel) :
    Ends (loop (answersRound l7 fuel numReplies) fuel (0, w)) fun w' =>
      w'.InBounds l7Len ∧ w'.adds = w.adds ++ readAnswers l7 numReplies w.cursor := by
  refine loop_ends (I := fun p => p.2.InBounds l7Len ∧
    p.2.adds ++ readAnswers l7 (numReplies - p.1) p.2.cursor =
      w.adds ++ readAnswers l7 numReplies w.cursor)
    (μ := fun p => p.2.len.toNat) ?_ fuel (0, w) ⟨h, rfl⟩ (h.len_lt hf)
  rintro ⟨i, v⟩ ⟨hv, hs⟩
  by_cases hgo : i < numReplies ∧ 0 < v.len
  · have hn : numReplies - i = numReplies - (i + 1) + 1 := by omega
    have hpos : v.cursor.len ≠ 0 := by simp only [Walk.cursor]; omega
    rw [hn, readAnswers, if_neg hpos] at hs
    rw [answersRound, if_pos hgo]
    refine (name_ends l7 hv hf).bind ?_
    intro v' hv'
    have hc : skipName l7 v.cursor.reply v.cursor.len = v'.cursor := hv'.cursor.symm
    rw [hc, ← hv'.adds] at hs
    have hle : v'.len ≤ v.len := hv'.le
    have hround := answerRound_keeps l7 (i := i) hv'.inBounds hle hs
    refine Ends.some ?_
    revert hround
    cases answerRound l7 i v' with
    | inl p =>
      rintro ⟨hi, hb, hlt, ha⟩
      refine ⟨⟨hb, ?_⟩, ?_⟩
      · rw [hi]
        exact ha
      · show p.2.len.toNat < v.len.toNat
        omega
    | inr w' => exact id
  · rw [answersRound, if_neg hgo]
    refine Ends.some ⟨hv, ?_⟩
    rw [← hs]
    cases hd : numReplies - i with
    | zero => simp [readAnswers]
    | succ d =>
      have hz : v.cursor.len = 0 := by simp only [Walk.cursor]; omega
      rw [readAnswers, if_pos hz, List.append_nil]

end

/-! ## Whole replies -/

/-- For every payload and every header, with more fuel than there are bytes, the parser returns,
has read in bounds only, and has added the addresses of `dnsReplyAddrs`. -/
theorem dnsReplyWalk_ends (query : CStr) {l7Len fuel : Nat} (hf : l7Len < fuel) :
    Ends (dnsReplyWalk l7 query l7Len fuel) fun w => (∀ i ∈ w.reads, i < l7Len) ∧
      w.adds = if query.isEmpty || !query.contains dot || l7Len < dnsHeaderLen then []
        else dnsReplyAddrs l7 l7Len := by
  simp only [dnsReplyWalk]
  by_cases hg : (query.isEmpty || !query.contains dot || l7Len < dnsHeaderLen) = true
  · rw [if_pos hg, if_pos hg]
    exact Ends.some ⟨by simp, rfl⟩
  rw [if_neg hg, if_neg hg]
  have hge : ¬l7Len < dnsHeaderLen := fun hlt => hg (by simp [hlt])
  have hlen : 12 ≤ l7Len := Nat.le_of_not_lt hge
  have h0 : (⟨dnsHeaderLen, l7Len - dnsHeaderLen, [], []⟩ : Walk).InBounds l7Len :=
    ⟨by simp only [dnsHeaderLen]; omega, by simp⟩
  have h1 := h0.read (i := 2) (n := 2) (by omega)
  have h2 := h1.read (i := 4) (n := 2) (by omega)
  have h3 := h2.read (i := 6) (n := 2) (by omega)
  unfold dnsReplyAddrs
  by_cases hqr : be16 l7 2 < 0x8000
  · rw [if_pos hqr, if_neg (by omega)]
    exact Ends.some ⟨h1.below, rfl⟩
  rw [if_neg hqr]
  by_cases hq : be16 l7 4 = 0
  · rw [if_pos hq, if_neg (by simp [hq])]
    exact Ends.some ⟨h2.below, rfl⟩
  rw [if_neg hq]
  by_cases ha : be16 l7 6 = 0
  · rw [if_pos ha, if_neg (by simp [ha])]
    exact Ends.some ⟨h3.below, rfl⟩
  rw [if_neg ha, if_pos ⟨by omega, hq, ha⟩]
  refine (queries_ends l7 _ h3 hf).bind ?_
  intro w hw
  refine (answers_ends l7 _ hw.inBounds hf).mono ?_
  rintro w' ⟨hb, hadd⟩
  refine ⟨hb.below, ?_⟩
  have hc : (l7Len - dnsHeaderLen : Int).toNat = l7Len - dnsHeaderLen := by
    simp only [dnsHeaderLen]
    omega
  rw [hadd, hw.adds, hw.cursor, Walk.cursor, Walk.read_reply, Walk.read_len]
  simp [hc]

/-- What the parser adds is what `processDnsReply` adds. -/
theorem processDnsReply_eq_walk (lru : IpLru) (query : CStr) (pkt : Packet) :
    Ends (dnsReplyWalk pkt.l7 query pkt.l7Len (pkt.l7Len + 1)) fun w =>
      processDnsReply lru query pkt = w.adds.foldl (fun lru ip => lru.add ip query) lru := by
  refine (dnsReplyWalk_ends pkt.l7 query (Nat.lt_succ_self _)).mono ?_
  rintro w ⟨-, hadd⟩
  rw [hadd, processDnsReply]
  split <;> rfl

/-- `process_dns_reply` returns whatever the payload holds, and reads no byte past it. -/
theorem processDnsReply_in_bounds (query : CStr) (pkt : Packet) (fuel : Nat)
    (hf : pkt.l7Len < fuel) : ∃ w, dnsReplyWalk pkt.l7 query pkt.l7Len fuel = some w ∧
      ∀ i ∈ w.reads, i < pkt.l7Len := by
  obtain ⟨w, hw, hr, -⟩ := dnsReplyWalk_ends pkt.l7 query hf
  exact ⟨w, hw, hr⟩

/-- A reply that ends in the middle of its answer's name, after `www`. -/
def truncatedReply : Packet :=
  .opening ⟨0, 0, 53, 40000, .v4, .udp⟩
    ([0, 1, 0x81, 0x80, 0, 1, 0, 1, 0, 0, 0, 0] ++ [1, 97, 0, 0, 1, 0, 1] ++ [3, 119, 119, 119])

theorem truncatedReply_in_bounds :
    ∃ w, dnsReplyWalk truncatedReply.l7 [97, 46, 98] truncatedReply.l7Len 24 = some w ∧
      ∀ i ∈ w.reads, i < truncatedReply.l7Len :=
  processDnsReply_in_bounds [97, 46, 98] truncatedReply 24 (by decide)

end SecureGuard.Native
