import Mathlib.Algebra.Order.BigOperators.Group.List
import Mathlib.Algebra.Order.Group.Nat
import SecureGuard.Lib.TextLines
import SecureGuard.Native.IpRules

/-! # The lines of a list file

A list file is read through a buffer of 256 bytes, and what fits in it is taken for a line.
The results here say which files are read line by line. -/

namespace SecureGuard.Native
open CText TextLines

/-! ## What is tried -/

/-- What a round of the loop takes from the buffer: the rule, and what follows the first `'/'`. -/
def attempt? (read : Bytes) : Option (CStr × Option CStr) :=
  if isSkipped (itemOf read) then none else some (cutAt slash (lineOf read))

/-- What is tried from a whole file. -/
def attempts (content : Bytes) : List (CStr × Option CStr) :=
  (fgets 255 [] content).filterMap attempt?

namespace Loading

/-- A round of the loop from `ndpi_parse_ip_string` on. -/
def attempt (abi : Abi) (btype : BlacklistType) (st : Loading) : CStr × Option CStr → Loading
  | (buffer, suffix) =>
    let ip := ndpiParseIpString buffer
    if maxFileRules ≤ st.numOk then st.fail
    else match btype, ip with
      | .ip, none => st.fail
      | .ip, some addr =>
        let bits := bitsOf abi addr suffix
        if isInvalidIpv4 addr bits then st
        else st.account (st.bl.addIp addr (UInt8.ofInt bits))
      | .domain, some _ => st.fail
      | .domain, none => st.account (st.bl.addDomain buffer)
      | .uid, _ => st
      | .country, _ => st

/-- The address is refused without being counted. -/
def passesOver (abi : Abi) (btype : BlacklistType) (st : Loading) :
    CStr × Option CStr → Bool
  | (buffer, suffix) =>
    decide (st.numOk < maxFileRules) && btype == .ip &&
      (ndpiParseIpString buffer).any fun addr => isInvalidIpv4 addr (bitsOf abi addr suffix)

/-- How many addresses are refused so, one attempt after the other. -/
def passedOver (abi : Abi) (btype : BlacklistType) : Loading → List (CStr × Option CStr) → Nat
  | _, [] => 0
  | st, a :: as =>
    (st.passesOver abi btype a).toNat + (st.attempt abi btype a).passedOver abi btype as

theorem item_eq_attempt (abi : Abi) (btype : BlacklistType) (st : Loading) (read : Bytes) :
    st.item abi btype read = ((attempt? read).map (st.attempt abi btype)).getD st := by
  unfold item attempt?
  split
  · rfl
  · rfl

end Loading

/-- The loader does nothing but the attempts. -/
theorem loadFile_eq_attempts (abi : Abi) (btype : BlacklistType) (bl : Blacklist)
    (content : Bytes) :
    loadFile abi btype bl content =
      (attempts content).foldl (Loading.attempt abi btype) ⟨bl, 0, 0, 0⟩ := by
  rw [loadFile, attempts, List.foldl_filterMap]
  congr 1
  funext st read
  rw [Loading.item_eq_attempt]
  cases attempt? read <;> rfl

/-! ## What should be tried -/

/-- The rule in a line. -/
def ruleOf (l : Line) : CStr := (cutAt slash l.text).1

/-- Nothing is to be tried from an empty line or a comment. -/
def rule? (l : Line) : Option CStr :=
  if l.text = [] ∨ l.text.head? = some 35 then none else some (ruleOf l)

/-- One attempt is made for each line that holds a rule, no other, and each is counted once. -/
structure LineBased (abi : Abi) (btype : BlacklistType) (bl : Blacklist) (content : Bytes) :
    Prop where
  tried : (attempts content).map Prod.fst = (lines content).filterMap rule?
  counted : let st := loadFile abi btype bl content
    st.numOk + st.numDup + st.numFail +
      (⟨bl, 0, 0, 0⟩ : Loading).passedOver abi btype (attempts content) =
        (attempts content).length

/-- The line is read as a line: what does not fit in the buffer is skipped. -/
structure Fits (l : Line) : Prop where
  rest : ∀ k b, l.raw[255 * (k + 1)]? = some b → b = 0 ∨ b = 35
  empty : l.text = [] → l.raw = []
  rule : l.text.head? ≠ some 35 → (ruleOf l).length ≤ 255 ∧ ∀ b ∈ ruleOf l, b ≠ 0 ∧ b ≠ 13

/-! ## The counters -/

section Counters

variable (abi : Abi) {btype : BlacklistType}

/-- What the counters add up to. -/
def Loading.total (st : Loading) : Nat := st.numOk + st.numDup + st.numFail

theorem Loading.fail_total (st : Loading) : st.fail.total = st.total + 1 := rfl

theorem Loading.account_total (st : Loading) (r : Except Blacklist.Errno Blacklist) :
    (st.account r).total = st.total + 1 := by
  match r with
  | .ok _ | .error .addrInUse | .error .inval => simp only [account, total, fail]; omega

/-- An attempt is counted once, or is for an address that is passed over. -/
theorem Loading.attempt_total (hb : btype = .domain ∨ btype = .ip) (st : Loading)
    (a : CStr × Option CStr) :
    (st.attempt abi btype a).total + (st.passesOver abi btype a).toNat = st.total + 1 := by
  obtain ⟨buffer, suffix⟩ := a
  simp only [attempt, passesOver]
  by_cases hroom : maxFileRules ≤ st.numOk
  · rw [if_pos hroom, decide_eq_false (Nat.not_lt.mpr hroom), fail_total]
    rfl
  · rw [if_neg hroom, decide_eq_true (Nat.lt_of_not_le hroom)]
    cases hb with
    | inl hd =>
      subst hd
      cases ndpiParseIpString buffer with
      | none => rw [account_total]; rfl
      | some addr => rw [fail_total]; rfl
    | inr hip =>
      subst hip
      cases ndpiParseIpString buffer with
      | none => rw [fail_total]; rfl
      | some addr =>
        simp only [Option.any_some]
        cases isInvalidIpv4 addr (bitsOf abi addr suffix) with
        | true => rfl
        | false => rw [if_neg Bool.false_ne_true, account_total]; rfl

theorem Loading.foldl_total (hb : btype = .domain ∨ btype = .ip) (st : Loading)
    (as : List (CStr × Option CStr)) :
    (as.foldl (attempt abi btype) st).total + st.passedOver abi btype as =
      st.total + as.length := by
  induction as generalizing st with
  | nil => rfl
  | cons a as ih =>
    have hstep := attempt_total abi hb st a
    have hrun := ih (st.attempt abi btype a)
    simp only [List.foldl_cons, passedOver, List.length_cons]
    omega

end Counters

/-! ## What is read of a line -/

/-- The pieces of the lines of a text, the first line after what has been read already. -/
def piecesFrom (room : Nat) (read : Bytes) : List Line → List Bytes
  | [] => fgets room read []
  | l :: ls => fgets room read l.bytes ++ ls.flatMap fun l => fgets room [] l.bytes

theorem piecesFrom_nil (room : Nat) (ls : List Line) :
    piecesFrom room [] ls = ls.flatMap fun l => fgets room [] l.bytes := by
  cases ls with
  | nil => rfl
  | cons l ls => rfl

theorem piecesFrom_prepend (room : Nat) (read : Bytes) {c : UInt8} (h : c ≠ 10) (ls : List Line) :
    piecesFrom room read (prepend c h ls) =
      if c = 10 ∨ read.length + 1 = room then (read ++ [c]) :: piecesFrom room [] ls
      else piecesFrom room (read ++ [c]) ls := by
  cases ls with
  | nil => simp [prepend, piecesFrom, fgets]
  | cons l ls =>
    simp only [prepend, piecesFrom, Line.cons_bytes, fgets]
    split
    · rw [List.cons_append]
    · rfl

theorem fgets_eq_piecesFrom (room : Nat) (read content : Bytes) :
    fgets room read content = piecesFrom room read (lines content) := by
  induction content generalizing read with
  | nil => rfl
  | cons c content ih =>
    unfold lines
    split
    · next h =>
      rw [fgets, if_pos (.inl h), ih, piecesFrom_nil, h]
      simp [piecesFrom, Line.bytes, fgets]
    · next h =>
      rw [piecesFrom_prepend, fgets, ih, ih]

theorem fgets_lines (room : Nat) (content : Bytes) :
    fgets room [] content = (lines content).flatMap fun l => fgets room [] l.bytes := by
  rw [fgets_eq_piecesFrom, piecesFrom_nil]

/-- What is left of a line has its newline at the end too. -/
theorem newline_drop {bytes : Bytes} (hend : ∀ i, bytes[i]? = some 10 → i + 1 = bytes.length)
    (n : Nat) : ∀ i, (bytes.drop n)[i]? = some 10 → i + 1 = (bytes.drop n).length := by
  intro i hi
  rw [List.getElem?_drop] at hi
  have := hend _ hi
  rw [List.length_drop]
  omega

/-- A line is read in pieces that fill the buffer. -/
theorem fgets_cons {room k : Nat} {read bytes : Bytes} {c : UInt8}
    (hend : ∀ i, (c :: bytes)[i]? = some 10 → i + 1 = (c :: bytes).length)
    (hroom : read.length + (k + 1) = room) :
    fgets room read (c :: bytes) =
      (read ++ (c :: bytes).take (k + 1)) :: fgets room [] ((c :: bytes).drop (k + 1)) := by
  induction bytes generalizing c read k with
  | nil =>
    simp only [fgets]
    split
    · simp [fgets]
    · simp [fgets]
  | cons d bytes ih =>
    have hc : c ≠ 10 := by
      rintro rfl
      simpa using hend 0 rfl
    rw [fgets]
    cases k with
    | zero =>
      rw [if_pos (.inr (by omega))]
      rfl
    | succ k =>
      have hend' := newline_drop hend 1
      rw [if_neg (not_or.mpr ⟨hc, by omega⟩), ih hend' (k := k) (by simp; omega)]
      simp

theorem fgets_length {room : Nat} (read : Bytes) (hread : read.length < room) (content : Bytes) :
    ∀ piece ∈ fgets room read content, piece.length ≤ room := by
  induction content generalizing read with
  | nil =>
    intro piece hmem
    unfold fgets at hmem
    split at hmem
    · cases hmem
    · rw [List.mem_singleton.mp hmem]
      omega
  | cons c content ih =>
    intro piece hmem
    have hlen : (read ++ [c]).length = read.length + 1 := by simp
    unfold fgets at hmem
    split at hmem
    · obtain rfl | hmem := List.mem_cons.mp hmem
      · omega
      · exact ih [] (Nat.zero_lt_of_lt hread) piece hmem
    · next h => exact ih (read ++ [c]) (by omega) piece hmem

/-! ## What is tried from a line -/

/-- What is tried while a line is read. -/
def triedOf (l : Line) : List CStr := (attempts l.bytes).map Prod.fst

theorem attempts_lines (content : Bytes) :
    (attempts content).map Prod.fst = (lines content).flatMap triedOf := by
  rw [attempts, fgets_lines, List.filterMap_flatMap, List.map_flatMap]
  rfl

theorem attempt?_eq_none_iff {b : UInt8} {read : Bytes} :
    attempt? (b :: read) = none ↔ b = 0 ∨ b = 35 ∨ b = 10 := by
  unfold attempt? isSkipped itemOf
  by_cases hb : b = 0
  · simp [hb]
  · simp [hb, or_iff_not_imp_left]

/-- What can stand in a rule that is tried. -/
def isRuleByte (b : UInt8) : Bool := b != slash && b != 13 && b != 10 && b != 0

theorem attempt?_fst {read : Bytes} {a : CStr × Option CStr} (h : attempt? read = some a) :
    a.1 = read.takeWhile isRuleByte := by
  unfold attempt? at h
  split at h
  · cases h
  · obtain rfl := Option.some.inj h
    simp only [cutAt, lineOf, itemOf, List.takeWhile_takeWhile]
    congr 1
    funext b
    rw [Bool.eq_iff_iff]
    simp [isRuleByte, and_assoc]

theorem fgets_line (l : Line) :
    fgets 255 [] l.bytes = l.bytes.take 255 :: fgets 255 [] (l.bytes.drop 255) := by
  obtain ⟨b, bytes, hb⟩ := List.exists_cons_of_ne_nil l.bytes_ne_nil
  have hend : ∀ i, (b :: bytes)[i]? = some 10 → i + 1 = (b :: bytes).length := by
    rw [← hb]
    exact fun _ => Line.eq_of_newline
  rw [hb, fgets_cons (k := 254) hend (by simp), List.nil_append]

/-- No rule is tried that the buffer could not hold. -/
theorem mem_tried {content : Bytes} {rule : CStr}
    (h : rule ∈ (attempts content).map Prod.fst) :
    rule.length ≤ 255 ∧ ∀ b ∈ rule, isRuleByte b = true := by
  obtain ⟨a, ha, rfl⟩ := List.mem_map.mp h
  obtain ⟨read, hread, hattempt⟩ := List.mem_filterMap.mp ha
  have hlen := fgets_length [] (by decide) content read hread
  rw [attempt?_fst hattempt]
  exact ⟨Nat.le_trans (List.takeWhile_sublist _).length_le hlen,
    fun b hb => List.mem_takeWhile_imp hb⟩

/-- Nothing is tried from a text whose pieces all begin with a byte that skips them. -/
theorem attempts_eq_nil_iff (bytes : Bytes)
    (hend : ∀ i, bytes[i]? = some 10 → i + 1 = bytes.length) :
    attempts bytes = [] ↔ ∀ k b, bytes[255 * k]? = some b → b = 0 ∨ b = 35 ∨ b = 10 := by
  match bytes with
  | [] => simp [attempts, fgets]
  | c :: rest =>
    have ih := attempts_eq_nil_iff ((c :: rest).drop 255) (newline_drop hend 255)
    have htake : (c :: rest).take 255 = c :: rest.take 254 := rfl
    rw [attempts, fgets_cons (k := 254) hend (by simp), List.nil_append, htake]
    rw [List.filterMap_eq_nil_iff, List.forall_mem_cons, ← List.filterMap_eq_nil_iff, ← attempts,
      ih, attempt?_eq_none_iff]
    constructor
    · rintro ⟨hc, hrest⟩ k b hk
      cases k with
      | zero =>
        obtain rfl := Option.some.inj hk
        exact hc
      | succ k =>
        refine hrest k b ?_
        rw [List.getElem?_drop, ← hk]
        congr 1
        omega
    · intro h
      refine ⟨h 0 c rfl, fun k b hk => h (k + 1) b ?_⟩
      rw [List.getElem?_drop] at hk
      rw [← hk]
      congr 1
      omega
termination_by bytes.length

section Line

variable {l : Line}

theorem ruleOf_append (l : Line) : ∃ rest, l.bytes = ruleOf l ++ rest ∧
    ∀ b, rest.head? = some b → isRuleByte b = false := by
  obtain ⟨ending, hbytes, hending⟩ := l.exists_ending
  have htext := List.takeWhile_append_dropWhile (p := fun b => b != slash) (l := l.text)
  refine ⟨l.text.dropWhile (fun b => b != slash) ++ ending, ?_, fun b hb => ?_⟩
  · rw [← List.append_assoc, hbytes]
    exact congrArg (· ++ ending) htext.symm
  cases hdrop : l.text.dropWhile (fun b => b != slash) with
  | nil =>
    rw [hdrop, List.nil_append] at hb
    obtain rfl | rfl | rfl := hending
    · cases hb
    · obtain rfl := Option.some.inj hb
      rfl
    · obtain rfl := Option.some.inj hb
      rfl
  | cons c rest =>
    rw [hdrop] at hb
    obtain rfl := Option.some.inj hb
    have hc : (c != slash) = false := by
      have := List.head?_dropWhile_not (fun b => b != slash) l.text
      rw [hdrop] at this
      simpa using this
    simp [isRuleByte, hc]

theorem mem_ruleOf {b : UInt8} (h : b ∈ ruleOf l) : b ∈ l.text ∧ b ≠ slash :=
  ⟨(List.takeWhile_sublist _).subset h, by simpa using List.mem_takeWhile_imp h⟩

/-- A rule without a zero byte begins with what makes the loop try it. -/
theorem attempt?_line (hrule : rule? l ≠ none) (hzero : ∀ b ∈ ruleOf l, b ≠ 0) :
    attempt? (l.bytes.take 255) ≠ none := by
  unfold rule? at hrule
  split at hrule
  · exact absurd rfl hrule
  next hskip =>
  obtain ⟨hne, hcomment⟩ := not_or.mp hskip
  obtain ⟨ending, hbytes, -⟩ := l.exists_ending
  obtain ⟨b, text, htext⟩ := List.exists_cons_of_ne_nil hne
  have htake : l.bytes.take 255 = b :: (text ++ ending).take 254 := by
    rw [hbytes, htext]
    rfl
  rw [htake]
  refine fun h => ?_
  obtain rfl | rfl | rfl := attempt?_eq_none_iff.mp h
  · refine hzero 0 ?_ rfl
    rw [ruleOf, htext]
    exact List.mem_cons_self
  · exact hcomment (by rw [htext]; rfl)
  · exact l.newline_notMem_text (by rw [htext]; exact List.mem_cons_self)

/-- A rule that the buffer can hold is what is tried first. -/
theorem attempt?_line_fst {a : CStr × Option CStr} (h : attempt? (l.bytes.take 255) = some a)
    (hlen : (ruleOf l).length ≤ 255) (hbytes : ∀ b ∈ ruleOf l, b ≠ 0 ∧ b ≠ 13) :
    a.1 = ruleOf l := by
  obtain ⟨rest, hl, hrest⟩ := ruleOf_append l
  have hall : ∀ b ∈ ruleOf l, isRuleByte b = true := by
    intro b hb
    have hnewline : b ≠ 10 := by
      rintro rfl
      exact l.newline_notMem_text (mem_ruleOf hb).1
    simp [isRuleByte, hbytes b hb, (mem_ruleOf hb).2, hnewline]
  have hstop : (rest.take (255 - (ruleOf l).length)).takeWhile isRuleByte = [] := by
    cases rest with
    | nil => rw [List.take_nil, List.takeWhile_nil]
    | cons c rest =>
      have hc := hrest c rfl
      cases 255 - (ruleOf l).length with
      | zero => rfl
      | succ n => rw [List.take_succ_cons, List.takeWhile_cons, hc, if_neg Bool.false_ne_true]
  rw [attempt?_fst h, hl, List.take_append, List.take_of_length_le hlen,
    List.takeWhile_append_of_pos hall, hstop, List.append_nil]

/-- The pieces behind the first are skipped. -/
theorem attempts_rest_iff (l : Line) :
    attempts (l.bytes.drop 255) = [] ↔
      ∀ k b, l.raw[255 * (k + 1)]? = some b → b = 0 ∨ b = 35 := by
  have hend := newline_drop (fun _ => Line.eq_of_newline (l := l)) 255
  have hindex : ∀ k, 255 + 255 * k = 255 * (k + 1) := fun k => by omega
  rw [attempts_eq_nil_iff _ hend]
  simp only [List.getElem?_drop, hindex]
  constructor
  · intro h k b hk
    obtain hb | hb | rfl := h k b (Line.getElem?_raw hk)
    · exact .inl hb
    · exact .inr hb
    · exact absurd (List.mem_of_getElem? hk) l.noNewline
  · intro h k b hk
    obtain hraw | hb := Line.getElem?_bytes hk
    · exact (h k b hraw).imp_right .inl
    · exact .inr (.inr hb)

theorem triedOf_eq (l : Line) :
    triedOf l = ((attempt? (l.bytes.take 255)).map Prod.fst).toList ++
      (attempts (l.bytes.drop 255)).map Prod.fst := by
  rw [triedOf, attempts, fgets_line, List.filterMap_cons]
  cases attempt? (l.bytes.take 255) <;> rfl

theorem bytes_of_empty (hempty : l.text = []) (hraw : l.raw ≠ []) : l.bytes = [13, 10] := by
  obtain ⟨ending, hbytes, hending⟩ := l.exists_ending
  rw [hempty, List.nil_append] at hbytes
  obtain ⟨b, raw, hb⟩ := List.exists_cons_of_ne_nil hraw
  have hhead : l.bytes[0]? = some b := Line.getElem?_raw (by rw [hb]; rfl)
  obtain rfl | rfl | rfl := hending
  · exact absurd hbytes l.bytes_ne_nil
  · rw [hbytes] at hhead
    obtain rfl := Option.some.inj hhead
    exact absurd (by rw [hb]; exact List.mem_cons_self) l.noNewline
  · exact hbytes

theorem fits_of_raw_nil (hraw : l.raw = []) : Fits l := by
  have htext : l.text = [] := by simp [Line.text, hraw]
  refine ⟨fun k b hk => ?_, fun _ => hraw, fun _ => ?_⟩
  · rw [hraw] at hk
    cases hk
  · simp [ruleOf, cutAt, htext]

/-- An empty line is tried if it ends in a carriage return. -/
theorem triedOf_empty (hempty : l.text = []) : triedOf l = [] ↔ Fits l := by
  by_cases hraw : l.raw = []
  · have hended : l.ended = true := Bool.not_eq_false _ ▸ fun h => l.ne h hraw
    have hbytes : l.bytes = [10] := by rw [Line.bytes, hraw, hended]; rfl
    exact iff_of_true (by rw [triedOf, hbytes]; rfl) (fits_of_raw_nil hraw)
  · refine iff_of_false ?_ fun h => hraw (h.empty hempty)
    rw [triedOf, bytes_of_empty hempty hraw]
    exact List.cons_ne_nil _ _

/-- Of a comment the rest is tried. -/
theorem triedOf_comment (hcomment : l.text.head? = some 35) : triedOf l = [] ↔ Fits l := by
  obtain ⟨ending, hbytes, -⟩ := l.exists_ending
  obtain ⟨text, htext⟩ := List.head?_eq_some_iff.mp hcomment
  have hnone : attempt? (l.bytes.take 255) = none := by
    have htake : l.bytes.take 255 = 35 :: (text ++ ending).take 254 := by
      rw [hbytes, htext]
      rfl
    rw [htake, attempt?_eq_none_iff]
    exact .inr (.inl rfl)
  rw [triedOf_eq, hnone, Option.map_none, Option.toList_none, List.nil_append, List.map_eq_nil_iff,
    attempts_rest_iff]
  refine ⟨fun h => ⟨h, fun he => ?_, fun hne => absurd hcomment hne⟩, Fits.rest⟩
  rw [he] at hcomment
  cases hcomment

theorem triedOf_rule (hrule : rule? l = some (ruleOf l)) :
    triedOf l = [ruleOf l] ↔ Fits l := by
  have hskip : ¬(l.text = [] ∨ l.text.head? = some 35) := by
    intro h
    rw [rule?, if_pos h] at hrule
    cases hrule
  obtain ⟨hne, hcomment⟩ := not_or.mp hskip
  have hholds : (ruleOf l).length ≤ 255 → (∀ b ∈ ruleOf l, b ≠ 0 ∧ b ≠ 13) →
      (triedOf l = [ruleOf l] ↔ attempts (l.bytes.drop 255) = []) := by
    intro hlen hbytes
    obtain ⟨a, ha⟩ := Option.ne_none_iff_exists'.mp
      (attempt?_line (by rw [hrule]; nofun) fun b hb => (hbytes b hb).1)
    rw [triedOf_eq, ha, Option.map_some, Option.toList_some, attempt?_line_fst ha hlen hbytes]
    simp
  constructor
  · intro h
    have hmem : ruleOf l ∈ triedOf l := by
      rw [h]
      exact List.mem_cons_self
    obtain ⟨hlen, hall⟩ := mem_tried hmem
    have hbytes : ∀ b ∈ ruleOf l, b ≠ 0 ∧ b ≠ 13 := by
      intro b hb
      have := hall b hb
      simp only [isRuleByte, Bool.and_eq_true, bne_iff_ne] at this
      exact ⟨this.2, this.1.1.2⟩
    exact ⟨(attempts_rest_iff l).mp ((hholds hlen hbytes).mp h), fun he => absurd he hne,
      fun _ => ⟨hlen, hbytes⟩⟩
  · intro h
    obtain ⟨hlen, hbytes⟩ := h.rule hcomment
    exact (hholds hlen hbytes).mpr ((attempts_rest_iff l).mpr h.rest)

/-- From a line just its rule is tried exactly if the line fits. -/
theorem triedOf_eq_iff (l : Line) : triedOf l = (rule? l).toList ↔ Fits l := by
  by_cases hempty : l.text = []
  · rw [rule?, if_pos (.inl hempty)]
    exact triedOf_empty hempty
  by_cases hcomment : l.text.head? = some 35
  · rw [rule?, if_pos (.inr hcomment)]
    exact triedOf_comment hcomment
  have hrule : rule? l = some (ruleOf l) := if_neg (not_or.mpr ⟨hempty, hcomment⟩)
  rw [hrule]
  exact triedOf_rule hrule

end Line

/-! ## A whole file -/

/-- Two ways to take lists from the elements of a list give the same list only where they give
the same for each element, if one never gives less than the other. -/
theorem eq_of_flatMap_eq {α β : Type} {f g : α → List β} {ls : List α}
    (hle : ∀ l ∈ ls, (g l).length ≤ (f l).length) (h : ls.flatMap f = ls.flatMap g) :
    ∀ l ∈ ls, f l = g l := by
  induction ls with
  | nil => nofun
  | cons l ls ih =>
    have hrest : ∀ l ∈ ls, (g l).length ≤ (f l).length := fun l hl =>
      hle l (List.mem_cons_of_mem _ hl)
    have hsum : (ls.flatMap g).length ≤ (ls.flatMap f).length := by
      rw [List.length_flatMap, List.length_flatMap]
      exact List.sum_le_sum hrest
    have hhead := hle l List.mem_cons_self
    have hlen := congrArg List.length h
    simp only [List.flatMap_cons, List.length_append] at h hlen
    obtain ⟨he, ht⟩ := List.append_inj h (by omega)
    intro l' hl'
    obtain rfl | hl' := List.mem_cons.mp hl'
    · exact he
    · exact ih hrest ht l' hl'

/-- No rule is tried from a line for which none should be, and then none is missing. -/
theorem rule?_length_le {l : Line} (hzero : ∀ r, rule? l = some r → ∀ b ∈ r, b ≠ 0) :
    (rule? l).toList.length ≤ (triedOf l).length := by
  cases hrule : rule? l with
  | none => exact Nat.zero_le _
  | some r =>
    have hr : ruleOf l = r := by
      unfold rule? at hrule
      split at hrule
      · cases hrule
      · exact Option.some.inj hrule
    obtain ⟨a, ha⟩ := Option.ne_none_iff_exists'.mp
      (attempt?_line (by rw [hrule]; nofun) (hr ▸ hzero r hrule))
    rw [triedOf_eq, ha, Option.map_some, Option.toList_some, List.length_append]
    exact Nat.le_add_right _ _

theorem tried_eq_iff (content : Bytes) :
    (attempts content).map Prod.fst = (lines content).filterMap rule? ↔
      ∀ l ∈ lines content, Fits l := by
  rw [attempts_lines, List.filterMap_eq_flatMap_toList]
  constructor
  · intro h l hl
    rw [← triedOf_eq_iff]
    refine eq_of_flatMap_eq (fun l hl => rule?_length_le fun r hr b hb => ?_) h l hl
    have hmem : r ∈ (attempts content).map Prod.fst := by
      rw [attempts_lines, h]
      exact List.mem_flatMap.mpr ⟨l, hl, by rw [hr]; exact List.mem_cons_self⟩
    have hbyte := (mem_tried hmem).2 b hb
    simp only [isRuleByte, Bool.and_eq_true, bne_iff_ne] at hbyte
    exact hbyte.2
  · intro h
    exact List.flatMap_congr fun l hl => (triedOf_eq_iff l).mpr (h l hl)

/-- **A list file is read line by line** exactly if each of its lines fits. -/
theorem loadFile_lineBased_iff (abi : Abi) (btype : BlacklistType)
    (hb : btype = .domain ∨ btype = .ip) (bl : Blacklist) (content : Bytes) :
    LineBased abi btype bl content ↔ ∀ l ∈ lines content, Fits l := by
  rw [← tried_eq_iff]
  refine ⟨LineBased.tried, fun h => ⟨h, ?_⟩⟩
  have htotal := Loading.foldl_total abi hb ⟨bl, 0, 0, 0⟩ (attempts content)
  rw [loadFile_eq_attempts]
  simpa [Loading.total] using htotal

theorem hosts_lineBased_iff :
    LineBased .lp64 .domain Blacklist.init (cstr "# hosts\n\na.com\nb.com/\n") ↔
      ∀ l ∈ lines (cstr "# hosts\n\na.com\nb.com/\n"), Fits l :=
  loadFile_lineBased_iff .lp64 .domain (.inl rfl) Blacklist.init _

/-- From an empty line that ends in `"\r\n"` the empty rule is tried, and from a comment that
does not fit in the buffer what is read last. -/
theorem lines_tried_amiss :
    ¬LineBased .lp64 .domain Blacklist.init (cstr "\r\n") ∧
    ¬LineBased .lp64 .domain Blacklist.init (List.replicate 255 35 ++ cstr "a.com\n") ∧
    (loadFile .lp64 .domain Blacklist.init
      (List.replicate 255 35 ++ cstr "a.com\n")).numOk = 1 := by
  refine ⟨fun h => ?_, fun h => ?_, by decide +kernel⟩
  · have ht := h.tried
    revert ht
    decide +kernel
  · have ht := h.tried
    revert ht
    decide +kernel

end SecureGuard.Native
