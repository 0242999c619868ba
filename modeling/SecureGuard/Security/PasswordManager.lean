import SecureGuard.Lib.Machine

/-! # The administrator's password

`PasswordManager` counts failed attempts in a row and refuses to compare a password while a
lockout is open, whose length grows with the count. Both the count and the time of the last
failure are kept in the preferences, and the time is the wall clock's, which may be set. -/

namespace SecureGuard.Security
open Machine

variable {Password Hash : Type}

/-! ## The lockout -/

/-- The preferences of the password. -/
structure Prefs (Hash : Type) where
  passwordHash : Option Hash
  failedAttempts : Int32
  lastFailureAt : Int64
deriving DecidableEq, Repr

def lockoutDurationMs (attempts : Int32) : Int64 :=
  if attempts < 3 then 0
  else if attempts < 5 then 30000
  else if attempts < 7 then 5 * 60000
  else if attempts < 10 then 30 * 60000
  else 60 * 60000

namespace Prefs

variable (p : Prefs Hash)

def getLockoutSecondsRemaining (currentTimeMillis : Int64) : Int64 :=
  let lockoutMs := lockoutDurationMs p.failedAttempts
  if lockoutMs ≤ 0 then 0
  else
    let elapsed := currentTimeMillis - p.lastFailureAt
    if lockoutMs ≤ elapsed ∨ elapsed < 0 then 0 else ((lockoutMs - elapsed) + 999) / 1000

def recordFailure (currentTimeMillis : Int64) : Prefs Hash :=
  { p with failedAttempts := p.failedAttempts + 1, lastFailureAt := currentTimeMillis }

def resetLockout : Prefs Hash := { p with failedAttempts := 0, lastFailureAt := 0 }

/-- The clock shows a time of the lockout. -/
def isOpen (currentTimeMillis : Int64) : Prop :=
  0 ≤ currentTimeMillis - p.lastFailureAt ∧
    currentTimeMillis - p.lastFailureAt < lockoutDurationMs p.failedAttempts

end Prefs

theorem lockoutDurationMs_range (attempts : Int32) :
    0 ≤ (lockoutDurationMs attempts).toInt ∧ (lockoutDurationMs attempts).toInt ≤ 3600000 := by
  unfold lockoutDurationMs
  split
  · decide
  split
  · decide
  split
  · decide
  split <;> decide

/-- Milliseconds left are rounded up to seconds. -/
theorem secondsLeft_pos {lockoutMs elapsed : Int64} (hlow : 0 ≤ elapsed.toInt)
    (hlt : elapsed.toInt < lockoutMs.toInt) (hmax : lockoutMs.toInt ≤ 3600000) :
    0 < ((lockoutMs - elapsed) + 999) / 1000 := by
  have hsub : (lockoutMs - elapsed).toInt = lockoutMs.toInt - elapsed.toInt := by
    rw [Int64.toInt_sub]
    exact Int.bmod_eq_of_le (by omega) (by omega)
  have hadd : (lockoutMs - elapsed + 999).toInt = lockoutMs.toInt - elapsed.toInt + 999 := by
    have h999 : (999 : Int64).toInt = 999 := rfl
    rw [Int64.toInt_add, hsub, h999]
    exact Int.bmod_eq_of_le (by omega) (by omega)
  have h1000 : (1000 : Int64).toInt = 1000 := rfl
  have hzero : (0 : Int64).toInt = 0 := rfl
  rw [Int64.lt_iff_toInt_lt, Int64.toInt_div_of_ne_right _ _ (by decide), hadd, h1000, hzero,
    Int.tdiv_eq_ediv_of_nonneg (by omega)]
  omega

/-- There is time remaining exactly while the lockout is open. -/
theorem getLockoutSecondsRemaining_pos_iff (p : Prefs Hash) (now : Int64) :
    0 < p.getLockoutSecondsRemaining now ↔ p.isOpen now := by
  obtain ⟨-, hmax⟩ := lockoutDurationMs_range p.failedAttempts
  have hzero : (0 : Int64).toInt = 0 := rfl
  simp only [Prefs.getLockoutSecondsRemaining, Prefs.isOpen]
  generalize lockoutDurationMs p.failedAttempts = lockoutMs at hmax ⊢
  generalize now - p.lastFailureAt = elapsed
  simp only [Int64.le_iff_toInt_le, Int64.lt_iff_toInt_lt (x := elapsed), hzero]
  split
  · next hnone =>
    refine iff_of_false (by decide) fun h => ?_
    omega
  · split
    · next hout =>
      refine iff_of_false (by decide) fun h => ?_
      omega
    · next hin => exact iff_of_true (secondsLeft_pos (by omega) (by omega) hmax) (by omega)

/-- A time from the last failure on, and before the end of the lockout, is in it, wherever the
clock stood in between. -/
theorem isOpen_of_range {p : Prefs Hash} {now : Int64}
    (hlow : p.lastFailureAt.toInt ≤ now.toInt)
    (hhigh : now.toInt < p.lastFailureAt.toInt + (lockoutDurationMs p.failedAttempts).toInt) :
    p.isOpen now := by
  obtain ⟨-, hmax⟩ := lockoutDurationMs_range p.failedAttempts
  have hzero : (0 : Int64).toInt = 0 := rfl
  have hsub : (now - p.lastFailureAt).toInt = now.toInt - p.lastFailureAt.toInt := by
    rw [Int64.toInt_sub]
    exact Int.bmod_eq_of_le (by omega) (by omega)
  rw [Prefs.isOpen, Int64.le_iff_toInt_le, Int64.lt_iff_toInt_lt, hsub, hzero]
  omega

/-! ## Verifying a password -/

/-- What a call came to; a failure keeps the time it was recorded at. -/
inductive Outcome
  | denied
  | notSet
  | verified
  | failed (recordedAt : Int64)
  | renewed
deriving DecidableEq, Repr

/-- The password was compared with the stored hash. -/
def Outcome.compared : Outcome → Bool
  | .verified => true
  | .failed _ => true
  | _ => false

/-- `verifyPassword`, whose clock shows `checked` at the check of the lockout and `recorded`
where a failure is recorded. BCrypt's answer is `verify`. -/
def Prefs.verifyPassword (verify : Password → Hash → Bool) (p : Prefs Hash) (password : Password)
    (checked recorded : Int64) : Prefs Hash × Outcome :=
  if 0 < p.getLockoutSecondsRemaining checked then (p, .denied)
  else match p.passwordHash with
    | none => (p, .notSet)
    | some hash =>
      if verify password hash then (p.resetLockout, .verified)
      else (p.recordFailure recorded, .failed recorded)

/-- `createAndSavePassword`, with the hash that BCrypt made of the password. -/
def Prefs.createAndSavePassword (p : Prefs Hash) (hash : Hash) : Prefs Hash :=
  { p with passwordHash := some hash }.resetLockout

inductive Input (Password Hash : Type)
  | verifyPassword (password : Password) (checked recorded : Int64)
  | createAndSavePassword (hash : Hash)
deriving DecidableEq, Repr

def Prefs.respond (verify : Password → Hash → Bool) (p : Prefs Hash) :
    Input Password Hash → Prefs Hash × Outcome
  | .verifyPassword password checked recorded => p.verifyPassword verify password checked recorded
  | .createAndSavePassword hash => (p.createAndSavePassword hash, .renewed)

/-! ## Failures in a row -/

/-- The failures since the last correct or new password, and the time of the last of them,
counted from what the calls came to. -/
structure Tally where
  failures : Nat
  lastFailure : Int64
deriving DecidableEq, Repr

def Tally.note (t : Tally) : Outcome → Tally
  | .denied => t
  | .notSet => t
  | .verified => ⟨0, 0⟩
  | .failed recordedAt => ⟨t.failures + 1, recordedAt⟩
  | .renewed => ⟨0, 0⟩

/-- The preferences, and the tally of the run so far. -/
structure Device (Hash : Type) where
  prefs : Prefs Hash
  tally : Tally
deriving DecidableEq, Repr

def Device.init : Device Hash where
  prefs := { passwordHash := none, failedAttempts := 0, lastFailureAt := 0 }
  tally := { failures := 0, lastFailure := 0 }

def Device.step (verify : Password → Hash → Bool) (s : Device Hash) (i : Input Password Hash) :
    Device Hash :=
  ⟨(s.prefs.respond verify i).1, s.tally.note (s.prefs.respond verify i).2⟩

/-- The stored count and time are those of the tally. -/
structure Device.Counts (s : Device Hash) : Prop where
  failures : s.prefs.failedAttempts = Int32.ofNat s.tally.failures
  lastFailure : s.prefs.lastFailureAt = s.tally.lastFailure

/-- A password is compared after three failures in a row only once the lockout is over, or at
a time before the last failure; and only a correct or a new password ends the row. The count
is a machine number, so rows are those it can hold. -/
def Locks (verify : Password → Hash → Bool) (s : Device Hash) (i : Input Password Hash) : Prop :=
  s.tally.failures ≤ 0x7FFFFFFF →
    (∀ password checked recorded, i = .verifyPassword password checked recorded →
      (s.prefs.respond verify i).2.compared = true → 3 ≤ s.tally.failures →
        s.tally.lastFailure.toInt + (lockoutDurationMs (Int32.ofNat s.tally.failures)).toInt ≤
            checked.toInt ∨
          checked.toInt < s.tally.lastFailure.toInt) ∧
    (s.prefs.failedAttempts ≠ 0 → (s.prefs.respond verify i).1.failedAttempts = 0 →
      (s.prefs.respond verify i).2 = .verified ∨ (s.prefs.respond verify i).2 = .renewed)

section Step

variable (verify : Password → Hash → Bool) (p : Prefs Hash) (password : Password)
  (checked recorded : Int64)

/-- What `verifyPassword` comes to, and what it leaves. -/
theorem verifyPassword_cases :
    (p.isOpen checked ∧ p.verifyPassword verify password checked recorded = (p, .denied)) ∨
    (¬ p.isOpen checked ∧
      (p.verifyPassword verify password checked recorded = (p, .notSet) ∨
        p.verifyPassword verify password checked recorded = (p.resetLockout, .verified) ∨
        p.verifyPassword verify password checked recorded =
          (p.recordFailure recorded, .failed recorded))) := by
  rw [← getLockoutSecondsRemaining_pos_iff]
  unfold Prefs.verifyPassword
  split
  · next hopen => exact Or.inl ⟨hopen, rfl⟩
  · next hclosed =>
    refine Or.inr ⟨hclosed, ?_⟩
    split
    · exact Or.inl rfl
    · split
      · exact Or.inr (Or.inl rfl)
      · exact Or.inr (Or.inr rfl)

variable {verify p password checked recorded}

/-- Nothing is compared while the lockout is open. -/
theorem not_isOpen_of_compared
    (h : (p.verifyPassword verify password checked recorded).2.compared = true) :
    ¬ p.isOpen checked := by
  rcases verifyPassword_cases verify p password checked recorded with ⟨-, he⟩ | ⟨hclosed, -⟩
  · rw [he] at h
    cases h
  · exact hclosed

end Step

theorem ofNat_succ_ne_zero {k : Nat} (h : k ≤ 0x7FFFFFFF) : Int32.ofNat k + 1 ≠ 0 := by
  intro hzero
  have hnat : Int32.ofNat (k + 1) = 0 := by
    rw [Int32.ofNat_add]
    exact hzero
  have hint := congrArg Int32.toInt hnat
  have hsize : Int32.size = 0x100000000 := rfl
  have hright : (0 : Int32).toInt = 0 := rfl
  rw [Int32.toInt_ofNat', hsize, hright, Int.bmod_def] at hint
  split at hint <;> omega

section Run

variable {verify : Password → Hash → Bool} {s : Device Hash} {i : Input Password Hash}

theorem counts_step (h : s.Counts) : (s.step verify i).Counts := by
  cases i with
  | createAndSavePassword hash => exact ⟨rfl, rfl⟩
  | verifyPassword password checked recorded =>
    unfold Device.step Prefs.respond
    rcases verifyPassword_cases verify s.prefs password checked recorded with
      ⟨-, he⟩ | ⟨-, he | he | he⟩ <;>
      simp only [he]
    · exact ⟨h.failures, h.lastFailure⟩
    · exact ⟨h.failures, h.lastFailure⟩
    · exact ⟨rfl, rfl⟩
    · refine ⟨?_, rfl⟩
      simp only [Prefs.recordFailure, Tally.note, Int32.ofNat_add, h.failures]
      rfl

theorem locks_of_counts (h : s.Counts) : Locks verify s i := by
  intro hsmall
  constructor
  · rintro password checked recorded rfl hcompared -
    have hclosed := not_isOpen_of_compared hcompared
    by_contra hrange
    simp only [not_or, Int.not_le, Int.not_lt] at hrange
    refine hclosed (isOpen_of_range ?_ ?_)
    · rw [h.lastFailure]
      exact hrange.2
    · rw [h.lastFailure, h.failures]
      exact hrange.1
  · intro hne hzero
    cases i with
    | createAndSavePassword hash => exact Or.inr rfl
    | verifyPassword password checked recorded =>
      refine Or.inl ?_
      simp only [Prefs.respond] at hzero ⊢
      rcases verifyPassword_cases verify s.prefs password checked recorded with
        ⟨-, he⟩ | ⟨-, he | he | he⟩ <;>
        rw [he] at hzero ⊢
      · exact absurd hzero hne
      · exact absurd hzero hne
      · have hsucc : s.prefs.failedAttempts + 1 = 0 := hzero
        rw [h.failures] at hsucc
        exact absurd hsucc (ofNat_succ_ne_zero hsmall)

end Run

/-- **The lockout holds for every clock**, except that it ends where the clock shows a time
before the last failure. -/
theorem lockout_holds (verify : Password → Hash → Bool) (is : List (Input Password Hash)) :
    EveryStep (Device.step verify) (Locks verify) Device.init is := by
  have hall : EveryStep (Device.step verify) (fun _ _ => True) Device.init is :=
    everyStep_of_forall_mem _ fun _ _ => trivial
  have hinit : (Device.init : Device Hash).Counts := ⟨rfl, rfl⟩
  exact everyStep_of_invariant (fun _ _ h _ => counts_step h)
    (fun _ _ h _ => locks_of_counts h) hinit hall

/-- Three failures at the time 1000, and the clock set back to 500. -/
def threeFailures : Device String :=
  run (Device.step (· == ·)) Device.init
    [.createAndSavePassword "right", .verifyPassword "a" 1000 1000, .verifyPassword "b" 1000 1000,
      .verifyPassword "c" 1000 1000]

/-- A clock set back lets a password be compared half a minute too early. -/
theorem lockout_set_back :
    threeFailures.tally = ⟨3, 1000⟩ ∧ lockoutDurationMs 3 = 30000 ∧
      (threeFailures.prefs.respond (· == ·) (.verifyPassword "d" 500 500)).2.compared = true ∧
      (500 : Int64) < 1000 + 30000 := by
  decide +kernel

end SecureGuard.Security
