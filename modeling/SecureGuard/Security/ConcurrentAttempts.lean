import SecureGuard.Security.PasswordManager

/-! # Several attempts at once

Every screen that asks for the password calls `verifyPassword` in a coroutine of its own. A
call checks the lockout, suspends while the hash is fetched, compares, and records what came
of it; other calls run in between. All callers are on the main thread, so that what a call
does between two suspensions is one step. The comparison and the recording, which no
suspension separates, are two steps here as well, which only allows more runs. -/

namespace SecureGuard.Security
open Machine

variable {Password Hash : Type}

/-! ## Calls in progress -/

/-- How far a call has come. `checkedAt` is the time at the check of the lockout. -/
inductive Call (Password Hash : Type)
  | checked (password : Password) (checkedAt : Int64)
  | fetched (password : Password) (checkedAt : Int64) (hash : Option Hash)
  | compared (verified : Bool)
  -- `createAndSavePassword`, the new hash being stored
  | saved
  | done
deriving DecidableEq, Repr

/-- A call that will still compare, and the time of its check. -/
def Call.pending : Call Password Hash → Option Int64
  | .checked _ checkedAt => some checkedAt
  | .fetched _ checkedAt (some _) => some checkedAt
  | _ => none

structure App (Password Hash : Type) where
  prefs : Prefs Hash
  calls : List (Call Password Hash)
deriving DecidableEq, Repr

/-- What one step does; a number is that of the call that goes on. The code does not look at
the clock for a comparison, whose time is given to speak about it. -/
inductive Event (Password Hash : Type)
  | verifyPassword (password : Password) (now : Int64)
  | createAndSavePassword (hash : Hash)
  | getPasswordHash (k : Nat)
  | compare (k : Nat) (now : Int64)
  | finish (k : Nat) (now : Int64)
  | cancel (k : Nat)
deriving DecidableEq, Repr

namespace App

variable (verify : Password → Hash → Bool)

def put (s : App Password Hash) (k : Nat) (c : Call Password Hash) : App Password Hash :=
  { s with calls := s.calls.set k c }

def step (s : App Password Hash) : Event Password Hash → App Password Hash
  | .verifyPassword password now =>
    let call := if 0 < s.prefs.getLockoutSecondsRemaining now then .done else .checked password now
    { s with calls := s.calls ++ [call] }
  | .createAndSavePassword hash =>
    { prefs := { s.prefs with passwordHash := some hash }, calls := s.calls ++ [.saved] }
  | .getPasswordHash k => match s.calls[k]? with
    | some (.checked password checkedAt) =>
      s.put k (.fetched password checkedAt s.prefs.passwordHash)
    | _ => s
  | .compare k _ => match s.calls[k]? with
    | some (.fetched password _ (some hash)) => s.put k (.compared (verify password hash))
    | some (.fetched _ _ none) => s.put k .done
    | _ => s
  | .finish k now => match s.calls[k]? with
    | some (.compared true) => { s.put k .done with prefs := s.prefs.resetLockout }
    | some (.compared false) => { s.put k .done with prefs := s.prefs.recordFailure now }
    | some .saved => { s.put k .done with prefs := s.prefs.resetLockout }
    | _ => s
  -- a coroutine is cancelled where it is suspended
  | .cancel k => match s.calls[k]? with
    | some (.checked _ _) => s.put k .done
    | some (.fetched _ _ _) => s.put k .done
    | some .saved => s.put k .done
    | _ => s

/-! ## What a step must keep -/

/-- Nothing is compared while the lockout of the failures recorded so far is open, and a
failed comparison counts for one. -/
def Holds (s : App Password Hash) : Event Password Hash → Prop
  | .compare k now => ∀ password checkedAt hash,
    s.calls[k]? = some (.fetched password checkedAt (some hash)) →
      ¬ 0 < s.prefs.getLockoutSecondsRemaining now
  | .finish k now => s.calls[k]? = some (.compared false) →
    (s.step verify (.finish k now)).prefs.failedAttempts.toInt = s.prefs.failedAttempts.toInt + 1
  | _ => True

/-- A failure that opens a lockout is recorded only while no other call is between its check
and its comparison, and in between the clock is not set into an open lockout. -/
def Undisturbed (s : App Password Hash) : Event Password Hash → Prop
  | .compare k now => ∀ password checkedAt hash,
    s.calls[k]? = some (.fetched password checkedAt (some hash)) →
      s.prefs.isOpen now → s.prefs.isOpen checkedAt
  | .finish k _ => s.calls[k]? = some (.compared false) →
    s.prefs.failedAttempts ≠ Int32.maxValue ∧
      (2 ≤ s.prefs.failedAttempts → ∀ c ∈ s.calls, c.pending = none)
  | _ => True

/-- Every call that will still compare saw the lockout closed, as it is now. -/
def Passed (s : App Password Hash) : Prop :=
  ∀ c ∈ s.calls, ∀ checkedAt ∈ c.pending, ¬ s.prefs.isOpen checkedAt

end App

theorem not_isOpen_of_attempts {p : Prefs Hash} (h : p.failedAttempts < 3) (now : Int64) :
    ¬ p.isOpen now := by
  have hnone : lockoutDurationMs p.failedAttempts = 0 := by rw [lockoutDurationMs, if_pos h]
  rintro ⟨hlow, hhigh⟩
  rw [hnone] at hhigh
  rw [Int64.le_iff_toInt_le] at hlow
  rw [Int64.lt_iff_toInt_lt] at hhigh
  omega

theorem toInt_add_one {n : Int32} (h : n ≠ Int32.maxValue) : (n + 1).toInt = n.toInt + 1 := by
  have hmax : n.toInt ≠ 0x7FFFFFFF := fun he => h (Int32.toInt_inj.mp he)
  have hlow := n.le_toInt
  have hhigh := n.toInt_lt
  have hone : (1 : Int32).toInt = 1 := rfl
  rw [Int32.toInt_add, hone]
  exact Int.bmod_eq_of_le (by omega) (by omega)

namespace App

variable {verify : Password → Hash → Bool} {s : App Password Hash}

/-- One call goes on and waits no longer than before, the preferences being as they were. -/
theorem Passed.put (h : s.Passed) {k : Nat} {c : Call Password Hash}
    (hc : ∀ checkedAt ∈ c.pending, ¬ s.prefs.isOpen checkedAt) : (s.put k c).Passed := by
  intro c' hmem
  rcases List.mem_or_eq_of_mem_set hmem with hmem | rfl
  · exact h c' hmem
  · exact hc

/-- No lockout at all lets every call pass. -/
theorem passed_of_attempts (h : s.prefs.failedAttempts < 3) : s.Passed :=
  fun _ _ checkedAt _ => not_isOpen_of_attempts h checkedAt

theorem Passed.start (h : s.Passed) (password : Password) (now : Int64) :
    (s.step verify (.verifyPassword password now)).Passed := by
  intro c hmem
  rcases List.mem_append.mp hmem with hmem | hmem
  · exact h c hmem
  · obtain rfl := List.mem_singleton.mp hmem
    split
    · simp [Call.pending]
    · next hclosed =>
      rw [getLockoutSecondsRemaining_pos_iff] at hclosed
      intro t ht
      obtain rfl := Option.some.inj ht
      exact hclosed

theorem Passed.fetch (h : s.Passed) (k : Nat) : (s.step verify (.getPasswordHash k)).Passed := by
  simp only [App.step]
  split
  · next password checkedAt hk =>
    refine h.put fun t ht => ?_
    cases hhash : s.prefs.passwordHash with
    | none => simp [hhash, Call.pending] at ht
    | some hash =>
      obtain rfl : checkedAt = t := by simpa [hhash, Call.pending] using ht
      exact h _ (List.mem_of_getElem? hk) checkedAt rfl
  · exact h

theorem Passed.compare (h : s.Passed) (k : Nat) (now : Int64) :
    (s.step verify (.compare k now)).Passed := by
  simp only [App.step]
  split
  · exact h.put (by simp [Call.pending])
  · exact h.put (by simp [Call.pending])
  · exact h

theorem Passed.cancel (h : s.Passed) (k : Nat) : (s.step verify (.cancel k)).Passed := by
  simp only [App.step]
  split
  · exact h.put (by simp [Call.pending])
  · exact h.put (by simp [Call.pending])
  · exact h.put (by simp [Call.pending])
  · exact h

theorem Passed.finish (h : s.Passed) {k : Nat} {now : Int64}
    (he : Undisturbed s (.finish k now)) : (s.step verify (.finish k now)).Passed := by
  simp only [App.step]
  split
  · exact passed_of_attempts (by decide : (0 : Int32) < 3)
  · next hk =>
    obtain ⟨hmax, halone⟩ := he hk
    by_cases hopens : 2 ≤ s.prefs.failedAttempts
    · intro c hmem t ht
      have hnone : c.pending = none := by
        rcases List.mem_or_eq_of_mem_set hmem with hmem | rfl
        · exact halone hopens c hmem
        · rfl
      rw [hnone] at ht
      cases ht
    · have hsucc := toInt_add_one hmax
      have hthree : (3 : Int32).toInt = 3 := rfl
      have htwo : (2 : Int32).toInt = 2 := rfl
      have hfew : s.prefs.failedAttempts + 1 < 3 := by
        rw [Int32.le_iff_toInt_le, htwo] at hopens
        rw [Int32.lt_iff_toInt_lt, hsucc, hthree]
        omega
      exact passed_of_attempts hfew
  · exact passed_of_attempts (by decide : (0 : Int32) < 3)
  · exact h

theorem passed_step (h : s.Passed) {e : Event Password Hash} (he : Undisturbed s e) :
    (s.step verify e).Passed := by
  cases e with
  | verifyPassword password now => exact h.start password now
  | createAndSavePassword hash =>
    intro c hmem
    rcases List.mem_append.mp hmem with hmem | hmem
    · exact h c hmem
    · obtain rfl := List.mem_singleton.mp hmem
      simp [Call.pending]
  | getPasswordHash k => exact h.fetch k
  | compare k now => exact h.compare k now
  | finish k now => exact h.finish he
  | cancel k => exact h.cancel k

theorem holds_of_passed (h : s.Passed) {e : Event Password Hash} (he : Undisturbed s e) :
    Holds verify s e := by
  cases e with
  | compare k now =>
    intro password checkedAt hash hk hopen
    rw [getLockoutSecondsRemaining_pos_iff] at hopen
    exact h _ (List.mem_of_getElem? hk) checkedAt rfl (he password checkedAt hash hk hopen)
  | finish k now =>
    intro hk
    obtain ⟨hmax, -⟩ := he hk
    have hstep : (s.step verify (.finish k now)).prefs = s.prefs.recordFailure now := by
      simp only [App.step, hk]
    rw [hstep]
    exact toInt_add_one hmax
  | verifyPassword password now => trivial
  | createAndSavePassword hash => trivial
  | getPasswordHash k => trivial
  | cancel k => trivial

/-- The steps of a call that nothing interrupts are the call. -/
theorem prefs_of_uninterrupted (password : Password) (checked compared recorded : Int64) :
    (run (App.step verify) s [.verifyPassword password checked, .getPasswordHash s.calls.length,
      .compare s.calls.length compared, .finish s.calls.length recorded]).prefs =
      (s.prefs.verifyPassword verify password checked recorded).1 := by
  by_cases hopen : 0 < s.prefs.getLockoutSecondsRemaining checked
  · simp [run, App.step, Prefs.verifyPassword, hopen]
  · cases hhash : s.prefs.passwordHash with
    | none => simp [run, App.step, App.put, Prefs.verifyPassword, hopen, hhash]
    | some hash =>
      cases hverify : verify password hash <;>
        simp [run, App.step, App.put, Prefs.verifyPassword, hopen, hhash, hverify]

end App

/-- **The lockout holds for concurrent attempts**, for as long as no failure that opens a
lockout is recorded between another call's check and its comparison, nor the clock set into
an open lockout there. -/
theorem attempts_hold (verify : Password → Hash → Bool) (p : Prefs Hash)
    {es : List (Event Password Hash)}
    (h : EveryStep (App.step verify) App.Undisturbed ⟨p, []⟩ es) :
    EveryStep (App.step verify) (App.Holds verify) ⟨p, []⟩ es := by
  have hnone : (⟨p, []⟩ : App Password Hash).Passed := fun c hc => by cases hc
  exact everyStep_of_invariant (fun _ _ hs he => App.passed_step hs he)
    (fun _ _ hs he => App.holds_of_passed hs he) hnone h

/-- The preferences before the first password. -/
def Prefs.fresh : Prefs Hash where
  passwordHash := none
  failedAttempts := 0
  lastFailureAt := 0

/-- A first failure is recorded while another call waits for the hash. -/
theorem attempts_hold_apart :
    EveryStep (App.step (· == ·)) (App.Holds (· == ·)) ⟨Prefs.fresh, []⟩
      [.createAndSavePassword "right", .finish 0 10, .verifyPassword "a" 20,
        .verifyPassword "right" 21, .getPasswordHash 1, .compare 1 22, .finish 1 23] :=
  attempts_hold (· == ·) Prefs.fresh
    ⟨trivial, fun h => absurd h (by decide), trivial, trivial, trivial,
      fun _ checkedAt _ _ hopen => absurd hopen (not_isOpen_of_attempts (by decide) 22),
      fun _ => ⟨by decide, fun h => absurd h (by decide)⟩, trivial⟩

/-- Four calls check the lockout at the time 1000, and three of them fail before the fourth
compares. -/
def fourAtOnce : List (Event String String) :=
  [.createAndSavePassword "right", .finish 0 10,
    .verifyPassword "a" 1000, .verifyPassword "b" 1000, .verifyPassword "c" 1000,
    .verifyPassword "d" 1000, .getPasswordHash 1, .getPasswordHash 2, .getPasswordHash 3,
    .getPasswordHash 4, .compare 1 1000, .finish 1 1000, .compare 2 1000, .finish 2 1000,
    .compare 3 1000, .finish 3 1000]

/-- The fourth password is compared half a minute before the lockout of the other three ends. -/
theorem lockout_raced :
    (run (App.step (· == ·)) ⟨Prefs.fresh, []⟩ fourAtOnce).calls[4]? =
      some (.fetched "d" 1000 (some "right")) ∧
    (run (App.step (· == ·)) ⟨Prefs.fresh, []⟩ fourAtOnce).prefs.getLockoutSecondsRemaining
      1001 = 30 := by
  decide +kernel

end SecureGuard.Security
