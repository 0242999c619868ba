import SecureGuard.Mdm.Preset

/-! # Sending a preset again

A preset is accepted as long as the setup is not complete. It is marked complete last; but
`createAndSavePassword`, which a preset with a password calls first, marks it complete too. -/

namespace SecureGuard.Mdm

open Exceptions

variable {throws : PresetAction → Bool} {hashToString : String → String}

namespace PresetAction

/-- One call of the password marks the setup complete, and one at the end. -/
theorem setupComplete_perform (p : Phone) {a : PresetAction}
    (hpassword : a ≠ .createAndSavePasswordSetSetupComplete) (hlast : a.part ≠ .complete) :
    (p.perform a).settings.setupComplete = p.settings.setupComplete := by
  cases a <;> first | rfl | exact absurd rfl hpassword | exact absurd rfl hlast

theorem setupComplete_of_part (p : Phone) {a : PresetAction} {part : PresetPart}
    (ha : a.part = part) (hpassword : part ≠ .password) (hlast : part ≠ .complete) :
    (p.perform a).settings.setupComplete = p.settings.setupComplete := by
  obtain rfl := ha
  refine setupComplete_perform p ?_ hlast
  rintro rfl
  exact hpassword rfl

end PresetAction

namespace PresetConfig

/-- The calls of `createAndSavePassword` up to the one that marks the setup complete. -/
def markingActions (hashToString : String → String) (password : String) : List PresetAction :=
  [.hashToString, .setPasswordHash (hashToString password), .createAndSavePasswordSetSetupComplete]

/-- The preset sets no password; or one of the calls throws that come before the setup is marked
complete; or no call throws but those whose exceptions are caught. -/
def Retryable (throws : PresetAction → Bool) (hashToString : String → String)
    (config : PresetConfig) : Prop :=
  config.adminPassword.getD "" = "" ∨
    (∃ a ∈ markingActions hashToString (config.adminPassword.getD ""), throws a = true) ∨
    ∀ a ∈ uncaught (config.blocks hashToString), throws a = false

/-- The blocks after those of the password. -/
def laterBlocks (config : PresetConfig) : List (Block PresetAction) :=
  config.caughtBlocks ++ [.run config.finalActions]

theorem passwordBlocks_eq (config : PresetConfig) (hashToString : String → String) :
    config.passwordBlocks hashToString =
      if config.adminPassword.getD "" = "" then []
      else
        [.run (markingActions hashToString (config.adminPassword.getD "") ++
          [.savePasswordFailedAttempts, .savePasswordLastFailureAt])] := by
  unfold passwordBlocks
  cases config.adminPassword <;> rfl

/-- What comes after the password marks the setup complete only where it runs to its end. -/
theorem setupComplete_laterBlocks (config : PresetConfig) (p : Phone)
    (h : (runBlocks throws Phone.perform p config.laterBlocks).2 = false) :
    (runBlocks throws Phone.perform p config.laterBlocks).1.settings.setupComplete =
      p.settings.setupComplete := by
  have hcaught : ((runBlocks throws Phone.perform p config.caughtBlocks).1.settings.setupComplete =
      p.settings.setupComplete) := by
    refine runBlocks_invariant
      (P := fun q : Phone => q.settings.setupComplete = p.settings.setupComplete)
      (fun b hb a ha q hq => ?_) rfl
    exact (PresetAction.setupComplete_of_part q (part_of_mem_caught hb ha) (by decide)
      (by decide)).trans hq
  rw [laterBlocks, runBlocks_append] at h ⊢
  split at h
  next hcompletes =>
    rw [if_pos hcompletes]
    generalize (runBlocks throws Phone.perform p config.caughtBlocks).1 = q at h hcaught ⊢
    rw [runBlocks_run] at h ⊢
    rw [finalActions, runActions_concat_of_incomplete q _ _ h, ← hcaught]
    refine runActions_invariant
      (P := fun r : Phone => r.settings.setupComplete = q.settings.setupComplete)
      (fun a ha r hr => ?_) rfl
    exact (PresetAction.setupComplete_of_part r (part_of_mem_settings ha) (by decide)
      (by decide)).trans hr
  next hnot =>
    rw [if_neg hnot]
    exact hcaught

end PresetConfig

namespace Phone

/-- A preset that is sent to the owner of a device is applied exactly if the setup is not
complete. -/
theorem handleReceive_eq (p : Phone) {decodeFromString : String → Option PresetConfig}
    {json : String} {config : PresetConfig} (hjson : json.toList.all Char.isWhitespace = false)
    (hdecode : decodeFromString json = some config) :
    p.handleReceive throws hashToString decodeFromString true
        "com.secureguard.mdm.ACTION_APPLY_PRESET" (some json) =
      if p.settings.setupComplete then none
      else some (p.applyConfig throws hashToString config) := by
  simp only [handleReceive, ne_eq, not_true_eq_false, if_false, hjson, hdecode, Option.map_some,
    Bool.true_eq_false, Bool.false_eq_true]

/-- What the calls of `createAndSavePassword` leave where none of the first three throws. -/
theorem setupComplete_password (p : Phone) {password : String}
    (h : ∀ a ∈ PresetConfig.markingActions hashToString password, throws a = false) :
    (runActions throws perform p (PresetConfig.markingActions hashToString password ++
      [.savePasswordFailedAttempts, .savePasswordLastFailureAt])).1.settings.setupComplete =
        true := by
  have hhash := h .hashToString (by simp [PresetConfig.markingActions])
  have hset := h (.setPasswordHash (hashToString password)) (by simp [PresetConfig.markingActions])
  have hmark := h .createAndSavePasswordSetSetupComplete (by simp [PresetConfig.markingActions])
  simp only [PresetConfig.markingActions, List.cons_append, List.nil_append, runActions, hhash,
    hset, hmark, Bool.false_eq_true, if_false]
  split
  · rfl
  · split <;> rfl

/-- Where one of them throws, the setup is as it was. -/
theorem setupComplete_password_of_throws (p : Phone) {password : String}
    (h : ∃ a ∈ PresetConfig.markingActions hashToString password, throws a = true) :
    (runActions throws perform p (PresetConfig.markingActions hashToString password ++
      [.savePasswordFailedAttempts, .savePasswordLastFailureAt])).2 = false ∧
    (runActions throws perform p (PresetConfig.markingActions hashToString password ++
      [.savePasswordFailedAttempts, .savePasswordLastFailureAt])).1.settings.setupComplete =
        p.settings.setupComplete := by
  obtain ⟨a, ha, hthrows⟩ := h
  simp only [PresetConfig.markingActions, List.mem_cons, List.not_mem_nil, or_false] at ha
  simp only [PresetConfig.markingActions, List.cons_append, List.nil_append, runActions]
  split
  · exact ⟨rfl, rfl⟩
  next hhash =>
    split
    · exact ⟨rfl, rfl⟩
    next hset =>
      split
      · exact ⟨rfl, rfl⟩
      next hmark => rcases ha with rfl | rfl | rfl <;> contradiction

end Phone

namespace Phone

/-- Without a password an application that does not run to its end marks nothing complete. -/
theorem setupComplete_of_no_password {p : Phone} {config : PresetConfig}
    (hpassword : config.adminPassword.getD "" = "")
    (h : (p.applyConfig throws hashToString config).2 = false) :
    (p.applyConfig throws hashToString config).1.settings.setupComplete =
      p.settings.setupComplete := by
  rw [applyConfig, PresetConfig.blocks, List.append_assoc, PresetConfig.passwordBlocks_eq,
    if_pos hpassword] at h ⊢
  exact config.setupComplete_laterBlocks p h

/-- With one, the application of a preset begins with the calls of `createAndSavePassword`. -/
theorem applyConfig_of_password {p : Phone} {config : PresetConfig}
    (hpassword : config.adminPassword.getD "" ≠ "") :
    p.applyConfig throws hashToString config =
      let r := runActions throws perform p
        (PresetConfig.markingActions hashToString (config.adminPassword.getD "") ++
          [.savePasswordFailedAttempts, .savePasswordLastFailureAt])
      if r.2 then runBlocks throws perform r.1 config.laterBlocks else r := by
  rw [applyConfig, PresetConfig.blocks, List.append_assoc, PresetConfig.passwordBlocks_eq,
    if_neg hpassword, runBlocks_append, runBlocks_run]
  rfl

end Phone

/-- A preset with a password and a kiosk whose lock task cannot be set: the setup is complete, and
the kiosk is not locked. -/
theorem preset_not_retryable :
    ¬ ∀ (throws : PresetAction → Bool) (config : PresetConfig),
      ((Phone.fresh 34 none).applyConfig throws id config).2 = false →
        ((Phone.fresh 34 none).applyConfig throws id config).1.settings.setupComplete = false := by
  intro h
  have hfails := h (fun | .setLockTaskPackages => true | _ => false)
    { adminPassword := some "1234", kioskEnabled := true } rfl
  exact absurd hfails (by decide)

/-- **A preset whose application does not run to its end leaves the setup open exactly if it is
retryable.** -/
theorem preset_retryable_iff (throws : PresetAction → Bool) (hashToString : String → String)
    (config : PresetConfig) {p : Phone} (hp : p.settings.setupComplete = false) :
    ((p.applyConfig throws hashToString config).2 = false →
        (p.applyConfig throws hashToString config).1.settings.setupComplete = false) ↔
      config.Retryable throws hashToString := by
  have hcompletes : (p.applyConfig throws hashToString config).2 = true ↔
      ∀ a ∈ uncaught (config.blocks hashToString), throws a = false :=
    runBlocks_snd_iff p (config.blocks hashToString)
  by_cases hpassword : config.adminPassword.getD "" = ""
  · exact iff_of_true (fun h => (Phone.setupComplete_of_no_password hpassword h).trans hp)
      (Or.inl hpassword)
  by_cases hthrows : ∃ a ∈ PresetConfig.markingActions hashToString
      (config.adminPassword.getD ""), throws a = true
  · refine iff_of_true (fun _ => ?_) (Or.inr (Or.inl hthrows))
    obtain ⟨hstops, hsame⟩ := p.setupComplete_password_of_throws hthrows
    rw [Phone.applyConfig_of_password hpassword]
    simp only [hstops, Bool.false_eq_true, if_false]
    exact hsame.trans hp
  · -- the setup is marked complete whatever follows
    have hmarks : ∀ a ∈ PresetConfig.markingActions hashToString (config.adminPassword.getD ""),
        throws a = false := by
      intro a ha
      exact eq_false_of_ne_true fun hthrow => hthrows ⟨a, ha, hthrow⟩
    have hmarked : (p.applyConfig throws hashToString config).2 = false →
        (p.applyConfig throws hashToString config).1.settings.setupComplete = true := by
      intro h
      have hset := p.setupComplete_password hmarks
      rw [Phone.applyConfig_of_password hpassword] at h ⊢
      dsimp only at h ⊢
      split at h
      next hgoes =>
        rw [if_pos hgoes]
        exact (config.setupComplete_laterBlocks _ h).trans hset
      next hstops =>
        rw [if_neg hstops]
        exact hset
    constructor
    · intro hopen
      refine Or.inr (Or.inr (hcompletes.mp ?_))
      by_contra hfails
      have hfails := eq_false_of_ne_true hfails
      exact Bool.false_ne_true ((hopen hfails).symm.trans (hmarked hfails))
    · rintro (hnone | hthrow | hall) hfails
      · exact absurd hnone hpassword
      · exact absurd hthrow hthrows
      · exact absurd (hfails.symm.trans (hcompletes.mpr hall)) Bool.false_ne_true

/-- The same without a password. -/
theorem preset_retryable_iff_no_password :
    (((Phone.fresh 34 none).applyConfig (fun | .setLockTaskPackages => true | _ => false) id
          { kioskEnabled := true }).2 = false →
        ((Phone.fresh 34 none).applyConfig (fun | .setLockTaskPackages => true | _ => false) id
          { kioskEnabled := true }).1.settings.setupComplete = false) ↔
      PresetConfig.Retryable (fun | .setLockTaskPackages => true | _ => false) id
        { kioskEnabled := true } :=
  preset_retryable_iff _ id _ rfl

end SecureGuard.Mdm
