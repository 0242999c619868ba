import SecureGuard.Astore.Downloader
import Mathlib.Data.Finset.Insert
import Mathlib.Data.Finset.Erase

/-! # Updates of an app

An update puts its package into a set of active installs, so that a second one does nothing while
it goes on, and takes it out again when the collection of the download's flow has ended. A flow
ends when its channel is closed, and but for a download that is cancelled before it starts nobody
closes the channel: after the result the producer waits in `awaitClose`. -/

namespace SecureGuard.Astore
open Machine

/-! ## The updates -/

inductive Stage
  /-- The blocked apps are read. -/
  | checking
  /-- The link is looked up. -/
  | linking
  /-- The producer of the flow has not run yet. -/
  | downloading (downloadUrl : String)
  /-- What is emitted and not collected yet, and whether the channel is closed after that. -/
  | collecting (left : List AstoreDownloadProgress) (closed : Bool)
  | ended
deriving DecidableEq

/-- A coroutine of `updateApp`, with what its flow has emitted. -/
structure Job where
  packageName : String
  emitted : List AstoreDownloadProgress
  stage : Stage
deriving DecidableEq

structure AstoreViewModel where
  activeInstalls : Finset String
  jobs : List Job
  files : Files

/-- What a coroutine gets when it goes on: whether the app is blocked and in the list, the link or
an exception, what its download meets, or the next value of its flow. -/
inductive Event
  | checked (blocked listed : Bool)
  | linked (downloadUrl : Option (Option String))
  | produced (cancelledBefore : Bool) (attempts : List Attempt)
  | collected

inductive UpdateAction
  | updateApp (packageName : String)
  | resume (i : Nat) (event : Event)

namespace AstoreViewModel

def setJob (s : AstoreViewModel) (i : Nat) (job : Job) : AstoreViewModel :=
  { s with jobs := s.jobs.set i job }

/-- The package is taken out, by the `finally` block or before the coroutine returns. -/
def finish (s : AstoreViewModel) (i : Nat) (job : Job) : AstoreViewModel :=
  { s.setJob i { job with stage := .ended } with
    activeInstalls := s.activeInstalls.erase job.packageName }

/-- A coroutine goes on, if the event is one it waits for. -/
def resume (r : UrlReader) (s : AstoreViewModel) (i : Nat) (job : Job) :
    Event → Stage → AstoreViewModel
  | .checked blocked listed, .checking =>
    if blocked || !listed then s.finish i job else s.setJob i { job with stage := .linking }
  | .linked downloadUrl, .linking =>
    downloadUrl.join.elim (s.finish i job) fun url =>
      s.setJob i { job with stage := .downloading url }
  | .produced cancelledBefore attempts, .downloading downloadUrl =>
    let flow := downloadApk r s.files ⟨job.packageName, downloadUrl, cancelledBefore, attempts⟩
    { s.setJob i { job with emitted := flow.emitted, stage := .collecting flow.emitted flow.closed }
      with files := flow.files }
  | .collected, .collecting (_ :: left) closed =>
    s.setJob i { job with stage := .collecting left closed }
  | .collected, .collecting [] closed => if closed then s.finish i job else s
  | _, _ => s

def step (r : UrlReader) (s : AstoreViewModel) : UpdateAction → AstoreViewModel
  | .updateApp packageName =>
    if packageName ∈ s.activeInstalls then s
    else { s with
      activeInstalls := insert packageName s.activeInstalls
      jobs := s.jobs ++ [⟨packageName, [], .checking⟩] }
  | .resume i event => s.jobs[i]?.elim s fun job => s.resume r i job event job.stage

def started (files : Files) : AstoreViewModel := ⟨∅, [], files⟩

end AstoreViewModel

/-- The flow has emitted a result. -/
def Job.HasResult (job : Job) : Prop := .completed ∈ job.emitted ∨ .error ∈ job.emitted

instance (job : Job) : Decidable job.HasResult := inferInstanceAs (Decidable (_ ∨ _))

/-- The channel of a flow that has a result stays open. -/
def Job.Waits (job : Job) : Prop := job.HasResult → ∃ left, job.stage = .collecting left false

/-- What a coroutine does on its own is done. -/
def Job.AtRest (job : Job) : Prop := job.stage = .collecting [] false ∨ job.stage = .ended

namespace AstoreViewModel

/-! ## What is to hold -/

/-- A flow of the package has emitted a result, and its coroutines are at rest. -/
def Finished (s : AstoreViewModel) (packageName : String) : Prop :=
  (∃ job ∈ s.jobs, job.packageName = packageName ∧ job.HasResult) ∧
    ∀ job ∈ s.jobs, job.packageName = packageName → job.AtRest

/-- A package is free again when it is finished. -/
def Released (s : AstoreViewModel) : Prop :=
  ∀ packageName, s.Finished packageName → packageName ∉ s.activeInstalls

/-- Once its flow has emitted a result, a package stays active, and cannot be updated any more. -/
def Held (r : UrlReader) (s : AstoreViewModel) : Prop :=
  ∀ job ∈ s.jobs, job.HasResult → job.packageName ∈ s.activeInstalls ∧
    s.step r (.updateApp job.packageName) = s

/-! ## Every run -/

variable {r : UrlReader} {s : AstoreViewModel} {i : Nat} {job : Job}

/-- Every package with a coroutine that has not ended is active, and has no other such coroutine. -/
structure Inv (s : AstoreViewModel) : Prop where
  active : ∀ job ∈ s.jobs, job.stage ≠ .ended → job.packageName ∈ s.activeInstalls
  unique : ∀ (i j : Nat) (job job' : Job), s.jobs[i]? = some job → s.jobs[j]? = some job' →
    job.stage ≠ .ended → job'.stage ≠ .ended → job.packageName = job'.packageName → i = j
  waits : ∀ job ∈ s.jobs, job.Waits

/-- Without an open channel there is no result. -/
theorem not_hasResult (h : job.Waits) (hstage : ∀ left, job.stage ≠ .collecting left false) :
    ¬ job.HasResult := by
  intro hresult
  obtain ⟨left, hleft⟩ := h hresult
  exact hstage left hleft

/-- A flow that is closed has emitted nothing. -/
theorem emitted_of_closed {files : Files} {c : Call} (h : (downloadApk r files c).closed = true) :
    (downloadApk r files c).emitted = [] := by
  rw [downloadApk] at h ⊢
  split
  case isTrue => rfl
  case isFalse hgoes =>
    rw [if_neg hgoes] at h
    cases h

/-- The flow of a download that has emitted a result is open. -/
theorem waits_downloaded (files : Files) (c : Call) (packageName : String) :
    Job.Waits ⟨packageName, (downloadApk r files c).emitted,
      .collecting (downloadApk r files c).emitted (downloadApk r files c).closed⟩ := by
  intro hresult
  cases hclosed : (downloadApk r files c).closed with
  | false => exact ⟨_, rfl⟩
  | true =>
    rw [Job.HasResult, emitted_of_closed hclosed] at hresult
    obtain h | h := hresult <;> cases h

/-- It stays so when the next value is collected. -/
theorem waits_collected (hwaits : job.Waits) {progress : AstoreDownloadProgress}
    {left : List AstoreDownloadProgress} {closed : Bool}
    (hstage : job.stage = .collecting (progress :: left) closed) :
    Job.Waits { job with stage := .collecting left closed } := by
  intro hresult
  obtain ⟨left', hleft⟩ := hwaits hresult
  rw [hstage] at hleft
  cases hleft
  exact ⟨left, rfl⟩

/-- What a coroutine does: nothing, it ends without a result, or it goes on. -/
theorem resume_cases (r : UrlReader) (s : AstoreViewModel) (i : Nat) (hwaits : job.Waits)
    (event : Event) :
    s.resume r i job event job.stage = s ∨
      (job.stage ≠ .ended ∧ ¬ job.HasResult ∧ s.resume r i job event job.stage = s.finish i job) ∨
      ∃ job' files, job.stage ≠ .ended ∧ job'.stage ≠ .ended ∧
        job'.packageName = job.packageName ∧ job'.Waits ∧
        s.resume r i job event job.stage = { s.setJob i job' with files := files } := by
  cases hstage : job.stage with
  | checking =>
    have hno : ¬ job.HasResult := not_hasResult hwaits fun left h => by rw [hstage] at h; cases h
    cases event with
    | checked blocked listed =>
      rw [resume]
      split
      · exact Or.inr (Or.inl ⟨nofun, hno, rfl⟩)
      · exact Or.inr (Or.inr ⟨{ job with stage := .linking }, s.files, nofun, nofun, rfl,
          fun h => absurd h hno, rfl⟩)
    | _ => exact Or.inl rfl
  | linking =>
    have hno : ¬ job.HasResult := not_hasResult hwaits fun left h => by rw [hstage] at h; cases h
    cases event with
    | linked downloadUrl =>
      rw [resume]
      cases downloadUrl.join with
      | none => exact Or.inr (Or.inl ⟨nofun, hno, rfl⟩)
      | some url =>
        exact Or.inr (Or.inr ⟨{ job with stage := .downloading url }, s.files, nofun, nofun, rfl,
          fun h => absurd h hno, rfl⟩)
    | _ => exact Or.inl rfl
  | downloading downloadUrl =>
    cases event with
    | produced cancelledBefore attempts =>
      have hwaits' := waits_downloaded (r := r) s.files
        ⟨job.packageName, downloadUrl, cancelledBefore, attempts⟩ job.packageName
      exact Or.inr (Or.inr ⟨⟨job.packageName, _, .collecting _ _⟩, _, nofun, nofun, rfl, hwaits',
        rfl⟩)
    | _ => exact Or.inl rfl
  | collecting left closed =>
    cases event with
    | collected =>
      cases left with
      | cons progress left =>
        exact Or.inr (Or.inr ⟨{ job with stage := .collecting left closed }, s.files, nofun, nofun,
          rfl, waits_collected hwaits hstage, rfl⟩)
      | nil =>
        cases closed with
        | false => exact Or.inl rfl
        | true =>
          have hno : ¬ job.HasResult :=
            not_hasResult hwaits fun left h => by rw [hstage] at h; cases h
          exact Or.inr (Or.inl ⟨nofun, hno, rfl⟩)
    | _ => exact Or.inl rfl
  | ended => cases event <;> exact Or.inl rfl

theorem inv_started (files : Files) : (started files).Inv where
  active := fun job hjob => by cases hjob
  unique := fun i j job job' hi => by cases hi
  waits := fun job hjob => by cases hjob

/-- A job in the list after one is replaced. -/
theorem jobs_set {j : Nat} {job' c : Job} (hj : (s.jobs.set i job')[j]? = some c) :
    (j = i ∧ c = job') ∨ (j ≠ i ∧ s.jobs[j]? = some c) := by
  rw [List.getElem?_set] at hj
  split at hj
  case isTrue heq =>
    split at hj
    · exact Or.inl ⟨heq.symm, (Option.some.inj hj).symm⟩
    · cases hj
  case isFalse hne => exact Or.inr ⟨Ne.symm hne, hj⟩

/-- A job in the list after one is added. -/
theorem getElem?_concat {jobs : List Job} {j : Nat} {job' c : Job}
    (hj : (jobs ++ [job'])[j]? = some c) :
    (j < jobs.length ∧ jobs[j]? = some c) ∨ (j = jobs.length ∧ c = job') := by
  rw [List.getElem?_append] at hj
  split at hj
  case isTrue hlt => exact Or.inl ⟨hlt, hj⟩
  case isFalse hge =>
    obtain ⟨hlt, hget⟩ := List.getElem?_eq_some_iff.mp hj
    rw [List.length_singleton] at hlt
    refine Or.inr ⟨by omega, ?_⟩
    rw [← hget]
    simp

/-- A coroutine that goes on keeps the invariant. -/
theorem Inv.setJob (h : s.Inv) (hi : s.jobs[i]? = some job) {job' : Job}
    (hlive : job.stage ≠ .ended) (hname : job'.packageName = job.packageName)
    (hwaits : job'.Waits) (files : Files) :
    Inv { s.setJob i job' with files := files } := by
  have hmem : job ∈ s.jobs := List.mem_of_getElem? hi
  constructor
  · intro c hc hc'
    obtain hold | rfl := List.mem_or_eq_of_mem_set hc
    · exact h.active c hold hc'
    · rw [hname]
      exact h.active job hmem hlive
  · intro j k c c' hj hk hc hc' heq
    obtain ⟨rfl, rfl⟩ | ⟨-, hold⟩ := jobs_set hj
    · obtain ⟨rfl, rfl⟩ | ⟨-, hold'⟩ := jobs_set hk
      · rfl
      · exact h.unique j k job c' hi hold' hlive hc' (hname.symm.trans heq)
    · obtain ⟨rfl, rfl⟩ | ⟨-, hold'⟩ := jobs_set hk
      · exact h.unique j k c job hold hi hc hlive (heq.trans hname)
      · exact h.unique j k c c' hold hold' hc hc' heq
  · intro c hc
    obtain hold | rfl := List.mem_or_eq_of_mem_set hc
    · exact h.waits c hold
    · exact hwaits

/-- No other coroutine of the package goes on when one ends. -/
theorem Inv.finish (h : s.Inv) (hi : s.jobs[i]? = some job) (hlive : job.stage ≠ .ended)
    (hno : ¬ job.HasResult) : (s.finish i job).Inv := by
  constructor
  · intro c hc hc'
    obtain ⟨j, hj⟩ := List.mem_iff_getElem?.mp hc
    obtain ⟨rfl, rfl⟩ | ⟨hne, hj⟩ := jobs_set hj
    · exact absurd rfl hc'
    · refine Finset.mem_erase.mpr ⟨fun heq => hne ?_, h.active c (List.mem_of_getElem? hj) hc'⟩
      exact h.unique j i c job hj hi hc' hlive heq
  · intro j k c c' hj hk hc hc' heq
    obtain ⟨rfl, rfl⟩ | ⟨hne, hj⟩ := jobs_set hj
    · exact absurd rfl hc
    · obtain ⟨rfl, rfl⟩ | ⟨hne', hk⟩ := jobs_set hk
      · exact absurd rfl hc'
      · exact h.unique j k c c' hj hk hc hc' heq
  · intro c hc
    obtain hold | rfl := List.mem_or_eq_of_mem_set hc
    · exact h.waits c hold
    · exact fun hresult => absurd hresult hno

theorem Inv.updateApp (h : s.Inv) (packageName : String) :
    (s.step r (.updateApp packageName)).Inv := by
  rw [AstoreViewModel.step]
  split
  case isTrue => exact h
  case isFalse hfree =>
    -- A coroutine that has not ended is of another package.
    have hother : ∀ job ∈ s.jobs, job.stage ≠ .ended → job.packageName ≠ packageName :=
      fun job hjob hlive heq => hfree (heq ▸ h.active job hjob hlive)
    constructor
    · intro c hc hlive
      obtain hold | hnew := List.mem_append.mp hc
      · exact Finset.mem_insert_of_mem (h.active c hold hlive)
      · obtain rfl := List.mem_singleton.mp hnew
        exact Finset.mem_insert_self _ _
    · intro j k c c' hj hk hc hc' heq
      obtain ⟨hlt, hold⟩ | ⟨hge, hnew⟩ := getElem?_concat hj
      · obtain ⟨hlt', hold'⟩ | ⟨hge', hnew'⟩ := getElem?_concat hk
        · exact h.unique j k c c' hold hold' hc hc' heq
        · subst hnew'
          exact absurd heq (hother c (List.mem_of_getElem? hold) hc)
      · obtain ⟨hlt', hold'⟩ | ⟨hge', hnew'⟩ := getElem?_concat hk
        · subst hnew
          exact absurd heq.symm (hother c' (List.mem_of_getElem? hold') hc')
        · omega
    · intro c hc
      obtain hold | hnew := List.mem_append.mp hc
      · exact h.waits c hold
      · obtain rfl := List.mem_singleton.mp hnew
        rintro (h | h) <;> cases h

theorem Inv.step (h : s.Inv) (action : UpdateAction) : (s.step r action).Inv := by
  cases action with
  | updateApp packageName => exact h.updateApp packageName
  | resume i event =>
    rw [AstoreViewModel.step]
    cases hi : s.jobs[i]? with
    | none => exact h
    | some job =>
      rw [Option.elim_some]
      have hwaits := h.waits job (List.mem_of_getElem? hi)
      obtain hsame | ⟨hlive, hno, hend⟩ | ⟨job', files, hlive, -, hname, hwaits', hgoes⟩ :=
        resume_cases r s i hwaits event
      · rw [hsame]
        exact h
      · rw [hend]
        exact h.finish hi hlive hno
      · rw [hgoes]
        exact h.setJob hi hlive hname hwaits' files

/-- A coroutine whose flow has emitted a result never ends. -/
theorem Inv.held (h : s.Inv) : s.Held r := by
  intro job hjob hresult
  obtain ⟨left, hleft⟩ := h.waits job hjob hresult
  have hactive := h.active job hjob (by rw [hleft]; nofun)
  exact ⟨hactive, if_pos hactive⟩

/-- Whatever is finished is not released. -/
theorem Held.released_iff (h : s.Held r) :
    s.Released ↔ ∀ packageName, ¬ s.Finished packageName := by
  constructor
  · intro hreleased packageName hfinished
    obtain ⟨job, hjob, hname, hresult⟩ := hfinished.1
    exact hreleased packageName hfinished (hname ▸ (h job hjob hresult).1)
  · intro hnone packageName hfinished
    exact absurd hfinished (hnone packageName)

/-- In every run, a package whose download has emitted a result stays active for good, and is not
updated again. -/
theorem everyState_held (r : UrlReader) (files : Files) (actions : List UpdateAction) :
    EveryState (step r)
      (fun s => s.Held r ∧ (s.Released ↔ ∀ packageName, ¬ s.Finished packageName))
      (started files) actions := by
  have hkeeps : ∀ (s : AstoreViewModel) (action : UpdateAction), s.Inv → True →
      (s.step r action).Inv := fun s action h _ => h.step action
  have hgives : ∀ s : AstoreViewModel, s.Inv →
      s.Held r ∧ (s.Released ↔ ∀ packageName, ¬ s.Finished packageName) :=
    fun s h => ⟨h.held, Held.released_iff (r := r) h.held⟩
  exact everyState_of_invariant (P := fun _ _ => True) hkeeps hgives (inv_started files)
    (everyStep_of_forall_mem _ fun _ _ => trivial)

/-- An app is downloaded and installed, and stays active. -/
theorem installed_stays_active :
    ¬ (∀ (r : UrlReader) (files : Files) (actions : List UpdateAction),
      EveryState (step r) Released (started files) actions) := by
  intro h
  let r : UrlReader := ⟨fun _ => some ⟨none, some "app.apk", some "/get/app.apk"⟩, some⟩
  let actions : List UpdateAction := [.updateApp "com.a", .resume 0 (.checked false true),
    .resume 0 (.linked (some (some "https://a.example/get/app.apk"))),
    .resume 0 (.produced false [⟨true, [1, 2], true, .uninterrupted true⟩]),
    .resume 0 .collected, .resume 0 .collected, .resume 0 .collected]
  have hlast : Released (run (step r) (started fun _ => none) actions) :=
    (h r (fun _ => none) actions).last
  have hjobs : (run (step r) (started fun _ => none) actions).jobs =
      [⟨"com.a", [.downloading, .installing, .completed], .collecting [] false⟩] := by decide
  have hactive : "com.a" ∈ (run (step r) (started fun _ => none) actions).activeInstalls := by
    decide
  have hmem : (⟨"com.a", [.downloading, .installing, .completed], .collecting [] false⟩ : Job) ∈
      (run (step r) (started fun _ => none) actions).jobs := by
    rw [hjobs]
    exact List.mem_singleton_self _
  have hrest : ∀ job ∈ (run (step r) (started fun _ => none) actions).jobs,
      job.packageName = "com.a" → job.AtRest := by
    intro job hjob _
    rw [hjobs, List.mem_singleton] at hjob
    subst hjob
    exact Or.inl rfl
  have hfinished : Finished (run (step r) (started fun _ => none) actions) "com.a" :=
    ⟨⟨_, hmem, rfl, Or.inl (by decide)⟩, hrest⟩
  exact absurd hactive (hlast "com.a" hfinished)

end AstoreViewModel

end SecureGuard.Astore
