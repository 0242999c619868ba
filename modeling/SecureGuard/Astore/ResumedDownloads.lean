import SecureGuard.Astore.Downloader

/-! # Resumed downloads

What is in the temporary file when an attempt begins is trusted to be the beginning of what the URL
serves now. It need not be: the name of the file is not that of the URL, the content may have
changed, and a file that is complete has nothing left to ask for. -/

namespace SecureGuard.Astore
open Machine

/-! ## What is to hold -/

def Attempt.isUninterrupted (a : Attempt) : Bool :=
  a.responds && match a.ending with
    | .uninterrupted _ => true
    | _ => false

/-- What an attempt installs is what the URL serves, and it does install it if it is not
interrupted. -/
structure AttemptExact (files : Files) (name : String) (a : Attempt) : Prop where
  exact : ∀ file, (attempt files name a).installed = some file → file = a.content
  installs : a.isUninterrupted = true → (attempt files name a).installed.isSome = true

/-- The temporary file, if any, is the beginning of the content, and not all of it. -/
def resumable (files : Files) (name : String) (content : Bytes) : Bool :=
  (files (tempFile name)).all fun temp => temp.isPrefixOf content && temp ≠ content

/-- An attempt that is not interrupted asks for all, is served all, or can resume. -/
def resumes (files : Files) (name : String) (a : Attempt) : Bool :=
  !a.isUninterrupted || !a.ranges || resumable files name a.content

/-- `P` holds of the attempts that are made, with the files each of them finds. -/
def EveryAttempt (P : Files → String → Attempt → Prop) (name : String) :
    Nat → Files → List Attempt → Prop
  | 0, _, _ => True
  | _ + 1, _, [] => True
  | left + 1, files, a :: attempts => P files name a ∧
      ((attempt files name a).verdict = .failed →
        EveryAttempt P name left (attempt files name a).files attempts)

/-- `P` holds of the attempts of a call. -/
def Call.Every (r : UrlReader) (P : Files → String → Attempt → Prop) (files : Files) (c : Call) :
    Prop :=
  c.cancelledBefore = false →
    EveryAttempt P (finalFilename r c) maxRetries files c.attempts

/-- The files after a call. -/
def download (r : UrlReader) (files : Files) (c : Call) : Files := (downloadApk r files c).files

/-! ## One attempt -/

section Attempt

variable {files : Files} {name : String} {a : Attempt}

theorem resumable_none (h : files (tempFile name) = none) :
    resumable files name a.content = true := by
  rw [resumable, h]
  rfl

theorem resumable_some {temp : Bytes} (h : files (tempFile name) = some temp) (content : Bytes) :
    resumable files name content = true ↔ temp <+: content ∧ temp.length < content.length := by
  rw [resumable, h, Option.all_some, Bool.and_eq_true, List.isPrefixOf_iff_prefix,
    decide_eq_true_eq]
  refine and_congr_right fun hbegins => ?_
  constructor
  · intro hne
    exact Nat.lt_of_le_of_ne hbegins.length_le fun heq => hne (hbegins.eq_of_length heq)
  · rintro hlt rfl
    exact Nat.lt_irrefl _ hlt

/-- The body that completes the temporary file, or replaces it, is sent exactly if the attempt is
served all of the content or can resume. -/
theorem kept_append_body :
    ((response files name a).1 = 200 ∨ (response files name a).1 = 206) ∧
      kept files name (response files name a).1 ++ (response files name a).2 = a.content ↔
    a.ranges = false ∨ resumable files name a.content = true := by
  cases htemp : files (tempFile name) with
  | none => simp [response, Attempt.respond, kept, htemp, resumable_none htemp]
  | some temp =>
    cases hranges : a.ranges with
    | false => simp [response, Attempt.respond, kept, htemp, hranges]
    | true =>
      rw [resumable_some htemp, List.prefix_iff_eq_append]
      by_cases hlt : temp.length < a.content.length
      · simp [response, Attempt.respond, kept, htemp, hranges, hlt]
      · simp [response, Attempt.respond, htemp, hranges, hlt]

/-- What is installed: the temporary file and the body, if all of it is read. -/
theorem installed_attempt (files : Files) (name : String) (a : Attempt) :
    (attempt files name a).installed =
      if a.isUninterrupted = true ∧
          ((response files name a).1 = 200 ∨ (response files name a).1 = 206) then
        some (kept files name (response files name a).1 ++ (response files name a).2)
      else none := by
  rw [attempt, Attempt.isUninterrupted]
  cases a.responds with
  | false => rfl
  | true =>
    by_cases hread : (response files name a).1 = 200 ∨ (response files name a).1 = 206
    · cases a.ending <;> simp [hread]
    · cases a.ending <;> simp [hread]

/-- An attempt is exact exactly if it resumes. -/
theorem attemptExact_iff : AttemptExact files name a ↔ resumes files name a = true := by
  have hinstalled := installed_attempt files name a
  rw [resumes, Bool.or_assoc, Bool.or_eq_true, Bool.or_eq_true, Bool.not_eq_true',
    Bool.not_eq_true', ← kept_append_body]
  constructor
  · intro h
    cases hending : a.isUninterrupted with
    | false => exact Or.inl rfl
    | true =>
      obtain ⟨file, hfile⟩ := Option.isSome_iff_exists.mp (h.installs hending)
      have hexact := h.exact file hfile
      rw [hinstalled] at hfile
      split at hfile
      case isTrue hread =>
        cases hfile
        exact Or.inr ⟨hread.2, hexact⟩
      case isFalse => cases hfile
  · rintro (hinterrupted | ⟨hread, hcontent⟩)
    · rw [if_neg (by simp [hinterrupted])] at hinstalled
      constructor
      · intro file hfile
        rw [hinstalled] at hfile
        cases hfile
      · intro huninterrupted
        rw [hinterrupted] at huninterrupted
        cases huninterrupted
    · rw [hcontent] at hinstalled
      constructor
      · intro file hfile
        rw [hinstalled] at hfile
        split at hfile
        · cases hfile
          rfl
        · cases hfile
      · intro huninterrupted
        rw [hinstalled, if_pos ⟨huninterrupted, hread⟩]
        rfl

end Attempt

/-! ## Every run -/

theorem everyAttempt_congr {P Q : Files → String → Attempt → Prop}
    (h : ∀ files name a, P files name a ↔ Q files name a) (name : String) (left : Nat)
    (files : Files) (attempts : List Attempt) :
    EveryAttempt P name left files attempts ↔ EveryAttempt Q name left files attempts := by
  induction left generalizing files attempts with
  | zero => exact Iff.rfl
  | succ left ih =>
    cases attempts with
    | nil => exact Iff.rfl
    | cons a attempts => rw [EveryAttempt, EveryAttempt, h, ih]

/-- Every attempt of every download installs what its URL serves exactly if each attempt that is not
interrupted asks for all, is served all, or finds the beginning of what its URL serves in the
temporary file, and not all of it. -/
theorem everyDownload_exact_iff (r : UrlReader) (files : Files) (calls : List Call) :
    EveryStep (download r) (fun files c => c.Every r AttemptExact files) files calls ↔
      EveryStep (download r)
        (fun files c => c.Every r (fun files name a => resumes files name a = true) files)
        files calls := by
  have hcall : ∀ (files : Files) (c : Call), True →
      (c.Every r AttemptExact files ↔
        c.Every r (fun files name a => resumes files name a = true) files) := by
    intro files c _
    exact imp_congr_right fun _ => everyAttempt_congr (fun _ _ _ => attemptExact_iff) _ _ _ _
  exact everyStep_congr hcall (fun _ _ _ _ => trivial) trivial calls

/-- Two URLs with one file name: the package of the one is completed by that of the other. And a
file that is complete before it is renamed keeps every later attempt from succeeding. -/
theorem resumed_mixes_packages :
    ¬ (∀ (r : UrlReader) (calls : List Call),
      EveryStep (download r) (fun files c => c.Every r AttemptExact files) (fun _ => none) calls) ∧
      ∃ r : UrlReader, getFileNameFromUrl r "https://a.example/get/app.apk" =
          getFileNameFromUrl r "https://b.example/get/app.apk" ∧
        (attempt (download r (fun _ => none) ⟨"com.a", "https://a.example/get/app.apk", false,
            [⟨true, [1, 2, 3, 4], true, .cancelled 2⟩]⟩) "app.apk"
          ⟨true, [5, 6, 7, 8], true, .uninterrupted true⟩).installed = some [1, 2, 7, 8] ∧
        (attempt (download r (fun _ => none) ⟨"com.a", "https://a.example/get/app.apk", false,
            [⟨true, [1, 2, 3, 4], true, .cancelled 4⟩]⟩) "app.apk"
          ⟨true, [1, 2, 3, 4], true, .uninterrupted true⟩).verdict = .refused 416 := by
  refine ⟨fun h => ?_, ⟨fun _ => some ⟨none, some "app.apk", some "/get/app.apk"⟩, some⟩, rfl,
    by decide, by decide⟩
  have hrun := h ⟨fun _ => some ⟨none, some "app.apk", some "/get/app.apk"⟩, some⟩
    [⟨"com.a", "https://a.example/get/app.apk", false,
      [⟨true, [1, 2, 3, 4], true, .cancelled 2⟩]⟩,
      ⟨"com.b", "https://b.example/get/app.apk", false,
        [⟨true, [5, 6, 7, 8], true, .uninterrupted true⟩]⟩]
  have hmixed := (hrun.2.1 rfl).1.exact [1, 2, 7, 8] (by decide)
  exact absurd hmixed (by decide)

/-! ## Stable contents -/

/-- A download is not broken off when all bytes of a body are written. -/
def endsEarly (files : Files) (name : String) (a : Attempt) : Bool :=
  !a.responds || match a.ending with
    | .interrupted bytes => bytes < (response files name a).2.length
    | .cancelled bytes => bytes < (response files name a).2.length
    | .uninterrupted _ => true

/-- Every temporary file is the beginning of the content its name stands for. -/
def Partial (contentOf : String → Bytes) (files : Files) : Prop :=
  ∀ name, resumable files name (contentOf name) = true

section Stable

variable {contentOf : String → Bytes} {files : Files} {name : String} {a : Attempt}

theorem Partial.set_none (h : Partial contentOf files) (file : String) :
    Partial contentOf (files.set file none) := by
  intro name
  by_cases hname : tempFile name = file
  · have hnone : files.set file none (tempFile name) = none := if_pos hname
    rw [resumable, hnone]
    rfl
  · have hsame : files.set file none (tempFile name) = files (tempFile name) := if_neg hname
    rw [resumable, hsame]
    exact h name

/-- What is written of a body that completes the content is its beginning. -/
theorem Partial.set_written (h : Partial contentOf files) (hcontent : a.content = contentOf name)
    {bytes : Nat} (hearly : bytes < (response files name a).2.length) :
    Partial contentOf (files.set (tempFile name) (written files name a bytes)) := by
  have hresumable : resumable files name a.content = true := hcontent ▸ h name
  obtain ⟨-, hbody⟩ := kept_append_body.mpr (Or.inr hresumable)
  intro name'
  by_cases hname : tempFile name' = tempFile name
  · obtain rfl : name' = name := (String.append_left_inj ".tmp").mp hname
    have hset : files.set (tempFile name') (written files name' a bytes) (tempFile name') =
      some (written files name' a bytes) := if_pos rfl
    rw [resumable_some hset, ← hcontent, ← hbody, written]
    refine ⟨List.prefix_append_right_inj _ |>.mpr (List.take_prefix _ _), ?_⟩
    rw [List.length_append, List.length_append, List.length_take]
    omega
  · have hsame : files.set (tempFile name) (written files name a bytes) (tempFile name') =
      files (tempFile name') := if_neg hname
    rw [resumable, hsame]
    exact h name'

theorem Partial.attempt (h : Partial contentOf files) (hcontent : a.content = contentOf name)
    (hearly : endsEarly files name a = true) :
    Partial contentOf (attempt files name a).files := by
  rw [endsEarly] at hearly
  rw [Astore.attempt]
  cases hresponds : a.responds with
  | false => exact h
  | true =>
    rw [hresponds] at hearly
    rw [if_neg (by decide)]
    split
    case isFalse => exact h
    case isTrue =>
      cases hending : a.ending with
      | interrupted bytes => exact h.set_written hcontent (by simpa [hending] using hearly)
      | cancelled bytes => exact h.set_written hcontent (by simpa [hending] using hearly)
      | uninterrupted installs => exact (h.set_none _).set_none _

end Stable

/-- The invariant rule for the attempts of a call. -/
theorem everyAttempt_of_invariant {Inv : Files → Prop} {P Q : Files → String → Attempt → Prop}
    {name : String}
    (keeps : ∀ files a, Inv files → P files name a → Inv (attempt files name a).files)
    (gives : ∀ files a, Inv files → P files name a → Q files name a) {left : Nat}
    (lastException : Bool) {files : Files} {attempts : List Attempt} (h : Inv files)
    (hP : EveryAttempt P name left files attempts) :
    EveryAttempt Q name left files attempts ∧
      Inv (retry name left lastException files attempts).1 := by
  induction left generalizing files attempts lastException with
  | zero => exact ⟨trivial, h⟩
  | succ left ih =>
    cases attempts with
    | nil => exact ⟨trivial, h⟩
    | cons a attempts =>
      have hkeeps := keeps files a h hP.1
      rw [EveryAttempt, retry]
      by_cases hfailed : (attempt files name a).verdict = .failed
      · obtain ⟨hrest, hinv⟩ := ih true hkeeps (hP.2 hfailed)
        rw [if_pos hfailed]
        exact ⟨⟨gives files a h hP.1, fun _ => hrest⟩, hinv⟩
      · rw [if_neg hfailed]
        exact ⟨⟨gives files a h hP.1, fun hyes => absurd hyes hfailed⟩, hkeeps⟩

/-- Where each file name stands for one content, and no download is broken off when all bytes of a
body are written, every attempt installs what its URL serves. -/
theorem everyDownload_exact_of_stable (r : UrlReader) (contentOf : String → Bytes)
    (calls : List Call)
    (h : EveryStep (download r) (fun files c => c.Every r (fun files name a =>
      a.content = contentOf name ∧ endsEarly files name a = true) files) (fun _ => none) calls) :
    EveryStep (download r) (fun files c => c.Every r AttemptExact files) (fun _ => none) calls := by
  have hcall : ∀ (files : Files) (c : Call), Partial contentOf files →
      c.Every r (fun files name a => a.content = contentOf name ∧
        endsEarly files name a = true) files →
      c.Every r AttemptExact files ∧ Partial contentOf (download r files c) := by
    intro files c hpartial hevery
    rw [download, downloadApk]
    cases hcancelled : c.cancelledBefore with
    | true => exact ⟨fun hgoes => absurd (hcancelled.symm.trans hgoes) nofun, hpartial⟩
    | false =>
      obtain ⟨hexact, hkept⟩ := everyAttempt_of_invariant (Q := AttemptExact)
        (fun files a hp hP => hp.attempt hP.1 hP.2)
        (fun files a hp hP => attemptExact_iff.mpr (by
          rw [resumes, hP.1, hp, Bool.or_true]))
        false hpartial (hevery hcancelled)
      exact ⟨fun _ => hexact, hkept⟩
  exact everyStep_of_invariant (fun files c hp hevery => (hcall files c hp hevery).2)
    (fun files c hp hevery => (hcall files c hp hevery).1) (fun name => rfl) h

end SecureGuard.Astore
