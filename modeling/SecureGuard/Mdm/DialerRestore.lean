import Mathlib.Data.Finset.Basic
import SecureGuard.Lib.Machine
import SecureGuard.Mdm.Features

/-! # Hiding and restoring the dialer

Blocking incoming calls hides the default dialer and saves its name; unblocking reads the name,
shows that package again and clears the name. Either request starts a coroutine, and coroutines
interleave between their reads and writes, which `Device` takes in larger steps. -/

namespace SecureGuard.Mdm.Dialer
open Machine

/-! ## The feature -/

/-- A request by what it has left to do: the first four are of `enableBlocking`, the others of
`disableBlocking`. -/
inductive Request
  | toRecord (originalDialer : Package)
  | toHide (originalDialer : Package)
  | toInstall
  | enabled
  | toRead
  | toUnhide (originalDialer : Package)
  | toClear
  | disabled
deriving DecidableEq

def Request.Finished (r : Request) : Prop := r = .enabled ∨ r = .disabled

instance (r : Request) : Decidable r.Finished := inferInstanceAs (Decidable (_ ∨ _))

/-- The device, with the requests in the order they were made. -/
structure Phone where
  sdkInt : Nat
  isDeviceOwner : Bool
  originalDialer : Option Package
  hidden : Finset Package
  requests : List Request

/-- A call of `applyPolicy`, with the readings it is made at, or the next step of the coroutine of
the request `k`. -/
inductive Action
  | enable (isPolicyActive : Bool) (defaultDialerPackage : Option Package)
  | disable
  | goOn (k : Nat)

def requiredSdkVersion : Nat := 23

namespace Phone

/-- The coroutine of `enableBlocking`, unless NoPhone is installed already. -/
def enableBlocking (isPolicyActive : Bool) (defaultDialerPackage : Option Package) : Request :=
  if isPolicyActive then .enabled
  else defaultDialerPackage.elim .toInstall fun originalDialer =>
    if originalDialer ≠ noPhonePackageName then .toRecord originalDialer else .toInstall

/-- A request is made; on an old device it has nothing to do. -/
def request (s : Phone) (launched finished : Request) : Phone :=
  { s with
    requests := s.requests ++ [if s.sdkInt < requiredSdkVersion then finished else launched] }

def setRequest (s : Phone) (k : Nat) (r : Request) : Phone :=
  { s with requests := s.requests.set k r }

/-- The request `k` goes on. `setApplicationHidden` throws for anyone but the device owner, which
ends the request. -/
def proceed (s : Phone) (k : Nat) : Request → Phone
  | .toRecord d => { s with originalDialer := some d }.setRequest k (.toHide d)
  | .toHide d =>
    if s.isDeviceOwner then { s with hidden := insert d s.hidden }.setRequest k .toInstall
    else s.setRequest k .enabled
  | .toInstall => s.setRequest k .enabled
  | .enabled => s
  | .toRead => s.setRequest k (s.originalDialer.elim .disabled .toUnhide)
  | .toUnhide d =>
    if s.isDeviceOwner then { s with hidden := s.hidden.erase d }.setRequest k .toClear
    else s.setRequest k .disabled
  | .toClear => { s with originalDialer := none }.setRequest k .disabled
  | .disabled => s

def step (s : Phone) : Action → Phone
  | .enable isPolicyActive defaultDialerPackage =>
    s.request (enableBlocking isPolicyActive defaultDialerPackage) .enabled
  | .disable => s.request .toRead .disabled
  | .goOn k => s.requests[k]?.elim s (s.proceed k)

def installed (sdkInt : Nat) (isDeviceOwner : Bool) : Phone :=
  ⟨sdkInt, isDeviceOwner, none, ∅, []⟩

end Phone

/-! ## What is to hold -/

/-- Once every request has finished and the last one was a disable, nothing is hidden. -/
def Phone.Restored (s : Phone) : Prop :=
  (∀ r ∈ s.requests, r.Finished) → s.requests.getLast? = some .disabled → s.hidden = ∅

instance (s : Phone) : Decidable s.Restored := inferInstanceAs (Decidable (_ → _))

namespace Phone

/-- The saved name may give way to `new`: it is the same, or no request is about to hide its
package, and if that is hidden a request is about to show it. -/
def mayOverwrite (s : Phone) (new : Option Package) : Bool :=
  s.originalDialer = new || s.originalDialer.all fun d =>
    Request.toHide d ∉ s.requests && (d ∉ s.hidden || Request.toUnhide d ∈ s.requests)

/-- `k` is the last request. -/
def isLast (s : Phone) (k : Nat) : Bool := k + 1 = s.requests.length

/-- No name is overwritten that is still needed, and where the last request is a disable, it reads
the name only once every enable has saved its own, and shows the dialer only once none has it
left to hide. -/
def fits (s : Phone) : Action → Bool
  | .goOn k => s.requests[k]?.all fun
    | .toRecord d => s.mayOverwrite (some d)
    | .toRead => !s.isLast k || s.requests.all fun | .toRecord _ => false | _ => true
    | .toUnhide _ => !s.isLast k || s.requests.all fun | .toHide _ => false | _ => true
    | .toClear => s.mayOverwrite none
    | _ => true
  | _ => true

end Phone

/-! ## The requests -/

section Requests

variable {l : List Request} {k : Nat} {r r' old : Request}

theorem mem_set_of_ne (hold : l[k]? = some old) (hr : r ∈ l) (hne : r ≠ old) : r ∈ l.set k r' := by
  obtain ⟨j, hj⟩ := List.mem_iff_getElem?.mp hr
  refine List.mem_iff_getElem?.mpr ⟨j, ?_⟩
  rw [List.getElem?_set_ne, hj]
  rintro rfl
  rw [hold] at hj
  exact hne (Option.some.inj hj).symm

theorem mem_set_self (hold : l[k]? = some old) : r ∈ l.set k r := by
  obtain ⟨hk, -⟩ := List.getElem?_eq_some_iff.mp hold
  exact List.mem_set hk r

/-- What is in the list after a request went on, and is not its new state, was there before. -/
theorem mem_of_mem_set (h : r ∈ l.set k r') (hne : r ≠ r') : r ∈ l :=
  (List.mem_or_eq_of_mem_set h).resolve_right hne

theorem getLast?_set (hold : l[k]? = some old) :
    (l.set k r).getLast? = if k + 1 = l.length then some r else l.getLast? := by
  obtain ⟨hk, -⟩ := List.getElem?_eq_some_iff.mp hold
  rw [List.getLast?_eq_getElem?, List.getLast?_eq_getElem?, List.length_set, List.getElem?_set]
  split <;> split <;> first | rfl | omega

theorem getLast?_eq (hold : l[k]? = some old) (hlast : k + 1 = l.length) :
    l.getLast? = some old := by
  rw [List.getLast?_eq_getElem?, ← hlast]
  exact hold

end Requests

/-! ## What every run keeps -/

/-- A disable that has read the name. -/
def Request.hasRead : Request → Bool
  | .toUnhide _ => true
  | .toClear => true
  | .disabled => true
  | _ => false

namespace Phone

/-- With the last request at `r`. A disable that has read the name is followed by no other name;
what is hidden, some request is about to show, and only the last one's own dialer is still to be
hidden, while that is not shown yet. -/
def Settling (s : Phone) (r : Request) : Prop :=
  (∀ d, .toRecord d ∉ s.requests) ∧ (∀ d ∈ s.hidden, .toUnhide d ∈ s.requests) ∧
    ∀ d, .toHide d ∈ s.requests → r = .toUnhide d

structure Inv (s : Phone) : Prop where
  recorded : ∀ d, .toHide d ∈ s.requests → s.originalDialer = some d
  saved : ∀ d ∈ s.hidden, s.originalDialer = some d ∨ .toUnhide d ∈ s.requests
  unsupported : s.sdkInt < requiredSdkVersion → s.hidden = ∅ ∧ ∀ r ∈ s.requests, r.Finished
  unowned : s.isDeviceOwner = false → s.hidden = ∅
  settling : ∀ r, s.requests.getLast? = some r → r.hasRead = true → s.Settling r

end Phone

namespace Phone

variable {s : Phone} {k : Nat} {r : Request} {d : Package}

theorem Inv.restored (hs : s.Inv) : s.Restored := by
  intro hfinished hlast
  obtain ⟨-, hshown, -⟩ := hs.settling _ hlast rfl
  refine Finset.eq_empty_of_forall_notMem fun d hd => ?_
  obtain h | h := hfinished _ (hshown d hd) <;> cases h

theorem mem_requests (hk : s.requests[k]? = some r) : r ∈ s.requests :=
  List.mem_of_getElem? hk

/-- A request that has something to do is on a device that supports the feature. -/
theorem Inv.supported (hs : s.Inv) (hk : s.requests[k]? = some r) (h : ¬ r.Finished) :
    ¬ s.sdkInt < requiredSdkVersion :=
  fun hold => h ((hs.unsupported hold).2 r (mem_requests hk))

/-- Only a request that has something to do is about to hide, to show or to record. -/
theorem inv_request (hs : s.Inv) {launched finished : Request}
    (hlaunched : ∀ d, launched ≠ .toHide d) (hunread : launched.hasRead = false)
    (hfinished : finished.Finished) : (s.request launched finished).Inv := by
  by_cases hold : s.sdkInt < requiredSdkVersion
  · obtain ⟨hempty, hall⟩ := hs.unsupported hold
    have hreq : (s.request launched finished).requests = s.requests ++ [finished] := by
      rw [request, if_pos hold]
    have hfin : ∀ r ∈ (s.request launched finished).requests, r.Finished := by
      intro r hr
      rw [hreq, List.mem_append, List.mem_singleton] at hr
      obtain hr | rfl := hr
      · exact hall r hr
      · exact hfinished
    have hidle : ∀ r ∈ (s.request launched finished).requests,
        (∀ d, r ≠ .toRecord d) ∧ ∀ d, r ≠ .toHide d := by
      intro r hr
      obtain rfl | rfl := hfin r hr <;> simp
    refine ⟨fun d hd => absurd rfl ((hidle _ hd).2 d), fun d hd => ?_, fun _ => ⟨hempty, hfin⟩,
      fun _ => hempty, fun r _ _ => ⟨fun d hd => absurd rfl ((hidle _ hd).1 d), fun d hd => ?_,
      fun d hd => absurd rfl ((hidle _ hd).2 d)⟩⟩
    · exact absurd hd (hempty ▸ Finset.notMem_empty d)
    · exact absurd hd (hempty ▸ Finset.notMem_empty d)
  · have hreq : (s.request launched finished).requests = s.requests ++ [launched] := by
      rw [request, if_neg hold]
    refine ⟨fun d hd => ?_, fun d hd => ?_, fun h => absurd h hold, hs.unowned,
      fun r hr hread => ?_⟩
    · rw [hreq, List.mem_append, List.mem_singleton] at hd
      obtain hd | hd := hd
      · exact hs.recorded d hd
      · exact absurd hd.symm (hlaunched d)
    · rw [hreq]
      exact (hs.saved d hd).imp_right (List.mem_append_left _)
    · rw [hreq, List.getLast?_concat] at hr
      cases hr
      rw [hunread] at hread
      cases hread

/-- A request goes on without a package to record or to hide. -/
theorem Settling.setRequest {t : Phone} {r' : Request} (h : s.Settling r')
    (hreq : t.requests = s.requests) (hrec : ∀ d, r ≠ .toRecord d) (hhide : ∀ d, r ≠ .toHide d)
    (hsub : t.hidden ⊆ s.hidden)
    (hshown : ∀ d ∈ t.hidden, .toUnhide d ∈ s.requests → .toUnhide d ∈ s.requests.set k r) :
    (t.setRequest k r).Settling r' := by
  obtain ⟨hnone, hpending, hlate⟩ := h
  rw [Settling, Phone.setRequest, hreq]
  refine ⟨fun d hd => ?_, fun d hd => ?_, fun d hd => ?_⟩
  · exact hnone d (mem_of_mem_set hd (hrec d).symm)
  · exact hshown d hd (hpending d (hsub hd))
  · exact hlate d (mem_of_mem_set hd (hhide d).symm)

/-- The request `k` went on from `old` to `r`; the state is otherwise `t`. -/
theorem inv_setRequest {t : Phone} {old : Request} (hk : t.requests[k]? = some old)
    (hsdk : ¬ t.sdkInt < requiredSdkVersion)
    (hrecorded : ∀ d, .toHide d ∈ t.requests.set k r → t.originalDialer = some d)
    (hsaved : ∀ d ∈ t.hidden, t.originalDialer = some d ∨ .toUnhide d ∈ t.requests.set k r)
    (hunowned : t.isDeviceOwner = false → t.hidden = ∅)
    (hself : k + 1 = t.requests.length → r.hasRead = true → (t.setRequest k r).Settling r)
    (hother : ∀ r', r' ∈ t.requests.set k r → t.requests.getLast? = some r' →
      k + 1 ≠ t.requests.length → r'.hasRead = true → (t.setRequest k r).Settling r') :
    (t.setRequest k r).Inv := by
  refine ⟨hrecorded, hsaved, fun h => absurd h hsdk, hunowned, fun r' hr' hread => ?_⟩
  have hmem : r' ∈ t.requests.set k r := List.mem_of_getLast? hr'
  rw [setRequest, getLast?_set hk] at hr'
  split at hr'
  · cases hr'
    exact hself ‹_› hread
  · exact hother r' hmem hr' ‹_› hread

theorem mayOverwrite_iff {new : Option Package} : s.mayOverwrite new = true ↔
    ∀ d, s.originalDialer = some d → new = some d ∨
      .toHide d ∉ s.requests ∧ (d ∈ s.hidden → .toUnhide d ∈ s.requests) := by
  rw [mayOverwrite]
  cases h : s.originalDialer with
  | none => simp
  | some d =>
    simp only [Option.all_some, Bool.or_eq_true, decide_eq_true_eq, Bool.and_eq_true,
      Option.some.injEq, forall_eq', ← imp_iff_not_or]
    rw [eq_comm]

/-- A name gives way: what was saved under it is none of the requests' concern any more. -/
theorem Inv.overwrite (hs : s.Inv) {new : Option Package} (h : s.mayOverwrite new = true) :
    (∀ d, .toHide d ∈ s.requests → new = some d) ∧
      ∀ d ∈ s.hidden, new = some d ∨ .toUnhide d ∈ s.requests := by
  rw [mayOverwrite_iff] at h
  constructor
  · intro d hd
    exact (h d (hs.recorded d hd)).resolve_right fun hno => hno.1 hd
  · intro d hd
    obtain hsaved | hshown := hs.saved d hd
    · exact (h d hsaved).imp_right fun hno => hno.2 hd
    · exact Or.inr hshown

theorem inv_toRecord (hs : s.Inv) (hk : s.requests[k]? = some (.toRecord d))
    (h : s.mayOverwrite (some d) = true) : (s.proceed k (.toRecord d)).Inv := by
  obtain ⟨hhide, hhidden⟩ := hs.overwrite h
  refine inv_setRequest hk (hs.supported hk (by simp [Request.Finished])) (fun e he => ?_)
    (fun e he => ?_) hs.unowned (fun _ hread => ?_) (fun r' _ hlast _ hread => ?_)
  · by_cases hed : Request.toHide e = .toHide d
    · cases hed
      rfl
    · exact hhide e (mem_of_mem_set he hed)
  · exact (hhidden e he).imp_right fun hu => mem_set_of_ne hk hu (by simp)
  · cases hread
  · exact absurd (mem_requests hk) ((hs.settling r' hlast hread).1 d)

/-- A step of an enable that changes nothing else. -/
theorem inv_idle (hs : s.Inv) {old : Request} (hk : s.requests[k]? = some old)
    (hbusy : ¬ old.Finished) (hold : ∀ d, old ≠ .toUnhide d) (hr : ∀ d, r ≠ .toHide d)
    (hrec : ∀ d, r ≠ .toRecord d) (hread : r.hasRead = false) : (s.setRequest k r).Inv := by
  refine inv_setRequest hk (hs.supported hk hbusy) (fun e he => ?_) (fun e he => ?_) hs.unowned
    (fun _ h => ?_) (fun r' _ hlast _ h => ?_)
  · exact hs.recorded e (mem_of_mem_set he (hr e).symm)
  · exact (hs.saved e he).imp_right fun hu => mem_set_of_ne hk hu (hold e).symm
  · rw [hread] at h
    cases h
  · exact (hs.settling r' hlast h).setRequest rfl hrec hr subset_rfl fun e _ hu =>
      mem_set_of_ne hk hu (hold e).symm

theorem inv_toHide (hs : s.Inv) (hk : s.requests[k]? = some (.toHide d)) :
    (s.proceed k (.toHide d)).Inv := by
  rw [proceed]
  split
  case isFalse howner =>
    exact inv_idle hs hk (by simp [Request.Finished]) (by simp) (by simp) (by simp) rfl
  case isTrue howner =>
    have hd := mem_requests hk
    refine inv_setRequest hk (hs.supported hk (by simp [Request.Finished])) (fun e he => ?_)
      (fun e he => ?_) (fun h => ?_) (fun _ hread => ?_) (fun r' hmem hlast _ hread => ?_)
    · exact hs.recorded e (mem_of_mem_set he (by simp))
    · obtain rfl | he := Finset.mem_insert.mp he
      · exact Or.inl (hs.recorded e hd)
      · exact (hs.saved e he).imp_right fun hu => mem_set_of_ne hk hu (by simp)
    · rw [howner] at h
      cases h
    · cases hread
    · obtain ⟨hnone, hshown, hlate⟩ := hs.settling r' hlast hread
      refine ⟨fun e he => hnone e (mem_of_mem_set he (by simp)), fun e he => ?_, fun e he => ?_⟩
      · -- The last request has read the name of the dialer that is hidden here.
        obtain rfl | he := Finset.mem_insert.mp he
        · exact hlate e hd ▸ hmem
        · exact mem_set_of_ne hk (hshown e he) (by simp)
      · exact hlate e (mem_of_mem_set he (by simp))

theorem inv_toRead (hs : s.Inv) (hk : s.requests[k]? = some .toRead)
    (h : k + 1 = s.requests.length → ∀ d, .toRecord d ∉ s.requests) :
    (s.proceed k .toRead).Inv := by
  rw [proceed]
  have hrec : ∀ d, s.originalDialer.elim .disabled .toUnhide ≠ Request.toRecord d := by
    cases s.originalDialer <;> simp
  have hhide : ∀ d, s.originalDialer.elim .disabled .toUnhide ≠ Request.toHide d := by
    cases s.originalDialer <;> simp
  refine inv_setRequest hk (hs.supported hk (by simp [Request.Finished])) (fun e he => ?_)
    (fun e he => ?_) hs.unowned (fun hlast _ => ⟨fun e he => ?_, fun e he => ?_, fun e he => ?_⟩)
    (fun r' _ hlast _ hread => ?_)
  · exact hs.recorded e (mem_of_mem_set he (hhide e).symm)
  · exact (hs.saved e he).imp_right fun hu => mem_set_of_ne hk hu (by simp)
  · exact h hlast e (mem_of_mem_set he (hrec e).symm)
  · obtain hsaved | hu := hs.saved e he
    · rw [setRequest, hsaved]
      exact mem_set_self hk
    · exact mem_set_of_ne hk hu (by simp)
  · rw [hs.recorded e (mem_of_mem_set he (hhide e).symm)]
    rfl
  · exact (hs.settling r' hlast hread).setRequest rfl hrec hhide subset_rfl fun e _ hu =>
      mem_set_of_ne hk hu (by simp)

/-- What holds of the last request holds of what it has become, if nothing is left to hide. -/
theorem Settling.of_not_toHide {r' : Request} (h : s.Settling r')
    (hhide : ∀ d, .toHide d ∉ s.requests) : s.Settling r :=
  ⟨h.1, h.2.1, fun d hd => absurd hd (hhide d)⟩

/-- A package is shown, or was not hidden; the rest stays to be shown by other requests. -/
theorem inv_shown (hs : s.Inv) {t : Phone} (hk : s.requests[k]? = some (.toUnhide d))
    (hreq : t.requests = s.requests) (hsdk : t.sdkInt = s.sdkInt)
    (hsaved : t.originalDialer = s.originalDialer) (hsub : t.hidden ⊆ s.hidden.erase d)
    (howned : t.isDeviceOwner = s.isDeviceOwner) (hrec : ∀ d, r ≠ .toRecord d)
    (hhide : ∀ d, r ≠ .toHide d) (h : k + 1 = s.requests.length → ∀ d, .toHide d ∉ s.requests) :
    (t.setRequest k r).Inv := by
  have hsub' : t.hidden ⊆ s.hidden := hsub.trans (Finset.erase_subset d s.hidden)
  have hstays : ∀ e ∈ t.hidden, .toUnhide e ∈ s.requests → .toUnhide e ∈ s.requests.set k r := by
    intro e he hu
    refine mem_set_of_ne hk hu fun heq => ?_
    exact (Finset.mem_erase.mp (hsub he)).1 (Request.toUnhide.inj heq)
  refine inv_setRequest (hreq ▸ hk) ?_ ?_ ?_ ?_ ?_ ?_
  · rw [hsdk]
    exact hs.supported hk (by simp [Request.Finished])
  · intro e he
    rw [hreq] at he
    exact hsaved ▸ hs.recorded e (mem_of_mem_set he (hhide e).symm)
  · intro e he
    rw [hreq, hsaved]
    exact (hs.saved e (hsub' he)).imp_right (hstays e he)
  · intro ho
    rw [howned] at ho
    exact Finset.subset_empty.mp (hs.unowned ho ▸ hsub')
  · intro hlast _
    rw [hreq] at hlast
    have hself := hs.settling _ (getLast?_eq hk hlast) rfl
    exact (hself.of_not_toHide (h hlast)).setRequest hreq hrec hhide hsub' hstays
  · intro r' _ hlast _ hread
    rw [hreq] at hlast
    exact (hs.settling r' hlast hread).setRequest hreq hrec hhide hsub' hstays

theorem inv_toUnhide (hs : s.Inv) (hk : s.requests[k]? = some (.toUnhide d))
    (h : k + 1 = s.requests.length → ∀ d, .toHide d ∉ s.requests) :
    (s.proceed k (.toUnhide d)).Inv := by
  rw [proceed]
  split
  case isTrue howner =>
    exact inv_shown hs hk rfl rfl rfl subset_rfl rfl (by simp) (by simp) h
  case isFalse howner =>
    have hempty := hs.unowned (Bool.eq_false_iff.mpr howner)
    refine inv_shown hs hk rfl rfl rfl ?_ rfl (by simp) (by simp) h
    rw [hempty]
    exact Finset.empty_subset _

theorem inv_toClear (hs : s.Inv) (hk : s.requests[k]? = some .toClear)
    (h : s.mayOverwrite none = true) : (s.proceed k .toClear).Inv := by
  obtain ⟨hhide, hhidden⟩ := hs.overwrite h
  have hnone : ∀ d, .toHide d ∉ s.requests := fun d hd => by cases hhide d hd
  have hstays : ∀ e, .toUnhide e ∈ s.requests → .toUnhide e ∈ s.requests.set k .disabled :=
    fun e hu => mem_set_of_ne hk hu (by simp)
  refine inv_setRequest hk (hs.supported hk (by simp [Request.Finished])) (fun e he => ?_)
    (fun e he => ?_) hs.unowned (fun hlast _ => ?_) (fun r' _ hlast _ hread => ?_)
  · exact absurd (mem_of_mem_set he (by simp)) (hnone e)
  · exact (hhidden e he).imp_right (hstays e)
  · have hself := hs.settling _ (getLast?_eq hk hlast) rfl
    exact (hself.of_not_toHide hnone).setRequest rfl (by simp) (by simp) subset_rfl
      fun e _ => hstays e
  · exact (hs.settling r' hlast hread).setRequest rfl (by simp) (by simp) subset_rfl
      fun e _ => hstays e

theorem inv_proceed (hs : s.Inv) (hk : s.requests[k]? = some r) (h : s.fits (.goOn k) = true) :
    (s.proceed k r).Inv := by
  rw [fits, hk, Option.all_some] at h
  cases r with
  | toRecord d => exact inv_toRecord hs hk h
  | toHide d => exact inv_toHide hs hk
  | toInstall =>
    exact inv_idle hs hk (by simp [Request.Finished]) (by simp) (by simp) (by simp) rfl
  | enabled => exact hs
  | toRead =>
    refine inv_toRead hs hk fun hlast d hd => ?_
    simp only [isLast, hlast, decide_true, Bool.not_true, Bool.false_or, List.all_eq_true] at h
    exact absurd (h _ hd) (by simp)
  | toUnhide d =>
    refine inv_toUnhide hs hk fun hlast e he => ?_
    simp only [isLast, hlast, decide_true, Bool.not_true, Bool.false_or, List.all_eq_true] at h
    exact absurd (h _ he) (by simp)
  | toClear => exact inv_toClear hs hk h
  | disabled => exact hs

theorem inv_step (hs : s.Inv) {a : Action} (h : s.fits a = true) : (s.step a).Inv := by
  cases a with
  | enable isPolicyActive defaultDialerPackage =>
    have hlaunched : (∀ d, enableBlocking isPolicyActive defaultDialerPackage ≠ .toHide d) ∧
        (enableBlocking isPolicyActive defaultDialerPackage).hasRead = false := by
      rw [enableBlocking]
      split
      · simp [Request.hasRead]
      · cases defaultDialerPackage with
        | none => simp [Request.hasRead]
        | some d =>
          rw [Option.elim_some]
          split <;> simp [Request.hasRead]
    exact inv_request hs hlaunched.1 hlaunched.2 (Or.inl rfl)
  | disable => exact inv_request hs (by simp) rfl (Or.inr rfl)
  | goOn k =>
    rw [step]
    cases hk : s.requests[k]? with
    | none => exact hs
    | some r => exact inv_proceed hs hk h

theorem inv_installed (sdkInt : Nat) (isDeviceOwner : Bool) :
    (installed sdkInt isDeviceOwner).Inv where
  recorded := by simp [installed]
  saved := by simp [installed]
  unsupported := by simp [installed]
  unowned := by simp [installed]
  settling := by simp [installed]

end Phone

/-! ## Every run -/

/-- **The dialer comes back**: in every run whose steps fit, once every request has finished and
the last one was a disable, nothing is hidden. -/
theorem everyState_restored (sdkInt : Nat) (isDeviceOwner : Bool) (actions : List Action)
    (h : EveryStep Phone.step (fun s a => s.fits a = true) (Phone.installed sdkInt isDeviceOwner)
      actions) :
    EveryState Phone.step Phone.Restored (Phone.installed sdkInt isDeviceOwner) actions := by
  have hgives : ∀ s : Phone, s.Inv → s.Restored := fun s hs => hs.restored
  exact everyState_of_invariant (fun s a hs hfits => Phone.inv_step hs hfits) hgives
    (Phone.inv_installed sdkInt isDeviceOwner) h

/-- The feature is enabled and disabled again, one request after the other. -/
def oneAfterTheOther : List Action :=
  [.enable false (some "com.android.dialer"), .goOn 0, .goOn 0, .goOn 0, .disable, .goOn 1, .goOn 1,
    .goOn 1]

theorem everyState_restored_oneAfterTheOther :
    EveryStep Phone.step (fun s a => s.fits a = true) (Phone.installed 34 true)
        oneAfterTheOther ∧
      EveryState Phone.step Phone.Restored (Phone.installed 34 true) oneAfterTheOther := by
  have h : EveryStep Phone.step (fun s a => s.fits a = true) (Phone.installed 34 true)
      oneAfterTheOther := by decide +kernel
  exact ⟨h, everyState_restored 34 true oneAfterTheOther h⟩

/-- The feature is enabled twice before NoPhone is installed, with the default dialer changed in
between, and then disabled. -/
def changedDialer : List Action :=
  [.enable false (some "com.android.dialer"), .goOn 0, .goOn 0, .goOn 0,
    .enable false (some "com.google.android.dialer"), .goOn 1, .goOn 1, .goOn 1,
    .disable, .goOn 2, .goOn 2, .goOn 2]

/-- Only the second dialer is shown again, and nothing has the name of the first. -/
theorem dialer_stays_hidden :
    ¬ EveryState Phone.step Phone.Restored (Phone.installed 34 true) changedDialer ∧
      (run Phone.step (Phone.installed 34 true) changedDialer).hidden = {"com.android.dialer"} ∧
      (run Phone.step (Phone.installed 34 true) changedDialer).originalDialer = none := by
  decide +kernel

end SecureGuard.Mdm.Dialer
