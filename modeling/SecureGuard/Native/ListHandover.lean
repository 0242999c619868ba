import SecureGuard.Native.ConfigChanges

/-! # The hand-over of rule lists

A reload of a list passes through a slot with room for one list: the native method looks
whether the slot is empty, loads the list and puts it there, and `pd_housekeeping` takes it
over. A request that finds the slot full is refused, and the Java side does not look at the
answer. Here a request is two steps, the look and the putting, so that requests of several
threads may overlap with each other and with housekeeping. -/

namespace SecureGuard.Native
open Machine

inductive RuleList
  | blocklist
  | firewallWhitelist
  | malwareWhitelist
  deriving DecidableEq, Repr

/-- A request with the native list its descriptor loads to; `null` for the firewall whitelist
switches whitelist mode off. -/
inductive Reload
  | blocklist (bl : Blacklist)
  | firewallWhitelist (wl : Option Blacklist)
  | malwareWhitelist (wl : Blacklist)
  deriving DecidableEq, Repr

def Reload.target : Reload → RuleList
  | .blocklist _ => .blocklist
  | .firewallWhitelist _ => .firewallWhitelist
  | .malwareWhitelist _ => .malwareWhitelist

/-! ## The two halves of a request -/

/-- Nothing waits to be taken over for the list. -/
def slotEmpty (pd : Pcapdroid) : RuleList → Bool
  | .blocklist => pd.firewall.newBl.isNone
  | .firewallWhitelist => pd.firewall.newWl.isNone
  | .malwareWhitelist => pd.malwareDetection.newWl.isNone

/-- The list can be reloaded in this capture. -/
def supports (pd : Pcapdroid) : RuleList → Bool
  | .blocklist | .firewallWhitelist => pd.vpnCapture
  | .malwareWhitelist => pd.malwareDetection.enabled

/-- What the native method looks at before it loads the list. -/
def accepts (pd : Pcapdroid) (l : RuleList) : Bool := supports pd l && slotEmpty pd l

/-- What it writes afterwards. -/
def publish (pd : Pcapdroid) : Reload → Pcapdroid
  | .blocklist bl => { pd with firewall := { pd.firewall with newBl := some bl } }
  | .firewallWhitelist none => { pd with firewall := { pd.firewall with wlEnabled := false } }
  | .firewallWhitelist (some wl) =>
    { pd with firewall := { pd.firewall with newWl := some wl, wlEnabled := true } }
  | .malwareWhitelist wl =>
    { pd with malwareDetection := { pd.malwareDetection with newWl := some wl } }

def Reload.call : Reload → JniCall
  | .blocklist bl => .reloadBlocklist bl
  | .firewallWhitelist wl => .reloadFirewallWhitelist wl
  | .malwareWhitelist wl => .reloadMalwareWhitelist wl

theorem ite_refused {α β : Type*} (supported : Bool) (slot : Option α) (x y : β) :
    (if !supported || slot.isSome then x else y) = if supported && slot.isNone then y else x := by
  cases supported <;> cases slot <;> rfl

/-- Without an interruption the two halves are the native method. -/
theorem jniCall_eq (pd : Pcapdroid) (r : Reload) :
    jniCall pd r.call = if accepts pd r.target then publish pd r else pd := by
  cases r with
  | blocklist bl => exact ite_refused _ _ _ _
  | firewallWhitelist wl => cases wl <;> exact ite_refused _ _ _ _
  | malwareWhitelist wl => exact ite_refused _ _ _ _

/-! ## Requests and housekeeping in any order -/

/-- The engine, the requests whose list is being loaded, and a ghost: the last request made
for each list. -/
structure Handover where
  pd : Pcapdroid
  loading : List Reload
  last : RuleList → Option Reload

inductive HandoverEvent
  | request (r : Reload)
  | loaded (r : Reload)
  | housekeeping
  deriving DecidableEq, Repr

def handoverStep (s : Handover) : HandoverEvent → Handover
  | .request r =>
    { s with
      loading := if accepts s.pd r.target then r :: s.loading else s.loading
      last := Function.update s.last r.target (some r) }
  | .loaded r =>
    if r ∈ s.loading then { s with pd := publish s.pd r, loading := s.loading.erase r } else s
  | .housekeeping => { s with pd := pdHousekeeping s.pd }

/-- The list in force, and `wl_enabled`, are the ones of the request. -/
def Delivered (pd : Pcapdroid) : Reload → Prop
  | .blocklist bl => pd.firewall.bl = some bl
  | .firewallWhitelist wl =>
    pd.firewall.wlEnabled = wl.isSome ∧ ∀ list ∈ wl, pd.firewall.wl = some list
  | .malwareWhitelist wl => pd.malwareDetection.whitelist = some wl

instance (pd : Pcapdroid) (r : Reload) : Decidable (Delivered pd r) := by
  cases r <;> unfold Delivered <;> infer_instance

/-- No request is in progress and no list is pending. -/
def Handover.idle (s : Handover) : Bool :=
  s.loading.isEmpty && slotEmpty s.pd .blocklist && slotEmpty s.pd .firewallWhitelist &&
    slotEmpty s.pd .malwareWhitelist

/-- When all is idle, the last request made for each list is in force. -/
def NoLostUpdate (s : Handover) : Prop :=
  s.idle = true → ∀ l, ∀ r ∈ s.last l, Delivered s.pd r

/-- A request comes when the slot of its list is empty, in a capture that has the list, and
while no other request for that list is in progress. -/
def requestedInTurn (s : Handover) : HandoverEvent → Bool
  | .request r => accepts s.pd r.target && s.loading.all fun q => q.target != r.target
  | .loaded _ | .housekeeping => true

/-! ## The invariant -/

/-- The list of the request is in its slot. -/
def Posted (pd : Pcapdroid) : Reload → Prop
  | .blocklist bl => pd.firewall.newBl = some bl
  | .firewallWhitelist none => False
  | .firewallWhitelist (some wl) =>
    pd.firewall.newWl = some wl ∧ pd.firewall.wlEnabled = true
  | .malwareWhitelist wl => pd.malwareDetection.newWl = some wl

/-- The request is being loaded, or waits in its slot, or is in force with nothing behind. -/
def Carried (s : Handover) (r : Reload) : Prop :=
  r ∈ s.loading ∨ Posted s.pd r ∨ (slotEmpty s.pd r.target = true ∧ Delivered s.pd r)

structure InTurn (s : Handover) : Prop where
  nodup : s.loading.Nodup
  slot : ∀ r ∈ s.loading, slotEmpty s.pd r.target = true
  isLast : ∀ r ∈ s.loading, s.last r.target = some r
  carried : ∀ l, ∀ r ∈ s.last l, r.target = l ∧ Carried s r

theorem InTurn.delivers_of_idle {s : Handover} (h : InTurn s) : NoLostUpdate s := by
  intro hidle l r hr
  simp only [Handover.idle, Bool.and_eq_true, List.isEmpty_iff] at hidle
  obtain ⟨⟨⟨hloading, hbl⟩, hwl⟩, hmw⟩ := hidle
  rcases (h.carried l r hr).2 with hmem | hposted | hdelivered
  · simp [hloading] at hmem
  · cases r with
    | blocklist bl => simp_all [Posted, slotEmpty]
    | firewallWhitelist wl => cases wl <;> simp_all [Posted, slotEmpty]
    | malwareWhitelist wl => simp_all [Posted, slotEmpty]
  · exact hdelivered.2

/-! ## Writing a slot -/

theorem slotEmpty_publish_of_ne {pd : Pcapdroid} {q : Reload} {l : RuleList}
    (h : q.target ≠ l) : slotEmpty (publish pd q) l = slotEmpty pd l := by
  cases q with
  | blocklist bl => cases l <;> first | rfl | exact absurd rfl h
  | firewallWhitelist wl => cases wl <;> cases l <;> first | rfl | exact absurd rfl h
  | malwareWhitelist wl => cases l <;> first | rfl | exact absurd rfl h

/-- Writing the slot of one list leaves the requests for the others where they are. -/
theorem carried_publish_of_ne (pd : Pcapdroid) {q r : Reload} (h : q.target ≠ r.target) :
    (Posted (publish pd q) r ↔ Posted pd r) ∧ (Delivered (publish pd q) r ↔ Delivered pd r) := by
  rcases q with bl | (_ | wl) | wl <;> rcases r with bl' | (_ | wl') | wl' <;>
    first | exact absurd rfl h | exact ⟨Iff.rfl, Iff.rfl⟩

/-- A request that finds its slot empty is in the slot afterwards; `null` is in force at
once. -/
theorem posted_or_delivered_publish {pd : Pcapdroid} {r : Reload}
    (h : slotEmpty pd r.target = true) : Posted (publish pd r) r ∨
      (slotEmpty (publish pd r) r.target = true ∧ Delivered (publish pd r) r) := by
  cases r with
  | blocklist bl => exact Or.inl rfl
  | firewallWhitelist wl =>
    cases wl with
    | none => exact Or.inr ⟨h, rfl, by simp⟩
    | some wl => exact Or.inl ⟨rfl, rfl⟩
  | malwareWhitelist wl => exact Or.inl rfl

/-! ## Taking the lists over -/

/-- The whitelist in force after housekeeping is the pending one, if there is one. -/
theorem pdHousekeeping_whitelist (pd : Pcapdroid) :
    (pdHousekeeping pd).malwareDetection.whitelist =
      pd.malwareDetection.newWl.or pd.malwareDetection.whitelist := by
  have hdump : (dumpOrReload pd).malwareDetection.whitelist = pd.malwareDetection.whitelist := by
    unfold dumpOrReload reloadStep useNewBlacklists
    repeat' split
    all_goals rfl
  have hinstalled : ∀ pd', (installMalwareWhitelist pd').malwareDetection.whitelist =
      pd'.malwareDetection.newWl.or pd'.malwareDetection.whitelist := by
    intro pd'
    cases hnew : pd'.malwareDetection.newWl with
    | none => rw [installMalwareWhitelist_none hnew]; rfl
    | some wl =>
      rw [installMalwareWhitelist_eq hnew]
      obtain ⟨conns, he⟩ := iterActiveConnections_frame (withWhitelist pd' wl) _
      rw [he]
      rfl
  rw [pdHousekeeping_malwareDetection, beforeFirewall, hinstalled, dumpOrReload_newWl, hdump]

theorem slotEmpty_pdHousekeeping {pd : Pcapdroid} {l : RuleList}
    (h : slotEmpty pd l = true) : slotEmpty (pdHousekeeping pd) l = true := by
  cases l with
  | blocklist =>
    simp only [slotEmpty, pdHousekeeping_firewall, Option.isNone_iff_eq_none] at *
    unfold Firewall.installed
    split <;> simp_all
  | firewallWhitelist =>
    simp only [slotEmpty, pdHousekeeping_firewall, Option.isNone_iff_eq_none] at *
    unfold Firewall.installed
    split <;> simp_all
  | malwareWhitelist => simp only [slotEmpty, pdHousekeeping_newWl, Option.isNone_none]

/-- A list in its slot is taken over, or stays there behind another one. -/
theorem posted_or_delivered_pdHousekeeping {pd : Pcapdroid} {r : Reload} (h : Posted pd r) :
    Posted (pdHousekeeping pd) r ∨
      (slotEmpty (pdHousekeeping pd) r.target = true ∧ Delivered (pdHousekeeping pd) r) := by
  cases r with
  | blocklist bl =>
    right
    simp only [Posted] at h
    simp [slotEmpty, Delivered, Reload.target, pdHousekeeping_firewall, Firewall.installed, h]
  | firewallWhitelist wl =>
    cases wl with
    | none => exact h.elim
    | some wl =>
      simp only [Posted] at h
      cases hbl : pd.firewall.newBl <;>
        simp [Posted, slotEmpty, Delivered, Reload.target, pdHousekeeping_firewall,
          Firewall.installed, h, hbl]
  | malwareWhitelist wl =>
    right
    simp only [Posted] at h
    simp [slotEmpty, Delivered, Reload.target, pdHousekeeping_newWl, pdHousekeeping_whitelist, h]

theorem delivered_pdHousekeeping {pd : Pcapdroid} {r : Reload}
    (hslot : slotEmpty pd r.target = true) (h : Delivered pd r) :
    Delivered (pdHousekeeping pd) r := by
  cases r with
  | blocklist bl =>
    simp only [slotEmpty, Reload.target, Option.isNone_iff_eq_none, Delivered] at *
    rw [pdHousekeeping_firewall]
    cases hwl : pd.firewall.newWl <;> simp [Firewall.installed, hslot, hwl, h]
  | firewallWhitelist wl =>
    simp only [slotEmpty, Reload.target, Option.isNone_iff_eq_none, Delivered] at *
    rw [pdHousekeeping_firewall]
    cases hbl : pd.firewall.newBl <;> simpa [Firewall.installed, hslot, hbl] using h
  | malwareWhitelist wl =>
    simp only [slotEmpty, Reload.target, Option.isNone_iff_eq_none, Delivered] at *
    simp [pdHousekeeping_whitelist, hslot, h]

/-! ## The steps keep the invariant -/

theorem inTurn_request {s : Handover} (h : InTurn s) {r : Reload}
    (hturn : requestedInTurn s (.request r) = true) : InTurn (handoverStep s (.request r)) := by
  simp only [requestedInTurn, Bool.and_eq_true, List.all_eq_true, bne_iff_ne, ne_eq] at hturn
  obtain ⟨haccepts, hothers⟩ := hturn
  have hslot : slotEmpty s.pd r.target = true := (Bool.and_eq_true_iff.mp haccepts).2
  simp only [handoverStep, haccepts, if_true]
  refine ⟨?_, ?_, ?_, ?_⟩
  · exact List.nodup_cons.mpr ⟨fun hmem => hothers r hmem rfl, h.nodup⟩
  · intro q hq
    rcases List.mem_cons.mp hq with rfl | hq
    · exact hslot
    · exact h.slot q hq
  · intro q hq
    rcases List.mem_cons.mp hq with rfl | hq
    · exact Function.update_self ..
    · exact (Function.update_of_ne (hothers q hq) ..).trans (h.isLast q hq)
  · intro l q hq
    by_cases hl : l = r.target
    · subst hl
      obtain rfl : r = q := by simpa using hq
      exact ⟨rfl, Or.inl List.mem_cons_self⟩
    · obtain ⟨htarget, hcarried⟩ := h.carried l q (by simpa [Function.update_of_ne hl] using hq)
      exact ⟨htarget, hcarried.imp (List.mem_cons_of_mem _) id⟩

theorem inTurn_loaded {s : Handover} (h : InTurn s) (r : Reload) :
    InTurn (handoverStep s (.loaded r)) := by
  simp only [handoverStep]
  split
  · next hr =>
    -- a request still in progress is for another list, since the last one for a list is one
    have hothers : ∀ q ∈ s.loading.erase r, r.target ≠ q.target := by
      intro q hq htarget
      obtain ⟨hne, hmem⟩ := (h.nodup.mem_erase_iff).mp hq
      have hq' := h.isLast q hmem
      rw [← htarget, h.isLast r hr] at hq'
      exact hne (Option.some.inj hq').symm
    refine ⟨h.nodup.erase r, ?_, ?_, ?_⟩
    · intro q hq
      rw [slotEmpty_publish_of_ne (hothers q hq)]
      exact h.slot q (List.mem_of_mem_erase hq)
    · exact fun q hq => h.isLast q (List.mem_of_mem_erase hq)
    · intro l q hq
      obtain ⟨htarget, hcarried⟩ := h.carried l q hq
      refine ⟨htarget, ?_⟩
      by_cases hl : r.target = q.target
      · have hlast := h.isLast r hr
        rw [hl, htarget] at hlast
        obtain rfl : r = q := Option.some.inj (hlast.symm.trans hq)
        exact Or.inr (posted_or_delivered_publish (h.slot r hr))
      · obtain ⟨hposted, hdelivered⟩ := carried_publish_of_ne s.pd hl
        rcases hcarried with hmem | hrest
        · have hne : q ≠ r := fun he => hl (by rw [he])
          exact Or.inl ((List.mem_erase_of_ne hne).mpr hmem)
        · right
          simpa only [hposted, hdelivered, slotEmpty_publish_of_ne hl] using hrest
  · exact h

theorem inTurn_housekeeping {s : Handover} (h : InTurn s) :
    InTurn (handoverStep s .housekeeping) := by
  refine ⟨h.nodup, fun r hr => slotEmpty_pdHousekeeping (h.slot r hr), h.isLast, ?_⟩
  intro l r hr
  obtain ⟨htarget, hcarried⟩ := h.carried l r hr
  refine ⟨htarget, ?_⟩
  rcases hcarried with hmem | hposted | ⟨hslot, hdelivered⟩
  · exact Or.inl hmem
  · exact Or.inr (posted_or_delivered_pdHousekeeping hposted)
  · exact Or.inr (Or.inr ⟨slotEmpty_pdHousekeeping hslot,
      delivered_pdHousekeeping hslot hdelivered⟩)

/-- A run starts with no request made. -/
def Handover.start (pd : Pcapdroid) : Handover where
  pd := pd
  loading := []
  last := fun _ => none

theorem inTurn_start (pd : Pcapdroid) : InTurn (Handover.start pd) where
  nodup := List.nodup_nil
  slot := by simp [Handover.start]
  isLast := by simp [Handover.start]
  carried := by simp [Handover.start]

/-- **No list update is lost** in a run whose requests all come in turn: whenever no request
is in progress and no list is pending, the last request made for each list is in force. -/
theorem noLostUpdate (pd : Pcapdroid) {es : List HandoverEvent}
    (h : EveryStep handoverStep (fun s e => requestedInTurn s e = true) (Handover.start pd) es) :
    EveryState handoverStep NoLostUpdate (Handover.start pd) es := by
  refine everyState_of_invariant (fun s e hs he => ?_) (fun s hs => hs.delivers_of_idle)
    (inTurn_start pd) h
  cases e with
  | request r => exact inTurn_request hs he
  | loaded r => exact inTurn_loaded hs r
  | housekeeping => exact inTurn_housekeeping hs

/-- Two edits of the block list, the second before the packet loop has taken the first. -/
def twoEdits : List HandoverEvent :=
  let block (uid : Int) : Reload := .blocklist { Blacklist.init with uids := [uid] }
  [.request (block 2000), .loaded (block 2000), .request (block 3000), .loaded (block 3000),
    .housekeeping]

/-- The second edit is dropped: all is idle, and the first list is in force. -/
theorem secondUpdate_lost :
    let s := run handoverStep (Handover.start Leak.start) twoEdits
    s.idle = true ∧
    s.last .blocklist = some (.blocklist { Blacklist.init with uids := [3000] }) ∧
    s.pd.firewall.bl = some { Blacklist.init with uids := [2000] } ∧ ¬ NoLostUpdate s := by
  refine ⟨by decide +kernel, by decide +kernel, by decide +kernel, fun h => ?_⟩
  exact absurd (h (by decide +kernel) .blocklist
    (.blocklist { Blacklist.init with uids := [3000] }) (by decide +kernel)) (by decide +kernel)

/-- With a turn of the packet loop between them both edits arrive. -/
theorem noLostUpdate_apart :
    EveryState handoverStep NoLostUpdate (Handover.start Leak.start)
      (twoEdits.take 2 ++ .housekeeping :: twoEdits.drop 2) :=
  noLostUpdate Leak.start (by decide +kernel)

end SecureGuard.Native
