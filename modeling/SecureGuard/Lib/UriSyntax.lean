import Mathlib.Data.List.DropRight
import Mathlib.Data.List.TakeWhile

/-! # The host of a URI

Where RFC 3986 finds the host of a URI: behind the scheme and two slashes, between what
precedes an `'@'` and the port. -/

namespace UriSyntax

/-- What ends an authority. -/
def endsAuthority (c : Char) : Bool := c == '/' || c == '?' || c == '#'

/-- What a scheme is read from. -/
def beforeColon (c : Char) : Bool := c != ':' && !endsAuthority c

/-- What follows the scheme; all of it where there is none. -/
def hierPart (uri : List Char) : List Char :=
  match uri.dropWhile beforeColon with
  | ':' :: rest => if uri.head? = some ':' then uri else rest
  | _ => uri

def hostOf (authority : List Char) : List Char :=
  match authority.rtakeWhile fun c => c != '@' with
  | '[' :: address => '[' :: address.takeWhile (fun c => c != ']') ++ [']']
  | hostport => hostport.takeWhile fun c => c != ':'

def host (uri : List Char) : Option (List Char) :=
  match hierPart uri with
  | '/' :: '/' :: rest => some (hostOf (rest.takeWhile fun c => !endsAuthority c))
  | _ => none

/-! ## Authorities -/

/-- What a host name may consist of: unreserved characters and sub-delimiters. Names with
percent-encoded characters are left out; what a URI says of those is decoded. -/
def isHostChar (c : Char) : Bool := c.isAlphanum || "-._~!$&'()*+,;=".toList.contains c

def isUserinfoChar (c : Char) : Bool := isHostChar c || c == ':' || c == '%'

/-- An authority with a host name. A port may be empty. -/
structure Authority where
  userinfo : Option (List Char)
  host : List Char
  port : Option (List Char)
  userinfo_chars : ∀ u ∈ userinfo, ∀ c ∈ u, isUserinfoChar c = true
  host_ne : host ≠ []
  host_chars : ∀ c ∈ host, isHostChar c = true
  port_digits : ∀ p ∈ port, ∀ c ∈ p, c.isDigit = true

namespace Authority

variable {a : Authority}

/-- The user information with what separates it. -/
def before (a : Authority) : List Char := a.userinfo.elim [] fun u => u ++ ['@']

/-- The port with what separates it. -/
def after (a : Authority) : List Char := a.port.elim [] fun p => ':' :: p

def text (a : Authority) : List Char := a.before ++ a.host ++ a.after

/-- A host name by itself. -/
def named (host : List Char) (h : host ≠ [] ∧ host.all isHostChar = true) : Authority where
  userinfo := none
  host := host
  port := none
  userinfo_chars := by simp
  host_ne := h.1
  host_chars := List.all_eq_true.mp h.2
  port_digits := by simp

end Authority

/-- The characters with a meaning of their own are none of a host. -/
theorem ne_of_isHostChar {c : Char} (h : isHostChar c = true) :
    endsAuthority c = false ∧ c ≠ ':' ∧ c ≠ '@' ∧ c ≠ '[' := by
  refine ⟨?_, ?_, ?_, ?_⟩
  · by_contra hends
    simp only [endsAuthority, Bool.not_eq_false, Bool.or_eq_true, beq_iff_eq] at hends
    obtain (rfl | rfl) | rfl := hends <;> revert h <;> decide
  all_goals
    rintro rfl
    revert h
    decide

theorem ne_of_isDigit {c : Char} (h : c.isDigit = true) :
    endsAuthority c = false ∧ c ≠ ':' ∧ c ≠ '@' := by
  have hhost : isHostChar c = true := by simp [isHostChar, Char.isAlphanum, h]
  obtain ⟨hends, hcolon, hat, -⟩ := ne_of_isHostChar hhost
  exact ⟨hends, hcolon, hat⟩

theorem ne_of_isUserinfoChar {c : Char} (h : isUserinfoChar c = true) :
    endsAuthority c = false := by
  simp only [isUserinfoChar, Bool.or_eq_true, beq_iff_eq] at h
  obtain (hhost | rfl) | rfl := h
  · exact (ne_of_isHostChar hhost).1
  · rfl
  · rfl

theorem takeWhile_append_stop {p : Char → Bool} {s t : List Char} (hs : ∀ c ∈ s, p c = true)
    (ht : ∀ c, t.head? = some c → p c = false) : (s ++ t).takeWhile p = s := by
  rw [List.takeWhile_append_of_pos hs]
  cases t with
  | nil => simp
  | cons c t => simp [ht c rfl]

theorem dropWhile_append_stop {p : Char → Bool} {s t : List Char} (hs : ∀ c ∈ s, p c = true)
    (ht : ∀ c, t.head? = some c → p c = false) : (s ++ t).dropWhile p = t := by
  rw [List.dropWhile_append_of_pos hs]
  cases t with
  | nil => rfl
  | cons c t => simp [ht c rfl]

/-- What follows the last `'@'` is read up to a colon. -/
theorem hostOf_eq {authority name port : List Char}
    (hlast : authority.rtakeWhile (fun c => c != '@') = name ++ port) (hne : name ≠ [])
    (hname : ∀ c ∈ name, isHostChar c = true) (hport : ∀ c, port.head? = some c → c = ':') :
    hostOf authority = name := by
  obtain ⟨c, rest, rfl⟩ := List.exists_cons_of_ne_nil hne
  have hc : c ≠ '[' := (ne_of_isHostChar (hname c List.mem_cons_self)).2.2.2
  unfold hostOf
  rw [hlast]
  split
  · next address heq => exact absurd (List.cons.inj heq).1 hc
  · refine takeWhile_append_stop (fun d hd => ?_) fun d hd => ?_
    · exact bne_iff_ne.mpr (ne_of_isHostChar (hname d hd)).2.1
    · rw [hport d hd]
      rfl

namespace Authority

variable (a : Authority)

theorem mem_after {c : Char} (hc : c ∈ a.after) : c = ':' ∨ c.isDigit = true := by
  cases hp : a.port with
  | none => simp [after, hp] at hc
  | some p =>
    simp only [after, hp, Option.elim_some, List.mem_cons] at hc
    exact hc.imp_right (a.port_digits p hp c)

theorem text_chars : ∀ c ∈ a.text, endsAuthority c = false := by
  intro c hc
  rw [text, List.mem_append, List.mem_append] at hc
  obtain (hc | hc) | hc := hc
  · cases hu : a.userinfo with
    | none => simp [before, hu] at hc
    | some u =>
      simp only [before, hu, Option.elim_some, List.mem_append, List.mem_singleton] at hc
      obtain hc | rfl := hc
      · exact ne_of_isUserinfoChar (a.userinfo_chars u hu c hc)
      · rfl
  · exact (ne_of_isHostChar (a.host_chars c hc)).1
  · obtain rfl | hc := a.mem_after hc
    · rfl
    · exact (ne_of_isDigit hc).1

/-- The host and the port are what follows the last `'@'`. -/
theorem rtakeWhile_text : a.text.rtakeWhile (fun c => c != '@') = a.host ++ a.after := by
  have hchars : ∀ c ∈ (a.host ++ a.after).reverse, (c != '@') = true := by
    intro c hc
    rw [List.mem_reverse, List.mem_append] at hc
    rw [bne_iff_ne]
    obtain hc | hc := hc
    · exact (ne_of_isHostChar (a.host_chars c hc)).2.2.1
    · obtain rfl | hc := a.mem_after hc
      · decide
      · exact (ne_of_isDigit hc).2.2
  have hstop : ∀ c, a.before.reverse.head? = some c → (c != '@') = false := by
    intro c hc
    cases hu : a.userinfo with
    | none => simp [before, hu] at hc
    | some u =>
      simp only [before, hu, Option.elim_some, List.reverse_append, List.reverse_singleton,
        List.singleton_append, List.head?_cons, Option.some.injEq] at hc
      subst hc
      rfl
  rw [List.rtakeWhile, text, List.append_assoc, List.reverse_append,
    takeWhile_append_stop hchars hstop, List.reverse_reverse]

theorem hostOf_text : hostOf a.text = a.host := by
  refine hostOf_eq a.rtakeWhile_text a.host_ne a.host_chars fun c hc => ?_
  cases hp : a.port with
  | none => simp [after, hp] at hc
  | some p =>
    simp only [after, hp, Option.elim_some, List.head?_cons, Option.some.injEq] at hc
    exact hc.symm

theorem text_ne_nil : a.text ≠ [] := by
  simp [text, a.host_ne]

/-- Only an empty port leaves a colon at the end. -/
theorem port_of_getLast? (h : a.text.getLast? = some ':') : a.port = some [] := by
  cases hp : a.port with
  | none =>
    rw [text, after, hp, Option.elim_none, List.append_nil,
      List.getLast?_append_of_ne_nil _ a.host_ne] at h
    exact absurd rfl (ne_of_isHostChar (a.host_chars ':' (List.mem_of_getLast? h))).2.1
  | some p =>
    cases p with
    | nil => rfl
    | cons d p =>
      rw [text, after, hp, Option.elim_some, List.getLast?_append_of_ne_nil _ (by simp),
        List.getLast?_cons_cons] at h
      exact absurd rfl (ne_of_isDigit (a.port_digits _ hp ':' (List.mem_of_getLast? h))).2.1

end Authority

/-- A colon without a port behind it is no part of the host. -/
theorem hostOf_emptyPort {name : List Char} (hne : name ≠ [])
    (hname : ∀ c ∈ name, isHostChar c = true) : hostOf (name ++ [':']) = name := by
  refine hostOf_eq (List.rtakeWhile_eq_self_iff.mpr fun c hc => ?_) hne hname fun c hc => ?_
  · rw [List.mem_append, List.mem_singleton] at hc
    obtain hc | rfl := hc
    · exact bne_iff_ne.mpr (ne_of_isHostChar (hname c hc)).2.2.1
    · rfl
  · exact (Option.some.inj hc).symm

/-! ## The host -/

section Host

variable {scheme authority tail : List Char}

theorem hierPart_scheme (hne : scheme ≠ [])
    (hs : ∀ c ∈ scheme, c ≠ ':' ∧ endsAuthority c = false) (rest : List Char) :
    hierPart (scheme ++ ':' :: rest) = rest := by
  obtain ⟨c, scheme', hscheme⟩ := List.exists_cons_of_ne_nil hne
  have hc : c ≠ ':' := (hs c (by simp [hscheme])).1
  have hdrop : (scheme ++ ':' :: rest).dropWhile beforeColon = ':' :: rest := by
    refine dropWhile_append_stop (fun c hc => by simp [beforeColon, hs c hc]) fun c hc => ?_
    obtain rfl := Option.some.inj hc
    rfl
  simp only [hierPart, hdrop]
  rw [if_neg]
  simpa [hscheme] using hc

/-- Behind a scheme and two slashes the authority is read. -/
theorem host_scheme (hne : scheme ≠ []) (hs : ∀ c ∈ scheme, c ≠ ':' ∧ endsAuthority c = false)
    (ha : ∀ c ∈ authority, endsAuthority c = false)
    (ht : ∀ c, tail.head? = some c → endsAuthority c = true) :
    host (scheme ++ "://".toList ++ (authority ++ tail)) = some (hostOf authority) := by
  have huri : scheme ++ "://".toList ++ (authority ++ tail) =
      scheme ++ ':' :: '/' :: '/' :: (authority ++ tail) := by simp
  have hread : (authority ++ tail).takeWhile (fun c => !endsAuthority c) = authority :=
    takeWhile_append_stop (fun c hc => by simp [ha c hc]) fun c hc => by simp [ht c hc]
  rw [huri, host, hierPart_scheme hne hs]
  simp only [hread]

theorem host_eq_none {uri : List Char} (h : ¬"//".toList <+: hierPart uri) :
    host uri = none := by
  unfold host
  split
  · next rest heq => exact absurd ⟨rest, heq.symm⟩ h
  · rfl

/-- Without a scheme an authority is not found, even where its user information or its host is
taken for a scheme; but an empty port with two slashes behind it makes a scheme of the host. -/
theorem host_noScheme (a : Authority) (ht : ∀ c, tail.head? = some c → endsAuthority c = true)
    (hport : a.port = some [] → ¬"//".toList <+: tail) : host (a.text ++ tail) = none := by
  have hslash : ∀ s : List Char, s ≠ [] → (∀ c ∈ s, c ∈ a.text) →
      ¬"//".toList <+: s ++ tail := by
    intro s hne hs hpre
    obtain ⟨c, s', rfl⟩ := List.exists_cons_of_ne_nil hne
    obtain ⟨t, ht⟩ := hpre
    obtain rfl : '/' = c := (List.cons.inj ht).1
    exact absurd (a.text_chars '/' (hs '/' List.mem_cons_self)) (by decide)
  have hself : ¬"//".toList <+: a.text ++ tail := hslash a.text a.text_ne_nil fun _ hc => hc
  have hsplit := List.takeWhile_append_dropWhile (p := beforeColon) (l := a.text)
  have hstop : ∀ c, tail.head? = some c → beforeColon c = false := fun c hc => by
    simp [beforeColon, ht c hc]
  refine host_eq_none ?_
  unfold hierPart
  cases hdrop : a.text.dropWhile beforeColon with
  | nil =>
    -- no colon before the path
    have hall : ∀ c ∈ a.text, beforeColon c = true := List.dropWhile_eq_nil_iff.mp hdrop
    rw [dropWhile_append_stop hall hstop]
    split
    · exact absurd (ht ':' rfl) (by decide)
    · exact hself
  | cons c rest =>
    have hmem : ∀ d ∈ c :: rest, d ∈ a.text := fun d hd => by
      rw [← hsplit, hdrop]
      exact List.mem_append_right _ hd
    have hc : c = ':' := by
      have hfails : beforeColon c = false := by
        simpa [hdrop] using List.head?_dropWhile_not beforeColon a.text
      simpa [beforeColon, a.text_chars c (hmem c List.mem_cons_self)] using hfails
    subst hc
    have hread : (a.text ++ tail).dropWhile beforeColon = ':' :: (rest ++ tail) := by
      rw [List.dropWhile_append, hdrop]
      rfl
    have hrest : ¬"//".toList <+: rest ++ tail := by
      cases rest with
      | nil =>
        refine hport (a.port_of_getLast? ?_)
        rw [← hsplit, hdrop, List.getLast?_append]
        rfl
      | cons d rest => exact hslash (d :: rest) (by simp) fun e he => hmem e (.tail _ he)
    rw [hread]
    change ¬_ <+: if (a.text ++ tail).head? = some ':' then a.text ++ tail else rest ++ tail
    split
    · exact hself
    · exact hrest

end Host

end UriSyntax
