import SecureGuard.Lib.UriSyntax

/-! # The kiosk with a single website

A WebView shows the configured address and is to stay on its host and the hosts below it. What
the address allows is read from the text once, when the screen is made. -/

namespace SecureGuard.Kiosk
open UriSyntax

/-- `lowercase`, on the letters a host name can have. -/
def lowercase (text : List Char) : List Char := text.map Char.toLower

def removePrefix (pre text : List Char) : List Char :=
  if pre.isPrefixOf text then text.drop pre.length else text

/-- An address without a scheme is completed by one. -/
def formattedUrl (url : List Char) : List Char :=
  if "http".toList.isPrefixOf url then url else "https://".toList ++ url

def allowedHost (url : List Char) : List Char :=
  ((host (formattedUrl url)).map fun h => removePrefix "www.".toList (lowercase h)).getD []

/-- `request` is the URL of the request. `false` lets the WebView load it. -/
def shouldOverrideUrlLoading (allowedHost : List Char) (request : Option (List Char)) : Bool :=
  match request with
  | none => false
  | some url =>
    let newHost := ((host url).map lowercase).getD []
    !(newHost.isEmpty || newHost == allowedHost || ('.' :: allowedHost).isSuffixOf newHost)

/-! ## Addresses -/

/-- An address on the web; configured, it may do without its scheme, if it does not then read as
if it had one. -/
structure Address where
  scheme : Option (List Char)
  authority : Authority
  /-- The path, the query and the fragment. -/
  tail : List Char
  scheme_http : ∀ s ∈ scheme, lowercase s = "http".toList ∨ lowercase s = "https".toList
  tail_ends : ∀ c, tail.head? = some c → endsAuthority c = true
  no_scheme : scheme = none → authority.port = some [] → ¬"//".toList <+: tail

namespace Address

def text (a : Address) : List Char :=
  (a.scheme.elim [] fun s => s ++ "://".toList) ++ (a.authority.text ++ a.tail)

/-- The host without a leading `"www."`. -/
def site (a : Address) : List Char := removePrefix "www.".toList (lowercase a.authority.host)

/-- The page at the root of a host. -/
def page (authority : Authority) : Address where
  scheme := some "https".toList
  authority := authority
  tail := []
  scheme_http := fun _ hs => Option.some.inj hs ▸ .inr rfl
  tail_ends := by simp
  no_scheme := nofun

/-- The host alone, without a scheme. -/
def bare (authority : Authority) : Address where
  scheme := none
  authority := authority
  tail := []
  scheme_http := by simp
  tail_ends := by simp
  no_scheme _ _ := by simp

/-- The address lets the WebView load the other one. -/
def Loads (a other : Address) : Prop :=
  shouldOverrideUrlLoading (allowedHost a.text) (some other.text) = false

instance (a other : Address) : Decidable (a.Loads other) :=
  inferInstanceAs (Decidable (_ = false))

/-- The host is the site or a host below it. -/
def IsWithin (host site : List Char) : Prop :=
  lowercase host = site ∨ '.' :: site <:+ lowercase host

/-- Of the URLs with a scheme, exactly those within the site are loaded; the address's own host is
among them. -/
def Contains (a : Address) : Prop :=
  ∀ other : Address, other.scheme.isSome = true →
    (a.Loads other ↔ IsWithin other.authority.host a.site) ∧
    (lowercase other.authority.host = lowercase a.authority.host → a.Loads other)

/-- What the text begins with tells whether it has a scheme. Where it does not, the site is what
is read instead. -/
def IsReadRight (a : Address) : Prop :=
  match a.scheme with
  | none => "http".toList <+: a.text → a.site = []
  | some s => "http".toList <+: s ∨ a.site = lowercase s

/-! ## What the hosts are read as -/

theorem isAlpha_of_toLower {c : Char} (h : c.toLower.isAlpha = true) : c.isAlpha = true := by
  by_cases hupper : c.isUpper = true
  · exact Bool.or_eq_true_iff.mpr (.inl hupper)
  · have hself : c.toLower = c := dif_neg fun hrange =>
      hupper (decide_eq_true hrange)
    rwa [hself] at h

theorem scheme_chars {s : List Char}
    (hs : lowercase s = "http".toList ∨ lowercase s = "https".toList) :
    ∀ c ∈ s, isHostChar c = true := by
  have hletters : ∀ c ∈ s, c.toLower.isAlpha = true := by
    have hall : (lowercase s).all Char.isAlpha = true := by
      obtain h | h := hs <;> rw [h] <;> rfl
    intro c hc
    exact List.all_eq_true.mp hall _ (List.mem_map_of_mem hc)
  intro c hc
  have halpha : c.isAlpha = true := isAlpha_of_toLower (hletters c hc)
  exact Bool.or_eq_true_iff.mpr (.inl (Bool.or_eq_true_iff.mpr (.inl halpha)))

theorem scheme_ne_nil {s : List Char}
    (hs : lowercase s = "http".toList ∨ lowercase s = "https".toList) : s ≠ [] := by
  rintro rfl
  obtain h | h := hs
  · exact absurd h (by decide)
  · exact absurd h (by decide)

/-- A scheme ends at its colon. -/
theorem scheme_stops {s : List Char}
    (hs : lowercase s = "http".toList ∨ lowercase s = "https".toList) :
    ∀ c ∈ s, c ≠ ':' ∧ endsAuthority c = false := fun c hc =>
  have hchars := ne_of_isHostChar (scheme_chars hs c hc)
  ⟨hchars.2.1, hchars.1⟩

/-- A URL with a scheme has the host it shows. -/
theorem host_text {a : Address} {s : List Char} (hs : a.scheme = some s) :
    host a.text = some a.authority.host := by
  have hscheme := a.scheme_http s hs
  have hread := host_scheme (scheme_ne_nil hscheme) (scheme_stops hscheme)
    a.authority.text_chars a.tail_ends
  rw [a.authority.hostOf_text] at hread
  rw [text, hs, Option.elim_some, hread]

/-- What begins with `"http"` is left as it is. -/
theorem formattedUrl_http {url : List Char} (h : "http".toList <+: url) :
    formattedUrl url = url := if_pos (List.isPrefixOf_iff_prefix.mpr h)

theorem formattedUrl_other {url : List Char} (h : ¬"http".toList <+: url) :
    formattedUrl url = "https".toList ++ "://".toList ++ url := by
  rw [formattedUrl, if_neg fun hpre => h (List.isPrefixOf_iff_prefix.mp hpre)]
  rfl

/-- What is completed is read up to where its authority ends. -/
theorem host_completed {authority tail : List Char} (h : ¬"http".toList <+: authority ++ tail)
    (ha : ∀ c ∈ authority, endsAuthority c = false)
    (ht : ∀ c, tail.head? = some c → endsAuthority c = true) :
    host (formattedUrl (authority ++ tail)) = some (hostOf authority) := by
  have hhttps : lowercase "https".toList = "http".toList ∨
      lowercase "https".toList = "https".toList := .inr rfl
  rw [formattedUrl_other h]
  exact host_scheme (scheme_ne_nil hhttps) (scheme_stops hhttps) ha ht

theorem allowedHost_of_host {url h : List Char} (hhost : host (formattedUrl url) = some h) :
    allowedHost url = removePrefix "www.".toList (lowercase h) := by
  rw [allowedHost, hhost]
  rfl

/-- Only the scheme decides whether a text with a scheme begins with `"http"`. -/
theorem http_prefix_iff {a : Address} {s : List Char} (hs : a.scheme = some s) :
    "http".toList <+: a.text ↔ "http".toList <+: s := by
  have htext : a.text = s ++ ("://".toList ++ (a.authority.text ++ a.tail)) := by
    rw [text, hs, Option.elim_some, List.append_assoc]
  have hlen : "http".toList.length ≤ s.length := by
    have hlower : (lowercase s).length = s.length := List.length_map _
    rw [← hlower]
    obtain h | h := a.scheme_http s hs
    · exact (congrArg List.length h).ge
    · exact Nat.le_of_succ_le (congrArg List.length h).ge
  rw [htext]
  exact ⟨fun h => List.prefix_of_prefix_length_le h (List.prefix_append _ _) hlen,
    List.prefix_append_of_prefix⟩

/-- A scheme that does not begin with `"http"` is taken for the host. -/
theorem allowedHost_scheme {a : Address} {s : List Char} (hs : a.scheme = some s)
    (hhttp : ¬"http".toList <+: s) : allowedHost a.text = lowercase s := by
  have hscheme := a.scheme_http s hs
  have hchars := scheme_chars hscheme
  have hauthority : ∀ c ∈ s ++ [':'], endsAuthority c = false := by
    intro c hc
    rw [List.mem_append, List.mem_singleton] at hc
    obtain hc | rfl := hc
    · exact (ne_of_isHostChar (hchars c hc)).1
    · rfl
  have htext : a.text = (s ++ [':']) ++ ('/' :: '/' :: (a.authority.text ++ a.tail)) := by
    simp [text, hs]
  have hother : ¬"http".toList <+: a.text := fun h => hhttp ((http_prefix_iff hs).mp h)
  have hread : host (formattedUrl a.text) = some s := by
    rw [htext] at hother ⊢
    rw [host_completed hother hauthority fun c hc => Option.some.inj hc ▸ rfl,
      hostOf_emptyPort (scheme_ne_nil hscheme) hchars]
  rw [allowedHost_of_host hread]
  obtain h | h := hscheme <;> rw [h] <;> rfl

/-- A text with a scheme allows its site. -/
theorem allowedHost_http {a : Address} {s : List Char} (hs : a.scheme = some s)
    (hhttp : "http".toList <+: s) : allowedHost a.text = a.site := by
  refine allowedHost_of_host ?_
  rw [formattedUrl_http ((http_prefix_iff hs).mpr hhttp), host_text hs]

/-- So does a text that is completed. -/
theorem allowedHost_completed {a : Address} (hs : a.scheme = none)
    (hhttp : ¬"http".toList <+: a.text) : allowedHost a.text = a.site := by
  have htext : a.text = a.authority.text ++ a.tail := by simp [text, hs]
  refine allowedHost_of_host ?_
  rw [htext] at hhttp ⊢
  rw [host_completed hhttp a.authority.text_chars a.tail_ends, a.authority.hostOf_text]

/-- A text that is taken to have a scheme has no host. -/
theorem allowedHost_noScheme {a : Address} (hs : a.scheme = none)
    (hhttp : "http".toList <+: a.text) : allowedHost a.text = [] := by
  have hread : host (formattedUrl a.text) = none := by
    rw [formattedUrl_http hhttp, text, hs, Option.elim_none, List.nil_append]
    exact host_noScheme a.authority a.tail_ends (a.no_scheme hs)
  rw [allowedHost, hread]
  rfl

/-! ## What is loaded -/

/-- A URL is loaded where its host is the allowed one or below it; a host name is not empty. -/
theorem loads_iff {a other : Address} (h : other.scheme.isSome = true) :
    a.Loads other ↔ IsWithin other.authority.host (allowedHost a.text) := by
  obtain ⟨s, hs⟩ := Option.isSome_iff_exists.mp h
  have hne : lowercase other.authority.host ≠ [] := by
    simpa [lowercase] using other.authority.host_ne
  rw [Loads, IsWithin, shouldOverrideUrlLoading, host_text hs]
  simp only [Option.map_some, Option.getD_some, Bool.not_eq_false', Bool.or_eq_true,
    List.isEmpty_iff, hne, false_or, beq_iff_eq, List.isSuffixOf_iff_suffix]

/-- Without a leading `"www."` the site is the host, and otherwise the host is below it. -/
theorem isWithin_own {a : Address} {name : List Char}
    (h : lowercase name = lowercase a.authority.host) : IsWithin name a.site := by
  rw [IsWithin, site, removePrefix, h]
  split
  · next hwww =>
    obtain ⟨rest, hrest⟩ := List.isPrefixOf_iff_prefix.mp hwww
    rw [← hrest, List.drop_left]
    exact .inr ⟨"www".toList, rfl⟩
  · exact .inl rfl

theorem contains_of_eq {a : Address} (h : allowedHost a.text = a.site) : a.Contains := by
  intro other hother
  have hloads := loads_iff (a := a) hother
  rw [h] at hloads
  exact ⟨hloads, fun hown => hloads.mpr (isWithin_own hown)⟩

/-- Whatever is allowed at a host has to be within the site. -/
theorem Contains.isWithin {a : Address} (h : a.Contains) (authority : Authority)
    (hallowed : IsWithin authority.host (allowedHost a.text)) :
    IsWithin authority.host a.site :=
  (h (page authority) rfl).1.mp ((loads_iff rfl).mpr hallowed)

/-- Both hosts end in a dot, which is all they have in common. -/
theorem eq_nil_of_isWithin {site : List Char} (ha : IsWithin "a.".toList site)
    (hb : IsWithin "b.".toList site) : site = [] := by
  have hdot : ∀ c : Char, c ≠ '.' → '.' :: site <:+ [c, '.'] → site = [] := by
    intro c hc hsuffix
    obtain h | h := List.suffix_cons_iff.mp hsuffix
    · exact absurd (List.cons.inj h).1.symm hc
    · exact List.length_eq_zero_iff.mp (Nat.le_zero.mp (Nat.le_of_succ_le_succ h.length_le))
  obtain ha | ha := ha
  · obtain hb | hb := hb
    · exact absurd (ha.trans hb.symm) (by decide)
    · exact hdot 'b' (by decide) hb
  · exact hdot 'a' (by decide) ha

theorem eq_of_isWithin_scheme {s site : List Char}
    (hs : lowercase s = "http".toList ∨ lowercase s = "https".toList)
    (h : IsWithin s site) : site = lowercase s := by
  obtain h | h := h
  · exact h.symm
  · have hmem : '.' ∈ lowercase s := h.subset List.mem_cons_self
    obtain hs | hs := hs
    · exact absurd (hs ▸ hmem) (by decide)
    · exact absurd (hs ▸ hmem) (by decide)

/-- Where nothing but hosts that end in a dot is allowed, nothing else may be the site. -/
theorem Contains.site_eq_nil {a : Address} (h : a.Contains) (hallowed : allowedHost a.text = []) :
    a.site = [] := by
  have hdot : ∀ name, ['.'] <:+ lowercase name → IsWithin name (allowedHost a.text) := by
    rw [hallowed]
    exact fun _ => .inr
  exact eq_nil_of_isWithin
    (h.isWithin (.named "a.".toList (by decide)) (hdot _ ⟨['a'], rfl⟩))
    (h.isWithin (.named "b.".toList (by decide)) (hdot _ ⟨['b'], rfl⟩))

/-- Where the scheme is allowed, it has to be the site. -/
theorem Contains.site_eq_scheme {a : Address} {s : List Char} (h : a.Contains)
    (hs : a.scheme = some s) (hallowed : allowedHost a.text = lowercase s) :
    a.site = lowercase s := by
  have hscheme := a.scheme_http s hs
  have hname : s ≠ [] ∧ s.all isHostChar = true :=
    ⟨scheme_ne_nil hscheme, List.all_eq_true.mpr (scheme_chars hscheme)⟩
  exact eq_of_isWithin_scheme hscheme (h.isWithin (.named s hname) (.inl hallowed.symm))

end Address

open Address

/-- **The kiosk keeps to the site** exactly where the text of the address is read right. -/
theorem singleWebsite_contained_iff (a : Address) : a.Contains ↔ a.IsReadRight := by
  cases hs : a.scheme with
  | none =>
    simp only [IsReadRight, hs]
    by_cases hhttp : "http".toList <+: a.text
    · have hallowed := allowedHost_noScheme hs hhttp
      exact ⟨fun h _ => h.site_eq_nil hallowed,
        fun h => contains_of_eq (hallowed.trans (h hhttp).symm)⟩
    · exact iff_of_true (contains_of_eq (allowedHost_completed hs hhttp))
        fun h => absurd h hhttp
  | some s =>
    simp only [IsReadRight, hs]
    by_cases hhttp : "http".toList <+: s
    · exact iff_of_true (contains_of_eq (allowedHost_http hs hhttp)) (.inl hhttp)
    · have hallowed := allowedHost_scheme hs hhttp
      exact ⟨fun h => .inr (h.site_eq_scheme hs hallowed),
        fun h => contains_of_eq (hallowed.trans (h.resolve_left hhttp).symm)⟩

/-- Without a scheme, a site whose name begins with `"http"` is not shown. -/
theorem httpbin_overridden :
    ¬(bare (.named "httpbin.org".toList (by decide))).Contains := by
  intro h
  have hown := (h (page (.named "httpbin.org".toList (by decide))) rfl).2 rfl
  exact absurd hown (by decide)

end SecureGuard.Kiosk
