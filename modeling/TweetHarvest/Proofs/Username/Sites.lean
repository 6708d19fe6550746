import TweetHarvest.Proofs.Username.Grammar

/-!
# From which hosts a handle is read

The address of a profile is looked for on the two sites of the profiles and the hosts below them.
What is asked of the host is only that the name of a site occurs in it somewhere.  So there are
other hosts, which look like a site, whose addresses give a handle too; all other addresses give
none.

## Key results

- `Username.isProfileHost_iff`: the hosts from which a handle is read
- `Username.read_eq_ok_iff_of_url`: when an address gives a handle
- `Username.read_onlyOnSites_iff`: handles come from the sites alone, unless a host looks like one
-/

namespace TweetHarvest.Username

open Text (trim)

/-! ## Hosts -/

/-- The search for a part decides whether it stands somewhere in a text. -/
theorem occursIn_iff {part s : List Char} : occursIn part s = true ↔ part <:+: s := by
  induction s with
  | nil => simp [occursIn]
  | cons c cs ih =>
    rw [occursIn, Bool.or_eq_true, List.isPrefixOf_iff_prefix, ih, List.infix_cons_iff]

/-- One of the sites of the profiles, or a host below it. -/
def IsSite (host : List Char) : Prop :=
  host = "x.com".toList ∨ host = "twitter.com".toList ∨ ".x.com".toList <:+ host ∨
    ".twitter.com".toList <:+ host

instance (host : List Char) : Decidable (IsSite host) :=
  inferInstanceAs (Decidable (_ ∨ _ ∨ _ ∨ _))

/-- A host in which the name of a site occurs, but which is neither a site nor below one. -/
def LooksLikeSite (host : List Char) : Prop :=
  ("x.com".toList <:+: host ∨ "twitter.com".toList <:+: host) ∧ ¬ IsSite host

/-- In a host below a site the name of the site occurs. -/
theorem infix_of_suffix {name host : List Char} (h : '.' :: name <:+ host) : name <:+: host :=
  ((List.suffix_cons '.' name).trans h).isInfix

/-- A handle is read from the sites, and from the hosts that look like one. -/
theorem isProfileHost_iff {host : List Char} :
    isProfileHost host = true ↔ IsSite host ∨ LooksLikeSite host := by
  have hoccurs : isProfileHost host = true ↔
      "x.com".toList <:+: host ∨ "twitter.com".toList <:+: host := by
    rw [isProfileHost, Bool.or_eq_true, occursIn_iff, occursIn_iff]
    exact or_comm
  rw [hoccurs]
  constructor
  · intro h
    by_cases hsite : IsSite host
    · exact .inl hsite
    · exact .inr ⟨h, hsite⟩
  -- Sites are the two domains and what ends in one of them behind a dot
  · rintro ((rfl | rfl | h | h) | ⟨h, -⟩)
    · exact .inl (List.infix_refl _)
    · exact .inr (List.infix_refl _)
    · exact .inl (infix_of_suffix h)
    · exact .inr (infix_of_suffix h)
    · exact h

/-! ## Addresses -/

/-- An address on any other host is taken for the handle itself, and that it is not: it has a
colon. -/
theorem not_isHandle_candidate {input : String} {url : Url} (hread : Url.read input = .ok url)
    (hhost : url.hostText?.any isProfileHost = false) {handle : String}
    (hcandidate : candidate input = handle.toList) : ¬ IsHandle handle := by
  intro hhandle
  have hsame : input.toList.dropWhile (· = '@') = handle.toList := by
    simpa only [candidate, hread, hhost, Bool.false_eq_true, if_false] using hcandidate
  obtain ⟨n, hn⟩ := (dropWhile_at_eq_iff (hhandle.notMem (by decide))).1 hsame
  have hcolon := Url.colon_mem_of_read hread
  rw [hn, List.mem_append, List.mem_replicate] at hcolon
  -- Neither the at signs nor the handle have a colon
  rcases hcolon with ⟨-, h⟩ | h
  · exact absurd h (by decide)
  · exact hhandle.notMem (by decide) h

/-- An address gives the handle that is its first segment, if its host is a site or looks like
one. -/
theorem read_eq_ok_iff_of_url {text : String} {url : Url} (h : Url.read (trim text) = .ok url)
    {handle : String} :
    read text = .ok handle ↔
      IsHandle handle ∧ url.firstSegment? = some handle.toList ∧
        ∃ host, url.hostText? = some host ∧ (IsSite host ∨ LooksLikeSite host) := by
  rw [read_eq_ok_iff]
  constructor
  · rintro ⟨-, hcandidate, hhandle⟩
    have hany : url.hostText?.any isProfileHost = true := by
      by_contra hany
      exact not_isHandle_candidate h (by simpa using hany) hcandidate hhandle
    cases hhost : url.hostText? with
    | none => simp [hhost] at hany
    | some host =>
      have hprofile : isProfileHost host = true := by simpa [hhost] using hany
      rw [candidate_of_isProfileHost h hhost hprofile] at hcandidate
      refine ⟨hhandle, ?_, host, rfl, isProfileHost_iff.1 hprofile⟩
      cases hsegment : url.firstSegment? with
      | none =>
        -- Without a first segment there is nothing to be read
        rw [hsegment] at hcandidate
        exact absurd hcandidate.symm hhandle.toList_ne_nil
      | some segment =>
        rw [hsegment] at hcandidate
        exact congrArg some hcandidate
  · rintro ⟨hhandle, hsegment, host, hhost, hsite⟩
    refine ⟨fun hempty => ?_, ?_, hhandle⟩
    · have hcolon := Url.colon_mem_of_read h
      rw [hempty] at hcolon
      exact nomatch hcolon
    · rw [candidate_of_isProfileHost h hhost (isProfileHost_iff.2 hsite), hsegment,
        Option.getD_some]

/-- A handle is read from an address if its host is a site or looks like one, if it is the first
segment of the path.  So handles come from the sites alone, unless the host of the address is one
that looks like a site. -/
theorem read_onlyOnSites_iff {text : String} {url : Url} (h : Url.read (trim text) = .ok url) :
    (∀ handle, read text = .ok handle ↔
      IsHandle handle ∧ url.firstSegment? = some handle.toList ∧
        ∃ host, url.hostText? = some host ∧ (IsSite host ∨ LooksLikeSite host)) ∧
    ((∀ handle, read text = .ok handle → ∃ host, url.hostText? = some host ∧ IsSite host) ↔
      ∀ host handle, url.hostText? = some host → LooksLikeSite host →
        url.firstSegment? = some handle.toList → ¬ IsHandle handle) := by
  refine ⟨fun handle => read_eq_ok_iff_of_url h, fun honly host handle hhost hlooks hsegment => ?_,
    fun hnone handle hread => ?_⟩
  -- Such a host would give a handle without being a site
  · intro hhandle
    have hread := (read_eq_ok_iff_of_url h).2 ⟨hhandle, hsegment, host, hhost, .inr hlooks⟩
    obtain ⟨host', hhost', hsite⟩ := honly handle hread
    obtain rfl := Option.some.inj (hhost.symm.trans hhost')
    exact hlooks.2 hsite
  · obtain ⟨hhandle, hsegment, host, hhost, hsite | hlooks⟩ := (read_eq_ok_iff_of_url h).1 hread
    · exact ⟨host, hhost, hsite⟩
    · exact absurd hhandle (hnone host handle hhost hlooks hsegment)

/-- The address of an account on a host. -/
def jackOn (host : List Char) : Url where
  scheme := "https".toList
  authority := some (Url.Authority.ofHost (.domain host))
  path := .segments ["jack".toList]
  query := none
  fragment := none

/-- On a host below a site a handle is read. -/
theorem read_onlyOnSites_mobile :
    Url.read (trim "https://mobile.x.com/jack") = .ok (jackOn "mobile.x.com".toList) ∧
    IsSite "mobile.x.com".toList ∧ read "https://mobile.x.com/jack" = .ok "jack" := by
  have hurl : Url.read (trim "https://mobile.x.com/jack") = .ok (jackOn "mobile.x.com".toList) := by
    decide +kernel
  have hsite : IsSite "mobile.x.com".toList := by decide
  have hhandle : IsHandle "jack" := isHandle_iff.1 (by decide)
  exact ⟨hurl, hsite, ((read_onlyOnSites_iff hurl).1 "jack").2
    ⟨hhandle, rfl, _, rfl, .inl hsite⟩⟩

/-- On a host that is neither a site nor below one, but starts with the name of a site, a handle is
read too. -/
theorem read_lookAlike :
    Url.read "https://x.com.example/jack" = .ok (jackOn "x.com.example".toList) ∧
    (jackOn "x.com.example".toList).hostText? = some "x.com.example".toList ∧
    ¬ IsSite "x.com.example".toList ∧ read "https://x.com.example/jack" = .ok "jack" := by
  refine ⟨?_, rfl, ?_, ?_⟩ <;> decide +kernel

end TweetHarvest.Username
