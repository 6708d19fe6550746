import TweetHarvest.Proofs.Json.Fields
import TweetHarvest.Proofs.ProxyGroups
import TweetHarvest.Proofs.Username.Grammar
import TweetHarvest.Run.Input
import TweetHarvest.Scrape.Arguments

/-!
# What an actor is asked for

The options reach the input of a run through the settings.  Texts are trimmed on the way and blank
ones dropped, so that the object an actor is sent has no blank values.  It is made of the options of
this kind of actor alone: the others, the credential, the addresses and the times leave no trace in
it.

## Key results

- `ScrapeOptions.settings_eq_ok`: the options that the settings keep
- `RunInput.isSearchPayload_of_settings`, `RunInput.isHandlesPayload_of_settings`: the objects
- `RunInput.payload_wellFormed`: what the input of a run holds, and what it depends on
-/

namespace TweetHarvest

open Json (Value field? field?_append)
open Text (IsTrimmed trim?)
open Username (IsHandle)

/-! ## Settings -/

/-- The settings keep the kind of the actor, trimmed texts and the names of the proxy groups. -/
theorem ScrapeOptions.settings_eq_ok {o : ScrapeOptions} {token : String} {s : Settings}
    (h : o.settings token = .ok s) :
    s.actorKind = o.actorKind ∧ s.proxyGroups = TweetHarvest.proxyGroups o.proxyGroups ∧
      s.search = ⟨o.query.bind trim?, o.language.bind trim?, o.includeRetweets, o.includeReplies⟩ := by
  unfold ScrapeOptions.settings at h
  split at h
  · exact nomatch h
  · cases h
    exact ⟨rfl, rfl, rfl⟩

/-- There are settings for every credential if the address of the service can be read. -/
theorem ScrapeOptions.exists_settings {o : ScrapeOptions} {url : Url}
    (h : BaseUrl.read o.apiBaseUrl = .ok url) (token : String) : ∃ s, o.settings token = .ok s := by
  unfold ScrapeOptions.settings
  rw [h]
  exact ⟨_, rfl⟩

namespace RunInput

/-! ## Fields that are left out without a value -/

section Fields

variable {key other : String} {value : Option Value}

/-- A field that may be left out has its value, if it is there. -/
theorem field?_optionalField_self : field? key (optionalField key value) = value := by
  cases value with
  | none => rfl
  | some v => exact if_pos rfl

/-- A field that may be left out is found under no other key. -/
theorem field?_optionalField_of_ne (h : key ≠ other) :
    field? other (optionalField key value) = none := by
  cases value with
  | none => rfl
  | some v => exact if_neg h

/-- A field that may be left out has one key at most. -/
theorem keys_optionalField : ((optionalField key value).map (·.1)).Sublist [key] := by
  cases value with
  | none => exact List.nil_sublist _
  | some v => exact List.Sublist.refl _

end Fields

/-! ## The objects -/

/-- The term that a search is for: the query, or else the tweets of the account. -/
def searchTerm (o : ScrapeOptions) (r : JobRequest) : String :=
  (o.query.bind trim?).getD ("from:" ++ r.username)

/-- The object that a search is asked for with: one term, the number of tweets, and the options that
are given. -/
structure IsSearchPayload (o : ScrapeOptions) (r : JobRequest) (fields : List (String × Value)) :
    Prop where
  keys : (fields.map (·.1)).Sublist ["searchMode", "searchTerms", "maxItems", "tweetLanguage",
    "includeRetweets", "includeReplies"]
  mode : field? "searchMode" fields = some (.string "live")
  terms : field? "searchTerms" fields = some (.array [.string (searchTerm o r)])
  trimmed : IsTrimmed (searchTerm o r)
  maxItems : field? "maxItems" fields = some (.nat r.tweets.toNat)
  language : field? "tweetLanguage" fields = (o.language.bind trim?).map .string
  retweets : field? "includeRetweets" fields = o.includeRetweets.map .bool
  replies : field? "includeReplies" fields = o.includeReplies.map .bool

/-- The proxies that an actor may use: those of the named groups, or any. -/
structure IsProxyConfig (names : List String) (fields : List (String × Value)) : Prop where
  keys : (fields.map (·.1)).Sublist ["useApifyProxy", "apifyProxyGroups"]
  use : field? "useApifyProxy" fields = some (.bool true)
  groups : (names = [] ∧ field? "apifyProxyGroups" fields = none) ∨
    (names ≠ [] ∧ field? "apifyProxyGroups" fields = some (.array (names.map .string)))
  named : ∀ name ∈ names, IsGroupName name

/-- The object that the tweets of a handle are asked for with. -/
structure IsHandlesPayload (o : ScrapeOptions) (r : JobRequest) (fields : List (String × Value)) :
    Prop where
  keys : (fields.map (·.1)).Sublist ["handles", "userQueries", "tweetsDesired", "profilesDesired",
    "proxyConfig"]
  handles : field? "handles" fields = some (.array [.string r.username])
  queries : field? "userQueries" fields = some (.array [])
  tweets : field? "tweetsDesired" fields = some (.nat r.tweets.toNat)
  profiles : field? "profilesDesired" fields = some (.nat 1)
  proxies : ∃ proxy, field? "proxyConfig" fields = some (.object proxy) ∧
    IsProxyConfig (proxyGroups o.proxyGroups) proxy

/-- The fields of the proxies of some groups. -/
private def proxyFields (names : List String) : List (String × Value) :=
  ("useApifyProxy", .bool true) :: optionalField "apifyProxyGroups"
    (if (names.map Value.string).isEmpty then none else some (.array (names.map .string)))

/-- The settings of a proxy are well-formed if all names of groups are. -/
theorem isProxyConfig_proxyFields {names : List String} (h : ∀ name ∈ names, IsGroupName name) :
    IsProxyConfig names (proxyFields names) where
  keys := keys_optionalField.cons_cons _
  use := rfl
  groups := by
    have hfield : field? "apifyProxyGroups" (proxyFields names) =
        if (names.map Value.string).isEmpty then none else some (.array (names.map .string)) :=
      field?_optionalField_self
    rw [hfield]
    -- Without names, the key is left out
    cases names with
    | nil => exact .inl ⟨rfl, rfl⟩
    | cons name rest => exact .inr ⟨List.cons_ne_nil name rest, rfl⟩
  named := h

/-- A handle makes a term without blanks. -/
theorem isTrimmed_from {handle : String} (h : IsHandle handle) : IsTrimmed ("from:" ++ handle) := by
  have hchars : ("from:" ++ handle).toList = "from:".toList ++ handle.toList := String.toList_append
  refine ⟨by simp [hchars], fun c hc => ?_, fun c hc => ?_⟩
  · rw [hchars] at hc
    obtain rfl : 'f' = c := Option.some.inj hc
    decide
  · rw [hchars, List.getLast?_append_of_ne_nil _ h.toList_ne_nil] at hc
    exact h.isBlank_eq_false (List.mem_of_getLast? hc)

/-- The term that is searched for has no blanks at its ends. -/
theorem isTrimmed_searchTerm (o : ScrapeOptions) {r : JobRequest} (h : IsHandle r.username) :
    IsTrimmed (searchTerm o r) := by
  unfold searchTerm
  cases hquery : o.query.bind trim? with
  | none => exact isTrimmed_from h
  | some query =>
    obtain ⟨text, -, htext⟩ := Option.bind_eq_some_iff.1 hquery
    obtain ⟨hblank, rfl⟩ := Text.trim?_eq_some_iff.1 htext
    exact Text.isTrimmed_trim hblank

section Settings

variable {o : ScrapeOptions} {token : String} {s : Settings} (h : o.settings token = .ok s)
  (r : JobRequest)

include h

/-- What an actor is asked that searches. -/
theorem ofRequest_search (hkind : o.actorKind = .search) : ofRequest s r =
    .search (searchTerm o r) r.tweets (o.language.bind trim?) o.includeRetweets
      o.includeReplies := by
  obtain ⟨hactor, -, hsearch⟩ := ScrapeOptions.settings_eq_ok h
  simp only [ofRequest, hactor, hkind, hsearch, searchTerm]

/-- What an actor is asked that takes handles. -/
theorem ofRequest_handles (hkind : o.actorKind = .handles) :
    ofRequest s r = .handles r.username r.tweets (proxyGroups o.proxyGroups) := by
  obtain ⟨hactor, hgroups, -⟩ := ScrapeOptions.settings_eq_ok h
  simp only [ofRequest, hactor, hkind, hgroups]

/-- A search is asked for with its term, the number of tweets and the options that are given. -/
theorem isSearchPayload_of_settings (hkind : o.actorKind = .search) (hr : IsHandle r.username) :
    ∃ fields, (ofRequest s r).toValue = .object fields ∧ IsSearchPayload o r fields := by
  rw [ofRequest_search h r hkind]
  refine ⟨_, rfl, ?_, ?_, ?_, isTrimmed_searchTerm o hr, ?_, ?_, ?_, ?_⟩
  · simp only [List.map_append]
    exact (((List.Sublist.refl ["searchMode", "searchTerms", "maxItems"]).append
      keys_optionalField).append keys_optionalField).append keys_optionalField
  all_goals simp [field?_append, field?, field?_optionalField_self, field?_optionalField_of_ne]

/-- The tweets of a handle are asked for with the handle, their number and the proxies. -/
theorem isHandlesPayload_of_settings (hkind : o.actorKind = .handles) :
    ∃ fields, (ofRequest s r).toValue = .object fields ∧ IsHandlesPayload o r fields := by
  rw [ofRequest_handles h r hkind]
  refine ⟨_, rfl, List.Sublist.refl _, rfl, rfl, rfl, rfl, proxyFields _, rfl, ?_⟩
  exact isProxyConfig_proxyFields fun name => isGroupName_of_mem

end Settings

/-- What two lists of options have in common if they ask an actor for the same. -/
def SameInput (o o' : ScrapeOptions) : Prop :=
  match o.actorKind with
  | .search => o'.actorKind = .search ∧ o'.query = o.query ∧ o'.language = o.language ∧
      o'.includeRetweets = o.includeRetweets ∧ o'.includeReplies = o.includeReplies
  | .handles => o'.actorKind = .handles ∧ o'.proxyGroups = o.proxyGroups

/-- The input of a run is made of the options of its kind of actor alone. -/
theorem ofRequest_congr {o o' : ScrapeOptions} {token token' : String} {s s' : Settings}
    (h : o.settings token = .ok s) (h' : o'.settings token' = .ok s') (hsame : SameInput o o')
    (r : JobRequest) : ofRequest s' r = ofRequest s r := by
  -- Each kind of actor reads options of its own
  unfold SameInput at hsame
  split at hsame
  · next hkind =>
    obtain ⟨hkind', hquery, hlanguage, hretweets, hreplies⟩ := hsame
    rw [ofRequest_search h r hkind, ofRequest_search h' r hkind', searchTerm, searchTerm, hquery,
      hlanguage, hretweets, hreplies]
  · next hkind =>
    obtain ⟨hkind', hgroups⟩ := hsame
    rw [ofRequest_handles h r hkind, ofRequest_handles h' r hkind', hgroups]

/-- The input of a run is an object with the fields of its kind of actor and no others, made of
trimmed texts that are not blank.  It depends on the options of this kind of actor alone: whatever
else another command asks for, it sends the same object for the same request. -/
theorem payload_wellFormed {o : ScrapeOptions} {token : String} {s : Settings} {r : JobRequest}
    (h : o.settings token = .ok s) (hr : IsHandle r.username) :
    (o.actorKind = .search →
      ∃ fields, (ofRequest s r).toValue = .object fields ∧ IsSearchPayload o r fields) ∧
    (o.actorKind = .handles →
      ∃ fields, (ofRequest s r).toValue = .object fields ∧ IsHandlesPayload o r fields) ∧
    ∀ (o' : ScrapeOptions) (token' : String) (s' : Settings), o'.settings token' = .ok s' →
      SameInput o o' → (ofRequest s' r).toValue = (ofRequest s r).toValue :=
  ⟨fun hkind => isSearchPayload_of_settings h r hkind hr,
    fun hkind => isHandlesPayload_of_settings h r hkind,
    fun _ _ _ h' hsame => congrArg toValue (ofRequest_congr h h' hsame r)⟩

/-- A blank query leaves the tweets of the account, and other proxy groups, times and credentials do
not matter to a search.  An actor that takes handles is not told of the language. -/
theorem payload_wellFormed_padded :
    let search : ScrapeOptions :=
      { ScrapeOptions.usual with
        query := some "\u3000 ", language := some " en ", includeReplies := some false
        proxyGroups := [" US ,,", "RESIDENTIAL"] }
    let other : ScrapeOptions :=
      { search with actor := some "owner/name", proxyGroups := [], maxWait := 0, strict := true }
    let handles : ScrapeOptions := { search with actorKind := .handles }
    let silent : ScrapeOptions := { handles with query := none, language := none }
    let r : JobRequest := ⟨"jack", 5⟩
    ∃ s₁ s₂ s₃ s₄, search.settings "a" = .ok s₁ ∧ other.settings "b" = .ok s₂ ∧
      handles.settings "c" = .ok s₃ ∧ silent.settings "d" = .ok s₄ ∧ IsHandle r.username ∧
      (∃ fields, (ofRequest s₁ r).toValue = .object fields ∧ IsSearchPayload search r fields) ∧
      (ofRequest s₂ r).toValue = (ofRequest s₁ r).toValue ∧ searchTerm search r = "from:jack" ∧
      (∃ fields, (ofRequest s₃ r).toValue = .object fields ∧ IsHandlesPayload handles r fields) ∧
      (ofRequest s₄ r).toValue = (ofRequest s₃ r).toValue ∧
      proxyGroups handles.proxyGroups = ["US", "RESIDENTIAL"] := by
  intro search other handles silent r
  have hread : BaseUrl.read "https://api.apify.com" = .ok Settings.defaultBaseUrl := by
    decide +kernel
  obtain ⟨s₁, h₁⟩ := ScrapeOptions.exists_settings (o := search) hread "a"
  obtain ⟨s₂, h₂⟩ := ScrapeOptions.exists_settings (o := other) hread "b"
  obtain ⟨s₃, h₃⟩ := ScrapeOptions.exists_settings (o := handles) hread "c"
  obtain ⟨s₄, h₄⟩ := ScrapeOptions.exists_settings (o := silent) hread "d"
  have hr : IsHandle r.username := Username.isHandle_iff.1 (by decide)
  obtain ⟨hsearch, -, hsame⟩ := payload_wellFormed h₁ hr
  obtain ⟨-, hhandles, hsilent⟩ := payload_wellFormed h₃ hr
  exact ⟨s₁, s₂, s₃, s₄, h₁, h₂, h₃, h₄, hr, hsearch rfl,
    hsame other "b" s₂ h₂ ⟨rfl, rfl, rfl, rfl, rfl⟩, by decide +kernel, hhandles rfl,
    hsilent silent "d" s₄ h₄ ⟨rfl, rfl⟩, by decide +kernel⟩

end RunInput

end TweetHarvest
