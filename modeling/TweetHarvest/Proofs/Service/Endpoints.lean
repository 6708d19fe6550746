import TweetHarvest.Proofs.Url.Adding
import TweetHarvest.Proofs.Url.Reading
import TweetHarvest.Service.Client

/-!
# The addresses of resources

Where the requests of a client go.  The runs of an actor, a single run and the items of a dataset
are each found behind the path of the base URL, with every id in a segment of its own.  That holds
of the ids that can be one segment, and of no others.

## Key results

- `Resource.exists_leads_iff`: which resources are found where they should be
- `Client.requests_below`: the URL of a request
-/

namespace TweetHarvest

open Url (IsPlain Spells)

/-- What a request is about, by its ids. -/
inductive Resource where
  | runs (actor : String)
  | run (actor id : String)
  | items (dataset : String)
deriving DecidableEq, Repr

namespace Resource

def ids : Resource → List String
  | .runs actor => [actor]
  | .run actor id => [actor, id]
  | .items dataset => [dataset]

/-- The names behind the version of the service. -/
def names : Resource → List String
  | .runs actor => ["acts", actor, "runs"]
  | .run actor id => ["acts", actor, "runs", id]
  | .items dataset => ["datasets", dataset, "items"]

/-- The segments that lead to a resource: fixed words, and a segment that spells it for every id. -/
inductive Leads : Resource → List (List Char) → Prop
  | runs {actor : String} {s : List Char} (h : Spells s actor) :
      Leads (.runs actor) ["v2".toList, "acts".toList, s, "runs".toList]
  | run {actor id : String} {s t : List Char} (hactor : Spells s actor) (hid : Spells t id) :
      Leads (.run actor id) ["v2".toList, "acts".toList, s, "runs".toList, t]
  | items {dataset : String} {s : List Char} (h : Spells s dataset) :
      Leads (.items dataset) ["v2".toList, "datasets".toList, s, "items".toList]

end Resource

/-- The requests of a client, each with what it is about. -/
inductive Client.Requests (c : Client) : Resource → Http.Request → Prop
  | start (input : RunInput) : c.Requests (.runs c.actor) (c.startRequest input)
  | status (id : String) : c.Requests (.run c.actor id) (c.statusRequest id)
  | items (dataset : String) : c.Requests (.items dataset) (c.itemsRequest dataset)

namespace Resource

/-- The fixed words are plain, and stand for themselves. -/
theorem fixed_words : ∀ word ∈ ["v2", "acts", "runs", "datasets", "items"],
    IsPlain word ∧ Url.coded word.toList = word.toList := by decide

/-- The words in the paths of the service spell themselves. -/
theorem spells_self {word : String} (h : word ∈ ["v2", "acts", "runs", "datasets", "items"]) :
    Spells word.toList word := by
  obtain ⟨hplain, hcoded⟩ := fixed_words word h
  exact hcoded ▸ Url.spells_coded hplain

variable {r : Resource}

/-- The names that lead to a resource are plain if its ids are. -/
theorem forall_isPlain_names_iff :
    (∀ name ∈ r.names, IsPlain name) ↔ ∀ id ∈ r.ids, IsPlain id := by
  have hwords := fixed_words
  cases r <;> simp_all [names, ids]

/-- Different resources have different names leading to them. -/
theorem names_inj {r' : Resource} (h : r.names = r'.names) : r = r' := by
  cases r <;> cases r' <;> simp_all [names]

/-- What leads to a resource spells its names. -/
theorem Leads.forall₂_spells {added : List (List Char)} (h : r.Leads added) :
    List.Forall₂ Spells added ("v2" :: r.names) := by
  -- The words of the path have only plain characters, which spell themselves
  have hversion : Spells "v2".toList "v2" := spells_self (by decide)
  have hacts : Spells "acts".toList "acts" := spells_self (by decide)
  have hruns : Spells "runs".toList "runs" := spells_self (by decide)
  have hdatasets : Spells "datasets".toList "datasets" := spells_self (by decide)
  have hitems : Spells "items".toList "items" := spells_self (by decide)
  cases h with
  | runs h => exact .cons hversion (.cons hacts (.cons h (.cons hruns .nil)))
  | run hactor hid =>
    exact .cons hversion (.cons hacts (.cons hactor (.cons hruns (.cons hid .nil))))
  | items h => exact .cons hversion (.cons hdatasets (.cons h (.cons hitems .nil)))

/-- The segments of the names lead to the resource, if the ids are plain. -/
theorem leads_coded (h : ∀ id ∈ r.ids, IsPlain id) :
    r.Leads (("v2" :: r.names).map (Url.coded ·.toList)) := by
  have hspells : ∀ id ∈ r.ids, Spells (Url.coded id.toList) id := fun id hid =>
    Url.spells_coded (h id hid)
  cases r with
  | runs actor => exact .runs (hspells actor (by simp [ids]))
  | run actor id => exact .run (hspells actor (by simp [ids])) (hspells id (by simp [ids]))
  | items dataset => exact .items (hspells dataset (by simp [ids]))

end Resource

/-- The base URL of a service under HTTP names a host, and its path is divided. -/
theorem BaseUrl.isAddress_of_read {text : String} {url : Url} (hread : BaseUrl.read text = .ok url)
    (hhttp : Http.isHttpScheme url.scheme = true) : ∃ port, url.IsAddress port := by
  -- Both schemes of HTTP are special and have a port of their own
  have hkind : ∃ port, url.kind = .special port := by
    simp only [Http.isHttpScheme, Bool.or_eq_true, decide_eq_true_eq] at hhttp
    rcases hhttp with hscheme | hscheme
    · exact ⟨80, congrArg Url.schemeKind hscheme⟩
    · exact ⟨443, congrArg Url.schemeKind hscheme⟩
  obtain ⟨port, hkind⟩ := hkind
  unfold BaseUrl.read at hread
  split at hread
  · exact nomatch hread
  · next hfound =>
    split at hread
    · cases hread
      have hother : url.kind ≠ .other := by simp [hkind]
      -- A special URL that has been read is hierarchical
      obtain ⟨hhost, hpath⟩ := Url.hierarchical_of_read hfound hother
      refine ⟨port, hkind, hhost, ?_⟩
      unfold Url.isHierarchical at hpath
      unfold Url.segments
      split at hpath
      · next hsegments => rw [hsegments]
      · exact nomatch hpath
    · exact nomatch hread

namespace Client

variable {c : Client} {r : Resource} {request : Http.Request}

/-- Where a request goes. -/
theorem Requests.url_eq (h : c.Requests r request) :
    request.url = c.baseUrl.extend ("v2" :: r.names) := by
  cases h <;> rfl

/-- The request for a resource goes to a URL that is the base URL in all but the path.

* Behind the path of the base URL there are the segments that lead to the resource just if every id
  is plain and the path is not two slashes.
* With plain ids, different resources are requested in different ways.
* A slash at the end of the base URL makes no difference. -/
theorem requests_below {text : String} (hread : BaseUrl.read text = .ok c.baseUrl)
    (hhttp : Http.isHttpScheme c.baseUrl.scheme = true) (h : c.Requests r request) :
    request.url = { c.baseUrl with path := request.url.path } ∧
    ((∃ added, r.Leads added ∧ request.url.path = .segments (c.baseUrl.stem ++ added)) ↔
      c.baseUrl.segments ≠ [[], []] ∧ ∀ id ∈ r.ids, IsPlain id) ∧
    (∀ (c' : Client) (r' : Resource) (request' : Http.Request), c'.baseUrl = c.baseUrl →
      c'.Requests r' request' → (∀ id ∈ r.ids ++ r'.ids, IsPlain id) →
      request.url.target = request'.url.target → r = r') ∧
    (c.baseUrl.segments.getLast? ≠ some [] → ∀ (c' : Client) (request' : Http.Request),
      c'.baseUrl = c.baseUrl.withSlash → c'.Requests r request' → request.url = request'.url) := by
  obtain ⟨port, haddress⟩ := BaseUrl.isAddress_of_read hread hhttp
  have hversion : IsPlain "v2" := by decide
  have hne : "v2" ≠ "" := by decide
  rw [h.url_eq]
  refine ⟨Url.extend_eq _ _, ?_, ?_, ?_⟩
  · rw [← Resource.forall_isPlain_names_iff, ← Url.extend_path_iff haddress hversion hne]
    constructor
    -- Segments that lead to the resource spell its names, which settles both conditions
    · rintro ⟨added, hleads, hpath⟩
      exact ⟨added, hpath, hleads.forall₂_spells⟩
    · intro hspelled
      obtain ⟨hbase, hplain⟩ := (Url.extend_path_iff haddress hversion hne).1 hspelled
      refine ⟨_, Resource.leads_coded (Resource.forall_isPlain_names_iff.1 hplain), ?_⟩
      rw [← Url.trunk_eq_stem_iff.2 hbase]
      exact Url.extend_path_of_isPlain haddress hne (List.forall_mem_cons.2 ⟨hversion, hplain⟩)
  · intro c' r' request' hbase h' hplain hsame
    rw [List.forall_mem_append] at hplain
    rw [h'.url_eq, hbase] at hsame
    -- Plain names of two resources are the same if the targets are
    have hnames := List.forall_mem_cons.2
      ⟨hversion, Resource.forall_isPlain_names_iff.2 hplain.1⟩
    have hnames' := List.forall_mem_cons.2
      ⟨hversion, Resource.forall_isPlain_names_iff.2 hplain.2⟩
    exact Resource.names_inj (Url.extend_target_inj haddress hne hnames hnames' hsame)
  · intro hlast c' request' hslash h'
    rw [h'.url_eq, hslash, Url.extend_withSlash haddress hlast hversion]

/-- The items of a dataset at the usual address; the slash in the id does not divide it. -/
theorem requests_below_items :
    ∃ added, (Resource.items "a/b").Leads added ∧
      ((ofSettings (.ofToken "t")).itemsRequest "a/b").url.path =
        .segments (Settings.defaultBaseUrl.stem ++ added) :=
  have hread : BaseUrl.read "https://api.apify.com" = .ok (ofSettings (.ofToken "t")).baseUrl := by
    decide +kernel
  (requests_below hread (by decide) (.items "a/b")).2.1.2 ⟨by decide, by decide⟩

/-- A tab in the id of a run gets lost, so that the run is taken for another; between two dots, it
lets them lead up. -/
theorem statusRequest_tab :
    (¬∃ added, (Resource.run "apidojo~tweet-scraper" "run\t1").Leads added ∧
      ((ofSettings (.ofToken "t")).statusRequest "run\t1").url.path =
        .segments (Settings.defaultBaseUrl.stem ++ added)) ∧
    ((ofSettings (.ofToken "t")).statusRequest "run\t1").url =
      ((ofSettings (.ofToken "t")).statusRequest "run1").url ∧
    ((ofSettings (.ofToken "t")).statusRequest ".\t.").url.target =
      "/v2/acts/apidojo~tweet-scraper/" := by
  refine ⟨?_, by decide +kernel, by decide +kernel⟩
  rintro ⟨added, hleads, hpath⟩
  -- What is written has lost the tab, which the segment of the run would have to stand for
  have hwritten : ((ofSettings (.ofToken "t")).statusRequest "run\t1").url.path = .segments
      (["v2", "acts", "apidojo~tweet-scraper", "runs", "run1"].map String.toList) := by
    decide +kernel
  cases hleads with
  | run hactor hid =>
    rw [hwritten, UrlPath.segments.injEq] at hpath
    have hlast := congrArg List.getLast? hpath
    simp only [List.map_cons, List.map_nil, List.getLast?_append, List.getLast?_cons_cons,
      List.getLast?_singleton, Option.some_or, Option.some.injEq] at hlast
    have hoctets := hlast ▸ hid.octets
    exact absurd hoctets (by decide)

end Client

end TweetHarvest
