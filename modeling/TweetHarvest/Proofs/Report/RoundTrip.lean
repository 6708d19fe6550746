import TweetHarvest.Archive
import TweetHarvest.Proofs.Json.Records

/-!
# Reports read back

The decoders of a report and of its parts are inverse to the encoders, so the report in the file of a
report is the one that was saved.

## Key results

- `Tweet.decodes`, `Profile.decodes`, `Report.decodes`: the decoders give the records back
- `Archive.parseReport_pretty`: a printed report is parsed
- `Archive.run_loadReport`: a report is loaded from its printed text
-/

namespace TweetHarvest

open Json (Decodes Value Decoder Fits decodes_string decodes_word decodes_halfWord decodes_bool
  decodes_list decodes_record decodes_optionalString)

/-! ## The parts of a report -/

theorem Tweet.decodes (t : Tweet) : Decodes Tweet.decoder 1 t.toValue t := by
  have hstring := decodes_string 0
  have hword := decodes_word 0
  have hoptional := decodes_optionalString 0
  unfold Tweet.decoder
  show Decodes _ (0 + 1) (.object t.fields) t
  refine decodes_record ?_ ?_ fun row h => ?_
  · decide
  -- Every field passes the check of its column
  · exact .cons (hoptional t.id).check <| .cons (hstring t.text).check <|
      .cons (hoptional t.createdAt).check <| .cons (hword t.retweets).check <|
      .cons (hword t.likes).check <| .cons (hword t.replies).check <|
      .cons (hstring t.url).check .nil
  · rw [h.optional "id" (by simp [Tweet.fields]) (hoptional t.id),
      h.required "text" (by simp [Tweet.fields]) (hstring t.text),
      h.optional "created_at" (by simp [Tweet.fields]) (hoptional t.createdAt),
      h.required "retweet_count" (by simp [Tweet.fields]) (hword t.retweets),
      h.required "like_count" (by simp [Tweet.fields]) (hword t.likes),
      h.required "reply_count" (by simp [Tweet.fields]) (hword t.replies),
      h.required "url" (by simp [Tweet.fields]) (hstring t.url)]
    rfl

theorem Profile.decodes (p : Profile) : Decodes Profile.decoder 1 p.toValue p := by
  have hstring := decodes_string 0
  have hword := decodes_word 0
  have hbool := decodes_bool 0
  unfold Profile.decoder
  show Decodes _ (0 + 1) (.object p.fields) p
  refine decodes_record ?_ ?_ fun row h => ?_
  · decide
  · exact .cons (hstring p.username).check <| .cons (hstring p.displayName).check <|
      .cons (hstring p.description).check <| .cons (hword p.followers).check <|
      .cons (hword p.following).check <| .cons (hword p.tweets).check <|
      .cons (hbool p.verified).check .nil
  · rw [h.required "username" (by simp [Profile.fields]) (hstring p.username),
      h.required "display_name" (by simp [Profile.fields]) (hstring p.displayName),
      h.required "description" (by simp [Profile.fields]) (hstring p.description),
      h.required "followers_count" (by simp [Profile.fields]) (hword p.followers),
      h.required "following_count" (by simp [Profile.fields]) (hword p.following),
      h.required "tweets_count" (by simp [Profile.fields]) (hword p.tweets),
      h.required "verified" (by simp [Profile.fields]) (hbool p.verified)]
    rfl

namespace Report

/-- The fields of the metadata. -/
private def Metadata.fields (m : Metadata) : List (String × Value) :=
  [("scraped_at", .string m.scrapedAt), ("username", .string m.username),
    ("tweets_requested", .nat m.tweetsRequested.toNat), ("tweets_found", .count m.tweetsFound)]

theorem Metadata.decodes (m : Metadata) : Decodes Metadata.decoder 1 m.toValue m := by
  have hstring := decodes_string 0
  have hword := decodes_word 0
  have hhalfWord := decodes_halfWord 0
  show Decodes _ (0 + 1) (.object m.fields) m
  refine decodes_record ?_ ?_ fun row h => ?_
  · decide
  · exact .cons (hstring m.scrapedAt).check <| .cons (hstring m.username).check <|
      .cons (hhalfWord m.tweetsRequested).check <| .cons (hword m.tweetsFound).check .nil
  · rw [h.required "scraped_at" (by simp [Metadata.fields]) (hstring m.scrapedAt),
      h.required "username" (by simp [Metadata.fields]) (hstring m.username),
      h.required "tweets_requested" (by simp [Metadata.fields]) (hhalfWord m.tweetsRequested),
      h.required "tweets_found" (by simp [Metadata.fields]) (hword m.tweetsFound)]
    rfl

/-- A profile is never printed as null. -/
theorem decodes_profileValue (p : Option Profile) :
    Decodes (Decoder.optional Profile.decoder) 1 (profileValue p) p := by
  cases p with
  | none => exact Json.decodes_null
  | some p => exact p.decodes.optional nofun

/-- The fields of a report. -/
private def fields (r : Report) : List (String × Value) :=
  [("metadata", r.metadata.toValue), ("profile", profileValue r.profile),
    ("tweets", .array (r.tweets.map Tweet.toValue))]

/-- A report is read back, three levels of nesting deep. -/
theorem decodes (r : Report) : Decodes decoder 3 r.toValue r := by
  -- The tweets lie two levels deep, the metadata and the profile one
  have hmetadata := r.metadata.decodes.mono (show 1 ≤ 2 by decide)
  have hprofile := (decodes_profileValue r.profile).mono (show 1 ≤ 2 by decide)
  have htweets := decodes_list Tweet.decodes r.tweets
  show Decodes _ (2 + 1) (.object r.fields) r
  refine decodes_record ?_ ?_ fun row h => ?_
  · decide
  · exact .cons hmetadata.check <| .cons hprofile.check <| .cons htweets.check .nil
  · rw [h.required "metadata" (by simp [fields]) hmetadata,
      h.optional "profile" (by simp [fields]) hprofile,
      h.required "tweets" (by simp [fields]) htweets]
    rfl

end Report

/-! ## Loading -/

namespace Archive

/-- A printed report is parsed. -/
theorem parseReport_pretty (r : Report) : parseReport r.toValue.pretty = .ok r := by
  rw [parseReport, r.decodes.decode_pretty (by decide)]
  rfl

/-- The octets of a text are those of no other text. -/
theorem fromUTF8?_toUTF8 (s : String) : String.fromUTF8? s.toUTF8 = some s := by
  unfold String.fromUTF8?
  exact dif_pos s.isValidUTF8

/-- Loading reads a file and parses the text in it. -/
theorem run_loadReport_of_read {here : Location} {path : Path} {t : FileTree} {text : String}
    (h : t.read here path = .ok text.toUTF8) :
    (loadReport (.ofTree here) path).run t = (parseReport text, t) := by
  have htext := fromUTF8?_toUTF8 text
  -- The octets of the text are only known to be those that are decoded to it
  generalize text.toUTF8 = content at h htext
  have hread : ((FileSystem.ofTree here).read path).run t = (.ok content, t) := by
    show (t.read here path, t) = _
    rw [h]
  simp only [loadReport, StateT.run_bind, hread]
  show StateT.run _ t = _
  dsimp only
  rw [htext]
  rfl

/-- A report is loaded from its printed text. -/
theorem run_loadReport {here : Location} {path : Path} {t : FileTree} {r : Report}
    (h : t.read here path = .ok r.toValue.pretty.toUTF8) :
    (loadReport (.ofTree here) path).run t = (.ok r, t) := by
  rw [run_loadReport_of_read h, parseReport_pretty]

end Archive

end TweetHarvest
