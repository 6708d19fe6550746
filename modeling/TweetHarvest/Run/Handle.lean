import TweetHarvest.Json.Decoder
import TweetHarvest.Run.Status

/-!
# Run handles

A run as the service reports it: its id, its status and, where it has one, the id of the dataset
that its results go to.

* `RunHandle.toValue`, `RunHandle.decoder`  the JSON form
* `RunHandle.replyDecoder`                  the form in a reply, below the key `data`
-/

namespace TweetHarvest

open Json (Value Decoder)

/-- A run as the service reports it. -/
structure RunHandle where
  id : String
  status : RunStatus
  datasetId : Option String
deriving DecidableEq, Repr

namespace RunHandle

/-- A handle as JSON. -/
def toValue (h : RunHandle) : Value :=
  .object [("id", .string h.id), ("status", .string h.status.text),
    ("defaultDatasetId", .optionalString h.datasetId)]

/-- Reads a handle; the dataset id may be null or left out. -/
def decoder : Decoder RunHandle :=
  Json.record
    [("id", Decoder.check Decoder.string), ("status", Decoder.check Decoder.string),
     ("defaultDatasetId", Decoder.check (Decoder.optional Decoder.string))]
    fun row => do
      return {
        id := ← row.required "id" Decoder.string
        status := RunStatus.ofString (← row.required "status" Decoder.string)
        datasetId := ← row.defaulted "defaultDatasetId" Decoder.string }

/-- Reads the handle in the reply of the service. -/
def replyDecoder : Decoder RunHandle :=
  Json.record [("data", Decoder.check decoder)] fun row => row.required "data" decoder

/-- The dataset id, unless it is missing or empty. -/
def dataset? (h : RunHandle) : Option String := h.datasetId.filter (· ≠ "")

end RunHandle

end TweetHarvest
