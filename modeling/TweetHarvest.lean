import TweetHarvest.Main
import TweetHarvest.Proofs.Archive.Map
import TweetHarvest.Proofs.Run.PollOutcome
import TweetHarvest.Proofs.Scrape.Disk
import TweetHarvest.Proofs.Archive.Rereading
import TweetHarvest.Proofs.Scrape.Results
import TweetHarvest.Proofs.Scrape.Summary
import TweetHarvest.Proofs.Analysis.Confinement
import TweetHarvest.Proofs.Scrape.Strictness
import TweetHarvest.Proofs.Scrape.Pipeline
import TweetHarvest.Proofs.Scrape.Printing
import TweetHarvest.Proofs.Timeline.Kinds
import TweetHarvest.Proofs.Timeline.Collecting
import TweetHarvest.Proofs.Timeline.Spelling
import TweetHarvest.Proofs.Username.Sites
import TweetHarvest.Proofs.Service.Endpoints
import TweetHarvest.Proofs.Archive.AnyName
import TweetHarvest.Proofs.Analysis.Stability
import TweetHarvest.Proofs.Run.Handle
import TweetHarvest.Proofs.Scrape.Payload
import TweetHarvest.Proofs.Analysis.Counting
import TweetHarvest.Proofs.Run.PollArithmetic
