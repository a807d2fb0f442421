import FolderIndex.Archive
import FolderIndex.Digest
import FolderIndex.FileTree.Edit
import FolderIndex.FileTree.Walk
import FolderIndex.Instant
import FolderIndex.Main
import FolderIndex.Text.Blank
import FolderIndex.Text.Lowercase
import FolderIndex.Text.Numeral
import FolderIndex.Text.Percent
import FolderIndex.Text.Snippet
import FolderIndex.Text.Token
import FolderIndex.Proofs.SuccessfulScans
import FolderIndex.Proofs.TopMatches
import FolderIndex.Proofs.CompleteWalks
import FolderIndex.Proofs.ScanFailures
import FolderIndex.Proofs.Rescans
import FolderIndex.Proofs.IndexMaps
import FolderIndex.Proofs.DatabaseFiles
import FolderIndex.Proofs.Hosting
import FolderIndex.Proofs.StoreCalls
import FolderIndex.Proofs.Lifecycle
import FolderIndex.Proofs.Stopping
import FolderIndex.Proofs.ScheduledScans
import FolderIndex.Proofs.SearchRoutes
import FolderIndex.Proofs.Blocks
import FolderIndex.Proofs.Chronicles
import FolderIndex.Proofs.Outcomes
import FolderIndex.Proofs.Refusals
import FolderIndex.Proofs.Damage
import FolderIndex.Proofs.Tallies
import FolderIndex.Proofs.Text.Tokens
import FolderIndex.Proofs.StoredTokens
import FolderIndex.Proofs.RankedMatches
import FolderIndex.Proofs.WatchRoots
import FolderIndex.Proofs.CanonicalRoots
import FolderIndex.Proofs.NamedFiles
import FolderIndex.Proofs.SearchLimits
import FolderIndex.Proofs.Intervals
import FolderIndex.Proofs.Extracts
import FolderIndex.Proofs.Likeness
