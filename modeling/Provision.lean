import Provision.Main
import Provision.Proofs.Environment
import Provision.Proofs.Presentation
import Provision.Proofs.TestEnvironment
import Provision.Proofs.ChildEnvironment
import Provision.Proofs.Effects
import Provision.Proofs.Separator
import Provision.Proofs.OriginalPath
import Provision.Proofs.ExitStatus
import Provision.Proofs.Transcript
import Provision.Proofs.Rehearsal
import Provision.Proofs.Refusal
import Provision.Proofs.Pieces
import Provision.Proofs.Files
import Provision.Proofs.Saving
import Provision.Proofs.EarlyFailure
import Provision.Proofs.Announcement
import Provision.Proofs.Agreement
import Provision.Proofs.Dependence
import Provision.Proofs.Spelling
import Provision.Proofs.ReleaseTable
import Provision.Proofs.Listing
import Provision.Proofs.ListedTable
import Provision.Proofs.ByteOrder
import Provision.Proofs.DecodedTable
import Provision.Proofs.DistinctKeys
import Provision.Proofs.Records
import Provision.Proofs.Quiet
import Provision.Proofs.Selection
import Provision.Proofs.SearchPath
import Provision.Proofs.Commits
import Provision.Proofs.LibraryPlan
import Provision.Proofs.ProgramSearch
import Provision.Proofs.Destinations
import Provision.Proofs.FlagOrder
import Provision.Proofs.Wrapping
import Provision.Proofs.Addresses
