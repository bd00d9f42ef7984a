import ModelRouter.TerminalStatus
import ModelRouter.Durability
import ModelRouter.Currentness
import ModelRouter.Incarnations
import ModelRouter.Handoffs
import ModelRouter.Indexing
import ModelRouter.Shutdown
import ModelRouter.Transactions
import ModelRouter.Retention
import ModelRouter.Generations
import ModelRouter.Restart
import ModelRouter.Repertoire
import ModelRouter.RankOrder
import ModelRouter.Records
import ModelRouter.Revalidation
import ModelRouter.Saved
import ModelRouter.Recovered
import ModelRouter.Coherence
import ModelRouter.Base.Monitor
import ModelRouter.Locks
import ModelRouter.LockDiscipline
import ModelRouter.Verdicts
import ModelRouter.Courses
import ModelRouter.Consulted
import ModelRouter.Contents
import ModelRouter.Bindings
import ModelRouter.Settings
import ModelRouter.PlainSpelling
import ModelRouter.Corruption
import ModelRouter.Delivery
import ModelRouter.Emission
import ModelRouter.Discovery
import ModelRouter.Grounds
import ModelRouter.Vouching
import ModelRouter.Tightening
import ModelRouter.Merging
import ModelRouter.Fingerprint
import ModelRouter.Rerouting
import ModelRouter.Switching
import ModelRouter.Cleanup
import ModelRouter.Concord
import ModelRouter.Rechecks
import ModelRouter.Base.Checked
import ModelRouter.Scores
import ModelRouter.Overflow
import ModelRouter.Improvements
import ModelRouter.Lapses
import ModelRouter.FullScan
import ModelRouter.Rejections
import ModelRouter.Localities
import ModelRouter.Receipts
import ModelRouter.Admission
import ModelRouter.Ownership
import ModelRouter.RetryPolicies
import ModelRouter.Fallbacks
import ModelRouter.Successors
import ModelRouter.Exactness
import ModelRouter.Comparison
import ModelRouter.Base.Bisection
import ModelRouter.Profiles
import ModelRouter.Base.Fips180
import ModelRouter.Digests
import ModelRouter.Base.Division
import ModelRouter.Checksum
import ModelRouter.Base.Counter
import ModelRouter.Identities
import ModelRouter.Base.Echo
import ModelRouter.Received
import ModelRouter.Base.Walk
import ModelRouter.Codes
import ModelRouter.StoredCodes
import ModelRouter.Inspection
import ModelRouter.Upheld
import ModelRouter.Base.PrefixCode
import ModelRouter.Channel
import ModelRouter.Exchange
import ModelRouter.Answering
import ModelRouter.Base.Disk
import ModelRouter.FileStore
import ModelRouter.Base.Tally
import ModelRouter.Accounting
import ModelRouter.Base.Json
import ModelRouter.Rendering
import ModelRouter.Told
import ModelRouter.Summaries
import ModelRouter.Documents
