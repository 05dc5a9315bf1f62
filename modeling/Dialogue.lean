import Dialogue.Main
import Dialogue.Files.Keeping
import Dialogue.Memory.Interleaving
import Dialogue.Live.Interleaving
import Dialogue.Proofs.Conversation.Resumption
import Dialogue.Proofs.Live.Finality
import Dialogue.Proofs.Memory.Orphans
import Dialogue.Proofs.StateMachine.Problems
import Dialogue.Proofs.StateMachine.TaskIds
import Dialogue.Proofs.Memory.LastWrites
import Dialogue.Proofs.Live.Breakdowns
import Dialogue.Proofs.Flow.Documents
import Dialogue.Proofs.Flow.Storage
import Dialogue.Proofs.Flow.Restated
import Dialogue.Proofs.Memory.GuardFacts
import Dialogue.Proofs.Live.Serving
import Dialogue.Proofs.Live.Opening
import Dialogue.Proofs.Live.DryRuns
import Dialogue.Proofs.Live.MemoryWrites
import Dialogue.Proofs.Live.Permits
import Dialogue.Proofs.Live.Turns
import Dialogue.Proofs.Live.Orderly
import Dialogue.Proofs.Live.Effects
import Dialogue.Proofs.Live.OneActor
import Dialogue.Proofs.Live.QuietCalls
import Dialogue.Proofs.Conversation.CurrentTask
import Dialogue.Proofs.Memory.Expiry
import Dialogue.Proofs.Memory.Looks
import Dialogue.Proofs.Memory.Provenance
import Dialogue.Proofs.Conversation.History
import Dialogue.Proofs.Conversation.Decisions
import Dialogue.Proofs.Conversation.Editing
import Dialogue.Proofs.Memory.TableRows
import Dialogue.Proofs.Memory.Acknowledged
import Dialogue.Memory.Container
import Dialogue.Proofs.Memory.Requirements
import Dialogue.Proofs.Memory.Staleness
