import Concierge.Console
import Concierge.Failure
import Concierge.Main
import Concierge.Proofs.Handoff.Transcript
import Concierge.Rehearsal.Script
import Concierge.Text.Cut
import Concierge.Proofs.Rounds
import Concierge.Proofs.Outcome
import Concierge.Proofs.Chat.Filing
import Concierge.Proofs.Chat.Regardless
import Concierge.Proofs.Twin
import Concierge.Proofs.ChatId
import Concierge.Proofs.Isolation.Own
import Concierge.Proofs.Storage
import Concierge.Proofs.Handoff.Recording
import Concierge.Proofs.Handoff.Retention
import Concierge.Proofs.Handoff.Era
import Concierge.Proofs.Handoff.Currency
import Concierge.Proofs.Isolation.Stores
import Concierge.Proofs.Isolation.Service
import Concierge.Proofs.Cache
import Concierge.Proofs.Isolation.Others
import Concierge.Proofs.Isolation.Agreement
import Concierge.Proofs.Isolation.Comparison
import Concierge.Proofs.Isolation.Staff
import Concierge.Proofs.Isolation.Growth
import Concierge.Proofs.Isolation.Sessions
import Concierge.Proofs.Isolation.Privacy
import Concierge.Proofs.Chat.Dialogue
import Concierge.Proofs.Memory.Reference
import Concierge.Proofs.Memory.Simulation
import Concierge.Proofs.Registry.Calls
import Concierge.Proofs.Lifecycle.Closing
import Concierge.Proofs.Lifecycle.Sessions
import Concierge.Proofs.Lifecycle.Books
import Concierge.Proofs.Lifecycle.Course
import Concierge.Proofs.Lifecycle.Lifetime
import Concierge.Proofs.Memory.Files
import Concierge.Proofs.Memory.Summaries
import Concierge.Proofs.Json
import Concierge.Proofs.Encoding
import Concierge.Proofs.Handoff.Alone
import Concierge.Proofs.Gemini.Retries
import Concierge.Proofs.Text.Found
import Concierge.Proofs.Answer.Grammar
import Concierge.Proofs.Text.Bytes
import Concierge.Proofs.Answer.Offsets
import Concierge.Proofs.Handoff.Signals
import Concierge.Proofs.Toolbox
import Concierge.Proofs.Settings.Resolution
import Concierge.Proofs.Gemini.Replies
import Concierge.Proofs.Delegation
import Concierge.Proofs.Text.Fitting
import Concierge.Proofs.Lifecycle.Status
import Concierge.Proofs.Memory.Facts
import Concierge.Proofs.Memory.OnFile
import Concierge.Proofs.Memory.Tools
import Concierge.Proofs.Chat.Facts
