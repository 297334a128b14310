import AlarmServer.Main
import AlarmServer.Script.Run
import AlarmServer.Json.Reader
import AlarmServer.Proofs.Staleness
import AlarmServer.Proofs.Programs
import AlarmServer.Proofs.Reentrant
import AlarmServer.Proofs.Changes
import AlarmServer.Proofs.ClientMethods
import AlarmServer.Proofs.Mediation
import AlarmServer.Proofs.Creations
import AlarmServer.Proofs.Registrations
import AlarmServer.Proofs.Sessions
import AlarmServer.Proofs.Successes
import AlarmServer.Proofs.WriteAccess
import AlarmServer.Proofs.Activations
import AlarmServer.Proofs.Integrity
import AlarmServer.Proofs.Publications
import AlarmServer.Proofs.Roles
import AlarmServer.Proofs.Notifiers
import AlarmServer.Proofs.Owners
import AlarmServer.Proofs.Deletions
import AlarmServer.Proofs.Secrets
import AlarmServer.Proofs.Demonstrations
import AlarmServer.Proofs.Erasures
import AlarmServer.Proofs.EventSources
import AlarmServer.Proofs.Refusals
import AlarmServer.Proofs.Sequences
import AlarmServer.Proofs.Cells
import AlarmServer.Proofs.Attributes
import AlarmServer.Proofs.Variables
import AlarmServer.Proofs.References
import AlarmServer.Proofs.Trail
import AlarmServer.Proofs.Encodings
import AlarmServer.Proofs.Labels
