import LanguageClient.Codebase
import LanguageClient.Main
import LanguageClient.Proofs.Client.Correlation
import LanguageClient.Proofs.Client.Failing
import LanguageClient.Proofs.CommandLine.Counting
import LanguageClient.Proofs.CommandLine.Protocol
import LanguageClient.Proofs.Connection.Delivery
import LanguageClient.Proofs.Connection.Lines
import LanguageClient.Proofs.Connection.Turns
import LanguageClient.Proofs.Message.Restriction
import LanguageClient.Proofs.Packet.Buffer
import LanguageClient.Proofs.Packet.Framing
import LanguageClient.Proofs.Packet.Grammar
import LanguageClient.Proofs.Packet.Prefixes
import LanguageClient.Proofs.Packet.Resynchronisation
import LanguageClient.Proofs.Packet.Validity
import LanguageClient.Proofs.Path.Uri
import LanguageClient.Proofs.Scenario.Rehearsal
import LanguageClient.Scenario.Play
import LanguageClient.Scenario.Process
import LanguageClient.Scenario.Trial
