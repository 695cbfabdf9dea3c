import PacketSmith.Main
import PacketSmith.Proofs.CycleReports
import PacketSmith.Proofs.FileClashes
import PacketSmith.Proofs.IncludeGuards
import PacketSmith.Proofs.MessageOrder
import PacketSmith.Proofs.ModulePaths
import PacketSmith.Proofs.Numbering
import PacketSmith.Proofs.RelativePaths
import PacketSmith.Proofs.RoundTrip
import PacketSmith.Proofs.SearchVisits
import PacketSmith.Proofs.Sessions
import PacketSmith.Proofs.SpelledTypes
import PacketSmith.Proofs.SplicedComments
import PacketSmith.Proofs.TableHistories
import PacketSmith.Proofs.TypeMeanings
import PacketSmith.Proofs.VersionTails
import PacketSmith.Proofs.WireShape
import PacketSmith.Proofs.ImportStatements
