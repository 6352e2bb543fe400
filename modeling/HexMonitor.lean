import HexMonitor.Main
import HexMonitor.Proofs.Addresses
import HexMonitor.Proofs.BackwardJumps
import HexMonitor.Proofs.Code
import HexMonitor.Proofs.CommandLines
import HexMonitor.Proofs.CountedLoops
import HexMonitor.Proofs.CycleCounts
import HexMonitor.Proofs.Divergence
import HexMonitor.Proofs.Dumps
import HexMonitor.Proofs.FaultOrder
import HexMonitor.Proofs.FaultReports
import HexMonitor.Proofs.Faults
import HexMonitor.Proofs.HexCodec
import HexMonitor.Proofs.HexGrammar
import HexMonitor.Proofs.HexInPlace
import HexMonitor.Proofs.HexSpelling
import HexMonitor.Proofs.History
import HexMonitor.Proofs.LoadModes
import HexMonitor.Proofs.Meaning
import HexMonitor.Proofs.Numerals
import HexMonitor.Proofs.OperandFetch
import HexMonitor.Proofs.Phases
import HexMonitor.Proofs.Precedence
import HexMonitor.Proofs.Refusal
import HexMonitor.Proofs.Reruns
import HexMonitor.Proofs.Runs
import HexMonitor.Proofs.SettingValues
import HexMonitor.Proofs.SiteCommands
import HexMonitor.Proofs.Stores
import HexMonitor.Proofs.StraightLine
import HexMonitor.Proofs.UnreadBytes
import HexMonitor.Proofs.UploadLimit
import HexMonitor.Proofs.Uploads
import HexMonitor.Proofs.Wording
import HexMonitor.Proofs.WrittenSettings
import HexMonitor.Settings.Arguments
