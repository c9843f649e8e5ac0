import FileScript.Main
import FileScript.Proofs.HandleMaps
import FileScript.Proofs.Payloads
import FileScript.Proofs.Refusals
import FileScript.Proofs.Renaming
import FileScript.Proofs.ShiftedListings
import FileScript.Proofs.Tree
import FileScript.Shell.Factors
import FileScript.Shell.Programs.Dates
import FileScript.Shell.Programs.Factoring
import FileScript.Proofs.BrokenReplays
import FileScript.Proofs.SideBySide
import FileScript.Proofs.Statuses
import FileScript.Proofs.Offsets
import FileScript.Proofs.AttributeMaps
import FileScript.Proofs.Targets
import FileScript.Proofs.Identifiers
import FileScript.Proofs.AttributeLists
import FileScript.Proofs.Spellings
import FileScript.Proofs.Readings
import FileScript.Proofs.Resolution
import FileScript.Proofs.ErrorTables
import FileScript.Proofs.MachineWords
import FileScript.Proofs.Permissions
import FileScript.Proofs.LinkCounts
import FileScript.Proofs.PrintedLines
import FileScript.Proofs.CommandLists
import FileScript.Proofs.CommandLines
