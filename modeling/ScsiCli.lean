import ScsiCli.LeadingDashes
import ScsiCli.RunReach
import ScsiCli.RowIsolation
import ScsiCli.StaticLine
import ScsiCli.TableContents
import ScsiCli.IscsiReport
import ScsiCli.DiskStatsReport
import ScsiCli.ArgumentCopies
import ScsiCli.NullRuns
import ScsiCli.ExitStatus
import ScsiCli.LeadingSpace
import ScsiCli.IntrusiveList
import ScsiCli.HandleBalance
import ScsiCli.BlockStatistics
import ScsiCli.FcStatistics
import ScsiCli.DiskReport
import ScsiCli.QueueReport
import ScsiCli.DiskRows
import ScsiCli.Capacity
import ScsiCli.SizeBuffer
import ScsiCli.UnreadStatistics
import ScsiCli.BusIds
import ScsiCli.EnclosureRows
import ScsiCli.TargetNames
import ScsiCli.IdentityStrings
import ScsiCli.HostDrivers
import ScsiCli.ConnectionNumbers
import ScsiCli.CapabilityFlags
import ScsiCli.IscsiReport
import ScsiCli.DiskStatsReport
