import LibnvmeRs.Interaction
import LibnvmeRs.SetterCalls
import LibnvmeRs.ByteOrder
import LibnvmeRs.Words
import LibnvmeRs.Strings
import LibnvmeRs.Error
import LibnvmeRs.Args
import LibnvmeRs.Libnvme
import LibnvmeRs.Io
import LibnvmeRs.IoRanges
import LibnvmeRs.Zns
import LibnvmeRs.NamespaceCommands
import LibnvmeRs.Reservations
import LibnvmeRs.Controller
import LibnvmeRs.Fabrics
import LibnvmeRs.RangeArrays
import LibnvmeRs.Builders
import LibnvmeRs.Operation
import LibnvmeRs.Transfers
import LibnvmeRs.ReadToVec
import LibnvmeRs.Rejection
import LibnvmeRs.Sessions
import LibnvmeRs.Journals
import LibnvmeRs.DiscoveryLog
import LibnvmeRs.Ledger
import LibnvmeRs.Pages
import LibnvmeRs.FormatSelection
import LibnvmeRs.Ownership
import LibnvmeRs.Cursors
import LibnvmeRs.HandleTree
import LibnvmeRs.Disconnect
import LibnvmeRs.Chunks
import LibnvmeRs.FirmwareDownload
import LibnvmeRs.Probes
import LibnvmeRs.BlockCounts
import LibnvmeRs.Bitfields
import LibnvmeRs.CommandFields
import LibnvmeRs.ReturnCodes
import LibnvmeRs.ConnectConfig
import LibnvmeRs.ConnectStrings
import LibnvmeRs.Utf8
import LibnvmeRs.FixedText
import LibnvmeRs.Joins
import LibnvmeRs.HeaderProbes
import LibnvmeRs.ControllerLists
import LibnvmeRs.ErrorLog
import LibnvmeRs.BlockStore
import LibnvmeRs.Submitted
import LibnvmeRs.BlockDevices
import LibnvmeRs.IoSessions
import LibnvmeRs.Zones
import LibnvmeRs.ZoneSessions
import LibnvmeRs.Addressing
import LibnvmeRs.Guards
import LibnvmeRs.Smoke
import LibnvmeRs.Lifetimes
import LibnvmeRs.TreeLifetime
import LibnvmeRs.Columns
import LibnvmeRs.Listing
import LibnvmeRs.Admin
import LibnvmeRs.Management
import LibnvmeRs.ManagementSessions
import LibnvmeRs.Features
import LibnvmeRs.FeatureStore
import LibnvmeRs.FeatureSessions
import LibnvmeRs.Commands
import LibnvmeRs.Handles
