import OpenClHash.Library.LeadingDigit
import OpenClHash.Library.FixedDigits
import OpenClHash.Library.LittleEndian
import OpenClHash.Library.Publication
import OpenClHash.Library.BitSmear
import OpenClHash.Library.WhileLoop
import OpenClHash.Library.AlternateHalving
import OpenClHash.Library.History
import OpenClHash.Library.Register
import OpenClHash.Library.Custody
import OpenClHash.Library.Lifetime
import OpenClHash.Library.Fallible
import OpenClHash.Library.Regions
import OpenClHash.Library.Rounds
import OpenClHash.Library.Deferral
import OpenClHash.Library.Block
import OpenClHash.Kernel.Source
import OpenClHash.Kernel.WordHash
import OpenClHash.Kernel.WorkItem
import OpenClHash.Host.Source
import OpenClHash.Host.Split
import OpenClHash.Host.SearchSpace
import OpenClHash.Device.Launch
import OpenClHash.Device.LaunchRefinement
import OpenClHash.Device.Bounds
import OpenClHash.Device.Reports
import OpenClHash.Device.Runs
import OpenClHash.Device.Outcomes
import OpenClHash.Host.Acceptance
import OpenClHash.Host.Main
import OpenClHash.Host.Outcomes
import OpenClHash.Host.Progress
import OpenClHash.Host.Recovery
import OpenClHash.Sizing.Source
import OpenClHash.Sizing.Rounding
import OpenClHash.Sizing.Shrinking
import OpenClHash.Sizing.Validation
import OpenClHash.Sizing.Products
import OpenClHash.Sizing.Launchable
import OpenClHash.Sizing.PowerLimits
import OpenClHash.Sizing.Covering
import OpenClHash.Wrapper.Source
import OpenClHash.Wrapper.InfoFields
import OpenClHash.Wrapper.Teardown
import OpenClHash.Wrapper.Effects
import OpenClHash.Wrapper.Queries
import OpenClHash.Wrapper.Operations
import OpenClHash.Wrapper.Session
import OpenClHash.Wrapper.KernelCreation
import OpenClHash.Wrapper.Launches
import OpenClHash.Wrapper.Zeros
import OpenClHash.Wrapper.Handles
import OpenClHash.Wrapper.Resources
import OpenClHash.Wrapper.Transfers
import OpenClHash.Wrapper.Arguments
import OpenClHash.Wrapper.Ownership
import OpenClHash.Wrapper.Flags
import OpenClHash.Wrapper.Liveness
import OpenClHash.Wrapper.Commands
import OpenClHash.Wrapper.LoadFile
import OpenClHash.Host.Arguments
import OpenClHash.System.Objects
import OpenClHash.System.Program
import OpenClHash.System.Ready
import OpenClHash.System.Preparation
import OpenClHash.System.Search
import OpenClHash.System.Exit
import OpenClHash.System.Store
import OpenClHash.System.Queue
