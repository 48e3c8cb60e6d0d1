import CacheFirst.Path.Lemmas
import CacheFirst.Proofs.Access.Execution
import CacheFirst.Record.Lawful
import CacheFirst.Session.Run
import CacheFirst.Proofs.Access.SingleHop
import CacheFirst.Proofs.Access.Accounting
import CacheFirst.Proofs.Access.DeferredFallback
import CacheFirst.Proofs.Session.Course
import CacheFirst.Proofs.Path.Placing
import CacheFirst.Proofs.Path.Keys
import CacheFirst.Proofs.Memory.StatusPlace
import CacheFirst.Proofs.Memory.MetadataTransparency
import CacheFirst.Proofs.Memory.DataTransparency
import CacheFirst.Proofs.Memory.Growing
import CacheFirst.Proofs.Session.Script
import CacheFirst.Proofs.Memory.Moving
import CacheFirst.Proofs.Memory.Connected
import CacheFirst.Proofs.Memory.Site
import CacheFirst.Proofs.Path.RoundTrip
import CacheFirst.Proofs.Memory.Finishing
import CacheFirst.Proofs.Access.PassingBy
import CacheFirst.Proofs.Session.PassingBy
import CacheFirst.Proofs.Memory.Failing
import CacheFirst.Proofs.Access.Rejecting
import CacheFirst.Proofs.Memory.Naming
import CacheFirst.Proofs.Access.Reading
import CacheFirst.Proofs.Memory.Alike
import CacheFirst.Proofs.Session.Asides
import CacheFirst.Proofs.Path.Spelling
import CacheFirst.Proofs.Access.Spelling
import CacheFirst.Proofs.Memory.Spelling
import CacheFirst.Proofs.Session.Spelling
import CacheFirst.Proofs.Path.Namespaces
import CacheFirst.Proofs.Memory.LeavingAlone
import CacheFirst.Proofs.Settings.Deepest
import CacheFirst.Proofs.Access.Precedence
import CacheFirst.Proofs.Blocks.Tiling
import CacheFirst.Proofs.Access.BlockPlaces
import CacheFirst.Proofs.Json.RoundTrip
import CacheFirst.Proofs.Record.Reload
import CacheFirst.Proofs.Memory.ThereAndBack
import CacheFirst.Proofs.Memory.Listing
import CacheFirst.Proofs.Memory.Walking
import CacheFirst.Proofs.Memory.Ways
import CacheFirst.Proofs.Memory.Creating
import CacheFirst.Proofs.Memory.Attributes
import CacheFirst.Proofs.Memory.SideBySide
import CacheFirst.Proofs.Memory.Writing
import CacheFirst.Proofs.Path.TreeOrder
import CacheFirst.Proofs.Path.Containment
import CacheFirst.Proofs.Path.Embedding
import CacheFirst.Proofs.Settings.Fields
import CacheFirst.Proofs.Settings.Selection
import CacheFirst.Proofs.Path.Canonical
import CacheFirst.Proofs.Path.Concatenation
import CacheFirst.Proofs.Settings.Layering
import CacheFirst.Proofs.Settings.Building
import CacheFirst.Proofs.Memory.Chunks
import CacheFirst.Proofs.Access.OpenedOnce
import CacheFirst.Proofs.Session.CallLogs
import CacheFirst.Proofs.Access.OpenPlaces
