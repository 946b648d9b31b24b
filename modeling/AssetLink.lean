import AssetLink.DefaultConfig.File
import AssetLink.Discovery.DescriptionFile
import AssetLink.Discovery.PluginSource
import AssetLink.Host.Session
import AssetLink.Implementation.Description
import AssetLink.Json.Direct
import AssetLink.Plugin.Samples
import AssetLink.Traits.View
import AssetLink.Proofs.Change
import AssetLink.Proofs.Dictionary
import AssetLink.Proofs.Traits.Writing
import AssetLink.Proofs.Traits.Table
import AssetLink.Proofs.Json.Exchange
import AssetLink.Proofs.Json.RoundTrip
import AssetLink.Proofs.Discovery.Visits
import AssetLink.Proofs.Discovery.FirstFound
import AssetLink.Proofs.Discovery.Accounting
import AssetLink.Proofs.Discovery.Scanning
import AssetLink.Proofs.Discovery.Offers
import AssetLink.Proofs.Discovery.Rescanning
import AssetLink.Proofs.Discovery.Nesting
import AssetLink.Proofs.Json.Reading
import AssetLink.Proofs.Json.Codecs
import AssetLink.Proofs.Json.Integers
import AssetLink.Proofs.Traits.Viewing
import AssetLink.Proofs.Traits.Names
import AssetLink.Proofs.Traits.Kinds
import AssetLink.Proofs.Discovery.Phases
import AssetLink.Proofs.Host.Starting
import AssetLink.Proofs.Host.SearchedPaths
import AssetLink.Proofs.Host.Surveying
import AssetLink.Proofs.Host.Lifetime
import AssetLink.Proofs.Traits.Refusals
import AssetLink.Proofs.Traits.Specifications
import AssetLink.Proofs.Discovery.Union
import AssetLink.Proofs.Discovery.Reach
import AssetLink.Proofs.Discovery.AsNeeded
import AssetLink.Proofs.DefaultConfig.Faults
import AssetLink.Proofs.Discovery.Compatibility
import AssetLink.Proofs.DefaultConfig.Expansion
import AssetLink.Proofs.Files.Resolving
import AssetLink.Proofs.Text.Replacing
import AssetLink.Proofs.DefaultConfig.Loading
import AssetLink.Proofs.Files.Reordering
import AssetLink.Proofs.Discovery.Ordering
import AssetLink.Proofs.Host.ListedPaths
import AssetLink.Proofs.Traits.Setting
import AssetLink.Proofs.Traits.Status
import AssetLink.Proofs.Traits.Layers
import AssetLink.Proofs.Json.Acceptance
import AssetLink.Proofs.Traits.LastWrites
import AssetLink.Proofs.Traits.Equality
import AssetLink.Proofs.Json.Dynamic
import AssetLink.Proofs.Host.AllDetails
import AssetLink.Proofs.Host.Sessions
