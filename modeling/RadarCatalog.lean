import RadarCatalog.Main
import RadarCatalog.Proofs.Json.Reading
import RadarCatalog.Proofs.Catalog.Records
import RadarCatalog.Proofs.Catalog.Layouts
import RadarCatalog.Proofs.Catalog.RoundTrip
import RadarCatalog.Proofs.Catalog.Histories
import RadarCatalog.Proofs.Files.Changes
import RadarCatalog.Proofs.Command.Histories
import RadarCatalog.Proofs.Command.Attempts
import RadarCatalog.Proofs.Command.Reruns
import RadarCatalog.Proofs.Registry.Stations
import RadarCatalog.Proofs.Catalog.MergePolicy
import RadarCatalog.Proofs.Registry.Reduction
import RadarCatalog.Proofs.Command.Listing
import RadarCatalog.Proofs.Command.Revisions
import RadarCatalog.Proofs.Command.Failures
import RadarCatalog.Proofs.Command.Footprints
import RadarCatalog.Proofs.Registry.Reordering
import RadarCatalog.Proofs.Catalog.FreshMerge
import RadarCatalog.Proofs.Registry.SnapshotRoundTrip
import RadarCatalog.Proofs.Command.Replays
import RadarCatalog.Proofs.Command.ExitCodes
import RadarCatalog.Proofs.Catalog.AlignedLayout
import RadarCatalog.Proofs.Catalog.MinimalDiff
import RadarCatalog.Proofs.Catalog.Faithful
import RadarCatalog.Proofs.Registry.WireVariants
import RadarCatalog.Proofs.Catalog.AllowLists
import RadarCatalog.Proofs.Catalog.Acceptance
import RadarCatalog.Proofs.Registry.Policies
import RadarCatalog.Proofs.Registry.FurtherReports
import RadarCatalog.Proofs.Registry.ExactNumbers
import RadarCatalog.Proofs.Registry.Insertions
import RadarCatalog.Proofs.Catalog.Origins
import RadarCatalog.Proofs.Json.RewrittenTexts
