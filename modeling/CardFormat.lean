import CardFormat.Bytes.Content
import CardFormat.Bytes.Word
import CardFormat.Label
import CardFormat.Params.Plan
import CardFormat.Params.Summary
import CardFormat.ExFat.Volume
import CardFormat.ExFat.PlainBitmap
import CardFormat.Fat.Volume
import CardFormat.Partition.Table
import CardFormat.Device.Memory
import CardFormat.Writer
import CardFormat.Serial
import CardFormat.Json.Value
import CardFormat.Json.Reader
import CardFormat.Format.Run
import CardFormat.CommandLine.Run
import CardFormat.Main
import CardFormat.Proofs.Attempt
import CardFormat.Proofs.Bytes.Sector
import CardFormat.Proofs.Bytes.Stream
import CardFormat.Proofs.Device.Memory
import CardFormat.Proofs.Device.Records
import CardFormat.Proofs.ExFat.BootRegion
import CardFormat.Proofs.ExFat.Image
import CardFormat.Proofs.ExFat.Layout
import CardFormat.Proofs.ExFat.Volume
import CardFormat.Proofs.Fat.BootSector
import CardFormat.Proofs.Fat.Driver
import CardFormat.Proofs.Fat.Image
import CardFormat.Proofs.Fat.Volume
import CardFormat.Proofs.Format.Card
import CardFormat.Proofs.Format.DryRun
import CardFormat.Proofs.Format.Refusal
import CardFormat.Proofs.Format.Stages
import CardFormat.Proofs.Format.Stretches
import CardFormat.Proofs.Format.Torn
import CardFormat.Proofs.Params.Areas
import CardFormat.Proofs.Params.ExFatVolumes
import CardFormat.Proofs.Params.Fat32Volumes
import CardFormat.Proofs.Params.FatSize
import CardFormat.Proofs.Params.Geometry
import CardFormat.Proofs.Params.Intervals
import CardFormat.Proofs.Params.Planned
import CardFormat.Proofs.Params.Planning
import CardFormat.Proofs.Params.Settling
import CardFormat.Proofs.Params.SmallVolumes
import CardFormat.Proofs.Params.Usable
import CardFormat.Proofs.Params.Validity
import CardFormat.Proofs.Partition.Address
import CardFormat.Proofs.Partition.Entry
import CardFormat.Proofs.Partition.Table
import CardFormat.Proofs.Writer
import CardFormat.Proofs.Writer.Count
import CardFormat.Proofs.Writer.Requests
import CardFormat.Proofs.Format.Addresses
import CardFormat.Proofs.Format.Partition
import CardFormat.Proofs.ExFat.Allocation
import CardFormat.Proofs.Format.Accepted
import CardFormat.Proofs.Device.Watched
import CardFormat.Proofs.Writer.Failures
import CardFormat.Proofs.Writer.Watched
import CardFormat.Proofs.Writer.Losses
import CardFormat.Proofs.Format.Watched
import CardFormat.Proofs.Format.Order
import CardFormat.Proofs.CommandLine.Arguments
import CardFormat.Proofs.CommandLine.DryRun
import CardFormat.Proofs.Device.File
import CardFormat.Proofs.Format.Files
import CardFormat.Proofs.Params.Passes
import CardFormat.Proofs.Partition.Codec
import CardFormat.Proofs.Label
import CardFormat.Proofs.Fat.RoundTrip
import CardFormat.Proofs.ExFat.BootChecksum
import CardFormat.Proofs.ExFat.ClusterSet
import CardFormat.Proofs.Text.Utf8
import CardFormat.Proofs.Text.Utf16
import CardFormat.Proofs.ExFat.LabelEntry
import CardFormat.Proofs.ExFat.Upcase
import CardFormat.Proofs.Device.Calls
import CardFormat.Proofs.Device.FileSize
import CardFormat.Proofs.Device.Store
