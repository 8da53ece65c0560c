/-
This file holds the report of a format or a dry run, and writes it as text and as
JSON.
-/

import CardFormat.Json.Value
import CardFormat.Params.Summary
import CardFormat.Text.Quoted

namespace CardFormat

/-- What a format did, or what a dry run found. -/
structure FormatReport where
  /-- Capacity used, in 512-byte sectors. -/
  deviceSectors : Nat
  params : Params
  label : String
  volumeSerial : Option UInt32
  diskSignature : Option UInt32
  erased : Bool
  dryRun : Bool
  bytesWritten : Nat
  warnings : List String
  deriving Repr, DecidableEq

namespace FormatReport

/-- A serial as people read it: two groups of four digits. -/
def serialText (serial : UInt32) : String :=
  Text.paddedHexadecimal 4 (serial.toNat / 65536) ++ "-" ++
    Text.paddedHexadecimal 4 (serial.toNat % 65536)

/-- A disk signature as people read it. -/
def signatureText (signature : UInt32) : String :=
  "0x" ++ Text.paddedHexadecimal 8 signature.toNat

/-- The lines of the report. -/
def lines (report : FormatReport) : List String :=
  report.params.summary ++
  [summaryLine "Device sectors:" (toString report.deviceSectors)] ++
  (if report.label.isEmpty then [] else [summaryLine "Volume label:" report.label]) ++
  (report.volumeSerial.map fun serial => summaryLine "Volume ID:" (serialText serial)).toList ++
  (report.diskSignature.map fun signature =>
    summaryLine "Disk signature:" (signatureText signature)).toList ++
  [if report.dryRun then "Dry run: nothing was written." else "Successfully formatted the card."]

/-- The report as text, without a line break at the end. -/
def text (report : FormatReport) : String :=
  String.intercalate "\n" report.lines

end FormatReport

/-- The regions of a volume as JSON. -/
def Layout.json : Layout → JsonValue
  | .fat area => .object
    [("kind", .string "fat"),
      ("reserved_sectors", .number area.reserved),
      ("sectors_per_fat", .number area.fatSectors),
      ("fs_area_size", .number area.size),
      ("partition_start", .number area.start),
      ("max_clusters", .number area.clusters)]
  | .exFat area => .object
    [("kind", .string "exfat"),
      ("partition_offset", .number area.start),
      ("volume_length", .number area.length),
      ("fat_offset", .number area.fatOffset),
      ("fat_length", .number area.fatLength),
      ("cluster_heap_offset", .number area.heapOffset),
      ("cluster_count", .number area.clusters)]

/-- Parameters as JSON. -/
def Params.json (params : Params) : JsonValue :=
  .object
    [("total_sectors", .number params.totalSectors),
      ("bytes_per_sector", .number params.bytesPerSector),
      ("sectors_per_cluster", .number params.sectorsPerCluster),
      ("alignment", .number params.alignment),
      ("fs_type", .string params.filesystem.tag),
      ("heads", .number params.heads),
      ("sectors_per_track", .number params.sectorsPerTrack),
      ("layout", params.layout.json)]

/-- A report as JSON. -/
def FormatReport.json (report : FormatReport) : JsonValue :=
  .object
    [("device_sectors", .number report.deviceSectors),
      ("params", report.params.json),
      ("label", .string report.label),
      ("volume_serial", .ofOption (fun serial => .number serial.toNat) report.volumeSerial),
      ("disk_signature", .ofOption (fun signature => .number signature.toNat) report.diskSignature),
      ("erased", .bool report.erased),
      ("dry_run", .bool report.dryRun),
      ("bytes_written", .number report.bytesWritten),
      ("warnings", .array (report.warnings.map .string))]

end CardFormat
