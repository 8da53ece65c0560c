/-
This file writes parameters out for people to read, one per line, with the values
in one column.
-/

import CardFormat.Params.Basic

namespace CardFormat

/-- One line: a heading, padded to the column, and a value. -/
def summaryLine (heading value : String) : String :=
  "  " ++ heading ++ String.ofList (List.replicate (22 - heading.length) ' ') ++ value

/-- The lines for the regions of a FAT volume. -/
def FatArea.summary (area : FatArea) : List String :=
  [summaryLine "Reserved sectors:" (toString area.reserved),
    summaryLine "Sectors per FAT:" (toString area.fatSectors),
    summaryLine "Filesystem area size:" (toString area.size),
    summaryLine "Partition start:" (toString area.start),
    summaryLine "Maximum clusters:" (toString area.clusters)]

/-- The lines for the regions of an exFAT volume. -/
def ExFatArea.summary (area : ExFatArea) : List String :=
  [summaryLine "Partition offset:" (toString area.start),
    summaryLine "Volume length:" (toString area.length),
    summaryLine "FAT offset:" (toString area.fatOffset),
    summaryLine "FAT length:" (toString area.fatLength),
    summaryLine "Cluster heap offset:" (toString area.heapOffset),
    summaryLine "Cluster count:" (toString area.clusters)]

/-- The lines for the regions of a volume. -/
def Layout.summary : Layout → List String
  | .fat area => area.summary
  | .exFat area => area.summary

/-- All lines for a set of parameters. -/
def Params.summary (params : Params) : List String :=
  ["Format parameters:",
    summaryLine "Filesystem type:" params.filesystem.name,
    summaryLine "Heads:" (toString params.heads),
    summaryLine "Sectors per track:" (toString params.sectorsPerTrack),
    summaryLine "Bytes per sector:" (toString params.bytesPerSector),
    summaryLine "Alignment:" (toString params.alignment),
    summaryLine "Sectors per cluster:" (toString params.sectorsPerCluster)] ++
  params.layout.summary

/-- A set of parameters as text, without a line break at the end. -/
def Params.text (params : Params) : String :=
  String.intercalate "\n" params.summary

end CardFormat
