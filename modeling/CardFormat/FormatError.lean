/-
This file holds the reasons for which a format does not happen or does not finish.
Each reason is a cause with the values that belong to it; the wording stands in one
place, and so does the exit status that a failure gives a program.
-/

import CardFormat.Filesystem
import CardFormat.IoError
import CardFormat.Numbers
import CardFormat.Text.Quoted

namespace CardFormat

/-- The most characters or code units a label may have. -/
def labelLimit : Nat := 11

/-- The largest capacity, in 512-byte sectors: 2 TiB. -/
def largestCapacity : Nat := 2 ^ 32

/-- Why a label cannot be used. -/
inductive LabelObjection where
  | tooManyCharacters (count : Nat)
  | leadingSpace
  | lowercase (character : Char)
  | outsideCodePage (character : Char)
  | forbidden (character : Char)
  | tooManyUnits (count : Nat)
  deriving Repr, DecidableEq

/-- The objection in words. -/
def LabelObjection.message : LabelObjection → String
  | .tooManyCharacters count => s!"{count} characters, at most {labelLimit} allowed"
  | .leadingSpace => "must not start with a space"
  | .lowercase character =>
    "non-ASCII lowercase character " ++ Text.quotedChar character ++
      " is not allowed, only ASCII letters may be lowercase"
  | .outsideCodePage character =>
    "character " ++ Text.quotedChar character ++ " is not in code page 850"
  | .forbidden character => "character " ++ Text.quotedChar character ++ " is not allowed"
  | .tooManyUnits count => s!"{count} UTF-16 units, at most {labelLimit} allowed"

/-- Why a request makes no sense. -/
inductive Objection where
  | label (text : String) (objection : LabelObjection)
  | capacityOutOfRange (requested : Nat)
  | capacityAboveDevice (requested device : Nat)
  | stated (text : String)
  deriving Repr, DecidableEq

/-- The objection in words. -/
def Objection.message : Objection → String
  | .label text objection =>
    "invalid volume label " ++ Text.quotedText text ++ ": " ++ objection.message
  | .capacityOutOfRange requested =>
    s!"capacity override of {requested} sectors is out of range (1..={largestCapacity})"
  | .capacityAboveDevice requested device =>
    s!"capacity override of {requested} sectors exceeds the device size of {device} sectors"
  | .stated text => text

/-- Why no layout serves. -/
inductive Infeasibility where
  | noCapacity
  | capacityTooLarge (sectors : Nat)
  | metadataTooLarge
  | fatSizeUnsettled
  | fat32SizeUnsettled
  | sectorSize (bytes : Nat)
  | clusterNotPowerOfTwo (sectors : Nat)
  | alignmentNotPowerOfTwo (sectors : Nat)
  | areaMismatch
  | fatLayoutForExFat
  | exFatLayoutForFat
  | clustersOutOfRange (count : Nat) (filesystem : Filesystem) (least most : Nat)
  | fatTooSmall (entries needed : Nat)
  | doesNotFit
  | bootFieldsExceeded
  | reservedAreaTooSmall
  | fatSizeFieldExceeded
  | partitionTooLong
  | exFatClustersOutOfRange (count : Nat)
  | exFatRegionsOverlap
  | exFatFatTooSmall
  | exFatDoesNotFit
  | exFatFieldsExceeded
  | stated (text : String)
  deriving Repr, DecidableEq

/-- The reason in words. -/
def Infeasibility.message : Infeasibility → String
  | .noCapacity => "device capacity is 0"
  | .capacityTooLarge sectors =>
    s!"capacity of {sectors} sectors exceeds the supported maximum of 2 TiB"
  | .metadataTooLarge => "device too small for the filesystem metadata"
  | .fatSizeUnsettled => "FAT size did not converge"
  | .fat32SizeUnsettled => "FAT32 size did not converge"
  | .sectorSize bytes => s!"invalid sector size {bytes}"
  | .clusterNotPowerOfTwo sectors => s!"sectors per cluster {sectors} is not a power of two"
  | .alignmentNotPowerOfTwo sectors => s!"alignment {sectors} is not a power of two"
  | .areaMismatch => "filesystem area size does not match its parts"
  | .fatLayoutForExFat => "FAT layout with exFAT type"
  | .exFatLayoutForFat => "exFAT layout with FAT type"
  | .clustersOutOfRange count filesystem least most =>
    s!"{count} clusters out of range for {filesystem.name} ({least}..={most})"
  | .fatTooSmall entries needed => s!"FAT holds {entries} entries, {needed} needed"
  | .doesNotFit => "filesystem does not fit on the device"
  | .bootFieldsExceeded => "cluster size or reserved area too large for the BPB"
  | .reservedAreaTooSmall => "FAT32 needs at least 9 reserved sectors"
  | .fatSizeFieldExceeded => "FAT too large for a 16-bit FAT size field"
  | .partitionTooLong => "partition exceeds 2^32 sectors; try larger logical sectors"
  | .exFatClustersOutOfRange count => s!"{count} clusters out of range for exFAT"
  | .exFatRegionsOverlap => "exFAT FAT region overlaps boot region or heap"
  | .exFatFatTooSmall => "exFAT FAT too small for cluster count"
  | .exFatDoesNotFit => "exFAT volume does not fit on the device"
  | .exFatFieldsExceeded => "exFAT layout exceeds field limits"
  | .stated text => text

/-- Why a format does not happen or does not finish. -/
inductive FormatError where
  | invalidArgument (objection : Objection)
  | openFailed (path : String) (cause : IoError)
  | deviceTooSmall (sectors least : Nat)
  | infeasible (reason : Infeasibility)
  | eraseFailed (cause : IoError)
  | partitionTableFailed (cause : IoError)
  | filesystemFailed (cause : IoError)
  | closeFailed (cause : IoError)
  deriving Repr, DecidableEq

namespace FormatError

/-- The error in words. -/
def message : FormatError → String
  | .invalidArgument objection => "Invalid argument: " ++ objection.message
  | .openFailed path cause => "Failed to open device " ++ path ++ ": " ++ cause.message
  | .deviceTooSmall sectors least =>
    s!"Device too small: {sectors} sectors (minimum {least})"
  | .infeasible reason => "Format parameters infeasible: " ++ reason.message
  | .eraseFailed cause => "Failed to erase device: " ++ cause.message
  | .partitionTableFailed cause => "Failed to write partition table: " ++ cause.message
  | .filesystemFailed cause => "Failed to write filesystem: " ++ cause.message
  | .closeFailed cause => "Failed to close device: " ++ cause.message

/-- The device or file error behind it, if there is one. -/
def source : FormatError → Option IoError
  | .openFailed _ cause => some cause
  | .eraseFailed cause => some cause
  | .partitionTableFailed cause => some cause
  | .filesystemFailed cause => some cause
  | .closeFailed cause => some cause
  | _ => none

/-- The exit status a program ends with. -/
def exitStatus : FormatError → Nat
  | .invalidArgument _ => 1
  | .openFailed _ _ => 2
  | .deviceTooSmall _ _ => 3
  | .eraseFailed _ => 4
  | .infeasible _ => 5
  | .partitionTableFailed _ => 6
  | .filesystemFailed _ => 7
  | .closeFailed _ => 8

end FormatError

/-- What is worth saying about a format that goes on. -/
inductive Warning where
  | largeSectors (sectorBytes clusterKibibytes : Nat)
  | clustersLimited
  | alignmentReduced (sectors : Nat)
  | lowercaseLabel (text : String)
  | notErased (cause : IoError)
  deriving Repr, DecidableEq

/-- The warning in words. -/
def Warning.message : Warning → String
  | .largeSectors sectorBytes clusterKibibytes =>
    s!"Using {sectorBytes} byte logical sectors to keep {clusterKibibytes} KiB clusters. " ++
      "Some drivers do not support this."
  | .clustersLimited =>
    "FAT32 doesn't support more than 64 KiB per cluster. " ++
      "Using 64 KiB which might lower performance and lifetime."
  | .alignmentReduced sectors =>
    s!"Reserved area does not fit the FAT32 boot sector, aligning to {sectors} sectors instead."
  | .lowercaseLabel text =>
    "Volume label " ++ Text.quotedText text ++
      " contains lowercase characters. Some systems may not show it correctly."
  | .notErased cause => "Device can't be erased (" ++ cause.message ++ "). Ignoring."

end CardFormat
