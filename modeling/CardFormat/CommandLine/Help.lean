/-
This file holds what the program says about itself: its version and its help.
-/

namespace CardFormat.CommandLine

/-- The name of the program and its version. -/
def versionText : String := "sdfmt 0.1.0"

/-- The lines of the help. -/
def helpLines : List String :=
  ["Format SD cards the way the SD Association recommends",
    "",
    "Usage: sdfmt [OPTIONS] <DEVICE>",
    "",
    "Arguments:",
    "  <DEVICE>  Card reader device or image file",
    "",
    "Options:",
    "  -c, --capacity <SECTORS>  Capacity override in 512-byte sectors",
    "  -e, --erase <MODE>        Discard the whole card before formatting " ++
      "[possible values: trim, secure]",
    "  -f, --force-fat32         Use FAT32 instead of exFAT on cards above 32 GiB",
    "  -b, --big-clusters        Allow logical sectors above 512 bytes for very large " ++
      "FAT32 clusters",
    "  -l, --label <LABEL>       Volume label",
    "  -n, --dry-run             Print the layout without touching the device",
    "      --json                Print the report as JSON",
    "  -v, --verbose...          More output (-v for info, -vv for debug)",
    "  -h, --help                Print help",
    "  -V, --version             Print version"]

/-- The help. -/
def helpText : String := String.intercalate "\n" helpLines

end CardFormat.CommandLine
