/-!
What the program says about itself.
-/

namespace DeviceBrowser.Program

def version : String := "0.1.0"

def helpLines : List String :=
  [ "adb-shellfs " ++ version,
    "Browse an Android device's filesystem over a persistent adb shell",
    "",
    "USAGE:",
    "    adb-shellfs [OPTIONS] [PATH]",
    "",
    "ARGS:",
    "    [PATH]                  Remote directory to list [default: shell start directory]",
    "",
    "OPTIONS:",
    "    -s, --serial <SERIAL>   Device serial (see `adb devices`)",
    "    -a, --adb <PATH>        Path to the adb executable",
    "    -c, --config <FILE>     Path to configuration file (JSON)",
    "    -t, --timeout <SECS>    Per-command timeout in seconds [default: 30]",
    "    -l, --log-level <LVL>   Log level (error, warn, info, debug, trace)",
    "    -d, --devices           List attached devices and exit",
    "        --json              Print JSON instead of a table",
    "    -h, --help              Print help",
    "    -V, --version           Print version",
    "",
    "ENVIRONMENT VARIABLES:",
    "    ADB_SHELLFS_ADB_PATH    adb executable (overrides config)",
    "    ADB_SHELLFS_SERIAL      Device serial (overrides config)",
    "    ANDROID_SERIAL          Device serial, when ADB_SHELLFS_SERIAL is unset",
    "    ADB_SHELLFS_TIMEOUT     Per-command timeout in seconds (overrides config)",
    "    ADB_SHELLFS_LOG_LEVEL   Log level (overrides config)",
    "    RUST_LOG                Alternative log level setting",
    "",
    "EXAMPLES:",
    "    # List the start directory of the only attached device",
    "    adb-shellfs",
    "",
    "    # List a directory on a specific device",
    "    adb-shellfs -s emulator-5554 /sdcard/DCIM",
    "",
    "    # Machine-readable output",
    "    adb-shellfs --json /sdcard",
    "",
    "    # Show attached devices",
    "    adb-shellfs --devices",
    "" ]

def help : String :=
  String.join (helpLines.map (· ++ "\n"))

def versionLine : String :=
  "adb-shellfs " ++ version ++ "\n"

end DeviceBrowser.Program
