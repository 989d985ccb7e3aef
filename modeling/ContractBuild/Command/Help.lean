/-!
# Help

What the program and its commands tell about themselves. The text of the program fills lines of 80
columns and has a frame around each table; the texts of the commands are wrapped at 78 columns.
-/

namespace ContractBuild.Command.Help

/-- The help of the program. -/
def program : List String := [
  "                                                                                ",
  " Usage: nccs [OPTIONS] COMMAND [ARGS]...                                        ",
  "                                                                                ",
  " nccs - Smart contract compiler front end.                                      ",
  " Compile contract sources or projects into .nef and manifest artifacts.         ",
  "                                                                                ",
  " Getting Started:                                                               ",
  "                                                                                ",
  "  • nccs compile - Compile the project or sources in the current directory      ",
  "  • nccs compile Token.cs -o build/ - Compile explicit files                    ",
  "  • nccs resolve - Show what compile would build                                ",
  "                                                                                ",
  " The compilation engine is selected with --engine or NCCS_ENGINE.               ",
  "                                                                                ",
  "╭─ Options ────────────────────────────────────────────────────────────────────╮",
  "│ --version                                    Show the version and exit.      │",
  "│ --no-color                                   Disable colored output.         │",
  "│ --log-level  [debug|info|warning|error|crit  Log level for diagnostics       │",
  "│              ical]                           logging [default:               │",
  "│                                              NCCS_LOG_LEVEL or WARNING]      │",
  "│ --help                                       Show this message and exit.     │",
  "╰──────────────────────────────────────────────────────────────────────────────╯",
  "╭─ Commands ───────────────────────────────────────────────────────────────────╮",
  "│ compile  Compile contract sources into .nef and manifest artifacts.          │",
  "│ resolve  Resolve PATHS to a compilation mode without compiling.              │",
  "╰──────────────────────────────────────────────────────────────────────────────╯"]

/-- The help of the compile command. -/
def compile : List String := [
  "Usage: nccs compile [OPTIONS] [PATHS]...",
  "",
  "  Compile contract sources into .nef and manifest artifacts.",
  "",
  "  PATHS may be one directory, one .csproj file, or any number of .cs files.",
  "  With no PATHS the current directory is used: a .csproj there wins, otherwise",
  "  every .cs file below it (outside obj/) is compiled.",
  "",
  "  Exit codes: 0 success, 1 failure, 2 no source files found.",
  "",
  "  Examples:",
  "",
  "      nccs compile",
  "",
  "      nccs compile Token.cs Storage.cs -o build/",
  "",
  "      nccs compile src/Token.csproj --debug --assembly",
  "",
  "Options:",
  "  -o, --output DIRECTORY          Output directory [default: <source",
  "                                  folder>/bin/sc]",
  "  --contract-name TEXT            Contract name used for the artifact files",
  "  -d, --debug                     Emit debug information (.nefdbgnfo)",
  "  --assembly                      Emit the assembly listing (.asm)",
  "  --no-optimize                   Disable optimization",
  "  --no-inline                     Disable inlining",
  "  --address-version INTEGER RANGE",
  "                                  Network address version [default:",
  "                                  NCCS_ADDRESS_VERSION or 53]  [0<=x<=255]",
  "  --engine TEXT                   Compilation engine as",
  "                                  package.module:attribute [default:",
  "                                  NCCS_ENGINE]",
  "  --help                          Show this message and exit."]

/-- The help of the resolve command. -/
def resolve : List String := [
  "Usage: nccs resolve [OPTIONS] [PATHS]...",
  "",
  "  Resolve PATHS to a compilation mode without compiling.",
  "",
  "  Uses the same rules as `nccs compile` and exits with the same codes for",
  "  invalid input (1) or an empty directory (2).",
  "",
  "  Examples:",
  "",
  "      nccs resolve",
  "",
  "      nccs resolve src/",
  "",
  "Options:",
  "  --help  Show this message and exit."]

end ContractBuild.Command.Help
