/-! # Help
-/

namespace TypedModules.CommandLine

def helpLines : List String :=
  ["usage: cds-typer-emit [-h] [-o OUTPUT_DIR] [-l LIBRARIES [LIBRARIES ...]]",
    "                      [-e EXCLUDES [EXCLUDES ...]] [--no-base-definitions]",
    "                      [-r]",
    "",
    "Write base definitions and predefined type libraries.",
    "",
    "options:",
    "  -h, --help            show this help message and exit",
    "  -o OUTPUT_DIR, --output-dir OUTPUT_DIR",
    "                        directory to write all generated modules to.",
    "  -l LIBRARIES [LIBRARIES ...], --libraries LIBRARIES [LIBRARIES ...]",
    "                        paths, directories or glob expressions that match",
    "                        predefined library files (e.g. cap.hana.ts).",
    "  -e EXCLUDES [EXCLUDES ...], --excludes EXCLUDES [EXCLUDES ...]",
    "                        path or glob expressions to exclude from library",
    "                        matches.",
    "  --no-base-definitions",
    "                        skip writing the base definitions module.",
    "  -r, --recursive       recursively search for *.ts library files with a given",
    "                        glob expression or directory."]

def helpText : String :=
  "\n".intercalate helpLines ++ "\n"

end TypedModules.CommandLine
