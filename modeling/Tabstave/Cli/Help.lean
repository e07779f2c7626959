/-!
# Help texts

What the program and each of its commands print when they are asked for help, line by line. Each
text ends with a line of eight spaces.
-/

namespace Tabstave.Cli.Help

/-- The help of the program as a whole. -/
def mainLines : List String :=
  ["usage: vextab-preview [-h] [--version] <command> ...",
    "",
    "VexTab Preview - Rewrites short-form VexTab files and maps editor cursors onto the rewritten source.",
    "",
    "options:",
    "  -h, --help  show this help message and exit",
    "  --version   show program's version number and exit",
    "",
    "commands:",
    "  <command>",
    "    preprocess",
    "              Rewrite a VexTab file into explicit VexTab",
    "    line-map  Show where each source line ends up after preprocessing",
    "    map-cursor",
    "              Translate a cursor position onto the preprocessed text",
    "",
    "Commands:",
    "  preprocess  Rewrite a VexTab file into explicit VexTab (default)",
    "  line-map    Show where each source line ends up",
    "  map-cursor  Translate a cursor position onto the rewritten text",
    "",
    "Examples:",
    "  vextab-preview preprocess song.tab",
    "  vextab-preview song.tab  # same as above",
    "  vextab-preview line-map song.tab --changed-only",
    "  vextab-preview map-cursor song.tab --line 3 --column 2",
    "",
    "For more information on a command, use: vextab-preview <command> --help"]

/-- The help of the command that expands a source. -/
def preprocessLines : List String :=
  ["usage: vextab-preview preprocess [-h] [--short-form] [-o OUTPUT_DIR]",
    "                                 [--output-filename OUTPUT_FILENAME]",
    "                                 [--config FILE] [-v] [-q]",
    "                                 source",
    "",
    "Rewrite a short-form VexTab file into the explicit VexTab grammar. Other VexTab files pass through unchanged.",
    "",
    "positional arguments:",
    "  source                Path to the VexTab source file (.vt, .vextab or .tab)",
    "",
    "options:",
    "  -h, --help            show this help message and exit",
    "  --short-form          Apply the short-form rewrite regardless of file",
    "                        extension",
    "",
    "Output Options:",
    "  -o OUTPUT_DIR, --output-dir OUTPUT_DIR",
    "                        Output directory (created if it doesn't exist,",
    "                        default: stdout)",
    "  --output-filename OUTPUT_FILENAME",
    "                        Output filename pattern. Use \x7bstem\x7d as placeholder",
    "                        (default: \x7bstem\x7d.vt)",
    "",
    "Configuration:",
    "  --config FILE         Path to YAML configuration file",
    "",
    "Logging:",
    "  -v, --verbose         Enable verbose output (debug level logging)",
    "  -q, --quiet           Suppress all output except errors",
    "",
    "Examples:",
    "  vextab-preview preprocess song.tab",
    "  vextab-preview preprocess song.tab -o ./build",
    "  vextab-preview preprocess riff.txt --short-form"]

/-- The help of the command that reports where lines go. -/
def lineMapLines : List String :=
  ["usage: vextab-preview line-map [-h] [--short-form] [-o OUTPUT_DIR]",
    "                               [--output-filename OUTPUT_FILENAME]",
    "                               [--config FILE] [-v] [-q] [--changed-only]",
    "                               source",
    "",
    "Emit a JSON report mapping every source line to its line and column offset in the rewritten text.",
    "",
    "positional arguments:",
    "  source                Path to the VexTab source file (.vt, .vextab or .tab)",
    "",
    "options:",
    "  -h, --help            show this help message and exit",
    "  --short-form          Apply the short-form rewrite regardless of file",
    "                        extension",
    "  --changed-only        Only list lines whose position changed",
    "",
    "Output Options:",
    "  -o OUTPUT_DIR, --output-dir OUTPUT_DIR",
    "                        Output directory (created if it doesn't exist,",
    "                        default: stdout)",
    "  --output-filename OUTPUT_FILENAME",
    "                        Output filename pattern. Use \x7bstem\x7d as placeholder",
    "                        (default: \x7bstem\x7d-line-map.json)",
    "",
    "Configuration:",
    "  --config FILE         Path to YAML configuration file",
    "",
    "Logging:",
    "  -v, --verbose         Enable verbose output (debug level logging)",
    "  -q, --quiet           Suppress all output except errors",
    "",
    "Examples:",
    "  vextab-preview line-map song.tab",
    "  vextab-preview line-map song.tab --changed-only",
    "  vextab-preview line-map song.tab -o ./build"]

/-- The help of the command that carries a cursor over. -/
def mapCursorLines : List String :=
  ["usage: vextab-preview map-cursor [-h] [--short-form] [--config FILE] [-v] [-q]",
    "                                 --line LINE --column COLUMN",
    "                                 [--editor-position]",
    "                                 source",
    "",
    "Translate a cursor in a VexTab source onto the rewritten text the renderer sees.",
    "",
    "positional arguments:",
    "  source             Path to the VexTab source file (.vt, .vextab or .tab)",
    "",
    "options:",
    "  -h, --help         show this help message and exit",
    "  --short-form       Apply the short-form rewrite regardless of file extension",
    "",
    "Configuration:",
    "  --config FILE      Path to YAML configuration file",
    "",
    "Logging:",
    "  -v, --verbose      Enable verbose output (debug level logging)",
    "  -q, --quiet        Suppress all output except errors",
    "",
    "Cursor:",
    "  --line LINE        Cursor line (1-indexed)",
    "  --column COLUMN    Cursor column (0-indexed, from the first non-whitespace",
    "                     character)",
    "  --editor-position  Interpret --line as 0-indexed and --column as a raw",
    "                     character offset",
    "",
    "Examples:",
    "  vextab-preview map-cursor song.tab --line 1 --column 0",
    "  vextab-preview map-cursor song.tab --line 0 --column 4 --editor-position"]

/-- A help text with its last line. -/
def page (lines : List String) : String :=
  String.intercalate "\n" (lines ++ ["        ", ""])

end Tabstave.Cli.Help
