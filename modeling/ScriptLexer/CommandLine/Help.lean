/-!
# Help

What the program says about itself: its version, and its arguments and options in a short and
in a full form.
-/

namespace ScriptLexer.CommandLine.Help

/-- The name and version of the program. -/
def version : String :=
  "rblex 0.1.0\n"

/-- Lines of text, each ended by a line feed. -/
def lines (texts : List String) : String :=
  String.join (texts.map (· ++ "\n"))

/-- What the program does and how it is called. -/
def opening : List String :=
  ["Tokenize a script file and write one \x7blexeme, kind, line\x7d per line",
    "",
    "Usage: rblex [OPTIONS] [INPUT]",
    ""]

/-- The short form, with one line for each option. -/
def short : String :=
  lines (opening ++
    ["Arguments:",
      "  [INPUT]  Source file to tokenize [default: input.txt]",
      "",
      "Options:",
      "  -o, --output <OUTPUT>      Where to write the tokens (`-` for stdout) " ++
        "[default: output.txt]",
      "      --log-level <LEVEL>    Log level when RUST_LOG is not set: error, warn, info, " ++
        "debug, trace [default: warn]",
      "      --log-format <FORMAT>  Log output format [default: compact] " ++
        "[possible values: pretty, compact, json]",
      "      --summary              Print token and error counts to stderr",
      "      --strict               Exit with status 1 when the input contains malformed lexemes",
      "  -h, --help                 Print help (see more with '--help')",
      "  -V, --version              Print version"])

/-- The empty line inside the description of an argument, which keeps its indentation. -/
def indentedGap : String :=
  "          "

/-- The full form, with a paragraph for each option. -/
def full : String :=
  lines (opening ++
    ["Arguments:",
      "  [INPUT]",
      "          Source file to tokenize",
      indentedGap,
      "          [default: input.txt]",
      "",
      "Options:",
      "  -o, --output <OUTPUT>",
      "          Where to write the tokens (`-` for stdout)",
      indentedGap,
      "          [default: output.txt]",
      "",
      "      --log-level <LEVEL>",
      "          Log level when RUST_LOG is not set: error, warn, info, debug, trace",
      indentedGap,
      "          [default: warn]",
      "",
      "      --log-format <FORMAT>",
      "          Log output format",
      "",
      "          Possible values:",
      "          - pretty:  彩色多行格式（开发使用）",
      "          - compact: 紧凑格式",
      "          - json:    JSON 格式（工具集成）",
      indentedGap,
      "          [default: compact]",
      "",
      "      --summary",
      "          Print token and error counts to stderr",
      "",
      "      --strict",
      "          Exit with status 1 when the input contains malformed lexemes",
      "",
      "  -h, --help",
      "          Print help (see a summary with '-h')",
      "",
      "  -V, --version",
      "          Print version"])

end ScriptLexer.CommandLine.Help
