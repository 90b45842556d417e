import CommitLanes.Text

/-! The help texts of the command line. -/

set_option autoImplicit false

namespace CommitLanes.Command

inductive Topic where
  | program
  | layout
  | refs
  | help
  deriving DecidableEq, Repr

namespace Topic

def ofWord? (word : Text) : Option Topic :=
  if word = "layout".toList then some layout
  else if word = "refs".toList then some refs
  else if word = "help".toList then some help
  else none

def lines : Topic → List String
  | program => [
      "Streaming lane layout for commit histories",
      "",
      "Usage: revgraph [OPTIONS] <COMMAND>",
      "",
      "Commands:",
      "  layout  Lay out the commit graph and print one line per commit",
      "  refs    List the refs attached to commits",
      "  help    Print this message or the help of the given subcommand(s)",
      "",
      "Options:",
      "  -v, --verbose  Log debug output to stderr",
      "  -h, --help     Print help"]
  | layout => [
      "Lay out the commit graph and print one line per commit",
      "",
      "Usage: revgraph layout [OPTIONS] [PATH]",
      "",
      "Arguments:",
      "  [PATH]  Path to the repository [default: .]",
      "",
      "Options:",
      "      --input <INPUT>    Read NUL-separated records from a file instead (`-` for stdin)",
      "  -v, --verbose          Log debug output to stderr",
      "  -n, --limit <LIMIT>    Stop after this many commits",
      "      --author <AUTHOR>  Only show commits whose author name or email contains this",
      "      --grep <GREP>      Only show commits whose message contains this",
      "      --config <CONFIG>  TOML configuration file",
      "      --ascii            Draw lanes with ASCII characters",
      "      --width <WIDTH>    Line width (defaults to $COLUMNS, then 120)",
      "  -h, --help             Print help"]
  | refs => [
      "List the refs attached to commits",
      "",
      "Usage: revgraph refs [OPTIONS] [PATH]",
      "",
      "Arguments:",
      "  [PATH]  Path to the repository [default: .]",
      "",
      "Options:",
      "  -v, --verbose  Log debug output to stderr",
      "  -h, --help     Print help"]
  | help => [
      "Print this message or the help of the given subcommand(s)",
      "",
      "Usage: revgraph help [COMMAND]...",
      "",
      "Arguments:",
      "  [COMMAND]...  Print help for the subcommand(s)"]

def text (topic : Topic) : Text :=
  topic.lines.flatMap fun line => line.toList ++ ['\n']

end Topic

end CommitLanes.Command
