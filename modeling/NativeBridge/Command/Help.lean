import NativeBridge.Command.Request

/-!
# Help texts

What the program says about itself and its subcommands.
-/

namespace NativeBridge.Command

def programLines : List String :=
  ["Binding generator for interpreter-to-native trampolines",
    "",
    "Usage: stackbind [OPTIONS] <COMMAND>",
    "",
    "Commands:",
    "  generate  Generate Rust binding modules and the aggregate initializer",
    "  inspect   Show identifiers, signatures and skip reasons without writing files",
    "  help      Print this message or the help of the given subcommand(s)",
    "",
    "Options:",
    "  -v, --verbose...  Raise log verbosity (-v info, -vv debug, -vvv trace)",
    "  -h, --help        Print help",
    "  -V, --version     Print version"]

def generateLines : List String :=
  ["Generate Rust binding modules and the aggregate initializer",
    "",
    "Usage: stackbind generate [OPTIONS] --catalogue <CATALOGUE> --out <OUT>",
    "",
    "Options:",
    "  -c, --catalogue <CATALOGUE>          Catalogue JSON file",
    "  -v, --verbose...                     Raise log verbosity (-v info, -vv debug, -vvv trace)",
    "  -o, --out <OUT>                      Output directory",
    "      --config <CONFIG>                Options file (stackbind.toml)",
    "      --suffix <SUFFIX>                Binding identifier suffix (overrides the options file)",
    "      --runtime-crate <RUNTIME_CRATE>  Runtime crate path used by emitted code (overrides the options file)",
    "  -h, --help                           Print help"]

def inspectLines : List String :=
  ["Show identifiers, signatures and skip reasons without writing files",
    "",
    "Usage: stackbind inspect [OPTIONS] --catalogue <CATALOGUE>",
    "",
    "Options:",
    "  -c, --catalogue <CATALOGUE>  Catalogue JSON file",
    "  -v, --verbose...             Raise log verbosity (-v info, -vv debug, -vvv trace)",
    "      --config <CONFIG>        Options file (stackbind.toml)",
    "  -h, --help                   Print help"]

def helpLines : List String :=
  ["Print this message or the help of the given subcommand(s)",
    "",
    "Usage: stackbind help [COMMAND]...",
    "",
    "Arguments:",
    "  [COMMAND]...  Print help for the subcommand(s)"]

def HelpTopic.text (topic : HelpTopic) : String :=
  let lines := match topic with
    | .program => programLines
    | .subcommand .generate => generateLines
    | .subcommand .inspect => inspectLines
    | .help => helpLines
  String.join (lines.map (· ++ "\n"))

end NativeBridge.Command
