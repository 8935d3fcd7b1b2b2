import PictureTransfer.Command.Arguments

/-!
# Help texts

What is printed for those who ask how the command line is used: a sentence, the
form of the command line, and a list of what can stand in it.  The second
column of a list starts behind the longest entry of the first.
-/

namespace PictureTransfer

namespace Usage

/-- A text with blanks behind it up to a width. -/
def padRight (width : Nat) (text : String) : String :=
  text ++ String.ofList (List.replicate (width - text.length) ' ')

/-- A text with blanks in front of it up to a width. -/
def padLeft (width : Nat) (text : String) : String :=
  String.ofList (List.replicate (width - text.length) ' ') ++ text

/-- The lines of a list under its title, a line for each entry. -/
def listing (title : String) (entries : List (String × String)) : List String :=
  let width := (entries.map fun (entry, _) => entry.length).foldl max 0
  "" :: (title ++ ":") ::
    entries.map fun (entry, about) => "  " ++ padRight width entry ++ "  " ++ about

/-- What a command does. -/
def about : CommandName → String
  | .info => "Show device info"
  | .storages => "List storages"
  | .objects => "List objects"
  | .get => "Download an object"
  | .capture => "Trigger a capture and wait for it to complete"
  | .listen => "Log events for a while"
  | .probe => "Send a keep-alive probe"
  | .help => "Print this message or the help of the given subcommand(s)"

/-- The form of a command line with a command. -/
def form : CommandName → String
  | .info => "ptpip info"
  | .storages => "ptpip storages"
  | .objects => "ptpip objects [OPTIONS]"
  | .get => "ptpip get [OPTIONS] --output <OUTPUT> <HANDLE>"
  | .capture => "ptpip capture [OPTIONS]"
  | .listen => "ptpip listen [OPTIONS]"
  | .probe => "ptpip probe"
  | .help => "ptpip help [COMMAND]..."

/-- The words of a command. -/
def words : CommandName → List (String × String)
  | .get => [("<HANDLE>", "Object handle")]
  | .help => [("[COMMAND]...", "Print help for the subcommand(s)")]
  | _ => []

/-- The entry of the option that asks for help. -/
def helpEntry : String × String := ("-h, --help", "Print help")

/-- The options of a command. -/
def options : CommandName → List (String × String)
  | .info | .storages | .probe => [helpEntry]
  | .objects =>
      [("    --storage <STORAGE>",
          "Storage ID (default: all storages) [default: 0xFFFFFFFF]"), helpEntry]
  | .get =>
      [("-o, --output <OUTPUT>", "Output file"),
        ("    --thumb", "Fetch the thumbnail instead of the object"), helpEntry]
  | .capture =>
      [("    --storage <STORAGE>", "Storage ID (0: responder chooses) [default: 0]"),
        ("    --wait <WAIT>", "Seconds to wait for CaptureComplete [default: 10]"), helpEntry]
  | .listen => [("    --seconds <SECONDS>", "[default: 30]"), helpEntry]
  | .help => []

/-- The options that all commands share. -/
def sharedOptions : List (String × String) :=
  [("-c, --config <CONFIG>", "Path to a TOML session config"),
    ("    --host <HOST>", "Responder host (overrides config)"),
    ("    --port <PORT>", "Responder port (overrides config)"),
    ("    --guid <GUID>", "Initiator GUID, 32 hex digits (overrides config)"),
    ("    --name <NAME>", "Initiator name (overrides config)"),
    ("    --session-id <SESSION_ID>",
      "PTP session ID used by commands that need an open session [default: 1]"),
    ("-v, --verbose", "Enable verbose logging"), helpEntry,
    ("-V, --version", "Print version")]

/-- A list under its title, if there is anything in it. -/
def listingIfAny (title : String) (entries : List (String × String)) : List String :=
  if entries.isEmpty then [] else listing title entries

/-- The lines of a help text. -/
def lines : Option CommandName → List String
  | none =>
      ["PTP/IP Camera Control Tool", "", "Usage: ptpip [OPTIONS] <COMMAND>"] ++
        listing "Commands" (CommandName.all.map fun name => (name.text, about name)) ++
        listing "Options" sharedOptions
  | some name =>
      [about name, "", "Usage: " ++ form name] ++ listingIfAny "Arguments" (words name) ++
        listingIfAny "Options" (options name)

/-- What is printed for a question about the version. -/
def versionLine : String := "ptpip-cli 0.1.0"

end Usage

end PictureTransfer
