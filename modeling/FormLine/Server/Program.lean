import FormLine.Program
/-!
# The command that starts the server

The command starts the server on a transport, of which there are two. Its three options take their
defaults from the settings, which are not held against the transports, so the server itself refuses a
transport that it does not know.

Correspondence (program ↔ library):
  `main`           ↔ `run`; its options ↔ `command`
  `run_mcp_server` ↔ `isTransport`, `unknownTransport` and the log of a start
The transports themselves are left out: a start is followed as far as an empty input takes it.
-/

namespace FormLine.Server

open CommandLine

/-- The transports of the server. -/
def transports : List String := ["stdio", "sse"]

/-- What is said of another transport. -/
def unknownTransport (transport : Json) : String :=
  "Unknown transport: " ++ transport.plain ++ ". Use 'stdio' or 'sse'."

/-- Whether the value names a transport. -/
def isTransport : Json → Bool
  | .str s => transports.contains s
  | _ => false

/-- The usage of the command. -/
def usage : String :=
  "usage: run_mcp_server.py [-h] [--transport \x7bstdio,sse\x7d] [--host HOST]\n" ++
  "                         [--port PORT]\n"

/-- What follows the options in the help text. -/
def epilogue : String :=
  "Examples:\n" ++
  "  # Desktop client (stdio)\n" ++
  "  python run_mcp_server.py --transport stdio\n" ++
  "\n" ++
  "  # Docker/Remote (SSE)\n" ++
  "  python run_mcp_server.py --transport sse --port 8080\n" ++
  "\n" ++
  "Environment Variables:\n" ++
  "  MCP_TRANSPORT        Transport type: stdio or sse (default: stdio)\n" ++
  "  MCP_HOST             Host for SSE transport (default: 0.0.0.0)\n" ++
  "  MCP_PORT             Port for SSE transport (default: 8080)\n" ++
  "  FIELDSPEC_LOG_LEVEL  Logging level (default: INFO)\n" ++
  "        \n"

/-- The command under the settings. -/
def command (settings : Settings) : Command where
  program := "run_mcp_server.py"
  usage := usage
  description := "fieldspec MCP Server"
  epilogue := epilogue
  operands := none
  flags := [
    Program.helpFlag,
    { names := ["--transport"], target := "transport", effect := .value .text transports
      default := settings .transport
      help := Program.withDefault "Transport type" (settings .transport) },
    { names := ["--host"], target := "host", effect := .value .text []
      default := settings .host
      help := Program.withDefault "Host for SSE transport" (settings .host) },
    { names := ["--port"], target := "port", effect := .value .integer []
      default := settings .port
      help := Program.withDefault "Port for SSE transport" (settings .port) }]

/-- The logger of the server. -/
def logger : String := "fieldspec-mcp"

/-- The lines that are logged while the server is set up. -/
def setUpLog : List LogLine :=
  let library := "mcp.server.lowlevel.server"
  [⟨.debug, library, "Initializing server 'fieldspec-mcp'"⟩,
    ⟨.debug, library, "Registering handler for ListToolsRequest"⟩,
    ⟨.debug, library, "Registering handler for CallToolRequest"⟩]

/-- What the command is started with. -/
structure Start where
  transport : Json
  host : Json
  port : Json

/-- Where the server listens. -/
def Start.address (s : Start) : String := s.host.plain ++ ":" ++ s.port.plain

/-- The lines that are logged before the transport is looked at. -/
def Start.greeting (s : Start) : List LogLine :=
  ⟨.info, logger, "Transport: " ++ s.transport.plain⟩ ::
  (if s.transport.plain = "sse" then [⟨.info, logger, "Listening on " ++ s.address⟩] else []) ++
  [⟨.debug, "asyncio", "Using selector: EpollSelector"⟩]

/-- All that is logged by a start whose input is empty. -/
def Start.log (s : Start) : List LogLine :=
  s.greeting ++
  if isTransport s.transport then
    setUpLog ++
    [⟨.info, logger,
      if s.transport.plain = "sse" then
        "Starting MCP server with SSE transport on " ++ s.address ++ "..."
      else "Starting MCP server with stdio transport..."⟩]
  else [⟨.error, logger, "Error: " ++ unknownTransport s.transport⟩]

/-- The outcome of the command on an empty input. -/
def run (settings : Settings) (arguments : List String) : Outcome Fault :=
  (command settings).run arguments .unexplained fun i =>
    match Settings.threshold (settings .logLevel) with
    | .error e => { ending := .fault (.unusable e) }
    | .ok threshold =>
      let start : Start := ⟨i.value "transport", i.value "host", i.value "port"⟩
      { stderr := writeLog threshold start.log
        ending := .exit (if isTransport start.transport then 0 else 1) }

end FormLine.Server
