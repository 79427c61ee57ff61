import GatewayAgent.Config.Load

/-!
# Help

What the program prints about itself. Each part of the command line has a page of its own; the page
of `serve` also has a long form.
-/

namespace GatewayAgent.Program

/-- The file with the configuration, if no other is named. -/
def standardConfig : String := "/etc/warden/config.yaml"

/-- The variable that names the file with the configuration. -/
def configVariable : String := "WARDEN_CONFIG"

/-- What help is about. -/
inductive HelpTopic where
  | program
  | serve
  | gencert
  deriving DecidableEq, Repr

/-- What stands behind the explanation of the option for the configuration. -/
def configNotes (env : Environment) : List String :=
  ["[env: " ++ configVariable ++ "=" ++ (env configVariable).getD "" ++ "]",
    "[default: " ++ standardConfig ++ "]"]

/-- The line of the option for the configuration, with a gap that lines it up with others. -/
def configLine (env : Environment) (gap : String) : String :=
  "  -c, --config <CONFIG>" ++ gap ++ "  " ++
    " ".intercalate ("Path to the YAML configuration file" :: configNotes env)

/-- The page about the whole program. -/
def programHelp (env : Environment) : List String :=
  ["Control-plane agent for a VPN gateway: mTLS gRPC API, certificate bootstrap, and live " ++
      "session tracking",
    "",
    "Usage: warden [OPTIONS] [COMMAND]",
    "",
    "Commands:",
    "  serve    Run the agent (default mode)",
    "  gencert  Generate a bootstrap CA and agent certificate",
    "  help     Print this message or the help of the given subcommand(s)",
    "",
    "Options:",
    configLine env "",
    "  -h, --help             Print help",
    "  -V, --version          Print version"]

/-- The page about `serve`. -/
def serveHelp (env : Environment) : List String :=
  ["Run the agent (default mode)",
    "",
    "Usage: warden serve [OPTIONS]",
    "",
    "Options:",
    configLine env "",
    "  -h, --help             Print help (see more with '--help')"]

/-- The long page about `serve`. -/
def serveLongHelp (env : Environment) : List String :=
  ["Run the agent (default mode)",
    "",
    "Loads the configuration, generates TLS material when it is missing and auto-generation is " ++
      "on, and serves the gRPC API until SIGINT or SIGTERM.",
    "",
    "Usage: warden serve [OPTIONS]",
    "",
    "Options:",
    "  -c, --config <CONFIG>",
    "          Path to the YAML configuration file",
    "          "] ++ (configNotes env).map ("          " ++ ·) ++
  ["",
    "  -h, --help",
    "          Print help (see a summary with '-h')"]

/-- The page about `gencert`. -/
def gencertHelp (env : Environment) : List String :=
  ["Generate a bootstrap CA and agent certificate",
    "",
    "Usage: warden gencert [OPTIONS] --output-dir <OUTPUT_DIR> --hostname <HOSTNAME>",
    "",
    "Options:",
    configLine env "        ",
    "  -o, --output-dir <OUTPUT_DIR>  Directory for ca.crt, agent.crt and agent.key",
    "      --hostname <HOSTNAME>      Host name for the certificate subjects and SAN",
    "  -h, --help                     Print help"]

/-- The page about a topic. -/
def HelpTopic.page (env : Environment) (long : Bool) : HelpTopic → List String
  | program => programHelp env
  | serve => if long then serveLongHelp env else serveHelp env
  | gencert => gencertHelp env

end GatewayAgent.Program
