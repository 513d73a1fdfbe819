import ComputeDirectory.Schema.Reader

/-!
# Settings

The settings of a deployment, read from environment variables. Names count in any case, unknown
variables are ignored, and every setting but the key of the server has a default. The hosted table
service is used when both its address and its key are given and not empty.
-/

namespace ComputeDirectory

/-- The settings of a deployment. -/
structure Settings where
  /-- The key that challenges are bound to. -/
  serverKey : Text
  /-- The address of the hosted table service. -/
  tableUrl : Option Text
  /-- The access key of the hosted table service. -/
  tableKey : Option Text
  host : Text
  port : Int
  debug : Bool
  /-- The lifetime of a challenge in seconds. -/
  challengeLifetime : Int
  /-- Seconds between two maintenance passes. -/
  sweepInterval : Int
  /-- Challenges between two sweeps of the issuer and the session. -/
  sweepEvery : Int
  /-- Seconds past its expiry that a claimed challenge is remembered. -/
  consumedRetention : Int
  /-- Seconds after which a silent provider is taken offline. -/
  heartbeatTimeout : Int
  defaultReputation : Binary64
  /-- How many providers a discovery gives when it names no limit. -/
  discoveryLimit : Int
  maintenanceEnabled : Bool
  deriving DecidableEq, Repr

namespace Settings

/-- Environment variables. -/
abbrev Environment := List (String × String)

/-- Address and key of the hosted table service, when both are given and not empty. -/
def tableService? (s : Settings) : Option (Text × Text) :=
  match s.tableUrl, s.tableKey with
  | some url, some key => if url.isEmpty || key.isEmpty then none else some (url, key)
  | _, _ => none

/-- Whether the hosted table service is used. -/
def usesTable (s : Settings) : Bool := s.tableService?.isSome

open Schema

/-- A character of a name in lower case. Besides the capitals of ASCII only the Kelvin sign has a
small letter of ASCII, and the names of the settings are all ASCII. -/
def lowered (c : Char) : Char := if c = Char.ofNat 0x212a then 'k' else c.toLower

/-- The variables as members named in lower case; of two spellings of a name the later one counts.
-/
def members (env : Environment) : List (Text × Json) :=
  env.foldl (fun found v => Json.setMember (.ofChars (v.1.toList.map lowered)) (.str v.2) found) []

/-- Reads the settings. -/
def read (env : Environment) : Checked Settings :=
  let m := members env
  Settings.mk <$> MemberReader.required "server_public_key" .text m
    <*> MemberReader.optional "supabase_url" .text m
    <*> MemberReader.optional "supabase_key" .text m
    <*> MemberReader.defaulted "host" "0.0.0.0" .text m
    <*> MemberReader.defaulted "port" 8000 .integer m
    <*> MemberReader.defaulted "debug" false .flag m
    <*> MemberReader.defaulted "challenge_ttl_seconds" 300 .integer m
    <*> MemberReader.defaulted "challenge_sweep_interval" 60 .integer m
    <*> MemberReader.defaulted "challenge_sweep_every" 256 .integer m
    <*> MemberReader.defaulted "challenge_consumed_retention" 3600 .integer m
    <*> MemberReader.defaulted "provider_heartbeat_timeout" 120 .integer m
    <*> MemberReader.defaulted "default_provider_reputation" (.ofNat 50) .number m
    <*> MemberReader.defaulted "discovery_default_limit" 10 .integer m
    <*> MemberReader.defaulted "maintenance_enabled" false .flag m

/-- Writes the settings, and whether the hosted table service is used. -/
def toJson (s : Settings) : Json :=
  .obj [("server_public_key", .str s.serverKey), ("supabase_url", .ofText? s.tableUrl),
    ("supabase_key", .ofText? s.tableKey), ("host", .str s.host), ("port", .int s.port),
    ("debug", .bool s.debug), ("challenge_ttl_seconds", .int s.challengeLifetime),
    ("challenge_sweep_interval", .int s.sweepInterval),
    ("challenge_sweep_every", .int s.sweepEvery),
    ("challenge_consumed_retention", .int s.consumedRetention),
    ("provider_heartbeat_timeout", .int s.heartbeatTimeout),
    ("default_provider_reputation", .float s.defaultReputation),
    ("discovery_default_limit", .int s.discoveryLimit),
    ("maintenance_enabled", .bool s.maintenanceEnabled), ("use_supabase", .bool s.usesTable)]

end Settings

end ComputeDirectory
