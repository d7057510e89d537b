import LedgerNet.Definition.Basic
import LedgerNet.Net.Ip

/-!
# The start command of a node

A node is started with a list of arguments that says who it is and whom it
connects to. Where its configuration of the contract lane is mounted, the
file first gets the extension without which the node does not read it, and
for that the same arguments become the text of a shell script.

The two forms quote differently. Paths stand in double quotes in both, which
the shell takes away and nobody else does.
-/

namespace LedgerNet

/-- Where the files of a service are found by it: names and paths. -/
abbrev Mounts := List (String × String)

/-- The path of a mounted file. -/
def Mounts.path? (mounts : Mounts) (file : String) : Option String :=
  (mounts.find? (·.1 == file)).map (·.2)

/-- **What a start command is made of**, the address of the node itself and
its mounts apart. -/
structure Launch where
  logLevel : String
  sampleSize : UInt32
  quorumSize : UInt32
  staking : Bool
  txFee : Amount
  /-- Whether the node is pinned to an identity. -/
  pinned : Bool
  /-- The identities it bootstraps from, commas between them. -/
  bootstrapIds : String
  /-- The addresses of those nodes, in the same order. -/
  bootstrapIps : List Ip

namespace Launch

/-- **The launch of a node** in its network, given the addresses of the
nodes it depends on, in their order. -/
def ofNode (d : Definition) (node : NodeConfig) (bootstrapIps : List Ip) : Launch where
  logLevel := node.logLevel
  sampleSize := d.params.sampleSize
  quorumSize := d.params.quorumSize
  staking := node.isStaking
  txFee := d.params.txFee
  pinned := node.credentials?.isSome
  bootstrapIds := node.bootstrapIds
  bootstrapIps := bootstrapIps

/-- Addresses with the port on which nodes talk to one another, commas
between them. -/
def ipList (ips : List Ip) : String :=
  String.intercalate "," (ips.map fun ip => ip.text ++ ":" ++ toString Conventions.stakingPort)

/-- A path between double quotes. -/
def quotedPath (path : String) : String := "\"" ++ path ++ "\""

/-- The arguments that name the pair of a pinned node. Both files have to
be mounted. -/
def pairArguments (launch : Launch) (mounts : Mounts) : List String :=
  match launch.pinned, mounts.path? Conventions.certFile, mounts.path? Conventions.keyFile with
  | true, some cert, some key =>
    ["--staking-tls-cert-file=" ++ quotedPath cert, "--staking-tls-key-file=" ++ quotedPath key]
  | _, _, _ => []

/-- **The arguments of the node**, the program first. -/
def arguments (launch : Launch) (ip : Ip) (mounts : Mounts) : List String :=
  [ Conventions.nodeBinary,
    "--public-ip=" ++ ip.text,
    "--network-id=" ++ Conventions.networkName,
    "--http-port=" ++ toString Conventions.httpPort,
    "--http-host=",
    "--staking-port=" ++ toString Conventions.stakingPort,
    "--log-level=" ++ launch.logLevel,
    "--snow-sample-size=" ++ toString launch.sampleSize,
    "--snow-quorum-size=" ++ toString launch.quorumSize,
    "--staking-enabled=" ++ toString launch.staking,
    "--tx-fee=" ++ toString launch.txFee ]
  ++ launch.pairArguments mounts
  ++ [ "--bootstrap-ids=" ++ launch.bootstrapIds,
       "--bootstrap-ips=" ++ ipList launch.bootstrapIps ]

/-- The argument that names the configuration after it was renamed. -/
def configArgument (config : String) : String :=
  "--config-file=" ++ quotedPath (config ++ ".json")

/-- The script that renames the configuration and then starts the node. -/
def script (config : String) (arguments : List String) : String :=
  "mv " ++ quotedPath config ++ " " ++ quotedPath (config ++ ".json") ++ " && "
    ++ String.intercalate " " (arguments ++ [configArgument config])

/-- **The start command**: the arguments themselves, or a shell with a
script where the configuration is mounted. -/
def render (launch : Launch) (ip : Ip) (mounts : Mounts) : List String :=
  match mounts.path? Conventions.contractConfigFile with
  | some config => ["/bin/sh", "-c", script config (launch.arguments ip mounts)]
  | none => launch.arguments ip mounts

end Launch

/-- **The files of a node**, in the order of their names: the configuration
of the contract lane, and the pair of a pinned node. -/
def NodeConfig.files (node : NodeConfig) : List (String × String) :=
  (Conventions.contractConfigFile, Conventions.contractConfig) ::
    match node.credentials? with
    | some credentials =>
      [(Conventions.certFile, credentials.cert), (Conventions.keyFile, credentials.key)]
    | none => []

end LedgerNet
