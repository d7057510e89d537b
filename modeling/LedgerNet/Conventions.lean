import LedgerNet.Duration

/-!
# Conventions of the network

Fixed names and numbers that nodes, containers and staking runs agree on.
-/

namespace LedgerNet.Conventions

/-- The port on which every node answers requests. -/
def httpPort : Nat := 9650

/-- The port on which nodes talk to one another. -/
def stakingPort : Nat := 9651

/-- How long the answer to a request is waited for. -/
def requestTimeout : Duration := Duration.ofSeconds 10

/-- The name of the local network, as nodes are told it. -/
def networkName : String := "local"

/-- The image that nodes run when nobody picks one. -/
def nodeImage : String := "avaplatform/avalanchego:dev"

/-- The log level of a node when nobody picks one. -/
def logLevel : String := "debug"

/-- How often a node tries to bootstrap before it gives up. -/
def bootstrapAttempts : UInt32 := 10

/-- How many nodes a query of the consensus asks. -/
def sampleSize : UInt32 := 1

/-- How many of the asked nodes have to agree. -/
def quorumSize : UInt32 := 1

/-- The sample and the quorum of the network with five stakers. -/
def presetSnowSize : UInt32 := 3

/-- The password of the users that are named after their node. -/
def userPassword : String := "MyNameIs!Jeff"

/-- Where a node finds its files. -/
def volumeMountpoint : String := "/test-volume"

/-- The program of a node. -/
def nodeBinary : String := "/avalanchego/build/avalanchego"

/-- The file with the certificate of a pinned node. -/
def certFile : String := "staking-tls-cert"

/-- The file with the key of a pinned node. -/
def keyFile : String := "staking-tls-key"

/-- The file with the configuration of the contract lane. -/
def contractConfigFile : String := "c-chain-config"

/-- What that file says, for every node. -/
def contractConfig : String :=
  "\x7b\"coreth-config\":\x7b\"snowman-api-enabled\": false,\"coreth-admin-api-enabled\": false,"
    ++ "\"net-api-enabled\": true,\"rpc-gas-cap\": 2500000000,\"rpc-tx-fee-cap\": 100,"
    ++ "\"eth-api-enabled\": true,\"personal-api-enabled\": true,\"tx-pool-api-enabled\": true,"
    ++ "\"debug-api-enabled\": false,\"web3-api-enabled\": true,\"local-txs-enabled\": true\x7d\x7d"

end LedgerNet.Conventions

namespace LedgerNet.Units

/-! ## Denominations of the native asset

Every amount counts the smallest of them. -/

def nano : UInt64 := 1
def micro : UInt64 := 1000
def milli : UInt64 := 1000000
/-- The unit that people speak of. -/
def one : UInt64 := 1000000000
def kilo : UInt64 := 1000000000000
def mega : UInt64 := 1000000000000000

/-- The fee of a transaction on the local network. -/
def fee : UInt64 := one

end LedgerNet.Units
