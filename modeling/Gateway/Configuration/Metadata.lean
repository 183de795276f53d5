import Gateway.Configuration.Cluster
import Gateway.Decimal.Reading
import Gateway.Event

namespace Gateway

/-! Typed values among the free-form metadata of a cluster. A value that cannot
be read counts as absent, and the operator is told. -/

namespace Metadata

def read32? (text : String) : Option Nat :=
  Decimal.naturalBelow? 0x100000000 text

def read64? (text : String) : Option Nat :=
  Decimal.naturalBelow? 0x10000000000000000 text

def readBits? (text : String) : Option UInt64 :=
  Decimal.bits? text

end Metadata

namespace ClusterConfig

def metadataValue {α : Type} (config : ClusterConfig) (key : String)
    (read : String → Option α) (default : α) : Effect α :=
  match config.metadata.get? key with
  | none => pure default
  | some text =>
      match read text with
      | some value => pure value
      | none => do
          Effect.tellOf config.id (.invalidMetadata key text)
          pure default

end ClusterConfig

end Gateway
