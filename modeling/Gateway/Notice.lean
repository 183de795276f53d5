import Gateway.Fault.Configuration
import Gateway.Fault.Protection
import Gateway.Fault.Usage
import Gateway.Health.Axis
import Gateway.Outcome
import Gateway.Text.Folding
import Gateway.Text.Period
import Gateway.Text.Quoted

namespace Gateway

/-! What a running gateway tells its operator. Every notice has a level and a
one-line text. -/

inductive Level where
  | error
  | warn
  | info
  | debug
  | trace
  deriving Repr, DecidableEq

def Level.name : Level → String
  | .error => "ERROR"
  | .warn => "WARN"
  | .info => "INFO"
  | .debug => "DEBUG"
  | .trace => "TRACE"

/-! Which levels are shown. -/

inductive LevelFilter where
  | off
  | upTo (level : Level)
  deriving Repr, DecidableEq

namespace LevelFilter

def name : LevelFilter → String
  | .off => "OFF"
  | .upTo level => level.name

def all : List LevelFilter :=
  [.off, .upTo .error, .upTo .warn, .upTo .info, .upTo .debug, .upTo .trace]

/-- The filter of a name in any case. -/
def parse? (name : String) : Option LevelFilter :=
  all.find? (fun filter => Text.fold filter.name == Text.fold name)

def invalidMessage (name : String) : String :=
  "invalid log level: " ++ name

def rank : Level → Nat
  | .error => 1
  | .warn => 2
  | .info => 3
  | .debug => 4
  | .trace => 5

def shows (filter : LevelFilter) (level : Level) : Bool :=
  match filter with
  | .off => false
  | .upTo limit => rank level ≤ rank limit

end LevelFilter

/-! Notices that concern one cluster. -/

inductive ClusterNotice where
  | destinationsChanged (added updated removed : List String)
  | invalidMetadata (key value : String)
  | noHealthyDestinations (count : Nat)
  | probeFailed (destination : String) (outcome : ProbeOutcome)
  | activeHealthChanged (destination : String) (previous next : ActiveHealth)
  | probingUnavailable
  | probingStarted
  | probingCrashed
  | probingStopped
  | excluded (destination : String) (period : Nat)
  | reactivationUnavailable (destination : String)
  | reactivated (destination : String) (period : Nat)
  | recovered (destination : String)
  | keyNotRecovered (keyName : String) (fault : ProtectionFault)
  | keyNotProtected (destination : String) (fault : ProtectionFault)
  | affinityWithoutDestinations
  | affinityDestinationMissing (key : String)
  | redistributing (status : AffinityStatus)
  | picked (destination : String)
  | nothingAvailable
  | timedOut (destination : String)
  deriving Repr, DecidableEq

namespace ClusterNotice

def level : ClusterNotice → Level
  | .probingUnavailable | .probingCrashed | .keyNotRecovered .. | .keyNotProtected .. =>
      .error
  | .invalidMetadata .. | .noHealthyDestinations _ | .excluded ..
  | .reactivationUnavailable _
  | .affinityWithoutDestinations | .affinityDestinationMissing _ | .nothingAvailable
  | .timedOut _ => .warn
  | .activeHealthChanged .. | .probingStarted | .probingStopped | .reactivated ..
  | .recovered _ => .info
  | .destinationsChanged .. | .probeFailed .. | .redistributing _ | .picked _ => .debug

def text : ClusterNotice → String
  | .destinationsChanged added updated removed =>
      "destinations added " ++ Text.quotedList added ++ ", updated " ++
        Text.quotedList updated ++
        ", removed " ++ Text.quotedList removed
  | .invalidMetadata key value => s!"ignoring invalid metadata value {key}={value}"
  | .noHealthyDestinations count =>
      s!"no healthy destinations, routing to all {count} destinations"
  | .probeFailed destination outcome =>
      "probe of destination '" ++ destination ++ "' failed: " ++ outcome.shown
  | .activeHealthChanged destination previous next =>
      "active health of destination '" ++ destination ++ "' changed from " ++
        previous.name ++
        " to " ++ next.name
  | .probingUnavailable => "no async runtime, active health checks are not running"
  | .probingStarted => "starting active health checks"
  | .probingCrashed => "active health check failed, retrying on next interval"
  | .probingStopped => "stopped active health checks"
  | .excluded destination period =>
      "destination '" ++ destination ++ "' is passively unhealthy, excluded for " ++
        Text.period period
  | .reactivationUnavailable destination =>
      "no async runtime, destination '" ++ destination ++ "' will not be reactivated"
  | .reactivated destination period =>
      "destination '" ++ destination ++ "' reactivated after " ++ Text.period period
  | .recovered destination =>
      "destination '" ++ destination ++ "' is passively healthy again"
  | .keyNotRecovered keyName fault =>
      "unable to unprotect the affinity key " ++ keyName ++ ": " ++ fault.message
  | .keyNotProtected destination fault =>
      "unable to protect the affinity key of destination '" ++ destination ++ "': " ++
        fault.message
  | .affinityWithoutDestinations =>
      "affinity cannot be established because no destinations are available"
  | .affinityDestinationMissing key =>
      "destination matching affinity key '" ++ key ++ "' was not found"
  | .redistributing status => "affinity failed with " ++ status.name ++ ", redistributing"
  | .picked destination => "picked destination '" ++ destination ++ "'"
  | .nothingAvailable => "no available destinations"
  | .timedOut destination => "destination '" ++ destination ++ "' timed out"

end ClusterNotice

inductive Notice where
  | concerning (cluster : String) (matter : ClusterNotice)
  | clusterAdded (cluster : String)
  | clusterUpdated (cluster : String)
  | clusterRemoved (cluster : String)
  | clusterUnreachable (cluster : String)
  | clusterWithoutDestinations (cluster : String)
  | configurationKept (cluster : String) (fault : ConfigurationFault)
  | configurationParsed
  | protectionKeyGenerated
  | cookieNotWritten (name : String)
  | headerNameInvalid (name : String)
  | headerNotWritten (name : String)
  | forwardingFailed (fault : ForwardFault)
  | policyMisused (fault : UsageFault)
  | requestReceived (method uri : String)
  deriving Repr, DecidableEq

namespace Notice

def level : Notice → Level
  | .concerning _ matter => matter.level
  | .clusterAdded _ | .clusterUpdated _ | .clusterRemoved _ | .configurationParsed =>
      .info
  | .clusterUnreachable _ | .clusterWithoutDestinations _ | .configurationKept ..
  | .protectionKeyGenerated => .warn
  | .cookieNotWritten _ | .headerNameInvalid _ | .headerNotWritten _ | .forwardingFailed _
  | .policyMisused _ => .error
  | .requestReceived .. => .debug

def text : Notice → String
  | .concerning cluster matter => "cluster '" ++ cluster ++ "': " ++ matter.text
  | .clusterAdded cluster => "cluster '" ++ cluster ++ "' added"
  | .clusterUpdated cluster => "cluster '" ++ cluster ++ "' updated"
  | .clusterRemoved cluster => "cluster '" ++ cluster ++ "' removed"
  | .clusterUnreachable cluster =>
      "cluster '" ++ cluster ++ "' is unreachable, since no hosts are registered."
  | .clusterWithoutDestinations cluster =>
      "cluster '" ++ cluster ++ "' does not contain any destinations. " ++
        "It will always result in service unavailable errors."
  | .configurationKept cluster fault =>
      "keeping previous configuration of cluster '" ++ cluster ++ "': " ++ fault.message
  | .configurationParsed => "Successfully parsed configuration!"
  | .protectionKeyGenerated =>
      "No data protection key configured, generating a random one"
  | .cookieNotWritten name =>
      "unable to write affinity cookie " ++ name ++ ": failed to parse header value"
  | .headerNameInvalid name =>
      "invalid affinity header name " ++ name ++ ": invalid HTTP header name"
  | .headerNotWritten name =>
      "unable to write affinity header " ++ name ++ ": failed to parse header value"
  | .forwardingFailed fault => fault.message
  | .policyMisused fault => fault.message
  | .requestReceived method uri => "HTTP/1.1 " ++ method ++ " " ++ uri

def line (notice : Notice) : String :=
  notice.level.name ++ " " ++ notice.text

end Notice

end Gateway
