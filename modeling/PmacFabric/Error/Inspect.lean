import PmacFabric.Error
import PmacFabric.Text.Quoted

/-!
# Failures by constructor

The command line reports a failure by its kind, level by level, with all that it says of the case.
-/

namespace PmacFabric

def DeviceError.inspect (e : DeviceError) : String :=
  match e with
  | .invalidPort port | .portAlreadyConnected port => s!"{e.kind}({port.inspect})"
  | .notConnected => e.kind

def ManagerError.inspect (e : ManagerError) : String :=
  match e with
  | .unexpectedMessage message => s!"{e.kind}({message.inspect})"
  | .unknownSwitch id => s!"{e.kind}({DeviceId.inspect id})"

def NetworkError.inspect (e : NetworkError) : String :=
  match e with
  | .device cause => s!"DeviceError({cause.inspect})"
  | .manager cause => s!"FabricManagerError({cause.inspect})"
  | .deviceNotFound id | .deviceIsNotASwitch id | .deviceIsNotAHost id =>
    s!"{e.kind}({DeviceId.inspect id})"
  | .deviceNameNotFound name => s!"{e.kind}({Text.quoted name})"
  | .invalidLink south north => s!"{e.kind}({south.inspect}, {north.inspect})"
  | .noConvergence => e.kind

def TopologyError.inspect (e : TopologyError) : String :=
  match e with
  | .network cause => s!"NetworkError({cause.inspect})"
  | .invalidK k => s!"{e.kind}({k})"
  | .invalidLocation pod position port =>
    s!"{e.kind} \x7b pod: {pod}, position: {position}, port: {port} \x7d"

end PmacFabric
