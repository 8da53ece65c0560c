/-
This file makes calls on a device, one after another, and goes on after one that failed. The
history of the calls has each of them with the error it ended with. Reading is no call: it has
a result and leaves no trace, so it may come anywhere between the calls.
-/

import CardFormat.Proofs.Device.Watched

namespace CardFormat.DeviceCall

variable {Device : Type} [BlockDevice Device]

/-- Makes the call. -/
def perform : DeviceCall → DeviceAction Device Unit
  | .write start bytes => BlockDevice.write start bytes
  | .discard secure => BlockDevice.discard secure
  | .truncate sectors => BlockDevice.truncate sectors
  | .close => BlockDevice.close

/-- The device after the call, whether it failed or not. -/
def after (device : Device) (call : DeviceCall) : Device :=
  match call.perform device with
  | .ok _ next => next
  | .error _ next => next

/-- The call, with the error it ends with if it fails. -/
def record (device : Device) (call : DeviceCall) : CallRecord :=
  match call.perform device with
  | .ok _ _ => ⟨call, none⟩
  | .error error _ => ⟨call, some error⟩

/-- The calls as they went, oldest first. -/
def history (device : Device) : List DeviceCall → List CallRecord
  | [] => []
  | call :: rest => call.record device :: history (call.after device) rest

end CardFormat.DeviceCall
