/-!
# Failures of devices and of the gateway

Model of `DriverError` and `GatewayError`, with their wording, and of `status_for`. A device error
says which driver failed, in which way, and why. A gateway error says which request could not be
served; the ones caused by a device carry its error and are worded as it is.
-/

namespace ChannelGateway

/-- The ways in which a device fails. -/
inductive DeviceErrorKind where
  | timeout
  | communication
  | hardware
  | invalidParameter
  | unsupported
  | notAttached
  | unknown
  deriving DecidableEq, Repr, Inhabited

/-- The name of a way to fail. -/
def DeviceErrorKind.label : DeviceErrorKind → String
  | timeout => "timeout"
  | communication => "communication"
  | hardware => "hardware"
  | invalidParameter => "invalid_parameter"
  | unsupported => "unsupported"
  | notAttached => "not_attached"
  | unknown => "unknown"

/-- The failure of a device. -/
structure DeviceError where
  driver : String
  kind : DeviceErrorKind
  message : String
  deriving DecidableEq, Repr, Inhabited

/-- The wording of a device error. -/
def DeviceError.text (e : DeviceError) : String :=
  s!"Driver '{e.driver}' {e.kind.label} error: {e.message}"

/-- The reasons for which the gateway does not serve a request. -/
inductive GatewayError where
  /-- The request itself is wrong. -/
  | validation (reason : String)
  /-- A name is not open, and the request does not say where its channel is. -/
  | missingAddress (name : String)
  | openFailed (name : String) (source : DeviceError)
  | notFound (name : String)
  | closeFailed (name : String) (source : DeviceError)
  /-- The channel of an open name failed. -/
  | deviceFailed (name : String) (source : DeviceError)
  | configuration (reason : String)
  deriving DecidableEq, Repr, Inhabited

namespace GatewayError

/-- The wording of a gateway error. -/
def text : GatewayError → String
  | validation reason => reason
  | missingAddress _ => "name not found; channel and hub_port must be set"
  | openFailed _ source => source.text
  | notFound _ => "no phidget by that name"
  | closeFailed _ source => source.text
  | deviceFailed _ source => source.text
  | configuration reason => s!"Configuration error: {reason}"

/-- The name that a request was about. -/
def resource? : GatewayError → Option String
  | validation _ => none
  | missingAddress name => some name
  | openFailed name _ => some name
  | notFound name => some name
  | closeFailed name _ => some name
  | deviceFailed name _ => some name
  | configuration _ => none

/-- The device error behind a gateway error. -/
def source? : GatewayError → Option DeviceError
  | openFailed _ source => some source
  | closeFailed _ source => some source
  | deviceFailed _ source => some source
  | _ => none

/-- The HTTP status of a gateway error: 400 when the caller can mend the request, else 500. -/
def status : GatewayError → Nat
  | validation _ => 400
  | missingAddress _ => 400
  | notFound _ => 400
  | closeFailed _ _ => 400
  | openFailed _ _ => 500
  | deviceFailed _ _ => 500
  | configuration _ => 500

end GatewayError

end ChannelGateway
