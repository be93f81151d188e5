import IotPlatform.UcCatalog

/-!
# `iot_services.c`

The command bus. A message is read from the memory that holds it: its payload array and whatever
bytes follow the array.
-/
namespace IotPlatform
open CText CFloat

variable {F : Type} [CFloat F]

/-- The opcode test that sends a command to provisioning. -/
def IotCommandMsg.IsProvisioning {cap : ℕ} (cmd : IotCommandMsg cap) : Prop :=
  cmd.opcode = 0xFF01 ∨ (cmd.opcode = 0x4D51 ∧ (cmd.payload.drop 2).head? = some 115)

instance {cap : ℕ} (cmd : IotCommandMsg cap) : Decidable cmd.IsProvisioning :=
  inferInstanceAs (Decidable (_ ∨ _))

/-- The first `https://` text up to a quote, cut to the local array of 200 bytes. -/
def httpsUrl (t : Text) : Option Text :=
  (strstr t httpsPrefix).map fun p => (p.takeWhile (· != quote)).take 199

/-- The URL that a command without `uc` starts an update with. -/
def plainOtaUrl (t : Text) : Option Text :=
  if (strstr t (txt "\"ota_url\"")).isSome then httpsUrl t else none

def Device.diagEvent (id : UInt32) (d : Device F) : Device F :=
  { d with sys := { d.sys with diag := iotDiagEvent id d.sys.diag } }

def iotServicesHandleCommand {cap : ℕ} (P : Platform) (past : List UInt8)
    (cmd : IotCommandMsg cap) (d : Device F) : IotErr × Device F :=
  let e := iotSecurityValidateCommand cmd
  if e ≠ .ok then (e, d.diagEvent diagCmdReject)
  else if iotUcJsonHasKey (cmd.text past) (txt "uc") then
    let r := iotUcDispatchCommand P cmd past .zero d
    (r.err, r.st)
  else if cmd.IsProvisioning then
    let r := iotProvisionApplyJson P (cmd.text past) cmd.payloadLen d.sys
    (r.1, { d with sys := r.2 })
  else match plainOtaUrl (cmd.text past) with
    | some url =>
      let r := iotOtaStart P url d.sys
      (r.1, { d with sys := r.2 })
    | none => (.ok, d)

theorem iotServicesHandleCommand_rejected {cap : ℕ} {P : Platform} {past : List UInt8}
    {cmd : IotCommandMsg cap} (h : iotSecurityValidateCommand cmd ≠ .ok) (d : Device F) :
    iotServicesHandleCommand P past cmd d =
      (iotSecurityValidateCommand cmd, d.diagEvent diagCmdReject) := by
  simp [iotServicesHandleCommand, h]

end IotPlatform
