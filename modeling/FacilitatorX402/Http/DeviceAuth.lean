import FacilitatorX402.Infrastructure.ApiKey
import FacilitatorX402.Library.KeyedRows
import FacilitatorX402.Library.Requests

/-!
# The device authorization flow

The three requests of the flow and the map of pending devices they share: a device asks for a pair of
codes, the user names one of them, the device polls with the other.
-/

namespace FacilitatorX402.DeviceAuth

open KeyedRows Requests

structure PendingDevice where
  userCode : String
  deviceCode : String
  expiresAt : Nat
  approved : Bool
  deriving DecidableEq

/-- A `Map` keyed by the device code: its values in the order of their insertion. -/
structure PendingDevices where
  rows : List PendingDevice
  unique : KeyedRows.Unique PendingDevice.deviceCode rows

namespace PendingDevices

def empty : PendingDevices := ⟨[], List.nodup_nil⟩

def get (devices : PendingDevices) (deviceCode : String) : Option PendingDevice :=
  devices.rows.find? (·.deviceCode = deviceCode)

/-- `[...devices.values()].find((p) => p.userCode === userCode)`. -/
def findUser (devices : PendingDevices) (userCode : String) : Option PendingDevice :=
  devices.rows.find? (·.userCode = userCode)

/-- A key that is there keeps its place. -/
def set (devices : PendingDevices) (device : PendingDevice) : PendingDevices :=
  if hmem : ∃ row ∈ devices.rows, row.deviceCode = device.deviceCode then
    ⟨KeyedRows.update PendingDevice.deviceCode device.deviceCode (fun _ => device) devices.rows,
      devices.unique.replace fun _ _ => rfl⟩
  else
    ⟨devices.rows ++ [device], devices.unique.append fun row hrow heq => hmem ⟨row, hrow, heq⟩⟩

def delete (devices : PendingDevices) (deviceCode : String) : PendingDevices :=
  ⟨devices.rows.filter (·.deviceCode ≠ deviceCode),
    devices.unique.sublist (List.filter_sublist.map _)⟩

/-- `pending.approved = true`, on the object of one key. -/
def approve (devices : PendingDevices) (deviceCode : String) : PendingDevices :=
  ⟨KeyedRows.update PendingDevice.deviceCode deviceCode ({ · with approved := true }) devices.rows,
    devices.unique.replace fun _ hrow => hrow⟩

end PendingDevices

def userCodeChars : List Char := "ABCDEFGHJKLMNPQRSTUVWXYZ23456789".toList

/-- The digits drawn for a user code, four before the dash and four after it. -/
structure UserCodeDraw where
  left : Fin 4 → Fin 32
  right : Fin 4 → Fin 32

def generateUserCode (draw : UserCodeDraw) : String :=
  let half (drawn : Fin 4 → Fin 32) : String :=
    String.ofList ((List.finRange 4).map fun i => userCodeChars.getD (drawn i) 'A')
  half draw.left ++ "-" ++ half draw.right

/-- A request, with the clock at which it is served and what the server draws for it. -/
inductive DeviceRequest where
  | authorize (protocol hostname : String) (now : Nat) (random : RandomBytes) (draw : UserCodeDraw)
  | token (deviceCode : String) (now : Nat) (random : RandomBytes)
  | activate (userCode : String) (now : Nat)

structure AuthorizeReply where
  deviceCode : String
  userCode : String
  verificationUri : String
  verificationUriComplete : String
  expiresIn : Nat
  interval : Nat
  deriving DecidableEq

structure TokenReply where
  accessToken : String
  tokenType : String
  message : String
  deriving DecidableEq

/-- The two kinds of refusal are sent with status 400, the others with status 200. -/
inductive DeviceReply where
  | authorized (reply : AuthorizeReply)
  | token (reply : TokenReply)
  | tokenRefused (error errorDescription : String)
  | activated (message : String)
  | activateRefused (code message : String)
  deriving DecidableEq

/-- `10 * 60 * 1000`. -/
def deviceLifetime : Nat := 600000

def newDevice (now : Nat) (random : RandomBytes) (draw : UserCodeDraw) : PendingDevice :=
  { userCode := generateUserCode draw
    deviceCode := random.hex
    expiresAt := now + deviceLifetime
    approved := false }

def authorizeReply (baseUrl : String) (device : PendingDevice) : AuthorizeReply :=
  { deviceCode := device.deviceCode
    userCode := device.userCode
    verificationUri := baseUrl ++ "/device/activate"
    verificationUriComplete := baseUrl ++ "/device/activate?code=" ++ device.userCode
    expiresIn := 600
    interval := 5 }

/-- `POST /device/authorize`. -/
def authorize (devices : PendingDevices) (protocol hostname : String) (now : Nat)
    (random : RandomBytes) (draw : UserCodeDraw) : DeviceReply × PendingDevices :=
  let device := newDevice now random draw
  (.authorized (authorizeReply (protocol ++ "://" ++ hostname) device), devices.set device)

/-- `POST /device/token`. -/
def token (host : Host) (devices : PendingDevices) (deviceCode : String) (now : Nat)
    (random : RandomBytes) : DeviceReply × PendingDevices :=
  match devices.get deviceCode with
  | none => (.tokenRefused "invalid_grant" "Unknown device code", devices)
  | some pending =>
      if pending.expiresAt < now then
        (.tokenRefused "expired_token" "Device code expired", devices.delete deviceCode)
      else if pending.approved = false then
        (.tokenRefused "authorization_pending" "Waiting for user approval", devices)
      else
        (.token
          { accessToken := (generateApiKey host random).raw
            tokenType := "bearer"
            message := "Use this as Authorization: Bearer <access_token> on all requests" },
          devices.delete deviceCode)

/-- `POST /device/activate`. -/
def activate (devices : PendingDevices) (userCode : String) (now : Nat) :
    DeviceReply × PendingDevices :=
  match devices.findUser userCode with
  | none => (.activateRefused "invalid_code" "Invalid or expired user code", devices)
  | some pending =>
      if pending.expiresAt < now then
        (.activateRefused "invalid_code" "Invalid or expired user code", devices)
      else
        (.activated "Device activated. It will receive its API key on the next poll.",
          devices.approve pending.deviceCode)

def serve (host : Host) : Handler PendingDevices DeviceRequest DeviceReply
  | devices, .authorize protocol hostname now random draw =>
      authorize devices protocol hostname now random draw
  | devices, .token deviceCode now random => token host devices deviceCode now random
  | devices, .activate userCode now => activate devices userCode now

/-! ### The map -/

namespace PendingDevices

variable {devices : PendingDevices} {device row : PendingDevice} {deviceCode userCode : String}

theorem mem_of_get (h : devices.get deviceCode = some device) :
    device ∈ devices.rows ∧ device.deviceCode = deviceCode :=
  ⟨List.mem_of_find?_eq_some h, by simpa using List.find?_some h⟩

theorem mem_of_findUser (h : devices.findUser userCode = some device) :
    device ∈ devices.rows ∧ device.userCode = userCode :=
  ⟨List.mem_of_find?_eq_some h, by simpa using List.find?_some h⟩

theorem rows_set (hfresh : ∀ row ∈ devices.rows, row.deviceCode ≠ device.deviceCode) :
    (devices.set device).rows = devices.rows ++ [device] := by
  rw [set, dif_neg]
  rintro ⟨row, hrow, heq⟩
  exact hfresh row hrow heq

theorem mem_delete :
    row ∈ (devices.delete deviceCode).rows ↔ row ∈ devices.rows ∧ row.deviceCode ≠ deviceCode := by
  rw [delete, List.mem_filter, decide_eq_true_iff]

theorem mem_approve : row ∈ (devices.approve deviceCode).rows ↔
    (row ∈ devices.rows ∧ row.deviceCode ≠ deviceCode) ∨
      ∃ old ∈ devices.rows, old.deviceCode = deviceCode ∧ row = { old with approved := true } :=
  KeyedRows.mem_update

end PendingDevices

/-! ### What each request does -/

variable {host : Host} {devices : PendingDevices}

/-- A token is handed out exactly for a device that is approved and has not expired. -/
theorem token_cases (deviceCode : String) (now : Nat) (random : RandomBytes) :
    (∃ device ∈ devices.rows, device.deviceCode = deviceCode ∧ device.approved = true ∧
        now ≤ device.expiresAt ∧ ∃ reply,
          reply.accessToken = (generateApiKey host random).raw ∧
          token host devices deviceCode now random = (.token reply, devices.delete deviceCode)) ∨
      ∃ error description rest, (rest = devices ∨ rest = devices.delete deviceCode) ∧
        token host devices deviceCode now random = (.tokenRefused error description, rest) := by
  cases hget : devices.get deviceCode with
  | none => exact .inr ⟨_, _, _, .inl rfl, by rw [token, hget]⟩
  | some device =>
      obtain ⟨hmem, hcode⟩ := PendingDevices.mem_of_get hget
      simp only [token, hget]
      by_cases hexpired : device.expiresAt < now
      · rw [if_pos hexpired]
        exact .inr ⟨_, _, _, .inr rfl, rfl⟩
      · rw [if_neg hexpired]
        by_cases happroved : device.approved = false
        · rw [if_pos happroved]
          exact .inr ⟨_, _, _, .inl rfl, rfl⟩
        · rw [if_neg happroved]
          exact .inl ⟨device, hmem, hcode, by simpa using happroved, Nat.le_of_not_lt hexpired, _, rfl, rfl⟩

/-- An activation approves a device of the named user code that has not expired, or nothing. -/
theorem activate_cases (userCode : String) (now : Nat) :
    (∃ device ∈ devices.rows, device.userCode = userCode ∧ now ≤ device.expiresAt ∧ ∃ message,
        activate devices userCode now = (.activated message, devices.approve device.deviceCode)) ∨
      ∃ code message, activate devices userCode now = (.activateRefused code message, devices) := by
  cases hfind : devices.findUser userCode with
  | none => exact .inr ⟨_, _, by rw [activate, hfind]⟩
  | some device =>
      obtain ⟨hmem, hcode⟩ := PendingDevices.mem_of_findUser hfind
      simp only [activate, hfind]
      by_cases hexpired : device.expiresAt < now
      · rw [if_pos hexpired]
        exact .inr ⟨_, _, rfl⟩
      · rw [if_neg hexpired]
        exact .inl ⟨device, hmem, hcode, Nat.le_of_not_lt hexpired, _, rfl⟩

end FacilitatorX402.DeviceAuth
