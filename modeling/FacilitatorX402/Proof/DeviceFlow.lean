import FacilitatorX402.Http.DeviceAuth

/-!
# Grants of the device flow

Over any sequence of requests, whatever codes they name and whatever the clock says: a token goes only
to a device whose user code was activated in time, in time itself, once, and never are there more
tokens than activations. The invariant says where each pending device comes from, that a device is
pending or has its token but not both, and that every token and every approval has an activation of
its own.
-/

namespace FacilitatorX402.DeviceAuth

open KeyedRows Requests

abbrev DeviceExchange := Exchange DeviceRequest DeviceReply

abbrev DeviceLog := Log DeviceRequest DeviceReply

/-- The device that a request enters. -/
def entered (x : DeviceExchange) : Option PendingDevice :=
  match x.request with
  | .authorize _ _ now random draw => some (newDevice now random draw)
  | _ => none

/-- The device code a token was handed out for, and when. -/
def granted (x : DeviceExchange) : Option (String × Nat) :=
  match x.request, x.reply with
  | .token deviceCode now _, .token _ => some (deviceCode, now)
  | _, _ => none

/-- The user code a successful activation named, and when. -/
def activation (x : DeviceExchange) : Option (String × Nat) :=
  match x.request, x.reply with
  | .activate userCode now, .activated _ => some (userCode, now)
  | _, _ => none

/-- The device codes for which tokens were handed out. -/
def grantedCodes (log : DeviceLog) : List String := (log.filterMap granted).map Prod.fst

/-- A new device code was not given to another device. User codes may collide. -/
def FreshCodes (log : DeviceLog) (_ : PendingDevices) : DeviceRequest → Prop
  | .authorize _ _ _ random _ =>
      ∀ x ∈ log, ∀ device, entered x = some device → device.deviceCode ≠ random.hex
  | _ => True

/-- The device was entered, and since then its user code was activated in time. -/
def ActivatedSince (log : DeviceLog) (device : PendingDevice) : Prop :=
  ∃ after x before, log = after ++ x :: before ∧ entered x = some { device with approved := false } ∧
    ∃ y ∈ after, ∃ at', activation y = some (device.userCode, at') ∧ at' ≤ device.expiresAt

/-- Where a pending device comes from. -/
def Accounted (log : DeviceLog) (device : PendingDevice) : Prop :=
  (∃ x ∈ log, entered x = some { device with approved := false }) ∧
    (device.approved = true → ActivatedSince log device)

/-- The devices that are approved and have not fetched their token. -/
def approvedCount (rows : List PendingDevice) : Nat := rows.countP (·.approved)

structure Invariant (log : DeviceLog) (devices : PendingDevices) : Prop where
  accounted : ∀ device ∈ devices.rows, Accounted log device
  grantedEntered : ∀ code ∈ grantedCodes log, ∃ x ∈ log, ∃ device, entered x = some device ∧
    device.deviceCode = code
  grantedGone : ∀ code ∈ grantedCodes log, ∀ device ∈ devices.rows, device.deviceCode ≠ code
  grantedOnce : (grantedCodes log).Nodup
  counted : (log.filterMap granted).length + approvedCount devices.rows ≤
    (log.filterMap activation).length

/-! ### What a longer log keeps -/

theorem ActivatedSince.cons {log : DeviceLog} {device : PendingDevice}
    (h : ActivatedSince log device) (x : DeviceExchange) : ActivatedSince (x :: log) device := by
  obtain ⟨after, y, before, rfl, hentered, z, hz, hactivated⟩ := h
  exact ⟨x :: after, y, before, rfl, hentered, z, List.mem_cons_of_mem _ hz, hactivated⟩

theorem Accounted.cons {log : DeviceLog} {device : PendingDevice} (h : Accounted log device)
    (x : DeviceExchange) : Accounted (x :: log) device := by
  obtain ⟨⟨y, hy, hentered⟩, happroved⟩ := h
  exact ⟨⟨y, List.mem_cons_of_mem _ hy, hentered⟩, fun h => (happroved h).cons x⟩

/-- A device that was entered is approved by an activation of its user code. -/
theorem Accounted.activated {log : DeviceLog} {device : PendingDevice} (h : Accounted log device)
    {x : DeviceExchange} {now : Nat} (hactivation : activation x = some (device.userCode, now))
    (htime : now ≤ device.expiresAt) : Accounted (x :: log) { device with approved := true } := by
  obtain ⟨⟨y, hy, hentered⟩, -⟩ := h
  obtain ⟨before, after, rfl⟩ := List.append_of_mem hy
  exact ⟨⟨y, List.mem_cons_of_mem _ hy, hentered⟩, fun _ =>
    ⟨x :: before, y, after, rfl, hentered, x, List.mem_cons_self, now, hactivation, htime⟩⟩

/-! ### Counting approved devices -/

theorem approvedCount_append (rows : List PendingDevice) (device : PendingDevice)
    (h : device.approved = false) : approvedCount (rows ++ [device]) = approvedCount rows := by
  simp [approvedCount, h]

theorem approvedCount_filter_le (rows : List PendingDevice) (keep : PendingDevice → Bool) :
    approvedCount (rows.filter keep) ≤ approvedCount rows :=
  List.filter_sublist.countP_le

theorem approvedCount_delete {devices : PendingDevices} {device : PendingDevice}
    (hmem : device ∈ devices.rows) (happroved : device.approved = true) :
    approvedCount (devices.delete device.deviceCode).rows + 1 ≤ approvedCount devices.rows := by
  obtain ⟨before, after, hrows⟩ := List.append_of_mem hmem
  have hbefore := approvedCount_filter_le before (·.deviceCode ≠ device.deviceCode)
  have hafter := approvedCount_filter_le after (·.deviceCode ≠ device.deviceCode)
  simp only [approvedCount, ne_eq, decide_not] at hbefore hafter
  have hgone : (devices.delete device.deviceCode).rows =
      before.filter (fun row => !decide (row.deviceCode = device.deviceCode)) ++
        after.filter (fun row => !decide (row.deviceCode = device.deviceCode)) := by
    simp [PendingDevices.delete, hrows]
  have hone : approvedCount (device :: after) = after.countP (fun row => row.approved) + 1 :=
    List.countP_cons_of_pos happroved
  simp only [approvedCount] at hone ⊢
  rw [hgone, hrows, List.countP_append, List.countP_append, hone]
  omega

theorem approvedCount_approve_le (devices : PendingDevices) (code : String) :
    approvedCount (devices.approve code).rows ≤ approvedCount devices.rows + 1 := by
  have hone := devices.unique.length_filter_le_one code
  rw [← List.countP_eq_length_filter] at hone
  have hsum : ∀ rows : List PendingDevice,
      approvedCount (KeyedRows.update PendingDevice.deviceCode code ({ · with approved := true })
        rows) ≤ approvedCount rows + rows.countP (·.deviceCode = code) := by
    intro rows
    induction rows with
    | nil => exact Nat.le_refl _
    | cons device rows ih =>
        simp only [KeyedRows.update, approvedCount, List.map_cons, List.countP_cons] at ih ⊢
        by_cases hcode : device.deviceCode = code
        · simp only [hcode, if_true, decide_true]
          omega
        · simp only [hcode, if_false, decide_false]
          omega
  exact Nat.le_trans (hsum devices.rows) (Nat.add_le_add_left hone _)

/-! ### One request -/

theorem Invariant.authorize {log : DeviceLog} {devices : PendingDevices}
    (h : Invariant log devices) (protocol hostname : String) (now : Nat) (random : RandomBytes)
    (draw : UserCodeDraw) (hfresh : FreshCodes log devices (.authorize protocol hostname now random draw))
    (reply : DeviceReply) :
    Invariant (⟨.authorize protocol hostname now random draw, reply⟩ :: log)
      (devices.set (newDevice now random draw)) := by
  have hnew : ∀ row ∈ devices.rows, row.deviceCode ≠ (newDevice now random draw).deviceCode := by
    intro row hrow
    obtain ⟨⟨x, hx, hentered⟩, -⟩ := h.accounted row hrow
    exact hfresh x hx { row with approved := false } hentered
  refine ⟨?_, ?_, ?_, h.grantedOnce, ?_⟩
  · intro device hdevice
    rw [PendingDevices.rows_set hnew, List.mem_append, List.mem_singleton] at hdevice
    rcases hdevice with hold | rfl
    · exact (h.accounted device hold).cons _
    · exact ⟨⟨_, List.mem_cons_self, rfl⟩, fun happroved => nomatch happroved⟩
  · intro code hcode
    obtain ⟨x, hx, hentered⟩ := h.grantedEntered code hcode
    exact ⟨x, List.mem_cons_of_mem _ hx, hentered⟩
  · intro code hcode device hdevice
    rw [PendingDevices.rows_set hnew, List.mem_append, List.mem_singleton] at hdevice
    rcases hdevice with hold | rfl
    · exact h.grantedGone code hcode device hold
    · obtain ⟨x, hx, old, hentered, rfl⟩ := h.grantedEntered code hcode
      exact fun heq => hfresh x hx old hentered heq.symm
  · rw [PendingDevices.rows_set hnew, approvedCount_append _ _ rfl]
    exact h.counted

/-- A request that hands nothing out and only lets devices go. -/
theorem Invariant.dropped {log : DeviceLog} {devices devices' : PendingDevices}
    (h : Invariant log devices) {x : DeviceExchange} (hgranted : granted x = none)
    (hactivation : activation x = none) (hrows : devices'.rows.Sublist devices.rows) :
    Invariant (x :: log) devices' := by
  have hcodes : grantedCodes (x :: log) = grantedCodes log := by
    rw [grantedCodes, List.filterMap_cons_none hgranted, grantedCodes]
  refine ⟨?_, ?_, ?_, ?_, ?_⟩
  · intro device hdevice
    exact (h.accounted device (hrows.subset hdevice)).cons x
  · rw [hcodes]
    intro code hcode
    obtain ⟨y, hy, hentered⟩ := h.grantedEntered code hcode
    exact ⟨y, List.mem_cons_of_mem _ hy, hentered⟩
  · rw [hcodes]
    exact fun code hcode device hdevice => h.grantedGone code hcode device (hrows.subset hdevice)
  · rw [hcodes]
    exact h.grantedOnce
  · rw [List.filterMap_cons_none hgranted, List.filterMap_cons_none hactivation]
    exact Nat.le_trans (Nat.add_le_add_left hrows.countP_le _) h.counted

/-- A token is handed out, and its device is forgotten. -/
theorem Invariant.granted {log : DeviceLog} {devices : PendingDevices} (h : Invariant log devices)
    {device : PendingDevice} (hdevice : device ∈ devices.rows) (happroved : device.approved = true)
    (now : Nat) (random : RandomBytes) (reply : TokenReply) :
    Invariant (⟨.token device.deviceCode now random, .token reply⟩ :: log)
      (devices.delete device.deviceCode) := by
  have hold : ∀ row ∈ (devices.delete device.deviceCode).rows, row ∈ devices.rows :=
    fun row hrow => (PendingDevices.mem_delete.mp hrow).1
  refine ⟨?_, ?_, ?_, ?_, ?_⟩
  · intro row hrow
    exact (h.accounted row (hold row hrow)).cons _
  · intro code hcode
    rcases List.mem_cons.mp hcode with rfl | hcode
    · obtain ⟨⟨x, hx, hentered⟩, -⟩ := h.accounted device hdevice
      exact ⟨x, List.mem_cons_of_mem _ hx, _, hentered, rfl⟩
    · obtain ⟨x, hx, hentered⟩ := h.grantedEntered code hcode
      exact ⟨x, List.mem_cons_of_mem _ hx, hentered⟩
  · intro code hcode row hrow
    rcases List.mem_cons.mp hcode with rfl | hcode
    · exact (PendingDevices.mem_delete.mp hrow).2
    · exact h.grantedGone code hcode row (hold row hrow)
  · exact List.nodup_cons.mpr
      ⟨fun hcode => h.grantedGone _ hcode device hdevice rfl, h.grantedOnce⟩
  · have hless := approvedCount_delete hdevice happroved
    have hcounted := h.counted
    change (log.filterMap DeviceAuth.granted).length + 1 + _ ≤ (log.filterMap activation).length
    omega

theorem Invariant.activated {log : DeviceLog} {devices : PendingDevices}
    (h : Invariant log devices) {device : PendingDevice} (hdevice : device ∈ devices.rows) (now : Nat)
    (htime : now ≤ device.expiresAt) (message : String) :
    Invariant (⟨.activate device.userCode now, .activated message⟩ :: log)
      (devices.approve device.deviceCode) := by
  refine ⟨?_, ?_, ?_, h.grantedOnce, ?_⟩
  · intro row hrow
    rcases PendingDevices.mem_approve.mp hrow with ⟨hold, -⟩ | ⟨old, hold, hcode, rfl⟩
    · exact (h.accounted row hold).cons _
    · obtain rfl := devices.unique.eq hold hdevice hcode
      exact (h.accounted old hold).activated rfl htime
  · intro code hcode
    obtain ⟨x, hx, hentered⟩ := h.grantedEntered code hcode
    exact ⟨x, List.mem_cons_of_mem _ hx, hentered⟩
  · intro code hcode row hrow
    rcases PendingDevices.mem_approve.mp hrow with ⟨hold, -⟩ | ⟨old, hold, -, rfl⟩
    · exact h.grantedGone code hcode row hold
    · exact h.grantedGone code hcode old hold
  · have hmore := approvedCount_approve_le devices device.deviceCode
    have hcounted := h.counted
    change (log.filterMap DeviceAuth.granted).length + _ ≤ (log.filterMap activation).length + 1
    omega

theorem Invariant.step {host : Host} {log : DeviceLog} {devices : PendingDevices}
    {request : DeviceRequest} (h : Invariant log devices) (hfresh : FreshCodes log devices request) :
    Invariant (⟨request, (serve host devices request).1⟩ :: log)
      (serve host devices request).2 := by
  cases request with
  | authorize protocol hostname now random draw =>
      exact h.authorize protocol hostname now random draw hfresh _
  | token deviceCode now random =>
      rw [serve]
      rcases @token_cases host devices deviceCode now random with
        ⟨device, hdevice, rfl, happroved, -, reply, -, heq⟩ | ⟨_, _, rest, hrest, heq⟩
      · rw [heq]
        exact h.granted hdevice happroved now random reply
      · rw [heq]
        refine h.dropped rfl rfl ?_
        rcases hrest with rfl | rfl
        · exact List.Sublist.refl _
        · exact List.filter_sublist
  | activate userCode now =>
      rw [serve]
      rcases @activate_cases devices userCode now with
        ⟨device, hdevice, rfl, htime, message, heq⟩ | ⟨_, _, heq⟩
      · rw [heq]
        exact h.activated hdevice now htime message
      · rw [heq]
        exact h.dropped rfl rfl (List.Sublist.refl _)

/-! ### Every run -/

/-- The runs of the three routes, from an empty map. -/
abbrev DeviceRun (host : Host) (log : DeviceLog) (devices : PendingDevices) : Prop :=
  Run (serve host) FreshCodes PendingDevices.empty log devices

theorem DeviceRun.inv {host : Host} {log : DeviceLog} {devices : PendingDevices}
    (h : DeviceRun host log devices) : Invariant log devices := by
  refine h.invariant ⟨?_, ?_, ?_, ?_, ?_⟩ fun log devices request hinv hfresh => hinv.step hfresh
  · exact fun device hdevice => nomatch hdevice
  · exact fun code hcode => nomatch hcode
  · exact fun code hcode => nomatch hcode
  · exact List.nodup_nil
  · exact Nat.le_refl _

/-- A token goes to a device of the map that is approved and has not expired. -/
theorem mem_of_granted {host : Host} {devices : PendingDevices} {x : DeviceExchange}
    (hreply : x.reply = (serve host devices x.request).1) {code : String} {now : Nat}
    (hgranted : granted x = some (code, now)) :
    ∃ device ∈ devices.rows, device.deviceCode = code ∧ device.approved = true ∧
      now ≤ device.expiresAt := by
  obtain ⟨request, reply⟩ := x
  cases request with
  | authorize => cases hgranted
  | activate => cases hgranted
  | token deviceCode time random =>
      change reply = (token host devices deviceCode time random).1 at hreply
      rcases @token_cases host devices deviceCode time random with
        ⟨device, hdevice, hcode, happroved, htime, answer, -, heq⟩ | ⟨_, _, _, -, heq⟩
      · rw [heq] at hreply
        subst hreply
        obtain ⟨rfl, rfl⟩ := Prod.mk.inj (Option.some.inj hgranted)
        exact ⟨device, hdevice, hcode, happroved, htime⟩
      · rw [heq] at hreply
        subst hreply
        cases hgranted

/-- For any sequence of requests: a token is handed out for a device code only in time and only when
the user code of that device was activated in time before, once for each device code, and never more
tokens than there were successful activations. -/
theorem device_grants {host : Host} {log : DeviceLog} {devices : PendingDevices}
    (h : DeviceRun host log devices) :
    (∀ later x earlier code now, log = later ++ x :: earlier → granted x = some (code, now) →
      ∃ device, device.deviceCode = code ∧ now ≤ device.expiresAt ∧ ActivatedSince earlier device) ∧
    (grantedCodes log).Nodup ∧
    (log.filterMap granted).length ≤ (log.filterMap activation).length := by
  refine ⟨?_, (DeviceRun.inv h).grantedOnce, Nat.le_trans (Nat.le_add_right _ _) (DeviceRun.inv h).counted⟩
  rintro later x earlier code now rfl hgranted
  obtain ⟨middle, hearlier, -, hreply⟩ := h.reached
  obtain ⟨device, hdevice, hcode, happroved, htime⟩ := mem_of_granted hreply hgranted
  exact ⟨device, hcode, htime, ((DeviceRun.inv hearlier).accounted device hdevice).2 happroved⟩

/-- A device asks, its user activates it, and it polls twice. -/
def sampleFlow : List DeviceRequest :=
  [.token (sampleRandom 1).hex 10 (sampleRandom 3), .token (sampleRandom 1).hex 9 (sampleRandom 2),
    .activate "AAAA-AAAA" 5,
    .authorize "https" "pay.test" 0 (sampleRandom 1) ⟨fun _ => 0, fun _ => 0⟩]

theorem sampleFlow_admitted :
    Admitted (serve truncatingHost) FreshCodes PendingDevices.empty sampleFlow :=
  ⟨⟨⟨⟨trivial, fun _ hx => nomatch hx⟩, trivial⟩, trivial⟩, trivial⟩

theorem device_grants_once : ∃ log devices,
    DeviceRun truncatingHost log devices ∧ (grantedCodes log).length = 1 ∧
    (grantedCodes log).Nodup ∧ (log.filterMap granted).length ≤ (log.filterMap activation).length :=
  ⟨_, _, run_served sampleFlow_admitted, by decide, (device_grants (run_served sampleFlow_admitted)).2⟩

end FacilitatorX402.DeviceAuth
