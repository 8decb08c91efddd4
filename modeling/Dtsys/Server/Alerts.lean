/-
  ALERTS: `AlertService` (`app/services/alert_service.py`) and the `NotificationService` it calls
  (`app/services/notification_service.py`).

  `create_alert` looks for an unresolved alert of the same device and type with
  `scalar_one_or_none`, which RAISES when it finds two; otherwise it inserts the alert, sets the
  device to `alert`, flushes and notifies.  `evaluate_metrics` is four threshold checks of one
  shape (`checkThreshold`), each with its own metric, bound, type, severity and text.

  Streams, the task queue and the push service are taken to accept what they are handed; what is
  handed to them is recorded in `World.effects`.
-/
import Dtsys.Server.Session

namespace Dtsys

namespace Server

variable (E : Env)

/-! ## `NotificationService` -/

/-- `SEVERITY_ORDER.get(s, 0)`. -/
def severityOrder (s : String) : Nat :=
  if s = "critical" then 2 else if s = "warning" then 1 else 0

/-- `_matches`. -/
def ruleMatches (rule : NotificationRule) (alert : Alert) : Bool :=
  (rule.alertType == "*" || rule.alertType == alert.alertType.value) &&
    decide (severityOrder rule.severityMin ≤ severityOrder alert.severity.value)

/-- `device.label or device.hostname`. -/
def displayName (device : Device) : String :=
  match device.label with
  | some l => if l = "" then device.hostname else l
  | none => device.hostname

/-- What the channels of a notification get. -/
def alertPayload (alert : Alert) (device : Device) : AlertPayload where
  id := alert.id
  deviceId := alert.deviceId
  deviceHostname := displayName device
  orgId := device.orgId
  alertType := alert.alertType
  severity := alert.severity
  message := alert.message
  isResolved := alert.isResolved
  createdAt := alert.createdAt
  resolvedAt := alert.resolvedAt

/-- The loop over the matching rules; `browserSent` is its accumulator.  An empty URL or address
    counts as none. -/
def ruleEffects (p : AlertPayload) (device : Device) :
    Bool → List NotificationRule → Bool × List Effect
  | browserSent, [] => (browserSent, [])
  | browserSent, rule :: rest =>
    let browser := rule.channel == "browser" && !browserSent
    let own := (if browser then [Effect.alertStream p] else []) ++
      (match rule.webhookUrl with
        | some url => if rule.channel = "webhook" ∧ url ≠ "" then [Effect.webhook url p] else []
        | none => []) ++
      (match rule.emailAddress with
        | some a => if rule.channel = "email" ∧ a ≠ "" then [Effect.email a p.id device.id] else []
        | none => [])
    let (sent, effs) := ruleEffects p device (browserSent || browser) rest
    (sent, own ++ effs)

/-- The push tokens of the members of an organization. -/
def orgPushTokens (db : Db) (org : Uuid) : List PushToken :=
  db.pushTokens.filter fun t => db.members.any fun m => m.userId == t.userId && m.orgId == org

/-- The tokens the answer marks invalid; `none` is the `IndexError` of an answer with a marked
    entry beyond the tokens. -/
def invalidTokens : List PushToken → List Bool → Option (List String)
  | _, [] => some []
  | [], flag :: rest => if flag then none else invalidTokens [] rest
  | t :: ts, flag :: rest =>
    (invalidTokens ts rest).map fun l => if flag then t.token :: l else l

/-- `_send_push_notifications`: best effort, every exception is swallowed. -/
def sendPushNotifications (org : Uuid) (title body : String) : Server Unit := do
  let tokens ← select E (orgPushTokens · org)
  if tokens.isEmpty then pure ()
  else do
    let messages := tokens.map fun t => ⟨t.token, title, body⟩
    emit (.push messages)
    match (E.expoSend messages).bind (invalidTokens tokens) with
    | none => pure ()
    | some bad => do
      let t ← now
      let used := tokens.map PushToken.token
      execute E fun db => { db with
        pushTokens := (db.pushTokens.filter fun p => !bad.contains p.token).map fun p =>
          if used.contains p.token then { p with lastUsed := some t } else p }

/-- Everything the rules make of one alert; without a browser rule the stream gets it last. -/
def notifyEffects (rules : List NotificationRule) (alert : Alert) (device : Device) :
    List Effect :=
  let p := alertPayload alert device
  let sentAndEffects := ruleEffects p device false (rules.filter (ruleMatches · alert))
  sentAndEffects.2 ++ if sentAndEffects.1 then [] else [Effect.alertStream p]

/-- The push branch of `notify`. -/
def notifyPush (alert : Alert) (device : Device) : Server Unit :=
  match device.orgId with
  | some org =>
    if alert.severity = .critical ∨ alert.severity = .warning then
      sendPushNotifications E org
        ("[" ++ alert.severity.value.toUpper ++ "] " ++ displayName device) alert.message
    else pure ()
  | none => pure ()

/-- `notify(alert, device)`. -/
def notify (alert : Alert) (device : Device) : Server Unit := do
  let rules ← select E fun db => db.notificationRules.filter (·.isEnabled)
  Act.forEach (notifyEffects rules alert device) emit
  notifyPush E alert device

/-! ## `AlertService` -/

/-- Unresolved alerts of a device and type. -/
def unresolved (d : Uuid) (ty : AlertType) (a : Alert) : Bool :=
  a.deviceId == d && a.alertType == ty && !a.isResolved

/-- `create_alert`. -/
def createAlert (ty : AlertType) (severity : Severity) (message : String) : Server Unit := do
  let device ← Act.read World.device
  if device.maintenanceMode then pure ()
  else do
    let rows ← select E fun db => db.alerts.filter (unresolved device.id ty)
    let existing ← scalarOneOrNone rows
    match existing with
    | some _ => pure ()
    | none => do
      let id ← newId E
      let t ← now
      let alert : Alert := ⟨id, device.id, ty, severity, message, false, t, none⟩
      add (.alert alert)
      setDevice fun d => { d with status := .alert }
      flush E
      let device ← Act.read World.device
      notify E alert device

/-- One check of `evaluate_metrics`: `x is not None and x > bound`, then an alert whose text shows
    both. -/
def checkThreshold (v : Json) (bound : Threshold) (ty : AlertType) (severity : Severity)
    (text : String → String) : Server Unit :=
  if v.isNone then pure ()
  else do
    let exceeded ← Act.ofExcept (v.gt bound.value)
    if exceeded then do
      let x ← Act.ofExcept v.toFloat
      createAlert E ty severity (text (fixedText 1 x))
    else pure ()

/-- `evaluate_metrics`. -/
def evaluateMetrics (m : DeviceMetric) : Server Unit := do
  let s := E.settings
  checkThreshold E m.cpuPercent s.alertCpuPercent .highCpu .warning
    fun x => "CPU usage " ++ x ++ "% exceeds threshold " ++ s.alertCpuPercent.text ++ "%"
  checkThreshold E m.ramPercent s.alertRamPercent .highRam .warning
    fun x => "RAM usage " ++ x ++ "% exceeds threshold " ++ s.alertRamPercent.text ++ "%"
  checkThreshold E m.diskPercent s.alertDiskPercent .diskFull .critical
    fun x => "Disk usage " ++ x ++ "% exceeds threshold " ++ s.alertDiskPercent.text ++ "%"
  checkThreshold E m.cpuTemp s.alertCpuTempCelsius .highTemp .warning
    fun x => "CPU temperature " ++ x ++ "°C exceeds threshold " ++ s.alertCpuTempCelsius.text
      ++ "°C"

/-- `update(Alert).where(device, type, ~is_resolved).values(is_resolved=True, resolved_at=now)`. -/
def resolveAlerts (d : Uuid) (ty : AlertType) (t : Nat) (db : Db) : Db :=
  { db with alerts := db.alerts.map fun a =>
      if unresolved d ty a then { a with isResolved := true, resolvedAt := some t } else a }

end Server

end Dtsys
