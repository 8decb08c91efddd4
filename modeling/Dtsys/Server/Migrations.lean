/-
  THE MIGRATIONS of the database (`app/db/migrations/versions`), from the first tables to the compliance results.

  A revision is what its file does to a database, with the rows in it: `upgrade` and `downgrade`, each `none` if a
  statement fails.  `env.py` runs all pending revisions in ONE transaction, so a failure leaves the database as it
  was (`upgradeFrom`, `downgradeTo`).

  Most revisions are scripts of `Dtsys.Lib.Ddl`.  Two of them move rows: `addOrganizations` puts everything that
  is there into a default organization, `addOrgScoping` makes the groups, schedules and rules belong to one.

  Types, widths and server defaults of new tables are left out, and so is `create_hypertable`, whose failure the
  first revision ignores.
-/
import Dtsys.Lib.DdlRuns
import Dtsys.Server.Values

namespace Dtsys

namespace Migrations

open Ddl

/-- What a column may hold. -/
inductive Value
  | uuid (id : Uuid)
  | text (s : String)
  | timestamp (t : Nat)
  | boolean (b : Bool)
  | number (n : Int)
  | json (text : String)
  | array (items : List String)
  deriving DecidableEq

/-- `nullable=False`. -/
def required (name : String) : ColumnDef := ⟨name, false⟩

/-- `nullable=True`. -/
def optional (name : String) : ColumnDef := ⟨name, true⟩

/-- `ForeignKeyConstraint([column], [table.id])`. -/
def reference (column table : String) : ForeignKey := ⟨column, table, "id"⟩

/-- A table whose primary key is `id`. -/
def table (columns : List ColumnDef) (foreignKeys : List ForeignKey) : TableDef :=
  ⟨columns, ["id"], [], foreignKeys, []⟩

/-- `create_index(name, t, [column], unique=False)`. -/
def createIndex (name t column : String) : Op Value := .createIndex t ⟨name, [column], false⟩

/-! ## Up to the organizations -/

/-- `35e7b29c0008`. -/
def initialSchema : List (Op Value) := [
  .createTable "devices" (table [required "id", required "hostname", required "os_type", optional "os_version",
    optional "arch", optional "ip_address", optional "fingerprint", required "api_key_hash", required "enrolled_at",
    optional "last_seen", required "status", required "is_revoked", optional "label", optional "notes"] []),
  .createTable "users" (table [required "id", required "username", required "password_hash", required "role",
    required "is_active", optional "last_login", required "created_at"] []),
  .createIndex "users" ⟨"ix_users_username", ["username"], true⟩,
  .createTable "alerts" (table [required "id", required "device_id", required "alert_type", required "severity",
    required "message", required "is_resolved", required "created_at", optional "resolved_at"]
    [reference "device_id" "devices"]),
  createIndex "ix_alerts_device_id" "alerts" "device_id",
  .createTable "commands" (table [required "id", required "device_id", optional "issued_by",
    required "command_type", optional "payload", required "status", required "created_at", optional "started_at",
    optional "completed_at", optional "exit_code", optional "output"] [reference "device_id" "devices", reference "issued_by" "users"]),
  createIndex "ix_commands_device_id" "commands" "device_id",
  .createTable "device_metrics" (table [required "id", required "time", required "device_id",
    optional "cpu_percent", optional "ram_percent", optional "disk_percent", optional "cpu_temp",
    optional "uptime_secs", optional "ram_total_mb", optional "ram_used_mb", optional "disk_total_gb", optional "disk_used_gb"]
    [reference "device_id" "devices"]),
  createIndex "ix_device_metrics_device_id" "device_metrics" "device_id",
  createIndex "ix_device_metrics_time" "device_metrics" "time",
  .createTable "device_network_info" (table [required "id", required "device_id", required "interface_name",
    optional "mac_address", required "ipv4", required "ipv6", required "is_up", optional "mtu",
    required "updated_at"] [reference "device_id" "devices"]),
  createIndex "ix_device_network_info_device_id" "device_network_info" "device_id",
  .createTable "events" (table [required "id", required "time", required "device_id", required "event_type",
    optional "source", required "message", optional "raw_data"] [reference "device_id" "devices"]),
  createIndex "ix_events_device_id" "events" "device_id",
  createIndex "ix_events_time" "events" "time",
  .createTable "software_inventory" (table [required "id", required "device_id", required "name",
    optional "version", optional "install_date", required "update_available", optional "latest_version",
    required "last_scanned"]
    [reference "device_id" "devices"]),
  createIndex "ix_software_inventory_device_id" "software_inventory" "device_id"]

/-- The `downgrade` of `35e7b29c0008`. -/
def initialSchemaDown : List (Op Value) := [
  .dropIndex "ix_software_inventory_device_id", .dropTable "software_inventory",
  .dropIndex "ix_events_time", .dropIndex "ix_events_device_id", .dropTable "events",
  .dropIndex "ix_device_network_info_device_id", .dropTable "device_network_info",
  .dropIndex "ix_device_metrics_time", .dropIndex "ix_device_metrics_device_id", .dropTable "device_metrics",
  .dropIndex "ix_commands_device_id", .dropTable "commands",
  .dropIndex "ix_alerts_device_id", .dropTable "alerts",
  .dropIndex "ix_users_username", .dropTable "users", .dropTable "devices"]

/-- `8d4e22fcb3a1`. -/
def addDeviceTags : List (Op Value) := [.addColumn "devices" (required "tags") (some (.array [])) none]

/-- The `downgrade` of `8d4e22fcb3a1`. -/
def addDeviceTagsDown : List (Op Value) := [.dropColumn "devices" "tags"]

/-- `4c4a7b6f9e12`. -/
def addRuntimeSchedulingAndNotifications : List (Op Value) := [
  .createTable "device_config" ⟨[required "device_id", required "config", required "updated_at"], ["device_id"], [],
    [reference "device_id" "devices"], []⟩,
  .createTable "notification_rules" (table [required "id", required "alert_type", required "severity_min",
    required "channel", optional "webhook_url", required "is_enabled", required "created_at"] []),
  .createTable "scheduled_commands" (table [required "id", optional "device_id", required "command_type",
    required "payload", required "cron_expression", required "is_enabled", optional "last_run_at",
    optional "next_run_at", optional "created_by", required "created_at"]
    [reference "created_by" "users", reference "device_id" "devices"]),
  createIndex "ix_scheduled_commands_next_run_at" "scheduled_commands" "next_run_at"]

/-- The `downgrade` of `4c4a7b6f9e12`. -/
def addRuntimeSchedulingAndNotificationsDown : List (Op Value) := [
  .dropIndex "ix_scheduled_commands_next_run_at", .dropTable "scheduled_commands",
  .dropTable "notification_rules", .dropTable "device_config"]

/-- `1b6a6d4ce2d1`.  A constraint without a name gets `{table}_{column}_key` from PostgreSQL. -/
def addAuditGroups : List (Op Value) := [
  .createTable "audit_log" (table [required "id", required "timestamp", optional "user_id", required "username",
    required "action", optional "resource_type", optional "resource_id", optional "ip_address", optional "details"]
    [reference "user_id" "users"]),
  createIndex "ix_audit_log_timestamp" "audit_log" "timestamp",
  .createTable "device_groups" { table [required "id", required "name", optional "description", required "color",
    required "created_at", optional "created_by"] [reference "created_by" "users"] with
    uniques := [⟨"device_groups_name_key", ["name"]⟩] },
  .createTable "device_group_memberships" { table [required "id", required "group_id", required "device_id"]
    [reference "device_id" "devices", reference "group_id" "device_groups"] with
    uniques := [⟨"uq_group_device", ["group_id", "device_id"]⟩] }]

/-- The `downgrade` of `1b6a6d4ce2d1`. -/
def addAuditGroupsDown : List (Op Value) := [
  .dropTable "device_group_memberships", .dropTable "device_groups",
  .dropIndex "ix_audit_log_timestamp", .dropTable "audit_log"]

/-- `6f72d5e21d31`. -/
def addMetricIoRates : List (Op Value) := [
  .addColumn "device_metrics" (optional "disk_read_mbps") none none,
  .addColumn "device_metrics" (optional "disk_write_mbps") none none,
  .addColumn "device_metrics" (optional "net_sent_mbps") none none,
  .addColumn "device_metrics" (optional "net_recv_mbps") none none]

/-- The `downgrade` of `6f72d5e21d31`. -/
def addMetricIoRatesDown : List (Op Value) := [
  .dropColumn "device_metrics" "net_recv_mbps", .dropColumn "device_metrics" "net_sent_mbps",
  .dropColumn "device_metrics" "disk_write_mbps", .dropColumn "device_metrics" "disk_read_mbps"]

/-- `a2f4f7c9d101`. -/
def addNotificationEmailChannel : List (Op Value) :=
  [.addColumn "notification_rules" (optional "email_address") none none]

/-- The `downgrade` of `a2f4f7c9d101`. -/
def addNotificationEmailChannelDown : List (Op Value) := [.dropColumn "notification_rules" "email_address"]

/-- `b4d9e6a12f44`. -/
def addInventorySavedCommandsSshAndMaintenance : List (Op Value) := [
  .addColumn "devices" (optional "serial_number") none none,
  .addColumn "devices" (optional "manufacturer") none none,
  .addColumn "devices" (optional "model_name") none none,
  .addColumn "devices" (optional "purchase_date") none none,
  .addColumn "devices" (optional "warranty_expires") none none,
  .addColumn "devices" (optional "location") none none,
  .addColumn "devices" (optional "assigned_to") none none,
  .addColumn "devices" (optional "asset_tag") none none,
  .addColumn "devices" (required "maintenance_mode") (some (.boolean false)) none,
  .addColumn "devices" (optional "maintenance_until") none none,
  .addColumn "devices" (optional "maintenance_reason") none none,
  .createTable "uptime_events" (table [required "id", required "device_id", required "event_type",
    required "timestamp", optional "duration_secs"] [reference "device_id" "devices"]),
  createIndex "ix_uptime_events_timestamp" "uptime_events" "timestamp",
  createIndex "ix_uptime_events_device_id" "uptime_events" "device_id",
  .createTable "saved_commands" { table [required "id", required "name", optional "description",
    required "command_type", required "payload", optional "created_by", optional "device_id", required "is_global",
    required "created_at"] [reference "created_by" "users", reference "device_id" "devices"] with
    uniques := [⟨"saved_commands_name_key", ["name"]⟩] },
  .createTable "ssh_keys" (table [required "id", required "device_id", required "key_type", required "public_key",
    required "fingerprint", optional "comment", required "discovered_at"] [reference "device_id" "devices"]),
  createIndex "ix_ssh_keys_device_id" "ssh_keys" "device_id",
  createIndex "ix_ssh_keys_fingerprint" "ssh_keys" "fingerprint"]

/-- The `downgrade` of `b4d9e6a12f44`. -/
def addInventorySavedCommandsSshAndMaintenanceDown : List (Op Value) := [
  .dropIndex "ix_ssh_keys_fingerprint", .dropIndex "ix_ssh_keys_device_id", .dropTable "ssh_keys",
  .dropTable "saved_commands",
  .dropIndex "ix_uptime_events_device_id", .dropIndex "ix_uptime_events_timestamp", .dropTable "uptime_events",
  .dropColumn "devices" "maintenance_reason", .dropColumn "devices" "maintenance_until",
  .dropColumn "devices" "maintenance_mode", .dropColumn "devices" "asset_tag", .dropColumn "devices" "assigned_to",
  .dropColumn "devices" "location", .dropColumn "devices" "warranty_expires", .dropColumn "devices" "purchase_date",
  .dropColumn "devices" "model_name", .dropColumn "devices" "manufacturer", .dropColumn "devices" "serial_number"]

/-- `c1a2b3c4d5e6`. -/
def addAgentVersion : List (Op Value) := [.addColumn "devices" (optional "agent_version") none none]

/-- The `downgrade` of `c1a2b3c4d5e6`. -/
def addAgentVersionDown : List (Op Value) := [.dropColumn "devices" "agent_version"]

/-! ## Organizations -/

/-- What the revisions get from outside. -/
structure Host where
  uuid4 : Nat → Uuid
  now : Nat
  /-- the row of `SELECT … LIMIT 1`, without an order, in the `k`-th statement -/
  limit1 : Nat → List (Tuple Value) → Option (Tuple Value)
  limit1_mem : ∀ {k rows r}, limit1 k rows = some r → r ∈ rows
  limit1_isSome : ∀ {k rows}, rows ≠ [] → (limit1 k rows).isSome

/-- The table of the organizations. -/
def organizations : TableDef := { table [required "id", required "name", required "slug", optional "created_at",
    optional "owner_id"] [reference "owner_id" "users"] with
  indexes := [⟨"ix_organizations_slug", ["slug"], true⟩] }

/-- The table of their members. -/
def organizationMembers : TableDef := { table [required "id", optional "org_id", optional "user_id",
    optional "role", optional "joined_at"] [reference "org_id" "organizations", reference "user_id" "users"] with
  uniques := [⟨"uq_org_member", ["org_id", "user_id"]⟩] }

/-- The first statements of `d7f8e9a0b1c2`. -/
def createOrganizations : List (Op Value) := [
  .createTable "organizations" organizations,
  .createTable "organization_members" organizationMembers,
  .addColumn "devices" (optional "org_id") none (some ("organizations", "id")),
  .addColumn "users" (optional "active_org_id") none (some ("organizations", "id"))]

/-- `SELECT id FROM organizations WHERE slug = 'default'`, `.scalar()`. -/
def defaultOrg (data : Data Value) : Option Value :=
  ((data "organizations").find? fun r => r "slug" = some (.text "default")).bind fun r => r "id"

/-- `UPDATE t SET column = :org_id WHERE column IS NULL`. -/
def fillNull (t column : String) (v : Option Value) : Op Value :=
  .update t column fun _ r => if r column = none then v else r column

section

variable (E : Host)

/-- The values of the default organization. -/
def defaultOrgValues : List (String × Value) :=
  [("id", .uuid (E.uuid4 0)), ("name", .text "Default"), ("slug", .text "default"),
    ("created_at", .timestamp E.now)]

/-- `INSERT INTO organizations`. -/
def insertDefaultOrg : Op Value := .insert "organizations" (defaultOrgValues E) []

/-- `"admin" if role == "admin" else "member"`. -/
def memberRole (role : Option Value) : String := if role = some (.text "admin") then "admin" else "member"

/-- The values of the `i`-th membership that is inserted. -/
def memberValues (org : Value) (i : Nat) (user : Option Value × Option Value) : List (String × Value) :=
  [("id", .uuid (E.uuid4 (i + 1))), ("org_id", org), ("role", .text (memberRole user.2)),
    ("joined_at", .timestamp E.now)] ++ user.1.toList.map fun id => ("user_id", id)

/-- One turn of the loop over the users: `ON CONFLICT (org_id, user_id) DO NOTHING`. -/
def insertMember (org : Value) (i : Nat) (user : Option Value × Option Value) : Op Value :=
  .insert "organization_members" (memberValues E org i user) ["org_id", "user_id"]

/-- `SELECT id, role FROM users`. -/
def users (data : Data Value) : List (Option Value × Option Value) :=
  (data "users").map fun r => (r "id", r "role")

/-- `default_org_id`, which is inserted if it is not there. -/
def ensureDefaultOrg (db : Database Value) : Option (Database Value × Value) :=
  match defaultOrg db.data with
  | some org => some (db, org)
  | none => (step db (insertDefaultOrg E)).map fun db => (db, .uuid (E.uuid4 0))

/-- `d7f8e9a0b1c2`. -/
def addOrganizations (db : Database Value) : Option (Database Value) := do
  let db ← Run.exec step db createOrganizations
  let (db, org) ← ensureDefaultOrg E db
  let db ← Run.exec step db [fillNull "devices" "org_id" (some org), fillNull "users" "active_org_id" (some org)]
  Run.exec step db ((users db.data).mapIdx (insertMember E org))

/-- The `downgrade` of `d7f8e9a0b1c2`. -/
def addOrganizationsDown : List (Op Value) := [
  .dropColumn "users" "active_org_id", .dropColumn "devices" "org_id",
  .dropTable "organization_members", .dropTable "organizations"]

/-- `org_id` for the rows of a table: `(SELECT id FROM organizations LIMIT 1)` where there is none yet. -/
def scopeTable (k : Nat) (t : String) : List (Op Value) := [
  .addColumn t (optional "org_id") none (some ("organizations", "id")),
  .update t "org_id" fun data r =>
    if r "org_id" = none then (E.limit1 k (data "organizations")).bind fun org => org "id" else r "org_id",
  .setNotNull t "org_id"]

/-- The table of the push tokens. -/
def createPushTokens : List (Op Value) := [
  .createTable "push_tokens" { table [required "id", required "user_id", required "token", optional "platform",
    optional "created_at", optional "last_used"] [reference "user_id" "users"] with
    uniques := [⟨"push_tokens_token_key", ["token"]⟩] },
  createIndex "ix_push_tokens_user_id" "push_tokens" "user_id"]

/-- Two organizations may have groups of one name. -/
def groupNamesPerOrg : List (Op Value) := [
  .dropUnique "device_groups" "device_groups_name_key",
  .createUnique "device_groups" ⟨"uq_device_group_org_name", ["org_id", "name"]⟩,
  createIndex "ix_device_groups_org_id" "device_groups" "org_id"]

/-- `e8f9a0b1c2d3`. -/
def addOrgScoping : List (Op Value) :=
  createPushTokens ++
  scopeTable E 0 "device_groups" ++ groupNamesPerOrg ++
  scopeTable E 1 "scheduled_commands" ++ [
    createIndex "ix_scheduled_commands_org_id" "scheduled_commands" "org_id"] ++
  scopeTable E 2 "notification_rules" ++ [
    createIndex "ix_notification_rules_org_id" "notification_rules" "org_id"]

/-- The `downgrade` of `e8f9a0b1c2d3`. -/
def addOrgScopingDown : List (Op Value) := [
  .dropIndex "ix_notification_rules_org_id", .dropColumn "notification_rules" "org_id",
  .dropIndex "ix_scheduled_commands_org_id", .dropColumn "scheduled_commands" "org_id",
  .dropUnique "device_groups" "uq_device_group_org_name", .dropIndex "ix_device_groups_org_id",
  .dropColumn "device_groups" "org_id",
  .createUnique "device_groups" ⟨"device_groups_name_key", ["name"]⟩,
  .dropIndex "ix_push_tokens_user_id", .dropTable "push_tokens"]

/-- `f1a2b3c4d5e6`. -/
def addCompliance : List (Op Value) := [
  .createTable "compliance_policies" { table [required "id", required "org_id", required "name",
    optional "description", required "is_active", required "rules", optional "created_at", optional "updated_at"]
    [reference "org_id" "organizations"] with
    uniques := [⟨"uq_compliance_policy_org_name", ["org_id", "name"]⟩] },
  createIndex "ix_compliance_policies_org_id" "compliance_policies" "org_id",
  .createTable "compliance_results" { table [required "id", required "device_id", required "policy_id",
    required "is_compliant", required "details", required "violations", optional "evaluated_at"]
    [reference "device_id" "devices", reference "policy_id" "compliance_policies"] with
    uniques := [⟨"uq_compliance_result_device_policy", ["device_id", "policy_id"]⟩] },
  createIndex "ix_compliance_results_device_id" "compliance_results" "device_id",
  createIndex "ix_compliance_results_policy_id" "compliance_results" "policy_id"]

/-- The `downgrade` of `f1a2b3c4d5e6`. -/
def addComplianceDown : List (Op Value) := [
  .dropIndex "ix_compliance_results_policy_id", .dropIndex "ix_compliance_results_device_id",
  .dropTable "compliance_results",
  .dropIndex "ix_compliance_policies_org_id", .dropTable "compliance_policies"]

/-! ## The chain -/

/-- `upgrade` of the `k`-th revision, each of which names the one before it as its `down_revision`. -/
def upgrade (k : Nat) (db : Database Value) : Option (Database Value) :=
  match k with
  | 0 => Run.exec step db initialSchema
  | 1 => Run.exec step db addDeviceTags
  | 2 => Run.exec step db addRuntimeSchedulingAndNotifications
  | 3 => Run.exec step db addAuditGroups
  | 4 => Run.exec step db addMetricIoRates
  | 5 => Run.exec step db addNotificationEmailChannel
  | 6 => Run.exec step db addInventorySavedCommandsSshAndMaintenance
  | 7 => Run.exec step db addAgentVersion
  | 8 => addOrganizations E db
  | 9 => Run.exec step db (addOrgScoping E)
  | 10 => Run.exec step db addCompliance
  | _ => none

/-- The statements of `downgrade`. -/
def downgradeOps : Nat → List (Op Value)
  | 0 => initialSchemaDown
  | 1 => addDeviceTagsDown
  | 2 => addRuntimeSchedulingAndNotificationsDown
  | 3 => addAuditGroupsDown
  | 4 => addMetricIoRatesDown
  | 5 => addNotificationEmailChannelDown
  | 6 => addInventorySavedCommandsSshAndMaintenanceDown
  | 7 => addAgentVersionDown
  | 8 => addOrganizationsDown
  | 9 => addOrgScopingDown
  | 10 => addComplianceDown
  | _ => []

/-- `downgrade` of the `k`-th revision. -/
def downgrade (k : Nat) (db : Database Value) : Option (Database Value) := Run.exec step db (downgradeOps k)

/-- `alembic upgrade head` at revision `k`: the `n` revisions that are pending, in one transaction. -/
def upgradeFrom : Nat → Nat → Database Value → Option (Database Value)
  | _, 0, db => some db
  | k, n + 1, db => (upgrade E k db).bind (upgradeFrom (k + 1) n)

/-- `alembic downgrade` to revision `k`, from `n` revisions behind it. -/
def downgradeTo (k : Nat) : Nat → Database Value → Option (Database Value)
  | 0, db => some db
  | n + 1, db => (downgrade (k + n) db).bind (downgradeTo k n)

end

end Migrations

end Dtsys
