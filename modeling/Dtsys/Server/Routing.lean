/-
  ROUTING of notifications: which deliveries `NotificationService.notify` queues for an alert.

  The SPECIFICATION is per organization: an enabled rule of the device's organization that matches
  the alert asks for one webhook or one email, when it has somewhere to go, and the browser stream
  gets the alert once.  `Matches` states the matching on severities, not on their strings.

  The CODE selects the enabled rules of everybody.  So the stream is right always
  (`notifyEffects_streams`), and the deliveries are the specified ones exactly when no rule of
  another organization has something to deliver (`notify_routed_iff`).
-/
import Dtsys.Server.AlertRuns
import Mathlib.Data.List.Perm.Basic

namespace Dtsys

/-- info < warning < critical. -/
def Severity.rank : Severity → Nat
  | .info => 0
  | .warning => 1
  | .critical => 2

namespace Server

/-! ## What a rule asks for -/

/-- The rule is about alerts of this type, and of at least its severity; a `severity_min` that is no
    severity asks for nothing. -/
def Matches (rule : NotificationRule) (alert : Alert) : Prop :=
  (rule.alertType = "*" ∨ rule.alertType = alert.alertType.value) ∧
    ∀ least : Severity, least.value = rule.severityMin → least.rank ≤ alert.severity.rank

theorem severityOrder_value (s : Severity) : severityOrder s.value = s.rank := by
  cases s
  · rfl
  · rfl
  · rfl

/-- A text that is no severity counts as the lowest. -/
theorem severityOrder_unknown {text : String} (h : ∀ s : Severity, s.value ≠ text) :
    severityOrder text = 0 := by
  have hcritical : text ≠ "critical" := fun ht => h .critical ht.symm
  have hwarning : text ≠ "warning" := fun ht => h .warning ht.symm
  rw [severityOrder, if_neg hcritical, if_neg hwarning]

/-- `_matches` on the severities' strings is matching on severities. -/
theorem ruleMatches_iff (rule : NotificationRule) (alert : Alert) :
    ruleMatches rule alert = true ↔ Matches rule alert := by
  have hseverity : severityOrder rule.severityMin ≤ severityOrder alert.severity.value ↔
      ∀ least : Severity, least.value = rule.severityMin → least.rank ≤ alert.severity.rank := by
    rw [severityOrder_value]
    constructor
    · intro hle least hleast
      rw [← hleast, severityOrder_value] at hle
      exact hle
    · intro hall
      by_cases hknown : ∃ s : Severity, s.value = rule.severityMin
      · obtain ⟨s, hs⟩ := hknown
        rw [← hs, severityOrder_value]
        exact hall s hs
      · rw [severityOrder_unknown fun s hs => hknown ⟨s, hs⟩]
        exact Nat.zero_le _
  rw [ruleMatches, Matches]
  rw [Bool.and_eq_true_iff, Bool.or_eq_true_iff, beq_iff_eq, beq_iff_eq, decide_eq_true_eq,
    hseverity]

instance (rule : NotificationRule) (alert : Alert) : Decidable (Matches rule alert) :=
  decidable_of_iff _ (ruleMatches_iff rule alert)

/-- Where a webhook rule delivers to. -/
def webhookTarget (rule : NotificationRule) : Option String :=
  if rule.channel = "webhook" then rule.webhookUrl.filter (· ≠ "") else none

/-- Where an email rule delivers to. -/
def emailTarget (rule : NotificationRule) : Option String :=
  if rule.channel = "email" then rule.emailAddress.filter (· ≠ "") else none

/-! ## What has been handed out -/

/-- The webhook of an effect. -/
def webhookOf : Effect → Option (String × AlertPayload)
  | .webhook url p => some (url, p)
  | _ => none

/-- The e-mail of an effect. -/
def emailOf : Effect → Option (String × Uuid × Uuid)
  | .email address alertId deviceId => some (address, alertId, deviceId)
  | _ => none

/-- What an effect puts on the alert stream. -/
def streamOf : Effect → Option AlertPayload
  | .alertStream p => some p
  | _ => none

/-! ## The loop over the rules -/

section Loop

variable {p : AlertPayload} {device : Device}

/-- The webhook branch of the loop. -/
def webhookBranch (p : AlertPayload) (rule : NotificationRule) : List Effect :=
  match rule.webhookUrl with
  | some url => if rule.channel = "webhook" ∧ url ≠ "" then [Effect.webhook url p] else []
  | none => []

/-- The email branch of the loop. -/
def emailBranch (p : AlertPayload) (device : Device) (rule : NotificationRule) : List Effect :=
  match rule.emailAddress with
  | some a => if rule.channel = "email" ∧ a ≠ "" then [Effect.email a p.id device.id] else []
  | none => []

/-- The branch of a webhook is its target. -/
theorem webhookBranch_eq (rule : NotificationRule) :
    webhookBranch p rule = ((webhookTarget rule).map fun url => Effect.webhook url p).toList := by
  rw [webhookBranch, webhookTarget]
  by_cases hchannel : rule.channel = "webhook"
  · cases rule.webhookUrl with
    | none => rw [if_pos hchannel]; rfl
    | some url =>
      by_cases hurl : url = ""
      · simp [hchannel, hurl]
      · simp [hchannel, hurl, Option.filter]
  · cases rule.webhookUrl with
    | none => rw [if_neg hchannel]; rfl
    | some url => simp [hchannel]

/-- The branch of an e-mail is its address. -/
theorem emailBranch_eq (rule : NotificationRule) :
    emailBranch p device rule =
      ((emailTarget rule).map fun a => Effect.email a p.id device.id).toList := by
  rw [emailBranch, emailTarget]
  by_cases hchannel : rule.channel = "email"
  · cases rule.emailAddress with
    | none => rw [if_pos hchannel]; rfl
    | some a =>
      by_cases ha : a = ""
      · simp [hchannel, ha]
      · simp [hchannel, ha, Option.filter]
  · cases rule.emailAddress with
    | none => rw [if_neg hchannel]; rfl
    | some a => simp [hchannel]

/-- What one turn of the loop hands out. -/
def turn (p : AlertPayload) (device : Device) (browser : Bool) (rule : NotificationRule) :
    List Effect :=
  (if browser then [Effect.alertStream p] else []) ++
    ((webhookTarget rule).map fun url => Effect.webhook url p).toList ++
    ((emailTarget rule).map fun a => Effect.email a p.id device.id).toList

/-- One rule more, and whether the browser has had its alert. -/
theorem ruleEffects_cons (sent : Bool) (rule : NotificationRule) (rules : List NotificationRule) :
    ruleEffects p device sent (rule :: rules) =
      let browser := rule.channel == "browser" && !sent
      let rest := ruleEffects p device (sent || browser) rules
      (rest.1, turn p device browser rule ++ rest.2) := by
  unfold turn
  rw [← webhookBranch_eq, ← emailBranch_eq]
  rfl

theorem turn_webhooks (browser : Bool) (rule : NotificationRule) :
    (turn p device browser rule).filterMap webhookOf =
      ((webhookTarget rule).map (·, p)).toList := by
  rw [turn]
  cases browser <;> cases webhookTarget rule <;> cases emailTarget rule <;> rfl

theorem turn_emails (browser : Bool) (rule : NotificationRule) :
    (turn p device browser rule).filterMap emailOf =
      ((emailTarget rule).map (·, p.id, device.id)).toList := by
  rw [turn]
  cases browser <;> cases webhookTarget rule <;> cases emailTarget rule <;> rfl

theorem turn_streams (browser : Bool) (rule : NotificationRule) :
    (turn p device browser rule).filterMap streamOf = if browser then [p] else [] := by
  rw [turn]
  cases browser <;> cases webhookTarget rule <;> cases emailTarget rule <;> rfl

/-- Every webhook rule delivers once, in the order of the rules. -/
theorem ruleEffects_webhooks (rules : List NotificationRule) : ∀ sent,
    (ruleEffects p device sent rules).2.filterMap webhookOf =
      (rules.filterMap webhookTarget).map (·, p) := by
  induction rules with
  | nil => intro sent; rfl
  | cons rule rules ih =>
    intro sent
    rw [ruleEffects_cons]
    dsimp only
    rw [List.filterMap_append, turn_webhooks, ih, List.filterMap_cons]
    cases webhookTarget rule with
    | none => rfl
    | some url => rfl

/-- The e-mails do not depend on what the browser had. -/
theorem ruleEffects_emails (rules : List NotificationRule) : ∀ sent,
    (ruleEffects p device sent rules).2.filterMap emailOf =
      (rules.filterMap emailTarget).map (·, p.id, device.id) := by
  induction rules with
  | nil => intro sent; rfl
  | cons rule rules ih =>
    intro sent
    rw [ruleEffects_cons]
    dsimp only
    rw [List.filterMap_append, turn_emails, ih, List.filterMap_cons]
    cases emailTarget rule with
    | none => rfl
    | some a => rfl

/-- The loop streams the alert once or not at all, and the flag says which. -/
theorem ruleEffects_streams (rules : List NotificationRule) : ∀ sent,
    (ruleEffects p device sent rules).2.filterMap streamOf ++
        (if (ruleEffects p device sent rules).1 then [] else [p]) =
      if sent then [] else [p] := by
  induction rules with
  | nil => intro sent; rfl
  | cons rule rules ih =>
    intro sent
    rw [ruleEffects_cons]
    dsimp only
    rw [List.filterMap_append, turn_streams, List.append_assoc, ih]
    cases sent with
    | true =>
      rw [Bool.not_true, Bool.and_false]
      rfl
    | false =>
      cases rule.channel == "browser" with
      | true => rfl
      | false => rfl

end Loop

/-! ## `notify` -/

/-- What the rules that count for the alert ask for. -/
def asksFor (f : NotificationRule → Option String) (rules : List NotificationRule) (alert : Alert) :
    List String :=
  (rules.filter fun rule => decide (Matches rule alert)).filterMap f

/-- The rules that `notify` selects are those that match. -/
theorem filter_matches (rules : List NotificationRule) (alert : Alert) :
    rules.filter (ruleMatches · alert) = rules.filter fun rule => decide (Matches rule alert) := by
  apply List.filter_congr
  intro rule _
  rw [Bool.eq_iff_iff, ruleMatches_iff, decide_eq_true_eq]

section Notify

variable (rules : List NotificationRule) (alert : Alert) (device : Device)

/-- **The webhooks** of an alert. -/
theorem notifyEffects_webhooks :
    (notifyEffects rules alert device).filterMap webhookOf =
      (asksFor webhookTarget rules alert).map (·, alertPayload alert device) := by
  unfold notifyEffects asksFor
  dsimp only
  rw [List.filterMap_append, ruleEffects_webhooks, filter_matches]
  split
  · exact List.append_nil _
  · exact List.append_nil _

/-- **The e-mails** of an alert. -/
theorem notifyEffects_emails :
    (notifyEffects rules alert device).filterMap emailOf =
      (asksFor emailTarget rules alert).map (·, alert.id, device.id) := by
  unfold notifyEffects asksFor
  dsimp only
  rw [List.filterMap_append, ruleEffects_emails, filter_matches]
  split
  · exact List.append_nil _
  · exact List.append_nil _

/-- **The browser stream gets the alert once**, whatever the rules. -/
theorem notifyEffects_streams :
    (notifyEffects rules alert device).filterMap streamOf = [alertPayload alert device] := by
  have hloop : (ruleEffects (alertPayload alert device) device false
      (rules.filter (ruleMatches · alert))).2.filterMap streamOf ++
        (if (ruleEffects (alertPayload alert device) device false
          (rules.filter (ruleMatches · alert))).1 then [] else [alertPayload alert device]) =
      [alertPayload alert device] := ruleEffects_streams _ false
  unfold notifyEffects
  dsimp only
  rw [List.filterMap_append]
  refine Eq.trans (congrArg _ ?_) hloop
  split
  · rfl
  · rfl

end Notify

/-! ## Organizations -/

/-- The enabled rules of an organization. -/
def ownRules (db : Db) (org : Uuid) : List NotificationRule :=
  db.notificationRules.filter fun rule => rule.isEnabled && rule.orgId == org

/-- What has been handed out from `w` to `w'` is what the rules of the organization ask for, and the
    alert on the stream, once. -/
def Routed (w w' : World) (alert : Alert) (device : Device) (org : Uuid) : Prop :=
  ∃ effs, w'.effects = w.effects ++ effs ∧
    (effs.filterMap webhookOf).Perm
      ((asksFor webhookTarget (ownRules w.db org) alert).map (·, alertPayload alert device)) ∧
    (effs.filterMap emailOf).Perm
      ((asksFor emailTarget (ownRules w.db org) alert).map (·, alert.id, device.id)) ∧
    effs.filterMap streamOf = [alertPayload alert device]

/-- A rule of another organization that has something to deliver for the alert. -/
def Foreign (org : Uuid) (alert : Alert) (rule : NotificationRule) : Prop :=
  rule.isEnabled = true ∧ Matches rule alert ∧ rule.orgId ≠ org ∧
    (webhookTarget rule ≠ none ∨ emailTarget rule ≠ none)

/-- Leaving elements out of a list changes what is made of it, unless nothing is made of them. -/
theorem filterMap_filter_perm_iff {α β : Type} (f : α → Option β) (p : α → Bool) (l : List α) :
    (l.filterMap f).Perm ((l.filter p).filterMap f) ↔ ∀ a ∈ l, p a = false → f a = none := by
  have hsplit : ((l.filter p).filterMap f ++ (l.filter fun a => !p a).filterMap f).Perm
      (l.filterMap f) := by
    rw [← List.filterMap_append]
    exact (List.filter_append_perm p l).filterMap f
  have hnil : (l.filter fun a => !p a).filterMap f = [] ↔ ∀ a ∈ l, p a = false → f a = none := by
    rw [List.filterMap_eq_nil_iff]
    constructor
    · intro hall a ha hp
      exact hall a (List.mem_filter.mpr ⟨ha, by rw [hp]; rfl⟩)
    · intro hall a ha
      obtain ⟨hmem, hp⟩ := List.mem_filter.mp ha
      exact hall a hmem (by simpa using hp)
  rw [← hnil]
  constructor
  · intro hperm
    have hlen := (hsplit.trans hperm).length_eq
    rw [List.length_append] at hlen
    apply List.eq_nil_of_length_eq_zero
    omega
  · intro hnone
    rw [hnone, List.append_nil] at hsplit
    exact hsplit.symm

section Routing

variable {E : Env} {w : World} {alert : Alert} {device : Device} {org : Uuid}

/-- The specified deliveries are those of the enabled rules of everybody, with the other
    organizations' left out. -/
theorem targets_perm_iff (f : NotificationRule → Option String) (db : Db) :
    (asksFor f (db.notificationRules.filter (·.isEnabled)) alert).Perm
        (asksFor f (ownRules db org) alert) ↔
      ∀ rule ∈ db.notificationRules, rule.isEnabled = true → Matches rule alert →
        rule.orgId ≠ org → f rule = none := by
  have hown : asksFor f (ownRules db org) alert =
      (((db.notificationRules.filter (·.isEnabled)).filter fun rule =>
        decide (Matches rule alert)).filter fun rule => rule.orgId == org).filterMap f := by
    rw [asksFor, ownRules, List.filter_filter, List.filter_filter, List.filter_filter]
    congr 1
    apply List.filter_congr
    intro rule _
    cases rule.isEnabled <;> cases rule.orgId == org <;> simp
  rw [hown]
  rw [asksFor, filterMap_filter_perm_iff]
  constructor
  · intro hall rule hrule henabled hmatches horg
    refine hall rule ?_ (beq_eq_false_iff_ne.mpr horg)
    exact List.mem_filter.mpr ⟨List.mem_filter.mpr ⟨hrule, henabled⟩, decide_eq_true hmatches⟩
  · intro hall rule hrule horg
    obtain ⟨henabled, hmatches⟩ := List.mem_filter.mp hrule
    obtain ⟨hin, henabled⟩ := List.mem_filter.mp henabled
    exact hall rule hin henabled (of_decide_eq_true hmatches) (beq_eq_false_iff_ne.mp horg)

/-- Pairing with the payload keeps permutations apart. -/
theorem map_pair_perm_iff {α β : Type} (b : β) {l m : List α} :
    (l.map (·, b)).Perm (m.map (·, b)) ↔ l.Perm m :=
  List.map_perm_map_iff fun _ _ h => (Prod.mk.inj h).1

theorem filterMap_onlyPush {β : Type} {f : Effect → Option β} (hf : ∀ messages, f (.push messages) = none)
    {pushes : List Effect} (h : OnlyPush pushes) : pushes.filterMap f = [] := by
  apply List.filterMap_eq_nil_iff.mpr
  intro e he
  obtain ⟨messages, rfl⟩ := h e he
  exact hf messages

/-- Nothing but the rules' own deliveries matters for `Routed`. -/
theorem routed_iff {w' : World} {effs : List Effect} (hw' : w'.effects = w.effects ++ effs) :
    Routed w w' alert device org ↔
      (effs.filterMap webhookOf).Perm
        ((asksFor webhookTarget (ownRules w.db org) alert).map (·, alertPayload alert device)) ∧
      (effs.filterMap emailOf).Perm
        ((asksFor emailTarget (ownRules w.db org) alert).map (·, alert.id, device.id)) ∧
      effs.filterMap streamOf = [alertPayload alert device] := by
  constructor
  · rintro ⟨effs', heffs, hall⟩
    obtain rfl : effs = effs' := List.append_cancel_left (hw'.symm.trans heffs)
    exact hall
  · exact fun hall => ⟨effs, hw', hall⟩

/-- `notify` returns, and delivers what the enabled rules of everybody ask for. -/
theorem notify_targets (h : w.Settled) (alert : Alert) (device : Device) (org : Uuid) :
    ∃ w', notify E alert device w = (.ok (), w') ∧
      (Routed w w' alert device org ↔
        (asksFor webhookTarget (w.db.notificationRules.filter (·.isEnabled)) alert).Perm
            (asksFor webhookTarget (ownRules w.db org) alert) ∧
          (asksFor emailTarget (w.db.notificationRules.filter (·.isEnabled)) alert).Perm
            (asksFor emailTarget (ownRules w.db org) alert)) := by
  obtain ⟨ts, pushes, hpush, hrun⟩ := notify_run (E := E) h alert device
  refine ⟨_, hrun, ?_⟩
  have hwebhooks := filterMap_onlyPush (f := webhookOf) (fun _ => rfl) hpush
  have hemails := filterMap_onlyPush (f := emailOf) (fun _ => rfl) hpush
  have hstreams := filterMap_onlyPush (f := streamOf) (fun _ => rfl) hpush
  rw [routed_iff (List.append_assoc ..), List.filterMap_append, List.filterMap_append,
    List.filterMap_append, hwebhooks, hemails, hstreams, List.append_nil, List.append_nil,
    List.append_nil, notifyEffects_webhooks, notifyEffects_emails, notifyEffects_streams,
    map_pair_perm_iff, map_pair_perm_iff]
  constructor
  · exact fun ⟨hweb, hmail, _⟩ => ⟨hweb, hmail⟩
  · exact fun ⟨hweb, hmail⟩ => ⟨hweb, hmail, rfl⟩

/-- **`notify` returns, and routes the alert inside the organization** exactly when no rule of
    another organization delivers.

    `notify` selects every enabled rule of the table.  The deliveries of other organizations' rules are exactly what
    is too much (`routed_iff`), so they have to be none. -/
theorem notify_routed_iff (h : w.Settled) (alert : Alert) (device : Device) (org : Uuid) :
    ∃ w', notify E alert device w = (.ok (), w') ∧
      (Routed w w' alert device org ↔ ∀ rule ∈ w.db.notificationRules, ¬ Foreign org alert rule) := by
  obtain ⟨w', hrun, hrouted⟩ := notify_targets (E := E) h alert device org
  refine ⟨w', hrun, ?_⟩
  rw [hrouted, targets_perm_iff, targets_perm_iff]
  constructor
  · rintro ⟨hweb, hmail⟩ rule hrule ⟨henabled, hmatches, horg, hdeliver⟩
    rcases hdeliver with hdeliver | hdeliver
    · exact hdeliver (hweb rule hrule henabled hmatches horg)
    · exact hdeliver (hmail rule hrule henabled hmatches horg)
  · intro hnone
    constructor
    · intro rule hrule henabled hmatches horg
      by_contra hdeliver
      exact hnone rule hrule ⟨henabled, hmatches, horg, .inl hdeliver⟩
    · intro rule hrule henabled hmatches horg
      by_contra hdeliver
      exact hnone rule hrule ⟨henabled, hmatches, horg, .inr hdeliver⟩

end Routing

/-! ## Two organizations with a webhook each -/

/-- A rule for every type of alert. -/
def webhookRule (org : Uuid) (url severityMin : String) : NotificationRule where
  orgId := org
  alertType := "*"
  severityMin := severityMin
  channel := "webhook"
  webhookUrl := some url
  emailAddress := none
  isEnabled := true

/-- A device of organization 1, and a rule of organization 2 next to the one of its own. -/
def twoTenants (severityMin : String) : World :=
  .start { Db.empty with
    devices := [{ Device.sample 5 with orgId := some 1 }]
    notificationRules := [webhookRule 1 "https://one.example" "info",
      webhookRule 2 "https://two.example" severityMin] } { Device.sample 5 with orgId := some 1 }

theorem twoTenants_settled (severityMin : String) : (twoTenants severityMin).Settled :=
  (World.start_clean _ _).toSettled

/-- CPU usage of the device. -/
def cpuAlert : Alert := ⟨9, 5, .highCpu, .warning, "CPU usage", false, 0, none⟩

/-- The other organization asks for critical alerts only. -/
theorem notify_routed_below :
    ∃ w', notify Env.sample cpuAlert (twoTenants "critical").device (twoTenants "critical") =
        (.ok (), w') ∧
      Routed (twoTenants "critical") w' cpuAlert (twoTenants "critical").device 1 := by
  obtain ⟨w', hrun, hrouted⟩ := notify_routed_iff (E := Env.sample) (twoTenants_settled "critical")
    cpuAlert (twoTenants "critical").device 1
  refine ⟨w', hrun, hrouted.mpr fun rule hrule ⟨_, hmatches, horg, _⟩ => ?_⟩
  rcases List.mem_cons.mp hrule with rfl | hrule
  · exact horg rfl
  · obtain rfl := List.mem_singleton.mp hrule
    exact absurd hmatches (by decide)

/-- The other organization asks for everything, and gets it. -/
theorem notify_crosses_tenants :
    ∃ w', notify Env.sample cpuAlert (twoTenants "info").device (twoTenants "info") = (.ok (), w') ∧
      (w'.effects.filterMap webhookOf).map Prod.fst =
        ["https://one.example", "https://two.example"] ∧
      ¬ Routed (twoTenants "info") w' cpuAlert (twoTenants "info").device 1 := by
  obtain ⟨w', hrun, hrouted⟩ := notify_targets (E := Env.sample) (twoTenants_settled "info")
    cpuAlert (twoTenants "info").device 1
  have hout : ((notify Env.sample cpuAlert (twoTenants "info").device
      (twoTenants "info")).2.effects.filterMap webhookOf).map Prod.fst =
      ["https://one.example", "https://two.example"] := by decide +kernel
  refine ⟨w', hrun, ?_, fun h => ?_⟩
  · rw [hrun] at hout
    exact hout
  · have hlen := (hrouted.mp h).1.length_eq
    exact absurd hlen (by decide)

end Server

end Dtsys
