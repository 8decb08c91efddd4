/-
  The LOOP of `_evaluate_rules` (`app/services/compliance_service.py`), with the two variables it carries.

  1. **Program** — `ruleLoop` goes through the rules with `details` and `violations`, as the source does; each
     round begins with `passed = True`.

  2. **What it carries adds up** — a `Tally` is an additive monoid (lists side by side, numbers summed), a
     round adds the share of its rule, and the loop is the sum of the shares (`Lib/AddUp`).  It is therefore
     `evaluateRules`, which evaluates first and counts afterwards: `ruleLoop_eq`.

  3. **Specification** — `evaluation_compositional`: the verdict of two lists is put together from their
     verdicts, every rule has the entry it has alone, and the order of the rules shows only in the order
     of the entries.
-/
import Dtsys.Server.Compliance
import Mathlib.Algebra.Group.Prod
import Mathlib.Algebra.Order.Group.Multiset

namespace Dtsys

namespace Compliance

/-! ## The loop -/

/-- `details` and `violations`. -/
@[ext] structure Tally where
  details : List Json
  violations : Nat

/-- What `_evaluate_rules` returns. -/
abbrev Verdict := Bool × List Json × Nat

variable {F : Type} (T : Texts F)

section

variable (now : Nat) (device : Device) (metric : Option DeviceMetric) (packages : List String)

/-- One round. -/
def ruleRound (s : Tally) (rule : Json) : Except PyErr Tally := do
  let ruleType ← rule.getD "type" (.str "")
  let value ← rule.get "value"
  let (passed, detail) ← evaluateRule T now device metric packages ruleType value
  let violations := if !passed then s.violations + 1 else s.violations
  let entry := Json.obj [("type", ruleType), ("passed", .bool passed), ("detail", .str detail)]
  return ⟨s.details ++ [entry], violations⟩

/-- `_evaluate_rules`. -/
def ruleLoop (rules : List Json) : Except PyErr Verdict := do
  let s ← rules.foldlM (ruleRound T now device metric packages) ⟨[], 0⟩
  return (s.violations == 0, s.details, s.violations)

end

/-! ## What it carries adds up -/

namespace Tally

instance : Zero Tally := ⟨⟨[], 0⟩⟩

instance : Add Tally := ⟨fun s t => ⟨s.details ++ t.details, s.violations + t.violations⟩⟩

instance : AddMonoid Tally where
  add_assoc s t u := Tally.ext (List.append_assoc ..) (Nat.add_assoc ..)
  zero_add s := Tally.ext rfl (Nat.zero_add _)
  add_zero s := Tally.ext (List.append_nil _) rfl
  nsmul := nsmulRec

/-- What is left of a tally when the order of its entries does not count. -/
def unordered : Tally →+ Multiset Json × Nat where
  toFun s := (↑s.details, s.violations)
  map_zero' := rfl
  map_add' _ _ := rfl

/-- The verdict on what has been tallied. -/
def verdict (s : Tally) : Verdict := (s.violations == 0, s.details, s.violations)

end Tally

/-- What a rule adds, by its entry and whether it passed. -/
def share (entry : Json × Bool) : Tally := ⟨[entry.1], if !entry.2 then 1 else 0⟩

section

variable {T} {now : Nat} {device : Device} {metric : Option DeviceMetric} {packages : List String}

/-- **A round adds the share of its rule** to what is there. -/
theorem ruleRound_eq (s : Tally) (rule : Json) :
    ruleRound T now device metric packages s rule =
      AddUp.round (evaluateEntry T now device metric packages) share s rule := by
  rw [ruleRound, AddUp.round, evaluateEntry]
  cases rule.getD "type" (.str "") with
  | error e => rfl
  | ok ruleType =>
    cases rule.get "value" with
    | error e => rfl
    | ok value =>
      dsimp only [bind, Except.bind]
      cases evaluateRule T now device metric packages ruleType value with
      | error e => rfl
      | ok out =>
        obtain ⟨passed, detail⟩ := out
        cases passed with
        | true => rfl
        | false => rfl

/-- The loop, by the sum of the shares. -/
theorem ruleLoop_run (rules : List Json) :
    ruleLoop T now device metric packages rules =
      (AddUp.run (evaluateEntry T now device metric packages) share rules).map Tally.verdict := by
  have hround : ruleRound T now device metric packages =
      AddUp.round (evaluateEntry T now device metric packages) share :=
    funext fun s => funext fun rule => ruleRound_eq s rule
  rw [ruleLoop, hround, AddUp.run]
  show _ >>= _ = Except.map _ (List.foldlM _ (⟨[], 0⟩ : Tally) rules)
  cases rules.foldlM (AddUp.round (evaluateEntry T now device metric packages) share) (⟨[], 0⟩ : Tally) with
  | error e => rfl
  | ok s => rfl

/-- What the entries add up to. -/
theorem sum_share (entries : List (Json × Bool)) :
    (entries.map share).sum = ⟨entries.map Prod.fst, entries.countP fun entry => !entry.2⟩ := by
  induction entries with
  | nil => rfl
  | cons entry entries ih =>
    rw [List.map_cons, List.sum_cons, ih, List.countP_cons, Nat.add_comm]
    rfl

/-- **Counting in the loop** gives what `evaluateRules` counts afterwards. -/
theorem ruleLoop_eq (rules : List Json) :
    ruleLoop T now device metric packages rules = evaluateRules T rules now device metric packages := by
  rw [ruleLoop_run, AddUp.run, AddUp.foldlM_round, evaluateRules]
  cases rules.mapM (evaluateEntry T now device metric packages) with
  | error e => rfl
  | ok entries =>
    show Except.ok (Tally.verdict (0 + (entries.map share).sum)) = _
    rw [zero_add, sum_share]
    rfl

end

/-! ## Composition -/

/-- The rule of an entry has not passed. -/
def failed : Json → Bool
  | .obj fields =>
    match fields.lookup "passed" with
    | some (.bool passed) => !passed
    | _ => false
  | _ => false

/-- The verdict on the rules of `a` and those of `b`. -/
def both (a b : Verdict) : Verdict := (a.1 && b.1, a.2.1 ++ b.2.1, a.2.2 + b.2.2)

section

variable (now : Nat) (device : Device) (metric : Option DeviceMetric) (packages : List String)

/-- The entry that a rule has alone. -/
def IsEntry (rule entry : Json) : Prop :=
  entry.get "type" = rule.getD "type" (.str "") ∧
    ruleLoop T now device metric packages [rule] = .ok (!failed entry, [entry], if failed entry then 1 else 0)

/-- One entry for each rule, in their order, and the failed ones are counted. -/
structure Itemized (rules : List Json) (v : Verdict) : Prop where
  entries : List.Forall₂ (IsEntry T now device metric packages) rules v.2.1
  violations : v.2.2 = v.2.1.countP failed
  compliant : v.1 = true ↔ ∀ entry ∈ v.2.1, failed entry = false

end

section

variable {T} {now : Nat} {device : Device} {metric : Option DeviceMetric} {packages : List String}

/-- An entry says whether its rule passed, and has the type of the rule. -/
theorem evaluateEntry_entry {rule : Json} {entry : Json × Bool}
    (h : evaluateEntry T now device metric packages rule = .ok entry) :
    entry.1.get "type" = rule.getD "type" (.str "") ∧ failed entry.1 = !entry.2 := by
  rw [evaluateEntry] at h
  cases htype : rule.getD "type" (.str "") with
  | error e =>
    rw [htype] at h
    cases h
  | ok ruleType =>
    rw [htype] at h
    cases hvalue : rule.get "value" with
    | error e =>
      rw [hvalue] at h
      cases h
    | ok value =>
      rw [hvalue] at h
      dsimp only [bind, Except.bind] at h
      cases hrule : evaluateRule T now device metric packages ruleType value with
      | error e =>
        rw [hrule] at h
        cases h
      | ok out =>
        rw [hrule] at h
        cases h
        exact ⟨rfl, rfl⟩

/-- The loop over the rules is the sum of the shares. -/
theorem ruleLoop_items {rules : List Json} {entries : List (Json × Bool)}
    (h : AddUp.Items (evaluateEntry T now device metric packages) rules entries) :
    ruleLoop T now device metric packages rules = .ok (entries.map share).sum.verdict := by
  rw [ruleLoop_run, AddUp.run_eq h]
  rfl

/-- An entry is made by one rule. -/
theorem isEntry_of_ok {rule : Json} {entry : Json × Bool}
    (h : evaluateEntry T now device metric packages rule = .ok entry) :
    IsEntry T now device metric packages rule entry.1 := by
  obtain ⟨htype, hfailed⟩ := evaluateEntry_entry h
  refine ⟨htype, ?_⟩
  rw [ruleLoop_items (.cons h .nil), sum_share, hfailed]
  obtain ⟨entry, passed⟩ := entry
  cases passed with
  | true => rfl
  | false => rfl

/-- The entries of a list, with the failed ones counted. -/
theorem itemized_of_items {rules : List Json} {entries : List (Json × Bool)}
    (h : AddUp.Items (evaluateEntry T now device metric packages) rules entries) :
    Itemized T now device metric packages rules (entries.map share).sum.verdict := by
  have hfailed : ∀ entry ∈ entries, (failed entry.1 = true ↔ (!entry.2) = true) := by
    intro entry hentry
    obtain ⟨rule, -, hrule⟩ := h.exists_of_mem hentry
    rw [(evaluateEntry_entry hrule).2]
  have hcount : (entries.map Prod.fst).countP failed = entries.countP fun entry => !entry.2 := by
    rw [List.countP_map]
    exact List.countP_congr hfailed
  rw [sum_share]
  refine ⟨?_, hcount.symm, ?_⟩
  · exact List.forall₂_map_right_iff.mpr (h.imp fun _ _ => isEntry_of_ok)
  · show (entries.countP _ == 0) = true ↔ ∀ entry ∈ entries.map Prod.fst, failed entry = false
    rw [beq_iff_eq, ← hcount, List.countP_eq_zero]
    exact forall₂_congr fun _ _ => Bool.not_eq_true _ |>.to_iff

/-- The violations of two lists are none if there are none in either. -/
theorem verdict_add (a b : Tally) : (a + b).verdict = both a.verdict b.verdict := by
  have hnone : (a.violations + b.violations == 0) = (a.violations == 0 && b.violations == 0) := by
    rw [Bool.eq_iff_iff, Bool.and_eq_true, beq_iff_eq, beq_iff_eq, beq_iff_eq]
    omega
  rw [Tally.verdict, both]
  exact congrArg (fun c => (c, a.details ++ b.details, a.violations + b.violations)) hnone

/-- Only the order of the entries depends on the order of the rules. -/
theorem verdict_perm {a b : Tally} (h : a.unordered = b.unordered) :
    b.verdict.2.1.Perm a.verdict.2.1 ∧ b.verdict.2.2 = a.verdict.2.2 ∧ b.verdict.1 = a.verdict.1 := by
  obtain ⟨hdetails, hviolations⟩ := Prod.mk.inj h
  refine ⟨(Multiset.coe_eq_coe.mp hdetails).symm, hviolations.symm, ?_⟩
  show (b.violations == 0) = (a.violations == 0)
  rw [hviolations]

/-- Of two rules that look for the same software one passes exactly when the other fails. -/
theorem forbiddenSoftware_passes (value : Json) :
    (forbiddenSoftware T packages value).1 = !(requiredSoftware T packages value).1 := by
  rw [forbiddenSoftware, requiredSoftware]
  cases found T packages value with
  | true => rfl
  | false => rfl

/-- A rule about software, by what it looks for. -/
theorem ruleLoop_software {fields : List (String × Json)} {ty : String} {out : Bool × String}
    (htype : fields.lookup "type" = some (.str ty))
    (hrule : evaluateRule T now device metric packages (.str ty) ((fields.lookup "value").getD .null) = .ok out) :
    ∃ entry n, ruleLoop T now device metric packages [.obj fields] = .ok (out.1, [entry], n) := by
  have hentry : ∃ entry, evaluateEntry T now device metric packages (.obj fields) = .ok (entry, out.1) := by
    rw [evaluateEntry]
    dsimp only [Json.getD, Json.get, bind, Except.bind]
    rw [htype]
    dsimp only [Option.getD_some]
    rw [hrule]
    exact ⟨_, rfl⟩
  obtain ⟨entry, hentry⟩ := hentry
  refine ⟨entry, if !out.1 then 1 else 0, ?_⟩
  rw [ruleLoop_items (.cons hentry .nil), sum_share]
  cases out.1 with
  | true => rfl
  | false => rfl

end

/-- **The evaluation of rules is compositional.**  The verdict on `r` and then `s` is that on `r` and that on
    `s`; it is itemized; an order `t` of `r` changes only the order of the entries; and of two rules that look
    for the same software, one required and one forbidden, one passes exactly when the other fails.

    The loop adds up the entries of the rules (`Dtsys.Lib.AddUp`), and a rule looks at nothing but the device.  The
    order shows in the list of entries and not in the verdict. -/
theorem evaluation_compositional (now : Nat) (device : Device) (metric : Option DeviceMetric)
    (packages : List String) {r s t : List Json} (hr : ∀ rule ∈ r, RuleParses T rule)
    (hs : ∀ rule ∈ s, RuleParses T rule) (ht : r.Perm t) :
    (∃ a b c, ruleLoop T now device metric packages r = .ok a ∧
      ruleLoop T now device metric packages s = .ok b ∧
      ruleLoop T now device metric packages t = .ok c ∧
      ruleLoop T now device metric packages (r ++ s) = .ok (both a b) ∧
      Itemized T now device metric packages r a ∧
      c.2.1.Perm a.2.1 ∧ c.2.2 = a.2.2 ∧ c.1 = a.1) ∧
    ∀ required forbidden : List (String × Json),
      required.lookup "type" = some (.str "required_software") →
      forbidden.lookup "type" = some (.str "forbidden_software") →
      required.lookup "value" = forbidden.lookup "value" →
      ∃ passed entry n entry' n',
        ruleLoop T now device metric packages [.obj required] = .ok (passed, [entry], n) ∧
        ruleLoop T now device metric packages [.obj forbidden] = .ok (!passed, [entry'], n') := by
  constructor
  · have hitem := fun rule => @evaluateEntry_ok F T now device metric packages rule
    obtain ⟨es, hes⟩ := AddUp.exists_items fun rule hrule => hitem rule (hr rule hrule)
    obtain ⟨fs, hfs⟩ := AddUp.exists_items fun rule hrule => hitem rule (hs rule hrule)
    obtain ⟨es', hes', hperm⟩ := hes.perm ht
    refine ⟨_, _, _, ruleLoop_items hes, ruleLoop_items hfs, ruleLoop_items hes', ?_, itemized_of_items hes,
      verdict_perm (AddUp.sum_perm Tally.unordered hperm)⟩
    rw [ruleLoop_run, AddUp.run_append hes hfs, ← verdict_add]
    rfl
  · intro required forbidden hrequired hforbidden hvalue
    have hsoftware := @ruleLoop_software F T now device metric packages
    obtain ⟨entry, n, hloop⟩ := hsoftware hrequired rfl
    obtain ⟨entry', n', hloop'⟩ := hsoftware hforbidden rfl
    refine ⟨_, entry, n, entry', n', hloop, ?_⟩
    rw [hloop', hvalue, forbiddenSoftware_passes]

/-- Disks may be 90% full, and nginx is to be there. -/
def diskRules : List Json :=
  [.obj [("type", .str "max_disk_percent"), ("value", .int 90)],
    .obj [("type", .str "required_software"), ("value", .str "nginx")]]

theorem diskRules_parse : ∀ rule ∈ diskRules, RuleParses Texts.sample rule := by
  intro rule hrule
  rcases List.mem_cons.mp hrule with rfl | hrule
  · exact ⟨_, rfl, fun _ _ _ => ⟨90, rfl⟩⟩
  · obtain rfl := List.mem_singleton.mp hrule
    refine ⟨_, rfl, fun ty hty htype => ?_⟩
    obtain rfl : "required_software" = ty := Json.str.inj (Option.some.inj htype)
    exact absurd hty (by decide)

theorem evaluation_compositional_disk : ∃ a b,
    ruleLoop Texts.sample 0 managed none [] diskRules = .ok a ∧
    ruleLoop Texts.sample 0 managed none [] (diskRules ++ diskRules) = .ok (both a b) ∧
    a.2.2 = 2 := by
  obtain ⟨⟨a, b, c, ha, -, -, hab, -⟩, -⟩ := evaluation_compositional Texts.sample 0 managed none [] diskRules_parse
    diskRules_parse (List.Perm.refl diskRules)
  have hrun : ∃ details, ruleLoop Texts.sample 0 managed none [] diskRules = .ok (false, details, 2) := ⟨_, rfl⟩
  obtain ⟨details, hrun⟩ := hrun
  obtain rfl := Except.ok.inj (hrun.symm.trans ha)
  exact ⟨_, b, ha, hab, rfl⟩

end Compliance

end Dtsys
