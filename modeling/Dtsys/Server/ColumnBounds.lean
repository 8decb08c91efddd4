/-
  COLUMN BOUNDS: the texts of an agent's message in the bounded columns of the database.

  Five handlers put texts of the message into rows: `_handle_event`, `_handle_software`,
  `_handle_network_info`, `_handle_ssh_keys` and `_handle_agent_info`.  `TextMessage.fields` are the texts
  that each of them reads, with the width of the column they end in.

  Three texts are cut before they are stored: the message of an event, whose column has no bound, the
  version of an agent, at the width of its column, and the source of an event, at one character more.  The
  others are stored as they come.  So the columns hold, and the flush goes through, if and only if the
  message is short (`bounds_hold_iff`).
-/
import Dtsys.Server.Inventories
import Dtsys.Server.Reports

namespace Dtsys

/-! ## Columns -/

/-- The texts PostgreSQL admits. -/
def PlainText (s : String) : Prop := '\x00' ∉ s.toList

/-- The length limit and the not-null constraint of a column. -/
structure Column.Holds (c : Column) (v : Json) : Prop where
  notNull : v.isNone = true → c.nullable = true
  length : ∀ n s, c.type = .string n → v = .str s → s.length ≤ n

/-- A type whose values are texts. -/
def ColumnType.isText : ColumnType → Bool
  | .string _ | .text => true
  | _ => false

/-- A column for texts has a text, or nothing. -/
def Column.Textual (c : Column) (v : Json) : Prop :=
  c.type.isText = true → v = .null ∨ ∃ s, v = .str s ∧ PlainText s

/-- The bounded texts that handlers set on the device. -/
structure Device.Within (d : Device) : Prop where
  agentVersion : ∀ s, d.agentVersion = some s → s.length ≤ 50
  ipAddress : ∀ s, d.ipAddress = some s → s.length ≤ 45

namespace Row

/-- All columns of the row hold. -/
def Within (r : Row) : Prop := ∀ cv ∈ r.columns, cv.1.Holds cv.2

/-- What the row has for its text columns are texts. -/
def Textual (r : Row) : Prop := ∀ cv ∈ r.columns, cv.1.Textual cv.2

/-- The driver takes the columns that are not for texts. -/
def RestTaken (D : Driver) (r : Row) : Prop :=
  ∀ cv ∈ r.columns, cv.1.type.isText = false → D.accepts cv.1 cv.2 = true

end Row

/-- The driver takes a text that is not longer than its column. -/
structure Driver.TakesTexts (D : Driver) : Prop where
  string : ∀ n s, PlainText s → s.length ≤ n → D.encodes (.string n) (.str s) = true
  text : ∀ s, PlainText s → D.encodes .text (.str s) = true

/-- A driver that takes texts takes one that is short enough. -/
theorem Driver.TakesTexts.accepts {D : Driver} (hD : D.TakesTexts) {c : Column} {v : Json}
    (htype : c.type.isText = true) (htext : c.Textual v) (h : c.Holds v) : D.accepts c v = true := by
  rw [Driver.accepts]
  rcases htext htype with rfl | ⟨s, rfl, hplain⟩
  · exact h.notNull rfl
  · cases hcase : c.type with
    | string n => exact hD.string n s hplain (h.length n s hcase rfl)
    | text => exact hD.text s hplain
    | _ =>
      rw [hcase] at htype
      cases htype

/-- And a row of such texts. -/
theorem Driver.TakesTexts.acceptsRow {D : Driver} (hD : D.TakesTexts) {r : Row} (htext : r.Textual)
    (hrest : r.RestTaken D) (h : r.Within) : D.acceptsRow r = true := by
  rw [Driver.acceptsRow, List.all_eq_true]
  intro cv hcv
  cases htype : cv.1.type.isText with
  | true => exact hD.accepts htype (htext cv hcv) (h cv hcv)
  | false => exact hrest cv hcv htype

/-! ## Texts of a message -/

/-- A text a handler reads: its key, whether it may be `null`, and the width of its column. -/
structure TextField where
  key : String
  nullable : Bool
  width : Option Nat
  default : Json

namespace TextField

variable (f : TextField) (d : List (String × Json))

/-- The text is a string, or not there. -/
def Typed : Prop :=
  ∀ v, d.lookup f.key = some v → (f.nullable = true ∧ v = .null) ∨ ∃ s, v = .str s ∧ PlainText s

/-- The text is not wider than its column. -/
def Short : Prop := ∀ n, f.width = some n → ∀ s, d.lookup f.key = some (.str s) → s.length ≤ n

/-- `d.get(key, default)` -/
def value : Json := (d.lookup f.key).getD f.default

/-- The column the text is stored in. -/
def column : Column := ⟨(f.width.map ColumnType.string).getD .text, f.nullable⟩

/-- What stands for an absent text can be stored. -/
def DefaultHolds : Prop :=
  (f.default = .null ∧ f.nullable = true) ∨
    ∃ s, f.default = .str s ∧ PlainText s ∧ ∀ n, f.width = some n → s.length ≤ n

end TextField

theorem TextField.column_text (f : TextField) : f.column.type.isText = true := by
  rw [column]
  cases f.width with
  | none => rfl
  | some n => rfl

/-- **A text in its column**: it is one that PostgreSQL admits, and the column holds if the text is
    short. -/
theorem TextField.column_holds {f : TextField} {d : List (String × Json)} (hdefault : f.DefaultHolds)
    (htyped : f.Typed d) :
    f.column.Textual (f.value d) ∧ (f.column.Holds (f.value d) ↔ f.Short d) := by
  have hwidth : ∀ n, f.column.type = .string n ↔ f.width = some n := by
    intro n
    rw [column]
    cases f.width with
    | none => simp
    | some m => simp
  rw [value]
  cases hlookup : d.lookup f.key with
  | none =>
    have hshort : f.Short d := fun n _ s hs => by
      rw [hlookup] at hs
      cases hs
    rcases hdefault with ⟨hnull, hnullable⟩ | ⟨s, hs, hplain, hlen⟩
    · rw [Option.getD_none, hnull]
      refine ⟨fun _ => .inl rfl, fun _ => hshort, fun _ => ⟨fun _ => hnullable, ?_⟩⟩
      rintro _ _ - ⟨⟩
    · rw [Option.getD_none, hs]
      refine ⟨fun _ => .inr ⟨s, rfl, hplain⟩, fun _ => hshort, fun _ => ⟨nofun, ?_⟩⟩
      rintro n _ htype ⟨⟩
      exact hlen n ((hwidth n).mp htype)
  | some v =>
    rw [Option.getD_some]
    rcases htyped v hlookup with ⟨hnullable, rfl⟩ | ⟨s, rfl, hplain⟩
    · have hshort : f.Short d := fun n _ s hs => by
        rw [hlookup] at hs
        cases hs
      refine ⟨fun _ => .inl rfl, fun _ => hshort, fun _ => ⟨fun _ => hnullable, ?_⟩⟩
      rintro _ _ - ⟨⟩
    · refine ⟨fun _ => .inr ⟨s, rfl, hplain⟩, fun h n hn s' hs' => ?_, fun h => ⟨nofun, ?_⟩⟩
      · rw [hlookup] at hs'
        cases hs'
        exact h.length n s ((hwidth n).mpr hn) rfl
      · rintro n _ htype ⟨⟩
        exact h n ((hwidth n).mp htype) s hlookup

/-! ## Five handlers -/

/-- The messages whose texts are stored. -/
inductive TextMessage
  | event
  | software
  | networkInfo
  | sshKeys
  | agentInfo
  deriving DecidableEq

namespace TextMessage

/-- The texts a handler reads from a dict of the message. -/
def fields : TextMessage → List TextField
  | .event =>
    [⟨"message", true, none, .str ""⟩, ⟨"source", true, some 255, .str ""⟩,
      ⟨"event_type", false, some 50, .str "info"⟩]
  | .software =>
    [⟨"name", false, some 500, .str ""⟩, ⟨"version", true, some 100, .null⟩,
      ⟨"latest_version", true, some 100, .null⟩]
  | .networkInfo => [⟨"name", false, some 255, .str ""⟩, ⟨"mac_address", true, some 64, .null⟩]
  | .sshKeys =>
    [⟨"type", false, some 50, .str ""⟩, ⟨"public_key", false, none, .str ""⟩,
      ⟨"fingerprint", false, some 255, .str ""⟩, ⟨"comment", true, some 255, .null⟩]
  | .agentInfo => [⟨"version", true, none, .null⟩]

end TextMessage

namespace Server

section

variable (E : Env) (w : World)

/-- The handler of a message with texts. -/
def textHandler : TextMessage → Json → Server Unit
  | .event => handleEvent E
  | .software => handleSoftware E
  | .networkInfo => handleNetworkInfo E
  | .sshKeys => handleSshKeys E
  | .agentInfo => handleAgentInfo E

/-- The dicts of the message that a handler takes texts from: the loops stop at the first element of the
    wrong shape. -/
def TakesFrom : TextMessage → Json → List (String × Json) → Prop
  | .event, data, d => eventLimited w = false ∧ data = .obj d
  | .software, data, d => ∃ xs, items data "packages" = .ok xs ∧ .obj d ∈ added isDict xs
  | .networkInfo, data, d => ∃ xs, items data "interfaces" = .ok xs ∧ .obj d ∈ added interfaceOk xs
  | .sshKeys, data, d => ∃ xs, items data "keys" = .ok xs ∧ .obj d ∈ added isDict xs
  | .agentInfo, data, d => data = .obj d

/-- The row a handler makes of a dict; an agent's version makes none. -/
def textRow (id : Uuid) (d : List (String × Json)) : TextMessage → Except PyErr Row
  | .event => (eventOf E id w.clock w.device.id (.obj d)).map Row.event
  | .software => softwareRow w.device.id id (.obj d)
  | .networkInfo => networkRow w.device.id id (.obj d)
  | .sshKeys => sshKeyRow w.device.id id (.obj d)
  | .agentInfo => .error .valueError

/-- A row of what the session has to write when the handler is left, that is not in the database. -/
def Adds (m : TextMessage) (data : Json) (r : Row) : Prop :=
  (textHandler E m data w).2.view.HasRow r ∧ ¬ w.committed.HasRow r

/-- The columns hold of what a handler adds and changes, and the flush that writes it goes through, as
    far as the columns that are not for texts do not stop it. -/
structure BoundsHold (m : TextMessage) (data : Json) : Prop where
  rows : ∀ r, Adds E w m data r → r.Within
  device : w.device.Within → (textHandler E m data w).2.device.Within
  flush : (∀ r, Adds E w m data r → r.RestTaken E.driver) →
    flushAccepted E (textHandler E m data w).2 = true

/-- The texts of the message are strings. -/
def TextPayload (m : TextMessage) (data : Json) : Prop :=
  ∀ d, TakesFrom w m data d → ∀ f ∈ m.fields, f.Typed d

/-- The texts of the message are not wider than their columns. -/
def Fits (m : TextMessage) (data : Json) : Prop :=
  ∀ d, TakesFrom w m data d → ∀ f ∈ m.fields, f.Short d

end

variable {E : Env} {w : World}

/-! ## The columns of a row -/

/-- A row whose columns are the texts of a dict, and others that are not for texts. -/
theorem columns_hold {r : Row} {fs : List TextField} {d : List (String × Json)}
    (hcols : ∀ cv ∈ r.columns, (∃ f ∈ fs, cv = (f.column, f.value d)) ∨
      (cv.1.type.isText = false ∧ cv.1.nullable = true))
    (hfields : ∀ f ∈ fs, (f.column, f.value d) ∈ r.columns)
    (hdefault : ∀ f ∈ fs, f.DefaultHolds) (htyped : ∀ f ∈ fs, f.Typed d) :
    r.Textual ∧ (r.Within ↔ ∀ f ∈ fs, f.Short d) := by
  refine ⟨fun cv hcv => ?_, fun h f hf => ?_, fun h cv hcv => ?_⟩
  · rcases hcols cv hcv with ⟨f, hf, rfl⟩ | ⟨htype, -⟩
    · exact (TextField.column_holds (hdefault f hf) (htyped f hf)).1
    · intro htext
      rw [htype] at htext
      cases htext
  · exact (TextField.column_holds (hdefault f hf) (htyped f hf)).2.mp (h _ (hfields f hf))
  · rcases hcols cv hcv with ⟨f, hf, rfl⟩ | ⟨htype, hnullable⟩
    · exact (TextField.column_holds (hdefault f hf) (htyped f hf)).2.mpr (h f hf)
    · refine ⟨fun _ => hnullable, fun n _ hcase => ?_⟩
      rw [hcase] at htype
      cases htype

/-- What stands for an absent text: nothing where the column may be null, else a short text. -/
theorem fields_default (m : TextMessage) : ∀ f ∈ m.fields, f.DefaultHolds := by
  have hnull : ∀ key width, TextField.DefaultHolds ⟨key, true, width, .null⟩ :=
    fun _ _ => .inl ⟨rfl, rfl⟩
  have hempty : ∀ key nullable width, TextField.DefaultHolds ⟨key, nullable, width, .str ""⟩ :=
    fun _ _ _ => .inr ⟨"", rfl, List.not_mem_nil, fun _ _ => Nat.zero_le _⟩
  have hinfo : TextField.DefaultHolds ⟨"event_type", false, some 50, .str "info"⟩ := by
    refine .inr ⟨"info", rfl, (by unfold PlainText; decide), ?_⟩
    rintro _ ⟨⟩
    decide
  cases m with
  | event => simp [TextMessage.fields, hempty, hinfo]
  | software => simp [TextMessage.fields, hempty, hnull]
  | networkInfo => simp [TextMessage.fields, hempty, hnull]
  | sshKeys => simp [TextMessage.fields, hempty, hnull]
  | agentInfo => simp [TextMessage.fields, hnull]

/-- A row of a package holds the texts of the message. -/
theorem software_holds {id dev : Uuid} {d : List (String × Json)} {r : Row}
    (hr : softwareRow dev id (.obj d) = .ok r) (htyped : ∀ f ∈ TextMessage.software.fields, f.Typed d) :
    r.Textual ∧ (r.Within ↔ ∀ f ∈ TextMessage.software.fields, f.Short d) := by
  cases hr
  refine columns_hold ?_ ?_ (fields_default .software) htyped
  · intro cv hcv
    simp only [Row.columns, List.mem_cons, List.not_mem_nil, or_false] at hcv
    rcases hcv with rfl | rfl | rfl | rfl
    · exact .inl ⟨_, .head _, rfl⟩
    · exact .inl ⟨_, .tail _ (.head _), rfl⟩
    · exact .inr ⟨rfl, rfl⟩
    · exact .inl ⟨_, .tail _ (.tail _ (.head _)), rfl⟩
  · simp only [TextMessage.fields, List.forall_mem_cons]
    exact ⟨.head _, .tail _ (.head _), .tail _ (.tail _ (.tail _ (.head _))), List.forall_mem_nil _⟩

/-- A row of an interface does. -/
theorem network_holds {id dev : Uuid} {d : List (String × Json)} {r : Row}
    (hr : networkRow dev id (.obj d) = .ok r)
    (htyped : ∀ f ∈ TextMessage.networkInfo.fields, f.Typed d) :
    r.Textual ∧ (r.Within ↔ ∀ f ∈ TextMessage.networkInfo.fields, f.Short d) := by
  cases hr
  refine columns_hold ?_ ?_ (fields_default .networkInfo) htyped
  · intro cv hcv
    simp only [Row.columns, List.mem_cons, List.not_mem_nil, or_false] at hcv
    rcases hcv with rfl | rfl | rfl | rfl | rfl | rfl
    · exact .inl ⟨_, .head _, rfl⟩
    · exact .inl ⟨_, .tail _ (.head _), rfl⟩
    · exact .inr ⟨rfl, rfl⟩
    · exact .inr ⟨rfl, rfl⟩
    · exact .inr ⟨rfl, rfl⟩
    · exact .inr ⟨rfl, rfl⟩
  · simp only [TextMessage.fields, List.forall_mem_cons]
    exact ⟨.head _, .tail _ (.head _), List.forall_mem_nil _⟩

/-- A row of a key does. -/
theorem sshKey_holds {id dev : Uuid} {d : List (String × Json)} {r : Row}
    (hr : sshKeyRow dev id (.obj d) = .ok r) (htyped : ∀ f ∈ TextMessage.sshKeys.fields, f.Typed d) :
    r.Textual ∧ (r.Within ↔ ∀ f ∈ TextMessage.sshKeys.fields, f.Short d) := by
  cases hr
  refine columns_hold ?_ ?_ (fields_default .sshKeys) htyped
  · intro cv hcv
    simp only [Row.columns, List.mem_cons, List.not_mem_nil, or_false] at hcv
    rcases hcv with rfl | rfl | rfl | rfl
    · exact .inl ⟨_, .head _, rfl⟩
    · exact .inl ⟨_, .tail _ (.head _), rfl⟩
    · exact .inl ⟨_, .tail _ (.tail _ (.head _)), rfl⟩
    · exact .inl ⟨_, .tail _ (.tail _ (.tail _ (.head _))), rfl⟩
  · simp only [TextMessage.fields, List.forall_mem_cons]
    exact ⟨.head _, .tail _ (.head _), .tail _ (.tail _ (.head _)),
      .tail _ (.tail _ (.tail _ (.head _))), List.forall_mem_nil _⟩

/-! ## Texts that are cut -/

/-- `_truncate` of a text. -/
theorem truncate_text (hstr : ∀ s, E.str (.str s) = s) (s : String) (n : Nat) :
    truncate E (.str s) n = String.ofList (s.toList.take n) := by
  rw [truncate]
  by_cases hempty : s = ""
  · rw [hempty, if_neg (by decide)]
    simp
  · have htruthy : (Json.str s).truthy = true := bne_iff_ne.mpr hempty
    rw [if_pos htruthy, hstr]

/-- A part of a plain text. -/
theorem plainText_take {s : String} (h : PlainText s) (n : Nat) :
    PlainText (String.ofList (s.toList.take n)) := by
  rw [PlainText, String.toList_ofList]
  exact fun hin => h (List.mem_of_mem_take hin)

/-- A text that is `null` or a string, cut. -/
theorem truncate_plain (hstr : ∀ s, E.str (.str s) = s) {v : Json}
    (hv : v = .null ∨ ∃ s, v = .str s ∧ PlainText s) (n : Nat) : PlainText (truncate E v n) := by
  rcases hv with rfl | ⟨s, rfl, hplain⟩
  · exact List.not_mem_nil
  · rw [truncate_text hstr]
    exact plainText_take hplain n

/-- What a text field holds, or its default. -/
theorem value_textual {f : TextField} {d : List (String × Json)} (hdefault : f.DefaultHolds)
    (htyped : f.Typed d) : f.value d = .null ∨ ∃ s, f.value d = .str s ∧ PlainText s :=
  (TextField.column_holds hdefault htyped).1 f.column_text

/-- The `source` of an event: cut at 256 characters, for a column of 255. -/
def sourceField : TextField := ⟨"source", true, some 255, .str ""⟩

/-- The `source` an event has. -/
def cutSource (E : Env) (v : Json) : Option String :=
  if truncate E v 256 = "" then none else some (truncate E v 256)

/-- A short field is one that fits its column. -/
theorem short_value {f : TextField} {d : List (String × Json)} (hdefault : f.DefaultHolds) :
    f.Short d ↔ ∀ n, f.width = some n → ∀ s, f.value d = .str s → s.length ≤ n := by
  rw [TextField.Short, TextField.value]
  cases hlookup : d.lookup f.key with
  | some v =>
    refine forall₂_congr fun n _ => forall_congr' fun s => ?_
    rw [Option.getD_some, Option.some.injEq]
  | none =>
    refine ⟨fun _ n hn s hs => ?_, fun _ _ _ _ h => nomatch h⟩
    rw [Option.getD_none] at hs
    rcases hdefault with ⟨hnull, -⟩ | ⟨s', hs', -, hlen⟩
    · rw [hnull] at hs
      cases hs
    · rw [hs'] at hs
      cases hs
      exact hlen n hn

theorem holds_null {c : Column} (h : c.nullable = true) : c.Holds .null := by
  refine ⟨fun _ => h, ?_⟩
  rintro _ _ - ⟨⟩

/-- A text fits a column exactly if it is not longer. -/
theorem holds_str {n : Nat} {s : String} : Column.Holds (nullable (.string n)) (.str s) ↔ s.length ≤ n := by
  refine ⟨fun h => h.length n s rfl rfl, fun h => ⟨nofun, ?_⟩⟩
  rintro _ _ ⟨⟩ ⟨⟩
  exact h

/-- The source of an event, after its cut at 256 characters. -/
theorem source_holds (hstr : ∀ s, E.str (.str s) = s) {d : List (String × Json)}
    (htyped : sourceField.Typed d) :
    Column.Holds (nullable (.string 255)) (((cutSource E (sourceField.value d)).map Json.str).getD .null) ↔
      sourceField.Short d := by
  have hdefault : sourceField.DefaultHolds := fields_default .event _ (.tail _ (.head _))
  rw [short_value hdefault]
  rcases value_textual hdefault htyped with hv | ⟨s, hv, -⟩
  · rw [hv]
    refine ⟨fun _ n _ s hs => (nomatch hs), fun _ => holds_null rfl⟩
  · rw [hv]
    have hshort : (∀ n, sourceField.width = some n → ∀ t, Json.str s = .str t → t.length ≤ n) ↔
        s.length ≤ 255 := by
      refine ⟨fun h => h 255 rfl s rfl, ?_⟩
      rintro h _ ⟨⟩ _ ⟨⟩
      exact h
    rw [hshort]
    rw [cutSource, truncate_text hstr]
    split
    · next hempty =>
      -- nothing is left of the empty text only
      have hlist : s.toList.take 256 = [] := by
        rw [← String.toList_ofList (l := s.toList.take 256), hempty]
        rfl
      have hnil : s.toList = [] := by simpa using hlist
      have hlen : s.length = 0 := by
        rw [← String.length_toList, hnil]
        rfl
      exact ⟨fun _ => by omega, fun _ => holds_null rfl⟩
    · rw [Option.map_some, Option.getD_some, holds_str, String.length_ofList, List.length_take,
        String.length_toList]
      omega

/-- A row of an event holds the texts of the message, except for a long source. -/
theorem event_holds (hstr : ∀ s, E.str (.str s) = s) {id dev : Uuid} {t : Nat}
    {d : List (String × Json)} {ev : Event} (hr : eventOf E id t dev (.obj d) = .ok ev)
    (htyped : ∀ f ∈ TextMessage.event.fields, f.Typed d) :
    (Row.event ev).Textual ∧ ((Row.event ev).Within ↔ ∀ f ∈ TextMessage.event.fields, f.Short d) := by
  have hdefault := fields_default .event
  simp only [TextMessage.fields, List.forall_mem_cons] at htyped hdefault
  obtain ⟨hmessage, hsource, htype, -⟩ := htyped
  obtain ⟨hmessage', hsource', htype', -⟩ := hdefault
  have hrow : (Row.event ev).columns =
      [(required (.string 50), (⟨"event_type", false, some 50, .str "info"⟩ : TextField).value d),
        (nullable (.string 255), ((cutSource E (sourceField.value d)).map Json.str).getD .null),
        (required .text, .str ev.message), (nullable .jsonb, ev.rawData)] := by
    cases hr
    rfl
  have hplain : PlainText ev.message := by
    cases hr
    exact truncate_plain hstr (value_textual hmessage' hmessage) maxEventMessageLen
  have hcut : PlainText (truncate E (sourceField.value d) 256) :=
    truncate_plain hstr (value_textual hsource' hsource) 256
  obtain ⟨htextual, hholds⟩ := TextField.column_holds htype' htype
  rw [Row.Textual, Row.Within, hrow]
  simp only [TextMessage.fields, List.forall_mem_cons]
  constructor
  · refine ⟨htextual, fun _ => ?_, fun _ => .inr ⟨_, rfl, hplain⟩, nofun, nofun⟩
    rw [cutSource]
    split
    · exact .inl rfl
    · exact .inr ⟨_, rfl, hcut⟩
  · constructor
    · rintro ⟨htypeHolds, hsourceHolds, -⟩
      exact ⟨nofun, (source_holds hstr hsource).mp hsourceHolds, hholds.mp htypeHolds, nofun⟩
    · rintro ⟨-, hsourceShort, htypeShort, -⟩
      refine ⟨hholds.mpr htypeShort, (source_holds hstr hsource).mpr hsourceShort, ⟨nofun, ?_⟩,
        ⟨fun _ => rfl, ?_⟩, nofun⟩
      · rintro _ _ ⟨⟩
      · rintro _ _ ⟨⟩

/-- **What the rows hold**, for all messages. -/
theorem textRow_holds (hstr : ∀ s, E.str (.str s) = s) {m : TextMessage} {id : Uuid}
    {d : List (String × Json)} {r : Row} (hr : textRow E w id d m = .ok r)
    (htyped : ∀ f ∈ m.fields, f.Typed d) : r.Textual ∧ (r.Within ↔ ∀ f ∈ m.fields, f.Short d) := by
  cases m with
  | event =>
    obtain ⟨ev, hev, rfl⟩ : ∃ ev, eventOf E id w.clock w.device.id (.obj d) = .ok ev ∧ Row.event ev = r := by
      cases hr
      exact ⟨_, rfl, rfl⟩
    exact event_holds hstr hev htyped
  | software => exact software_holds hr htyped
  | networkInfo => exact network_holds hr htyped
  | sshKeys => exact sshKey_holds hr htyped
  | agentInfo => cases hr

/-! ## What the handlers leave -/

/-- The tables of rows are those of the database, devices apart, and the rows that wait. -/
theorem view_hasRow_iff {r : Row} : w.view.HasRow r ↔ w.db.HasRow r ∨ r ∈ w.pending := by
  rw [World.view, Db.hasRow_insertAll_iff]
  have hdevices : ∀ devices, ({ w.db with devices := devices } : Db).HasRow r ↔ w.db.HasRow r := by
    intro devices
    cases r <;> exact Iff.rfl
  rw [hdevices]

/-- What is left by a handler of a message in which only the texts of the message matter. -/
structure Leaves (E : Env) (w : World) (m : TextMessage) (data : Json) (w' : World) : Prop where
  /-- A new row is one of a dict, or its columns are filled by the server. -/
  rows : ∀ r, w'.view.HasRow r → ¬ w.committed.HasRow r →
    r.columns = [] ∨ ∃ d id, TakesFrom w m data d ∧ textRow E w id d m = .ok r
  /-- Every dict has its row. -/
  dicts : ∀ d, TakesFrom w m data d → m ≠ .agentInfo → ∃ k r, w.drawn ≤ k ∧
    textRow E w (E.uuid4 k) d m = .ok r ∧ r.id = E.uuid4 k ∧ w'.view.HasRow r
  device : w.device.Within → w'.device.Within
  flush : (∀ r, w'.view.HasRow r → ¬ w.committed.HasRow r → E.driver.acceptsRow r = true) →
    flushAccepted E w' = true

/-- The elements that are added are objects. -/
theorem added_isDict {ok : Json → Bool} : ∀ {xs : List Json}, ∀ x ∈ added ok xs, ∃ d, x = .obj d := by
  intro xs
  induction xs with
  | nil => exact fun x hx => absurd hx List.not_mem_nil
  | cons y ys ih =>
    intro x hx
    rw [added] at hx
    cases hy : isDict y with
    | false =>
      rw [hy] at hx
      exact absurd hx List.not_mem_nil
    | true =>
      rw [hy, if_pos rfl, List.mem_cons] at hx
      rcases hx with rfl | hx
      · cases x with
        | obj d => exact ⟨d, rfl⟩
        | _ => cases hy
      · split at hx
        · exact ih x hx
        · exact absurd hx List.not_mem_nil

section Built

variable {row : Uuid → Json → Except PyErr Row} {xs : List Json} {rs : List Row} {k : Nat}

/-- A row that has been built is one of an element. -/
theorem Built.of_row (h : Built E row k xs rs) : ∀ r ∈ rs, ∃ x ∈ xs, ∃ n, row (E.uuid4 n) x = .ok r := by
  induction h with
  | nil => exact fun r hr => absurd hr List.not_mem_nil
  | @cons x r xs rs hxr _ ih =>
    obtain ⟨n, -, hrow, -⟩ := hxr
    rw [List.forall_mem_cons]
    refine ⟨⟨x, .head _, n, hrow⟩, fun r' hr' => ?_⟩
    obtain ⟨x', hx', hrow'⟩ := ih r' hr'
    exact ⟨x', .tail _ hx', hrow'⟩

/-- An element has had its row built. -/
theorem Built.row_of (h : Built E row k xs rs) :
    ∀ x ∈ xs, ∃ r ∈ rs, ∃ n, k ≤ n ∧ row (E.uuid4 n) x = .ok r ∧ r.id = E.uuid4 n := by
  induction h with
  | nil => exact fun x hx => absurd hx List.not_mem_nil
  | @cons x r xs rs hxr _ ih =>
    rw [List.forall_mem_cons]
    refine ⟨⟨r, .head _, hxr⟩, fun x' hx' => ?_⟩
    obtain ⟨r', hr', hrow'⟩ := ih x' hx'
    exact ⟨r', .tail _ hr', hrow'⟩

end Built

/-- A device whose version is as it was loaded is accepted. -/
theorem deviceAccepted_of_version {w' : World} (hc : w.Clean) (hloaded : w'.loaded = w.loaded)
    (hversion : w'.device.agentVersion = w.device.agentVersion) :
    deviceAccepted E w'.device w'.loaded = true := by
  rw [deviceAccepted, hloaded, hc.loaded, hversion, beq_self_eq_true, Bool.true_or]

/-- A handler that has taken no dict; it may have deleted rows. -/
theorem leaves_nothing {m : TextMessage} {data : Json} {w' : World} (hc : w.Clean)
    (hnone : ∀ d, ¬ TakesFrom w m data d) (hpending : w'.pending = w.pending)
    (hdb : ∀ r, w'.db.HasRow r → w.committed.HasRow r) (hloaded : w'.loaded = w.loaded)
    (hversion : w'.device.agentVersion = w.device.agentVersion)
    (haddress : w.device.Within → w'.device.Within) : Leaves E w m data w' := by
  rw [hc.pending] at hpending
  constructor
  · intro r hr hnew
    rw [view_hasRow_iff, hpending] at hr
    exact absurd (hdb r (hr.resolve_right List.not_mem_nil)) hnew
  · exact fun d hd _ => absurd hd (hnone d)
  · exact haddress
  · intro _
    rw [flushAccepted, deviceAccepted_of_version hc hloaded hversion, hpending]
    rfl

/-- A handler that has deleted rows, and has the rows of dicts waiting. -/
theorem leaves_built (row : Uuid → Json → Except PyErr Row) {m : TextMessage} {data : Json}
    {w' : World} {xs : List Json} {rs : List Row} (hc : w.Clean) (hf : Fresh E w)
    (hbuilt : Built E row w.drawn xs rs)
    (htakes : ∀ d, TakesFrom w m data d ↔ .obj d ∈ xs) (hdict : ∀ x ∈ xs, ∃ d, x = .obj d)
    (hrow : ∀ id d, textRow E w id d m = row id (.obj d)) (hpending : w'.pending = w.pending ++ rs)
    (hdb : ∀ r, w'.db.HasRow r → w.committed.HasRow r) (hloaded : w'.loaded = w.loaded)
    (hversion : w'.device.agentVersion = w.device.agentVersion)
    (haddress : w.device.Within → w'.device.Within) : Leaves E w m data w' := by
  rw [hc.pending, List.nil_append] at hpending
  constructor
  · intro r hr hnew
    rw [view_hasRow_iff, hpending] at hr
    obtain ⟨x, hx, n, hxr⟩ := hbuilt.of_row r (hr.resolve_left fun h => hnew (hdb r h))
    obtain ⟨d, rfl⟩ := hdict x hx
    exact .inr ⟨d, _, (htakes d).mpr hx, (hrow _ d).trans hxr⟩
  · intro d hd _
    obtain ⟨r, hr, n, hn, hxr, hid⟩ := hbuilt.row_of _ ((htakes d).mp hd)
    exact ⟨n, r, hn, (hrow _ d).trans hxr, hid, view_hasRow_iff.mpr (.inr (hpending ▸ hr))⟩
  · exact haddress
  · intro hacc
    rw [flushAccepted]
    rw [deviceAccepted_of_version hc hloaded hversion, Bool.and_true, List.all_eq_true, hpending]
    exact fun r hr => hacc r (view_hasRow_iff.mpr (.inr (hpending ▸ hr))) (Built.new hf hbuilt r hr)

/-- A full replace: the DELETE, and a row for every dict up to the first element that is none. -/
theorem leaves_items {m : TextMessage} {data : Json} {key : String} {x : Server Unit} {base : Db}
    {row : Uuid → Json → Except PyErr Row} (hc : w.Clean) (hf : Fresh E w) (hb : Builder row)
    (htakes : ∀ d, TakesFrom w m data d ↔ ∃ xs, items data key = .ok xs ∧ .obj d ∈ added isDict xs)
    (hrow : ∀ id d, textRow E w id d m = row id (.obj d))
    (hdb : ∀ r, base.HasRow r → w.committed.HasRow r)
    (hx : x w = (Act.ofExcept (items data key) >>= addAll E row) (beforeLoop w base w.device)) :
    Leaves E w m data (x w).2 := by
  rw [hx]
  cases hitems : items data key with
  | error e =>
    refine leaves_nothing hc (fun d hd => ?_) rfl hdb rfl rfl id
    obtain ⟨xs, hxs, -⟩ := (htakes d).mp hd
    rw [hitems] at hxs
    cases hxs
  | ok xs =>
    rw [Act.ofExcept_ok_bind]
    obtain ⟨rs, n, hbuilt, hout⟩ := addAll_rows (E := E) hb xs (beforeLoop w base w.device)
    rw [hout]
    refine leaves_built row hc hf hbuilt
      (fun d => (htakes d).trans ⟨?_, fun hd => ⟨xs, hitems, hd⟩⟩) added_isDict hrow rfl hdb rfl rfl id
    rintro ⟨xs', hxs', hd⟩
    rw [hitems] at hxs'
    cases hxs'
    exact hd

/-- What `_handle_software` leaves, when it returns and when it raises. -/
theorem software_leaves (hc : w.Clean) (hf : Fresh E w) (data : Json) :
    Leaves E w .software data (handleSoftware E data w).2 := by
  refine leaves_items hc hf (builder_softwareRow _) (fun _ => Iff.rfl) (fun _ _ => rfl)
    (fun r hr => ?_) (handleSoftware_eq hc.toSettled data)
  rw [← hc.db]
  cases r with
  | software r => exact List.mem_of_mem_filter hr
  | _ => exact hr

/-- What `_handle_ssh_keys` leaves. -/
theorem sshKeys_leaves (hc : w.Clean) (hf : Fresh E w) (data : Json) :
    Leaves E w .sshKeys data (handleSshKeys E data w).2 := by
  refine leaves_items hc hf (builder_sshKeyRow _) (fun _ => Iff.rfl) (fun _ _ => rfl)
    (fun r hr => ?_) (handleSshKeys_eq hc.toSettled data)
  rw [← hc.db]
  cases r with
  | sshKey r => exact List.mem_of_mem_filter hr
  | _ => exact hr

/-- An address as it is printed fits its column. -/
theorem length_ipv4 (a : Ipv4) : a.str.length ≤ 45 := by
  have hoctet : ∀ n < 256, (toString n).length ≤ 3 := by
    intro n hn
    rw [Nat.toString_eq_repr, Nat.length_repr_le_iff (by decide)]
    omega
  have hlt : a.toNat < 4294967296 := a.isLt
  have h₁ := hoctet (a.toNat / 2 ^ 24) (by omega)
  have h₂ := hoctet (a.toNat / 2 ^ 16 % 256) (by omega)
  have h₃ := hoctet (a.toNat / 2 ^ 8 % 256) (by omega)
  have h₄ := hoctet (a.toNat % 256) (by omega)
  rw [Ipv4.str]
  simp only [String.length_append]
  have hdot : ".".length = 1 := rfl
  omega

theorem withAddress_version (chosen : Option Ipv4 × Option Ipv4) (x : Device) :
    (withAddress chosen x).agentVersion = x.agentVersion := by
  rw [withAddress]
  split
  · rfl
  · rfl

theorem withAddress_within (chosen : Option Ipv4 × Option Ipv4) {x : Device} (h : x.Within) :
    (withAddress chosen x).Within := by
  rw [withAddress]
  split
  · next ip _ =>
    refine ⟨h.agentVersion, ?_⟩
    rintro _ ⟨⟩
    exact length_ipv4 ip
  · exact h

/-- What `_handle_network_info` leaves. -/
theorem networkInfo_leaves (hc : w.Clean) (hf : Fresh E w) (data : Json) :
    Leaves E w .networkInfo data (handleNetworkInfo E data w).2 := by
  have hdb : ∀ r, (deleteNetwork w.device.id w.db).HasRow r → w.committed.HasRow r := by
    intro r hr
    rw [← hc.db]
    cases r with
    | network r => exact List.mem_of_mem_filter hr
    | _ => exact hr
  have hseen : w.device.Within → (seen w.clock w.device).Within := fun h => ⟨h.agentVersion, h.ipAddress⟩
  cases hget : data.getD "interfaces" (.arr []) with
  | error e =>
    rw [handleNetworkInfo_error hget]
    refine leaves_nothing hc (fun d hd => ?_) rfl (fun r hr => hc.db ▸ hr) rfl rfl id
    obtain ⟨xs, hxs, -⟩ := hd
    rw [items, hget] at hxs
    cases hxs
  | ok v =>
    have hitems : items data "interfaces" = v.iter := by
      rw [items, hget]
      rfl
    rw [handleNetworkInfo_eq hc.toSettled hget]
    cases hiter : v.iter with
    | error e =>
      refine leaves_nothing hc (fun d hd => ?_) rfl hdb rfl rfl hseen
      obtain ⟨xs, hxs, -⟩ := hd
      rw [hitems, hiter] at hxs
      cases hxs
    | ok xs =>
      rw [Act.ofExcept_ok_bind]
      obtain ⟨rs, n, hbuilt, hout⟩ := addInterfaces_rows (E := E) w.device.id xs (none, none)
        (beforeLoop w (deleteNetwork w.device.id w.db) (seen w.clock w.device))
      have htakes : ∀ d, TakesFrom w .networkInfo data d ↔ .obj d ∈ added interfaceOk xs := by
        refine fun d => ⟨?_, fun hd => ⟨xs, hitems.trans hiter, hd⟩⟩
        rintro ⟨xs', hxs', hd⟩
        rw [hitems, hiter] at hxs'
        cases hxs'
        exact hd
      -- The rows built before an interface that raises are left in the session too.
      rcases hloop : addInterfaces E w.device.id (none, none) xs
        (beforeLoop w (deleteNetwork w.device.id w.db) (seen w.clock w.device)) with ⟨e | chosen, w'⟩
      · rw [Act.bind_of_error hloop]
        rw [hloop] at hout
        obtain rfl : w' = _ := hout
        exact leaves_built (networkRow w.device.id) hc hf hbuilt htakes added_isDict (fun _ _ => rfl)
          rfl hdb rfl rfl hseen
      · rw [Act.bind_of_ok hloop]
        rw [hloop] at hout
        obtain rfl : w' = _ := hout
        have hversion := withAddress_version chosen (seen w.clock w.device)
        exact leaves_built (networkRow w.device.id) hc hf hbuilt htakes added_isDict (fun _ _ => rfl)
          rfl hdb rfl hversion fun h => withAddress_within chosen (hseen h)

/-- What `create_alert` leaves alone, returned or raised. -/
structure Beside (w w' : World) : Prop where
  settled : w'.Settled
  rows : ∀ r, r.columns ≠ [] → (w'.db.HasRow r ↔ w.db.HasRow r)
  agentVersion : w'.device.agentVersion = w.device.agentVersion
  ipAddress : w'.device.ipAddress = w.device.ipAddress

theorem Beside.refl (h : w.Settled) : Beside w w := ⟨h, fun _ _ => Iff.rfl, rfl, rfl⟩

/-- `create_alert` writes beside these rows. -/
theorem createAlert_beside (h : w.Settled) (ty : AlertType) (severity : Severity) (message : String) :
    Beside w (createAlert E ty severity message w).2 := by
  rw [createAlert, Act.read_bind]
  split
  · exact Beside.refl h
  · rw [Act.bind_of_ok (select_settled h _)]
    change Beside w ((scalarOneOrNone (openAlerts w ty) >>= _) w).2
    rcases openAlerts w ty with _ | ⟨a, _ | ⟨b, rest⟩⟩
    · let a : Alert := ⟨E.uuid4 w.drawn, w.device.id, ty, severity, message, false, w.clock, none⟩
      show Beside w ((flush E >>= fun _ => Act.read World.device >>= notify E a)
        { w with drawn := w.drawn + 1, pending := w.pending ++ [.alert a], device := alerted w }).2
      have hset : (inserted w a).Settled := ⟨h.pending, rfl⟩
      obtain ⟨ts, pushes, -, hrun⟩ := notify_run (E := E) hset a (inserted w a).device
      rw [Act.bind_of_ok (flush_alert h a), Act.read_bind, hrun]
      refine ⟨notified_settled hset ts _, fun r hr => ?_, rfl, rfl⟩
      cases r with
      | alert r => exact absurd rfl hr
      | _ => exact Iff.rfl
    · exact Beside.refl h
    · exact Beside.refl h

/-- A session that holds nothing but rows of the database, and of the server's own. -/
theorem leaves_settled {m : TextMessage} {data : Json} {w' : World} (h : w'.Settled)
    (hrows : ∀ r, w'.db.HasRow r → ¬ w.committed.HasRow r →
      r.columns = [] ∨ ∃ d id, TakesFrom w m data d ∧ textRow E w id d m = .ok r)
    (hdicts : ∀ d, TakesFrom w m data d → m ≠ .agentInfo → ∃ k r, w.drawn ≤ k ∧
      textRow E w (E.uuid4 k) d m = .ok r ∧ r.id = E.uuid4 k ∧ w'.db.HasRow r)
    (hdevice : w.device.Within → w'.device.Within) : Leaves E w m data w' where
  rows r hr := hrows r (h.view_eq ▸ hr)
  dicts d hd hm := by
    rw [h.view_eq]
    exact hdicts d hd hm
  device := hdevice
  flush _ := flushAccepted_settled h

section Event

variable {fields : List (String × Json)} {ev : Event} {redis : Option Redis}

/-- The event's row waits when the flush has been refused. -/
theorem refused_leaves (hc : w.Clean) (hf : Fresh E w) (hl : eventLimited w = false)
    (hev : eventOf E (E.uuid4 w.drawn) w.clock w.device.id (.obj fields) = .ok ev)
    (hrow : textRow E w (E.uuid4 w.drawn) fields .event = .ok (.event ev))
    (hacc : E.driver.acceptsRow (.event ev) = false) :
    Leaves E w .event (.obj fields)
      { w with redis := redis, drawn := w.drawn + 1, pending := w.pending ++ [.event ev] } := by
  have hset : ({ w with redis := redis } : World).Settled := ⟨hc.pending, hc.loaded⟩
  have hid := (eventOf_fields hev).1
  have hview := view_add hset (.event ev) (w.drawn + 1)
  have hin : (w.db.insert (.event ev)).HasRow (.event ev) :=
    (Db.hasRow_insert_iff _ _ _).mpr (.inr rfl)
  constructor
  · intro r hr hnew
    rw [hview, Db.hasRow_insert_iff] at hr
    obtain rfl := hr.resolve_left fun h => hnew (hc.db ▸ h)
    exact .inr ⟨fields, _, ⟨hl, rfl⟩, hrow⟩
  · rintro d ⟨-, hd⟩ -
    cases hd
    exact ⟨w.drawn, .event ev, le_rfl, hrow, hid, hview ▸ hin⟩
  · exact id
  · intro hall
    have htaken := hall (.event ev) (hview ▸ hin) (hf w.drawn le_rfl _ hid)
    rw [hacc] at htaken
    cases htaken

/-- The event's row is written, and the alert of a crash leaves it alone. -/
theorem reported_leaves (hc : w.Clean) (hl : eventLimited w = false)
    (hev : eventOf E (E.uuid4 w.drawn) w.clock w.device.id (.obj fields) = .ok ev)
    (hrow : textRow E w (E.uuid4 w.drawn) fields .event = .ok (.event ev)) {effs : List Effect}
    {w' : World} (hbeside : Beside (reported { w with redis := redis } ev effs) w') :
    Leaves E w .event (.obj fields) w' := by
  have hinsert : ∀ r, (reported { w with redis := redis } ev effs).db.HasRow r ↔
      w.db.HasRow r ∨ r = .event ev := fun r => Db.hasRow_insert_iff w.db (.event ev) r
  refine leaves_settled hbeside.settled (fun r hr hnew => ?_) ?_ fun h =>
    ⟨hbeside.agentVersion ▸ h.agentVersion, hbeside.ipAddress ▸ h.ipAddress⟩
  · by_cases hcols : r.columns = []
    · exact .inl hcols
    · rw [hbeside.rows r hcols, hinsert] at hr
      obtain rfl := hr.resolve_left fun h => hnew (hc.db ▸ h)
      exact .inr ⟨fields, _, ⟨hl, rfl⟩, hrow⟩
  · rintro d ⟨-, hd⟩ -
    cases hd
    refine ⟨w.drawn, .event ev, le_rfl, hrow, (eventOf_fields hev).1, ?_⟩
    rw [hbeside.rows (.event ev) (List.cons_ne_nil _ _), hinsert]
    exact .inr rfl

end Event

/-- What `_handle_event` leaves. -/
theorem event_leaves (hc : w.Clean) (hf : Fresh E w) (data : Json) :
    Leaves E w .event data (handleEvent E data w).2 := by
  obtain ⟨redis, hrun⟩ := handleEvent_eq (E := E) w data
  have hset : ({ w with redis := redis } : World).Settled := ⟨hc.pending, hc.loaded⟩
  -- what is left when the handler stops before it has a row
  have hnothing : ∀ n, (∀ d, ¬ TakesFrom w .event data d) →
      Leaves E w .event data { w with redis := redis, drawn := n } := fun n htakes =>
    leaves_settled ⟨hc.pending, hc.loaded⟩ (fun r hr hnew => absurd (hc.db ▸ hr) hnew)
      (fun d hd => absurd hd (htakes d)) id
  rw [hrun]
  cases hl : eventLimited w with
  | true =>
    refine hnothing w.drawn ?_
    rintro d ⟨hlimit, -⟩
    rw [hl] at hlimit
    cases hlimit
  | false =>
    rw [if_neg (by simp)]
    by_cases hobj : ∃ fields, data = .obj fields
    · obtain ⟨fields, rfl⟩ := hobj
      obtain ⟨ev, hev⟩ : ∃ ev, eventOf E (E.uuid4 w.drawn) w.clock w.device.id (.obj fields) = .ok ev :=
        ⟨_, rfl⟩
      have hrow : textRow E w (E.uuid4 w.drawn) fields .event = .ok (.event ev) := by
        rw [textRow, hev]
        rfl
      obtain ⟨hrefused, haccepted⟩ := reportEvent_run (E := E) hset hev
      cases hacc : E.driver.acceptsRow (.event ev) with
      | false =>
        rw [hrefused hacc]
        exact refused_leaves hc hf hl hev hrow hacc
      | true =>
        obtain ⟨effs, hrep⟩ := haccepted hacc
        rw [hrep]
        have hset' : (reported { w with redis := redis } ev effs).Settled := ⟨hc.pending, hc.loaded⟩
        refine reported_leaves hc hl hev hrow
          (show Beside (reported { w with redis := redis } ev effs) _ from ?_)
        split
        · exact createAlert_beside hset' _ _ _
        · exact Beside.refl hset'
    · have herr : (reportEvent E w.device data { w with redis := redis }).2 =
          { w with redis := redis, drawn := w.drawn + 1 } := by
        cases data with
        | obj fields => exact absurd ⟨fields, rfl⟩ hobj
        | _ => rfl
      rw [herr]
      refine hnothing _ ?_
      rintro d ⟨-, hd⟩
      exact hobj ⟨d, hd⟩

/-- A version, cut at the width of its column. -/
theorem withVersion_within (hstr : ∀ s, E.str (.str s) = s) {v : Json}
    (hv : v = .null ∨ ∃ s, v = .str s ∧ PlainText s) (x : Device) :
    withVersion E v x = x ∨ ∃ s, withVersion E v x = { x with agentVersion := some s } ∧
      PlainText s ∧ s.length ≤ 50 := by
  rw [withVersion]
  split
  · next htruthy =>
    rcases hv with rfl | ⟨s, rfl, hplain⟩
    · cases htruthy
    · refine .inr ⟨_, rfl, ?_, ?_⟩
      · rw [hstr]
        exact plainText_take hplain 50
      · rw [String.length_ofList]
        exact List.length_take_le 50 _
  · exact .inl rfl

/-- What `_handle_agent_info` leaves. -/
theorem agentInfo_leaves (hD : E.driver.TakesTexts) (hstr : ∀ s, E.str (.str s) = s) (hc : w.Clean)
    {data : Json} (htext : TextPayload w .agentInfo data) :
    Leaves E w .agentInfo data (handleAgentInfo E data w).2 := by
  have hnothing : Leaves E w .agentInfo data w :=
    leaves_settled hc.toSettled (fun r hr hnew => absurd (hc.db ▸ hr) hnew)
      (fun _ _ hne => absurd rfl hne) id
  cases data with
  | obj d =>
    let f : TextField := ⟨"version", true, none, .null⟩
    have hrun : (handleAgentInfo E (.obj d) w).2 =
        { w with device := seen w.clock (withVersion E (f.value d) w.device) } := rfl
    have hvalue := value_textual (fields_default .agentInfo f (.head _)) (htext d rfl f (.head _))
    rw [hrun]
    have hrows : ∀ dev : Device, ∀ r, ({ w with device := dev } : World).view.HasRow r →
        w.committed.HasRow r := by
      intro dev r hr
      rw [view_hasRow_iff] at hr
      rw [← hc.db]
      exact hr.resolve_right fun h => List.not_mem_nil (hc.pending ▸ h)
    refine ⟨fun r hr hnew => absurd (hrows _ r hr) hnew, fun _ _ hne => absurd rfl hne, fun h => ?_,
      fun _ => ?_⟩
    · rcases withVersion_within hstr hvalue w.device with heq | ⟨s, heq, -, hlen⟩
      · rw [heq]
        exact ⟨h.agentVersion, h.ipAddress⟩
      · rw [heq]
        refine ⟨?_, h.ipAddress⟩
        rintro _ ⟨⟩
        exact hlen
    · have hdevice : deviceAccepted E (seen w.clock (withVersion E (f.value d) w.device)) w.loaded = true := by
        rw [deviceAccepted]
        rcases withVersion_within hstr hvalue w.device with heq | ⟨s, heq, hplain, hlen⟩
        · rw [heq, hc.loaded]
          exact Bool.or_eq_true_iff.mpr (.inl (beq_self_eq_true _))
        · rw [heq]
          exact Bool.or_eq_true_iff.mpr (.inr (hD.string 50 s hplain hlen))
      rw [flushAccepted, hdevice, Bool.and_true, hc.pending]
      rfl
  | _ => exact hnothing

/-- What each of the five handlers leaves. -/
theorem textHandler_leaves (hD : E.driver.TakesTexts) (hstr : ∀ s, E.str (.str s) = s) (hc : w.Clean)
    (hf : Fresh E w) {m : TextMessage} {data : Json} (htext : TextPayload w m data) :
    Leaves E w m data (textHandler E m data w).2 := by
  cases m with
  | event => exact event_leaves hc hf data
  | software => exact software_leaves hc hf data
  | networkInfo => exact networkInfo_leaves hc hf data
  | sshKeys => exact sshKeys_leaves hc hf data
  | agentInfo => exact agentInfo_leaves hD hstr hc htext

/-! ## The bounds -/

/-- A row whose columns hold is there for a short dict only. -/
theorem fits_of_rows (hstr : ∀ s, E.str (.str s) = s) (hf : Fresh E w) {m : TextMessage} {data : Json}
    (htext : TextPayload w m data) (hleaves : Leaves E w m data (textHandler E m data w).2)
    (hrows : ∀ r, Adds E w m data r → r.Within) : Fits w m data := by
  intro d hd
  by_cases hm : m = .agentInfo
  · subst hm
    -- the version of an agent is not bounded by the message
    intro f hfield n hn
    obtain rfl := List.mem_singleton.mp hfield
    cases hn
  · obtain ⟨k, r, hk, hrow, hid, hin⟩ := hleaves.dicts d hd hm
    exact (textRow_holds hstr hrow (htext d hd)).2.mp (hrows r ⟨hin, hf k hk r hid⟩)

/-- **Column bounds**: all columns hold of what an agent's message adds and changes, and the flush goes
    through, if and only if its texts are not wider than their columns.

    Field by field over the five handlers, with the width of the column from the models.  Of the texts of an event
    the message is cut, and the source at one character too many. -/
theorem bounds_hold_iff (hD : E.driver.TakesTexts) (hstr : ∀ s, E.str (.str s) = s) (hc : w.Clean)
    (hf : Fresh E w) {m : TextMessage} {data : Json} (htext : TextPayload w m data) :
    BoundsHold E w m data ↔ Fits w m data := by
  have hleaves := textHandler_leaves hD hstr hc hf htext
  refine ⟨fun h => fits_of_rows hstr hf htext hleaves h.rows, fun h => ?_⟩
  have hrow : ∀ r, Adds E w m data r → r.Textual ∧ r.Within := by
    rintro r ⟨hin, hnew⟩
    rcases hleaves.rows r hin hnew with hcols | ⟨d, id, hd, hr⟩
    · rw [Row.Textual, Row.Within, hcols]
      exact ⟨nofun, nofun⟩
    · obtain ⟨htextual, hwithin⟩ := textRow_holds hstr hr (htext d hd)
      exact ⟨htextual, hwithin.mpr (h d hd)⟩
  refine ⟨fun r hr => (hrow r hr).2, hleaves.device, fun hrest => hleaves.flush fun r hin hnew => ?_⟩
  obtain ⟨htextual, hwithin⟩ := hrow r ⟨hin, hnew⟩
  exact hD.acceptsRow htextual (hrest r ⟨hin, hnew⟩) hwithin

/-! ## A report with a source -/

/-- A report that has a source, and nothing else. -/
def reportOf (source : String) : Json := .obj [("source", .str source)]

theorem reportOf_typed {source : String} (h : PlainText source) (w : World) :
    TextPayload w .event (reportOf source) := by
  rintro d ⟨-, ⟨⟩⟩
  simp only [TextMessage.fields, List.forall_mem_cons]
  refine ⟨nofun, fun v hv => ?_, nofun, nofun⟩
  obtain rfl : Json.str source = v := Option.some.inj hv
  exact .inr ⟨source, rfl, h⟩

/-- A report fits exactly if its source has at most 255 characters. -/
theorem reportOf_fits_iff (source : String) {w : World} (hl : eventLimited w = false) :
    Fits w .event (reportOf source) ↔ source.length ≤ 255 := by
  constructor
  · intro h
    exact h _ ⟨hl, rfl⟩ sourceField (.tail _ (.head _)) 255 rfl source rfl
  · rintro h d ⟨-, ⟨⟩⟩
    simp only [TextMessage.fields, List.forall_mem_cons]
    refine ⟨fun _ hn _ _ => ?_, fun n hn s hs => ?_, fun n hn s hs => ?_, List.forall_mem_nil _⟩
    · cases hn
    · cases hs
      cases hn
      exact h
    · cases hs

/-- A driver that checks types and lengths takes texts. -/
theorem typed_takesTexts : Driver.typed.TakesTexts where
  string n s hplain hlen := by
    simp only [Driver.typed, Bool.and_eq_true, decide_eq_true_eq, Bool.not_eq_true', hlen, true_and]
    simpa [PlainText] using hplain
  text s hplain := by
    simp only [Driver.typed, Bool.not_eq_true']
    simpa [PlainText] using hplain

/-- A device and nothing reported yet. -/
def silentDevice : World := .start { Db.empty with devices := [.sample 1] } (.sample 1)

theorem silentDevice_fresh : Fresh Env.sample silentDevice := by
  intro k _ r _ hrow
  cases r <;> cases hrow

/-- A report of the SSH daemon is stored. -/
theorem bounds_hold_sshd : BoundsHold Env.sample silentDevice .event (reportOf "sshd") := by
  have hplain : PlainText "sshd" := by
    rw [PlainText]
    decide
  refine (bounds_hold_iff typed_takesTexts (fun _ => rfl) (World.start_clean _ _) silentDevice_fresh
    (reportOf_typed hplain _)).mpr ?_
  exact (reportOf_fits_iff "sshd" rfl).mpr (by decide)

/-- A source of 256 characters: `_truncate` leaves it alone, and its column has no room for it. -/
theorem source_too_long :
    let data := reportOf (String.ofList (List.replicate 256 'a'))
    TextPayload silentDevice .event data ∧ ¬ BoundsHold Env.sample silentDevice .event data := by
  have hplain : PlainText (String.ofList (List.replicate 256 'a')) := by
    rw [PlainText, String.toList_ofList]
    exact fun h => absurd (List.eq_of_mem_replicate h) (by decide)
  have htext := reportOf_typed hplain silentDevice
  refine ⟨htext, fun h => ?_⟩
  have hfits := fits_of_rows (fun _ => rfl) silentDevice_fresh htext
    (event_leaves (World.start_clean _ _) silentDevice_fresh _) h.rows
  rw [reportOf_fits_iff _ rfl, String.length_ofList, List.length_replicate] at hfits
  omega

end Server

end Dtsys
