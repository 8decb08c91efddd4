/-
  THE EVENT STREAMS ON THE WIRE: the generators of `/events/stream` and `/events/activity-stream`, and the
  loops of `useSSE` and `useActivityStream` that read them.

  A payload is sent as `data: ` and its JSON, a pause as a comment; two newlines end a frame.  The JSON
  text is ASCII without control characters, so no newline of a payload can look like the end of a frame;
  the loop keeps what it has not seen the end of.

  1. `frame` — what the generator yields;
  2. `readLoop` — the loop, over any cut of the bytes into chunks; `TextDecoder` is a parameter;
  3. `alertObject` — the object `notify` publishes, the only one on the alert stream: it has the two
     texts a notification is made of, so `useSSE` does not raise on it;
  4. `sse_round_trip` — `JSON.parse` is handed the texts `json.dumps` produced.
-/
import Dtsys.Lib.Framing
import Dtsys.Server.Alerts
import Dtsys.Web.JsonText

namespace Dtsys

namespace Web

/-! ## The generator -/

/-- What the generator takes from its queue, or that 15 seconds have passed. -/
inductive StreamEvent where
  | payload (p : Payload)
  | timeout

/-- `payload.get("org_id") and payload.get("org_id") != str(current_org_id)`. -/
def ofOther (org : PyStr) (p : Payload) : Bool :=
  match p.fields.lookup (pyStr "org_id") with
  | some (.str s) => s != [] && s != org
  | some (.bool b) => b
  | _ => false

/-- A frame, without the two newlines that end it. -/
def frame (org : PyStr) : StreamEvent → Option (List Char)
  | .payload p => if ofOther org p then none else some ("data: ".toList ++ dumps p)
  | .timeout => some ": keep-alive".toList

/-- What the generator yields. -/
def streamText (org : PyStr) (events : List StreamEvent) : List Char :=
  (events.filterMap (frame org)).flatMap fun f => f ++ ['\n', '\n']

/-- The payload that is sent. -/
def StreamEvent.sent (org : PyStr) : StreamEvent → Option Payload
  | .payload p => if ofOther org p then none else some p
  | .timeout => none

/-- The payloads the generator sends. -/
def sent (org : PyStr) (events : List StreamEvent) : List Payload :=
  events.filterMap (StreamEvent.sent org)

/-! ## The read loops -/

/-- The bytes of a text. -/
def utf8 (text : List Char) : List UInt8 := text.flatMap String.utf8EncodeChar

/-- `new TextDecoder()`, of the browser. -/
structure TextDecoder where
  State : Type
  start : State
  /-- `decode(value, { stream: true })`. -/
  decode : State → List UInt8 → List Char × State

/-- The texts of the chunks, one after the other. -/
def TextDecoder.outputs (d : TextDecoder) : d.State → List (List UInt8) → List (List Char)
  | _, [] => []
  | st, value :: rest => (d.decode st value).1 :: d.outputs (d.decode st value).2 rest

/-- It decodes incrementally: however the bytes of an ASCII text are cut, their texts together are the
    text. -/
def TextDecoder.Incremental (d : TextDecoder) : Prop :=
  ∀ (text : List Char) (chunks : List (List UInt8)), (∀ c ∈ text, c.toNat < 0x80) →
    chunks.flatten = utf8 text → (d.outputs d.start chunks).flatten = text

/-- The variables of a read loop: the buffer, what `JSON.parse` was called with, and what the rest of the
    hook keeps. -/
structure Loop (σ : Type) where
  buffer : List Char
  parsed : List (List Char)
  app : σ

/-- The first line of a frame that begins with `data: `, without that. -/
def dataLine (chunk : List Char) : Option (List Char) :=
  ((Framing.splitOn ['\n'] chunk).find? fun line => "data: ".toList.isPrefixOf line).map
    fun line => line.drop 6

section

variable {σ : Type} (consume : List Char → σ → Option σ)

/-- The body of `for (const chunk of chunks)`; `consume` is what follows the data line, from `JSON.parse`
    on, and `none` an exception that leaves the loop. -/
def onChunk (s : Loop σ) (chunk : List Char) : Option (Loop σ) :=
  match dataLine chunk with
  | none => some s
  | some text =>
    (consume text s.app).map fun app => { s with parsed := s.parsed ++ [text], app := app }

/-- The body of the loop, once the value is decoded. -/
def onText (s : Loop σ) (text : List Char) : Option (Loop σ) :=
  let chunks := Framing.splitOn ['\n', '\n'] (s.buffer ++ text)
  -- `chunks.pop() ?? ''`
  let s := { s with buffer := chunks.getLast?.getD [] }
  chunks.dropLast.foldlM (onChunk consume) s

/-- The loop, until `done`. -/
def readLoop (d : TextDecoder) : d.State → Loop σ → List (List UInt8) → Option (Loop σ)
  | _, s, [] => some s
  | st, s, value :: rest =>
    (onText consume s (d.decode st value).1).bind fun s => readLoop d (d.decode st value).2 s rest

end

/-! ## What the hooks do with a text -/

/-- `useActivityStream`: a malformed event is ignored, the last twenty are kept. -/
def appendEvent (text : List Char) (events : List JsValue) : Option (List JsValue) :=
  match JsValue.parse text with
  | some payload => some ((events ++ [payload]).drop (events.length + 1 - 20))
  | none => some events

/-- `Notification.permission`, where there is such a thing. -/
inductive Permission where
  | undefined
  | denied
  | default
  | granted
  deriving DecidableEq

/-- `x === y` of two fields; two objects or arrays are never the same one. -/
def strictEq : Option JsValue → Option JsValue → Bool
  | none, none => true
  | some .null, some .null => true
  | some (.bool a), some (.bool b) => a == b
  | some (.num a), some (.num b) => a == b && a != .nan
  | some (.str a), some (.str b) => a == b
  | _, _ => false

/-- `useSSE`: a new alert goes in front; the notification needs the texts of two fields.  What is no
    object is no `Alert`; the streams carry none. -/
def showAlert (permission : Permission) (text : List Char) (alerts : List (List (JsStr × JsValue))) :
    Option (List (List (JsStr × JsValue))) :=
  match JsValue.parse text with
  | some (.obj alert) =>
    let alerts :=
      if alerts.any fun existing => strictEq (field "id" existing) (field "id" alert) then alerts
      else alert :: alerts
    -- `alert.severity.toUpperCase()`, `alert.alert_type.replace(..)`
    if permission = .granted && !(isText "severity" alert && isText "alert_type" alert) then none
    else some alerts
  | _ => none

/-! ## The loop over the frames -/

/-- `consume` takes the texts, whatever the hook holds. -/
def Takes {σ : Type} (consume : List Char → σ → Option σ) (texts : List (List Char)) : Prop :=
  ∀ text ∈ texts, ∀ app, (consume text app).isSome = true

section

variable {σ : Type} {consume : List Char → σ → Option σ}

/-- The frames of one round. -/
theorem onChunks_run : ∀ (chunks : List (List Char)) (s : Loop σ),
    Takes consume (chunks.filterMap dataLine) → ∃ app, chunks.foldlM (onChunk consume) s =
      some { s with parsed := s.parsed ++ chunks.filterMap dataLine, app := app } := by
  intro chunks
  induction chunks with
  | nil => exact fun s _ => ⟨s.app, by simp⟩
  | cons chunk chunks ih =>
    intro s htakes
    rw [List.foldlM_cons]
    cases hline : dataLine chunk with
    | none =>
      rw [List.filterMap_cons_none hline] at htakes ⊢
      have hchunk : onChunk consume s chunk = some s := by
        rw [onChunk, hline]
      rw [hchunk]
      exact ih s htakes
    | some text =>
      rw [List.filterMap_cons_some hline] at htakes ⊢
      obtain ⟨app, happ⟩ :=
        Option.isSome_iff_exists.mp (htakes text List.mem_cons_self s.app)
      have hchunk : onChunk consume s chunk =
          some { s with parsed := s.parsed ++ [text], app := app } := by
        rw [onChunk, hline]
        dsimp only
        rw [happ]
        rfl
      obtain ⟨app', hrest⟩ := ih { s with parsed := s.parsed ++ [text], app := app }
        fun t ht => htakes t (List.mem_cons_of_mem _ ht)
      refine ⟨app', ?_⟩
      rw [hchunk]
      refine hrest.trans ?_
      simp

/-- The texts of the decoder, one after the other. -/
theorem readLoop_eq (d : TextDecoder) : ∀ (chunks : List (List UInt8)) (st : d.State) (s : Loop σ),
    readLoop consume d st s chunks = (d.outputs st chunks).foldlM (onText consume) s := by
  intro chunks
  induction chunks with
  | nil => exact fun _ _ => rfl
  | cons value chunks ih =>
    intro st s
    rw [readLoop, TextDecoder.outputs, List.foldlM_cons]
    exact congrArg _ (funext fun s' => ih _ s')

variable (consume) in
/-- The loop is the reader of pieces. -/
theorem onTexts_run : ∀ (texts : List (List Char)) (s : Loop σ),
    Takes consume ((texts.foldl (Framing.feed ['\n', '\n']) ([], s.buffer)).1.filterMap dataLine) →
      ∃ app, texts.foldlM (onText consume) s = some
        { buffer := (texts.foldl (Framing.feed ['\n', '\n']) ([], s.buffer)).2
          parsed := s.parsed ++
            (texts.foldl (Framing.feed ['\n', '\n']) ([], s.buffer)).1.filterMap dataLine
          app := app } := by
  intro texts
  induction texts with
  | nil => exact fun s _ => ⟨s.app, by simp⟩
  | cons text texts ih =>
    intro s htakes
    let chunks := Framing.frames ['\n', '\n'] (s.buffer ++ text)
    let buffer := Framing.rest ['\n', '\n'] (s.buffer ++ text)
    have hfeed : (text :: texts).foldl (Framing.feed ['\n', '\n']) ([], s.buffer) =
        (chunks ++ (texts.foldl (Framing.feed ['\n', '\n']) ([], buffer)).1,
          (texts.foldl (Framing.feed ['\n', '\n']) ([], buffer)).2) :=
      Framing.feed_from _ texts chunks buffer
    rw [hfeed] at htakes ⊢
    dsimp only at htakes ⊢
    rw [List.filterMap_append] at htakes ⊢
    obtain ⟨app, hround⟩ := onChunks_run chunks { s with buffer := buffer }
      fun t ht => htakes t (List.mem_append_left _ ht)
    obtain ⟨app', hrest⟩ := ih
      { buffer := buffer, parsed := s.parsed ++ chunks.filterMap dataLine, app := app }
      fun t ht => htakes t (List.mem_append_right _ ht)
    refine ⟨app', ?_⟩
    rw [List.foldlM_cons]
    have htext : onText consume s text =
        some { buffer := buffer, parsed := s.parsed ++ chunks.filterMap dataLine, app := app } := hround
    rw [htext]
    refine hrest.trans ?_
    simp

end

/-! ## The frames of the generator -/

theorem not_newline_of_printable {l : List Char} (h : ∀ c ∈ l, Printable c) : '\n' ∉ l := by
  intro hin
  exact absurd (h _ hin) (by decide)

/-- A frame is printable. -/
theorem frame_printable {org : PyStr} {e : StreamEvent} {f : List Char} (h : frame org e = some f) :
    ∀ c ∈ f, Printable c := by
  have hdata : ∀ c ∈ "data: ".toList, Printable c := printable_of_all rfl
  have hpause : ∀ c ∈ ": keep-alive".toList, Printable c := printable_of_all rfl
  cases e with
  | timeout =>
    obtain rfl := Option.some.inj h
    exact hpause
  | payload p =>
    by_cases hother : ofOther org p = true
    · rw [frame, if_pos hother] at h
      cases h
    · rw [frame, if_neg hother] at h
      obtain rfl := Option.some.inj h
      intro c hc
      rcases List.mem_append.mp hc with hc | hc
      · exact hdata c hc
      · exact dumps_printable p c hc

/-- The stream is ASCII, so any chunking of the bytes decodes to the same text. -/
theorem streamText_ascii (org : PyStr) (events : List StreamEvent) :
    ∀ c ∈ streamText org events, c.toNat < 0x80 := by
  intro c hc
  obtain ⟨f, hf, hc⟩ := List.mem_flatMap.mp hc
  obtain ⟨e, -, he⟩ := List.mem_filterMap.mp hf
  rcases List.mem_append.mp hc with hc | hc
  · have := (frame_printable he c hc).2
    omega
  · obtain rfl : c = '\n' := by simpa using hc
    decide

/-- The data line of a frame is its payload. -/
theorem dataLine_frame (org : PyStr) (e : StreamEvent) :
    (frame org e).bind dataLine = (e.sent org).map dumps := by
  cases e with
  | timeout =>
    show dataLine ": keep-alive".toList = none
    decide
  | payload p =>
    by_cases hother : ofOther org p = true
    · rw [frame, StreamEvent.sent, if_pos hother, if_pos hother]
      rfl
    · have hframe : frame org (.payload p) = some ("data: ".toList ++ dumps p) := if_neg hother
      have hone : Framing.splitOn ['\n'] ("data: ".toList ++ dumps p) = ["data: ".toList ++ dumps p] :=
        Framing.splitOn_of_not_mem (not_newline_of_printable (frame_printable hframe))
      rw [hframe, StreamEvent.sent, if_neg hother]
      show dataLine ("data: ".toList ++ dumps p) = some (dumps p)
      rw [dataLine, hone]
      rfl

/-- The data lines carry the texts in order. -/
theorem texts_sent (org : PyStr) (events : List StreamEvent) :
    (events.filterMap (frame org)).filterMap dataLine = (sent org events).map dumps := by
  rw [sent, List.filterMap_filterMap, List.map_filterMap]
  exact List.filterMap_congr fun e _ => dataLine_frame org e

/-- **The loop reads the stream**, however it is cut. -/
theorem readLoop_run {σ : Type} {consume : List Char → σ → Option σ} {d : TextDecoder}
    (hd : d.Incremental) {org : PyStr} {events : List StreamEvent} {chunks : List (List UInt8)}
    (hcut : chunks.flatten = utf8 (streamText org events)) (app : σ)
    (htakes : Takes consume ((sent org events).map dumps)) :
    ∃ app', readLoop consume d d.start ⟨[], [], app⟩ chunks =
      some ⟨[], (sent org events).map dumps, app'⟩ := by
  have htext := hd _ chunks (streamText_ascii org events) hcut
  have hnewline : ∀ f ∈ events.filterMap (frame org), '\n' ∉ f := by
    intro f hf
    obtain ⟨e, -, he⟩ := List.mem_filterMap.mp hf
    exact not_newline_of_printable (frame_printable he)
  obtain ⟨hframes, hrest⟩ := Framing.cut_of_eq (Framing.splitOn_frames hnewline)
  have hfed : (d.outputs d.start chunks).foldl (Framing.feed ['\n', '\n']) ([], []) =
      (events.filterMap (frame org), []) := by
    rw [Framing.feed_chunks (List.cons_ne_nil _ _), htext]
    exact Prod.ext hframes hrest
  have hrun := onTexts_run consume (d.outputs d.start chunks) ⟨[], [], app⟩
  rw [hfed] at hrun
  dsimp only at hrun
  rw [texts_sent] at hrun
  rw [readLoop_eq]
  exact hrun htakes

/-! ## The round trip -/

/-- A payload with the two fields a notification is made of. -/
def IsAlert (p : Payload) : Prop := p.isText "severity" = true ∧ p.isText "alert_type" = true

/-- A page that appends what comes takes any text. -/
theorem appendEvent_takes (texts : List (List Char)) : Takes appendEvent texts := by
  intro text _ events
  rw [appendEvent]
  split
  · rfl
  · rfl

/-- The page of the alerts takes what `notify` publishes. -/
theorem showAlert_takes {permission : Permission} {ps : List Payload}
    (halert : permission = .granted → ∀ p ∈ ps, IsAlert p) :
    Takes (showAlert permission) (ps.map dumps) := by
  intro text htext alerts
  obtain ⟨p, hp, rfl⟩ := List.mem_map.mp htext
  have hshown : ¬ (permission = .granted &&
      !(isText "severity" p.parsed && isText "alert_type" p.parsed)) = true := by
    intro hraises
    rw [Bool.and_eq_true, decide_eq_true_eq] at hraises
    obtain ⟨hseverity, htype⟩ := halert hraises.1 p hp
    have hraised := hraises.2
    rw [isText_parsed rfl hseverity, isText_parsed rfl htype] at hraised
    cases hraised
  rw [showAlert, parse_dumps]
  dsimp only
  rw [if_neg hshown]
  rfl

theorem alertNames_distinct : (["id", "device_id", "device_hostname", "org_id", "alert_type", "severity",
    "message", "is_resolved", "created_at", "resolved_at"].map pyStr).Nodup := by
  decide +kernel

/-- The object `NotificationService.notify` publishes. -/
def alertObject (isoformat : Nat → String) (p : AlertPayload) : Payload :=
  let text := fun s : String => Scalar.str (pyStr s)
  { fields := [(pyStr "id", text p.id.str), (pyStr "device_id", text p.deviceId.str),
      (pyStr "device_hostname", text p.deviceHostname),
      (pyStr "org_id", match p.orgId with
        | some org => text org.str
        | none => .null),
      (pyStr "alert_type", text p.alertType.value), (pyStr "severity", text p.severity.value),
      (pyStr "message", text p.message), (pyStr "is_resolved", .bool p.isResolved),
      (pyStr "created_at", text (isoformat p.createdAt)),
      (pyStr "resolved_at", match p.resolvedAt with
        | some t => text (isoformat t)
        | none => .null)]
    distinct := alertNames_distinct }

/-- What is published on the alert stream has the two fields. -/
theorem alertObject_isAlert (isoformat : Nat → String) (p : AlertPayload) :
    IsAlert (alertObject isoformat p) :=
  ⟨rfl, rfl⟩

/-- What the generator of the alert stream takes from its queue: the objects `notify` published, and
    `none` where 15 seconds have passed. -/
def alertEvents (isoformat : Nat → String) (published : List (Option AlertPayload)) :
    List StreamEvent :=
  published.map fun
    | some p => .payload (alertObject isoformat p)
    | none => .timeout

/-- All that the alert stream sends are alerts. -/
theorem isAlert_of_sent {isoformat : Nat → String} {published : List (Option AlertPayload)}
    {org : PyStr} : ∀ p ∈ sent org (alertEvents isoformat published), IsAlert p := by
  intro p hp
  obtain ⟨e, he, hsent⟩ := List.mem_filterMap.mp hp
  obtain ⟨o, -, rfl⟩ := List.mem_map.mp he
  cases o with
  | none => cases hsent
  | some a =>
    by_cases hother : ofOther org (alertObject isoformat a) = true
    · rw [StreamEvent.sent, if_pos hother] at hsent
      cases hsent
    · rw [StreamEvent.sent, if_neg hother] at hsent
      cases hsent
      exact alertObject_isAlert isoformat a

/-- **The SSE framing round trip**: however the bytes are cut, `JSON.parse` is handed the texts
    `json.dumps` produced, in order and once each, and the buffer is empty.  `useActivityStream` and,
    as long as it shows no notifications, `useSSE` read any objects; with notifications `useSSE` reads
    what `notify` publishes.

    The text of a message has no raw newline, since `json.dumps` escapes control characters, so a line is a message,
    however the chunks fall (`Dtsys.Lib.Framing`).  What a page then does with the value decides whether the loop
    goes on: `Takes`. -/
theorem sse_round_trip {d : TextDecoder} (hd : d.Incremental) (org : PyStr) :
    (∀ events chunks, chunks.flatten = utf8 (streamText org events) → ∀ kept, ∃ kept',
      readLoop appendEvent d d.start ⟨[], [], kept⟩ chunks =
        some ⟨[], (sent org events).map dumps, kept'⟩) ∧
      (∀ events chunks, chunks.flatten = utf8 (streamText org events) →
        ∀ permission, permission ≠ .granted → ∀ alerts, ∃ alerts',
          readLoop (showAlert permission) d d.start ⟨[], [], alerts⟩ chunks =
            some ⟨[], (sent org events).map dumps, alerts'⟩) ∧
        ∀ isoformat published chunks,
          chunks.flatten = utf8 (streamText org (alertEvents isoformat published)) →
            ∀ permission alerts, ∃ alerts',
              readLoop (showAlert permission) d d.start ⟨[], [], alerts⟩ chunks =
                some ⟨[], (sent org (alertEvents isoformat published)).map dumps, alerts'⟩ := by
  refine ⟨fun events chunks hcut kept => ?_, fun events chunks hcut permission hnot alerts => ?_,
    fun isoformat published chunks hcut permission alerts => ?_⟩
  · exact readLoop_run hd hcut kept (appendEvent_takes _)
  · exact readLoop_run hd hcut alerts (showAlert_takes fun hgranted => absurd hgranted hnot)
  · exact readLoop_run hd hcut alerts (showAlert_takes fun _ => isAlert_of_sent)

/-- A decoder of ASCII texts. -/
def asciiDecoder : TextDecoder where
  State := Unit
  start := ()
  decode := fun _ value => (value.map fun b => Char.ofNat b.toNat, ())

theorem asciiDecoder_outputs : ∀ chunks : List (List UInt8),
    (asciiDecoder.outputs () chunks).flatten = chunks.flatten.map fun b => Char.ofNat b.toNat := by
  intro chunks
  induction chunks with
  | nil => rfl
  | cons value chunks ih =>
    show (value.map _ ++ (asciiDecoder.outputs () chunks).flatten) = _
    rw [ih, List.flatten_cons, List.map_append]

theorem asciiDecoder_incremental : asciiDecoder.Incremental := by
  have hone : ∀ n : Fin 0x80,
      (String.utf8EncodeChar (Char.ofNat n)).map (fun b => Char.ofNat b.toNat) = [Char.ofNat n] := by
    decide
  intro text chunks hascii hcut
  refine (asciiDecoder_outputs chunks).trans ?_
  rw [hcut]
  rw [utf8]
  clear hcut
  induction text with
  | nil => rfl
  | cons c text ih =>
    have hc := hone ⟨c.toNat, hascii c List.mem_cons_self⟩
    rw [Char.ofNat_toNat] at hc
    rw [List.flatMap_cons, List.map_append, hc, ih fun x hx => hascii x (List.mem_cons_of_mem _ hx)]
    rfl

/-- A crash; the message has line breaks and a letter that is not ASCII. -/
def crashAlert : AlertPayload where
  id := 1
  deviceId := 2
  deviceHostname := "kiosk"
  orgId := none
  alertType := .crash
  severity := .critical
  message := "arrêt\n\n"
  isResolved := false
  createdAt := 0
  resolvedAt := none

/-- Any other object, of the activity stream. -/
def greeting : Payload where
  fields := [(pyStr "message", .str (pyStr "grüß\ndich")), (pyStr "seen", .bool true),
    (pyStr "org_id", .null)]
  distinct := by decide

/-- An alert between two pauses, with notifications, and an object that is no alert, each one byte at
    a time. -/
theorem sse_round_trip_sample :
    (∃ alerts, readLoop (showAlert .granted) asciiDecoder () ⟨[], [], []⟩
        ((utf8 (streamText [] (alertEvents (fun _ => "1970-01-01T00:00:00+00:00")
          [none, some crashAlert, none]))).map fun b => [b]) =
      some ⟨[], [dumps (alertObject (fun _ => "1970-01-01T00:00:00+00:00") crashAlert)], alerts⟩) ∧
    ∃ kept, readLoop appendEvent asciiDecoder () ⟨[], [], []⟩
        ((utf8 (streamText [] [.payload greeting, .timeout])).map fun b => [b]) =
      some ⟨[], [dumps greeting], kept⟩ := by
  have hcut : ∀ bytes : List UInt8, (bytes.map fun b => [b]).flatten = bytes := fun bytes => by
    rw [← List.flatMap_def]
    exact List.flatMap_singleton' bytes
  obtain ⟨hactivity, -, halerts⟩ := sse_round_trip asciiDecoder_incremental []
  exact ⟨halerts _ [none, some crashAlert, none] _ (hcut _) .granted [],
    hactivity [.payload greeting, .timeout] _ (hcut _) []⟩

end Web

end Dtsys
