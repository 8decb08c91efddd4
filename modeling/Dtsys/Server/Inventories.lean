/-
  THE FULL-REPLACE INVENTORIES: software, SSH keys, network interfaces.

  Each of the three handlers DELETES the rows of the device and then adds one row per element of a
  list, taking the element apart as it goes.  A payload of the wrong shape raises in the middle, and
  what the tear-down commits is the deletion and the rows the loop had added before it stopped.

  * `LoopRun` — what the loop leaves: the rows of the elements in front of the bad one.
  * `TornItems` — when that is accepted by the database and is not what was there before.

  1. The loops: `addAll_rows` and `addInterfaces_rows`, by induction over the elements; an element either
     gives a row, or stops the loop there (`addAll_raises_iff`).
  2. A row whose values the database does not take is pending until the flush, which then fails with all
     the others (`Built.accepted_iff`).
  3. The handlers: `spoils_items_iff` for the two that only add rows, and `networkWritten_iff` for the
     interfaces, which also choose the addresses of the device.

  The deletion matters by itself: a bad first element leaves the device without an inventory, provided it
  had one (`filter_ne_iff`).
-/
import Dtsys.Server.Teardown
import Dtsys.Server.Scope

namespace Dtsys

namespace Server

variable {E : Env} {w : World}

/-! ## Loops that add one row per element -/

/-- `isinstance(v, dict)`. -/
def isDict : Json → Bool
  | .obj _ => true
  | _ => false

/-- A row constructor of the handlers: it builds a row with the id it draws from every dict and from
    nothing else, and the id is not among the values the agent chose. -/
structure Builder (row : Uuid → Json → Except PyErr Row) : Prop where
  fails : ∀ x id, isDict x = false → ∃ e, row id x = .error e
  builds : ∀ x id, isDict x = true → ∃ r, row id x = .ok r ∧ r.id = id
  columns : ∀ x id id' r r', row id x = .ok r → row id' x = .ok r' → r.columns = r'.columns

/-- A row read off the keys of a dict, where the id fills the id column only. -/
theorem Builder.of_dict {row : Uuid → Json → Except PyErr Row}
    (hfail : ∀ x id, isDict x = false → ∃ e, row id x = .error e)
    (hdict : ∀ fields id id', ∃ r r', row id (.obj fields) = .ok r ∧
      row id' (.obj fields) = .ok r' ∧ r.id = id ∧ r.columns = r'.columns) : Builder row where
  fails := hfail
  builds x id hx := by
    cases x with
    | obj fields =>
      obtain ⟨r, -, hr, -, hid, -⟩ := hdict fields id id
      exact ⟨r, hr, hid⟩
    | _ => cases hx
  columns x id id' r r' h h' := by
    cases hx : isDict x with
    | false =>
      obtain ⟨e, he⟩ := hfail x id hx
      rw [he] at h
      cases h
    | true =>
      cases x with
      | obj fields =>
        obtain ⟨s, s', hs, hs', -, hcols⟩ := hdict fields id id'
        obtain rfl : s = r := Except.ok.inj (hs.symm.trans h)
        obtain rfl : s' = r' := Except.ok.inj (hs'.symm.trans h')
        exact hcols
      | _ => cases hx

/-- A package is made into a row if it is an object. -/
theorem builder_softwareRow (d : Uuid) : Builder (softwareRow d) :=
  .of_dict (fun x _ hx => by cases x <;> first | exact ⟨_, rfl⟩ | cases hx)
    fun _ _ _ => ⟨_, _, rfl, rfl, rfl, rfl⟩

theorem builder_sshKeyRow (d : Uuid) : Builder (sshKeyRow d) :=
  .of_dict (fun x _ hx => by cases x <;> first | exact ⟨_, rfl⟩ | cases hx)
    fun _ _ _ => ⟨_, _, rfl, rfl, rfl, rfl⟩

theorem builder_networkRow (d : Uuid) : Builder (networkRow d) :=
  .of_dict (fun x _ hx => by cases x <;> first | exact ⟨_, rfl⟩ | cases hx)
    fun _ _ _ => ⟨_, _, rfl, rfl, rfl, rfl⟩

/-- The elements whose row has been added when a loop over `xs` ends: it stops at the first element
    that is no dict, and after the first one that is not `ok`. -/
def added (ok : Json → Bool) : List Json → List Json
  | [] => []
  | x :: xs => if isDict x then x :: (if ok x then added ok xs else []) else []

/-- The rows `rs` are those of the elements `xs`, with ids drawn from `k` on. -/
def Built (E : Env) (row : Uuid → Json → Except PyErr Row) (k : Nat) (xs : List Json)
    (rs : List Row) : Prop :=
  List.Forall₂ (fun x r => ∃ n, k ≤ n ∧ row (E.uuid4 n) x = .ok r ∧ r.id = E.uuid4 n) xs rs

/-- Ids that are drawn later are drawn. -/
theorem Built.mono {row : Uuid → Json → Except PyErr Row} {k k' : Nat} {xs : List Json}
    {rs : List Row} (h : Built E row k' xs rs) (hk : k ≤ k') : Built E row k xs rs := by
  refine List.Forall₂.imp ?_ h
  rintro x r ⟨n, hn, hrow⟩
  exact ⟨n, hk.trans hn, hrow⟩

/-- The outcome of such a loop: it raises iff some element is not `ok`, and then the rows of the
    elements before are waiting in the session. -/
structure LoopRun (E : Env) (row : Uuid → Json → Except PyErr Row) (ok : Json → Bool)
    (xs : List Json) {α : Type} (w : World) (out : Except PyErr α × World) : Prop where
  raises : (∃ e, out.1 = .error e) ↔ ∃ x ∈ xs, ok x = false
  rows : ∀ e, out.1 = .error e → ∃ rs n, Built E row w.drawn (added ok xs) rs ∧
    out.2 = { w with pending := w.pending ++ rs, drawn := n }

/-- Setting attributes after the loop changes nothing about how it raises. -/
theorem LoopRun.bind_modify {row : Uuid → Json → Except PyErr Row} {ok : Json → Bool}
    {xs : List Json} {α : Type} {x : Server α} (h : LoopRun E row ok xs w (x w))
    (f : α → World → World) : LoopRun E row ok xs w ((x >>= fun a => Act.modify (f a)) w) := by
  rcases hx : x w with ⟨e | a, w'⟩
  · rw [Act.bind_of_error hx]
    rw [hx] at h
    exact ⟨⟨fun _ => h.raises.mp ⟨e, rfl⟩, fun _ => ⟨e, rfl⟩⟩, fun _ _ => h.rows e rfl⟩
  · rw [Act.bind_of_ok hx]
    rw [hx] at h
    refine ⟨⟨?_, fun hbad => ?_⟩, ?_⟩
    · rintro ⟨e, he⟩
      cases he
    · obtain ⟨e, he⟩ := h.raises.mpr hbad
      cases he
    · intro e he
      cases he

theorem addAll_cons_ok {row : Uuid → Json → Except PyErr Row} {x : Json} {r : Row} (xs : List Json)
    (h : row (E.uuid4 w.drawn) x = .ok r) : addAll E row (x :: xs) w =
      addAll E row xs { w with drawn := w.drawn + 1, pending := w.pending ++ [r] } := by
  have hone : (do
      let id ← newId E
      let r ← Act.ofExcept (row id x)
      add r : Server Unit) w =
        (.ok (), { w with drawn := w.drawn + 1, pending := w.pending ++ [r] }) := by
    rw [newId_bind, h]
    rfl
  exact Act.bind_of_ok hone

/-- An element that is no object ends the loop. -/
theorem addAll_cons_error {row : Uuid → Json → Except PyErr Row} {x : Json} {e : PyErr}
    (xs : List Json) (h : row (E.uuid4 w.drawn) x = .error e) :
    addAll E row (x :: xs) w = (.error e, { w with drawn := w.drawn + 1 }) := by
  have hone : (do
      let id ← newId E
      let r ← Act.ofExcept (row id x)
      add r : Server Unit) w = (.error e, { w with drawn := w.drawn + 1 }) := by
    rw [newId_bind, h]
    rfl
  exact Act.bind_of_error hone

/-- The rows a loop has added, whether it raises or returns. -/
theorem addAll_rows {row : Uuid → Json → Except PyErr Row} (hb : Builder row) : ∀ (xs : List Json)
    (w : World), ∃ rs n, Built E row w.drawn (added isDict xs) rs ∧
      (addAll E row xs w).2 = { w with pending := w.pending ++ rs, drawn := n } := by
  intro xs
  induction xs with
  | nil => exact fun w => ⟨[], w.drawn, .nil, by simp [addAll]⟩
  | cons x xs ih =>
    intro w
    cases hx : isDict x with
    | false =>
      -- the loop stops here: an id has been drawn, no row added
      obtain ⟨e, he⟩ := hb.fails x (E.uuid4 w.drawn) hx
      rw [addAll_cons_error xs he]
      refine ⟨[], w.drawn + 1, ?_, ?_⟩
      · rw [added, hx]
        exact .nil
      · simp
    | true =>
      obtain ⟨r, hr, hid⟩ := hb.builds x (E.uuid4 w.drawn) hx
      rw [addAll_cons_ok xs hr]
      obtain ⟨rs, n, hbuilt, hout⟩ := ih { w with drawn := w.drawn + 1, pending := w.pending ++ [r] }
      refine ⟨r :: rs, n, ?_, ?_⟩
      · rw [added, hx]
        exact .cons ⟨w.drawn, le_rfl, hr, hid⟩ (hbuilt.mono (Nat.le_succ _))
      · simpa using hout

/-- The loop raises exactly if an element is no object. -/
theorem addAll_raises_iff {row : Uuid → Json → Except PyErr Row} (hb : Builder row) :
    ∀ (xs : List Json) (w : World),
      (∃ e, (addAll E row xs w).1 = .error e) ↔ ∃ x ∈ xs, isDict x = false := by
  intro xs
  induction xs with
  | nil => intro w; simp [addAll]
  | cons x xs ih =>
    intro w
    cases hx : isDict x with
    | false =>
      obtain ⟨e, he⟩ := hb.fails x (E.uuid4 w.drawn) hx
      rw [addAll_cons_error xs he]
      exact ⟨fun _ => ⟨x, List.mem_cons_self, hx⟩, fun _ => ⟨e, rfl⟩⟩
    | true =>
      obtain ⟨r, hr, -⟩ := hb.builds x (E.uuid4 w.drawn) hx
      rw [addAll_cons_ok xs hr]
      simpa [hx] using ih { w with drawn := w.drawn + 1, pending := w.pending ++ [r] }

/-- **The loop** of the packages and of the keys. -/
theorem addAll_run {row : Uuid → Json → Except PyErr Row} (hb : Builder row) (xs : List Json)
    (w : World) : LoopRun E row isDict xs w (addAll E row xs w) :=
  ⟨addAll_raises_iff hb xs w, fun _ _ => addAll_rows hb xs w⟩

/-- An interface is all right if it is a dict whose `ipv4` can be iterated. -/
def interfaceOk (iface : Json) : Bool :=
  match addressList iface "ipv4" with
  | .ok v => match v.iter with
    | .ok _ => true
    | .error _ => false
  | .error _ => false

theorem isDict_of_interfaceOk {x : Json} (h : isDict x = false) : interfaceOk x = false := by
  cases x <;> first | rfl | cases h

/-- An object has a list of addresses, or none. -/
theorem addressList_dict {x : Json} (h : isDict x = true) (key : String) :
    ∃ v, addressList x key = .ok v := by
  cases x <;> first | exact ⟨_, rfl⟩ | cases h

/-- One round of the loop over the interfaces: an element that is no dict stops it, one with a bad
    address list stops it when its row has been added. -/
theorem addInterfaces_cons (d : Uuid) (acc : Option Ipv4 × Option Ipv4) (x : Json) (xs : List Json)
    (w : World) :
    (isDict x = false ∧ ∃ e, addInterfaces E d acc (x :: xs) w =
      (.error e, { w with drawn := w.drawn + 1 })) ∨
    ∃ r, isDict x = true ∧ networkRow d (E.uuid4 w.drawn) x = .ok r ∧ r.id = E.uuid4 w.drawn ∧
      ((interfaceOk x = false ∧ ∃ e, addInterfaces E d acc (x :: xs) w =
        (.error e, { w with drawn := w.drawn + 1, pending := w.pending ++ [r] })) ∨
      (interfaceOk x = true ∧ ∃ acc', addInterfaces E d acc (x :: xs) w =
        addInterfaces E d acc' xs { w with drawn := w.drawn + 1, pending := w.pending ++ [r] })) := by
  have hround : addInterfaces E d acc (x :: xs) w = (do
      let r ← Act.ofExcept (networkRow d (E.uuid4 w.drawn) x)
      add r
      let ipv4 ← Act.ofExcept (addressList x "ipv4")
      let addresses ← Act.ofExcept ipv4.iter
      addInterfaces E d (chooseIp acc addresses) xs) { w with drawn := w.drawn + 1 } := rfl
  rw [hround]
  cases hx : isDict x with
  | false =>
    obtain ⟨e, he⟩ := (builder_networkRow d).fails x (E.uuid4 w.drawn) hx
    rw [he]
    exact .inl ⟨rfl, e, rfl⟩
  | true =>
    obtain ⟨r, hr, hid⟩ := (builder_networkRow d).builds x (E.uuid4 w.drawn) hx
    obtain ⟨v, hv⟩ := addressList_dict hx "ipv4"
    refine .inr ⟨r, rfl, hr, hid, ?_⟩
    simp only [hr, hv, Act.ofExcept_ok_bind, add, Act.modify_bind]
    cases hiter : v.iter with
    | error e => exact .inl ⟨by simp [interfaceOk, hv, hiter], e, rfl⟩
    | ok addresses => exact .inr ⟨by simp [interfaceOk, hv, hiter], chooseIp acc addresses, rfl⟩

/-- The loop over the interfaces adds the rows of those in front of the first that raises. -/
theorem addInterfaces_rows (d : Uuid) : ∀ (xs : List Json) (acc : Option Ipv4 × Option Ipv4)
    (w : World), ∃ rs n, Built E (networkRow d) w.drawn (added interfaceOk xs) rs ∧
      (addInterfaces E d acc xs w).2 = { w with pending := w.pending ++ rs, drawn := n } := by
  intro xs
  induction xs with
  | nil => exact fun acc w => ⟨[], w.drawn, .nil, by simp [addInterfaces]⟩
  | cons x xs ih =>
    intro acc w
    rcases addInterfaces_cons (E := E) d acc x xs w with
      ⟨hx, e, hrun⟩ | ⟨r, hx, hr, hid, ⟨hok, e, hrun⟩ | ⟨hok, acc', hrun⟩⟩
    · refine ⟨[], w.drawn + 1, ?_, ?_⟩
      · rw [added, hx]
        exact .nil
      · rw [hrun]
        simp
    · -- the row is already waiting when its address list turns out not to be a list
      refine ⟨[r], w.drawn + 1, ?_, by rw [hrun]⟩
      simp only [added, hx, hok]
      exact .cons ⟨w.drawn, le_rfl, hr, hid⟩ .nil
    · obtain ⟨rs, n, hbuilt, hout⟩ :=
        ih acc' { w with drawn := w.drawn + 1, pending := w.pending ++ [r] }
      refine ⟨r :: rs, n, ?_, ?_⟩
      · simp only [added, hx, hok]
        exact .cons ⟨w.drawn, le_rfl, hr, hid⟩ (hbuilt.mono (Nat.le_succ _))
      · rw [hrun]
        simpa using hout

/-- It raises exactly if one of them does. -/
theorem addInterfaces_raises_iff (d : Uuid) : ∀ (xs : List Json) (acc : Option Ipv4 × Option Ipv4)
    (w : World), (∃ e, (addInterfaces E d acc xs w).1 = .error e) ↔ ∃ x ∈ xs, interfaceOk x = false := by
  intro xs
  induction xs with
  | nil => intro acc w; simp [addInterfaces]
  | cons x xs ih =>
    intro acc w
    rcases addInterfaces_cons (E := E) d acc x xs w with
      ⟨hx, e, hrun⟩ | ⟨r, -, -, -, ⟨hok, e, hrun⟩ | ⟨hok, acc', hrun⟩⟩
    · rw [hrun]
      exact ⟨fun _ => ⟨x, List.mem_cons_self, isDict_of_interfaceOk hx⟩, fun _ => ⟨e, rfl⟩⟩
    · rw [hrun]
      exact ⟨fun _ => ⟨x, List.mem_cons_self, hok⟩, fun _ => ⟨e, rfl⟩⟩
    · rw [hrun]
      simpa [hok] using ih acc' { w with drawn := w.drawn + 1, pending := w.pending ++ [r] }

/-- **The loop** of the interfaces. -/
theorem addInterfaces_run (d : Uuid) (xs : List Json) (acc : Option Ipv4 × Option Ipv4) (w : World) :
    LoopRun E (networkRow d) interfaceOk xs w (addInterfaces E d acc xs w) :=
  ⟨addInterfaces_raises_iff d xs acc w, fun _ _ => addInterfaces_rows d xs acc w⟩

/-! ## The full-replace inventories -/

/-- The driver takes the row of an element. -/
def RowAccepted (E : Env) (row : Uuid → Json → Except PyErr Row) (x : Json) : Prop :=
  ∀ id r, row id x = .ok r → E.driver.acceptsRow r = true

section Built

variable {row : Uuid → Json → Except PyErr Row} {xs : List Json} {rs : List Row} {k : Nat}

/-- The database takes all rows exactly if it takes that of each element. -/
theorem Built.accepted_iff (hb : Builder row) (h : Built E row k xs rs) :
    rs.all E.driver.acceptsRow = true ↔ ∀ x ∈ xs, RowAccepted E row x := by
  induction h with
  | nil => simp
  | @cons x r xs rs hxr _ ih =>
    obtain ⟨n, -, hrow, -⟩ := hxr
    have hone : E.driver.acceptsRow r = true ↔ RowAccepted E row x := by
      refine ⟨fun hacc id r' hr' => ?_, fun hacc => hacc _ r hrow⟩
      unfold Driver.acceptsRow at hacc ⊢
      rwa [hb.columns x id (E.uuid4 n) r' r hr' hrow]
    rw [List.all_cons, Bool.and_eq_true, hone, ih, List.forall_mem_cons]

theorem Built.new (hf : Fresh E w) (h : Built E row w.drawn xs rs) :
    ∀ r ∈ rs, ¬ w.committed.HasRow r := by
  induction h with
  | nil => simp
  | cons hxr _ ih =>
    obtain ⟨n, hn, -, hid⟩ := hxr
    exact List.forall_mem_cons.mpr ⟨hf n hn _ hid, ih⟩

/-- No rows, and no elements. -/
theorem Built.nil_iff (h : Built E row k xs rs) : rs = [] ↔ xs = [] := by
  rw [← List.length_eq_zero_iff, ← List.length_eq_zero_iff, List.Forall₂.length_eq h]

end Built

/-- A full replace that is torn: the payload is not a list of good elements, and what was deleted
    or added before that showed is accepted and makes a difference. -/
def TornItems (E : Env) (row : Uuid → Json → Except PyErr Row) (ok : Json → Bool)
    (deleted : Prop) : Except PyErr (List Json) → Prop
  | .error _ => deleted
  | .ok xs => (∃ x ∈ xs, ok x = false) ∧ (∀ x ∈ added ok xs, RowAccepted E row x) ∧
      (deleted ∨ added ok xs ≠ [])

/-- What a handler has written before its loop: the DELETE, and attributes of the device. -/
def beforeLoop (w : World) (base : Db) (device : Device) : World :=
  { w with db := base, device := device }

/-- Deleting first, then reading the items, then adding: when that spoils the inventory. -/
theorem spoils_items_iff {row : Uuid → Json → Except PyErr Row} {ok : Json → Bool} {x : Server Unit}
    {base : Db} {items : Except PyErr (List Json)} {loop : List Json → Server Unit}
    (hc : w.Clean) (hf : Fresh E w) (hb : Builder row) (device : Device)
    (hver : device.agentVersion = w.device.agentVersion)
    (hloop : ∀ xs, LoopRun E row ok xs (beforeLoop w base device)
      (loop xs (beforeLoop w base device)))
    (hx : x w = (Act.ofExcept items >>= loop) (beforeLoop w base device)) :
    Spoils E x w ↔ TornItems E row ok ((beforeLoop w base device).view ≠ w.committed) items := by
  have hdev : deviceAccepted E device w.loaded = true := by
    simp [deviceAccepted, hver, hc.loaded]
  rw [Spoils, hx]
  -- the items are evaluated after the DELETE: a payload that is no list spoils it too
  cases items with
  | error e =>
    have hacc : flushAccepted E (beforeLoop w base device) = true := by
      simp [flushAccepted, beforeLoop, hc.pending, hdev]
    constructor
    · rintro ⟨_, -, -, hne⟩
      exact hne
    · intro hne
      exact ⟨e, rfl, hacc, hne⟩
  | ok xs =>
    rw [Act.ofExcept_ok_bind]
    obtain ⟨hraise, hrows⟩ := hloop xs
    -- at a raise the session holds the DELETE and the rows of `added ok xs`
    have hstate : ∀ e, (loop xs (beforeLoop w base device)).1 = .error e →
        ((flushAccepted E (loop xs (beforeLoop w base device)).2 = true ↔
          ∀ x ∈ added ok xs, RowAccepted E row x) ∧
        ((loop xs (beforeLoop w base device)).2.view ≠ w.committed ↔
          (beforeLoop w base device).view ≠ w.committed ∨ added ok xs ≠ [])) := by
      intro e he
      obtain ⟨rs, n, hbuilt, hout⟩ := hrows e he
      rw [hout]
      constructor
      · rw [← Built.accepted_iff hb hbuilt]
        simp [flushAccepted, beforeLoop, hc.pending, hdev]
      · have hview : ({ beforeLoop w base device with
            pending := (beforeLoop w base device).pending ++ rs, drawn := n } : World).view =
              (beforeLoop w base device).view.insertAll rs := by
          simp [World.view, beforeLoop, hc.pending, Db.insertAll]
        rw [hview, Db.insertAll_ne_iff (Built.new hf hbuilt), Ne, Ne, Ne, hbuilt.nil_iff]
    constructor
    · rintro ⟨e, he, hacc, hne⟩
      obtain ⟨hacc', hne'⟩ := hstate e he
      exact ⟨hraise.mp ⟨e, he⟩, hacc'.mp hacc, hne'.mp hne⟩
    · rintro ⟨hbad, hacc, hne⟩
      obtain ⟨e, he⟩ := hraise.mpr hbad
      obtain ⟨hacc', hne'⟩ := hstate e he
      exact ⟨e, he, hacc'.mpr hacc, hne'.mpr hne⟩

/-- `for x in data.get(key, [])`: the elements, or the exception. -/
def items (data : Json) (key : String) : Except PyErr (List Json) := do
  let v ← data.getD key (.arr [])
  v.iter

/-- The items of a message are what is iterated over. -/
theorem ofExcept_items {α : Type} (data : Json) (key : String) (k : List Json → Server α)
    (w : World) :
    (Act.ofExcept (data.getD key (.arr [])) >>= fun v => Act.ofExcept v.iter >>= k) w =
      (Act.ofExcept (items data key) >>= k) w := by
  rw [items]
  cases data.getD key (.arr []) with
  | error e => rfl
  | ok v => rfl

/-- A DELETE makes a difference iff it finds a row. -/
theorem filter_ne_iff {α : Type} {p : α → Bool} {l : List α} :
    l.filter p ≠ l ↔ ∃ a ∈ l, p a = false := by
  rw [Ne, List.filter_eq_self]
  simp

/-- A change of every row makes a difference iff it changes one. -/
theorem map_ne_iff {α : Type} {f : α → α} {l : List α} : l.map f ≠ l ↔ ∃ a ∈ l, f a ≠ a := by
  have hid : l.map f = l ↔ ∀ a ∈ l, f a = id a := by
    rw [← List.map_inj_left, List.map_id]
  rw [Ne, hid]
  simp

/-- The DELETE changes something exactly if there are rows. -/
theorem deleteSoftware_ne_iff (d : Uuid) (db : Db) :
    deleteSoftware d db ≠ db ↔ ∃ r ∈ db.software, r.deviceId = d := by
  have hfield : deleteSoftware d db = db ↔
      db.software.filter (fun r => r.deviceId != d) = db.software := by
    refine ⟨congrArg Db.software, fun h => ?_⟩
    rw [deleteSoftware, h]
  rw [Ne, hfield, ← Ne, filter_ne_iff]
  simp

/-- So does that of the keys. -/
theorem deleteSshKeys_ne_iff (d : Uuid) (db : Db) :
    deleteSshKeys d db ≠ db ↔ ∃ r ∈ db.sshKeys, r.deviceId = d := by
  have hfield : deleteSshKeys d db = db ↔
      db.sshKeys.filter (fun r => r.deviceId != d) = db.sshKeys := by
    refine ⟨congrArg Db.sshKeys, fun h => ?_⟩
    rw [deleteSshKeys, h]
  rw [Ne, hfield, ← Ne, filter_ne_iff]
  simp

/-- Nothing but the DELETE is written before the loop of a handler that leaves the device alone. -/
theorem beforeLoop_view (hc : w.Clean) (base : Db) : (beforeLoop w base w.device).view = base :=
  World.Settled.view_eq (w := beforeLoop w base w.device) ⟨hc.pending, hc.loaded⟩

/-- `_handle_software`: the DELETE, and the loop. -/
theorem handleSoftware_eq (h : w.Settled) (data : Json) : handleSoftware E data w =
    (Act.ofExcept (items data "packages") >>= addAll E (softwareRow w.device.id))
      (beforeLoop w (deleteSoftware w.device.id w.db) w.device) := by
  rw [handleSoftware, Act.read_bind, Act.bind_of_ok (execute_settled h _), ofExcept_items]
  rfl

/-- **Which software messages spoil something.** -/
theorem spoils_handleSoftware_iff (hc : w.Clean) (hf : Fresh E w) (data : Json) :
    Spoils E (handleSoftware E data) w ↔
      TornItems E (softwareRow w.device.id) isDict
        (∃ r ∈ w.committed.software, r.deviceId = w.device.id) (items data "packages") := by
  rw [spoils_items_iff hc hf (builder_softwareRow _) w.device rfl
    (fun xs => addAll_run (builder_softwareRow _) xs _) (handleSoftware_eq hc.toSettled data),
    beforeLoop_view hc, hc.db, deleteSoftware_ne_iff]

/-- `_handle_ssh_keys`: the same. -/
theorem handleSshKeys_eq (h : w.Settled) (data : Json) : handleSshKeys E data w =
    (Act.ofExcept (items data "keys") >>= addAll E (sshKeyRow w.device.id))
      (beforeLoop w (deleteSshKeys w.device.id w.db) w.device) := by
  rw [handleSshKeys, Act.read_bind, Act.bind_of_ok (execute_settled h _), ofExcept_items]
  rfl

/-- **Which key messages do.** -/
theorem spoils_handleSshKeys_iff (hc : w.Clean) (hf : Fresh E w) (data : Json) :
    Spoils E (handleSshKeys E data) w ↔
      TornItems E (sshKeyRow w.device.id) isDict
        (∃ r ∈ w.committed.sshKeys, r.deviceId = w.device.id) (items data "keys") := by
  rw [spoils_items_iff hc hf (builder_sshKeyRow _) w.device rfl
    (fun xs => addAll_run (builder_sshKeyRow _) xs _) (handleSshKeys_eq hc.toSettled data),
    beforeLoop_view hc, hc.db, deleteSshKeys_ne_iff]

/-- What `_handle_network_info` has written before its loop is not what was there. -/
def NetworkWritten (w : World) : Prop :=
  (∃ r ∈ w.committed.network, r.deviceId = w.device.id) ∨
    ∃ r ∈ w.committed.devices, World.syncDevice (seen w.clock w.device) w.device r ≠ r

/-- What has been written in front of the loop, of the interfaces and of the device. -/
theorem networkWritten_iff (hc : w.Clean) :
    (beforeLoop w (deleteNetwork w.device.id w.db) (seen w.clock w.device)).view ≠ w.committed ↔
      NetworkWritten w := by
  have hview : (beforeLoop w (deleteNetwork w.device.id w.db) (seen w.clock w.device)).view =
      { deleteNetwork w.device.id w.committed with
        devices := w.committed.devices.map (World.syncDevice (seen w.clock w.device) w.device) } := by
    simp [World.view, beforeLoop, hc.pending, hc.loaded, hc.db, Db.insertAll, deleteNetwork]
  have hfields : ({ deleteNetwork w.device.id w.committed with
      devices := w.committed.devices.map (World.syncDevice (seen w.clock w.device) w.device) } : Db)
        = w.committed ↔
      w.committed.network.filter (fun r => r.deviceId != w.device.id) = w.committed.network ∧
        w.committed.devices.map (World.syncDevice (seen w.clock w.device) w.device) =
          w.committed.devices := by
    constructor
    · intro h
      exact ⟨congrArg Db.network h, congrArg Db.devices h⟩
    · rintro ⟨hnet, hdev⟩
      rw [deleteNetwork, hnet, hdev]
  rw [NetworkWritten, hview, Ne, hfields, not_and_or, ← Ne, ← Ne, filter_ne_iff, map_ne_iff]
  simp

/-- `_handle_network_info` looks at the payload before the DELETE. -/
theorem handleNetworkInfo_error {data : Json} {e : PyErr}
    (hget : data.getD "interfaces" (.arr []) = .error e) : handleNetworkInfo E data w = (.error e, w) := by
  rw [handleNetworkInfo, Act.read_bind, hget]
  rfl

/-- The handler, from its loop on. -/
theorem handleNetworkInfo_eq (h : w.Settled) {data v : Json}
    (hget : data.getD "interfaces" (.arr []) = .ok v) : handleNetworkInfo E data w =
      (Act.ofExcept v.iter >>= fun xs => addInterfaces E w.device.id (none, none) xs >>= fun chosen =>
        setDevice (withAddress chosen))
        (beforeLoop w (deleteNetwork w.device.id w.db) (seen w.clock w.device)) := by
  rw [handleNetworkInfo, Act.read_bind, hget, Act.ofExcept_ok_bind, Act.bind_of_ok (execute_settled h _)]
  rfl

/-- **Which network messages spoil something.** -/
theorem spoils_handleNetworkInfo_iff (hc : w.Clean) (hf : Fresh E w) (data : Json) :
    Spoils E (handleNetworkInfo E data) w ↔
      ∃ v, data.getD "interfaces" (.arr []) = .ok v ∧
        TornItems E (networkRow w.device.id) interfaceOk (NetworkWritten w) v.iter := by
  cases hget : data.getD "interfaces" (.arr []) with
  | error e =>
    have hsame := handleNetworkInfo_error (E := E) (w := w) hget
    constructor
    · intro hs
      exact absurd hs (not_spoils_of_same hc (by rw [hsame]))
    · rintro ⟨v, hv, -⟩
      cases hv
  | ok v =>
    have hrun := handleNetworkInfo_eq (E := E) hc.toSettled hget
    have hiff := spoils_items_iff hc hf (builder_networkRow _) (seen w.clock w.device) rfl
      (fun xs => (addInterfaces_run w.device.id xs (none, none) _).bind_modify fun chosen w =>
        { w with device := withAddress chosen w.device }) hrun
    rw [hiff, networkWritten_iff hc]
    constructor
    · intro h
      exact ⟨v, rfl, h⟩
    · rintro ⟨_, hv, h⟩
      cases hv
      exact h

end Server

end Dtsys
