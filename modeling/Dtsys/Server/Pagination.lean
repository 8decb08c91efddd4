/-
  THE DEVICE LIST in pages (`list_devices`).

  Page `k` is a request of its own, with `skip = k * limit`.  The query has no ORDER BY, so each request
  has an order of its own: page `k` is read under `Q k`, and all that these have in common is what they
  select.  `readPages` is the first `n` answers.

  A page that has room for all the devices returns them all, in whatever order, and the next ones are
  empty.  With one device more, a request may put the first device of the page before it at the head of
  its own page (`later`): it is returned twice, and another one is missing (`pagination_exact_iff`).
-/
import Dtsys.Server.Reads

namespace Dtsys

/-- The devices an answer returns. -/
def Answer.items (a : Answer) : List Json :=
  match a.body with
  | .arr items => items
  | _ => []

namespace Reads

/-- The choices of the database for one request after the other; what a text matches is the same for
    all of them. -/
structure Orders (Q : Queries) where
  request : Nat → Queries
  ilike : ∀ k, (request k).ilike = Q.ilike

section

variable (E : Env) (Q : Queries) (org : Uuid) (limit : Int) (tag search : Option String) (T : Tables)

/-- The answers to the first `n` requests. -/
def readPages (O : Orders Q) : Nat → Except PyErr (List Answer)
  | 0 => .ok []
  | n + 1 => do
    let before ← readPages O n
    let answer ← listDevices E (O.request n) org (n * limit) limit tag search T
    pure (before ++ [answer])

/-- The devices of the organization that are not revoked and that the filters select. -/
def matching : Multiset DeviceRow := T.devices.filter fun d => listed Q org tag search d = true

/-- The first `n` answers: no device twice, and all of them once there is a place for each, with their
    number in `X-Total-Count`. -/
structure Complete (n : Nat) (answers : List Answer) : Prop where
  once : (answers.flatMap Answer.items : Multiset Json) ≤
    (matching Q org tag search T).map (deviceBody E T.connected)
  all : ((matching Q org tag search T).card : Int) ≤ n * limit →
    (answers.flatMap Answer.items : Multiset Json) =
      (matching Q org tag search T).map (deviceBody E T.connected)
  total : ((matching Q org tag search T).card : Int) ≤ n * limit →
    ∀ a ∈ answers, a.total = some (answers.flatMap Answer.items).length

/-- Pagination is exact: so it is for any choices of the database, as far as an offset goes. -/
def Exact : Prop :=
  ∀ (O : Orders Q) (n : Nat), (∀ k < n, (k : Int) * limit < 2 ^ 63) →
    ∃ answers, readPages E Q org limit tag search T O n = .ok answers ∧
      Complete E Q org limit tag search T n answers

end

variable {E : Env} {Q : Queries} {org : Uuid} {limit : Int} {tag search : Option String} {T : Tables}

/-! ## One page -/

/-- The filters only depend on what a text matches. -/
theorem Orders.selected (O : Orders Q) (k : Nat) :
    (T.devices.filter fun d => listed (O.request k) org tag search d = true) =
      matching Q org tag search T := by
  rw [matching]
  refine Multiset.filter_congr fun d _ => ?_
  unfold listed
  rw [O.ilike k]

/-- The answer to request `k`. -/
def answerOf (E : Env) (Q : Queries) (org : Uuid) (limit : Int) (tag search : Option String)
    (T : Tables) (O : Orders Q) (k : Nat) : Answer where
  total := some (matching Q org tag search T).card
  body := .arr (((((O.request k).rows (matching Q org tag search T)).drop (k * limit).toNat).take
    limit.toNat).map (deviceBody E T.connected))

/-- What `Query(ge=1, le=500)` lets through. -/
theorem limit_of_valid (hvalid : validPage 0 limit = .ok ()) : 1 ≤ limit ∧ limit ≤ 500 := by
  rw [validPage] at hvalid
  split at hvalid
  · next h => exact h.2
  · cases hvalid

/-- A page is what the database gives between its bounds. -/
theorem listDevices_page (hvalid : validPage 0 limit = .ok ()) (O : Orders Q) {k : Nat}
    (hk : (k : Int) * limit < 2 ^ 63) :
    listDevices E (O.request k) org (k * limit) limit tag search T =
      .ok (answerOf E Q org limit tag search T O k) := by
  have hlimit := limit_of_valid hvalid
  have hskip : 0 ≤ (k : Int) * limit := Int.mul_nonneg (Int.natCast_nonneg k) (by omega)
  have hpage : ∀ rows : List DeviceRow,
      page (k * limit) limit rows = .ok ((rows.drop (k * limit).toNat).take limit.toNat) :=
    fun rows => if_pos ⟨hskip, hk, by omega, by omega⟩
  rw [listDevices, validPage, if_pos ⟨hskip, hlimit⟩, O.selected k]
  simp only [hpage]
  rfl

/-- The first answers, one request after the other. -/
theorem readPages_run (hvalid : validPage 0 limit = .ok ()) (O : Orders Q) : ∀ n : Nat,
    (∀ k < n, (k : Int) * limit < 2 ^ 63) →
    readPages E Q org limit tag search T O n =
      .ok ((List.range n).map (answerOf E Q org limit tag search T O)) := by
  intro n
  induction n with
  | zero => exact fun _ => rfl
  | succ n ih =>
    intro hskips
    rw [readPages, ih fun k hk => hskips k (by omega),
      listDevices_page hvalid O (hskips n (Nat.lt_succ_self n)), List.range_succ, List.map_append]
    rfl

/-! ## All of the devices on one page -/

theorem items_answerOf (O : Orders Q) (k : Nat) : (answerOf E Q org limit tag search T O k).items =
    ((((O.request k).rows (matching Q org tag search T)).drop (k * limit).toNat).take
      limit.toNat).map (deviceBody E T.connected) := rfl

/-- The database gives every row once. -/
theorem length_rows (Q : Queries) {α : Type} (m : Multiset α) : (Q.rows m).length = m.card := by
  rw [← Multiset.coe_card, Q.coe_rows]

/-- All of them are on the first page. -/
theorem items_first (hfits : ((matching Q org tag search T).card : Int) ≤ limit) (O : Orders Q) :
    ((answerOf E Q org limit tag search T O 0).items : Multiset Json) =
      (matching Q org tag search T).map (deviceBody E T.connected) := by
  have hlen := length_rows (O.request 0) (matching Q org tag search T)
  have hskip : ((0 : Nat) * limit).toNat = 0 := by simp
  rw [items_answerOf, hskip, List.drop_zero, List.take_of_length_le (by omega), ← Multiset.map_coe,
    Queries.coe_rows]

/-- And none on a later one. -/
theorem items_later (hlimit : 1 ≤ limit) (hfits : ((matching Q org tag search T).card : Int) ≤ limit)
    (O : Orders Q) (k : Nat) : (answerOf E Q org limit tag search T O (k + 1)).items = [] := by
  have hlen := length_rows (O.request (k + 1)) (matching Q org tag search T)
  have hskip : limit ≤ (k + 1 : Nat) * limit := by
    rw [Nat.cast_add, Int.add_mul]
    have hk : 0 ≤ (k : Int) * limit := Int.mul_nonneg (Int.natCast_nonneg k) (by omega)
    show limit ≤ _ + 1 * limit
    omega
  rw [items_answerOf, List.drop_of_length_le (by omega), List.take_nil]
  rfl

/-- All the answers together are the first one. -/
theorem items_all (hlimit : 1 ≤ limit) (hfits : ((matching Q org tag search T).card : Int) ≤ limit)
    (O : Orders Q) : ∀ n : Nat,
    ((List.range (n + 1)).map (answerOf E Q org limit tag search T O)).flatMap Answer.items =
      (answerOf E Q org limit tag search T O 0).items := by
  intro n
  induction n with
  | zero => exact List.append_nil _
  | succ n ih =>
    rw [List.range_succ, List.map_append, List.flatMap_append, ih]
    show _ ++ ((answerOf E Q org limit tag search T O (n + 1)).items ++ []) = _
    rw [items_later hlimit hfits O n, List.append_nil, List.append_nil]

/-- **One direction**: where all fit on a page, any order will do. -/
theorem exact_of_fits (hvalid : validPage 0 limit = .ok ())
    (hfits : ((matching Q org tag search T).card : Int) ≤ limit) :
    Exact E Q org limit tag search T := by
  intro O n hskips
  refine ⟨_, readPages_run hvalid O n hskips, ?_⟩
  cases n with
  | zero =>
    refine ⟨Multiset.zero_le _, fun hcard => ?_, fun _ a ha => (List.not_mem_nil ha).elim⟩
    have hnone : matching Q org tag search T = 0 := by
      rw [← Multiset.card_eq_zero]
      simpa using hcard
    rw [hnone]
    rfl
  | succ n =>
    have hitems := items_all (E := E) (limit_of_valid hvalid).1 hfits O n
    have hfirst := items_first (E := E) hfits O
    refine ⟨?_, fun _ => ?_, fun _ a ha => ?_⟩
    · rw [hitems, hfirst]
    · rw [hitems, hfirst]
    · obtain ⟨k, -, rfl⟩ := List.mem_map.mp ha
      rw [hitems, ← Multiset.coe_card, hfirst, Multiset.card_map]
      rfl

/-! ## One device too many -/

/-- The first row comes back as the first one of the next page. -/
def later {α : Type} (limit : Nat) : List α → List α
  | [] => []
  | a :: rows => rows.take limit ++ a :: rows.drop limit

/-- Another order of the same rows. -/
theorem later_perm {α : Type} (limit : Nat) (rows : List α) : (later limit rows).Perm rows := by
  cases rows with
  | nil => exact .refl _
  | cons a rows =>
    refine List.perm_middle.trans ?_
    rw [List.take_append_drop]

/-- Every request but the first one has the rows in the order `later`. -/
def laterOrders (Q : Queries) (limit : Nat) : Orders Q where
  request k :=
    if k = 0 then Q
    else { Q with
      rows := fun m => later limit (Q.rows m)
      coe_rows := fun m => (Quotient.sound (later_perm limit (Q.rows m))).trans (Q.coe_rows m) }
  ilike k := by
    split
    · rfl
    · rfl

/-- The ids tell the devices apart. -/
theorem bodies_nodup (hids : (T.devices.map fun r => r.id).Nodup) :
    ((matching Q org tag search T).map (deviceBody E T.connected)).Nodup := by
  have hnodup : T.devices.Nodup := hids.of_map
  refine Multiset.Nodup.map_on (fun a ha b hb hbody => ?_) (hnodup.filter _)
  have hid : a.id.str = b.id.str := by
    rw [deviceBody] at hbody
    injection hbody with hfields
    simpa using (List.cons.inj hfields).1
  exact Multiset.inj_on_of_nodup_map hids a (Multiset.mem_of_mem_filter ha) b
    (Multiset.mem_of_mem_filter hb) (Uuid.str_injective hid)

/-- The first device is on the first page, and under `laterOrders` on the second. -/
theorem items_twice {n : Nat} (hn : limit.toNat = n + 1) {a : DeviceRow} {rows : List DeviceRow}
    (hrows : Q.rows (matching Q org tag search T) = a :: rows) (hlen : limit.toNat ≤ rows.length) :
    ∃ before after,
      (answerOf E Q org limit tag search T (laterOrders Q limit.toNat) 0).items =
        deviceBody E T.connected a :: before ∧
      (answerOf E Q org limit tag search T (laterOrders Q limit.toNat) 1).items =
        deviceBody E T.connected a :: after := by
  have hfirst : ((0 : Nat) * limit).toNat = 0 := by simp
  have hsecond : ((1 : Nat) * limit).toNat = limit.toNat := by simp
  have hlater : ((laterOrders Q limit.toNat).request 1).rows (matching Q org tag search T) =
      rows.take limit.toNat ++ a :: rows.drop limit.toNat := by
    show later limit.toNat (Q.rows (matching Q org tag search T)) = _
    rw [hrows]
    rfl
  have htake : (rows.take limit.toNat).length = limit.toNat := by
    rw [List.length_take]
    omega
  refine ⟨(rows.take n).map (deviceBody E T.connected),
    ((rows.drop limit.toNat).take n).map (deviceBody E T.connected), ?_, ?_⟩
  · rw [items_answerOf, hfirst, List.drop_zero]
    show ((Q.rows (matching Q org tag search T)).take limit.toNat).map _ = _
    rw [hrows, hn]
    rfl
  · rw [items_answerOf, hsecond, hlater, List.drop_left' htake]
    rw [hn]
    rfl

/-- **The other**: where they do not, the database may return one row on two pages. -/
theorem not_exact (hids : (T.devices.map fun r => r.id).Nodup) (hvalid : validPage 0 limit = .ok ())
    (hmore : limit < ((matching Q org tag search T).card : Int)) :
    ¬ Exact E Q org limit tag search T := by
  intro h
  obtain ⟨hlimit, hmax⟩ := limit_of_valid hvalid
  have hskips : ∀ k < 2, ((k : Nat) : Int) * limit < 2 ^ 63 := by
    intro k hk
    rcases (by omega : k = 0 ∨ k = 1) with rfl | rfl
    · simp
    · simp
      omega
  obtain ⟨answers, hrun, hcomplete⟩ := h (laterOrders Q limit.toNat) 2 hskips
  rw [readPages_run hvalid _ 2 hskips] at hrun
  cases hrun
  have hlen := length_rows Q (matching Q org tag search T)
  obtain ⟨a, rows, hrows⟩ : ∃ a rows, Q.rows (matching Q org tag search T) = a :: rows :=
    List.exists_cons_of_length_pos (by omega)
  rw [hrows, List.length_cons] at hlen
  obtain ⟨n, hn⟩ : ∃ n, limit.toNat = n + 1 := ⟨limit.toNat - 1, by omega⟩
  obtain ⟨before, after, hfirst, hsecond⟩ := items_twice (E := E) hn hrows (by omega)
  have honce : (([0, 1].map (answerOf E Q org limit tag search T
      (laterOrders Q limit.toNat))).flatMap Answer.items).Nodup :=
    Multiset.coe_nodup.mp (Multiset.nodup_of_le hcomplete.once (bodies_nodup hids))
  have htwo : ([0, 1].map (answerOf E Q org limit tag search T
      (laterOrders Q limit.toNat))).flatMap Answer.items =
      (deviceBody E T.connected a :: before) ++ ((deviceBody E T.connected a :: after) ++ []) := by
    rw [← hfirst, ← hsecond]
    rfl
  rw [htwo] at honce
  have hdisjoint := (List.nodup_append.mp honce).2.2
  exact hdisjoint _ List.mem_cons_self _ (by simp) rfl

/-- **Pagination** of the device list is exact, whatever the order the database gives each request, if
    and only if the devices all fit on the first page.

    Without an ORDER BY each request may come in an order of its own.  If there is a second page, two orders can be
    chosen such that one device is on both pages (`items_twice`). -/
theorem pagination_exact_iff (hids : (T.devices.map fun r => r.id).Nodup)
    (hvalid : validPage 0 limit = .ok ()) :
    Exact E Q org limit tag search T ↔ ((matching Q org tag search T).card : Int) ≤ limit := by
  refine ⟨fun h => ?_, exact_of_fits hvalid⟩
  by_contra hmore
  exact not_exact hids hvalid (by omega) h

/-- Two devices of the organization, a revoked one, and one of another organization. -/
def among : Tables :=
  { alone with
    devices := {ownDevice, { ownDevice with id := 6 }, { ownDevice with id := 7, isRevoked := true },
      { ownDevice with id := 8, orgId := some 2 }} }

/-- The two are on one page of two, in whatever order. -/
theorem pagination_exact_alone :
    (matching anyOrder 1 none none among).card = 2 ∧ Exact Env.sample anyOrder 1 2 none none among :=
  ⟨by decide, (pagination_exact_iff (by decide) rfl).mpr (by decide)⟩

/-- Two devices, in pages of one: the database may return one of them twice. -/
theorem page_repeats : ¬ Exact Env.sample anyOrder 1 1 none none
    { alone with devices := {ownDevice, { ownDevice with id := 6 }} } :=
  not_exact (by decide) rfl (by decide)

end Reads

end Dtsys
