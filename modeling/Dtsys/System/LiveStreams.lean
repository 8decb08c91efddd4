/-
  THE LIVE STREAMS, `AlertEventStream` and `ActivityEventStream`: every subscriber reads from a queue of
  its own, a publication goes into all of them.

  `publish` copies the set of queues under the lock and writes to them outside it; it does not `await`
  anywhere on the way, so a publication is one step, and publications are numbered.

  1. `EventStream` — the numbered publications, and for every subscriber its queue and what it got;
  2. `Inv` — every subscriber is a reader behind a bounded channel that drops the oldest, fed with the
     publications between its `subscribe` and its `unsubscribe`;
  3. `live_streams_orderly` — the order, the losses, and two subscribers side by side.
-/
import Dtsys.Lib.DropOldest
import Dtsys.Lib.Run
import Dtsys.Server.Session

namespace Dtsys

/-- A publication: its number, and the payload. -/
structure Item (α : Type) where
  number : Nat
  payload : α

/-- A subscriber: its queue, the publications there were when it subscribed and when it unsubscribed, what
    it got, and what its queue gave up, each with the publication it was given up for. -/
structure Subscriber (α : Type) where
  queue : List (Item α)
  joined : Nat
  left : Option Nat
  got : List (Item α)
  evicted : List (Item α × Item α)

/-- A stream: its publications, and its subscribers; those that have not left are `_queues`. -/
structure EventStream (α : Type) where
  published : List (Item α)
  subscribers : List (Subscriber α)

/-- `alert_event_stream`. -/
abbrev AlertEventStream := EventStream AlertPayload

/-- `activity_event_stream`. -/
abbrev ActivityEventStream := EventStream ActivityPayload

namespace EventStream

variable {α : Type}

/-- `asyncio.Queue(maxsize=100)`. -/
def maxsize : Nat := 100

/-- Nothing is published, and nobody subscribed. -/
def start : EventStream α := ⟨[], []⟩

/-- `subscribe`. -/
def subscribe (s : EventStream α) : EventStream α :=
  { s with subscribers := s.subscribers ++ [⟨[], s.published.length, none, [], []⟩] }

/-- `unsubscribe` discards the queue from the set, if it is there. -/
def leave (published : Nat) (sub : Subscriber α) : Subscriber α :=
  { sub with left := some (sub.left.getD published) }

/-- The body of the loop of `publish`. -/
def deliver (x : Item α) (sub : Subscriber α) : Subscriber α :=
  match sub.left with
  | some _ => sub
  | none =>
    let out := DropOldest.offer maxsize sub.queue x
    { sub with
      queue := out.1
      evicted := sub.evicted ++ (out.2.map fun old => (old, x)).toList }

/-- `publish`. -/
def publish (s : EventStream α) (payload : α) : EventStream α :=
  let x : Item α := ⟨s.published.length, payload⟩
  { published := s.published ++ [x], subscribers := s.subscribers.map (deliver x) }

/-- `queue.get()`, which waits for an item; it takes what `get_nowait` takes. -/
def take (sub : Subscriber α) : Option (Subscriber α) :=
  (DropOldest.getNowait sub.queue).map fun (x, queue) =>
    { sub with queue := queue, got := sub.got ++ [x] }

/-- The calls of the stream. -/
inductive Label (α : Type) where
  | subscribe
  | unsubscribe (k : Nat)
  | publish (payload : α)
  | get (k : Nat)

/-- One call. -/
def step (s : EventStream α) : Label α → Option (EventStream α)
  | .subscribe => some s.subscribe
  | .publish payload => some (s.publish payload)
  | .unsubscribe k => (s.subscribers[k]?).map fun sub =>
    { s with subscribers := s.subscribers.set k (leave s.published.length sub) }
  | .get k => ((s.subscribers[k]?).bind take).map fun sub =>
    { s with subscribers := s.subscribers.set k sub }

/-- The publications while a subscriber was subscribed. -/
def offered (published : List (Item α)) (sub : Subscriber α) : List (Item α) :=
  (published.take (sub.left.getD published.length)).drop sub.joined

/-! ## The invariant -/

/-- A subscriber reads what was published while it was subscribed. -/
structure Reads (published : List (Item α)) (sub : Subscriber α) : Prop where
  fed : DropOldest.Fed maxsize (offered published sub) sub.queue sub.got sub.evicted
  joined : sub.joined ≤ published.length
  left : ∀ t, sub.left = some t → t ≤ published.length

/-- The items are numbered, and each subscriber has a part of them. -/
structure Inv (s : EventStream α) : Prop where
  numbers : s.published.map Item.number = List.range s.published.length
  reads : ∀ sub ∈ s.subscribers, Reads s.published sub

theorem inv_start : Inv (start : EventStream α) := ⟨rfl, fun _ h => nomatch h⟩

variable {s s' : EventStream α} {published : List (Item α)} {sub : Subscriber α}

/-- A subscriber that has just come. -/
theorem reads_new : Reads published (⟨[], published.length, none, [], []⟩ : Subscriber α) where
  fed := by
    have hnone : offered published (⟨[], published.length, none, [], []⟩ : Subscriber α) = [] := by
      simp [offered]
    rw [hnone]
    exact DropOldest.Fed.nil
  joined := Nat.le_refl _
  left := fun _ h => nomatch h

theorem Reads.leave (h : Reads published sub) : Reads published (leave published.length sub) where
  fed := h.fed
  joined := h.joined
  left := by
    intro t ht
    obtain rfl := Option.some.inj ht
    cases hleft : sub.left with
    | none => exact Nat.le_refl _
    | some t => exact h.left t hleft

theorem Reads.take {sub' : Subscriber α} (h : Reads published sub) (htake : take sub = some sub') :
    Reads published sub' := by
  rw [EventStream.take] at htake
  obtain ⟨⟨x, queue⟩, hget, rfl⟩ := Option.map_eq_some_iff.mp htake
  cases hqueue : sub.queue with
  | nil =>
    rw [hqueue] at hget
    cases hget
  | cons y rest =>
    rw [hqueue] at hget
    obtain ⟨rfl, rfl⟩ := Prod.mk.inj (Option.some.inj hget)
    have hfed := h.fed
    rw [hqueue] at hfed
    exact ⟨hfed.get, h.joined, h.left⟩

/-- A subscriber that has left is offered nothing. -/
theorem deliver_left {t : Nat} (hleft : sub.left = some t) (x : Item α) : deliver x sub = sub := by
  rw [deliver, hleft]

theorem deliver_subscribed (hleft : sub.left = none) (x : Item α) : deliver x sub = { sub with
    queue := (DropOldest.offer maxsize sub.queue x).1
    evicted := sub.evicted ++
      ((DropOldest.offer maxsize sub.queue x).2.map fun old => (old, x)).toList } := by
  rw [deliver, hleft]

/-- One that is offered an item, at the price of the oldest where the queue is full. -/
theorem Reads.deliver (h : Reads published sub) (x : Item α) :
    Reads (published ++ [x]) (deliver x sub) := by
  have hlonger : published.length ≤ (published ++ [x]).length := by simp
  cases hleft : sub.left with
  | some t =>
    have ht := h.left t hleft
    have hsame : offered (published ++ [x]) sub = offered published sub := by
      unfold offered
      rw [hleft]
      show ((published ++ [x]).take t).drop _ = (published.take t).drop _
      rw [List.take_append_of_le_length ht]
    rw [deliver_left hleft]
    exact ⟨by rw [hsame]; exact h.fed, h.joined.trans hlonger,
      fun t' ht' => (h.left t' ht').trans hlonger⟩
  | none =>
    have hmore : offered (published ++ [x]) sub = offered published sub ++ [x] := by
      unfold offered
      rw [hleft]
      show ((published ++ [x]).take (published ++ [x]).length).drop _ =
        (published.take published.length).drop _ ++ [x]
      rw [List.take_length, List.take_length, List.drop_append_of_le_length h.joined]
    have hfed := h.fed.offer (by decide) x
    rw [← hmore] at hfed
    rw [deliver_subscribed hleft]
    exact ⟨hfed, h.joined.trans hlonger, fun t' ht' => (h.left t' ht').trans hlonger⟩

theorem Inv.set {k : Nat} {sub' : Subscriber α} (h : Inv s) (hreads : Reads s.published sub') :
    Inv { s with subscribers := s.subscribers.set k sub' } := by
  refine ⟨h.numbers, fun sub hsub => ?_⟩
  rcases List.mem_or_eq_of_mem_set hsub with hsub | rfl
  · exact h.reads sub hsub
  · exact hreads

theorem inv_step {l : Label α} (hs : step s l = some s') (h : Inv s) : Inv s' := by
  cases l with
  | subscribe =>
    obtain rfl := Option.some.inj hs
    refine ⟨h.numbers, fun sub hsub => ?_⟩
    rcases List.mem_append.mp hsub with hsub | hsub
    · exact h.reads sub hsub
    · obtain rfl := List.mem_singleton.mp hsub
      exact reads_new
  | publish payload =>
    obtain rfl := Option.some.inj hs
    refine ⟨?_, fun sub hsub => ?_⟩
    · show (s.published ++ [_]).map Item.number = List.range (s.published ++ [_]).length
      rw [List.map_append, h.numbers, List.length_append, List.range_add]
      simp
    · obtain ⟨sub', hsub', rfl⟩ := List.mem_map.mp hsub
      exact (h.reads sub' hsub').deliver _
  | unsubscribe k =>
    obtain ⟨sub, hsub, rfl⟩ := Option.map_eq_some_iff.mp hs
    exact h.set (h.reads sub (List.mem_of_getElem? hsub)).leave
  | get k =>
    obtain ⟨sub', hsub', rfl⟩ := Option.map_eq_some_iff.mp hs
    obtain ⟨sub, hsub, htake⟩ := Option.bind_eq_some_iff.mp hsub'
    exact h.set ((h.reads sub (List.mem_of_getElem? hsub)).take htake)

/-! ## What a subscriber gets -/

/-- A subscriber is served in order, and misses no more than it must. -/
structure Orderly (published : List (Item α)) (sub : Subscriber α) : Prop where
  /-- Its queue is bounded. -/
  bounded : sub.queue.length ≤ maxsize
  /-- What it got is a subsequence of the publications. -/
  inOrder : sub.got.Sublist published
  /-- What was published while it was subscribed and it did not get is waiting, or was given up for a
      publication at least 100 later. -/
  missing : ∀ x ∈ offered published sub, x ∈ sub.got ∨ x ∈ sub.queue ∨
    ∃ y ∈ published, (x, y) ∈ sub.evicted ∧ x.number + maxsize ≤ y.number

/-- The number of a publication is its place. -/
theorem Inv.number_eq (h : Inv s) {i : Nat} {x : Item α} (hx : s.published[i]? = some x) :
    x.number = i := by
  have hmap : (s.published.map Item.number)[i]? = some x.number := by
    rw [List.getElem?_map, hx]
    rfl
  obtain ⟨hi, -⟩ := List.getElem?_eq_some_iff.mp hx
  rw [h.numbers, List.getElem?_range hi] at hmap
  exact (Option.some.inj hmap).symm

/-- The places of what a subscriber was offered. -/
theorem getElem?_offered {i : Nat} {x : Item α} (hx : (offered published sub)[i]? = some x) :
    published[sub.joined + i]? = some x := by
  rw [offered, List.getElem?_drop, List.getElem?_take] at hx
  split at hx
  · exact hx
  · cases hx

/-- What the invariant says of one stream. -/
theorem Inv.orderly (h : Inv s) (hsub : sub ∈ s.subscribers) : Orderly s.published sub := by
  have hreads := h.reads sub hsub
  have hoffered : (offered s.published sub).Sublist s.published :=
    (List.drop_sublist ..).trans (List.take_sublist ..)
  refine ⟨hreads.fed.bounded, hreads.fed.sublist.trans hoffered, fun x hx => ?_⟩
  rcases hreads.fed.missing hx with hgot | hqueue | ⟨y, hevicted⟩
  · exact .inl hgot
  · exact .inr (.inl hqueue)
  · obtain ⟨i, j, hi, hj, hle⟩ := hreads.fed.late x y hevicted
    have hx' := getElem?_offered hi
    have hy' := getElem?_offered hj
    refine .inr (.inr ⟨y, List.mem_of_getElem? hy', hevicted, ?_⟩)
    rw [h.number_eq hx', h.number_eq hy']
    omega

/-- **The live streams**, after any run: publications have different numbers, every subscriber is served
    in order and misses no more than it must, and two subscribers got what they both got in the same
    order.

    `publish` has no await between its number and the queues, so it is one step.  The invariant says of every
    subscriber that what it got, what is queued and what the queue has dropped are what was published while it was
    there (`Reads`). -/
theorem live_streams_orderly {ls : List (Label α)} (hrun : Run.exec step start ls = some s) :
    (s.published.map Item.number).Nodup ∧
      ∀ sub ∈ s.subscribers, Orderly s.published sub ∧
        ∀ sub' ∈ s.subscribers,
          (sub.got.filter fun x => x.number ∈ sub'.got.map Item.number) =
            sub'.got.filter fun x => x.number ∈ sub.got.map Item.number := by
  have hinv : Inv s := Run.exec_inv (C := fun _ _ => True) (fun _ _ _ _ hs => inv_step hs)
    (Run.guarded_true ls _) hrun inv_start
  have hkeys : (s.published.map Item.number).Nodup := by
    rw [hinv.numbers]
    exact List.nodup_range
  refine ⟨hkeys, fun sub hsub => ⟨hinv.orderly hsub, fun sub' hsub' => ?_⟩⟩
  exact DropOldest.filter_common hkeys (hinv.orderly hsub).inOrder (hinv.orderly hsub').inOrder

/-- A subscriber that comes late, reads one of two publications, and leaves. -/
theorem orderly_late :
    ∃ s : EventStream Nat, Run.exec step start [.publish 7, .subscribe, .publish 8, .publish 9, .get 0,
        .unsubscribe 0, .publish 10] = some s ∧
      (s.published.map Item.number).Nodup ∧
      ∀ sub ∈ s.subscribers, Orderly s.published sub ∧
        ∀ sub' ∈ s.subscribers,
          (sub.got.filter fun x => x.number ∈ sub'.got.map Item.number) =
            sub'.got.filter fun x => x.number ∈ sub.got.map Item.number := by
  obtain ⟨s, hrun⟩ := Option.isSome_iff_exists.mp (show (Run.exec step (start : EventStream Nat)
    [.publish 7, .subscribe, .publish 8, .publish 9, .get 0, .unsubscribe 0, .publish 10]).isSome =
      true from rfl)
  exact ⟨s, hrun, live_streams_orderly hrun⟩

end EventStream

end Dtsys
