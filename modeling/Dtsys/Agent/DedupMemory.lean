/-
  THE MEMORY OF THE EVENT FILTER (`shouldSkipEvent`), over any sequence of calls.

  A source has a map of entries and the order its keys were inserted in, and four steps change them: expiry
  takes keys from the map only, an insertion adds to both, and making room takes one key after the other
  from the front of the order and from the map.  So the order may hold a key twice, and keys the map has
  lost; but nothing leaves the order that stays in the map (`Bounded`), and the order is short.

  No assumption on the calls: the clock may go back, and the patterns may change between two of them.

  The bound is proved for one step after the other.  `bounded_call` takes them through one call, and
  `memory_bounded` any number of calls, by induction on the calls: both structures of every source
  hold at most as many keys as the configuration says.  The order may be longer than the map, which is why
  it has a bound of its own, and the one of the map follows (`Bounded.map_small`).
-/
import Dtsys.Agent.Dedup
import Dtsys.Agent.Polls
import Mathlib.Data.Set.Card

namespace Dtsys

namespace Agent

namespace Dedup

/-- The keys of the map. -/
def mapKeys (d : SourceDeduper) : Set GoString := {k | (d.entries k).isSome = true}

/-- The order is short, and has every key of the map. -/
structure Bounded (n : Nat) (d : SourceDeduper) : Prop where
  order : d.order.length ≤ n
  listed : ∀ k ∈ mapKeys d, k ∈ d.order

/-- The table after the calls, each with the configuration it found. -/
def tableAfter (lower : Char → Char) (calls : List (EventFilterConfig × EventCall)) : DedupTable :=
  calls.foldl (fun table c => (shouldSkipEvent c.1 lower c.2.time c.2.source c.2.message table).2)
    fun _ => .empty

section

variable {n : Nat} {d : SourceDeduper}

theorem bounded_empty (n : Nat) : Bounded n .empty := ⟨Nat.zero_le n, fun _ hk => nomatch hk⟩

/-- A map whose keys are in a short order is small. -/
theorem Bounded.map_small (h : Bounded n d) : (mapKeys d).Finite ∧ (mapKeys d).ncard ≤ n := by
  have hsub : mapKeys d ⊆ ↑d.order.toFinset := fun k hk => by
    rw [Finset.mem_coe, List.mem_toFinset]
    exact h.listed k hk
  refine ⟨d.order.toFinset.finite_toSet.subset hsub, ?_⟩
  calc (mapKeys d).ncard
      ≤ (d.order.toFinset : Set GoString).ncard := Set.ncard_le_ncard hsub (Finset.finite_toSet _)
    _ = d.order.toFinset.card := Set.ncard_coe_finset _
    _ ≤ d.order.length := List.toFinset_card_le _
    _ ≤ n := h.order

/-- Expiry takes keys from the map. -/
theorem Bounded.expired (h : Bounded n d) (now : Int) :
    Bounded n { d with entries := dropExpired now d.entries } := by
  refine ⟨h.order, fun k hk => h.listed k ?_⟩
  obtain ⟨ts, hts⟩ := Option.isSome_iff_exists.mp hk
  exact Option.isSome_iff_exists.mpr ⟨ts, (dropExpired_eq_some.mp hts).1⟩

/-- A key of the map after an insertion is the new one, or was there before. -/
theorem inserted_listed (h : Bounded n d) {key k : GoString} {now : Int}
    (hk : (Function.update d.entries key (some now) k).isSome = true) : k ∈ d.order ++ [key] := by
  by_cases hkey : k = key
  · exact List.mem_append_right _ (List.mem_singleton.mpr hkey)
  · rw [Function.update_of_ne hkey] at hk
    exact List.mem_append_left _ (h.listed k hk)

/-- **An insertion**, and the room made for it. -/
theorem Bounded.recorded (h : Bounded n d) (hpos : 0 < n) (now : Int) (key : GoString) :
    Bounded n (d.record n now key) := by
  rcases record_eq hpos h.order now key with ⟨hroom, hrec⟩ | ⟨oldest, rest, horder, hfull, hrec⟩
  · rw [hrec]
    refine ⟨?_, fun k hk => inserted_listed h hk⟩
    show (d.order ++ [key]).length ≤ n
    rw [List.length_append, List.length_singleton]
    omega
  · rw [hrec]
    refine ⟨?_, fun k hk => ?_⟩
    · show (rest ++ [key]).length ≤ n
      rw [List.length_append, List.length_singleton]
      omega
    · -- the key that leaves the order leaves the map, even if it stands in the order again
      have hk : (if k = oldest then none else Function.update d.entries key (some now) k).isSome = true := hk
      by_cases hold : k = oldest
      · rw [if_pos hold] at hk
        cases hk
      · rw [if_neg hold] at hk
        have hmem := inserted_listed h hk
        rw [horder, List.cons_append] at hmem
        exact (List.mem_cons.mp hmem).resolve_left hold

end

/-- **One call** keeps the tables of all sources bounded. -/
theorem bounded_call {n : Nat} (hpos : 0 < n) {cfg : EventFilterConfig} (hcfg : cfg.dedupMaxEntries = n)
    (lower : Char → Char) (c : EventCall) {table : DedupTable} (h : ∀ source, Bounded n (table source)) :
    ∀ source, Bounded n ((shouldSkipEvent cfg lower c.time c.source c.message table).2 source) := by
  have hset : ∀ {d : SourceDeduper}, Bounded n d →
      ∀ source, Bounded n (Function.update table c.source d source) := by
    intro d hd source
    by_cases hsource : source = c.source
    · rw [hsource, Function.update_self]
      exact hd
    · rw [Function.update_of_ne hsource]
      exact h source
  show ∀ source, Bounded n ((judgeEvent cfg lower c.time c.source c.message table).2 source)
  rcases judgeEvent_cases cfg lower c.time c.source c.message table with
    hj | ⟨-, hj⟩ | ⟨ts, -, hj⟩ | ⟨-, hj⟩
  · rw [hj]
    exact h
  · rw [hj]
    exact h
  · rw [hj]
    exact hset ((h c.source).expired c.time)
  · rw [hj, hcfg]
    exact hset (((h c.source).expired c.time).recorded hpos c.time _)

/-- Every table is bounded after any calls. -/
theorem bounded_calls {n : Nat} (hpos : 0 < n) (lower : Char → Char) :
    ∀ {calls : List (EventFilterConfig × EventCall)} {table : DedupTable},
      (∀ c ∈ calls, c.1.dedupMaxEntries = n) → (∀ source, Bounded n (table source)) →
      ∀ source, Bounded n (calls.foldl (fun table c =>
        (shouldSkipEvent c.1 lower c.2.time c.2.source c.2.message table).2) table source) := by
  intro calls
  induction calls with
  | nil => exact fun _ h => h
  | cons c calls ih =>
    intro table hcfg h
    exact ih (fun x hx => hcfg x (List.mem_cons_of_mem _ hx))
      (bounded_call hpos (hcfg c List.mem_cons_self) lower c.2 h)

/-- **The memory is bounded** after any calls, for every source.

    By induction over the calls, from `Bounded`: no call lets the order grow beyond the configured number, and the
    map has no key that is not in the order. -/
theorem memory_bounded (lower : Char → Char) {m : Int} (hm : 0 < m)
    {calls : List (EventFilterConfig × EventCall)} (hcfg : ∀ c ∈ calls, c.1.dedupMaxEntries = m)
    (source : GoString) :
    ((tableAfter lower calls source).order.length : Int) ≤ m ∧
      (∀ k ∈ mapKeys (tableAfter lower calls source), k ∈ (tableAfter lower calls source).order) ∧
      (mapKeys (tableAfter lower calls source)).Finite ∧
      ((mapKeys (tableAfter lower calls source)).ncard : Int) ≤ m := by
  obtain ⟨n, rfl⟩ : ∃ n : Nat, m = n := ⟨m.toNat, (Int.toNat_of_nonneg (Int.le_of_lt hm)).symm⟩
  have hbounded := bounded_calls (by omega) lower hcfg (fun _ => bounded_empty n) source
  obtain ⟨hfinite, hsmall⟩ := hbounded.map_small
  exact ⟨Int.ofNat_le.mpr hbounded.order, hbounded.listed, hfinite, Int.ofNat_le.mpr hsmall⟩

/-- A message of the kernel. -/
def diskFailed (time : Int) : EventCall := ⟨time, .ofString "kernel", .ofString "Disk failed"⟩

/-- Room for one key; an event, the same after the window, and another one. -/
def threeEvents : List (EventFilterConfig × EventCall) :=
  [(oneEntry, fanFailed 0), (oneEntry, fanFailed (dedupWindow + 1)), (oneEntry, diskFailed (dedupWindow + 2))]

/-- Three events, and room for one. -/
theorem memory_bounded_three :
    ((tableAfter id threeEvents (.ofString "kernel")).order.length : Int) ≤ 1 ∧
      (∀ k ∈ mapKeys (tableAfter id threeEvents (.ofString "kernel")),
        k ∈ (tableAfter id threeEvents (.ofString "kernel")).order) ∧
      (mapKeys (tableAfter id threeEvents (.ofString "kernel"))).Finite ∧
      ((mapKeys (tableAfter id threeEvents (.ofString "kernel"))).ncard : Int) ≤ 1 :=
  memory_bounded id (by decide) (by decide) (.ofString "kernel")

end Dedup

end Agent

end Dtsys
