import SlotKeeper.Proofs.Pool.Codec
import SlotKeeper.Proofs.Pool.Answers

/-!
# Continuing the coordinator as new

A coordinator is continued as new from its snapshot: the seed it stores and the successor run
reads back. The main statement, `continue_as_new_transparent`: for a seed within the ranges of
its stored form, every coordinator reached from it by signals and timer ticks has a stored
snapshot that restores to that very coordinator, as long as the instants its books hold read
back from their text. The successor then answers every later signal, tick and query as the
coordinator it replaces would.

Two facts carry it. Starting normalizes the configuration, each zero tunable taking its default,
and a normal configuration is left alone by a second start. And every transition keeps the
coordinator within the ranges of its stored form: the free count never exceeds both what it was
and the capacity after the transition, a capacity read from a signal fits 63 bits, and a request
joins the queue only when read from a signal.
-/

namespace SlotKeeper.Pool

open Json Workflow

namespace Config

/-- A configuration with no zero tunable, which starting leaves as it is. -/
structure Normal (c : Config) : Prop where
  capacity : c.capacity ≠ 0
  queueDepth : c.queueDepth ≠ 0
  leaseTimeout : c.leaseTimeout.nanos ≠ 0
  heartbeatInterval : c.heartbeatInterval.nanos ≠ 0

theorem nonZeroOr_cases (value fallback : Nat) :
    nonZeroOr value fallback = value ∨ nonZeroOr value fallback = fallback := by
  unfold nonZeroOr
  split
  · exact .inr rfl
  · exact .inl rfl

theorem nonEmptyOr_cases (value fallback : Span) :
    nonEmptyOr value fallback = value ∨ nonEmptyOr value fallback = fallback := by
  unfold nonEmptyOr
  split
  · exact .inr rfl
  · exact .inl rfl

theorem nonZeroOr_ne_zero {value fallback : Nat} (h : fallback ≠ 0) :
    nonZeroOr value fallback ≠ 0 := by
  unfold nonZeroOr
  split
  · exact h
  · assumption

theorem nonEmptyOr_nanos_ne_zero {value fallback : Span} (h : fallback.nanos ≠ 0) :
    (nonEmptyOr value fallback).nanos ≠ 0 := by
  unfold nonEmptyOr
  split
  · exact h
  · assumption

theorem withDefaults_of_normal {c : Config} (h : c.Normal) : c.withDefaults = c := by
  unfold withDefaults overlay nonZeroOr nonEmptyOr
  rw [if_neg h.capacity, if_neg h.queueDepth, if_neg h.leaseTimeout, if_neg h.heartbeatInterval]

theorem normal_withDefaults (c : Config) : c.withDefaults.Normal where
  capacity := nonZeroOr_ne_zero (by decide)
  queueDepth := nonZeroOr_ne_zero (by decide)
  leaseTimeout := nonEmptyOr_nanos_ne_zero (by decide)
  heartbeatInterval := nonEmptyOr_nanos_ne_zero (by decide)

/-- Starting twice is starting once. -/
theorem withDefaults_withDefaults (c : Config) : c.withDefaults.withDefaults = c.withDefaults :=
  withDefaults_of_normal (normal_withDefaults c)

theorem default_storable : default.Storable where
  capacity := by decide
  queueDepth := by decide
  leaseTimeout := by decide
  heartbeatInterval := by decide

/-- The defaults fill a configuration within its stored ranges with values within them. -/
theorem storable_withDefaults {c : Config} (h : c.Storable) : c.withDefaults.Storable where
  capacity := by
    rcases nonZeroOr_cases c.capacity default.capacity with heq | heq <;>
      (show nonZeroOr _ _ ≤ _; rw [heq])
    exacts [h.capacity, default_storable.capacity]
  queueDepth := by
    rcases nonZeroOr_cases c.queueDepth default.queueDepth with heq | heq <;>
      (show nonZeroOr _ _ ≤ _; rw [heq])
    exacts [h.queueDepth, default_storable.queueDepth]
  leaseTimeout := by
    rcases nonEmptyOr_cases c.leaseTimeout default.leaseTimeout with heq | heq <;>
      (show (nonEmptyOr _ _).WholeMillis; rw [heq])
    exacts [h.leaseTimeout, default_storable.leaseTimeout]
  heartbeatInterval := by
    rcases nonEmptyOr_cases c.heartbeatInterval default.heartbeatInterval with heq | heq <;>
      (show (nonEmptyOr _ _).WholeMillis; rw [heq])
    exacts [h.heartbeatInterval, default_storable.heartbeatInterval]

/-- A capacity update to a positive value within 63 bits keeps a configuration normal and within
its stored ranges. -/
theorem resized_normal {c : Config} {n : Int} (h : c.Normal) (hn : 0 < n) : (c.resized n).Normal :=
  { h with capacity := by show n.toNat ≠ 0; omega }

theorem resized_storable {c : Config} {n : Int} (h : c.Storable)
    (hle : n ≤ 9223372036854775807) : (c.resized n).Storable := by
  have hbound : Nat.pow 2 64 - 1 = 18446744073709551615 := by decide
  refine { h with capacity := ?_ }
  show n.toNat ≤ Nat.pow 2 64 - 1
  omega

end Config

/-! ## The free count and the queue under a transition -/

namespace Books

theorem assignFrom_available_le (now : Instant) (free : Nat) (queue : List Request)
    (leases : Leases) : (assignFrom now free queue leases).1.available ≤ free := by
  fun_induction assignFrom now free queue leases with
  | case1 queue leases => exact Nat.le_refl 0
  | case2 free leases => exact Nat.le_refl _
  | case3 free r queue leases _ b out hrec ih
  | case4 free r queue leases _ _ b out hrec ih =>
    rw [hrec] at ih
    exact ih
  | case5 free r queue leases _ _ b out hrec ih =>
    rw [hrec] at ih
    exact Nat.le_succ_of_le ih

theorem acquire_available_le (b : Books) (c : Config) (r : Request) (now : Instant) :
    (b.acquire c r now).1.available ≤ b.available := by
  unfold acquire
  split
  · exact Nat.le_refl _
  · split
    · exact Nat.sub_le _ _
    · split <;> exact Nat.le_refl _

theorem released_available_le (b : Books) (c : Config) (requester : String) :
    (b.released c requester).available ≤ max b.available c.capacity := by
  unfold released
  split
  · exact Nat.le_trans (Nat.sub_le _ _) (Nat.le_max_right _ _)
  · exact Nat.le_max_left _ _

theorem swept_available_le (b : Books) (c : Config) (now : Instant) :
    (b.swept c now).available ≤ max b.available c.capacity := by
  unfold swept
  dsimp only
  split
  · exact Nat.le_max_left _ _
  · exact Nat.le_trans (Nat.sub_le _ _) (Nat.le_max_right _ _)

theorem heartbeat_available (b : Books) (requester : String) (now : Instant) :
    (b.heartbeat requester now).1.available = b.available := by
  unfold heartbeat
  split <;> rfl

end Books

/-- Every request still waiting after a transition waited before it or was brought in by it. -/
theorem Settled.mem_before {before asked after : List Request} {out : List Response}
    (h : Settled before asked after out) {r : Request} (hr : r ∈ after) :
    r ∈ before ++ asked := by
  obtain ⟨served, hperm, -⟩ := h
  exact hperm.mem_iff.mpr (List.mem_append_right served hr)

namespace Op

/-- What a signal can ask of the books within the ranges of their stored form: an acquire's
request is bounded and a capacity fits 63 bits. -/
def Fits : Op → Prop
  | .acquire r _ => r.Bounded
  | .updateCapacity capacity _ => capacity ≤ 9223372036854775807
  | _ => True

theorem Fits.asked {op : Op} (h : op.Fits) : ∀ r ∈ op.asked, r.Bounded := by
  cases op with
  | acquire r now =>
    intro r' hr
    rw [Op.asked, List.mem_singleton] at hr
    rw [hr]
    exact h
  | _ => nofun

/-- A transition leaves no more free slots than there were before it or than its capacity. -/
theorem available_le (op : Op) (b : Books) (c : Config) :
    (op.apply b c).1.available ≤ max b.available (op.apply b c).2.1.capacity := by
  cases op with
  | acquire r now =>
    exact Nat.le_trans (b.acquire_available_le c r now) (Nat.le_max_left _ _)
  | release requester now =>
    show ((b.release c requester now).1).available ≤ max b.available c.capacity
    rw [Books.release_eq]
    exact Nat.le_trans (Books.assignFrom_available_le _ _ _ _) (b.released_available_le c requester)
  | heartbeat requester now =>
    show (b.heartbeat requester now).1.available ≤ max b.available c.capacity
    rw [b.heartbeat_available requester now]
    exact Nat.le_max_left _ _
  | updateCapacity capacity now =>
    show (b.updateCapacity c capacity now).1.available ≤
      max b.available (b.updateCapacity c capacity now).2.1.capacity
    by_cases hpos : 0 < capacity
    · -- the free count is recomputed from the new capacity before slots are granted
      rw [b.updateCapacity_of_pos c now hpos]
      exact Nat.le_trans (Books.assignFrom_available_le _ _ _ _)
        (Nat.le_trans (Nat.sub_le _ _) (Nat.le_max_right _ _))
    · rw [b.updateCapacity_of_nonpos c now (Int.not_lt.mp hpos)]
      exact Nat.le_max_left _ _
  | expire now =>
    show (b.expire c now).1.available ≤ max b.available c.capacity
    rw [Books.expire_eq]
    exact Nat.le_trans (Books.assignFrom_available_le _ _ _ _) (b.swept_available_le c now)
  | assignSlots now =>
    exact Nat.le_trans (Books.assignFrom_available_le _ _ _ _) (Nat.le_max_left _ _)

/-- Only a capacity update to a positive value changes the configuration. -/
theorem config_apply (op : Op) (b : Books) (c : Config) :
    (op.apply b c).2.1 = c ∨
      ∃ capacity now, op = .updateCapacity capacity now ∧ 0 < capacity ∧
        (op.apply b c).2.1 = c.resized capacity := by
  cases op with
  | updateCapacity capacity now =>
    show (b.updateCapacity c capacity now).2.1 = c ∨ _
    by_cases hpos : 0 < capacity
    · refine .inr ⟨capacity, now, rfl, hpos, ?_⟩
      show (b.updateCapacity c capacity now).2.1 = _
      rw [b.updateCapacity_of_pos c now hpos]
    · rw [b.updateCapacity_of_nonpos c now (Int.not_lt.mp hpos)]
      exact .inl rfl
  | _ => exact .inl rfl

end Op

/-! ## Reached coordinators -/

namespace Coordinator

/-- The coordinator after one transition of its books. -/
def apply (c : Coordinator) (op : Op) : Coordinator :=
  ⟨(op.apply c.books c.config).2.1, (op.apply c.books c.config).1⟩

/-- A signal leaves the coordinator alone or makes one transition of its books, read from the
signal. -/
theorem onSignal_cases (c : Coordinator) (s : Signal) (now : Instant) :
    (c.onSignal s now).1 = c ∨ ∃ op, op.Fits ∧ (c.onSignal s now).1 = c.apply op := by
  unfold onSignal
  split
  · cases hread : decode Request.decoder s.payload with
    | ok r => exact .inr ⟨.acquire r now, Request.bounded_of_decoder hread, rfl⟩
    | error e => exact .inl rfl
  · cases decode (Holder.decoder "PoolRelease") s.payload with
    | ok h => exact .inr ⟨.release h.requester now, trivial, rfl⟩
    | error e => exact .inl rfl
  · cases decode (Holder.decoder "PoolHeartbeat") s.payload with
    | ok h => exact .inr ⟨.heartbeat h.requester now, trivial, rfl⟩
    | error e => exact .inl rfl
  · cases hread : decode capacityDecoder s.payload with
    | ok n => exact .inr ⟨.updateCapacity n now, le_of_capacityDecoder hread, rfl⟩
    | error e => exact .inl rfl
  · exact .inl rfl

theorem onTimer_eq (c : Coordinator) (now : Instant) : (c.onTimer now).1 = c.apply (.expire now) :=
  rfl

/-- A coordinator whose configuration is normal and which lies, with its books, within the ranges
of its stored form. -/
structure Continuable (c : Coordinator) : Prop where
  normal : c.config.Normal
  config : c.config.Storable
  books : c.books.Fits

theorem continuable_start {seed : Seed} (h : seed.Fits) : (start seed).Continuable := by
  refine ⟨Config.normal_withDefaults _, Config.storable_withDefaults h.config, ?_⟩
  show (seed.books.getD (Books.fresh seed.config.withDefaults)).Fits
  cases hbooks : seed.books with
  | some b => exact h.books b hbooks
  | none => exact ⟨(Config.storable_withDefaults h.config).capacity, nofun⟩

/-- Every transition a signal or a tick can make keeps a coordinator continuable. -/
theorem Continuable.apply {c : Coordinator} (h : c.Continuable) {op : Op} (hop : op.Fits) :
    (c.apply op).Continuable := by
  obtain ⟨hnormal, hconfig, hbooks⟩ := h
  have hnext : (c.apply op).config.Normal ∧ (c.apply op).config.Storable := by
    show (op.apply c.books c.config).2.1.Normal ∧ (op.apply c.books c.config).2.1.Storable
    rcases Op.config_apply op c.books c.config with heq | ⟨n, now, rfl, hpos, heq⟩
    · rw [heq]
      exact ⟨hnormal, hconfig⟩
    · rw [heq]
      exact ⟨Config.resized_normal hnormal hpos, Config.resized_storable hconfig hop⟩
  refine ⟨hnext.1, hnext.2, ⟨?_, fun r hr ↦ ?_⟩⟩
  · -- the free count stays below both the old count and the new capacity
    have hle := Op.available_le op c.books c.config
    have hold := hbooks.available
    have hcap := hnext.2.capacity
    exact Nat.le_trans hle (Nat.max_le.mpr ⟨hold, hcap⟩)
  · rcases List.mem_append.mp ((Op.apply_settled op c.books c.config).mem_before hr) with
      hr | hr
    · exact hbooks.queue r hr
    · exact hop.asked r hr

end Coordinator

/-- The coordinators a seed starts and that signals and timer ticks, handled one at a time, lead
to. -/
inductive Reached (seed : Seed) : Coordinator → Prop
  | start : Reached seed (Coordinator.start seed)
  | signal {c : Coordinator} (h : Reached seed c) (s : Signal) (now : Instant) :
      Reached seed (c.onSignal s now).1
  | tick {c : Coordinator} (h : Reached seed c) (now : Instant) : Reached seed (c.onTimer now).1

theorem Reached.continuable {seed : Seed} (hseed : seed.Fits) {c : Coordinator}
    (h : Reached seed c) : c.Continuable := by
  induction h with
  | start => exact Coordinator.continuable_start hseed
  | signal _ s now ih =>
    rcases Coordinator.onSignal_cases _ s now with heq | ⟨op, hop, heq⟩
    · exact heq ▸ ih
    · exact heq ▸ ih.apply hop
  | tick _ now ih =>
    rw [Coordinator.onTimer_eq]
    exact ih.apply (show Op.Fits (.expire now) from trivial)

/-- Continuing as new is transparent: the snapshot of a coordinator reached from a seed within
the ranges of its stored form, stored and read back, restores that very coordinator, when the
instants its books hold read back from their text. -/
theorem continue_as_new_transparent {seed : Seed} (hseed : seed.Fits) {c : Coordinator}
    (hc : Reached seed c) (htimes : c.books.InstantsRoundTrip) :
    coordinator.restore (coordinator.encode (coordinator.snapshot c)) = .ok c := by
  have hcont := hc.continuable hseed
  have hread : decode Seed.decoder (c.snapshot.toJson) = .ok ⟨c.config, some c.books⟩ :=
    Seed.decoder_toJson ⟨hcont.config, fun b hb ↦ by cases hb; exact hcont.books⟩
      (fun b hb ↦ by cases hb; exact htimes) .direct
  show (decode Seed.decoder c.snapshot.toJson).map Coordinator.start = .ok c
  rw [hread]
  show Except.ok ⟨c.config.withDefaults, c.books⟩ = Except.ok c
  rw [Config.withDefaults_of_normal hcont.normal]

/-- A request for a slot, sent at noon on the first of March 2026. -/
def marchRequest : Request :=
  ⟨"a", "a-run", "a-req-0", ⟨1772366400, 0⟩, Span.ofMillis 3600000, 0⟩

/-- The default pool once it granted that request. -/
def marchPool : Coordinator :=
  ((Coordinator.start ⟨Config.default, none⟩).onSignal
    ⟨acquireSignal, marchRequest.toJson, ⟨1772366400, 0⟩⟩ ⟨1772366400, 0⟩).1

/-- The default pool holding one lease is continued as itself. -/
theorem march_pool_continues_as_itself :
    Seed.Fits ⟨Config.default, none⟩ ∧ Reached ⟨Config.default, none⟩ marchPool ∧
      marchPool.books.InstantsRoundTrip ∧
      coordinator.restore (coordinator.encode (coordinator.snapshot marchPool)) = .ok marchPool :=
  have hseed : Seed.Fits ⟨Config.default, none⟩ := ⟨Config.default_storable, nofun⟩
  have hreached : Reached ⟨Config.default, none⟩ marchPool := .signal .start _ _
  have hbooks : marchPool.books =
      ⟨4, [], ⟨[("a", Lease.grant marchRequest ⟨1772366400, 0⟩)], List.pairwise_singleton _ _⟩⟩ :=
    rfl
  have htimes : marchPool.books.InstantsRoundTrip := by
    rw [hbooks]
    refine ⟨nofun, fun l hl ↦ ?_⟩
    rw [Leases.values, List.map_singleton, List.mem_singleton] at hl
    rw [hl]
    exact ⟨rfl, rfl⟩
  ⟨hseed, hreached, htimes, continue_as_new_transparent hseed hreached htimes⟩

end SlotKeeper.Pool
