import SlotKeeper.Pool.Coordinator
import SlotKeeper.Proofs.Json.Records

/-!
# Reading back the coordinator's stored forms

The stored forms of a coordinator's seed, of its configuration and of its books, with their
waiting requests and held leases, read back to the values written whenever every value fits
what its stored form can hold: a span is a whole number of milliseconds, at most the largest
unsigned 64-bit count of them; counts fit 64 bits; priorities fit 32 bits; and every instant
reads back from its RFC 3339 text.

Reading bounds what it accepts: a span read is whole milliseconds within that bound, a request
read from a signal fits its stored form but for its instant, and a capacity read fits 63 bits.
-/

namespace SlotKeeper

open Json

namespace Span

/-- A span its stored form keeps: whole milliseconds, at most the largest unsigned 64-bit count
of them. -/
def WholeMillis (d : Span) : Prop := d.nanos % 1000000 = 0 ∧ d.millis ≤ Nat.pow 2 64 - 1

instance (d : Span) : Decidable d.WholeMillis := inferInstanceAs (Decidable (_ ∧ _))

theorem millisDecoder_toMillisJson {d : Span} (h : d.WholeMillis) (origin : Origin) :
    millisDecoder origin d.toMillisJson = .ok d := by
  obtain ⟨hwhole, hbound⟩ := h
  unfold millisDecoder toMillisJson millisCapped
  rw [Nat.min_eq_left hbound, u64, unsignedUpTo_nat origin hbound]
  show Except.ok (ofMillis d.millis) = Except.ok d
  have hnanos : d.millis * 1000000 = d.nanos := by
    unfold millis
    omega
  rw [ofMillis, hnanos]

/-- A span read from its stored form is whole milliseconds within the bound. -/
theorem wholeMillis_of_millisDecoder {origin : Origin} {j : Json} {d : Span}
    (h : millisDecoder origin j = .ok d) : d.WholeMillis := by
  unfold millisDecoder at h
  cases hread : u64 origin j with
  | error e => rw [hread] at h; cases h
  | ok n =>
    rw [hread] at h
    cases h
    have hbound := le_of_unsignedUpTo hread
    refine ⟨Nat.mul_mod_left n 1000000, ?_⟩
    unfold millis ofMillis
    rw [Nat.mul_div_cancel n (by decide)]
    exact hbound

end Span

/-- An instant that reads back from its RFC 3339 text. -/
def Instant.RoundTrips (t : Instant) : Prop := Instant.parse t.render = .ok t

theorem Instant.decoder_toJson {t : Instant} (h : t.RoundTrips) (origin : Origin) :
    Instant.decoder origin t.toJson = .ok t := by
  unfold Instant.decoder toJson
  dsimp only
  rw [h]

theorem usize_nat (origin : Origin) {n : Nat} (h : n ≤ Nat.pow 2 64 - 1) :
    usize origin (nat n) = .ok n :=
  unsignedUpTo_nat origin h

namespace Pool

namespace Config

/-- A configuration its stored form keeps. -/
structure Storable (c : Config) : Prop where
  capacity : c.capacity ≤ Nat.pow 2 64 - 1
  queueDepth : c.queueDepth ≤ Nat.pow 2 64 - 1
  leaseTimeout : c.leaseTimeout.WholeMillis
  heartbeatInterval : c.heartbeatInterval.WholeMillis

theorem decoder_toJson {c : Config} (h : c.Storable) (origin : Origin) :
    decoder origin c.toJson = .ok c := by
  unfold decoder toJson
  rw [structFields_aligned "PoolConfig" ?names ?aligned]
  · dsimp only [bind, Except.bind]
    simp only [Fields.get, find?_record, List.reverse_cons, List.reverse_nil, List.nil_append,
      List.cons_append, List.find?_cons, String.reduceBEq, usize_nat origin h.capacity,
      usize_nat origin h.queueDepth, Span.millisDecoder_toMillisJson h.leaseTimeout,
      Span.millisDecoder_toMillisJson h.heartbeatInterval]
    rfl
  case names => decide
  case aligned =>
    exact .written rfl (FieldSpec.req_check (usize_nat origin h.capacity)) <|
      .written rfl (FieldSpec.req_check (usize_nat origin h.queueDepth)) <|
      .written rfl (FieldSpec.req_check (Span.millisDecoder_toMillisJson h.leaseTimeout origin)) <|
      .written rfl
        (FieldSpec.req_check (Span.millisDecoder_toMillisJson h.heartbeatInterval origin)) .nil

end Config

namespace Request

/-- A request within the ranges of its stored form: its timeout whole milliseconds and its
priority a signed 32-bit value. -/
structure Bounded (r : Request) : Prop where
  timeout : r.timeout.WholeMillis
  priority_ge : -2147483648 ≤ r.priority
  priority_le : r.priority ≤ 2147483647

theorem decoder_toJson {r : Request} (hb : r.Bounded) (ht : r.sentAt.RoundTrips)
    (origin : Origin) : decoder origin r.toJson = .ok r := by
  have hpriority : i32 origin (int r.priority) = .ok r.priority :=
    signedWithin_int origin hb.priority_ge hb.priority_le
  unfold decoder toJson
  rw [structFields_aligned "PoolRequest" ?names ?aligned]
  · dsimp only [bind, Except.bind]
    simp only [Fields.get, Fields.getD, find?_record, List.reverse_cons, List.reverse_nil,
      List.nil_append, List.cons_append, List.find?_cons, String.reduceBEq, text_string,
      Instant.decoder_toJson ht, Span.millisDecoder_toMillisJson hb.timeout, hpriority]
    rfl
  case names => decide
  case aligned =>
    exact .written rfl (FieldSpec.req_check (text_string origin _)) <|
      .written rfl (FieldSpec.req_check (text_string origin _)) <|
      .written rfl (FieldSpec.req_check (text_string origin _)) <|
      .written rfl (FieldSpec.req_check (Instant.decoder_toJson ht origin)) <|
      .written rfl (FieldSpec.req_check (Span.millisDecoder_toMillisJson hb.timeout origin)) <|
      .written rfl (FieldSpec.dflt_check hpriority) .nil

/-- A request read from a signal is within the ranges of its stored form. -/
theorem bounded_of_decoder {origin : Origin} {j : Json} {r : Request}
    (h : decoder origin j = .ok r) : r.Bounded := by
  unfold decoder at h
  obtain ⟨fs, -, h⟩ := Except.bind_eq_ok h
  obtain ⟨requester, -, h⟩ := Except.bind_eq_ok h
  obtain ⟨run, -, h⟩ := Except.bind_eq_ok h
  obtain ⟨id, -, h⟩ := Except.bind_eq_ok h
  obtain ⟨sentAt, -, h⟩ := Except.bind_eq_ok h
  obtain ⟨timeout, htimeout, h⟩ := Except.bind_eq_ok h
  obtain ⟨priority, hpriority, h⟩ := Except.bind_eq_ok h
  cases h
  obtain ⟨_, htimeout⟩ := Fields.decoded_of_get htimeout
  -- an absent priority is zero, a written one a signed 32-bit value
  have hbounds : -2147483648 ≤ priority ∧ priority ≤ 2147483647 := by
    rcases Fields.decoded_of_getD hpriority with rfl | ⟨_, hread⟩
    · decide
    · exact bounds_of_signedWithin (by decide) hread
  exact ⟨Span.wholeMillis_of_millisDecoder htimeout, hbounds.1, hbounds.2⟩

end Request

namespace Lease

theorem decoder_toJson {l : Lease} (ha : l.acquiredAt.RoundTrips)
    (hh : l.lastHeartbeat.RoundTrips) (origin : Origin) : decoder origin l.toJson = .ok l := by
  obtain ⟨requester, run, request, acquiredAt, lastHeartbeat, info⟩ := l
  unfold decoder toJson
  cases info with
  | none =>
    rw [structFields_aligned "PoolLease" ?names ?aligned]
    · dsimp only [bind, Except.bind]
      simp only [Fields.get, Fields.getD, find?_record, List.append_nil, List.reverse_cons,
        List.reverse_nil, List.nil_append, List.cons_append, List.find?_cons, List.find?_nil,
        String.reduceBEq, text_string, Instant.decoder_toJson ha, Instant.decoder_toJson hh]
      rfl
    case names => decide
    case aligned =>
      exact .written rfl (FieldSpec.req_check (text_string origin _)) <|
        .written rfl (FieldSpec.req_check (text_string origin _)) <|
        .written rfl (FieldSpec.req_check (text_string origin _)) <|
        .written rfl (FieldSpec.req_check (Instant.decoder_toJson ha origin)) <|
        .written rfl (FieldSpec.req_check (Instant.decoder_toJson hh origin)) <|
        .skipped nofun .nil
  | some i =>
    have hinfo : optional text origin (.string i) = .ok (some i) := rfl
    rw [structFields_aligned "PoolLease" ?names ?aligned]
    · dsimp only [bind, Except.bind]
      simp only [Fields.get, Fields.getD, find?_record, List.reverse_cons, List.reverse_nil,
        List.nil_append, List.cons_append, List.find?_cons, String.reduceBEq, text_string,
        Instant.decoder_toJson ha, Instant.decoder_toJson hh, hinfo]
      rfl
    case names => decide
    case aligned =>
      exact .written rfl (FieldSpec.req_check (text_string origin _)) <|
        .written rfl (FieldSpec.req_check (text_string origin _)) <|
        .written rfl (FieldSpec.req_check (text_string origin _)) <|
        .written rfl (FieldSpec.req_check (Instant.decoder_toJson ha origin)) <|
        .written rfl (FieldSpec.req_check (Instant.decoder_toJson hh origin)) <|
        .written rfl (FieldSpec.dflt_check hinfo) .nil

end Lease

namespace Entries

/-- Filing an id above every id of the entries adds its entry at the end. -/
theorem insert_of_lt {key : String} (lease : Lease) {es : Entries}
    (h : ∀ k ∈ es.map Prod.fst, k < key) : insert key lease es = es ++ [(key, lease)] := by
  induction es with
  | nil => rfl
  | cons e rest ih =>
    obtain ⟨k, l⟩ := e
    have hk : k < key := h k List.mem_cons_self
    have hrest : ∀ k' ∈ rest.map Prod.fst, k' < key :=
      fun k' hk' ↦ h k' (List.mem_cons_of_mem _ hk')
    unfold insert
    rw [if_neg (String.lt_asymm hk), if_neg (String.ne_of_lt hk).symm, ih hrest]
    rfl

/-- Filing sorted entries one after the other behind lower ids appends them. -/
theorem foldl_insert_of_sorted {acc es : Entries} (h : (acc ++ es).Sorted) :
    es.foldl (fun m e ↦ insert e.1 e.2 m) acc = acc ++ es := by
  induction es generalizing acc with
  | nil => simp
  | cons e rest ih =>
    have hkeys : (acc.map Prod.fst ++ e.1 :: rest.map Prod.fst).Pairwise (· < ·) := by
      simpa [Sorted] using h
    have hlt : ∀ k ∈ acc.map Prod.fst, k < e.1 :=
      fun k hk ↦ (List.pairwise_append.mp hkeys).2.2 k hk e.1 List.mem_cons_self
    rw [List.foldl_cons, insert_of_lt e.2 hlt, ih (by simpa using h)]
    simp

end Entries

theorem Leases.entries_foldl_insert (es : Entries) (m : Leases) :
    (es.foldl (fun m e ↦ m.insert e.1 e.2) m).entries =
      es.foldl (fun acc e ↦ Entries.insert e.1 e.2 acc) m.entries := by
  induction es generalizing m with
  | nil => rfl
  | cons e rest ih => exact ih (m.insert e.1 e.2)

/-- The lease table reads back entry by entry: filing its entries in their order rebuilds it. -/
theorem Leases.decoder_toJson {m : Leases}
    (h : ∀ l ∈ m.values, l.acquiredAt.RoundTrips ∧ l.lastHeartbeat.RoundTrips)
    (origin : Origin) : Leases.decoder origin m.toJson = .ok m := by
  obtain ⟨entries, hsorted⟩ := m
  unfold decoder toJson
  dsimp only
  rw [mapM_map_of_read fun e he ↦ ?_]
  · refine congrArg Except.ok (Leases.ext ?_)
    rw [Leases.entries_foldl_insert]
    exact @Entries.foldl_insert_of_sorted [] entries hsorted
  · -- each entry keeps its key and reads its lease back
    obtain ⟨ha, hh⟩ := h e.2 (List.mem_map_of_mem he)
    show (Lease.decoder origin e.2.toJson >>= fun l ↦ pure (e.1, l)) = .ok e
    rw [Lease.decoder_toJson ha hh]
    rfl

namespace Books

/-- Books within the ranges of their stored form: the free count fits 64 bits and every waiting
request fits its own. -/
structure Fits (b : Books) : Prop where
  available : b.available ≤ Nat.pow 2 64 - 1
  queue : ∀ r ∈ b.queue, r.Bounded

/-- Every instant the books hold reads back from its text. -/
def InstantsRoundTrip (b : Books) : Prop :=
  (∀ r ∈ b.queue, r.sentAt.RoundTrips) ∧
    ∀ l ∈ b.leases.values, l.acquiredAt.RoundTrips ∧ l.lastHeartbeat.RoundTrips

theorem decoder_toJson {b : Books} (hfits : b.Fits) (htimes : b.InstantsRoundTrip)
    (origin : Origin) : decoder origin b.toJson = .ok b := by
  have hqueue : listOf Request.decoder origin (.array (b.queue.map Request.toJson)) =
      .ok b.queue :=
    listOf_array fun r hr ↦ Request.decoder_toJson (hfits.queue r hr) (htimes.1 r hr) origin
  have hleases := Leases.decoder_toJson htimes.2 origin
  unfold decoder toJson
  rw [structFields_aligned "PoolState" ?names ?aligned]
  · dsimp only [bind, Except.bind]
    simp only [Fields.get, find?_record, List.reverse_cons, List.reverse_nil, List.nil_append,
      List.cons_append, List.find?_cons, String.reduceBEq, usize_nat origin hfits.available,
      hqueue, hleases]
    rfl
  case names => decide
  case aligned =>
    exact .written rfl (FieldSpec.req_check (usize_nat origin hfits.available)) <|
      .written rfl (FieldSpec.req_check hqueue) <|
      .written rfl (FieldSpec.req_check hleases) .nil

end Books

namespace Seed

/-- A seed within the ranges of its stored form. -/
structure Fits (s : Seed) : Prop where
  config : s.config.Storable
  books : ∀ b ∈ s.books, b.Fits

theorem decoder_toJson {s : Seed} (hfits : s.Fits)
    (htimes : ∀ b ∈ s.books, b.InstantsRoundTrip) (origin : Origin) :
    decoder origin s.toJson = .ok s := by
  have hconfig := Config.decoder_toJson hfits.config origin
  -- stored books are an object, never the `null` of absent books
  have hbooks : optional Books.decoder origin (opt Books.toJson s.books) = .ok s.books :=
    optional_opt (fun b hnull ↦ by rw [Books.toJson, record_eq] at hnull; cases hnull) fun b hb ↦
      Books.decoder_toJson (hfits.books b hb) (htimes b hb) origin
  unfold decoder toJson
  rw [structFields_aligned "CoordinatorInput" ?names ?aligned]
  · dsimp only [bind, Except.bind]
    simp only [Fields.get, Fields.getD, find?_record, List.reverse_cons, List.reverse_nil,
      List.nil_append, List.cons_append, List.find?_cons, String.reduceBEq, hconfig, hbooks]
    rfl
  case names => decide
  case aligned =>
    exact .written rfl (FieldSpec.req_check hconfig) <|
      .written rfl (FieldSpec.dflt_check hbooks) .nil

end Seed

/-- A capacity read from a signal fits 63 bits. -/
theorem le_of_capacityDecoder {origin : Origin} {j : Json} {n : Int}
    (h : capacityDecoder origin j = .ok n) : n ≤ 9223372036854775807 := by
  unfold capacityDecoder at h
  obtain ⟨fs, -, h⟩ := Except.bind_eq_ok h
  obtain ⟨_, hread⟩ := Fields.decoded_of_get h
  exact (bounds_of_signedWithin (by decide) hread).2

end Pool

end SlotKeeper
