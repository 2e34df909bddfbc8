import SlotKeeper.Proofs.Workflow.Codec

/-!
# Round trips of the wire and the log

The pool's parties talk through JSON payloads inside signals, and every run keeps its history as
JSON events. The main statement, `wire_and_log_round_trip`, says that each of these forms reads
back to the value written, within the ranges the value's type holds:

* a stored event reads back to itself and carries its type name under `"type"`, whatever input,
  payload, signal name, reason, timer, count or instant it holds, when its instants read back
  from their text;
* a slot response reads back from the payload the coordinator sends, with or without its code
  and message;
* a request whose timeout is whole milliseconds within the unsigned 64-bit count and whose
  priority is a signed 32-bit value reads back from the payload a client sends;
* a release or heartbeat, a capacity update within signed 64 bits, a status of 64-bit counts
  and a lease read back from their payloads.
-/

namespace SlotKeeper.Pool

open Json Workflow

theorem optional_text_string (origin : Origin) (s : String) :
    optional text origin (.string s) = .ok (some s) :=
  rfl

/-- A slot response reads back from its payload, with or without its code and message. -/
theorem Response.decoder_toJson (r : Response) (origin : Origin) :
    decoder origin r.toJson = .ok r := by
  obtain ⟨requester, run, request, granted, code, message⟩ := r
  unfold decoder toJson
  rw [structFields_record _ ?check ?required]
  · -- an absent code or message is not written and takes its default on the way back
    dsimp only [bind, Except.bind]
    cases code <;> cases message <;>
      simp only [Fields.get, Fields.getD, find?_record, List.reverse_cons, List.reverse_nil,
        List.nil_append, List.cons_append, List.append_nil, List.find?_cons, List.find?_nil,
        String.reduceBEq, text_string] <;>
      rfl
  case check =>
    cases code <;> cases message <;>
      simp [FieldSpec.req, FieldSpec.dflt, FieldSpec.of, text_string, boolean,
        optional_text_string]
  case required =>
    cases code <;> cases message <;> simp [FieldSpec.req, FieldSpec.dflt, FieldSpec.of]

/-- A release or heartbeat reads back from its payload, whichever struct name it is read as. -/
theorem Holder.decoder_toJson (structName : String) (h : Holder) (origin : Origin) :
    Holder.decoder structName origin h.toJson = .ok h := by
  unfold decoder toJson
  rw [structFields_aligned structName ?names ?aligned]
  · dsimp only [bind, Except.bind]
    simp only [Fields.get, find?_record, List.reverse_cons, List.reverse_nil, List.nil_append,
      List.cons_append, List.find?_cons, String.reduceBEq, text_string]
    rfl
  case names => decide
  case aligned =>
    exact .written rfl (FieldSpec.req_check (text_string origin _)) <|
      .written rfl (FieldSpec.req_check (text_string origin _)) .nil

/-- A capacity update within signed 64 bits reads back from its payload, also one that is not
positive. -/
theorem capacityDecoder_payload {n : Int} (hlow : -9223372036854775808 ≤ n)
    (hhigh : n ≤ 9223372036854775807) (origin : Origin) :
    capacityDecoder origin (capacityPayload n) = .ok n := by
  have hread : i64 origin (int n) = .ok n := signedWithin_int origin hlow hhigh
  unfold capacityDecoder capacityPayload
  rw [structFields_aligned "PoolCapacityUpdate" ?names ?aligned]
  · dsimp only [bind, Except.bind]
    simp only [Fields.get, find?_record, List.reverse_cons, List.reverse_nil, List.nil_append,
      List.find?_cons, String.reduceBEq]
    exact hread
  case names => decide
  case aligned => exact .written rfl (FieldSpec.req_check hread) .nil

namespace Status

/-- A status its stored form keeps: every count fits 64 bits. -/
structure Fits (s : Status) : Prop where
  available : s.available ≤ Nat.pow 2 64 - 1
  queued : s.queued ≤ Nat.pow 2 64 - 1
  active : s.active ≤ Nat.pow 2 64 - 1
  capacity : s.capacity ≤ Nat.pow 2 64 - 1

theorem decoder_toJson {s : Status} (h : s.Fits) (origin : Origin) :
    decoder origin s.toJson = .ok s := by
  unfold decoder toJson
  rw [structFields_aligned "PoolStatus" ?names ?aligned]
  · dsimp only [bind, Except.bind]
    simp only [Fields.get, find?_record, List.reverse_cons, List.reverse_nil, List.nil_append,
      List.cons_append, List.find?_cons, String.reduceBEq, usize_nat origin h.available,
      usize_nat origin h.queued, usize_nat origin h.active, usize_nat origin h.capacity]
    rfl
  case names => decide
  case aligned =>
    exact .written rfl (FieldSpec.req_check (usize_nat origin h.available)) <|
      .written rfl (FieldSpec.req_check (usize_nat origin h.queued)) <|
      .written rfl (FieldSpec.req_check (usize_nat origin h.active)) <|
      .written rfl (FieldSpec.req_check (usize_nat origin h.capacity)) .nil

end Status

/-- The wire and log codecs round-trip: stored events (tagged by their type names), slot
responses, requests, releases and heartbeats, capacity updates, statuses and leases all read
back to the values written, within the ranges their types hold. -/
theorem wire_and_log_round_trip :
    (∀ e : Event, e.Storable →
      decode Event.decoder e.toJson = .ok e ∧ e.toJson.field? "type" = some (.string e.typeName)) ∧
    (∀ r : Response, decode Response.decoder r.toJson = .ok r) ∧
    (∀ q : Request, q.Bounded → q.sentAt.RoundTrips → decode Request.decoder q.toJson = .ok q) ∧
    (∀ h : Holder, decode (Holder.decoder "PoolRelease") h.toJson = .ok h ∧
      decode (Holder.decoder "PoolHeartbeat") h.toJson = .ok h) ∧
    (∀ n : Int, -9223372036854775808 ≤ n → n ≤ 9223372036854775807 →
      decode capacityDecoder (capacityPayload n) = .ok n) ∧
    (∀ s : Status, s.Fits → decode Status.decoder s.toJson = .ok s) ∧
    (∀ l : Lease, l.acquiredAt.RoundTrips → l.lastHeartbeat.RoundTrips →
      decode Lease.decoder l.toJson = .ok l) :=
  ⟨fun _ h ↦ ⟨Event.decoder_toJson h .direct, Event.toJson_type _⟩,
    fun r ↦ r.decoder_toJson .direct,
    fun _ hb ht ↦ Request.decoder_toJson hb ht .direct,
    fun h ↦ ⟨h.decoder_toJson "PoolRelease" .direct, h.decoder_toJson "PoolHeartbeat" .direct⟩,
    fun _ hlow hhigh ↦ capacityDecoder_payload hlow hhigh .direct,
    fun _ h ↦ Status.decoder_toJson h .direct,
    fun _ ha hh ↦ Lease.decoder_toJson ha hh .direct⟩

/-- Noon on the first of March 2026. -/
def marchNoon : Instant := ⟨1772366400, 0⟩

/-- A minute-long request sent at that noon, a status of a full pool and a tick of the sweep at
that noon read back, as does a capacity update to the lowest signed 64-bit value. -/
theorem noon_payloads_read_back :
    (Event.ticked "expire" marchNoon).Storable ∧
      decode Event.decoder (Event.ticked "expire" marchNoon).toJson =
        .ok (Event.ticked "expire" marchNoon) ∧
    decode capacityDecoder (capacityPayload (-9223372036854775808)) = .ok (-9223372036854775808) ∧
    decode Status.decoder (Status.toJson ⟨0, 3, 5, 5⟩) = .ok ⟨0, 3, 5, 5⟩ ∧
    decode Request.decoder
        (Request.toJson ⟨"a", "a-run", "a-req", marchNoon, Span.ofMillis 60000, 0⟩) =
      .ok ⟨"a", "a-run", "a-req", marchNoon, Span.ofMillis 60000, 0⟩ :=
  have htick : (Event.ticked "expire" marchNoon).Storable := (rfl : marchNoon.RoundTrips)
  have hstatus : Status.Fits ⟨0, 3, 5, 5⟩ := ⟨by decide, by decide, by decide, by decide⟩
  have hrequest : Request.Bounded ⟨"a", "a-run", "a-req", marchNoon, Span.ofMillis 60000, 0⟩ :=
    ⟨by decide, by decide, by decide⟩
  ⟨htick, (wire_and_log_round_trip.1 _ htick).1,
    wire_and_log_round_trip.2.2.2.2.1 _ (by decide) (by decide),
    wire_and_log_round_trip.2.2.2.2.2.1 _ hstatus,
    wire_and_log_round_trip.2.2.1 _ hrequest rfl⟩

end SlotKeeper.Pool
