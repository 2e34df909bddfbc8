import SlotKeeper.Proofs.Pool.Codec

/-!
# Reading back stored events

A run's history is stored event by event, each as an object tagged by `"type"`. Reading one
takes the tag first and then the remaining members as the fields of the tagged variant. The main
statement, `Event.decoder_toJson`: every event within the ranges of its stored form reads back
to itself, whatever JSON input, payload, signal name, reason or timer it carries. The stored
form's tag is the event's type name (`Event.toJson_type`).

Two facts carry it. Taking the tag out of a record leaves every other key to find what was
written under it, so a record written with a tag in front is read as the record of its fields
(`recordFields_untagged`). And a stored signal reads back to itself (`Signal.decoder_toJson`).
-/

namespace SlotKeeper

open Json

namespace Json

/-- Taking the members under `tag` out leaves every other key's lookup alone. -/
theorem find?_untagged (members : List (String × Json)) {tag key : String} (h : key ≠ tag) :
    (members.filter (·.1 != tag)).find? (·.1 == key) = members.find? (·.1 == key) := by
  rw [List.find?_filter]
  congr 1
  funext p
  by_cases hp : p.1 = key
  · -- a member under `key` is never a member under `tag`
    simp [hp, h]
  · simp [hp]

/-- The members of a record written with `tag` in front, once the tag is taken out again. -/
def untagged (tag : String × Json) (fields : List (String × Json)) : List (String × Json) :=
  (filed [] (tag :: fields)).filter (·.1 != tag.1)

/-- A record written with a tag in front and the tag taken out finds every other key where the
fields alone would. -/
theorem find?_untagged_record {tag : String × Json} {fields : List (String × Json)} {key : String}
    (h : key ≠ tag.1) :
    (untagged tag fields).find? (·.1 == key) = fields.reverse.find? (·.1 == key) := by
  have hmiss : [tag].find? (·.1 == key) = none := by
    simp [Ne.symm h]
  unfold untagged
  rw [find?_untagged _ h, find?_record, List.reverse_cons, List.find?_append, hmiss,
    Option.or_none]

/-- A record written with a tag in front and the tag taken out is read as the struct its fields
spell, when no field is written under the tag. -/
theorem recordFields_untagged (what : String) {specs : List FieldSpec} {origin : Origin}
    {tag : String × Json} {fields : List (String × Json)} (htag : ∀ p ∈ fields, p.1 ≠ tag.1)
    (hnames : (specs.map (·.name)).Nodup) (h : Aligned origin fields specs) :
    recordFields what specs origin (.object (untagged tag fields)) =
      .ok ⟨origin, untagged tag fields⟩ := by
  refine recordFields_object what (fun p hp spec hspec hname ↦ ?_) fun spec hspec hrequired ↦ ?_
  · -- a member left is one of the fields
    obtain ⟨hmem, hkey⟩ := List.mem_filter.mp hp
    have hfield : p ∈ fields := by
      rcases mem_filed hmem with hmem | hmem
      · rcases List.mem_cons.mp hmem with rfl | hmem
        · simp at hkey
        · exact hmem
      · cases hmem
    exact h.checks hnames p hfield spec hspec hname
  · -- a required field is written, and found under its name once the tag is out
    obtain ⟨p, hp, hname⟩ := h.required spec hspec hrequired
    have hkey : spec.name ≠ tag.1 := hname ▸ htag p hp
    have hfound : ((untagged tag fields).find? (·.1 == spec.name)).isSome := by
      rw [find?_untagged_record hkey, List.find?_isSome]
      exact ⟨p, List.mem_reverse.mpr hp, by simp [hname]⟩
    obtain ⟨q, hq⟩ := Option.isSome_iff_exists.mp hfound
    exact ⟨q, List.mem_of_find?_eq_some hq, by simpa using List.find?_some hq⟩

/-- A field of a record written with a tag in front is read from what was written under it. -/
theorem Fields.get_tagged {α : Type} (d : Decoder α) {origin : Origin} {tag : String × Json}
    {fields : List (String × Json)} {key : String} {j : Json} (hkey : key ≠ tag.1)
    (hfind : fields.reverse.find? (·.1 == key) = some (key, j)) :
    Fields.get ⟨origin, untagged tag fields⟩ key d = d origin j := by
  unfold Fields.get
  dsimp only
  rw [find?_untagged_record hkey, hfind]

/-- A record of one field written with a tag in front reads back field by field. -/
theorem untagged_reads_one {α β : Type} (what : String) {key : String} {d : Decoder α}
    {mk : α → β} {tag : String × Json} {j : Json} {a : α} (hkey : key ≠ tag.1)
    (hread : d .buffered j = .ok a) :
    (do
      let fs ← recordFields what [.req key d] .buffered (.object (untagged tag [(key, j)]))
      pure (mk (← fs.get key d))) = Except.ok (mk a) := by
  have htag : ∀ p ∈ [(key, j)], p.1 ≠ tag.1 := by simpa using hkey
  have hfind : [(key, j)].reverse.find? (·.1 == key) = some (key, j) := by simp
  rw [recordFields_untagged what htag (by simp) (.written rfl (FieldSpec.req_check hread) .nil)]
  dsimp only [bind, Except.bind]
  rw [Fields.get_tagged d hkey hfind, hread]
  rfl

/-- A record of two fields written with a tag in front reads back field by field. -/
theorem untagged_reads_two {α β γ : Type} (what : String) {key₁ key₂ : String}
    {d₁ : Decoder α} {d₂ : Decoder β} {mk : α → β → γ} {tag : String × Json} {j₁ j₂ : Json}
    {a : α} {b : β} (hkeys : key₁ ≠ key₂) (hkey₁ : key₁ ≠ tag.1) (hkey₂ : key₂ ≠ tag.1)
    (hread₁ : d₁ .buffered j₁ = .ok a) (hread₂ : d₂ .buffered j₂ = .ok b) :
    (do
      let fs ← recordFields what [.req key₁ d₁, .req key₂ d₂] .buffered
        (.object (untagged tag [(key₁, j₁), (key₂, j₂)]))
      pure (mk (← fs.get key₁ d₁) (← fs.get key₂ d₂))) = Except.ok (mk a b) := by
  have htag : ∀ p ∈ [(key₁, j₁), (key₂, j₂)], p.1 ≠ tag.1 := by simp [hkey₁, hkey₂]
  have hnames : ([FieldSpec.req key₁ d₁, FieldSpec.req key₂ d₂].map (·.name)).Nodup := by
    simpa [FieldSpec.req, FieldSpec.of] using hkeys
  -- the later field is found first in the reversed members, and only under its own key
  have hfind₁ : [(key₁, j₁), (key₂, j₂)].reverse.find? (·.1 == key₁) = some (key₁, j₁) := by
    simp [Ne.symm hkeys]
  have hfind₂ : [(key₁, j₁), (key₂, j₂)].reverse.find? (·.1 == key₂) = some (key₂, j₂) := by
    simp
  rw [recordFields_untagged what htag hnames
    (.written rfl (FieldSpec.req_check hread₁) <| .written rfl (FieldSpec.req_check hread₂) .nil)]
  dsimp only [bind, Except.bind]
  rw [Fields.get_tagged d₁ hkey₁ hfind₁, hread₁]
  dsimp only
  rw [Fields.get_tagged d₂ hkey₂ hfind₂, hread₂]
  rfl

end Json

namespace Workflow

theorem Signal.decoder_toJson {s : Signal} (h : s.sentAt.RoundTrips) (origin : Origin) :
    Signal.decoder origin s.toJson = .ok s := by
  obtain ⟨kind, payload, sentAt⟩ := s
  have hpayload : anyValue origin payload = .ok payload := rfl
  unfold decoder toJson
  rw [structFields_aligned "WorkflowSignal" ?names ?aligned]
  · dsimp only [bind, Except.bind]
    simp only [Fields.get, find?_record, List.reverse_cons, List.reverse_nil, List.nil_append,
      List.cons_append, List.find?_cons, String.reduceBEq, text_string, hpayload,
      Instant.decoder_toJson h]
    rfl
  case names => decide
  case aligned =>
    exact .written rfl (FieldSpec.req_check (text_string origin _)) <|
      .written rfl (FieldSpec.req_check hpayload) <|
      .written rfl (FieldSpec.req_check (Instant.decoder_toJson h origin)) .nil

namespace Event

/-- An event within the ranges of its stored form: every instant it holds reads back from its
text, and an action count fits 64 bits. -/
def Storable : Event → Prop
  | .started _ t | .ticked _ t => t.RoundTrips
  | .signalled s t => s.sentAt.RoundTrips ∧ t.RoundTrips
  | .delivered n => n ≤ Nat.pow 2 64 - 1
  | .continued _ | .cancelled _ | .terminated _ => True

/-- No field of an event is written under the tag's key. -/
theorem fields_ne_type (e : Event) (stamped : Bool) : ∀ p ∈ e.fields stamped, p.1 ≠ "type" := by
  cases e <;> simp [fields]

/-- A record tagged with a variant's name is read as that variant, from the members left once
the tag is taken out. -/
theorem decoder_tagged {name : String} (hname : name ∈ tags) {fields : List (String × Json)}
    (htag : ∀ p ∈ fields, p.1 ≠ "type") (origin : Origin) :
    decoder origin (record (("type", .string name) :: fields)) =
      body name (.object (untagged ("type", .string name) fields)) := by
  have hfind : (filed [] (("type", .string name) :: fields)).find? (·.1 == "type") =
      some ("type", .string name) := by
    rw [find?_record, List.reverse_cons, List.find?_append, List.find?_eq_none.mpr]
    · simp
    · intro p hp
      simpa using htag p (List.mem_reverse.mp hp)
  have htagged : tag (.string name) = .ok name := by
    unfold tag
    simp [hname]
  unfold decoder
  rw [record_eq]
  dsimp only
  rw [hfind]
  dsimp only
  rw [htagged]
  rfl

/-- The stored form carries the event's type name under `"type"`. -/
theorem toJson_type (e : Event) : e.toJson.field? "type" = some (.string e.typeName) := by
  have hmiss : (e.fields true).reverse.find? (·.1 == "type") = none := by
    rw [List.find?_eq_none]
    intro p hp
    simpa using fields_ne_type e true p (List.mem_reverse.mp hp)
  unfold toJson
  rw [record_eq]
  simp only [field?, find?_record, List.reverse_cons, List.find?_append, hmiss]
  simp

/-- Every event within the ranges of its stored form reads back to itself. -/
theorem decoder_toJson {e : Event} (h : e.Storable) (origin : Origin) :
    decoder origin e.toJson = .ok e := by
  rw [toJson, decoder_tagged (typeName_mem_tags e) (fields_ne_type e true)]
  cases e with
  | started input t =>
    have hinput : anyValue Origin.buffered input = .ok input := rfl
    simp +decide only [body, typeName, fields]
    exact untagged_reads_two _ (by decide) (by decide) (by decide) hinput
      (Instant.decoder_toJson h .buffered)
  | continued input =>
    have hinput : anyValue Origin.buffered input = .ok input := rfl
    simp +decide only [body, typeName, fields]
    exact untagged_reads_one _ (by decide) hinput
  | cancelled reason =>
    simp +decide only [body, typeName, fields]
    exact untagged_reads_one _ (by decide) (text_string .buffered reason)
  | terminated reason =>
    simp +decide only [body, typeName, fields]
    exact untagged_reads_one _ (by decide) (text_string .buffered reason)
  | signalled s t =>
    simp +decide only [body, typeName, fields, if_true]
    exact untagged_reads_two _ (by decide) (by decide) (by decide)
      (Signal.decoder_toJson h.1 .buffered) (Instant.decoder_toJson h.2 .buffered)
  | ticked timer t =>
    simp +decide only [body, typeName, fields]
    exact untagged_reads_two _ (by decide) (by decide) (by decide) (text_string .buffered timer)
      (Instant.decoder_toJson h .buffered)
  | delivered n =>
    simp +decide only [body, typeName, fields]
    exact untagged_reads_one _ (by decide) (usize_nat .buffered h)

end Event

end Workflow

end SlotKeeper
