import SlotKeeper.Json.Decode

/-!
# Reading back what a record writes

`Json.record` files its members in key order, the last of two equal keys winning, so a key looks
up the last member written under it. A struct decoder reads such an object back when every
member's value passes the check of the field it names and every required field is written: the
fields are then found by key, each with the value written for it.

The scalar decoders read back what their writers write within the ranges of their types:
unsigned and signed integers within their bounds, strings, optional values, and lists item by
item.
-/

namespace SlotKeeper.Json

/-- Inserting a member answers its key with the new member and leaves every other key alone. -/
theorem find?_insertMember (key : String) (value : Json) (members : List (String × Json))
    (k : String) :
    (insertMember key value members).find? (·.1 == k) =
      if k = key then some (key, value) else members.find? (·.1 == k) := by
  induction members with
  | nil =>
    by_cases hk : k = key
    · subst hk
      simp [insertMember]
    · simp [insertMember, Ne.symm hk, hk]
  | cons m rest ih =>
    obtain ⟨k', v'⟩ := m
    unfold insertMember
    by_cases heq : key = k'
    · -- the member under the same key is replaced
      rw [if_pos heq]
      subst heq
      by_cases hk : k = key
      · subst hk
        simp
      · simp [hk, Ne.symm hk]
    · rw [if_neg heq]
      by_cases hlt : key < k'
      · rw [if_pos hlt]
        by_cases hk : k = key
        · subst hk
          simp
        · simp [hk, Ne.symm hk]
      · -- the new member goes further down; the member in front keeps its key
        rw [if_neg hlt, List.find?_cons, List.find?_cons, ih]
        by_cases hk : k' = k
        · subst hk
          have hne : ¬k' = key := fun h ↦ heq h.symm
          simp [hne]
        · have hmiss : (k' == k) = false := by simpa using hk
          rw [hmiss]

/-- A member of the inserted list is the new member or an old one. -/
theorem mem_insertMember {key : String} {value : Json} {members : List (String × Json)}
    {p : String × Json} (h : p ∈ insertMember key value members) :
    p = (key, value) ∨ p ∈ members := by
  induction members with
  | nil => simpa [insertMember] using h
  | cons m rest ih =>
    obtain ⟨k', v'⟩ := m
    unfold insertMember at h
    by_cases heq : key = k'
    · rw [if_pos heq, List.mem_cons] at h
      rcases h with rfl | h
      · exact .inl rfl
      · exact .inr (List.mem_cons_of_mem _ h)
    · rw [if_neg heq] at h
      by_cases hlt : key < k'
      · rw [if_pos hlt, List.mem_cons] at h
        rcases h with rfl | h
        · exact .inl rfl
        · exact .inr h
      · rw [if_neg hlt, List.mem_cons] at h
        rcases h with rfl | h
        · exact .inr List.mem_cons_self
        · exact (ih h).imp id (List.mem_cons_of_mem _)

/-- The members a record files, from any starting list. -/
def filed (acc members : List (String × Json)) : List (String × Json) :=
  members.foldl (fun acc m => insertMember m.1 m.2 acc) acc

/-- A key finds the last member written under it, or else what the starting list held. -/
theorem find?_filed (acc members : List (String × Json)) (k : String) :
    (filed acc members).find? (·.1 == k) =
      (members.reverse.find? (·.1 == k)).or (acc.find? (·.1 == k)) := by
  induction members generalizing acc with
  | nil => rfl
  | cons m rest ih =>
    obtain ⟨key, value⟩ := m
    unfold filed at ih ⊢
    rw [List.foldl_cons, ih, find?_insertMember, List.reverse_cons, List.find?_append]
    by_cases hk : k = key
    · subst hk
      simp
    · simp [hk, Ne.symm hk]

/-- Every filed member was written or was there before. -/
theorem mem_filed {acc members : List (String × Json)} {p : String × Json}
    (h : p ∈ filed acc members) : p ∈ members ∨ p ∈ acc := by
  induction members generalizing acc with
  | nil => exact .inr h
  | cons m rest ih =>
    unfold filed at ih h
    rw [List.foldl_cons] at h
    rcases ih h with hrest | hins
    · exact .inl (List.mem_cons_of_mem _ hrest)
    · rcases mem_insertMember hins with rfl | hacc
      · exact .inl List.mem_cons_self
      · exact .inr hacc

theorem record_eq (members : List (String × Json)) : record members = .object (filed [] members) :=
  rfl

/-- A key of a record finds the last member written under it. -/
theorem find?_record (members : List (String × Json)) (k : String) :
    (filed [] members).find? (·.1 == k) = members.reverse.find? (·.1 == k) := by
  rw [find?_filed]
  cases members.reverse.find? (·.1 == k) <;> rfl

/-! ### Struct fields -/

/-- No member fails when each passes the check of the field it names. -/
theorem firstFailure_eq_none {origin : Origin} {specs : List FieldSpec}
    {members : List (String × Json)}
    (h : ∀ p ∈ members, ∀ spec ∈ specs, spec.name = p.1 → spec.check origin p.2 = none) :
    firstFailure origin specs members = none := by
  induction members with
  | nil => rfl
  | cons p rest ih =>
    obtain ⟨key, value⟩ := p
    have hrest := ih fun q hq ↦ h q (List.mem_cons_of_mem _ hq)
    unfold firstFailure
    cases hfind : specs.find? (·.name == key) with
    | none => exact hrest
    | some spec =>
      have hmem := List.mem_of_find?_eq_some hfind
      have hname : spec.name = key := by simpa using List.find?_some hfind
      dsimp only
      rw [h _ List.mem_cons_self spec hmem hname]
      exact hrest

/-- An object is read as a struct when every member passes the check of the field it names and
every required field is present. -/
theorem recordFields_object (what : String) {specs : List FieldSpec} {origin : Origin}
    {members : List (String × Json)}
    (hcheck : ∀ p ∈ members, ∀ spec ∈ specs, spec.name = p.1 → spec.check origin p.2 = none)
    (hreq : ∀ spec ∈ specs, spec.absence = .required → ∃ p ∈ members, p.1 = spec.name) :
    recordFields what specs origin (.object members) = .ok ⟨origin, members⟩ := by
  unfold recordFields
  dsimp only
  rw [firstFailure_eq_none hcheck]
  dsimp only
  rw [List.find?_eq_none.mpr]
  intro spec hspec hmissing
  simp only [Bool.and_eq_true, decide_eq_true_eq, Bool.not_eq_true', List.any_eq_false,
    beq_iff_eq] at hmissing
  obtain ⟨p, hp, hname⟩ := hreq spec hspec hmissing.1
  exact hmissing.2 p hp hname

/-- A record is read as a struct when every written value passes the check of the field it
names and every required field is written. -/
theorem structFields_record (name : String) {specs : List FieldSpec} {origin : Origin}
    {members : List (String × Json)}
    (hcheck : ∀ p ∈ members, ∀ spec ∈ specs, spec.name = p.1 → spec.check origin p.2 = none)
    (hreq : ∀ spec ∈ specs, spec.absence = .required → ∃ p ∈ members, p.1 = spec.name) :
    structFields name specs origin (record members) = .ok ⟨origin, filed [] members⟩ := by
  unfold structFields
  rw [record_eq]
  refine recordFields_object _ (fun p hp spec hspec hname ↦ ?_) fun spec hspec hrequired ↦ ?_
  · rcases mem_filed hp with hp | hp
    · exact hcheck p hp spec hspec hname
    · cases hp
  · -- a written key is found among the filed members
    obtain ⟨p, hp, hname⟩ := hreq spec hspec hrequired
    have hfound : ((filed [] members).find? (·.1 == spec.name)).isSome := by
      rw [find?_record, List.find?_isSome]
      exact ⟨p, List.mem_reverse.mpr hp, by simp [hname]⟩
    obtain ⟨q, hq⟩ := Option.isSome_iff_exists.mp hfound
    exact ⟨q, List.mem_of_find?_eq_some hq, by simpa using List.find?_some hq⟩

/-- The members of a record written in the order of a struct's fields: each member fills the
next field it names with a value that passes that field's check, and a field left unwritten
may be absent. -/
inductive Aligned (origin : Origin) : List (String × Json) → List FieldSpec → Prop
  | nil : Aligned origin [] []
  | written {p : String × Json} {spec : FieldSpec} {members specs}
      (hname : p.1 = spec.name) (hcheck : spec.check origin p.2 = none)
      (rest : Aligned origin members specs) : Aligned origin (p :: members) (spec :: specs)
  | skipped {spec : FieldSpec} {members specs} (habsent : spec.absence ≠ .required)
      (rest : Aligned origin members specs) : Aligned origin members (spec :: specs)

namespace Aligned

variable {origin : Origin} {members : List (String × Json)} {specs : List FieldSpec}

/-- Every member is written under the name of a field. -/
theorem key_mem (h : Aligned origin members specs) :
    ∀ p ∈ members, p.1 ∈ specs.map (·.name) := by
  induction h with
  | nil => intro p hp; cases hp
  | written hname _ _ ih =>
    intro p hp
    rcases List.mem_cons.mp hp with rfl | hp
    · exact List.mem_cons.mpr (.inl hname)
    · exact List.mem_cons_of_mem _ (ih p hp)
  | skipped _ _ ih => exact fun p hp ↦ List.mem_cons_of_mem _ (ih p hp)

/-- When the fields' names are distinct, every member passes the check of the field it names. -/
theorem checks (h : Aligned origin members specs) (hnames : (specs.map (·.name)).Nodup) :
    ∀ p ∈ members, ∀ spec ∈ specs, spec.name = p.1 → spec.check origin p.2 = none := by
  induction h with
  | nil => intro p hp; cases hp
  | @written p₀ s₀ ps ss hname hcheck rest ih =>
    rw [List.map_cons, List.nodup_cons] at hnames
    obtain ⟨hfresh, hnodup⟩ := hnames
    intro p hp spec hspec hkey
    rcases List.mem_cons.mp hp with rfl | hp <;> rcases List.mem_cons.mp hspec with rfl | hspec
    · exact hcheck
    · -- a later field under the head member's name would repeat the head field's name
      exact absurd (hname ▸ hkey ▸ List.mem_map_of_mem hspec) hfresh
    · -- a later member under the head field's name would repeat that name
      exact absurd (hkey ▸ rest.key_mem p hp) hfresh
    · exact ih hnodup p hp spec hspec hkey
  | @skipped s₀ ps ss habsent rest ih =>
    rw [List.map_cons, List.nodup_cons] at hnames
    obtain ⟨hfresh, hnodup⟩ := hnames
    intro p hp spec hspec hkey
    rcases List.mem_cons.mp hspec with rfl | hspec
    · -- no member is written under the name of a skipped field
      exact absurd (hkey ▸ rest.key_mem p hp) hfresh
    · exact ih hnodup p hp spec hspec hkey

/-- Every required field is written. -/
theorem required (h : Aligned origin members specs) :
    ∀ spec ∈ specs, spec.absence = .required → ∃ p ∈ members, p.1 = spec.name := by
  induction h with
  | nil => intro spec hspec; cases hspec
  | @written p₀ s₀ ps ss hname _ _ ih =>
    intro spec hspec hrequired
    rcases List.mem_cons.mp hspec with rfl | hspec
    · exact ⟨p₀, List.mem_cons_self, hname⟩
    · obtain ⟨p, hp, hkey⟩ := ih spec hspec hrequired
      exact ⟨p, List.mem_cons_of_mem _ hp, hkey⟩
  | skipped habsent _ ih =>
    intro spec hspec hrequired
    rcases List.mem_cons.mp hspec with rfl | hspec
    · exact absurd hrequired habsent
    · exact ih spec hspec hrequired

end Aligned

/-- A record whose members are written in the order of a struct's fields is read as that struct
when the fields' names are distinct. -/
theorem structFields_aligned (name : String) {specs : List FieldSpec} {origin : Origin}
    {members : List (String × Json)} (hnames : (specs.map (·.name)).Nodup)
    (h : Aligned origin members specs) :
    structFields name specs origin (record members) = .ok ⟨origin, filed [] members⟩ :=
  structFields_record name (h.checks hnames) h.required

/-- The check of a field passes on a value its decoder reads. -/
theorem FieldSpec.check_of {α : Type} {name : String} {d : Decoder α} {absence : Absence}
    {origin : Origin} {j : Json} {a : α} (h : d origin j = .ok a) :
    (FieldSpec.of name d absence).check origin j = none := by
  unfold FieldSpec.of
  dsimp only
  rw [h]

theorem FieldSpec.req_check {α : Type} {name : String} {d : Decoder α} {origin : Origin}
    {j : Json} {a : α} (h : d origin j = .ok a) : (FieldSpec.req name d).check origin j = none :=
  check_of h

theorem FieldSpec.dflt_check {α : Type} {name : String} {d : Decoder α} {origin : Origin}
    {j : Json} {a : α} (h : d origin j = .ok a) : (FieldSpec.dflt name d).check origin j = none :=
  check_of h

/-- A field written under a key is read from the filed members by its decoder. -/
theorem Fields.get_filed {α : Type} {origin : Origin} {members : List (String × Json)}
    {key : String} {j : Json} (d : Decoder α)
    (hfind : members.reverse.find? (·.1 == key) = some (key, j)) :
    Fields.get ⟨origin, filed [] members⟩ key d = d origin j := by
  unfold Fields.get
  dsimp only
  rw [find?_record, hfind]

/-- A field with a default written under a key is read like a required one. -/
theorem Fields.getD_filed {α : Type} {origin : Origin} {members : List (String × Json)}
    {key : String} {j : Json} (d : Decoder α) (fallback : α)
    (hfind : members.reverse.find? (·.1 == key) = some (key, j)) :
    Fields.getD ⟨origin, filed [] members⟩ key d fallback = d origin j := by
  unfold Fields.getD
  dsimp only
  rw [find?_record, hfind]

/-- A field with a default that was not written takes its default. -/
theorem Fields.getD_filed_none {α : Type} {origin : Origin} {members : List (String × Json)}
    {key : String} (d : Decoder α) (fallback : α)
    (hfind : members.reverse.find? (·.1 == key) = none) :
    Fields.getD ⟨origin, filed [] members⟩ key d fallback = .ok fallback := by
  unfold Fields.getD
  dsimp only
  rw [find?_record, hfind]

/-! ### Scalars -/

/-- An unsigned integer within its bound reads back. -/
theorem unsignedUpTo_nat {name : String} {bound n : Nat} (origin : Origin) (h : n ≤ bound) :
    unsignedUpTo name bound origin (nat n) = .ok n := by
  unfold unsignedUpTo nat
  dsimp only
  rw [if_pos h]

/-- A signed integer within its bounds reads back, written either way. -/
theorem signedWithin_int {name : String} {low high n : Int} (origin : Origin) (hlow : low ≤ n)
    (hhigh : n ≤ high) : signedWithin name low high origin (int n) = .ok n := by
  unfold signedWithin int
  by_cases hn : 0 ≤ n
  · rw [if_pos hn]
    dsimp only
    rw [Int.toNat_of_nonneg hn, if_pos hhigh]
  · rw [if_neg hn]
    dsimp only
    rw [if_pos ⟨hlow, hhigh⟩]

/-- An unsigned integer read is within its bound. -/
theorem le_of_unsignedUpTo {name : String} {bound n : Nat} {origin : Origin} {j : Json}
    (h : unsignedUpTo name bound origin j = .ok n) : n ≤ bound := by
  unfold unsignedUpTo at h
  split at h
  · split at h
    · cases h
      assumption
    · cases h
  · cases h
  · cases h

/-- A signed integer read is within its bounds, when the lower bound is not positive. -/
theorem bounds_of_signedWithin {name : String} {low high n : Int} {origin : Origin} {j : Json}
    (hlow : low ≤ 0) (h : signedWithin name low high origin j = .ok n) : low ≤ n ∧ n ≤ high := by
  unfold signedWithin at h
  split at h
  · split at h
    · -- an unsigned integer is at least zero
      cases h
      exact ⟨Int.le_trans hlow (Int.natCast_nonneg _), by assumption⟩
    · cases h
  · split at h
    · cases h
      assumption
    · cases h
  · cases h

@[simp] theorem text_string (origin : Origin) (s : String) : text origin (.string s) = .ok s :=
  rfl

/-- An optional value written as itself or as `null` reads back. -/
theorem optional_opt {α : Type} {d : Decoder α} {f : α → Json} {origin : Origin}
    (hnull : ∀ a, f a ≠ .null) {o : Option α} (hread : ∀ a ∈ o, d origin (f a) = .ok a) :
    optional d origin (opt f o) = .ok o := by
  cases o with
  | none => rfl
  | some a =>
    unfold optional opt
    dsimp only
    cases hfa : f a with
    | null => exact absurd hfa (hnull a)
    | _ =>
      dsimp only
      rw [← hfa, hread a rfl]
      rfl

/-- A list written item by item reads back when every item does. -/
theorem mapM_map_of_read {ε α β : Type} {g : β → Except ε α} {f : α → β} {xs : List α}
    (hread : ∀ a ∈ xs, g (f a) = .ok a) : (xs.map f).mapM g = .ok xs := by
  induction xs with
  | nil => rfl
  | cons a rest ih =>
    rw [List.map_cons, List.mapM_cons, hread a List.mem_cons_self,
      ih fun b hb ↦ hread b (List.mem_cons_of_mem _ hb)]
    rfl

theorem listOf_array {α : Type} {d : Decoder α} {f : α → Json} {origin : Origin}
    {xs : List α} (hread : ∀ a ∈ xs, d origin (f a) = .ok a) :
    listOf d origin (.array (xs.map f)) = .ok xs :=
  mapM_map_of_read hread

/-! ### What a read accepts -/

/-- A read of several steps succeeds only when its first step does. -/
theorem Except.bind_eq_ok {ε α β : Type} {x : Except ε α} {f : α → Except ε β} {b : β}
    (h : x >>= f = .ok b) : ∃ a, x = .ok a ∧ f a = .ok b := by
  cases x with
  | error e => cases h
  | ok a => exact ⟨a, rfl, h⟩

/-- A required field is read by its decoder. -/
theorem Fields.decoded_of_get {α : Type} {fs : Fields} {name : String} {d : Decoder α} {a : α}
    (h : fs.get name d = .ok a) : ∃ j, d fs.origin j = .ok a := by
  unfold Fields.get at h
  split at h
  · exact ⟨_, h⟩
  · cases h

/-- A field with a default takes its default or is read by its decoder. -/
theorem Fields.decoded_of_getD {α : Type} {fs : Fields} {name : String} {d : Decoder α}
    {fallback a : α} (h : fs.getD name d fallback = .ok a) :
    a = fallback ∨ ∃ j, d fs.origin j = .ok a := by
  unfold Fields.getD at h
  split at h
  · exact .inr ⟨_, h⟩
  · cases h
    exact .inl rfl

end SlotKeeper.Json
