import SlotKeeper.Store.Sql

/-!
# Conversations of the SQL store

Every operation of the SQL store is a conversation: statements sent one at a time, each answered
by the database. `Talks s xs s'` records one: from session `s` the store exchanged `xs` (each
statement with the reply it got) and left the database as `s'`; the log gains exactly the
statements of `xs` (`Talks.log`). `Says m s Q` is the postcondition of store work `m` run from
`s`: its conversation and its ending (an answer, or the text of a crash) satisfy `Q`. There is
one rule per way store work is built (`Says.pure`, `Says.bind`, `Says.tryCatch`, ...) and one per
primitive (`Says.send`, `Says.exec`, the cell reads), so a proof steps through an operation as it
runs.

`Transacted Body` lists how a transaction can go around a body that goes as `Body` allows, and
`transaction_spec` proves that every transaction goes one of those ways.
-/

namespace SlotKeeper.Store.Sql

open Json Workflow

/-- A statement sent and the reply it got. -/
abbrev Exchange := Statement × Outcome

/-! ### The database's side -/

namespace Session

/-- The reply the database gives next to a statement of kind `k`: the first one scripted for the
kind, or, once its script is used up, no rows for a query and success for anything else. -/
def reply (s : Session) (k : Kind) : Outcome :=
  match s.script.find? (·.1 == k) with
  | some (_, r :: _) => r
  | _ => if k.selects then .rows [] else .done

/-- The session once the reply to a statement of kind `k` is used up. -/
def answered (s : Session) (k : Kind) : Session :=
  match s.script.find? (·.1 == k) with
  | some (_, _ :: rest) =>
    { s with script := s.script.map fun (k', rs) => if k' == k then (k', rest) else (k', rs) }
  | _ => s

/-- The session once statement `st` is logged and answered. -/
def receive (s : Session) (st : Statement) : Session :=
  ({ s with log := s.log ++ [st] } : Session).answered st.kind

@[simp] theorem answered_reachable (s : Session) (k : Kind) :
    (s.answered k).reachable = s.reachable := by
  unfold answered
  split <;> rfl

@[simp] theorem answered_minted (s : Session) (k : Kind) : (s.answered k).minted = s.minted := by
  unfold answered
  split <;> rfl

@[simp] theorem answered_log (s : Session) (k : Kind) : (s.answered k).log = s.log := by
  unfold answered
  split <;> rfl

@[simp] theorem receive_reachable (s : Session) (st : Statement) :
    (s.receive st).reachable = s.reachable := by
  simp [receive]

@[simp] theorem receive_minted (s : Session) (st : Statement) :
    (s.receive st).minted = s.minted := by
  simp [receive]

@[simp] theorem receive_log (s : Session) (st : Statement) :
    (s.receive st).log = s.log ++ [st] := by
  simp [receive]

end Session

/-- What a reply answers the store: its rows (none for a plain success), or the text of the
refusal. -/
def Outcome.answer : Outcome → Except String (List (List Value))
  | .done => .ok []
  | .rows rs => .ok rs
  | .failed _ message => .error ("error returned from database: " ++ message)

/-- Whether the database refused the statement. -/
def Outcome.refuses : Outcome → Bool
  | .failed .. => true
  | _ => false

theorem Outcome.refuses_of_answer {o : Outcome} {rs : List (List Value)}
    (h : o.answer = .ok rs) : o.refuses = false := by
  cases o <;> first | rfl | cases h

/-! ### Running store work -/

section Run

variable {α β : Type}

theorem pure_run (a : α) (s : Session) : (pure a : SqlM α).run s = .ok a s := rfl

theorem throw_run (c : String) (s : Session) : (throw c : SqlM α).run s = .error c s := rfl

theorem get_run (s : Session) : (get : SqlM Session).run s = .ok s s := rfl

theorem set_run (s s' : Session) : (set s' : SqlM PUnit).run s = .ok ⟨⟩ s' := rfl

theorem bind_run (x : SqlM α) (f : α → SqlM β) (s : Session) :
    (x >>= f).run s = match x.run s with
      | .ok a s' => (f a).run s'
      | .error c s' => .error c s' := by
  simp only [EStateM.run, bind, EStateM.bind]
  cases x s <;> rfl

/-- A caught crash keeps the session it left: the store's state is not backtracked. -/
theorem tryCatch_run (x : SqlM α) (h : String → SqlM α) (s : Session) :
    (tryCatch x h).run s = match x.run s with
      | .ok a s' => .ok a s'
      | .error c s' => (h c).run s' := by
  show EStateM.tryCatch x h s = match x s with
    | .ok a s' => .ok a s'
    | .error c s' => h c s'
  delta EStateM.tryCatch
  cases x s <;> rfl

end Run

theorem nextReply_run (k : Kind) (s : Session) :
    (nextReply k).run s = .ok (s.reply k) (s.answered k) := by
  unfold nextReply Session.reply Session.answered
  simp only [modifyGet, MonadStateOf.modifyGet, EStateM.run]
  delta EStateM.modifyGet
  dsimp only
  generalize s.script.find? (·.1 == k) = found
  rcases found with _ | ⟨_, _ | ⟨r, rest⟩⟩ <;> rfl

theorem send_run {s : Session} (hs : s.reachable = true) (k : Kind) (ps : Option (List Value)) :
    (send k ps).run s = .ok (s.reply k).answer (s.receive ⟨k, ps⟩) := by
  unfold send
  simp only [bind_run, get_run]
  rw [if_neg (by simp [hs])]
  simp only [bind_run, set_run, nextReply_run]
  have hreply : ({ s with log := s.log ++ [⟨k, ps⟩] } : Session).reply k = s.reply k := rfl
  rw [hreply]
  cases s.reply k <;> rfl

theorem send_run_unreachable {s : Session} (hs : s.reachable = false) (k : Kind)
    (ps : Option (List Value)) : (send k ps).run s = .ok (.error unreachableText) s := by
  unfold send
  simp only [bind_run, get_run]
  rw [if_pos (by simp [hs])]
  rfl

/-- The value a row holds in a named column of a kind's result. -/
def valueIn (k : Kind) (row : List Value) (column : String) : Option Value :=
  row[((columns k).findIdx? (·.1 == column)).getD 0]?

theorem cell_run (k : Kind) (row : List Value) (column : String) (s : Session) :
    (cell k row column).run s = match valueIn k row column with
      | some .null | none => .error (nullCrash column) s
      | some v => .ok v s := by
  unfold cell valueIn
  dsimp only
  generalize row[((columns k).findIdx? (·.1 == column)).getD 0]? = v
  rcases v with _ | ⟨_ | _ | _ | _ | _ | _⟩ <;> rfl

/-! ### Conversations -/

/-- `Talks s xs s'`: from session `s` the store exchanged `xs` with the database, in order, and
left it as `s'`. Each statement goes to a reachable database, is logged and gets the reply
scripted next for its kind; minting a run id says nothing. -/
inductive Talks : Session → List Exchange → Session → Prop
  | quiet (s : Session) : Talks s [] s
  | mint {s s' : Session} {xs : List Exchange} :
      Talks { s with minted := s.minted + 1 } xs s' → Talks s xs s'
  | send {s s' : Session} {xs : List Exchange} (st : Statement) :
      s.reachable = true → Talks (s.receive st) xs s' → Talks s ((st, s.reply st.kind) :: xs) s'

namespace Talks

variable {s s' s₁ s₂ : Session} {xs ys : List Exchange}

theorem append (h₁ : Talks s xs s₁) (h₂ : Talks s₁ ys s₂) : Talks s (xs ++ ys) s₂ := by
  induction h₁ with
  | quiet => exact h₂
  | mint _ ih => exact .mint (ih h₂)
  | send st hs _ ih => exact .send st hs (ih h₂)

/-- The database's log gains exactly the statements of the conversation. -/
theorem log (h : Talks s xs s') : s'.log = s.log ++ xs.map Prod.fst := by
  induction h with
  | quiet => simp
  | mint _ ih => exact ih
  | send st _ _ ih => simp [ih]

theorem reachable (h : Talks s xs s') : s'.reachable = s.reachable := by
  induction h with
  | quiet => rfl
  | mint _ ih => exact ih
  | send st _ _ ih => simpa using ih

end Talks

/-! ### Postconditions of store work -/

section Says

variable {α β : Type}

/-- The result of store work that ends in session `s`: its answer or the text of its crash. -/
def ending (o : Except String α) (s : Session) : EStateM.Result String Session α :=
  match o with
  | .ok a => .ok a s
  | .error c => .error c s

/-- `Says m s Q`: run from session `s`, work `m` holds a conversation `xs` with the database and
ends with `o` (its answer, or the text of its crash) in a session `s'` with `Q xs o s'`. -/
def Says (m : SqlM α) (s : Session) (Q : List Exchange → Except String α → Session → Prop) :
    Prop :=
  ∃ xs o s', Talks s xs s' ∧ m.run s = ending o s' ∧ Q xs o s'

variable {m x : SqlM α} {s : Session} {Q : List Exchange → Except String α → Session → Prop}

theorem Says.mono {Q' : List Exchange → Except String α → Session → Prop} (h : Says m s Q)
    (hq : ∀ xs o s', Talks s xs s' → Q xs o s' → Q' xs o s') : Says m s Q' := by
  obtain ⟨xs, o, s', ht, hr, hQ⟩ := h
  exact ⟨xs, o, s', ht, hr, hq xs o s' ht hQ⟩

/-- Work that says nothing and leaves the session alone. -/
theorem Says.get {f : Session → SqlM α} (h : Says (f s) s Q) : Says (MonadState.get >>= f) s Q := by
  obtain ⟨xs, o, s', ht, hr, hq⟩ := h
  exact ⟨xs, o, s', ht, by rw [bind_run, get_run]; exact hr, hq⟩

/-- Minting a run id says nothing. -/
theorem Says.mint {f : PUnit → SqlM α}
    (h : Says (f ⟨⟩) { s with minted := s.minted + 1 } Q) :
    Says (modify (fun s : Session ↦ { s with minted := s.minted + 1 }) >>= f) s Q := by
  obtain ⟨xs, o, s', ht, hr, hq⟩ := h
  exact ⟨xs, o, s', .mint ht, by rw [bind_run]; exact hr, hq⟩

theorem Says.quiet {o : Except String α} (hr : m.run s = ending o s) (h : Q [] o s) :
    Says m s Q :=
  ⟨[], o, s, .quiet s, hr, h⟩

theorem Says.pure {a : α} (h : Q [] (.ok a) s) : Says (Pure.pure a) s Q :=
  ⟨[], .ok a, s, .quiet s, pure_run a s, h⟩

theorem Says.throw {c : String} (h : Q [] (.error c) s) : Says (MonadExcept.throw c) s Q :=
  ⟨[], .error c, s, .quiet s, throw_run c s, h⟩

/-- Sequencing: the first work's conversation, then the second's when the first gave an answer. -/
theorem Says.bind {f : α → SqlM β} {Q : List Exchange → Except String β → Session → Prop}
    (h : Says x s fun xs o s₁ => match o with
      | .ok a => Says (f a) s₁ fun ys o' s₂ => Q (xs ++ ys) o' s₂
      | .error c => Q xs (.error c) s₁) :
    Says (x >>= f) s Q := by
  obtain ⟨xs, o, s₁, ht, hr, hQ⟩ := h
  cases o with
  | error c => exact ⟨xs, .error c, s₁, ht, by rw [bind_run, hr]; rfl, hQ⟩
  | ok a =>
    obtain ⟨ys, o', s₂, ht', hr', hQ'⟩ := hQ
    exact ⟨xs ++ ys, o', s₂, ht.append ht', by rw [bind_run, hr]; exact hr', hQ'⟩

/-- Catching a crash: the handler's conversation follows the one that crashed. -/
theorem Says.tryCatch {h : String → SqlM α}
    (hx : Says x s fun xs o s₁ => match o with
      | .ok a => Q xs (.ok a) s₁
      | .error c => Says (h c) s₁ fun ys o' s₂ => Q (xs ++ ys) o' s₂) :
    Says (MonadExcept.tryCatch x h) s Q := by
  obtain ⟨xs, o, s₁, ht, hr, hQ⟩ := hx
  cases o with
  | ok a => exact ⟨xs, .ok a, s₁, ht, by rw [tryCatch_run, hr]; rfl, hQ⟩
  | error c =>
    obtain ⟨ys, o', s₂, ht', hr', hQ'⟩ := hQ
    exact ⟨xs ++ ys, o', s₂, ht.append ht', by rw [tryCatch_run, hr]; exact hr', hQ'⟩

end Says

/-! ### Sending statements and reading rows -/

section Sending

variable {s : Session} {k : Kind} {ps : Option (List Value)}

/-- A statement to a reachable database is logged and answered with the reply scripted next. -/
theorem Says.send {Q : List Exchange → Except String (Except String (List (List Value))) →
      Session → Prop} (hs : s.reachable = true)
    (h : Q [(⟨k, ps⟩, s.reply k)] (.ok (s.reply k).answer) (s.receive ⟨k, ps⟩)) :
    Says (Sql.send k ps) s Q :=
  ⟨[(⟨k, ps⟩, s.reply k)], .ok (s.reply k).answer, _, .send ⟨k, ps⟩ hs (.quiet _),
    send_run hs k ps, h⟩

/-- A statement to an unreachable database fails without a word said. -/
theorem Says.send_unreachable {Q : List Exchange → Except String (Except String (List (List Value))) →
      Session → Prop} (hs : s.reachable = false) (h : Q [] (.ok (.error unreachableText)) s) :
    Says (Sql.send k ps) s Q :=
  ⟨[], .ok (.error unreachableText), s, .quiet s, send_run_unreachable hs k ps, h⟩

theorem Says.exec {Q : List Exchange → Except String (Except StoreError (List (List Value))) →
      Session → Prop} (hs : s.reachable = true)
    (h : Q [(⟨k, ps⟩, s.reply k)] (.ok ((s.reply k).answer.mapError .database))
      (s.receive ⟨k, ps⟩)) :
    Says (Sql.exec k ps) s Q := by
  unfold Sql.exec
  exact .bind (.send hs (.pure h))

/-- Logging a statement by hand and taking its reply is sending it. -/
theorem Says.logged {α : Type} {Q : List Exchange → Except String α → Session → Prop}
    {g : Outcome → SqlM α} (hs : s.reachable = true)
    (h : Says (g (s.reply k)) (s.receive ⟨k, ps⟩) fun ys o s' ↦
      Q ((⟨k, ps⟩, s.reply k) :: ys) o s') :
    Says (set ({ s with log := s.log ++ [⟨k, ps⟩] } : Session) >>= fun _ ↦ nextReply k >>= g)
      s Q := by
  obtain ⟨ys, o, s', ht, hr, hq⟩ := h
  refine ⟨_, o, s', .send ⟨k, ps⟩ hs ht, ?_, hq⟩
  rw [bind_run, set_run]
  show (nextReply k >>= g).run { s with log := s.log ++ [⟨k, ps⟩] } = _
  rw [bind_run, nextReply_run]
  exact hr

theorem Says.rollback {Q : List Exchange → Except String Unit → Session → Prop}
    (hs : s.reachable = true)
    (h : Q [(⟨.rollback, none⟩, s.reply .rollback)] (.ok ()) (s.receive ⟨.rollback, none⟩)) :
    Says Sql.rollback s Q := by
  unfold Sql.rollback
  exact .bind (.send hs (.pure h))

end Sending

section Cells

variable {s : Session} {k : Kind} {row : List Value} {column : String}

/-- Reading a cell says nothing; a missing or `NULL` value crashes. -/
theorem Says.cell {Q : List Exchange → Except String Value → Session → Prop}
    (hok : ∀ v, valueIn k row column = some v → v ≠ .null → Q [] (.ok v) s)
    (hcrash : Q [] (.error (nullCrash column)) s) : Says (Sql.cell k row column) s Q := by
  rcases hv : valueIn k row column with _ | v
  · exact ⟨[], .error _, s, .quiet s, by rw [cell_run, hv]; rfl, hcrash⟩
  · by_cases hnull : v = .null
    · subst hnull
      exact ⟨[], .error _, s, .quiet s, by rw [cell_run, hv]; rfl, hcrash⟩
    · refine ⟨[], .ok v, s, .quiet s, ?_, hok v hv hnull⟩
      rw [cell_run, hv]
      cases v <;> first | rfl | exact absurd rfl hnull

theorem Says.textCell {Q : List Exchange → Except String String → Session → Prop}
    (hok : ∀ v, valueIn k row column = some (.text v) → Q [] (.ok v) s)
    (hcrash : Q [] (.error (nullCrash column)) s) : Says (Sql.textCell k row column) s Q := by
  unfold Sql.textCell
  refine .bind (.cell (fun v hv hnull ↦ ?_) hcrash)
  cases v
  case text t => exact .pure (hok t hv)
  all_goals exact .throw hcrash

theorem Says.intCell {Q : List Exchange → Except String Int → Session → Prop}
    (hok : ∀ n, valueIn k row column = some (.int n) → Q [] (.ok n) s)
    (hcrash : Q [] (.error (nullCrash column)) s) : Says (Sql.intCell k row column) s Q := by
  unfold Sql.intCell
  refine .bind (.cell (fun v hv hnull ↦ ?_) hcrash)
  cases v
  case int n => exact .pure (hok n hv)
  all_goals exact .throw hcrash

theorem Says.jsonCell {Q : List Exchange → Except String Json → Session → Prop}
    (hok : ∀ j, valueIn k row column = some (.json j) → Q [] (.ok j) s)
    (hcrash : Q [] (.error (nullCrash column)) s) : Says (Sql.jsonCell k row column) s Q := by
  unfold Sql.jsonCell
  refine .bind (.cell (fun v hv hnull ↦ ?_) hcrash)
  cases v
  case json j => exact .pure (hok j hv)
  all_goals exact .throw hcrash

theorem Says.timeCell {Q : List Exchange → Except String Instant → Session → Prop}
    (hok : ∀ t, valueIn k row column = some (.timestamp t) → Q [] (.ok t) s)
    (hcrash : Q [] (.error (nullCrash column)) s) : Says (Sql.timeCell k row column) s Q := by
  unfold Sql.timeCell
  refine .bind (.cell (fun v hv hnull ↦ ?_) hcrash)
  cases v
  case timestamp t => exact .pure (hok t hv)
  all_goals exact .throw hcrash

end Cells

/-! ### Transactions -/

/-- How a transaction around a body can go. When the database cannot be reached nothing is said;
otherwise it begins, and a refused begin ends it. A body that answers is committed; a body that
fails or crashes, and a refused commit, are followed by a rollback, and the body's failure or
crash, or the commit's refusal, is the answer. -/
inductive Transacted {α : Type} (Body : List Exchange → Except String (Except StoreError α) → Prop) :
    List Exchange → Except String (Except StoreError α) → Prop
  | unreachable : Transacted Body [] (.ok (.error (.database unreachableText)))
  | unbegun {b : Outcome} {message : String} :
      b.answer = .error message →
      Transacted Body [(⟨.begin, none⟩, b)] (.ok (.error (.database message)))
  | committed {b c : Outcome} {xs : List Exchange} {a : α} :
      b.refuses = false → Body xs (.ok (.ok a)) → c.refuses = false →
      Transacted Body ((⟨.begin, none⟩, b) :: xs ++ [(⟨.commit, none⟩, c)]) (.ok (.ok a))
  | commitRefused {b c r : Outcome} {xs : List Exchange} {a : α} {message : String} :
      b.refuses = false → Body xs (.ok (.ok a)) → c.answer = .error message →
      Transacted Body
        ((⟨.begin, none⟩, b) :: xs ++ [(⟨.commit, none⟩, c), (⟨.rollback, none⟩, r)])
        (.ok (.error (.database message)))
  | rolledBack {b r : Outcome} {xs : List Exchange} {o : Except String (Except StoreError α)} :
      b.refuses = false → Body xs o → (∀ a, o ≠ .ok (.ok a)) →
      Transacted Body ((⟨.begin, none⟩, b) :: xs ++ [(⟨.rollback, none⟩, r)]) o

/-- A transaction says what `Transacted` allows of a body that, from any reachable session with
the same count of minted ids, says what `Body` allows. -/
theorem transaction_spec {α : Type} {body : SqlM (Except StoreError α)}
    {Body : List Exchange → Except String (Except StoreError α) → Prop} (s : Session)
    (hbody : ∀ s', s'.reachable = true → s'.minted = s.minted →
      Says body s' fun xs o _ ↦ Body xs o) :
    Says (transaction body) s fun xs o _ ↦ Transacted Body xs o := by
  unfold transaction
  cases hs : s.reachable
  case false => exact .bind (.bind (.send_unreachable hs (.pure (.pure .unreachable))))
  case true =>
  refine .bind (.exec hs ?_)
  dsimp only
  cases hb : (s.reply .begin).answer with
  | error m => exact .pure (.unbegun hb)
  | ok rows =>
  dsimp only [Except.mapError]
  have hbegun : (s.reply .begin).refuses = false := Outcome.refuses_of_answer hb
  refine .bind (.tryCatch ((hbody _ (by simp [hs]) (by simp)).mono ?_))
  intro xs o s₂ ht hxs
  have hs₂ : s₂.reachable = true := by rw [ht.reachable]; simp [hs]
  rcases o with c | e | a
  · exact .bind (.rollback hs₂ (.throw (.rolledBack hbegun hxs (fun _ h ↦ by cases h))))
  · exact .bind (.rollback hs₂ (.pure (.rolledBack hbegun hxs (fun _ h ↦ by cases h))))
  · refine .bind (.exec hs₂ ?_)
    dsimp only
    cases hc : (s₂.reply .commit).answer with
    | ok _ => exact .pure (.committed hbegun hxs (Outcome.refuses_of_answer hc))
    | error m => exact .bind (.rollback (by simp [hs₂]) (.pure (.commitRefused hbegun hxs hc)))

end SlotKeeper.Store.Sql
