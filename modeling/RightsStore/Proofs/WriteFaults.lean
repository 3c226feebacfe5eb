import RightsStore.Proofs.Issues

namespace RightsStore

open Failure (ofExecuted)

section Faults

variable {ε α β : Type} {x : Except ε α} {f : α → Except ε β} {faults more : List (Bool × ε)} {e : ε}

def firstFault (faults : List (Bool × ε)) : Option ε := (faults.find? (·.1)).map (·.2)

/-- `x` fails by the first fault that is there, and succeeds if there is none. -/
def Fails (x : Except ε α) (faults : List (Bool × ε)) : Prop :=
  match firstFault faults with
  | some e => x = .error e
  | none => ∃ a, x = .ok a

theorem Fails.ok (a : α) : Fails (.ok a : Except ε α) [] := ⟨a, rfl⟩

theorem Fails.check (p : Prop) [Decidable p] (e : ε) (a : α) :
    Fails (if p then .error e else .ok a) [(decide p, e)] := by
  by_cases h : p
  · rw [if_pos h, decide_eq_true h]
    rfl
  · rw [if_neg h, decide_eq_false h]
    exact ⟨a, rfl⟩

theorem Fails.absent (h : Fails x faults) : Fails x ((false, e) :: faults) := h

theorem Fails.bind (hx : Fails x faults) (hf : ∀ a, x = .ok a → Fails (f a) more) :
    Fails (x >>= f) (faults ++ more) := by
  unfold Fails firstFault at *
  rw [List.find?_append]
  cases hfirst : faults.find? (·.1) with
  | some c =>
    rw [hfirst] at hx
    have hx : x = .error c.2 := hx
    rw [hx]
    rfl
  | none =>
    rw [hfirst] at hx
    obtain ⟨a, rfl⟩ := hx
    exact hf a rfl

theorem Fails.pure_bind (k : α → β) (h : Fails x faults) :
    Fails (x >>= fun a => pure (k a)) faults := by
  rw [← List.append_nil faults]
  exact h.bind fun a _ => .ok (k a)

def refused (faults : List (Bool × Refusal)) : List (Bool × Failure) :=
  faults.map fun c => (c.1, .refused c.2)

theorem Fails.ofExecuted {x : Executed α} {faults : List (Bool × Refusal)} (h : Fails x faults) :
    Fails (ofExecuted x) (refused faults) := by
  unfold Fails firstFault at *
  rw [refused, List.find?_map]
  cases hfirst : faults.find? (·.1) with
  | some c =>
    rw [hfirst] at h
    have h : x = .error c.2 := h
    rw [h, Function.comp_def, hfirst]
    rfl
  | none =>
    rw [hfirst] at h
    obtain ⟨a, rfl⟩ := h
    rw [Function.comp_def, hfirst]
    exact ⟨a, rfl⟩

end Faults

def Datum.beyondWord : Datum → Bool
  | .int n => !fitsWord n
  | _ => false

def Stamp.beyondUtc : Stamp → Bool
  | .moment t => t.utc?.isNone
  | .datum _ => false

def Stamp.IsTime (s : Stamp) : Prop := s = .null ∨ ∃ t, s = .moment t

structure License.Timed (l : License) : Prop where
  issued : l.issued.IsTime
  start : l.grants.start.IsTime
  stop : l.grants.stop.IsTime

section Bound

variable {d : Datum} {s : Stamp}

theorem fails_bind_text (h : d.IsText) (k : Nat) : Fails (d.bind k) [] := by
  rcases h with rfl | ⟨t, rfl⟩ <;> exact .ok _

theorem fails_bind_integer (h : d.IsInteger) (k : Nat) :
    Fails (d.bind k) [(d.beyondWord, .integerRange)] := by
  rcases h with rfl | ⟨n, rfl⟩
  · exact (Fails.ok _).absent
  · rw [Datum.bind, Datum.beyondWord]
    cases fitsWord n with
    | true => exact (Fails.ok _).absent
    | false => rfl

theorem fails_bind_stamp (h : s.IsTime) : Fails s.bind [(s.beyondUtc, .unbindable .dateRange)] := by
  rcases h with rfl | ⟨t, rfl⟩
  · exact (Fails.ok _).absent
  · rw [Stamp.bind, Stamp.toUtc, Stamp.beyondUtc]
    cases t.utc? with
    | none => rfl
    | some u => exact (Fails.ok _).absent

theorem beyondWord_orZero (d : Datum) : d.orZero.beyondWord = d.beyondWord := by
  rw [Datum.orZero]
  split
  · rename_i hnull
    rw [hnull]
    rfl
  · rfl

end Bound

theorem fails_require (t : Table) (column : String) (c : Cell) :
    Fails (require t column c) [(c = .null, .nullValue t column)] := .check ..

namespace LicenseRow

variable (r : LicenseRow)

def nullFaults : List (Bool × Refusal) := [
  (r.userId = .null, .nullValue .license "user_id"),
  (r.provider = .null, .nullValue .license "provider"),
  (r.issued = .null, .nullValue .license "issued"),
  (r.contentId = .null, .nullValue .license "content_fk")]

def referenceFaults (contents : List ContentRow) : List (Bool × Refusal) := [
  (!contents.any (r.contentId.matches ·.id), .danglingReference)]

theorem fails_checkNulls : Fails r.checkNulls r.nullFaults :=
  (fails_require ..).bind fun _ _ => (fails_require ..).bind fun _ _ =>
    (fails_require ..).bind fun _ _ => fails_require ..

theorem fails_checkNulls_of_issued (h : r.issued ≠ .null) : Fails r.checkNulls [
    (r.userId = .null, .nullValue .license "user_id"),
    (r.provider = .null, .nullValue .license "provider"),
    (r.contentId = .null, .nullValue .license "content_fk")] := by
  have hissued : Fails (require .license "issued" r.issued) [] := ⟨(), require_eq_ok.2 h⟩
  exact (fails_require ..).bind fun _ _ => (fails_require ..).bind fun _ _ =>
    hissued.bind fun _ _ => fails_require ..

theorem fails_checkReference (contents : List ContentRow) :
    Fails (LicenseTable.checkReference (some contents) r) (r.referenceFaults contents) := by
  rw [LicenseTable.checkReference, referenceFaults]
  cases contents.any (r.contentId.matches ·.id) with
  | true => exact (Fails.ok ()).absent
  | false => rfl

end LicenseRow

namespace LicenseTable

variable {t : LicenseTable} {contents : List ContentRow} {r : LicenseRow}

theorem fails_insert (t : LicenseTable) (r : LicenseRow) :
    Fails (t.insert r) (r.convert.nullFaults ++ [
      (t.rows.any (r.convert.id.matches ·.id), .duplicateId .license)]) := by
  rw [insert, insertNumbered, askedNumber_null, ok_bind]
  refine (r.convert.fails_checkNulls).bind fun _ _ => ?_
  rw [Rows.checkNumber_none, ok_bind]
  cases t.rows.any (r.convert.id.matches ·.id) with
  | true => rfl
  | false => exact (Fails.ok _).absent

theorem fails_enter (t : LicenseTable) (contents : List ContentRow) (r : LicenseRow) :
    Fails (t.enter (some contents) r) (r.convert.nullFaults ++
      (t.rows.any (r.convert.id.matches ·.id), .duplicateId .license) ::
        r.convert.referenceFaults contents) := by
  have hentered : Fails (t.enter (some contents) r) _ := (t.fails_insert r).bind fun _ _ =>
    (r.convert.fails_checkReference contents).pure_bind fun _ => _
  rwa [List.append_assoc] at hentered

theorem fails_modify (t : LicenseTable) (new : LicenseRow)
    (merge : (old new : LicenseRow) → LicenseRow) {check : LicenseRow → Executed Unit}
    {faults : List (Bool × Refusal)}
    (hcheck : ∀ old ∈ t.rows, Fails (check (merge old new.convert)) faults) :
    Fails (t.modify new merge check)
      (if t.rows.any (new.convert.id.matches ·.id) then faults else []) := by
  rw [modify]
  cases hfind : t.rows.find? (new.convert.id.matches ·.id) with
  | none =>
    have hany : t.rows.any (new.convert.id.matches ·.id) = false := by
      rw [List.any_eq_false]
      exact List.find?_eq_none.1 hfind
    rw [hany]
    exact .ok _
  | some old =>
    have hold : old ∈ t.rows := List.mem_of_find?_eq_some hfind
    have hmatches : new.convert.id.matches old.id = true := by
      simpa using List.find?_some hfind
    rw [List.any_eq_true.2 ⟨old, hold, hmatches⟩]
    exact (hcheck old hold).pure_bind _

end LicenseTable

def Datum.isIdOf (d : Datum) (c : Cell) : Bool := d ≠ .null ∧ d = .cell c

namespace License

variable (l : License) (db : Database)

def isStored : Bool := db.licenseRows.any (l.id.isIdOf ·.id)

def isDangling : Bool := !db.contentRows.any (l.contentId.isIdOf ·.id)

/-- What is looked for when the license is added. -/
def additionFaults : List (Bool × Failure) := [
  (l.user.isNone, .noUser),
  (l.issued.beyondUtc, .unbindable .dateRange),
  (l.grants.start.beyondUtc, .unbindable .dateRange),
  (l.grants.stop.beyondUtc, .unbindable .dateRange),
  (db.content.isNone, .refused (.missingTable "main.content")),
  (l.grants.print.beyondWord, .integerRange),
  (l.grants.copy.beyondWord, .integerRange),
  (l.status.beyondWord, .integerRange),
  (l.user.any (·.id = .null), .refused (.nullValue .license "user_id")),
  (l.provider = .null, .refused (.nullValue .license "provider")),
  (l.issued = .null, .refused (.nullValue .license "issued")),
  (l.contentId = .null, .refused (.nullValue .license "content_fk")),
  (l.isStored db, .refused (.duplicateId .license)),
  (l.isDangling db, .refused .danglingReference)]

def amendmentFaults : List (Bool × Refusal) := [
  (l.user.any (·.id = .null), .nullValue .license "user_id"),
  (l.provider = .null, .nullValue .license "provider"),
  (l.contentId = .null, .nullValue .license "content_fk"),
  (l.isDangling db, .danglingReference)]

/-- What is looked for when the license is updated. Its row is checked only if there is one. -/
def updateFaults : List (Bool × Failure) := [
  (l.user.isNone, .noUser),
  (l.grants.start.beyondUtc, .unbindable .dateRange),
  (l.grants.stop.beyondUtc, .unbindable .dateRange),
  (db.content.isNone, .refused (.missingTable "main.content")),
  (l.grants.print.beyondWord, .integerRange),
  (l.grants.copy.beyondWord, .integerRange)] ++
  refused (if l.isStored db then l.amendmentFaults db else [])

variable {l : License} {db : Database} {r : LicenseRow}

theorem isIdOf_cell (a b : Cell) : (Datum.cell a).isIdOf b = a.matches b := by
  rw [Bool.eq_iff_iff, Cell.matches_iff, Datum.isIdOf]
  simp

theorem decide_bind_eq_null {s : Stamp} {c : Cell} (h : s.bind = .ok c) :
    decide (c = .null) = decide (s = .null) := by
  rcases Stamp.bind_eq_ok h with ⟨rfl, rfl⟩ | ⟨t, u, rfl, -, -, rfl⟩ <;> rfl

theorem Owns.isDangling (h : l.Owns r) (db : Database) :
    l.isDangling db = !db.contentRows.any (r.contentId.matches ·.id) := by
  simp only [License.isDangling, h.contentId, isIdOf_cell]

theorem isStored_eq {t : LicenseTable} (hid : l.id = .cell r.id) (ht : db.license = some t) :
    l.isStored db = t.rows.any (r.id.matches ·.id) := by
  have hrows : db.licenseRows = t.rows := by
    rw [Database.licenseRows_eq, Database.licenseEntries_eq ht]
    rfl
  simp only [isStored, hrows, hid, isIdOf_cell]

theorem Owns.nullFaults (h : l.Owns r)
    (hissued : decide (r.issued = .null) = decide (l.issued = .null)) : r.nullFaults = [
      (l.user.any (·.id = .null), .nullValue .license "user_id"),
      (l.provider = .null, .nullValue .license "provider"),
      (l.issued = .null, .nullValue .license "issued"),
      (l.contentId = .null, .nullValue .license "content_fk")] := by
  simp [LicenseRow.nullFaults, h.user, h.provider, h.contentId, hissued]

end License

namespace LicenseStore

variable {l : License} {db : Database} {t : LicenseTable}

theorem fails_checkParent (db : Database) :
    Fails (checkParent true db) [(db.content.isNone, .refused (.missingTable "main.content"))] := by
  rw [checkParent, Bool.true_and]
  cases db.content with
  | none => rfl
  | some t => exact (Fails.ok ()).absent

theorem fails_bindTerm (hl : l.Timed) : Fails (bindTerm l.grants) [
    (l.grants.start.beyondUtc, .unbindable .dateRange),
    (l.grants.stop.beyondUtc, .unbindable .dateRange)] :=
  (fails_bind_stamp hl.start).bind fun _ _ => (fails_bind_stamp hl.stop).pure_bind _

theorem fails_add (hl : l.Typed) (htimes : l.Timed) (ht : db.license = some t) :
    Fails (add true db l) (l.additionFaults db) := by
  rw [add_eq, License.additionFaults]
  cases huser : l.user with
  | none => rfl
  | some user =>
    have hstatus := License.typed_storedStatus hl
    refine Fails.absent ?_
    refine (fails_bind_stamp htimes.issued).bind fun issued hissued => ?_
    refine (fails_bindTerm htimes).bind fun w hw => ?_
    rw [table_eq_ok.2 ht, ok_bind]
    refine (fails_checkParent db).bind fun _ _ => ?_
    refine (fails_bind_text hl.id 1).bind fun id hid => ?_
    refine (fails_bind_text (hl.user user huser) 2).bind fun userId huserId => ?_
    refine (fails_bind_text hl.provider 3).bind fun provider hprovider => ?_
    refine (fails_bind_integer hl.rights.print 6).bind fun print hprint => ?_
    refine (fails_bind_integer hl.rights.copy 7).bind fun copy hcopy => ?_
    refine (fails_bind_text hl.contentId 10).bind fun contentId hcontentId => ?_
    -- a status that is missing is stored as zero, which is never out of range
    rw [← beyondWord_orZero, ← License.storedStatus_eq hl]
    refine (fails_bind_integer hstatus 11).bind fun status hstatus => ?_
    let row : LicenseRow := {
      id, userId, provider, issued, print, copy, start := w.start, stop := w.stop, contentId, status }
    have howns : l.Owns row.convert :=
      License.BindsOwner.owns ⟨⟨user, huser, _, huserId⟩, ⟨_, hprovider⟩, ⟨_, hcontentId⟩⟩ hl
    have hid : l.id = .cell row.convert.id := Datum.Bound.convert_id ⟨_, hid⟩ hl.id
    have hissued : decide (row.convert.issued = .null) = decide (l.issued = .null) := by
      rw [← License.decide_bind_eq_null hissued, ← Stamp.convert_of_bind hissued]
      rfl
    have hinsert := (t.fails_enter db.contentRows row).ofExecuted
    rw [howns.nullFaults hissued, ← License.isStored_eq hid ht, LicenseRow.referenceFaults,
      ← howns.isDangling, huser] at hinsert
    exact hinsert.pure_bind _

theorem exists_stamp {clock : Moment} (h : clock.utc?.isSome = true) :
    ∃ u, now clock = .ok u ∧ ∃ c, (Stamp.moment u).bind = .ok c := by
  obtain ⟨t, ht⟩ := Option.isSome_iff_exists.1 h
  have hutc : t.wholeSecond.offset = some .utc := Moment.offset_of_utc? (u := t) ht
  refine ⟨t.wholeSecond, by rw [now, ht], .text (.ofList t.wholeSecond.stored), ?_⟩
  rw [Stamp.bind, Stamp.toUtc, Moment.utc?_of_utc hutc]

theorem fails_checkAmended {r : LicenseRow} (howns : l.Owns r) (hissued : r.issued ≠ .null) :
    Fails (checkAmended true db r) (l.amendmentFaults db) := by
  have hreference := r.fails_checkReference db.contentRows
  rw [LicenseRow.referenceFaults, ← howns.isDangling] at hreference
  have hchecks := (r.fails_checkNulls_of_issued hissued).bind fun _ _ => hreference
  have hfaults : l.amendmentFaults db = [
      (decide (r.userId = .null), .nullValue .license "user_id"),
      (decide (r.provider = .null), .nullValue .license "provider"),
      (decide (r.contentId = .null), .nullValue .license "content_fk"),
      (l.isDangling db, .danglingReference)] := by
    simp [License.amendmentFaults, howns.user, howns.provider, howns.contentId]
  rw [hfaults]
  exact hchecks

theorem fails_update (hl : l.Typed) (htimes : l.Timed) (ht : db.license = some t) (hdated : db.Dated)
    {clock : Moment} (hclock : clock.utc?.isSome = true) :
    Fails (update true db l clock) (l.updateFaults db) := by
  obtain ⟨u, hnow, updated, hupdated⟩ := exists_stamp hclock
  rw [update_eq, License.updateFaults]
  cases huser : l.user with
  | none => rfl
  | some user =>
    refine Fails.absent ?_
    simp only [hnow, ok_bind, hupdated]
    refine (fails_bindTerm htimes).bind fun w hw => ?_
    rw [table_eq_ok.2 ht, ok_bind]
    refine (fails_checkParent db).bind fun _ _ => ?_
    refine (fails_bind_text (hl.user user huser) 1).bind fun userId huserId => ?_
    refine (fails_bind_text hl.provider 2).bind fun provider hprovider => ?_
    refine (fails_bind_integer hl.rights.print 4).bind fun print hprint => ?_
    refine (fails_bind_integer hl.rights.copy 5).bind fun copy hcopy => ?_
    refine (fails_bind_text hl.contentId 8).bind fun contentId hcontentId => ?_
    refine (fails_bind_text hl.id 9).bind fun id hid => ?_
    let row : LicenseRow := {
      id, userId, provider, updated, print, copy, start := w.start, stop := w.stop, contentId }
    have howns : l.Owns row.convert :=
      License.BindsOwner.owns ⟨⟨user, huser, _, huserId⟩, ⟨_, hprovider⟩, ⟨_, hcontentId⟩⟩ hl
    have hid : l.id = .cell row.convert.id := Datum.Bound.convert_id ⟨_, hid⟩ hl.id
    -- the row keeps its issue, so that column cannot fail
    rw [Database.Dated, Database.licenseEntries_eq ht] at hdated
    have hcheck : ∀ old ∈ t.rows, Fails (checkAmended true db (old.amend row.convert))
        (l.amendmentFaults db) := fun old hold =>
      fails_checkAmended ⟨howns.user, howns.provider, howns.contentId⟩ (hdated old hold)
    have hmodify := (LicenseTable.fails_modify t row .amend hcheck).ofExecuted
    rw [← License.isStored_eq hid ht] at hmodify
    exact hmodify.pure_bind _

end LicenseStore

def verdict (faults : List (Bool × Failure)) : Except Failure Answer :=
  match firstFault faults with
  | some f => .error f
  | none => .ok .done

namespace Session

theorem answer_writing {s : Session} {t : Table} (hopen : s.isOpen t = true)
    {x : Except Failure Database} {faults : List (Bool × Failure)} (h : Fails x faults) (e : Event) :
    (s.onStore t (s.writing x e)).1.answer = verdict faults := by
  rw [onStore, if_pos hopen, verdict]
  unfold Fails at h
  cases hfirst : firstFault faults with
  | some f =>
    rw [hfirst] at h
    have h : x = .error f := h
    rw [h]
    rfl
  | none =>
    rw [hfirst] at h
    obtain ⟨db, rfl⟩ := h
    rfl

/-- Where references are followed, a license is added or updated unless one of the faults is there
that are looked for, and then the first of them is answered: whatever the rows hold, those that
were put past the stores among them. -/
theorem license_writes_fail_first (d : Dialect) {w : Wiring} (draws : Draws)
    (hw : w.isFresh = true) (xs : List Step)
    (henforce : ((start d w draws).run xs).2.enforce = true)
    (hopen : ((start d w draws).run xs).2.licenses = true) {l : License} (hl : l.Typed)
    (htimes : l.Timed) :
    let s := ((start d w draws).run xs).2
    (s.step (.addLicense l)).1.answer = verdict (l.additionFaults s.database) ∧
      ∀ clock : Moment, clock.utc?.isSome = true →
        (s.step (.updateLicense l clock)).1.answer = verdict (l.updateFaults s.database) := by
  intro s
  have hbacked : s.Backed .license := by
    have hxs : ∀ x ∈ xs, True := fun _ _ => trivial
    exact run_induction (P := fun s => s.Backed .license) (backed_start d draws hw .license)
      (fun _ x h _ => (backed_step h x).1) hxs
  have hdated : s.database.Dated := dated_run d w draws xs
  have henforce : s.enforce = true := henforce
  have hopen : s.isOpen .license = true := hopen
  obtain ⟨t, ht⟩ := Option.isSome_iff_exists.1 (hbacked.isOpen hopen)
  refine ⟨?_, fun clock hclock => ?_⟩
  · rw [step_eq, outcome, henforce]
    exact answer_writing hopen (LicenseStore.fails_add hl htimes ht) _
  · rw [step_eq, outcome, henforce]
    exact answer_writing hopen (LicenseStore.fails_update hl htimes ht hdated hclock) _

theorem license_writes_fail_first_of_taken_id :
    let xs : List Step := [
      .openStore .content, .openStore .license,
      .insertRaw "license" [("id", .text "a"), ("user_id", .text "u"), ("provider", .text "p"),
        ("issued", .text "unknown"), ("content_fk", .text "nowhere")]]
    let s := ((start .sqlite (.separate true)).run xs).2
    let clock : Moment := ⟨0, by decide, some .utc⟩
    let l : License := { id := .text "a", issued := .moment clock, contentId := .text "nowhere" }
    (s.step (.addLicense l)).1.answer = .error (.refused (.duplicateId .license)) ∧
      (s.step (.updateLicense l clock)).1.answer = .error (.refused .danglingReference) := by
  intro xs s clock l
  have hl : l.Typed := by
    refine ⟨.inr ⟨_, rfl⟩, ?_, .inr ⟨_, rfl⟩, ⟨.inl rfl, .inl rfl⟩, .inr ⟨_, rfl⟩, .inr ⟨_, rfl⟩⟩
    rintro u ⟨⟩
    exact .inr ⟨_, rfl⟩
  have htimes : l.Timed := ⟨.inr ⟨_, rfl⟩, .inl rfl, .inl rfl⟩
  obtain ⟨hopen, henforce, haddition, hamendment⟩ : s.licenses = true ∧ s.enforce = true ∧
      firstFault (l.additionFaults s.database) = some (.refused (.duplicateId .license)) ∧
      firstFault (l.updateFaults s.database) = some (.refused .danglingReference) := by
    decide +kernel
  obtain ⟨hadd, hupdate⟩ := license_writes_fail_first .sqlite (w := .separate true) {} rfl
    xs henforce hopen hl htimes
  refine ⟨?_, ?_⟩
  · rw [hadd, verdict, haddition]
  · rw [hupdate clock rfl, verdict, hamendment]

end Session

end RightsStore
