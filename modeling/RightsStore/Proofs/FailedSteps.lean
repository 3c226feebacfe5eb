import RightsStore.Proofs.Steps

namespace RightsStore

def Event.AnnouncesChange (e : Event) : Prop :=
  e.severity = .info ∧
    ("Added ".toList <+: e.message.toList ∨ "Updated ".toList <+: e.message.toList)

def Step.announcement? : Step → Option String
  | .addContent c => some ("Added content " ++ c.id.plain)
  | .updateContent c => some ("Updated content " ++ c.id.plain)
  | .addLicense l => some ("Added license " ++ l.id.plain ++ " for content " ++ l.contentId.plain)
  | .updateLicense l _ => some ("Updated license " ++ l.id.plain)
  | .updateRights l _ => some ("Updated rights of license " ++ l.id.plain)
  | _ => none

def Wiring.isContainer : Wiring → Bool
  | .container .. => true
  | .separate _ => false

/-- All steps but those that read from a stream, which an error closes, and those that are made of
several: fixtures, and the openings of a container. -/
def Step.isAtomic (w : Wiring) : Step → Bool
  | .prepare _ => false
  | .openStore _ => !w.isContainer
  | .next _ => false
  | .drain _ => false
  | .scope .. => false
  | _ => true

theorem Event.not_announcesChange {e : Event} (h : e.severity ≠ .info) : ¬e.AnnouncesChange :=
  fun he => h he.1

theorem prefix_toList_append {p s : String} (h : p.toList <+: s.toList) (t : String) :
    p.toList <+: (s ++ t).toList := by
  rw [String.toList_append]
  exact h.trans (List.prefix_append ..)

theorem Event.announcesChange_contentAdded (id : Datum) : (contentAdded id).AnnouncesChange :=
  ⟨rfl, .inl (prefix_toList_append (by decide) _)⟩

theorem Event.announcesChange_contentUpdated (id : Datum) : (contentUpdated id).AnnouncesChange :=
  ⟨rfl, .inr (prefix_toList_append (by decide) _)⟩

theorem Event.announcesChange_licenseAdded (id contentId : Datum) :
    (licenseAdded id contentId).AnnouncesChange := by
  refine ⟨rfl, .inl (prefix_toList_append ?_ _)⟩
  exact prefix_toList_append (prefix_toList_append (by decide) _) _

theorem Event.announcesChange_licenseUpdated (id : Datum) : (licenseUpdated id).AnnouncesChange :=
  ⟨rfl, .inr (prefix_toList_append (by decide) _)⟩

theorem Event.announcesChange_rightsUpdated (id : Datum) : (rightsUpdated id).AnnouncesChange :=
  ⟨rfl, .inr (prefix_toList_append (by decide) _)⟩

namespace Session

variable {s : Session}

def Untouched (s : Session) (r : Reply × Session) : Prop :=
  r.2 = s ∧ ∀ e ∈ r.1.log, ¬e.AnnouncesChange

/-- If the answer is an error, the session is as before. -/
structure UntouchedByFailure (s : Session) (r : Reply × Session) : Prop where
  untouched : ∀ f, r.1.answer = .error f → s.Untouched r

theorem untouched_refusal (f : Failure) : s.Untouched (⟨.error f, []⟩, s) := by
  refine ⟨rfl, ?_⟩
  intro e he
  cases he

theorem Untouched.byFailure {r : Reply × Session} (h : s.Untouched r) : s.UntouchedByFailure r :=
  ⟨fun _ _ => h⟩

theorem untouchedByFailure_of_ok {r : Reply × Session} {a : Answer} (h : r.1.answer = .ok a) :
    s.UntouchedByFailure r := by
  refine ⟨?_⟩
  intro f hf
  rw [h] at hf
  cases hf

theorem untouchedByFailure_onStore {t : Table} {run : Reply × Session}
    (h : s.UntouchedByFailure run) : s.UntouchedByFailure (s.onStore t run) := by
  rw [onStore]
  split
  · exact h
  · exact (untouched_refusal _).byFailure

theorem untouchedByFailure_reading (y : Except Failure Answer) :
    s.UntouchedByFailure (s.reading y) := by
  refine Untouched.byFailure ⟨rfl, ?_⟩
  intro e he
  cases he

theorem untouchedByFailure_listing (rows : Except Failure (List ρ))
    (read : ρ → Except Failure Item) (answer : List Item → Except Failure Answer) :
    s.UntouchedByFailure (s.listing rows read answer) := by
  cases rows with
  | error f => exact (untouched_refusal f).byFailure
  | ok rows =>
    refine Untouched.byFailure ⟨rfl, ?_⟩
    intro e he
    rw [listing, List.mem_singleton] at he
    subst he
    exact Event.not_announcesChange (by decide)

theorem untouchedByFailure_openStream (name : String) (rows : Except Failure (List ρ))
    (read : ρ → Except Failure Item) :
    s.UntouchedByFailure (s.openStream name rows read) := by
  cases rows with
  | error f =>
    rw [openStream_error]
    exact (untouched_refusal f).byFailure
  | ok rows =>
    rw [openStream_ok]
    exact untouchedByFailure_of_ok rfl

theorem untouchedByFailure_starting (name : String) (q : Query) :
    s.UntouchedByFailure (s.starting name q) := by
  cases q with
  | contents => exact untouchedByFailure_onStore (untouchedByFailure_openStream ..)
  | licenses contentId size number =>
    exact untouchedByFailure_onStore (untouchedByFailure_openStream ..)
  | allLicenses size number =>
    exact untouchedByFailure_onStore (untouchedByFailure_openStream ..)
  | numbers values failOn =>
    exact untouchedByFailure_openStream name (.ok values) (numberItem failOn)
  | missing => exact untouchedByFailure_openStream name (.error _) (numberItem .null)

theorem untouchedByFailure_writing (t : Table) (y : Except Failure Database) (e : Event) :
    s.UntouchedByFailure (s.onStore t (s.writing y e)) := by
  rcases s.onStore_writing t y e with ⟨f, hf⟩ | ⟨db, -, hok⟩
  · rw [hf]
    exact (untouched_refusal f).byFailure
  · rw [hok]
    exact untouchedByFailure_of_ok rfl

theorem untouchedByFailure_updateRights (l : License) (clock : Moment) :
    s.UntouchedByFailure (s.step (.updateRights l clock)) := by
  rcases s.step_updateRights l clock with ⟨f, hf⟩ | ⟨db, n, -, hok⟩
  · rw [hf]
    exact (untouched_refusal f).byFailure
  · rw [hok]
    exact untouchedByFailure_of_ok rfl

theorem untouchedByFailure_openTable {t : Table} : s.UntouchedByFailure (s.openTable t) := by
  rw [openTable_eq, opening]
  split
  · rename_i r hr
    obtain ⟨hdatabase, hlog⟩ := Database.open_of_refusal hr
    rw [hdatabase, hlog]
    refine Untouched.byFailure ⟨rfl, ?_⟩
    intro e he
    rw [List.mem_singleton] at he
    subst he
    exact Event.not_announcesChange Severity.noConfusion
  · exact untouchedByFailure_of_ok rfl

theorem untouchedByFailure_hand {t : Table} {x : Reply × Session} (h : s.UntouchedByFailure x) :
    s.UntouchedByFailure (hand t x) := by
  unfold hand
  split
  · exact h
  · rename_i a hok
    split
    · exact untouchedByFailure_of_ok hok
    · exact untouchedByFailure_of_ok hok
    · exact untouchedByFailure_of_ok hok

theorem untouchedByFailure_openStore {b : Bool} (hw : s.wiring = .separate b) (t : Table) :
    s.UntouchedByFailure (s.openStore t) := by
  unfold openStore
  rw [hw]
  cases t with
  | content => exact untouchedByFailure_hand untouchedByFailure_openTable
  | license => exact untouchedByFailure_hand untouchedByFailure_openTable

theorem log_of_writing {x : Step} {t : Table} {y : Except Failure Database} {e : Event} {a : Answer}
    (hx : s.outcome x = s.onStore t (s.writing y e)) (h : (s.step x).1.answer = .ok a) :
    (s.step x).1.log = [e] := by
  rw [step_eq, hx] at h ⊢
  rcases s.onStore_writing t y e with ⟨f, hf⟩ | ⟨db, -, hok⟩
  · rw [hf] at h
    cases h
  · rw [hok]

theorem log_of_updateRights {l : License} {clock : Moment} {a : Answer}
    (h : (s.step (.updateRights l clock)).1.answer = .ok a) :
    (s.step (.updateRights l clock)).1.log = [.rightsUpdated l.id] := by
  rcases s.step_updateRights l clock with ⟨f, hf⟩ | ⟨db, n, -, hok⟩
  · rw [hf] at h
    cases h
  · rw [hok]

theorem untouchedByFailure_step {x : Step} (hx : x.isAtomic s.wiring = true) :
    s.UntouchedByFailure (s.step x) := by
  rw [step_eq]
  cases x with
  | prepare f => cases hx
  | insertRaw table values =>
    simp only [outcome, insertRaw]
    split
    · exact untouchedByFailure_of_ok rfl
    · exact untouchedByFailure_reading _
  | tables => exact untouchedByFailure_reading _
  | columns table => exact untouchedByFailure_reading _
  | openStore t =>
    cases hw : s.wiring with
    | separate b => exact untouchedByFailure_openStore hw t
    | container index licenses =>
      rw [hw] at hx
      cases hx
  | dialect => exact untouchedByFailure_reading _
  | connections => exact untouchedByFailure_reading _
  | getContent id => exact untouchedByFailure_onStore (untouchedByFailure_reading _)
  | addContent c => exact untouchedByFailure_writing ..
  | updateContent c => exact untouchedByFailure_writing ..
  | listContents => exact untouchedByFailure_onStore (untouchedByFailure_listing ..)
  | getLicense id => exact untouchedByFailure_onStore (untouchedByFailure_reading _)
  | addLicense l => exact untouchedByFailure_writing ..
  | updateLicense l clock => exact untouchedByFailure_writing ..
  | updateRights l clock =>
    rw [← step_eq]
    exact untouchedByFailure_updateRights l clock
  | setStatus id status => exact untouchedByFailure_writing ..
  | listLicenses contentId size number =>
    exact untouchedByFailure_onStore (untouchedByFailure_listing ..)
  | listAllLicenses size number =>
    exact untouchedByFailure_onStore (untouchedByFailure_listing ..)
  | dumpContents => exact untouchedByFailure_onStore (untouchedByFailure_listing ..)
  | dumpLicenses size number =>
    exact untouchedByFailure_onStore (untouchedByFailure_listing ..)
  | openStream name q => exact untouchedByFailure_starting name q
  | next name => cases hx
  | drain name => cases hx
  | close name =>
    simp only [outcome, onCursor]
    split
    · exact (untouched_refusal _).byFailure
    · exact untouchedByFailure_of_ok rfl
  | scope name take abort => cases hx
  | state name =>
    simp only [outcome, onCursor]
    split
    · exact (untouched_refusal _).byFailure
    · exact untouchedByFailure_of_ok rfl
  | undescribed store f =>
    cases store with
    | none => exact untouchedByFailure_reading _
    | some t => exact untouchedByFailure_onStore (untouchedByFailure_reading _)

theorem announced_step {x : Step} {text : String} {a : Answer} (hx : x.announcement? = some text)
    (h : (s.step x).1.answer = .ok a) :
    ∃ e, (s.step x).1.log = [e] ∧ e.AnnouncesChange ∧ e.message = text := by
  cases x with
  | addContent c =>
    cases hx
    exact ⟨_, log_of_writing rfl h, Event.announcesChange_contentAdded _, rfl⟩
  | updateContent c =>
    cases hx
    exact ⟨_, log_of_writing rfl h, Event.announcesChange_contentUpdated _, rfl⟩
  | addLicense l =>
    cases hx
    exact ⟨_, log_of_writing rfl h, Event.announcesChange_licenseAdded .., rfl⟩
  | updateLicense l clock =>
    cases hx
    exact ⟨_, log_of_writing rfl h, Event.announcesChange_licenseUpdated _, rfl⟩
  | updateRights l clock =>
    cases hx
    exact ⟨_, log_of_updateRights h, Event.announcesChange_rightsUpdated _, rfl⟩
  | _ => cases hx

/-- A step either fails and leaves the database, the streams and the stores as they were, or makes
its change and says so in one record that names its id. Nothing is asked of the session or of the
arguments: it may hold any rows, and they may be of any kind. -/
theorem step_untouched_or_announced (s : Session) (x : Step)
    (hx : x.isAtomic s.wiring = true) :
    (∀ f, (s.step x).1.answer = .error f →
      (s.step x).2 = s ∧ ∀ e ∈ (s.step x).1.log, ¬e.AnnouncesChange) ∧
    ∀ text a, x.announcement? = some text → (s.step x).1.answer = .ok a →
      ∃ e, (s.step x).1.log = [e] ∧ e.AnnouncesChange ∧ e.message = text :=
  ⟨(untouchedByFailure_step hx).untouched, fun _ _ => announced_step⟩

theorem updateRights_missing_untouched :
    let s := ((start .sqlite (.separate true)).run [.openStore .license]).2
    let x := Step.updateRights { id := .text "a" } ⟨0, by decide, none⟩
    (s.step x).1.answer = .error (.notFound .license) ∧ (s.step x).2 = s := by
  intro s x
  have hfailed : (s.step x).1.answer = .error (.notFound .license) := rfl
  exact ⟨hfailed, ((step_untouched_or_announced s x rfl).1 _ hfailed).1⟩

end Session

end RightsStore
