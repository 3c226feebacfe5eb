import RightsStore.Proofs.StepFailures

namespace RightsStore

def Refusal.isReferential : Refusal → Bool
  | .missingTable name => name = "main.content"
  | .danglingReference => true
  | _ => false

def Failure.isReferential : Failure → Bool
  | .refused r => r.isReferential
  | _ => false

def Reply.isReferential (r : Reply) : Bool :=
  match r.answer with
  | .error f => f.isReferential
  | .ok _ => false

/-- The same outcome, unless `x` is an error that `R` allows. -/
def RejectsOnly (R : ε → Bool) (x y : Except ε α) : Prop := x = y ∨ ∃ e, x = .error e ∧ R e = true

namespace RejectsOnly

variable {R : ε → Bool}

theorem refl (x : Except ε α) : RejectsOnly R x x := .inl rfl

theorem error {e : ε} (h : R e = true) (y : Except ε α) : RejectsOnly R (.error e) y :=
  .inr ⟨e, rfl, h⟩

theorem bind {x y : Except ε α} {f g : α → Except ε β} (hx : RejectsOnly R x y)
    (hf : ∀ a, RejectsOnly R (f a) (g a)) : RejectsOnly R (x >>= f) (y >>= g) := by
  rcases hx with rfl | ⟨e, rfl, he⟩
  · cases x with
    | error e => exact .refl _
    | ok a => exact hf a
  · exact .error he _

theorem ofExecuted {x y : Executed α} (h : RejectsOnly Refusal.isReferential x y) :
    RejectsOnly Failure.isReferential (Failure.ofExecuted x) (Failure.ofExecuted y) := by
  rcases h with rfl | ⟨r, rfl, hr⟩
  · exact .refl _
  · exact .error (e := Failure.refused r) hr _

end RejectsOnly

section Writes

open LicenseStore (references checkParent)

variable {db : Database}

theorem LicenseTable.checkReference_rejectsOnly (r : LicenseRow) :
    RejectsOnly Refusal.isReferential (checkReference (references true db) r)
      (checkReference (references false db) r) := by
  cases h : checkReference (references true db) r with
  | ok _ => exact .refl _
  | error e =>
    refine .error ?_ _
    rw [references, if_pos rfl, checkReference] at h
    split at h
    · cases h
    · cases h
      rfl

theorem LicenseTable.enter_rejectsOnly (t : LicenseTable) (r : LicenseRow) :
    RejectsOnly Refusal.isReferential (enter (references true db) t r)
      (enter (references false db) t r) :=
  .bind (.refl _) fun _ => .bind (checkReference_rejectsOnly r.convert) fun _ => .refl _

theorem LicenseTable.modify_rejectsOnly {check check' : LicenseRow → Executed Unit}
    (h : ∀ r, RejectsOnly Refusal.isReferential (check r) (check' r)) (t : LicenseTable)
    (new : LicenseRow) (merge : (old new : LicenseRow) → LicenseRow) :
    RejectsOnly Refusal.isReferential (t.modify new merge check) (t.modify new merge check') := by
  unfold modify
  dsimp only
  split
  · exact .refl _
  · exact .bind (h _) fun _ => .refl _

theorem LicenseStore.checkParent_rejectsOnly (refers : Bool) :
    RejectsOnly Failure.isReferential (checkParent (true && refers) db)
      (checkParent (false && refers) db) := by
  cases h : checkParent (true && refers) db with
  | ok _ => exact .refl _
  | error f =>
    refine .error ?_ _
    unfold checkParent at h
    split at h
    · cases h
      rfl
    · cases h

variable {x : Step} {w : LicenseWrite} {e : Event}

theorem Step.apply_rejectsOnly (h : x.licenseWrite? = some (w, e)) (t : LicenseTable)
    (r : LicenseRow) : RejectsOnly Failure.isReferential
      (w.change.apply (references true db) t r) (w.change.apply (references false db) t r) := by
  cases x with
  | addLicense l =>
    cases h
    exact .ofExecuted (t.enter_rejectsOnly r)
  | updateLicense l clock =>
    cases h
    refine .bind (.ofExecuted (LicenseTable.modify_rejectsOnly (fun r => ?_) t r _)) fun _ => .refl _
    exact .bind (.refl _) fun _ => LicenseTable.checkReference_rejectsOnly r
  | updateRights l clock =>
    cases h
    exact .refl _
  | setStatus id status =>
    cases h
    exact .refl _
  | _ => cases h

theorem Step.result_rejectsOnly (h : x.licenseWrite? = some (w, e)) :
    RejectsOnly Failure.isReferential (w.result true db) (w.result false db) :=
  .bind (.refl _) fun _ => .bind (.refl _) fun t =>
    .bind (LicenseStore.checkParent_rejectsOnly w.refers) fun _ => .bind (.refl _) fun r =>
      .bind (apply_rejectsOnly h t r) fun _ => .refl _

end Writes

namespace Session

def lax (s : Session) : Session := { s with wiring := .separate false }

def laxly (r : Reply × Session) : Reply × Session := (r.1, r.2.lax)

variable {s : Session}

theorem isOpen_lax (t : Table) : s.lax.isOpen t = s.isOpen t := by
  cases t <;> rfl

theorem onStore_lax (t : Table) {run run' : Reply × Session} (h : run' = laxly run) :
    s.lax.onStore t run' = laxly (s.onStore t run) := by
  rw [onStore, onStore, isOpen_lax, h]
  split <;> rfl

theorem writing_lax (x : Except Failure Database) (e : Event) :
    s.lax.writing x e = laxly (s.writing x e) := by
  cases x <;> rfl

theorem rewriting_lax (x : Except Failure (Database × Nat)) (e : Event) :
    s.lax.rewriting x e = laxly (s.rewriting x e) := by
  cases x with
  | error f => rfl
  | ok p =>
    obtain ⟨db, n⟩ := p
    cases n <;> rfl

theorem ofExecuted_lax (x : Executed Database) : s.lax.ofExecuted x = laxly (s.ofExecuted x) := by
  cases x <;> rfl

theorem listing_lax (rows : Except Failure (List ρ)) (read : ρ → Except Failure Item)
    (answer : List Item → Except Failure Answer) :
    s.lax.listing rows read answer = laxly (s.listing rows read answer) := by
  cases rows <;> rfl

theorem openStream_lax (name : String) (rows : Except Failure (List ρ))
    (read : ρ → Except Failure Item) :
    s.lax.openStream name rows read = laxly (s.openStream name rows read) := by
  cases rows with
  | error f =>
    rw [openStream_error, openStream_error]
    rfl
  | ok rows =>
    rw [openStream_ok, openStream_ok]
    rfl

theorem onCursor_lax (name : String) (run : Cursor → Except Failure Answer × Cursor) :
    s.lax.onCursor name run = laxly (s.onCursor name run) := by
  cases h : s.stream? name with
  | none =>
    have hlax : s.lax.stream? name = none := h
    rw [onCursor, onCursor, h, hlax]
    rfl
  | some t =>
    have hlax : s.lax.stream? name = some t := h
    rw [onCursor_eq h, onCursor_eq hlax, laxly, release, release]
    split <;> rfl

theorem openTable_lax (t : Table) : s.lax.openTable t = laxly (s.openTable t) := by
  refine Prod.ext ?_ ?_
  · rw [laxly, openTable_fst, openTable_fst]
    rfl
  · rw [laxly, openTable_snd, openTable_snd]
    rfl

theorem prepare_lax (f : Fixture) : s.lax.prepare f = laxly (s.prepare f) := by
  cases f with
  | legacyContent rows => exact ofExecuted_lax _
  | other index =>
    unfold prepare
    have hdatabase : s.lax.database = s.database := rfl
    rw [hdatabase]
    dsimp only
    cases s.database.addOther with
    | error r => rfl
    | ok db => exact ofExecuted_lax (s := s.withDatabase db) _

theorem insertRaw_lax (table : String) (values : List (String × Datum)) :
    s.lax.insertRaw table values = laxly (s.insertRaw table values) := by
  unfold insertRaw
  have hdatabase : s.lax.database = s.database := rfl
  rw [hdatabase]
  cases s.database.insertWorded table values <;> rfl

theorem starting_lax (name : String) (q : Query) :
    s.lax.starting name q = laxly (s.starting name q) := by
  cases q with
  | contents => exact onStore_lax .content (openStream_lax ..)
  | licenses contentId size number => exact onStore_lax .license (openStream_lax ..)
  | allLicenses size number => exact onStore_lax .license (openStream_lax ..)
  | numbers values failOn => exact openStream_lax name (.ok values) _
  | missing => exact openStream_lax name (.error _) (numberItem .null)

theorem wiring_hand (t : Table) (r : Reply × Session) : (hand t r).2.wiring = r.2.wiring := by
  unfold hand
  split
  · rfl
  · split <;> rfl

theorem hand_laxly {b : Bool} {r : Reply × Session} (hw : r.2.wiring = .separate b) (t : Table) :
    hand t (laxly r) = laxly (hand t r) := by
  obtain ⟨⟨answer, log⟩, s⟩ := r
  cases s
  cases hw
  cases answer with
  | error f => rfl
  | ok a => cases t <;> rfl

theorem wiring_openTable (t : Table) : (s.openTable t).2.wiring = s.wiring :=
  (s.onlyDatabase_openTable t).sameStores.wiring

theorem openStore_lax {b : Bool} (hw : s.wiring = .separate b) (t : Table) :
    s.lax.openStore t = laxly (s.openStore t) := by
  have hlax : s.lax.wiring = .separate false := rfl
  rw [openStore_of_separate hw, openStore_of_separate hlax, openTable_lax,
    hand_laxly ((wiring_openTable t).trans hw)]

theorem step_lax {b : Bool} (hw : s.wiring = .separate b) {x : Step} (hx : x.refers = false) :
    s.lax.step x = laxly (s.step x) := by
  rw [step_eq, step_eq]
  cases x with
  | prepare f => exact prepare_lax f
  | insertRaw table values => exact insertRaw_lax table values
  | tables => rfl
  | columns table => rfl
  | openStore t => exact openStore_lax hw t
  | dialect => rfl
  | connections => rfl
  | getContent id => exact onStore_lax .content rfl
  | addContent c => exact onStore_lax .content (writing_lax ..)
  | updateContent c => exact onStore_lax .content (writing_lax ..)
  | listContents => exact onStore_lax .content (listing_lax ..)
  | getLicense id => exact onStore_lax .license rfl
  | addLicense l => cases hx
  | updateLicense l clock => cases hx
  | updateRights l clock => exact onStore_lax .license (rewriting_lax ..)
  | setStatus id status => exact onStore_lax .license (writing_lax ..)
  | listLicenses contentId size number => exact onStore_lax .license (listing_lax ..)
  | listAllLicenses size number => exact onStore_lax .license (listing_lax ..)
  | dumpContents => exact onStore_lax .content (listing_lax ..)
  | dumpLicenses size number => exact onStore_lax .license (listing_lax ..)
  | openStream name q => exact starting_lax name q
  | next name =>
    rw [outcome, outcome]
    exact onCursor_lax name _
  | drain name =>
    rw [outcome, outcome]
    exact onCursor_lax name _
  | close name =>
    rw [outcome, outcome]
    exact onCursor_lax name _
  | scope name take abort =>
    rw [outcome, outcome]
    exact onCursor_lax name _
  | state name =>
    rw [outcome, outcome]
    exact onCursor_lax name _
  | undescribed store f =>
    cases store with
    | none => rfl
    | some t => exact onStore_lax t rfl

theorem step_lax_or_rejected (hw : s.wiring = .separate true) (x : Step) :
    s.lax.step x = laxly (s.step x) ∨ (s.step x).1.isReferential = true := by
  have write {w : LicenseWrite} {e : Event} (h : x.licenseWrite? = some (w, e)) :
      s.lax.step x = laxly (s.step x) ∨ (s.step x).1.isReferential = true := by
    have henforce : s.enforce = true := by rw [enforce, hw]
    have hresult : RejectsOnly Failure.isReferential (w.result true s.database)
        (w.result false s.database) := Step.result_rejectsOnly h
    rw [← henforce] at hresult
    have hlax : s.lax.step x = s.lax.onStore .license
        (s.lax.writing (w.result false s.database) e) := s.lax.step_licenseWrite h
    rw [hlax, s.step_licenseWrite h]
    rcases hresult with heq | ⟨f, hf, hreferential⟩
    · rw [heq]
      exact .inl (onStore_lax .license (writing_lax ..))
    · rw [hf]
      cases hopen : s.isOpen .license with
      | false =>
        rw [onStore, isOpen_lax, hopen, onStore, hopen]
        exact .inl rfl
      | true =>
        rw [onStore, onStore, hopen]
        exact .inr hreferential
  cases hx : x.refers with
  | false => exact .inl (step_lax hw hx)
  | true =>
    cases x with
    | addLicense l => exact write rfl
    | updateLicense l clock => exact write rfl
    | _ => cases hx

theorem wiring_step {b : Bool} (hw : s.wiring = .separate b) (x : Step) :
    (s.step x).2.wiring = .separate b := by
  cases hopening : x.isOpening with
  | false => exact (sameStores_step hopening).wiring.trans hw
  | true =>
    cases x with
    | openStore t =>
      rw [step_eq, outcome, openStore_of_separate hw, wiring_hand, wiring_openTable]
      exact hw
    | _ => cases hopening

theorem run_lax (hw : s.wiring = .separate true) {xs : List Step}
    (h : ∀ r ∈ (s.run xs).1, r.isReferential = false) :
    s.lax.run xs = ((s.run xs).1, (s.run xs).2.lax) := by
  induction xs generalizing s with
  | nil => rfl
  | cons x xs ih =>
    rw [run_cons, List.forall_mem_cons] at h
    have hstep : s.lax.step x = laxly (s.step x) := by
      refine (step_lax_or_rejected hw x).resolve_right ?_
      rw [h.1]
      exact Bool.false_ne_true
    rw [run_cons, run_cons, hstep, laxly, ih (wiring_step hw x) h.2]

end Session

theorem Failure.isReferential_of_isLocal {f : Failure} (h : f.isLocal = true) :
    f.isReferential = false := by
  cases f with
  | refused r =>
    cases r with
    | missingTable name => cases h
    | danglingReference => cases h
    | _ => rfl
  | _ => rfl

theorem Failure.Fits.isReferential {db : Database} {t : Table} {f : Failure}
    (h : f.Fits db t false) : f.isReferential = false := by
  cases h with
  | own h => exact isReferential_of_isLocal h
  | missing _ => cases t <;> rfl
  | parent h => cases h
  | dangling h => cases h

namespace Session

variable {s : Session}

def Blames (x : Step) (f : Failure) : Prop :=
  f.isReferential = true → x.refers = true ∨
    x.Names "main.content" ∧ f = .refused (.missingTable "main.content")

theorem Blames.of_not {x : Step} {f : Failure} (h : f.isReferential = false) : Blames x f := by
  intro h'
  rw [h] at h'
  cases h'

/-- Nothing but the writing of a reference fails because references are followed; an insertion past
the stores may call a missing table so. -/
theorem step_blames {b : Bool} (hw : s.wiring = .separate b) (hs : s.StreamsLocal) (x : Step) :
    FailsOnly (Blames x) (s.step x).1.answer := by
  have own {y : Except Failure Answer} (h : FailsLocally y) : FailsOnly (Blames x) y :=
    h.imp fun _ hf => .of_not (Failure.isReferential_of_isLocal hf)
  cases hrefers : x.refers with
  | true => exact ⟨fun _ _ _ => .inl hrefers⟩
  | false =>
    cases hstore : x.store? with
    | some t =>
      refine (step_fits hstore).imp ?_
      rw [hrefers]
      rintro f (rfl | ⟨-, hfits⟩)
      · exact .of_not rfl
      · exact .of_not hfits.isReferential
    | none =>
      rw [step_eq]
      cases x with
      | prepare f =>
        refine (prepare_failsOnly f).imp ?_
        rintro f (hlocal | rfl)
        · exact .of_not (Failure.isReferential_of_isLocal hlocal)
        · exact .of_not rfl
      | insertRaw table values =>
        refine insertRaw_failsOnly ((Database.insertWorded_failsOnly table values).imp ?_)
        rintro f (hlocal | ⟨name, hnames, rfl⟩)
        · exact .of_not (Failure.isReferential_of_isLocal hlocal)
        · intro hname
          cases of_decide_eq_true hname
          exact .inr ⟨hnames, rfl⟩
      | tables => exact .ok _
      | columns table => exact own ((columnsWorded_local _ table).map _)
      | openStore t => exact own (openStore_local hw t)
      | dialect => exact .ok _
      | connections => exact .ok _
      | openStream name q =>
        cases q with
        | numbers values failOn => exact .ok _
        | missing => exact .error (.of_not rfl)
        | _ => cases hstore
      | next name => exact own (hs.next name).1
      | drain name => exact own (hs.drain name).1
      | close name => exact own (hs.close name).1
      | scope name take abort => exact own (hs.scope name take abort).1
      | state name => exact own (hs.state name).1
      | undescribed store f =>
        cases store with
        | none => exact own (.error rfl)
        | some t => cases hstore
      | _ => cases hstore

theorem rejected_unchanged {b : Bool} (hw : s.wiring = .separate b) (hs : s.StreamsLocal) {x : Step}
    (h : (s.step x).1.isReferential = true) : (s.step x).2 = s := by
  cases hanswer : (s.step x).1.answer with
  | ok a =>
    rw [Reply.isReferential, hanswer] at h
    cases h
  | error f =>
    rw [Reply.isReferential, hanswer] at h
    have hatomic : x.isAtomic s.wiring = true := by
      rcases (step_blames hw hs x).of_error f hanswer h with hrefers | ⟨hnames, -⟩
      · cases x with
        | addLicense l => rfl
        | updateLicense l clock => rfl
        | _ => cases hrefers
      · cases x with
        | insertRaw table values => rfl
        | _ => exact hnames.elim
    exact ((untouchedByFailure_step hatomic).untouched f hanswer).1

def admitted (s : Session) (xs : List Step) : List Step :=
  ((s.transcript xs).filter (!·.2.isReferential)).map (·.1)

theorem run_admitted {b : Bool} (hw : s.wiring = .separate b) (hs : s.StreamsLocal)
    (xs : List Step) :
    s.run (s.admitted xs) = ((s.run xs).1.filter (!·.isReferential), (s.run xs).2) := by
  induction xs generalizing s with
  | nil => rfl
  | cons x xs ih =>
    have hrest := ih (wiring_step hw x) (hs.step x)
    have htranscript : s.transcript (x :: xs) =
        (x, (s.step x).1) :: (s.step x).2.transcript xs := rfl
    rw [admitted, htranscript, run_cons]
    cases hr : (s.step x).1.isReferential with
    | true =>
      rw [List.filter_cons_of_neg (by simp [hr]), List.filter_cons_of_neg (by simp [hr])]
      rw [rejected_unchanged hw hs hr] at hrest ⊢
      exact hrest
    | false =>
      rw [List.filter_cons_of_pos (by simp [hr]), List.filter_cons_of_pos (by simp [hr]),
        List.map_cons, run_cons, ← admitted, hrest]

theorem transcript_blames (hw : s.wiring = .separate true) (hs : s.StreamsLocal) {xs : List Step} :
    ∀ p ∈ s.transcript xs, FailsOnly (Blames p.1) p.2.answer := by
  induction xs generalizing s with
  | nil =>
    intro p hp
    cases hp
  | cons x xs ih =>
    intro p hp
    rcases List.mem_cons.1 hp with rfl | hp
    · exact step_blames hw hs x
    · exact ih (wiring_step hw x) (hs.step x) p hp

/-- A session that follows references beside one that does not. Unless a step is rejected for a
reference, both answer alike and end alike; only the steps that write a reference are rejected for
one, though an insertion past the stores may miss a table of the same name; and a session without
the steps that are rejected goes alike in both, with the answers that the others have had. -/
theorem enforcement_only_rejects (d : Dialect) (db : Database) (xs : List Step) :
    let direct := (start d (.separate true)).withDatabase db;
    let plain := (start d (.separate false)).withDatabase db;
    ((∀ r ∈ (direct.run xs).1, r.isReferential = false) →
        (direct.run xs).1 = (plain.run xs).1 ∧
          (direct.run xs).2.database = (plain.run xs).2.database) ∧
      (∀ p ∈ direct.transcript xs,
        (p.2.answer = .error (.refused .danglingReference) → p.1.refers = true) ∧
          (p.2.answer = .error (.refused (.missingTable "main.content")) →
            p.1.refers = true ∨ p.1.Names "main.content")) ∧
      let admitted := direct.admitted xs;
      (direct.run admitted).1 = (plain.run admitted).1 ∧
        (direct.run admitted).2.database = (plain.run admitted).2.database ∧
        (direct.run admitted).1 = (direct.run xs).1.filter (!·.isReferential) ∧
        (direct.run admitted).2 = (direct.run xs).2 := by
  intro direct plain
  have hw : direct.wiring = .separate true := rfl
  have hs : direct.StreamsLocal := nofun
  have hlax : direct.lax = plain := rfl
  -- sessions that are the same but for what they follow
  have alike {ys : List Step} (h : ∀ r ∈ (direct.run ys).1, r.isReferential = false) :
      (direct.run ys).1 = (plain.run ys).1 ∧
        (direct.run ys).2.database = (plain.run ys).2.database := by
    rw [← hlax, run_lax hw h]
    exact ⟨rfl, rfl⟩
  have hadmitted := run_admitted hw hs xs
  have hkept : ∀ r ∈ (direct.run (direct.admitted xs)).1, r.isReferential = false := by
    rw [hadmitted]
    intro r hr
    simpa using (List.mem_filter.1 hr).2
  refine ⟨alike, fun p hp => ?_, (alike hkept).1, (alike hkept).2, ?_, ?_⟩
  · have hblames := transcript_blames hw hs p hp
    refine ⟨fun hanswer => ?_, fun hanswer => ?_⟩
    · rcases hblames.of_error _ hanswer rfl with hrefers | ⟨-, hmissing⟩
      · exact hrefers
      · cases hmissing
    · exact (hblames.of_error _ hanswer rfl).imp_right And.left
  · rw [hadmitted]
  · rw [hadmitted]

theorem enforcement_only_rejects_of_missing_content :
    let license := fun i c : String => ({
      id := .text i, issued := .moment ⟨0, by decide, none⟩, contentId := .text c } : License)
    let xs : List Step := [
      .openStore .content, .openStore .license, .addContent { id := .text "c" },
      .addLicense (license "a" "c")]
    let ys := xs ++ [.addLicense (license "b" "d")]
    let direct := start .sqlite (.separate true)
    let plain := start .sqlite (.separate false)
    (direct.run xs).1 = (plain.run xs).1 ∧
      (direct.run ys).1.map Reply.isReferential = [false, false, false, false, true] ∧
      (direct.run (direct.admitted ys)).1 = (plain.run (direct.admitted ys)).1 := by
  intro license xs ys direct plain
  have hadmitted : ∀ r ∈ (direct.run xs).1, r.isReferential = false := by decide +kernel
  exact ⟨((enforcement_only_rejects .sqlite {} xs).1 hadmitted).1, by decide +kernel,
    (enforcement_only_rejects .sqlite {} ys).2.2.1⟩

/-- An insertion past the stores writes no reference, and misses a table that it calls so itself. -/
theorem missing_table_of_raw_insertion :
    let s := start .sqlite (.separate true)
    let x := Step.insertRaw "main.content" [("id", .text "a")]
    (s.step x).1.answer = .error (.refused (.missingTable "main.content")) ∧ x.refers = false := by
  intro s x
  refine ⟨?_, rfl⟩
  have hinsert : s.database.insertWorded "main.content" [("id", .text "a")] =
      .error (.refused (.missingTable "main.content")) := by decide +kernel
  rw [step_eq, outcome, insertRaw, hinsert]
  rfl

end Session

end RightsStore
