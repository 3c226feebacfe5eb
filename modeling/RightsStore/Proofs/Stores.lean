import RightsStore.Proofs.Steps

namespace RightsStore

theorem Step.Effect.has {d : Dialect} {enforce ok : Bool} {x : Step} {db db' : Database} {t : Table}
    (h : x.Effect d enforce ok db db') (hx : x.isFixture = false) (hdb : db.has t = true) :
    db'.has t = true := by
  cases h with
  | failed => exact hdb
  | read => exact hdb
  | prepared => cases hx
  | opened => exact (db.openAll_grows d _).has t hdb
  | contentAdded h =>
    obtain ⟨_, _, _, -, -, -, rfl⟩ := ContentIndex.add_eq_ok h
    cases t with
    | content => rfl
    | license => exact hdb
  | contentUpdated h =>
    obtain ⟨_, _, _, -, -, -, rfl⟩ := ContentIndex.update_eq_ok h
    cases t with
    | content => rfl
    | license => exact hdb
  | licenseAdded h =>
    obtain ⟨_, _, _, -, -, -, rfl⟩ := LicenseStore.add_eq_ok h
    cases t with
    | content => exact hdb
    | license => rfl
  | licenseUpdated h =>
    obtain ⟨_, _, _, _, -, -, -, rfl⟩ := LicenseStore.update_eq_ok h
    cases t with
    | content => exact hdb
    | license => rfl
  | rightsUpdated h =>
    obtain ⟨_, _, _, -, -, -, rfl⟩ := LicenseStore.updateRights_eq_ok h
    cases t with
    | content => exact hdb
    | license => rfl
  | statusSet h =>
    obtain ⟨_, _, _, _, -, -, -, rfl⟩ := LicenseStore.setStatus_eq_ok h
    cases t with
    | content => exact hdb
    | license => rfl

theorem Database.has_insertInto {db db' : Database} {r : Relation} {values : List (Target × Cell)}
    {t : Table} (h : db.insertInto r values = .ok db') (hdb : db.has t = true) :
    db'.has t = true := by
  unfold insertInto at h
  cases r with
  | content new =>
    obtain ⟨_, -, h⟩ := exists_of_bind_eq_ok h
    cases h
    cases t with
    | content => rfl
    | license => exact hdb
  | license new =>
    obtain ⟨_, -, h⟩ := exists_of_bind_eq_ok h
    cases h
    cases t with
    | content => exact hdb
    | license => rfl
  | other new =>
    obtain ⟨_, -, h⟩ := exists_of_bind_eq_ok h
    cases h
    cases t <;> exact hdb
  | catalogue temporary => cases h

theorem Database.has_insertWorded {db db' : Database} {table : String}
    {values : List (String × Datum)} {t : Table} (h : db.insertWorded table values = .ok db')
    (hdb : db.has t = true) : db'.has t = true := by
  obtain ⟨sql, -, h⟩ := exists_of_bind_eq_ok h
  obtain ⟨⟨insertion, more⟩, -, h⟩ := exists_of_bind_eq_ok h
  obtain ⟨⟨relation, targets⟩, -, h⟩ := exists_of_bind_eq_ok h
  obtain ⟨-, -, h⟩ := exists_of_bind_eq_ok h
  split at h
  · cases h
  · obtain ⟨bound, -, h⟩ := exists_of_bind_eq_ok h
    exact has_insertInto (ofExecuted_eq_ok.1 h) hdb

def Wiring.keeps : Wiring → Table → Bool
  | .separate _, _ => false
  | .container index licenses, .content => index || licenses
  | .container _ licenses, .license => licenses

def Wiring.brings : Wiring → (t u : Table) → Bool
  | .container .., .license, _ => true
  | _, t, u => t = u

namespace Session

variable {s : Session} {t u : Table}

theorem has_prepare (f : Fixture) (h : s.database.has t = true) :
    (s.prepare f).2.database.has t = true := by
  cases t with
  | license =>
    rw [Database.has, (s.prepare_license f).1]
    exact h
  | content =>
    cases f with
    | legacyContent rows =>
      simp only [prepare, Database.addLegacyContent, h, if_true]
      exact h
    | other index =>
      simp only [prepare, Database.addOther]
      split
      · exact h
      · rename_i db heq
        split at heq
        · cases heq
        · cases heq
          simp only [Database.indexOther]
          split <;> exact h

theorem has_insertRaw (table : String) (values : List (String × Datum))
    (h : s.database.has t = true) : (s.insertRaw table values).2.database.has t = true := by
  rw [insertRaw]
  split
  · rename_i db hinsert
    exact Database.has_insertWorded hinsert h
  · exact h

theorem has_step (h : s.database.has t = true) (x : Step) :
    (s.step x).2.database.has t = true := by
  cases hraw : x.isRaw with
  | true =>
    cases x with
    | insertRaw table values =>
      rw [step]
      exact has_insertRaw table values h
    | _ => cases hraw
  | false =>
    cases hfixture : x.isFixture with
    | false => exact (s.step_effect hraw).has hfixture h
    | true =>
      cases x with
      | prepare f => exact has_prepare f h
      | _ => cases hfixture

structure SameStores (s s' : Session) : Prop where
  wiring : s'.wiring = s.wiring
  isOpen : ∀ t, s'.isOpen t = s.isOpen t

theorem OnlyDatabase.sameStores {s' : Session} (h : s.OnlyDatabase s') : s.SameStores s' := by
  obtain ⟨db, rfl⟩ := h
  exact ⟨rfl, fun t => by cases t <;> rfl⟩

theorem OnlyStream.sameStores {s' : Session} {name : String} (h : OnlyStream name s s') :
    s.SameStores s' := by
  obtain ⟨streams, pool, rfl, -⟩ := h
  exact ⟨rfl, fun t => by cases t <;> rfl⟩

theorem sameStores_step {x : Step} (hx : x.isOpening = false) : s.SameStores (s.step x).2 := by
  cases h : x.stream? with
  | none => exact (onlyDatabase_step hx h).sameStores
  | some name => exact (onlyStream_step h).sameStores

theorem onlyDatabase_openTable (t : Table) : s.OnlyDatabase (s.openTable t).2 := by
  rw [openTable_snd]
  exact ⟨_, rfl⟩

theorem has_openTable (h : s.database.has u = true) : (s.openTable t).2.database.has u = true := by
  rw [openTable_snd]
  exact (s.database.open_grows s.dialect t).has u h

theorem has_openTable_self {a : Answer} (h : (s.openTable t).1.answer = .ok a) :
    (s.openTable t).2.database.has t = true := by
  rw [openTable_snd]
  refine Database.has_open_of_not_refused ?_
  rw [openTable_eq, opening] at h
  split at h
  · cases h
  · assumption

/-- A store that is at hand, or kept by the container, has its table. -/
structure Backed (s : Session) (t : Table) : Prop where
  isOpen : s.isOpen t = true → s.database.has t = true
  kept : s.wiring.keeps t = true → s.database.has t = true

theorem Backed.sameStores {s' : Session} (h : s.Backed t) (hsame : s.SameStores s')
    (hhas : s.database.has t = true → s'.database.has t = true) : s'.Backed t := by
  refine ⟨?_, ?_⟩
  · intro hopen
    rw [hsame.isOpen] at hopen
    exact hhas (h.isOpen hopen)
  · intro hkept
    rw [hsame.wiring] at hkept
    exact hhas (h.kept hkept)

structure Serves (s : Session) (u : Table) (brought : Bool) (r : Reply × Session) : Prop where
  enforce : r.2.enforce = s.enforce
  backed : r.2.Backed u
  has : brought = true → ∀ a, r.1.answer = .ok a → r.2.database.has u = true

theorem Serves.of_brought {r : Reply × Session} (h : s.Serves u true r) (brought : Bool) :
    s.Serves u brought r :=
  ⟨h.enforce, h.backed, fun _ => h.has rfl⟩

theorem enforce_of_sameStores {s' : Session} (h : s.SameStores s') : s'.enforce = s.enforce := by
  rw [enforce, enforce, h.wiring]

theorem enforce_of_container {index licenses : Bool} (h : s.wiring = .container index licenses) :
    s.enforce = true := by
  rw [enforce, h]

theorem serves_openTable (h : s.Backed u) (t : Table) :
    s.Serves u (t = u) (s.openTable t) := by
  have hsame := (s.onlyDatabase_openTable t).sameStores
  refine ⟨enforce_of_sameStores hsame, h.sameStores hsame has_openTable, ?_⟩
  intro hbrought a ha
  cases of_decide_eq_true hbrought
  exact has_openTable_self ha

theorem serves_containerIndex (h : s.Backed u) {licenses : Bool}
    (hw : s.wiring = .container false licenses) :
    s.Serves u (.content = u) (s.containerIndex licenses) := by
  have hserves := serves_openTable h .content
  have hsame := (s.onlyDatabase_openTable .content).sameStores
  unfold containerIndex
  split
  rename_i reply s' heq
  rw [heq] at hserves hsame
  split
  · rename_i a ha
    refine ⟨(enforce_of_container hw).symm, ⟨?_, ?_⟩, fun hbrought _ _ => hserves.has hbrought a ha⟩
    · cases u <;> exact hserves.backed.isOpen
    · cases u with
      | content => exact fun _ => hserves.has rfl a ha
      | license =>
        intro hkept
        refine hserves.backed.kept ?_
        rw [hsame.wiring, hw]
        exact hkept
  · refine ⟨hserves.enforce, hserves.backed, ?_⟩
    intro _ a ha
    cases ha

theorem serves_containerLicenses (h : s.Backed u) {index : Bool}
    (hw : s.wiring = .container index false) : s.Serves u true (s.containerLicenses index) := by
  unfold containerLicenses
  split
  rename_i first s' heq
  -- the index comes first, and may be there already
  have hfirst : s.Serves u (.content = u) (first, s') := by
    cases index with
    | true =>
      cases heq
      refine ⟨rfl, h, ?_⟩
      intro hbrought _ _
      cases of_decide_eq_true hbrought
      refine h.kept ?_
      rw [hw]
      rfl
    | false =>
      rw [← heq]
      exact serves_containerIndex h hw
  split
  · refine ⟨hfirst.enforce, hfirst.backed, ?_⟩
    intro _ a ha
    cases ha
  · rename_i a ha
    split
    rename_i second s'' heq'
    have hsecond := serves_openTable hfirst.backed .license
    have hgrown : s'.database.has u = true → (s'.openTable .license).2.database.has u = true :=
      has_openTable
    rw [heq'] at hsecond hgrown
    split
    · refine ⟨hsecond.enforce.trans hfirst.enforce, hsecond.backed, ?_⟩
      intro _ a ha
      cases ha
    · rename_i a' ha'
      have hhas : s''.database.has u = true := by
        cases u with
        | content => exact hgrown (hfirst.has rfl a ha)
        | license => exact hsecond.has rfl a' ha'
      exact ⟨(enforce_of_container hw).symm, ⟨fun _ => hhas, fun _ => hhas⟩, fun _ _ _ => hhas⟩

theorem serves_hand {r : Reply × Session} (h : s.Serves u (r.2.wiring.brings t u) r) :
    (hand t r).2.Backed u ∧ (hand t r).2.enforce = s.enforce := by
  unfold hand
  split
  · exact ⟨h.backed, h.enforce⟩
  · rename_i a ha
    have hhas := fun hbrought => h.has hbrought a ha
    split
    · refine ⟨⟨?_, h.backed.kept⟩, h.enforce⟩
      cases u with
      | content => exact fun _ => hhas (by cases r.2.wiring <;> rfl)
      | license => exact h.backed.isOpen
    · rename_i b hw
      rw [hw] at hhas
      refine ⟨⟨?_, h.backed.kept⟩, h.enforce⟩
      cases u with
      | content => exact h.backed.isOpen
      | license => exact fun _ => hhas rfl
    · rename_i index licenses hw
      rw [hw] at hhas
      exact ⟨⟨fun _ => hhas rfl, h.backed.kept⟩, h.enforce⟩

theorem brings_content (w : Wiring) (u : Table) : w.brings .content u = (.content = u : Bool) := by
  cases w <;> rfl

theorem backed_openStore (h : s.Backed u) (t : Table) :
    (s.openStore t).2.Backed u ∧ (s.openStore t).2.enforce = s.enforce := by
  unfold openStore
  apply serves_hand
  cases hw : s.wiring with
  | separate b =>
    have hsame := (s.onlyDatabase_openTable t).sameStores
    have hserves := serves_openTable h t
    cases t <;> simpa [hsame.wiring, hw, Wiring.brings] using hserves
  | container index licenses =>
    cases t with
    | content =>
      rw [brings_content]
      cases index with
      | true =>
        refine ⟨rfl, h, ?_⟩
        intro hbrought _ _
        cases of_decide_eq_true hbrought
        refine h.kept ?_
        rw [hw]
        rfl
      | false => exact serves_containerIndex h hw
    | license =>
      refine Serves.of_brought ?_ _
      cases licenses with
      | true =>
        have hhas : s.database.has u = true := by
          refine h.kept ?_
          rw [hw]
          cases u with
          | content => exact Bool.or_true index
          | license => rfl
        cases index <;> exact ⟨rfl, h, fun _ _ _ => hhas⟩
      | false => cases index <;> exact serves_containerLicenses h hw

theorem backed_step (h : s.Backed t) (x : Step) :
    (s.step x).2.Backed t ∧ (s.step x).2.enforce = s.enforce := by
  cases hopening : x.isOpening with
  | false =>
    have hsame := sameStores_step (s := s) hopening
    exact ⟨h.sameStores hsame fun hhas => has_step hhas x, enforce_of_sameStores hsame⟩
  | true =>
    cases x with
    | openStore t' => exact backed_openStore h t'
    | _ => cases hopening

theorem isOpen_openTable (t u : Table) : (s.openTable t).2.isOpen u = s.isOpen u :=
  (s.onlyDatabase_openTable t).sameStores.isOpen u

theorem isOpen_containerIndex (licenses : Bool) (u : Table) :
    (s.containerIndex licenses).2.isOpen u = s.isOpen u := by
  have hsame := isOpen_openTable (s := s) .content u
  unfold containerIndex
  split
  rename_i reply s' heq
  rw [heq] at hsame
  split
  · cases u <;> exact hsame
  · exact hsame

theorem isOpen_containerLicenses (index : Bool) (u : Table) :
    (s.containerLicenses index).2.isOpen u = s.isOpen u := by
  unfold containerLicenses
  split
  rename_i first s' heq
  have hfirst : s'.isOpen u = s.isOpen u := by
    cases index with
    | true =>
      cases heq
      rfl
    | false =>
      have h := isOpen_containerIndex (s := s) false u
      simp only [Bool.false_eq_true, if_false] at heq
      rw [heq] at h
      exact h
  split
  · exact hfirst
  · split
    rename_i second s'' heq'
    have hsecond := isOpen_openTable (s := s') .license u
    rw [heq'] at hsecond
    split
    · exact hsecond.trans hfirst
    · cases u <;> exact hsecond.trans hfirst

theorem isOpen_hand {r : Reply × Session} (h : r.2.isOpen u = true) :
    (hand t r).2.isOpen u = true := by
  unfold hand
  split
  · exact h
  · cases u <;> split <;> first | rfl | exact h

theorem isOpen_step (h : s.isOpen u = true) (x : Step) : (s.step x).2.isOpen u = true := by
  cases hopening : x.isOpening with
  | false => exact ((sameStores_step hopening).isOpen u).trans h
  | true =>
    cases x with
    | openStore t =>
      refine isOpen_hand ?_
      cases s.wiring with
      | separate b => cases t <;> exact (isOpen_openTable _ u).trans h
      | container index licenses =>
        cases t with
        | content =>
          cases index with
          | true => exact h
          | false => exact (isOpen_containerIndex licenses u).trans h
        | license =>
          cases licenses with
          | true => cases index <;> exact h
          | false => cases index <;> exact (isOpen_containerLicenses _ u).trans h
    | _ => cases hopening

structure Ready (s : Session) : Prop where
  licenses : s.licenses = true → s.database.has .license = true
  kept : ∀ index, s.wiring = .container index true → s.database.has .license = true

theorem ready_iff : s.Ready ↔ s.Backed .license := by
  constructor
  · intro h
    refine ⟨h.licenses, ?_⟩
    intro hkept
    cases hw : s.wiring with
    | separate b =>
      rw [hw] at hkept
      cases hkept
    | container index licenses =>
      rw [hw] at hkept
      cases hkept
      exact h.kept index hw
  · intro h
    refine ⟨h.isOpen, ?_⟩
    intro index hw
    refine h.kept ?_
    rw [hw]
    rfl

theorem ready_step (h : s.Ready) (x : Step) :
    (s.step x).2.Ready ∧ (s.step x).2.enforce = s.enforce := by
  rw [ready_iff] at h ⊢
  exact backed_step h x

end Session

def Wiring.isFresh : Wiring → Bool
  | .separate _ => true
  | .container index licenses => !index && !licenses

theorem Wiring.keeps_of_isFresh {w : Wiring} (h : w.isFresh = true) (t : Table) :
    w.keeps t = false := by
  cases w with
  | separate b => rfl
  | container index licenses =>
    simp only [isFresh, Bool.and_eq_true, Bool.not_eq_true'] at h
    obtain ⟨rfl, rfl⟩ := h
    cases t <;> rfl

theorem Session.backed_start (d : Dialect) {w : Wiring} (draws : Draws) (hw : w.isFresh = true)
    (t : Table) : (start d w draws).Backed t := by
  refine ⟨?_, ?_⟩
  · cases t <;> exact nofun
  · intro hkept
    have hnot : (start d w draws).wiring.keeps t = false := Wiring.keeps_of_isFresh hw t
    rw [hnot] at hkept
    cases hkept

theorem Session.ready_start (d : Dialect) {w : Wiring} (draws : Draws) (hw : w.isFresh = true) :
    (start d w draws).Ready :=
  ready_iff.2 (backed_start d draws hw .license)

end RightsStore
