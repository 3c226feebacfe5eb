import RightsStore.Proofs.Commands

/-!
What programs leave behind. A transaction that fails leaves the database as it was, whatever was
done in it, and every program gives its connections back but for that of a stream that it opens.
-/

namespace RightsStore

section

variable {ε σ α β : Type} {s s' s'' : σ}

theorem bind_of_ok {x : EStateM ε σ α} {a : α} (h : x s = .ok a s') (f : α → EStateM ε σ β) :
    (x >>= f) s = f a s' := by
  simp only [bind, EStateM.bind, h]

theorem bind_of_error {x : EStateM ε σ α} {e : ε} (h : x s = .error e s')
    (f : α → EStateM ε σ β) : (x >>= f) s = .error e s' := by
  simp only [bind, EStateM.bind, h]

theorem map_of_ok {x : EStateM ε σ α} {a : α} (h : x s = .ok a s') (f : α → β) :
    (f <$> x) s = .ok (f a) s' := by
  simp only [Functor.map, EStateM.map, h]

theorem map_of_error {x : EStateM ε σ α} {e : ε} (h : x s = .error e s') (f : α → β) :
    (f <$> x) s = .error e s' := by
  simp only [Functor.map, EStateM.map, h]

theorem tryCatch_of_ok {x : EStateM ε σ α} {a : α} (h : x s = .ok a s') (f : ε → EStateM ε σ α) :
    tryCatch x f s = .ok a s' := by
  simp only [tryCatch, tryCatchThe, MonadExceptOf.tryCatch, EStateM.tryCatch, h]

theorem tryCatch_of_error {x : EStateM ε σ α} {e : ε} (h : x s = .error e s')
    (f : ε → EStateM ε σ α) : tryCatch x f s = f e s' := by
  simp only [tryCatch, tryCatchThe, MonadExceptOf.tryCatch, EStateM.tryCatch, h]
  rfl

theorem tryFinally_of_ok {x : EStateM ε σ α} {y : EStateM ε σ PUnit} {a : α} (h : x s = .ok a s')
    (hy : y s' = .ok ⟨⟩ s'') : tryFinally x y s = .ok a s'' := by
  simp only [tryFinally, MonadFinally.tryFinally', Functor.map, EStateM.map, h, hy]

theorem tryFinally_of_error {x : EStateM ε σ α} {y : EStateM ε σ PUnit} {e : ε}
    (h : x s = .error e s') (hy : y s' = .ok ⟨⟩ s'') : tryFinally x y s = .error e s'' := by
  simp only [tryFinally, MonadFinally.tryFinally', Functor.map, EStateM.map, h, hy]

end

namespace World

def Idle (w : World) : Prop := w.journal = []

theorem rollback_of_idle {w : World} (h : w.Idle) (n : Nat) : w.rollback n = w := by
  rw [rollback, h]
  rfl

theorem giveBack_of_idle {w : World} (h : w.Idle) (n : Nat) :
    w.giveBack n = { w with pool := w.pool.giveBack n } := by
  rw [giveBack, rollback_of_idle h]

theorem giveBack_connect (w w' : World) (h : w'.journal = []) (hpool : w'.pool = w.pool.connect) :
    w'.giveBack w.pool.free = { w' with pool := w.pool } := by
  rw [giveBack_of_idle h, hpool, Pool.giveBack_connect]

end World

namespace Program

variable {α β : Type}

theorem connected_of_ok {x : Nat → Program α} {w w' : World} {a : α}
    (h : x w.pool.free w.connect = .ok a w') :
    connected x w = .ok a (w'.giveBack w.pool.free) := by
  have hconnect : connect w = .ok w.pool.free w.connect := rfl
  rw [connected, bind_of_ok hconnect]
  exact tryFinally_of_ok h rfl

theorem connected_of_error {x : Nat → Program α} {w w' : World} {f : Failure}
    (h : x w.pool.free w.connect = .error f w') :
    connected x w = .error f (w'.giveBack w.pool.free) := by
  have hconnect : connect w = .ok w.pool.free w.connect := rfl
  rw [connected, bind_of_ok hconnect]
  exact tryFinally_of_error h rfl

/-- Whatever becomes of a program, connections and transactions are as they were. -/
structure Settles (x : Program α) : Prop where
  ok : ∀ {w a w'}, x w = .ok a w' → w'.pool = w.pool ∧ w'.journal = w.journal
  error : ∀ {w f w'}, x w = .error f w' → w'.pool = w.pool ∧ w'.journal = w.journal

theorem execute_of_ok {x : Command α} {w : World} {a : α} {db : Database}
    (h : x w.database = .ok a db) : execute x w = .ok a { w with database := db } := by
  rw [execute, h]

theorem execute_of_error {x : Command α} {w : World} {f : Failure} {db : Database}
    (h : x w.database = .error f db) : execute x w = .error f { w with database := db } := by
  rw [execute, h]

theorem settles_execute (x : Command α) : Settles (execute x) := by
  refine ⟨?_, ?_⟩
  · intro w a w' h
    unfold execute at h
    split at h <;> cases h
    exact ⟨rfl, rfl⟩
  · intro w f w' h
    unfold execute at h
    split at h <;> cases h
    exact ⟨rfl, rfl⟩

variable {x : Program α} {w w' : World}

theorem transaction_of_ok (hx : Settles x) (hw : w.Idle) {a : α}
    (h : x (w.connect.begin w.pool.free) = .ok a w') :
    transaction x w = .ok a { w' with pool := w.pool, journal := [] } := by
  obtain ⟨hpool, hjournal⟩ := hx.ok h
  have hbegin : (modify (·.begin w.pool.free) : Program Unit) w.connect =
      .ok () (w.connect.begin w.pool.free) := rfl
  have hinside : (do
      modify (·.begin w.pool.free)
      let a ← tryCatch x fun f => do
        modify (·.rollback w.pool.free)
        throw f
      modify (·.commit w.pool.free)
      return a : Program α) w.connect = .ok a (w'.commit w.pool.free) := by
    rw [bind_of_ok hbegin, bind_of_ok (tryCatch_of_ok h _)]
    rfl
  have hended : w'.commit w.pool.free = { w' with journal := [] } := by
    have hbegun : w.connect.journal = [] := hw
    simp [World.commit, hjournal, World.begin, hbegun]
  rw [transaction, connected_of_ok hinside, hended,
    World.giveBack_connect w { w' with journal := [] } rfl hpool]

/-- Whatever a transaction has done, nothing of it but what was said is left when it fails. -/
theorem transaction_of_error (hx : Settles x) (hw : w.Idle) {f : Failure}
    (h : x (w.connect.begin w.pool.free) = .error f w') :
    transaction x w = .error f { w with log := w'.log } := by
  obtain ⟨hpool, hjournal⟩ := hx.error h
  have hbegin : (modify (·.begin w.pool.free) : Program Unit) w.connect =
      .ok () (w.connect.begin w.pool.free) := rfl
  have hcaught : tryCatch x (fun f => do
      modify (·.rollback w.pool.free)
      throw f) (w.connect.begin w.pool.free) = .error f (w'.rollback w.pool.free) :=
    (tryCatch_of_error h _).trans rfl
  have hinside : (do
      modify (·.begin w.pool.free)
      let a ← tryCatch x fun f => do
        modify (·.rollback w.pool.free)
        throw f
      modify (·.commit w.pool.free)
      return a : Program α) w.connect = .error f (w'.rollback w.pool.free) := by
    rw [bind_of_ok hbegin, bind_of_error hcaught]
  have hback : w'.rollback w.pool.free =
      { w' with database := w.database, journal := w.journal } := by
    simp [World.rollback, hjournal, World.begin, World.commit, World.connect]
  rw [transaction, connected_of_error hinside, hback,
    World.giveBack_connect w { w' with database := w.database, journal := w.journal } hw hpool]

def carriedOut (r : EStateM.Result Failure Database α) (w : World) :
    EStateM.Result Failure World α :=
  match r with
  | .ok a db => .ok a { w with database := db }
  | .error f _ => .error f w

/-- A command that fails halfway is taken back by its transaction. -/
theorem transaction_execute (x : Command α) (hw : w.Idle) :
    transaction (execute x) w = carriedOut (x w.database) w := by
  cases h : x w.database with
  | ok a db =>
    have hx := execute_of_ok (w := w.connect.begin w.pool.free) h
    have hidle : w.journal = [] := hw
    rw [transaction_of_ok (settles_execute x) hw hx, carriedOut, ← hidle]
    rfl
  | error f db =>
    have hx := execute_of_error (w := w.connect.begin w.pool.free) h
    rw [transaction_of_error (settles_execute x) hw hx]
    rfl

def looked (x : Except Failure α) (w : World) : EStateM.Result Failure World α :=
  match x with
  | .ok a => .ok a w
  | .error f => .error f w

theorem connected_inquire (x : Database → Except Failure α) (hw : w.Idle) :
    connected (fun _ => inquire x) w = looked (x w.database) w := by
  have hget : (get : Program World) w.connect = .ok w.connect w.connect := rfl
  cases h : x w.database with
  | ok a =>
    have hx : inquire x w.connect = .ok a w.connect := by
      have hsame : x w.connect.database = .ok a := h
      rw [inquire, bind_of_ok hget, hsame]
      rfl
    rw [connected_of_ok hx, World.giveBack_connect w w.connect hw rfl]
    rfl
  | error f =>
    have hx : inquire x w.connect = .error f w.connect := by
      have hsame : x w.connect.database = .error f := h
      rw [inquire, bind_of_ok hget, hsame]
      rfl
    rw [connected_of_error hx, World.giveBack_connect w w.connect hw rfl]
    rfl

def written (y : Except Failure Database) (e : Event) (w : World) :
    EStateM.Result Failure World Unit :=
  match y with
  | .ok db => .ok () { w with database := db, log := w.log ++ [e] }
  | .error f => .error f w

def rewritten (y : Except Failure (Database × Nat)) (e : Event) (w : World) :
    EStateM.Result Failure World Unit :=
  match y with
  | .ok (db, 0) => .error (.notFound .license) { w with database := db }
  | .ok (db, _ + 1) => .ok () { w with database := db, log := w.log ++ [e] }
  | .error f => .error f w

theorem write_eq (y : Command Unit) (e : Event) (hw : w.Idle) :
    write y e w = written (y.result w.database) e w := by
  have htransaction := transaction_execute y hw
  rw [write, Command.result, Command.outcome]
  cases h : y w.database with
  | ok a db =>
    rw [h] at htransaction
    rw [bind_of_ok htransaction]
    rfl
  | error f db =>
    rw [h] at htransaction
    rw [bind_of_error htransaction]
    rfl

theorem addLicense_eq (enforce : Bool) (l : License) (hw : w.Idle) :
    addLicense enforce l w =
      written (LicenseStore.add enforce w.database l) (.licenseAdded l.id l.contentId) w := by
  rw [addLicense, LicenseStore.add]
  cases l.requireUser with
  | error f => rfl
  | ok user => exact write_eq _ _ hw

theorem updateLicense_eq (enforce : Bool) (l : License) (clock : Moment) (hw : w.Idle) :
    updateLicense enforce l clock w =
      written (LicenseStore.update enforce w.database l clock) (.licenseUpdated l.id) w := by
  rw [updateLicense, LicenseStore.update]
  cases l.requireUser with
  | error f => rfl
  | ok user =>
    cases LicenseStore.now clock with
    | error f => rfl
    | ok now => exact write_eq _ _ hw

theorem updateRights_eq (l : License) (clock : Moment) (hw : w.Idle) :
    updateRights l clock w =
      rewritten (LicenseStore.updateRights w.database l clock) (.rightsUpdated l.id) w := by
  rw [updateRights, LicenseStore.updateRights]
  cases LicenseStore.now clock with
  | error f => rfl
  | ok now =>
    have htransaction := transaction_execute (LicenseStore.regrant l now) hw
    rw [ok_bind, Command.counted, Command.outcome]
    change (transaction (execute (LicenseStore.regrant l now)) >>= _) w = _
    cases h : LicenseStore.regrant l now w.database with
    | error f db =>
      rw [h] at htransaction
      rw [bind_of_error htransaction]
      rfl
    | ok n db =>
      rw [h] at htransaction
      rw [bind_of_ok htransaction]
      cases n <;> rfl

theorem getContent_eq (id : Datum) (hw : w.Idle) :
    getContent id w = looked (ContentIndex.get w.database id) w := by
  have hfind := connected_inquire (ContentIndex.find · id) hw
  rw [getContent, ContentIndex.get]
  cases h : ContentIndex.find w.database id with
  | error f =>
    rw [h] at hfind
    rw [bind_of_error hfind]
    rfl
  | ok found =>
    rw [h] at hfind
    rw [bind_of_ok hfind, ok_bind]
    cases ContentIndex.readFound found <;> rfl

theorem getLicense_eq (id : Datum) (hw : w.Idle) :
    getLicense id w = looked (LicenseStore.get w.database id) w := by
  have hfind := connected_inquire (LicenseStore.find · id) hw
  rw [getLicense, LicenseStore.get]
  cases h : LicenseStore.find w.database id with
  | error f =>
    rw [h] at hfind
    rw [bind_of_error hfind]
    rfl
  | ok found =>
    rw [h] at hfind
    rw [bind_of_ok hfind, ok_bind]
    cases LicenseStore.readFound found <;> rfl

end Program

end RightsStore
