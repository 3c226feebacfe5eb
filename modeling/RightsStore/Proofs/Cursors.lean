import RightsStore.Proofs.Programs

namespace RightsStore

def Stream.remaining : List (Except Failure Item) → Except Failure (List Item)
  | [] => .ok []
  | .error f :: _ => .error f
  | .ok a :: rest => do return a :: (← remaining rest)

@[simp] theorem Stream.remaining_map_ok (items : List Item) :
    remaining (items.map .ok) = .ok items := by
  induction items with
  | nil => rfl
  | cons a items ih =>
    simp only [List.map_cons, remaining, ih]
    rfl

namespace Cursor

def next : Cursor → Except Failure (Option Item) × Cursor
  | .closed => (.ok none, .closed)
  | .reading [] => (.ok none, .closed)
  | .reading (.ok a :: rest) => (.ok (some a), .reading rest)
  | .reading (.error f :: _) => (.error f, .closed)

def drain : Cursor → Except Failure (List Item)
  | .closed => .ok []
  | .reading rest => Stream.remaining rest

def take : (n : Nat) → Cursor → Except Failure (List (Option Item)) × Cursor
  | 0, c => (.ok [], c)
  | n + 1, c =>
    match c.next with
    | (.error f, c) => (.error f, c)
    | (.ok a, c) =>
      match take n c with
      | (.error f, c) => (.error f, c)
      | (.ok as, c) => (.ok (a :: as), c)

def within (n : Nat) (abort : Option String) (c : Cursor) : Except Failure (List (Option Item)) :=
  match (c.take n).1 with
  | .error f => .error f
  | .ok items =>
    match abort with
    | some message => .error (.aborted message)
    | none => .ok items

@[simp] theorem isClosed_closed : closed.isClosed = true := rfl

@[simp] theorem isClosed_reading (rest : List (Except Failure Item)) :
    (reading rest).isClosed = false := rfl

@[simp] theorem isClosed_ofRows {ρ : Type} (read : ρ → Except Failure Item) (rows : List ρ) :
    (ofRows read rows).isClosed = false := rfl

@[simp] theorem next_closed : closed.next = (.ok none, closed) := rfl

@[simp] theorem next_reading_nil : (reading []).next = (.ok none, closed) := rfl

@[simp] theorem next_reading_ok (a : Item) (rest : List (Except Failure Item)) :
    (reading (.ok a :: rest)).next = (.ok (some a), reading rest) := rfl

@[simp] theorem next_reading_error (f : Failure) (rest : List (Except Failure Item)) :
    (reading (.error f :: rest)).next = (.error f, closed) := rfl

@[simp] theorem drain_closed : closed.drain = .ok [] := rfl

theorem eq_closed {c : Cursor} (h : c.isClosed = true) : c = .closed := by
  cases c with
  | closed => rfl
  | reading rest => cases h

end Cursor

namespace Stream

def Use.moved (u : Use) (c : Cursor) : Use where
  stream := ⟨u.stream.connection, c⟩
  world :=
    if c.isClosed && !u.stream.cursor.isClosed then
      (u.world.giveBack u.stream.connection).say .streamClosed
    else u.world

theorem Use.moved_self (u : Use) : u.moved u.stream.cursor = u := by
  rw [Use.moved, Bool.and_not_self]
  rfl

theorem moved_moved {u : Use} {c c' : Cursor}
    (h : u.stream.cursor.isClosed = true → c.isClosed = true)
    (h' : c.isClosed = true → c'.isClosed = true) : (u.moved c).moved c' = u.moved c' := by
  cases hc : c.isClosed with
  | false =>
    have hold : u.stream.cursor.isClosed = false := by
      rw [← Bool.not_eq_true]
      intro hold
      rw [h hold] at hc
      cases hc
    simp [Use.moved, hc, hold]
  | true => cases ho : u.stream.cursor.isClosed <;> simp [Use.moved, hc, h' hc, ho]

variable {u : Use}

theorem close_eq (u : Use) : close u = .ok () (u.moved .closed) := by
  have hget : (get : Action Use) u = .ok u u := rfl
  rw [close, bind_of_ok hget]
  cases h : u.stream.cursor.isClosed with
  | true =>
    have hself := u.moved_self
    rw [Cursor.eq_closed h] at hself
    rw [hself]
    rfl
  | false =>
    simp only [Use.moved, h]
    rfl

theorem fetchItem_of_ok {a : Item} {rest : List (Except Failure Item)}
    (h : u.stream.cursor = .reading (.ok a :: rest)) :
    fetchItem u = .ok a (u.moved (.reading rest)) := by
  have hfetch : fetch u = .ok (some (.ok a)) (setCursor (.reading rest) u) := by
    change EStateM.Result.ok _ _ = _
    rw [h]
    rfl
  rw [fetchItem, bind_of_ok hfetch]
  rfl

theorem fetchItem_of_error {f : Failure} {rest : List (Except Failure Item)}
    (h : u.stream.cursor = .reading (.error f :: rest)) :
    fetchItem u = .error (.failed f) (u.moved (.reading rest)) := by
  have hfetch : fetch u = .ok (some (.error f)) (setCursor (.reading rest) u) := by
    change EStateM.Result.ok _ _ = _
    rw [h]
    rfl
  rw [fetchItem, bind_of_ok hfetch]
  rfl

theorem fetchItem_of_nil (h : u.stream.cursor = .reading []) :
    fetchItem u = .error .stop (u.moved .closed) := by
  have hfetch : fetch u = .ok none (setCursor (.reading []) u) := by
    change EStateM.Result.ok _ _ = _
    rw [h]
    rfl
  have hsame : setCursor (.reading []) u = u := by
    rw [setCursor, ← h]
  rw [fetchItem, bind_of_ok hfetch, hsame]
  exact (bind_of_ok (close_eq u) _).trans rfl

def Use.found (u : Use) (x : Except Failure (Option Item) × Cursor) : EStateM.Result Halt Use Item :=
  match x.1 with
  | .ok (some a) => .ok a (u.moved x.2)
  | .ok none => .error .stop (u.moved x.2)
  | .error f => .error (.failed f) (u.moved x.2)

def Use.read (u : Use) (x : Except Failure α × Cursor) : EStateM.Result Halt Use α :=
  match x.1 with
  | .ok a => .ok a (u.moved x.2)
  | .error f => .error (.failed f) (u.moved x.2)

theorem next_eq (u : Use) : next u = u.found u.stream.cursor.next := by
  have hget : (get : Action Use) u = .ok u u := rfl
  rw [next, bind_of_ok hget]
  cases h : u.stream.cursor with
  | closed =>
    rw [if_pos Cursor.isClosed_closed, Cursor.next_closed, Use.found, ← h, Use.moved_self]
    rfl
  | reading rest =>
    rw [Cursor.isClosed_reading, if_neg Bool.false_ne_true]
    have hopen (c : Cursor) (hclosed : u.stream.cursor.isClosed = true) : c.isClosed = true := by
      rw [h] at hclosed
      cases hclosed
    match rest with
    | [] =>
      -- the end has closed the stream already
      rw [tryCatch_of_error (fetchItem_of_nil h), bind_of_ok (close_eq _),
        moved_moved (fun _ => rfl) fun _ => rfl]
      rfl
    | .ok a :: rest => exact tryCatch_of_ok (fetchItem_of_ok h) _
    | .error f :: rest =>
      rw [tryCatch_of_error (fetchItem_of_error h), bind_of_ok (close_eq _),
        moved_moved (hopen _) fun _ => rfl]
      rfl

theorem next?_eq (u : Use) : next? u = u.read u.stream.cursor.next := by
  have hnext := next_eq u
  rw [next?]
  match h : u.stream.cursor.next with
  | (.ok (some a), c) =>
    rw [h] at hnext
    exact tryCatch_of_ok (map_of_ok hnext some) _
  | (.ok none, c) =>
    rw [h] at hnext
    exact (tryCatch_of_error (map_of_error hnext some) _).trans rfl
  | (.error f, c) =>
    rw [h] at hnext
    exact (tryCatch_of_error (map_of_error hnext some) _).trans rfl

end Stream

namespace Cursor

theorem isClosed_next {c : Cursor} (h : c.isClosed = true) : c.next.2.isClosed = true := by
  rw [eq_closed h]
  rfl

theorem isClosed_take {c : Cursor} (h : c.isClosed = true) (n : Nat) :
    (c.take n).2.isClosed = true := by
  rw [eq_closed h]
  clear h
  induction n with
  | zero => rfl
  | succ n ih =>
    simp only [take, next_closed]
    split
    · rename_i heq
      rw [heq] at ih
      exact ih
    · rename_i heq
      rw [heq] at ih
      exact ih

variable {c c' c'' : Cursor} {n : Nat}

theorem take_succ_of_error {f : Failure} (h : c.next = (.error f, c')) :
    c.take (n + 1) = (.error f, c') := by
  rw [take, h]

theorem take_succ_of_ok_error {a : Option Item} {f : Failure} (h : c.next = (.ok a, c'))
    (h' : c'.take n = (.error f, c'')) : c.take (n + 1) = (.error f, c'') := by
  rw [take, h]
  dsimp only
  rw [h']

theorem take_succ_of_ok {a : Option Item} {as : List (Option Item)} (h : c.next = (.ok a, c'))
    (h' : c'.take n = (.ok as, c'')) : c.take (n + 1) = (.ok (a :: as), c'') := by
  rw [take, h]
  dsimp only
  rw [h']

end Cursor

namespace Stream

theorem take_eq (n : Nat) (u : Use) : take n u = u.read (u.stream.cursor.take n) := by
  induction n generalizing u with
  | zero =>
    rw [Use.read, Cursor.take]
    simp only [Use.moved_self]
    rfl
  | succ n ih =>
    have hnext := next?_eq u
    rw [take]
    match h : u.stream.cursor.next with
    | (.error f, c) =>
      rw [h] at hnext
      rw [bind_of_error hnext, Cursor.take_succ_of_error h]
      rfl
    | (.ok a, c) =>
      rw [h] at hnext
      have hclosed (hold : u.stream.cursor.isClosed = true) : c.isClosed = true := by
        have := Cursor.isClosed_next hold
        rwa [h] at this
      have htake (hc : c.isClosed = true) := Cursor.isClosed_take hc n
      have hrest := ih (u.moved c)
      have hcursor : (u.moved c).stream.cursor = c := rfl
      rw [hcursor, Use.read] at hrest
      rw [bind_of_ok hnext]
      match h' : c.take n with
      | (.error f, c') =>
        rw [h'] at hrest htake
        rw [moved_moved hclosed htake] at hrest
        rw [bind_of_error hrest, Cursor.take_succ_of_ok_error h h']
        rfl
      | (.ok as, c') =>
        rw [h'] at hrest htake
        rw [moved_moved hclosed htake] at hrest
        rw [bind_of_ok hrest, Cursor.take_succ_of_ok h h']
        rfl

theorem takeAll_eq (u : Use) {rest : List (Except Failure Item)}
    (h : u.stream.cursor = .reading rest) :
    takeAll (rest.length + 1) u = u.read (remaining rest, .closed) := by
  induction rest generalizing u with
  | nil =>
    have hnext := next?_eq u
    rw [h, Cursor.next_reading_nil] at hnext
    exact (bind_of_ok hnext _).trans rfl
  | cons row rest ih =>
    have hnext := next?_eq u
    rw [List.length_cons, takeAll]
    cases row with
    | error f =>
      rw [h, Cursor.next_reading_error] at hnext
      exact bind_of_error hnext _
    | ok a =>
      rw [h, Cursor.next_reading_ok] at hnext
      have hrest := ih (u.moved (.reading rest)) rfl
      have hopen (hclosed : u.stream.cursor.isClosed = true) :
          (Cursor.reading rest).isClosed = true := by
        rw [h] at hclosed
        cases hclosed
      rw [bind_of_ok hnext]
      dsimp only
      rw [Use.read, moved_moved hopen fun _ => rfl] at hrest
      rw [remaining]
      cases h' : remaining rest with
      | error f =>
        rw [h'] at hrest
        rw [bind_of_error hrest]
        rfl
      | ok items =>
        rw [h'] at hrest
        rw [bind_of_ok hrest]
        rfl

theorem drain_eq (u : Use) : drain u = u.read (u.stream.cursor.drain, .closed) := by
  have hget : (get : Action Use) u = .ok u u := rfl
  rw [drain, bind_of_ok hget]
  cases h : u.stream.cursor with
  | reading rest => exact takeAll_eq u h
  | closed =>
    have hnext := next?_eq u
    rw [h, Cursor.next_closed] at hnext
    exact (bind_of_ok hnext _).trans rfl

theorem within_eq (n : Nat) (abort : Option String) (u : Use) :
    within n abort u = u.read (u.stream.cursor.within n abort, .closed) := by
  have htake := take_eq n u
  have hclosed (hold : u.stream.cursor.isClosed = true) := Cursor.isClosed_take hold n
  have hclose : close (u.moved (u.stream.cursor.take n).2) = .ok () (u.moved .closed) := by
    rw [close_eq, moved_moved hclosed fun _ => rfl]
  rw [within, Cursor.within]
  cases h : (u.stream.cursor.take n).1 with
  | error f =>
    rw [Use.read, h] at htake
    have hthen : takeThen n abort u = .error (.failed f) (u.moved (u.stream.cursor.take n).2) := by
      cases abort with
      | none => exact htake
      | some message => exact bind_of_error htake _
    exact tryFinally_of_error hthen hclose
  | ok items =>
    rw [Use.read, h] at htake
    cases abort with
    | none => exact tryFinally_of_ok htake hclose
    | some message => exact tryFinally_of_error ((bind_of_ok htake _).trans rfl) hclose

end Stream

namespace Program

variable {ρ : Type} {w : World}

def streaming (rows : Except Failure (List ρ)) (read : ρ → Except Failure Item) (w : World) :
    EStateM.Result Failure World Stream :=
  match rows with
  | .error f => .error f w
  | .ok rows => .ok ⟨w.pool.free, .ofRows read rows⟩ w.connect

theorem inquire_eq {α : Type} (x : Database → Except Failure α) (w : World) :
    inquire x w = looked (x w.database) w := by
  have hget : (get : Program World) w = .ok w w := rfl
  rw [inquire, bind_of_ok hget]
  cases x w.database <;> rfl

theorem opened_eq (rows : Database → Except Failure (List ρ)) (read : ρ → Except Failure Item)
    (hw : w.Idle) : Stream.opened rows read w = streaming (rows w.database) read w := by
  have hconnect : connect w = .ok w.pool.free w.connect := rfl
  have hinquire : inquire rows w.connect = looked (rows w.database) w.connect := inquire_eq ..
  rw [Stream.opened, bind_of_ok hconnect]
  cases h : rows w.database with
  | error f =>
    rw [h] at hinquire
    have hback : giveBack w.pool.free w.connect = .ok () w :=
      congrArg (EStateM.Result.ok ()) (World.giveBack_connect w w.connect hw rfl)
    refine bind_of_error ?_ _
    rw [tryCatch_of_error hinquire, bind_of_ok hback]
    rfl
  | ok found =>
    rw [h] at hinquire
    rw [bind_of_ok (tryCatch_of_ok hinquire _)]
    rfl

theorem contents_eq (hw : w.Idle) :
    contents w = streaming (ContentIndex.list w.database) contentItem w :=
  opened_eq _ _ hw

theorem licenses_eq (contentId size number : Datum) (hw : w.Idle) :
    licenses contentId size number w =
      streaming (LicenseStore.list w.database contentId size number) licenseItem w := by
  rw [licenses, LicenseStore.list]
  cases Page.of size number with
  | error f => rfl
  | ok page => exact opened_eq _ _ hw

theorem allLicenses_eq (size number : Datum) (hw : w.Idle) :
    allLicenses size number w =
      streaming (LicenseStore.listAll w.database size number) licenseItem w := by
  rw [allLicenses, LicenseStore.listAll]
  cases Page.of size number with
  | error f => rfl
  | ok page => exact opened_eq _ _ hw

theorem readAll_of_error {x : Program Stream} {f : Failure} (h : x w = .error f w) :
    readAll x w = .error f w :=
  bind_of_error h _

theorem readAll_of_ok {x : Program Stream} {c : Cursor} (hw : w.Idle)
    (h : x w = .ok ⟨w.pool.free, c⟩ w.connect) (hc : c.isClosed = false) :
    readAll x w = looked c.drain (w.say .streamClosed) := by
  have hdrain : Stream.drain ⟨⟨w.pool.free, c⟩, w.connect⟩ =
      Stream.Use.read ⟨⟨w.pool.free, c⟩, w.connect⟩ (c.drain, .closed) := Stream.drain_eq _
  have hworld : (Stream.Use.moved ⟨⟨w.pool.free, c⟩, w.connect⟩ .closed).world =
      w.say .streamClosed := by
    rw [Stream.Use.moved, hc]
    exact congrArg (World.say · .streamClosed) (World.giveBack_connect w w.connect hw rfl)
  refine (bind_of_ok h _).trans ?_
  rw [hdrain, ← hworld]
  cases c.drain <;> rfl

end Program

end RightsStore
