import Mathlib.Data.List.Induction
import RightsStore.Proofs.Stores

/-!
Runs step by step: which of their steps have succeeded, and which of those wrote a license last.
-/

namespace RightsStore

namespace Session

def transcript (s : Session) (xs : List Step) : List (Step × Reply) := xs.zip (s.run xs).1

def succeeded (s : Session) (xs : List Step) : List Step :=
  ((xs.zip (s.run xs).1).filter (·.2.succeeded)).map (·.1)

def done (s : Session) (x : Step) : List Step := if (s.step x).1.succeeded then [x] else []

theorem run_concat (s : Session) (xs : List Step) (x : Step) :
    (s.run (xs ++ [x])).2 = ((s.run xs).2.step x).2 := by
  rw [run_append, run_cons, run_nil]

theorem transcript_concat (s : Session) (xs : List Step) (x : Step) :
    s.transcript (xs ++ [x]) = s.transcript xs ++ [(x, ((s.run xs).2.step x).1)] := by
  have hlength : xs.length = (s.run xs).1.length := (s.length_run xs).symm
  rw [transcript, run_append, run_cons, run_nil, List.zip_append hlength]
  rfl

theorem succeeded_concat (s : Session) (xs : List Step) (x : Step) :
    s.succeeded (xs ++ [x]) = s.succeeded xs ++ (s.run xs).2.done x := by
  rw [succeeded, ← transcript, transcript_concat, List.filter_append, List.map_append, done]
  cases h : ((s.run xs).2.step x).1.succeeded <;> simp [h, succeeded, transcript]

theorem succeeded_eq_self {s : Session} {xs : List Step}
    (h : (s.run xs).1.all Reply.succeeded = true) : s.succeeded xs = xs := by
  have hall : ∀ p ∈ xs.zip (s.run xs).1, p.2.succeeded = true := by
    intro p hp
    exact List.all_eq_true.1 h p.2 (List.of_mem_zip hp).2
  rw [succeeded, List.filter_eq_self.2 hall, List.map_fst_zip]
  exact Nat.le_of_eq (s.length_run xs).symm

theorem history_induction {P : List Step → Session → Prop} {allowed : Step → Prop} {s : Session}
    (start : P [] s)
    (step : ∀ history s' x, P history s' → allowed x →
      P (history ++ s'.done x) (s'.step x).2)
    {xs : List Step} (hxs : ∀ x ∈ xs, allowed x) : P (s.succeeded xs) (s.run xs).2 := by
  -- from the right: the last step is taken where the others have led to
  induction xs using List.reverseRecOn with
  | nil => exact start
  | append_singleton xs x ih =>
    rw [succeeded_concat, run_concat]
    apply step
    · apply ih
      intro y hy
      exact hxs y (List.mem_append_left _ hy)
    · exact hxs x (List.mem_append_right _ List.mem_cons_self)

theorem run_induction {P : Session → Prop} {allowed : Step → Prop} {s : Session} (start : P s)
    (step : ∀ s' x, P s' → allowed x → P (s'.step x).2) {xs : List Step}
    (hxs : ∀ x ∈ xs, allowed x) : P (s.run xs).2 :=
  history_induction (P := fun _ => P) start (fun _ => step) hxs

end Session

namespace Step

def license? : Step → Option Datum
  | .addLicense l => some l.id
  | .updateLicense l _ => some l.id
  | .updateRights l _ => some l.id
  | .setStatus id _ => some id
  | _ => none

def concerns (i : String) (x : Step) : Bool := x.license? = some (.text i)

def owner? : Step → Option License
  | .updateLicense l _ => some l
  | _ => none

def grants? : Step → Option Rights
  | .updateLicense l _ => some l.grants
  | .updateRights l _ => some l.grants
  | _ => none

def clock? : Step → Option Moment
  | .updateLicense _ clock => some clock
  | .updateRights _ clock => some clock
  | _ => none

def status? : Step → Option Datum
  | .setStatus _ status => some status
  | _ => none

theorem concerns_of_not_writes {x : Step} (h : x.writes = false) (i : String) :
    x.concerns i = false := by
  cases x with
  | addLicense l => cases h
  | updateLicense l clock => cases h
  | updateRights l clock => cases h
  | setStatus id status => cases h
  | _ => rfl

end Step

def latest (i : String) (f : Step → Option α) (history : List Step) : Option α :=
  ((history.filter (·.concerns i)).filterMap f).getLast?

@[simp] theorem latest_nil (i : String) (f : Step → Option α) : latest i f [] = none := rfl

theorem latest_concat {i : String} {x : Step} (h : x.concerns i = true) (f : Step → Option α)
    (history : List Step) : latest i f (history ++ [x]) = (f x).or (latest i f history) := by
  rw [latest, List.filter_append, List.filterMap_append, List.getLast?_append]
  cases hx : f x <;> simp [h, hx, latest]

theorem latest_concat_of_not {i : String} {x : Step} (h : x.concerns i = false)
    (f : Step → Option α) (history : List Step) :
    latest i f (history ++ [x]) = latest i f history := by
  simp [latest, List.filter_append, h]

end RightsStore
