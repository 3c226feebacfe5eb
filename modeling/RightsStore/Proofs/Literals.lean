import RightsStore.Proofs.Placeholders

namespace RightsStore

open Text

theorem Text.takeWhile_append_cons {p : Char → Bool} {c : Char} (hc : p c = false) (r s : List Char) :
    (r ++ c :: s).takeWhile p = r.takeWhile p := by
  rw [List.takeWhile_append, List.takeWhile_cons_of_neg (by simp [hc]), List.append_nil]
  split
  · rename_i hlength
    exact ((List.takeWhile_prefix p).eq_of_length hlength).symm
  · rfl

namespace Sql

def doubled (value : List Char) : List Char :=
  value.flatMap fun c => if c = '\'' then ['\'', '\''] else [c]

def literal (value : List Char) : List Char := '\'' :: (doubled value ++ ['\''])

/-- SQL text with its literals told apart. -/
inductive Script
  | plain (text : List Char)
  | quoting (before value : List Char) (after : Script)

namespace Script

def rewrite (plainly literally : List Char → List Char) : Script → List Char
  | plain t => plainly t
  | quoting b v r => plainly b ++ literally (literal v) ++ r.rewrite plainly literally

def text : Script → List Char := rewrite id id

def IsPlain : Script → Prop
  | plain t => '\'' ∉ t
  | quoting b _ r => '\'' ∉ b ∧ r.IsPlain

def values : Script → List (List Char)
  | plain _ => []
  | quoting _ v r => v :: r.values

def outside : Script → List (List Char)
  | plain t => binds (ofText t)
  | quoting b _ r => binds (ofText b) ++ r.outside

@[simp] theorem text_plain (t : List Char) : (plain t).text = t := rfl

@[simp] theorem text_quoting (b v : List Char) (r : Script) :
    (quoting b v r).text = b ++ literal v ++ r.text := rfl

theorem exists_text_eq (s : List Char) :
    (s.count '\'' % 2 = 0 → ∃ q : Script, q.IsPlain ∧ q.text = s) ∧
      (s.count '\'' % 2 = 1 →
        ∃ (v : List Char) (q : Script), q.IsPlain ∧ doubled v ++ '\'' :: q.text = s) := by
  induction s with
  | nil => exact ⟨fun _ => ⟨plain [], List.not_mem_nil, rfl⟩, nofun⟩
  | cons c s ih =>
    obtain ⟨heven, hodd⟩ := ih
    by_cases hc : c = '\''
    · subst hc
      rw [List.count_cons_self]
      refine ⟨fun h => ?_, fun h => ?_⟩
      · obtain ⟨v, q, hq, rfl⟩ := hodd (by omega)
        refine ⟨quoting [] v q, ⟨List.not_mem_nil, hq⟩, ?_⟩
        simp [literal]
      · obtain ⟨q, hq, rfl⟩ := heven (by omega)
        exact ⟨[], q, hq, rfl⟩
    · rw [List.count_cons_of_ne hc]
      refine ⟨fun h => ?_, fun h => ?_⟩
      · obtain ⟨q, hq, rfl⟩ := heven h
        have hne : '\'' ≠ c := fun h => hc h.symm
        cases q with
        | plain t => exact ⟨plain (c :: t), List.not_mem_cons_of_ne_of_not_mem hne hq, rfl⟩
        | quoting b v r =>
          exact ⟨quoting (c :: b) v r, ⟨List.not_mem_cons_of_ne_of_not_mem hne hq.1, hq.2⟩, rfl⟩
      · obtain ⟨v, q, hq, rfl⟩ := hodd h
        refine ⟨c :: v, q, hq, ?_⟩
        simp [doubled, hc]

end Script

def IsQuiet (s : List Char) : Prop :=
  ∀ before name after, s = before ++ ':' :: (name ++ after) → ¬IsBind before name after

theorem isQuiet_iff (s : List Char) : IsQuiet s ↔ binds (ofText s) = [] := by
  constructor
  · intro h
    rw [List.eq_nil_iff_forall_not_mem]
    intro n hn
    obtain ⟨p, q, hpieces⟩ := List.append_of_mem (mem_binds.1 hn)
    have hs : s = source p ++ ':' :: (n ++ source q) := by
      rw [← source_bind, ← source_append, ← hpieces, source_ofText]
    exact h _ _ _ hs ((isBind_iff hs).2 ⟨p, q, hpieces, rfl, rfl⟩)
  · intro h before name after hs hbind
    obtain ⟨p, q, hpieces, -⟩ := (isBind_iff hs).1 hbind
    have hname : name ∈ binds (ofText s) := by
      rw [mem_binds, hpieces]
      exact List.mem_append_right _ List.mem_cons_self
    rw [h] at hname
    cases hname

theorem isWord_quote : isWord '\'' = false := by decide +kernel

theorem pieces_append_quote (blocked : Bool) (skip : Nat) (s r : List Char) (hskip : skip ≤ s.length) :
    pieces blocked skip (s ++ '\'' :: r) = pieces blocked skip s ++ .char '\'' :: ofText r := by
  fun_induction pieces blocked skip s with
  | case1 blocked skip =>
    obtain rfl : skip = 0 := Nat.le_zero.1 hskip
    simp [pieces, ofText, isWord_quote]
  | case2 blocked skip c s ih => exact ih (Nat.le_of_succ_le_succ hskip)
  | case3 blocked c s word hbegins ih =>
    rw [List.cons_append, pieces, takeWhile_append_cons isWord_quote, if_pos hbegins,
      ih (List.takeWhile_sublist _).length_le]
    rfl
  | case4 blocked c s word hbegins ih =>
    rw [List.cons_append, pieces, takeWhile_append_cons isWord_quote, if_neg hbegins,
      ih (Nat.zero_le _)]
    rfl

theorem ofText_append_quote (s r : List Char) :
    ofText (s ++ '\'' :: r) = ofText s ++ .char '\'' :: ofText r :=
  pieces_append_quote false 0 s r (Nat.zero_le _)

theorem ofText_quote (r : List Char) : ofText ('\'' :: r) = .char '\'' :: ofText r :=
  ofText_append_quote [] r

theorem ofText_quoting (b v r : List Char) :
    ofText (b ++ literal v ++ r) = ofText b ++ ofText (literal v) ++ ofText r := by
  have hsplit : b ++ literal v ++ r = b ++ '\'' :: (doubled v ++ '\'' :: r) := by simp [literal]
  rw [hsplit, literal, ofText_append_quote, ofText_append_quote, ofText_quote, ofText_append_quote]
  simp [ofText, pieces]

theorem fill_ofText_script (write : List Char → List Char) (q : Script) :
    fill write (ofText q.text) = q.rewrite (fill write ∘ ofText) (fill write ∘ ofText) := by
  induction q with
  | plain t => rfl
  | quoting b v r ih =>
    rw [Script.text_quoting, ofText_quoting, fill_append, fill_append, ih]
    rfl

theorem binds_ofText_script {q : Script} (h : ∀ v ∈ q.values, IsQuiet (literal v)) :
    binds (ofText q.text) = q.outside := by
  induction q with
  | plain t => rfl
  | quoting b v r ih =>
    rw [Script.values, List.forall_mem_cons] at h
    rw [Script.text_quoting, ofText_quoting, binds_append, binds_append, (isQuiet_iff _).1 h.1,
      ih h.2, List.append_nil]
    rfl

theorem fill_of_binds_eq_nil (write : List Char → List Char) {ps : List Piece} (h : binds ps = []) :
    fill write ps = source ps := by
  induction ps with
  | nil => rfl
  | cons p ps ih =>
    cases p with
    | char c => rw [fill_char, source_char, ih h]
    | bind n => cases h

theorem fill_eq_source_iff {write : List Char → List Char}
    (hwrite : ∀ n, ∃ c r, write n = c :: r ∧ c ≠ ':') (ps : List Piece) :
    fill write ps = source ps ↔ binds ps = [] := by
  refine ⟨fun h => ?_, fill_of_binds_eq_nil write⟩
  induction ps with
  | nil => rfl
  | cons p ps ih =>
    cases p with
    | char c => exact ih (List.cons.inj h).2
    | bind n =>
      obtain ⟨c, r, hn, hc⟩ := hwrite n
      rw [fill_bind, source_bind, hn] at h
      exact absurd (List.cons.inj h).1 hc

end Sql

namespace Dialect

open Sql

def numbered (d : Dialect) (ns : List (List Char)) (n : List Char) : List Char :=
  d.placeholder (Nat.toDigits 10 (number ns n))

theorem numbered_eq_cons (d : Dialect) (ns : List (List Char)) (n : List Char) :
    ∃ c r, d.numbered ns n = c :: r ∧ c ≠ ':' := by
  cases d with
  | postgres => exact ⟨'$', _, rfl, by decide⟩
  | sqlite => exact ⟨'?', _, rfl, by decide⟩
  | mysql => exact ⟨'?', _, rfl, by decide⟩

theorem render_script (d : Dialect) (q : Script) :
    let write := d.numbered (binds (ofText q.text))
    d.render q.text = q.rewrite (fill write ∘ ofText) (fill write ∘ ofText) := by
  intro write
  rw [← fill_ofText_script]
  exact render_eq d q.text

theorem fill_literal_iff (d : Dialect) (ns : List (List Char)) (v : List Char) :
    fill (d.numbered ns) (ofText (literal v)) = literal v ↔ IsQuiet (literal v) := by
  have hfill := fill_eq_source_iff (d.numbered_eq_cons ns) (ofText (literal v))
  rw [source_ofText] at hfill
  rw [hfill, isQuiet_iff]

theorem rewrite_quiet (d : Dialect) (ns : List (List Char)) {q : Script}
    (h : ∀ v ∈ q.values, IsQuiet (literal v)) (plainly : List Char → List Char) :
    q.rewrite plainly (fill (d.numbered ns) ∘ ofText) = q.rewrite plainly id := by
  induction q with
  | plain t => rfl
  | quoting b v r ih =>
    rw [Script.values, List.forall_mem_cons] at h
    rw [Script.rewrite, Script.rewrite, ih h.2, Function.comp_apply, (d.fill_literal_iff ns v).2 h.1]
    rfl

/-- A text with its quotes in pairs can be told apart into literals and what is between them.
However that is done, each part is rendered by itself, and the literals without a bind are the ones
that stay as they are. If all of them do, only the binds outside of them are counted. -/
theorem render_keeps_literals (d : Dialect) (s : List Char) (h : s.count '\'' % 2 = 0) :
    (∃ q : Script, q.IsPlain ∧ q.text = s) ∧
      ∀ q : Script, q.text = s →
        (let write := d.numbered (binds (ofText s));
          d.render s = q.rewrite (fill write ∘ ofText) (fill write ∘ ofText) ∧
            ∀ v, fill write (ofText (literal v)) = literal v ↔ IsQuiet (literal v)) ∧
        ((∀ v ∈ q.values, IsQuiet (literal v)) →
          d.render s = q.rewrite (fill (d.numbered q.outside) ∘ ofText) id) := by
  refine ⟨(Script.exists_text_eq s).1 h, ?_⟩
  rintro q rfl
  refine ⟨⟨d.render_script q, d.fill_literal_iff _⟩, fun hquiet => ?_⟩
  rw [render_script, binds_ofText_script hquiet, d.rewrite_quiet _ hquiet]

theorem render_keeps_literals_of_time :
    let q : Script :=
      .quoting "a=:a AND t=".toList "it's ::text at 10:30".toList (.plain " AND b=:b".toList)
    q.text = "a=:a AND t='it''s ::text at 10:30' AND b=:b".toList ∧
      q.text.count '\'' % 2 = 0 ∧ (∀ v ∈ q.values, IsQuiet (literal v)) ∧
      postgres.render q.text = "a=$1 AND t='it''s ::text at 10:30' AND b=$2".toList := by
  intro q
  have heven : q.text.count '\'' % 2 = 0 := by decide
  have hquiet : ∀ v ∈ q.values, IsQuiet (literal v) := by
    intro v hv
    rw [List.mem_singleton.1 hv, isQuiet_iff]
    decide +kernel
  have hrender := ((render_keeps_literals postgres q.text heven).2 q rfl).2 hquiet
  refine ⟨rfl, heven, hquiet, hrender.trans ?_⟩
  decide +kernel

/-- A word after a colon is replaced inside a literal too, and takes a number from the binds that
follow. -/
theorem render_of_bind_in_literal :
    let q : Script := .quoting "SELECT ".toList ":a".toList (.plain ", :b".toList)
    q.IsPlain ∧ q.text = "SELECT ':a', :b".toList ∧
      q.rewrite (fill (postgres.numbered q.outside) ∘ ofText) id = "SELECT ':a', $1".toList ∧
      postgres.render q.text = "SELECT '$1', $2".toList := by
  intro q
  have hplain : '\'' ∉ "SELECT ".toList ∧ '\'' ∉ ", :b".toList := by decide
  refine ⟨hplain, rfl, ?_, ?_⟩
  · decide +kernel
  · decide +kernel

end Dialect

end RightsStore
