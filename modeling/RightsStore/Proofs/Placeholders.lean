import Mathlib.Data.List.Induction
import Mathlib.Data.List.Nodup
import Mathlib.Data.List.TakeWhile
import RightsStore.Dialect.Placeholder

namespace RightsStore

namespace Text

theorem isWord_of_isDigit {c : Char} (h : c.isDigit = true) : isWord c = true := by
  have hrange : 0x30 ≤ c.toNat ∧ c.toNat ≤ 0x39 := by
    simp only [Char.isDigit, Bool.and_eq_true, decide_eq_true_eq] at h
    exact h
  rw [isWord, alphanumeric, Ranges.mem, List.any_cons, decide_eq_true hrange.1,
    decide_eq_true hrange.2, Bool.and_self, Bool.true_or, Bool.or_true]

theorem isWord_colon : isWord ':' = false := by decide +kernel

theorem head_dropWhile (p : Char → Bool) (r : List Char) : ∀ c ∈ (r.dropWhile p).head?, p c = false := by
  intro c hc
  have h := List.head?_dropWhile_not p r
  rw [hc] at h
  exact h

theorem takeWhile_eq_of_head {p : Char → Bool} {word rest : List Char} (hword : ∀ c ∈ word, p c = true)
    (hrest : ∀ c ∈ rest.head?, p c = false) : (word ++ rest).takeWhile p = word := by
  rw [List.takeWhile_append_of_pos hword]
  cases rest with
  | nil => rw [List.takeWhile_nil, List.append_nil]
  | cons c rest =>
    rw [List.takeWhile_cons_of_neg (by rw [hrest c rfl]; exact Bool.false_ne_true), List.append_nil]

theorem dropWhile_append_cons {p : Char → Bool} {c : Char} (hc : p c = false) (r s : List Char) :
    (r ++ c :: s).dropWhile p = r.dropWhile p ++ c :: s := by
  induction r with
  | nil => rw [List.nil_append, List.dropWhile_cons_of_neg (by simp [hc]), List.dropWhile_nil,
      List.nil_append]
  | cons d r ih =>
    by_cases hd : p d = true
    · rw [List.cons_append, List.dropWhile_cons_of_pos hd, List.dropWhile_cons_of_pos hd, ih]
    · rw [List.cons_append, List.dropWhile_cons_of_neg hd, List.dropWhile_cons_of_neg hd,
        List.cons_append]

theorem drop_takeWhile (p : Char → Bool) (r : List Char) :
    r.drop (r.takeWhile p).length = r.dropWhile p := by
  conv =>
    lhs
    arg 2
    rw [← List.takeWhile_append_dropWhile (p := p) (l := r)]
  exact List.drop_left

end Text

open Text

namespace Sql

def fill (write : List Char → List Char) (ps : List Piece) : List Char :=
  ps.flatMap fun
    | .char c => [c]
    | .bind n => write n

def source : List Piece → List Char := fill (':' :: ·)

def binds (ps : List Piece) : List (List Char) :=
  ps.filterMap fun
    | .char _ => none
    | .bind n => some n

/-- A bind is a word after a colon, as long as it goes, where neither a colon nor a word ends
before. -/
structure IsBind (before name after : List Char) : Prop where
  free : ∀ c ∈ before.getLast?, c ≠ ':' ∧ isWord c = false
  named : name ≠ []
  word : ∀ c ∈ name, isWord c = true
  whole : ∀ c ∈ after.head?, isWord c = false

@[simp] theorem fill_char (write : List Char → List Char) (c : Char) (ps : List Piece) :
    fill write (.char c :: ps) = c :: fill write ps := rfl

@[simp] theorem fill_bind (write : List Char → List Char) (n : List Char) (ps : List Piece) :
    fill write (.bind n :: ps) = write n ++ fill write ps := rfl

@[simp] theorem fill_append (write : List Char → List Char) (ps qs : List Piece) :
    fill write (ps ++ qs) = fill write ps ++ fill write qs := List.flatMap_append

@[simp] theorem source_char (c : Char) (ps : List Piece) : source (.char c :: ps) = c :: source ps := rfl

@[simp] theorem source_bind (n : List Char) (ps : List Piece) :
    source (.bind n :: ps) = ':' :: (n ++ source ps) := rfl

theorem source_append (ps qs : List Piece) : source (ps ++ qs) = source ps ++ source qs :=
  fill_append ..

theorem binds_append (ps qs : List Piece) : binds (ps ++ qs) = binds ps ++ binds qs :=
  List.filterMap_append

theorem source_ne_nil {ps : List Piece} (h : ps ≠ []) : source ps ≠ [] := by
  cases ps with
  | nil => exact absurd rfl h
  | cons p ps => cases p <;> exact nofun

theorem mem_binds {n : List Char} {ps : List Piece} : n ∈ binds ps ↔ .bind n ∈ ps := by
  rw [binds, List.mem_filterMap]
  constructor
  · rintro ⟨_ | m, hmem, hm⟩
    · cases hm
    · cases hm
      exact hmem
  · exact fun h => ⟨_, h, rfl⟩

theorem source_pieces (blocked : Bool) (skip : Nat) (s : List Char) :
    source (pieces blocked skip s) = s.drop skip := by
  fun_induction pieces blocked skip s with
  | case1 => rw [List.drop_nil]; rfl
  | case2 blocked skip c r ih => rw [ih, List.drop_succ_cons]
  | case3 blocked c r word h ih =>
    have hcolon : c = ':' := by simp only [Bool.and_eq_true, decide_eq_true_eq] at h; exact h.1.1
    rw [source_bind, ih, drop_takeWhile, List.takeWhile_append_dropWhile, hcolon, List.drop_zero]
  | case4 blocked c r word h ih => rw [source_char, ih, List.drop_zero, List.drop_zero]

/-- Whatever is cut off as a bind is one, and the first piece only where nothing blocks it. -/
theorem isBind_of_pieces (blocked : Bool) (skip : Nat) (s : List Char) {name : List Char}
    {q : List Piece} : ∀ p : List Piece, pieces blocked skip s = p ++ .bind name :: q →
      IsBind (source p) name (source q) ∧ (p = [] → blocked = false ∧ skip = 0) := by
  fun_induction pieces blocked skip s with
  | case1 =>
    intro p h
    exact absurd h.symm (List.append_ne_nil_of_right_ne_nil _ nofun)
  | case2 blocked skip c r ih =>
    intro p h
    have ⟨hbind, hstart⟩ := ih _ h
    exact ⟨hbind, fun hp => absurd (hstart hp).1 nofun⟩
  | case3 blocked c r word hbegins ih =>
    intro p h
    simp only [Bool.and_eq_true, decide_eq_true_eq, Bool.not_eq_true', List.isEmpty_eq_false_iff]
      at hbegins
    cases p with
    | nil =>
      obtain ⟨hname, rfl⟩ := List.cons.inj h
      rw [← Piece.bind.inj hname]
      refine ⟨⟨nofun, hbegins.2, fun c => List.mem_takeWhile_imp, ?_⟩,
        fun _ => ⟨hbegins.1.2, rfl⟩⟩
      rw [source_pieces, drop_takeWhile]
      exact head_dropWhile isWord r
    | cons b p =>
      obtain ⟨rfl, hrest⟩ := List.cons.inj h
      have ⟨hbind, hstart⟩ := ih _ hrest
      have hp : p ≠ [] := fun hp => absurd (hstart hp).1 nofun
      refine ⟨⟨?_, hbind.named, hbind.word, hbind.whole⟩, nofun⟩
      rw [source_bind, ← List.cons_append, List.getLast?_append_of_ne_nil _ (source_ne_nil hp)]
      exact hbind.free
  | case4 blocked c r word hbegins ih =>
    intro p h
    cases p with
    | nil => cases h
    | cons b p =>
      obtain ⟨rfl, hrest⟩ := List.cons.inj h
      have ⟨hbind, hstart⟩ := ih _ hrest
      refine ⟨⟨?_, hbind.named, hbind.word, hbind.whole⟩, nofun⟩
      rw [source_char]
      -- only the letter right before the bind could block it
      by_cases hp : p = []
      · subst hp
        have hfree := (hstart rfl).1
        simp only [Bool.or_eq_false_iff, decide_eq_false_iff_not] at hfree
        intro d hd
        obtain rfl : c = d := Option.some.inj hd
        exact hfree
      · rw [← List.singleton_append, List.getLast?_append_of_ne_nil _ (source_ne_nil hp)]
        exact hbind.free

theorem IsBind.dropWhile_ne_nil {c : Char} {before name after : List Char}
    (h : IsBind (c :: before) name after) (hc : c = ':') : before.dropWhile isWord ≠ [] := by
  intro hnil
  rw [List.dropWhile_eq_nil_iff] at hnil
  cases before with
  | nil => exact (h.free c rfl).1 hc
  | cons d before =>
    have hlast := List.getLast?_eq_some_getLast (List.cons_ne_nil d before)
    have hfree := h.free _ ((List.getLast?_cons_cons).trans hlast)
    rw [hnil _ (List.getLast_mem _)] at hfree
    exact absurd hfree.2 nofun

/-- Every bind is cut off as one. -/
theorem pieces_of_isBind (blocked : Bool) (skip : Nat) (s : List Char) {name after : List Char} :
    ∀ before : List Char, s.drop skip = before ++ ':' :: (name ++ after) → IsBind before name after →
      (before = [] → blocked = false ∧ skip = 0) →
      ∃ p q, pieces blocked skip s = p ++ .bind name :: q ∧ source p = before ∧ source q = after := by
  fun_induction pieces blocked skip s with
  | case1 =>
    intro before h
    rw [List.drop_nil] at h
    exact absurd h.symm (List.append_ne_nil_of_right_ne_nil _ nofun)
  | case2 blocked skip c r ih =>
    intro before h hbind hstart
    exact ih before h hbind fun hnil => absurd (hstart hnil).2 nofun
  | case3 blocked c r word hbegins ih =>
    intro before h hbind _
    simp only [Bool.and_eq_true, decide_eq_true_eq] at hbegins
    cases before with
    | nil =>
      obtain ⟨-, hr⟩ := List.cons.inj h
      have hword : word = name := by
        rw [← takeWhile_eq_of_head hbind.word hbind.whole, ← hr]
      refine ⟨[], _, by rw [hword, List.nil_append], rfl, ?_⟩
      rw [source_pieces, hr, List.drop_left]
    | cons d before =>
      obtain ⟨rfl, hr : r = before ++ _⟩ := List.cons.inj h
      have hne := hbind.dropWhile_ne_nil hbegins.1.1
      -- the earlier bind takes a part of `before`, and what is left of that still ends as it did
      have hdrop : r.dropWhile isWord = before.dropWhile isWord ++ ':' :: (name ++ after) := by
        rw [hr, dropWhile_append_cons isWord_colon]
      have hbefore : word ++ before.dropWhile isWord = before := by
        have hsplit : word ++ r.dropWhile isWord = r := List.takeWhile_append_dropWhile
        rw [hdrop, ← List.append_assoc] at hsplit
        exact List.append_cancel_right (hsplit.trans hr)
      have hlater : IsBind (before.dropWhile isWord) name after := by
        refine ⟨?_, hbind.named, hbind.word, hbind.whole⟩
        rw [← List.getLast?_append_of_ne_nil (c :: word) hne, List.cons_append, hbefore]
        exact hbind.free
      obtain ⟨p, q, hpieces, hp, hq⟩ := ih _ ((drop_takeWhile isWord r).trans hdrop) hlater
        fun hnil => absurd hnil hne
      refine ⟨.bind word :: p, q, by rw [hpieces, List.cons_append], ?_, hq⟩
      rw [source_bind, hp, hbefore, hbegins.1.1]
  | case4 blocked c r word hbegins ih =>
    intro before h hbind hstart
    cases before with
    | nil =>
      obtain ⟨rfl, hr⟩ := List.cons.inj h
      have hword : word = name := by
        rw [← takeWhile_eq_of_head hbind.word hbind.whole, ← hr]
      refine absurd ?_ hbegins
      rw [(hstart rfl).1, hword, List.isEmpty_eq_false_iff.2 hbind.named]
      rfl
    | cons d before =>
      obtain ⟨rfl, hr⟩ := List.cons.inj h
      have hlater : IsBind before name after := by
        refine ⟨fun e he => hbind.free e ?_, hbind.named, hbind.word, hbind.whole⟩
        rw [List.getLast?_cons, he]
        rfl
      obtain ⟨p, q, hpieces, hp, hq⟩ := ih before hr hlater fun hnil => by
        have hfree := hbind.free c (by rw [hnil]; rfl)
        simp only [hfree.1, hfree.2, decide_false, Bool.or_self, and_self]
      refine ⟨.char c :: p, q, by rw [hpieces, List.cons_append], ?_, hq⟩
      rw [source_char, hp]

theorem isBind_iff {s before name after : List Char} (h : s = before ++ ':' :: (name ++ after)) :
    IsBind before name after ↔
      ∃ p q, ofText s = p ++ .bind name :: q ∧ source p = before ∧ source q = after := by
  constructor
  · exact fun hbind => pieces_of_isBind false 0 s before h hbind fun _ => ⟨rfl, rfl⟩
  · rintro ⟨p, q, hpieces, rfl, rfl⟩
    exact (isBind_of_pieces false 0 s p hpieces).1

theorem source_ofText (s : List Char) : source (ofText s) = s := source_pieces false 0 s

theorem not_adjacent (s : List Char) (p : List Piece) (m n : List Char) (q : List Piece) :
    ofText s ≠ p ++ .bind m :: .bind n :: q := by
  intro h
  have hfirst := (isBind_of_pieces false 0 s p h).1
  rw [← List.singleton_append, ← List.append_assoc] at h
  have hsecond := (isBind_of_pieces false 0 s _ h).1
  have hend : (source (p ++ [.bind m])).getLast? = some (m.getLast hfirst.named) := by
    have hsource : source [.bind m] = [':'] ++ m := congrArg (':' :: ·) (List.append_nil m)
    rw [source_append, hsource, ← List.append_assoc, List.getLast?_append_of_ne_nil _ hfirst.named,
      List.getLast?_eq_some_getLast]
  have hfree := hsecond.free _ hend
  rw [hfirst.word _ (List.getLast_mem _)] at hfree
  exact absurd hfree.2 nofun

section Names

variable {ns : List (List Char)}

def number (ns : List (List Char)) (n : List Char) : Nat := ns.eraseDups.idxOf n + 1

theorem eraseDups_concat (ns : List (List Char)) (n : List Char) :
    (ns ++ [n]).eraseDups = if n ∈ ns then ns.eraseDups else ns.eraseDups ++ [n] := by
  rw [List.eraseDups_append, List.removeAll]
  by_cases h : n ∈ ns
  · simp [h]
  · simp [h, List.eraseDups_cons]

theorem nodup_eraseDups (ns : List (List Char)) : ns.eraseDups.Nodup := by
  induction ns using List.reverseRecOn with
  | nil => exact List.nodup_nil
  | append_singleton ns n ih =>
    rw [eraseDups_concat]
    split
    · exact ih
    · rename_i h
      rw [← List.concat_eq_append]
      exact ih.concat (mt List.mem_eraseDups.1 h)

theorem eraseDups_of_nodup (h : ns.Nodup) : ns.eraseDups = ns := by
  induction ns using List.reverseRecOn with
  | nil => rfl
  | append_singleton ns n ih =>
    obtain ⟨hns, -, hdisjoint⟩ := List.nodup_append.1 h
    have hn : n ∉ ns := fun hmem => hdisjoint n hmem n (List.mem_singleton_self n) rfl
    rw [eraseDups_concat, if_neg hn, ih hns]

theorem names_eq (ps : List Piece) : names ps = (binds ps).eraseDups := by
  induction ps using List.reverseRecOn with
  | nil => rfl
  | append_singleton ps p ih =>
    rw [names, List.foldl_append, ← names, ih, binds_append]
    cases p with
    | char c => exact congrArg List.eraseDups (List.append_nil _).symm
    | bind n =>
      have hbinds : binds [.bind n] = [n] := rfl
      simp only [hbinds, List.foldl_cons, List.foldl_nil, eraseDups_concat, List.contains_iff_mem,
        List.mem_eraseDups]

theorem getElem?_number {n : List Char} (h : n ∈ ns) : ns.eraseDups[number ns n - 1]? = some n := by
  have hlt := List.idxOf_lt_length_iff.2 (List.mem_eraseDups.2 h)
  rw [number, Nat.add_sub_cancel, List.getElem?_eq_getElem hlt, List.getElem_idxOf hlt]

theorem number_inj {m n : List Char} (hm : m ∈ ns) (hn : n ∈ ns) :
    number ns m = number ns n ↔ m = n := by
  refine ⟨fun h => ?_, fun h => by rw [h]⟩
  have hname := getElem?_number hm
  rw [h, getElem?_number hn] at hname
  exact (Option.some.inj hname).symm

theorem mem_map_number (k : Nat) :
    k ∈ ns.map (number ns) ↔ 1 ≤ k ∧ k ≤ ns.eraseDups.length := by
  rw [List.mem_map]
  constructor
  · rintro ⟨n, hn, rfl⟩
    exact ⟨Nat.le_add_left .., List.idxOf_lt_length_iff.2 (List.mem_eraseDups.2 hn)⟩
  · rintro ⟨hpos, hle⟩
    have hlt : k - 1 < ns.eraseDups.length := by omega
    refine ⟨ns.eraseDups[k - 1], List.mem_eraseDups.1 (List.getElem_mem hlt), ?_⟩
    rw [number, (nodup_eraseDups ns).idxOf_getElem _ hlt]
    omega

theorem map_number_of_nodup (h : ns.Nodup) : ns.map (number ns) = List.range' 1 ns.length := by
  refine List.ext_getElem (by rw [List.length_map, List.length_range']) fun i hi _ => ?_
  rw [List.length_map] at hi
  rw [List.getElem_map, List.getElem_range', number, eraseDups_of_nodup h, h.idxOf_getElem _ hi]
  omega

end Names

def putBack (names : List (List Char)) : (skip : Nat) → List Char → List Char
  | _, [] => []
  | skip + 1, _ :: r => putBack names skip r
  | 0, c :: r =>
    let digits := r.takeWhile Char.isDigit
    if c = '$' && !digits.isEmpty then
      ':' :: (names[Nat.ofDigitChars 10 digits 0 - 1]?).getD [] ++ putBack names digits.length r
    else c :: putBack names 0 r

def restore (names : List (List Char)) (text : List Char) : List Char := putBack names 0 text

theorem putBack_length_append (names : List (List Char)) (ds r : List Char) :
    putBack names ds.length (ds ++ r) = putBack names 0 r := by
  induction ds with
  | nil => rfl
  | cons d ds ih => exact ih

theorem restore_cons {c : Char} (h : c ≠ '$') (names : List (List Char)) (r : List Char) :
    restore names (c :: r) = c :: restore names r := by
  rw [restore, putBack, decide_eq_false h, Bool.false_and, if_neg Bool.false_ne_true, restore]

theorem restore_number {names : List (List Char)} {k : Nat} {n r : List Char}
    (hn : names[k - 1]? = some n) (hr : ∀ c ∈ r.head?, c.isDigit = false) :
    restore names ('$' :: (Nat.toDigits 10 k ++ r)) = ':' :: (n ++ restore names r) := by
  have hdigits : (Nat.toDigits 10 k ++ r).takeWhile Char.isDigit = Nat.toDigits 10 k :=
    takeWhile_eq_of_head (fun c => Nat.isDigit_of_mem_toDigits (by decide) (by decide)) hr
  have hsome : (Nat.toDigits 10 k).isEmpty = false := by
    rw [List.isEmpty_eq_false_iff]
    exact Nat.toDigits_ne_nil
  rw [restore, putBack, hdigits, hsome, putBack_length_append,
    Nat.ofDigitChars_toDigits (by decide) (by decide), hn, restore]
  rfl

theorem restore_fill {ns : List (List Char)} {ps : List Piece} (hchars : ∀ c, .char c ∈ ps → c ≠ '$')
    (hbinds : ∀ n ∈ binds ps, n ∈ ns)
    (hwhole : ∀ p n q, ps = p ++ .bind n :: q → ∀ c ∈ (source q).head?, isWord c = false) :
    restore ns.eraseDups (fill (fun n => '$' :: Nat.toDigits 10 (number ns n)) ps) = source ps := by
  induction ps with
  | nil => rfl
  | cons p ps ih =>
    have hrest := ih (fun c hc => hchars c (List.mem_cons_of_mem _ hc))
      (fun n hn => hbinds n (mem_binds.2 (List.mem_cons_of_mem _ (mem_binds.1 hn))))
      (fun q n r h => hwhole (p :: q) n r (by rw [h, List.cons_append]))
    cases p with
    | char c =>
      rw [fill_char, restore_cons (hchars c (List.mem_cons_self ..)), hrest]
      rfl
    | bind n =>
      have hend : ∀ c ∈ (fill (fun n => '$' :: Nat.toDigits 10 (number ns n)) ps).head?,
          c.isDigit = false := by
        have hhead := hwhole [] n ps rfl
        intro c hc
        cases ps with
        | nil => cases hc
        | cons q ps =>
          cases q with
          | char d =>
            obtain rfl : d = c := Option.some.inj hc
            have hnot := hhead d rfl
            rw [← Bool.not_eq_true]
            intro hdigit
            rw [isWord_of_isDigit hdigit] at hnot
            cases hnot
          | bind m =>
            cases hc
            rfl
      have hn := hbinds n (mem_binds.2 (List.mem_cons_self ..))
      rw [fill_bind, List.cons_append, restore_number (getElem?_number hn) hend, hrest]
      rfl

end Sql

namespace Dialect

open Sql

theorem toList_toString (n : Nat) : (toString n).toList = Nat.toDigits 10 n := by
  rw [← String.toList_ofList (l := Nat.toDigits 10 n), ← Nat.repr_eq_ofList_toDigits]
  rfl

theorem render_eq (d : Dialect) (s : List Char) : d.render s =
    fill (fun n => d.placeholder (Nat.toDigits 10 (number (binds (ofText s)) n))) (ofText s) := by
  rw [render, names_eq, fill]
  congr
  funext p
  cases p with
  | char c => rfl
  | bind n => exact congrArg d.placeholder (toList_toString _)

/-- The binds of a text are numbered by their names, nothing else is changed, and a text without a
dollar sign is restored from the numbers and the distinct names. -/
theorem render_numbers_binds (s : List Char) :
    source (ofText s) = s ∧
    let ps := ofText s
    let ns := binds ps
    ((∀ before name after, s = before ++ ':' :: (name ++ after) →
        (IsBind before name after ↔
          ∃ p q, ps = p ++ .bind name :: q ∧ source p = before ∧ source q = after)) ∧
      ∀ p m n q, ps ≠ p ++ .bind m :: .bind n :: q) ∧
    (postgres.render s = fill (fun n => '$' :: Nat.toDigits 10 (number ns n)) ps ∧
      sqlite.render s = fill (fun _ => ['?']) ps ∧
      mysql.render s = fill (fun _ => ['?']) ps) ∧
    ((∀ m ∈ ns, ∀ n ∈ ns, number ns m = number ns n ↔ m = n) ∧
      (∀ k, k ∈ ns.map (number ns) ↔ 1 ≤ k ∧ k ≤ ns.eraseDups.length) ∧
      (ns.Nodup → ns.map (number ns) = List.range' 1 ns.length)) ∧
    ('$' ∉ s → restore ns.eraseDups (postgres.render s) = s) := by
  have hsource : source (ofText s) = s := source_ofText s
  refine ⟨hsource, ?_⟩
  intro ps ns
  have hpostgres : postgres.render s =
      fill (fun n => '$' :: Nat.toDigits 10 (number ns n)) ps := render_eq ..
  refine ⟨⟨fun _ _ _ => isBind_iff, not_adjacent s⟩,
    ⟨hpostgres, render_eq .., render_eq ..⟩,
    ⟨fun _ hm _ hn => number_inj hm hn, mem_map_number, map_number_of_nodup⟩, fun hdollar => ?_⟩
  rw [hpostgres]
  refine (restore_fill ?_ (fun _ h => h) ?_).trans hsource
  · rintro c hc rfl
    rw [← hsource] at hdollar
    exact hdollar (List.mem_flatMap.2 ⟨_, hc, List.mem_singleton_self _⟩)
  · exact fun p n q h => (isBind_of_pieces false 0 s p h).1.whole

example : postgres.render "a=:a::t,b:c,:b=:a".toList = "a=$1::t,b:c,$2=$1".toList := by decide +kernel

end Dialect

end RightsStore
