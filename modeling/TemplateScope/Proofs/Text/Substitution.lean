import TemplateScope.Proofs.Text.Pieces

/-!
# Filling placeholders one after another and at once

To fill a text at once is to put every argument into its holes and to look at nothing that has been
put in. Filling one number after another reads the text anew for each number, and comes to the same
unless what was put in makes up a placeholder that is filled later (`Forged`): by itself, or with
the characters around it. Where none is forged the two agree (`fillFrom_render`), and the first one
that is forged is filled, too (`replaceAll_render_ne`).
-/

namespace TemplateScope.Placeholder

/-! ## Filling at once -/

/-- What stands in the place of a piece when the arguments are there. A hole without an argument
stays. -/
def Piece.filled (args : List (List Char)) : Piece → List Piece
  | .char c => [.char c]
  | .hole i =>
      match args[i]? with
      | some arg => arg.map .char
      | none => [.hole i]

def putIn (args : List (List Char)) (ps : List Piece) : List Piece := ps.flatMap (Piece.filled args)

/-- Every placeholder that the text has gives way to its argument, and all other characters stay. -/
def fillAtOnce (text : String) (args : List String) : String :=
  String.ofList (render (putIn (args.map String.toList) (pieces text.toList)))

/-- The text without the placeholders that it had and that are still to be filled. -/
def unfilled (text : String) (args : List String) : List Char :=
  blank (putIn (args.map String.toList) (pieces text.toList))

/-- The arguments before number `k`, once they are put in, make up a placeholder of this number
that the text did not have. -/
def Forged (text : String) (args : List String) (k : Nat) : Prop :=
  mark k <:+: unfilled text (args.take k)

instance (text : String) (args : List String) (k : Nat) : Decidable (Forged text args k) :=
  inferInstanceAs (Decidable (_ <:+: _))

theorem putIn_nil (ps : List Piece) : putIn [] ps = ps := by
  induction ps with
  | nil => rfl
  | cons p ps ih =>
      have hp : p.filled [] = [p] := by
        cases p with
        | char c => rfl
        | hole i => rfl
      rw [putIn, List.flatMap_cons, hp]
      exact congrArg (p :: ·) ih

@[simp] theorem putIn_append (args : List (List Char)) (ps qs : List Piece) :
    putIn args (ps ++ qs) = putIn args ps ++ putIn args qs :=
  List.flatMap_append

@[simp] theorem putIn_hole (args : List (List Char)) (i : Nat) (ps : List Piece) :
    putIn args (.hole i :: ps) = Piece.filled args (.hole i) ++ putIn args ps :=
  List.flatMap_cons

@[simp] theorem putIn_map_char (args : List (List Char)) (text : List Char) :
    putIn args (text.map .char) = text.map .char := by
  induction text with
  | nil => rfl
  | cons c rest ih =>
      rw [List.map_cons, putIn, List.flatMap_cons]
      exact congrArg (Piece.char c :: ·) ih

/-! ## One number -/

/-- Put an argument into the holes of one number. -/
def putHole (k : Nat) (arg : List Char) (ps : List Piece) : List Piece :=
  ps.flatMap fun
    | .char c => [.char c]
    | .hole i => if i = k then arg.map .char else [.hole i]

theorem putHole_char (k : Nat) (arg : List Char) (c : Char) (ps : List Piece) :
    putHole k arg (.char c :: ps) = .char c :: putHole k arg ps := rfl

theorem putHole_self (k : Nat) (arg : List Char) (ps : List Piece) :
    putHole k arg (.hole k :: ps) = arg.map .char ++ putHole k arg ps := by
  simp [putHole]

theorem putHole_of_ne {i k : Nat} (h : i ≠ k) (arg : List Char) (ps : List Piece) :
    putHole k arg (.hole i :: ps) = .hole i :: putHole k arg ps := by
  simp [putHole, h]

theorem putHole_append (k : Nat) (arg : List Char) (ps qs : List Piece) :
    putHole k arg (ps ++ qs) = putHole k arg ps ++ putHole k arg qs :=
  List.flatMap_append

theorem putHole_map_char (k : Nat) (arg text : List Char) :
    putHole k arg (text.map .char) = text.map .char := by
  induction text with
  | nil => rfl
  | cons c rest ih => rw [List.map_cons, putHole_char, ih]

/-- After the arguments in front of it, the next one goes into the holes of its number. -/
theorem putHole_putIn (front : List (List Char)) (arg : List Char) (ps : List Piece) :
    putHole front.length arg (putIn front ps) = putIn (front ++ [arg]) ps := by
  induction ps with
  | nil => rfl
  | cons p ps ih =>
      have hp : putHole front.length arg (p.filled front) = p.filled (front ++ [arg]) := by
        cases p with
        | char c => rfl
        | hole i =>
            rw [Piece.filled, Piece.filled, List.getElem?_append]
            by_cases hlt : i < front.length
            · rw [if_pos hlt, List.getElem?_eq_getElem hlt]
              exact putHole_map_char front.length arg _
            · rw [if_neg hlt, List.getElem?_eq_none (Nat.le_of_not_lt hlt)]
              by_cases heq : i = front.length
              · rw [heq, putHole_self, Nat.sub_self]
                exact List.append_nil _
              · have hnone : [arg][i - front.length]? = none :=
                  List.getElem?_eq_none (by simp; omega)
                rw [putHole_of_ne heq, hnone]
                rfl
      have hcons (args : List (List Char)) : putIn args (p :: ps) = p.filled args ++ putIn args ps :=
        List.flatMap_cons
      rw [hcons, hcons, putHole_append, hp, ih]

/-! ## Replacing -/

theorem replaceAll_cons {pattern : List Char} {c : Char} {rest : List Char}
    (h : ¬ pattern <+: c :: rest) (replacement : List Char) :
    replaceAll pattern replacement (c :: rest) = c :: replaceAll pattern replacement rest := by
  rw [replaceAll, replaceFrom]
  exact if_neg fun hbegins => h (List.isPrefixOf_iff_prefix.1 hbegins)

theorem replaceAll_mark_append (i : Nat) (replacement rest : List Char) :
    replaceAll (mark i) replacement (mark i ++ rest) =
      replacement ++ replaceAll (mark i) replacement rest := by
  have hbegins : (mark i).isPrefixOf (mark i ++ rest) :=
    List.isPrefixOf_iff_prefix.2 (List.prefix_append _ _)
  rw [mark_append] at hbegins ⊢
  rw [replaceAll, replaceFrom]
  simp only [hbegins, if_true]
  rw [replaceFrom_covered, drop_markTail_append]

theorem replaceAll_append_of_ne {w : List Char} (h : ∀ c ∈ w, c ≠ '\x7b') (i : Nat)
    (replacement rest : List Char) :
    replaceAll (mark i) replacement (w ++ rest) = w ++ replaceAll (mark i) replacement rest := by
  induction w with
  | nil => rfl
  | cons c w ih =>
      rw [List.forall_mem_cons] at h
      have hbegins : ¬ mark i <+: c :: (w ++ rest) := by
        rw [mark, List.cons_prefix_cons]
        exact fun hc => h.1 hc.1.symm
      rw [List.cons_append, replaceAll_cons hbegins, ih h.2]
      rfl

theorem replaceAll_mark_append_of_ne {i j : Nat} (h : i ≠ j) (replacement rest : List Char) :
    replaceAll (mark i) replacement (mark j ++ rest) =
      mark j ++ replaceAll (mark i) replacement rest := by
  have hbegins : ¬ mark i <+: mark j ++ rest := fun hmark => h (mark_prefix_mark_append_iff.1 hmark)
  rw [mark_append] at hbegins
  rw [mark_append, mark_append, replaceAll_cons hbegins,
    replaceAll_append_of_ne fun _ hc => (ne_of_mem_markTail hc).1]

/-- Where no placeholder of a number is forged, to replace this placeholder is to fill its
holes. -/
theorem replaceAll_render {k : Nat} {ps : List Piece} (h : ¬ mark k <:+: blank ps)
    (arg : List Char) : replaceAll (mark k) arg (render ps) = render (putHole k arg ps) := by
  induction ps with
  | nil => rfl
  | cons p ps ih =>
      cases p with
      | char c =>
          rw [mark_infix_blank_char_iff, not_or] at h
          rw [render_char, replaceAll_cons h.1, ih h.2, putHole_char,
            render_char]
      | hole i =>
          rw [mark_infix_blank_hole_iff] at h
          by_cases heq : i = k
          · rw [heq, render_hole, replaceAll_mark_append, ih h, putHole_self, render_append,
              render_map_char]
          · rw [render_hole, replaceAll_mark_append_of_ne (Ne.symm heq), ih h, putHole_of_ne heq,
              render_hole]

/-! ## Forged placeholders -/

theorem exists_of_prefix_blank {w : List Char} {ps : List Piece} (h : w <+: blank ps)
    (hw : ∀ c ∈ w, c ≠ ' ') : ∃ qs, ps = w.map .char ++ qs := by
  induction w generalizing ps with
  | nil => exact ⟨ps, rfl⟩
  | cons c w ih =>
      rw [List.forall_mem_cons] at hw
      cases ps with
      | nil => simp [blank] at h
      | cons p ps =>
          cases p with
          | char d =>
              rw [blank_char, List.cons_prefix_cons] at h
              obtain ⟨rfl, h⟩ := h
              obtain ⟨qs, rfl⟩ := ih h hw.2
              exact ⟨qs, rfl⟩
          | hole i =>
              rw [blank_hole, List.cons_prefix_cons] at h
              exact absurd h.1 hw.1

theorem exists_of_mark_prefix {k : Nat} {c : Char} {ps : List Piece}
    (h : mark k <+: c :: render ps) : ∃ qs, .char c :: ps = (mark k).map .char ++ qs := by
  rw [mark_prefix_render_iff, ← blank_char] at h
  refine exists_of_prefix_blank h fun d hd => ?_
  rcases List.mem_cons.1 hd with rfl | hd
  · decide
  · exact (ne_of_mem_markTail hd).2

/-- For one number, pieces are taken apart as the program reads their text: a forged placeholder of
this number goes as a whole. -/
theorem forged_induction {k : Nat} {P : List Piece → Prop} (ps : List Piece) (nil : P [])
    (hole : ∀ i qs, P qs → P (.hole i :: qs))
    (forged : ∀ qs, P qs → P ((mark k).map .char ++ qs))
    (plain : ∀ c qs, ¬ mark k <+: c :: render qs → P qs → P (.char c :: qs)) : P ps := by
  induction hlength : ps.length using Nat.strongRecOn generalizing ps with
  | ind size ih =>
    cases ps with
    | nil => exact nil
    | cons p qs =>
        have hlt : qs.length < size := by
          rw [← hlength]
          exact Nat.lt_succ_self _
        cases p with
        | hole i => exact hole i qs (ih qs.length hlt qs rfl)
        | char c =>
            by_cases hmark : mark k <+: c :: render qs
            · obtain ⟨last, hlast⟩ := exists_of_mark_prefix hmark
              have hlastlt : last.length < size := by
                rw [← hlength, hlast]
                simp [mark]
                omega
              rw [hlast]
              exact forged last (ih last.length hlastlt last rfl)
            · exact plain c qs hmark (ih qs.length hlt qs rfl)

theorem exists_length_replaceAll_render (k : Nat) (arg : List Char) (ps : List Piece) :
    ∃ n, (replaceAll (mark k) arg (render ps)).length + n * (mark k).length =
        (render (putHole k arg ps)).length + n * arg.length ∧
      (mark k <:+: blank ps → 0 < n) := by
  induction ps using forged_induction (k := k) with
  | nil =>
      refine ⟨0, by simp [render, replaceAll, replaceFrom, putHole], fun h => ?_⟩
      exact absurd (List.eq_nil_of_infix_nil h) (List.cons_ne_nil _ _)
  | hole i ps ih =>
      obtain ⟨n, hn, hpos⟩ := ih
      rw [mark_infix_blank_hole_iff]
      refine ⟨n, ?_, hpos⟩
      by_cases heq : i = k
      · rw [heq, render_hole, replaceAll_mark_append, putHole_self, render_append,
          render_map_char, List.length_append, List.length_append]
        omega
      · rw [render_hole, replaceAll_mark_append_of_ne (Ne.symm heq), putHole_of_ne heq,
          render_hole, List.length_append, List.length_append]
        omega
  | forged ps ih =>
      obtain ⟨n, hn, _⟩ := ih
      refine ⟨n + 1, ?_, fun _ => Nat.succ_pos n⟩
      rw [render_append, render_map_char, replaceAll_mark_append, putHole_append,
        putHole_map_char, render_append, render_map_char, List.length_append,
        List.length_append, Nat.succ_mul, Nat.succ_mul]
      omega
  | plain c ps hmark ih =>
      obtain ⟨n, hn, hpos⟩ := ih
      rw [mark_infix_blank_char_iff]
      refine ⟨n, ?_, fun h => hpos (h.resolve_left hmark)⟩
      rw [render_char, replaceAll_cons hmark, putHole_char, render_char, List.length_cons,
        List.length_cons]
      omega

/-- A forged placeholder is filled, which shows unless what is put in is as long as it. -/
theorem replaceAll_render_ne {k : Nat} {ps : List Piece} (h : mark k <:+: blank ps)
    {arg : List Char} (harg : arg.length ≠ (mark k).length) :
    replaceAll (mark k) arg (render ps) ≠ render (putHole k arg ps) := by
  obtain ⟨n, hn, hpos⟩ := exists_length_replaceAll_render k arg ps
  intro heq
  rw [heq, Nat.add_left_cancel_iff] at hn
  exact harg (Nat.eq_of_mul_eq_mul_left (hpos h) hn.symm)

/-! ## All numbers -/

theorem fillFrom_append (i : Nat) (text : List Char) (front rest : List (List Char)) :
    fillFrom i text (front ++ rest) = fillFrom (i + front.length) (fillFrom i text front) rest := by
  induction front generalizing i text with
  | nil => rfl
  | cons arg front ih =>
      rw [List.cons_append, fillFrom, fillFrom, ih, List.length_cons, Nat.add_assoc,
        Nat.add_comm 1]

/-- As long as nothing is forged, the holes of one number are filled after those of another. -/
theorem fillFrom_render {front rest : List (List Char)} {ps : List Piece}
    (h : ∀ j < rest.length,
      ¬ mark (front.length + j) <:+: blank (putIn (front ++ rest.take j) ps)) :
    fillFrom front.length (render (putIn front ps)) rest = render (putIn (front ++ rest) ps) := by
  induction rest generalizing front with
  | nil => rw [fillFrom, List.append_nil]
  | cons arg rest ih =>
      have hfirst : ¬ mark front.length <:+: blank (putIn front ps) := by
        simpa using h 0 (Nat.succ_pos _)
      have hlater : ∀ j < rest.length,
          ¬ mark ((front ++ [arg]).length + j) <:+:
            blank (putIn ((front ++ [arg]) ++ rest.take j) ps) := by
        intro j hj
        have hj := h (j + 1) (Nat.succ_lt_succ hj)
        simpa [Nat.add_assoc, Nat.add_comm 1] using hj
      have hlength : front.length + 1 = (front ++ [arg]).length := by simp
      rw [fillFrom, replaceAll_render hfirst, putHole_putIn, hlength, ih hlater]
      simp

theorem fillFrom_pieces {text : List Char} {args : List (List Char)}
    (h : ∀ k < args.length, ¬ mark k <:+: blank (putIn (args.take k) (pieces text))) :
    fillFrom 0 text args = render (putIn args (pieces text)) := by
  have hall : ∀ k < args.length, ¬ mark (([] : List (List Char)).length + k) <:+:
      blank (putIn ([] ++ args.take k) (pieces text)) := by
    simpa using h
  have hfill := fillFrom_render hall
  rwa [putIn_nil, render_pieces] at hfill

theorem not_forged_zero (text : String) (args : List String) : ¬ Forged text args 0 := by
  have hunfilled : unfilled text (args.take 0) = blank (pieces text.toList) :=
    congrArg blank (putIn_nil _)
  rw [Forged, hunfilled]
  exact not_infix_blank_pieces 0 text.toList

theorem fill_of_not_forged {text : String} {args : List String}
    (h : ∀ k < args.length, ¬ Forged text args k) : fill text args = fillAtOnce text args := by
  refine congrArg String.ofList (fillFrom_pieces fun k hk => ?_)
  rw [List.length_map] at hk
  rw [← List.map_take]
  exact h k hk

theorem fill_ne_of_forged {text : String} {args : List String} {k : Nat} (hk : k < args.length)
    (hbefore : ∀ j < k, ¬ Forged text args j) (h : Forged text args k) {arg : String}
    (harg : arg.length ≠ (mark k).length) :
    fill text (args.take k ++ [arg]) ≠ fillAtOnce text (args.take k ++ [arg]) := by
  -- the first `k` arguments are put in at once, and what follows is the round of number `k`
  have hlength : ((args.take k).map String.toList).length = k := by
    rw [List.length_map, List.length_take, Nat.min_eq_left (Nat.le_of_lt hk)]
  have hfront : fillFrom 0 text.toList ((args.take k).map String.toList) =
      render (putIn ((args.take k).map String.toList) (pieces text.toList)) := by
    refine fillFrom_pieces fun j hj => ?_
    rw [hlength] at hj
    rw [← List.map_take, List.take_take, Nat.min_eq_left (Nat.le_of_lt hj)]
    exact hbefore j hj
  have hlast : putIn ((args.take k).map String.toList ++ [arg.toList]) (pieces text.toList) =
      putHole k arg.toList (putIn ((args.take k).map String.toList) (pieces text.toList)) := by
    rw [← putHole_putIn, hlength]
  rw [← String.length_toList] at harg
  intro heq
  rw [fill, fillAtOnce, String.ofList_inj, List.map_append, fillFrom_append, hfront, hlength,
    Nat.zero_add] at heq
  exact replaceAll_render_ne h harg (heq.trans (congrArg render hlast))

/-- Filling one number after another is filling at once as long as no placeholder is forged, which
none is under the first number. Where one is, the first of them is filled like a placeholder of the
text, and the outcome is another for everything put in there that is not just as long as it. -/
theorem fill_eq_fillAtOnce (text : String) (args : List String) :
    ((∀ k, 0 < k → k < args.length → ¬ Forged text args k) →
        fill text args = fillAtOnce text args) ∧
      ∀ k < args.length, (∀ j < k, ¬ Forged text args j) → Forged text args k →
        ∀ arg : String, arg.length ≠ (mark k).length →
          fill text (args.take k ++ [arg]) ≠ fillAtOnce text (args.take k ++ [arg]) := by
  refine ⟨fun h => fill_of_not_forged fun k hk => ?_, fun k hk hbefore hforged arg harg =>
    fill_ne_of_forged hk hbefore hforged harg⟩
  rcases Nat.eq_zero_or_pos k with rfl | hpos
  · exact not_forged_zero text args
  · exact h k hpos hk

/-- A placeholder in an argument is filled by a later argument. -/
theorem fill_ne_fillAtOnce :
    fill "\x7b0\x7d" ["\x7b1\x7d", "x"] = "x" ∧
      fillAtOnce "\x7b0\x7d" ["\x7b1\x7d", "x"] = "\x7b1\x7d" := by
  decide

/-- The braces around a placeholder make another one of what is put in. -/
example : Forged "\x7b\x7b0\x7d\x7d" ["1", "x"] 1 := by decide

end TemplateScope.Placeholder
