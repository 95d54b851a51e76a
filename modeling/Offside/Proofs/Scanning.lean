import Offside.Lexicon.Source
import Offside.Proofs.Reading

/-! Scanning, piece by piece. A text of which a terminal matches the beginning is scanned as that
piece and then the rest; and reading a text from a lexicon, wherever it was before, gives the tokens
of the scan and the fault that ends them. The kinds of these tokens are names of the table. -/
namespace Offside

namespace Role

theorem allBreaks_other {c : Char} {rest : List Char} (other : c ≠ '\n' ∧ c ≠ '\r') :
    allBreaks (c :: rest) = false := by
  unfold allBreaks
  split <;> simp_all

theorem ofText_ofList {s : List Char} (nonempty : s ≠ []) : ofText (String.ofList s) =
    if allBreaks s then lineBreak
    else if s.all fun c => c = '\t' || c = ' ' then indentation
    else ordinary := by
  have text : String.ofList s ≠ "" := fun empty =>
    nonempty (by simpa using congrArg String.toList empty)
  rw [ofText, if_neg text, String.toList_ofList]

/-- Spaces and tabs are indentation. -/
theorem ofText_blank {s : List Char} (nonempty : s ≠ []) (blank : ∀ c ∈ s, c = ' ' ∨ c = '\t') :
    ofText (String.ofList s) = indentation := by
  obtain ⟨c, rest, rfl⟩ := List.exists_cons_of_ne_nil nonempty
  have other : c ≠ '\n' ∧ c ≠ '\r' := by
    rcases blank c List.mem_cons_self with rfl | rfl <;> decide
  have all : ((c :: rest).all fun c => c = '\t' || c = ' ') = true := by
    refine List.all_eq_true.2 fun x member => ?_
    rcases blank x member with rfl | rfl <;> rfl
  rw [ofText_ofList nonempty, allBreaks_other other, if_neg Bool.false_ne_true, if_pos all]

/-- What begins with no white space of the layout is content. -/
theorem ofText_other {c : Char} (rest : List Char)
    (other : c ≠ ' ' ∧ c ≠ '\t' ∧ c ≠ '\r' ∧ c ≠ '\n') :
    ofText (String.ofList (c :: rest)) = ordinary := by
  rw [ofText_ofList (List.cons_ne_nil c rest), allBreaks_other ⟨other.2.2.2, other.2.2.1⟩]
  simp [other]

end Role

namespace Place

@[simp] theorem after_nil (countsLines : Bool) (place : Place) :
    place.after countsLines [] = place := rfl

theorem after_append (countsLines : Bool) (place : Place) (s t : List Char) :
    place.after countsLines (s ++ t) = (place.after countsLines s).after countsLines t :=
  List.foldl_append

theorem after_cons (countsLines : Bool) (place : Place) (c : Char) (s : List Char) :
    place.after countsLines (c :: s) = Place.after countsLines
      (if countsLines && c == '\n' then ⟨place.offset + 1, place.line + 1, 1⟩
        else ⟨place.offset + 1, place.line, place.column + 1⟩) s := rfl

/-- Every character counts for the offset. -/
theorem offset_after (countsLines : Bool) (place : Place) (s : List Char) :
    (place.after countsLines s).offset = place.offset + s.length := by
  induction s generalizing place with
  | nil => rfl
  | cons c s ih =>
    rw [after_cons, ih, List.length_cons]
    split <;> simp only <;> omega

theorem line_after (place : Place) (s : List Char) :
    (place.after false s).line = place.line := by
  induction s generalizing place with
  | nil => rfl
  | cons c s ih => exact ih _

/-- Line feeds are counted. -/
theorem line_after_true (place : Place) (s : List Char) :
    (place.after true s).line = place.line + s.count '\n' := by
  induction s generalizing place with
  | nil => rfl
  | cons c s ih =>
    rw [after_cons, ih, Bool.true_and, List.count_cons]
    split <;> simp only <;> omega

/-- Without a line feed it makes no difference whether line feeds count. -/
theorem after_unbroken (countsLines : Bool) (place : Place) {s : List Char} (unbroken : '\n' ∉ s) :
    place.after countsLines s = place.after true s := by
  induction s generalizing place with
  | nil => rfl
  | cons c s ih =>
    obtain ⟨other, unbroken⟩ := not_or.1 (mt List.mem_cons.2 unbroken)
    have plain : (c == '\n') = false := beq_false_of_ne (Ne.symm other)
    rw [after_cons, after_cons, plain, Bool.and_false, Bool.and_false, ih _ unbroken]

theorem column_after_unbroken (place : Place) {s : List Char} (unbroken : '\n' ∉ s) :
    (place.after true s).column = place.column + s.length := by
  induction s generalizing place with
  | nil => rfl
  | cons c s ih =>
    obtain ⟨other, unbroken⟩ := not_or.1 (mt List.mem_cons.2 unbroken)
    have plain : (c == '\n') = false := beq_false_of_ne (Ne.symm other)
    rw [after_cons, ih _ unbroken, plain, Bool.and_false, List.length_cons]
    exact Nat.add_right_comm ..

end Place

namespace Lexicon

variable {L : Lexicon} {place : Place}

theorem scan_nil : L.scan place [] = ([], none) := by
  rw [scan]

theorem scan_stuck {c : Char} {rest : List Char} (stuck : L.firstMatch (c :: rest) = none) :
    L.scan place (c :: rest) = ([], some (.unmatched place.line place.column place.offset c)) := by
  rw [scan]
  split
  · rfl
  · simp_all

/-- A piece that a terminal matches becomes a token, and the rest is scanned from where it ends. -/
theorem scan_piece {entry : Entry} {piece rest : List Char}
    (found : L.firstMatch (piece ++ rest) = some (entry, piece.length)) :
    let stop := place.after entry.terminal.mayBreakLines piece
    L.scan place (piece ++ rest) =
      (entry.token piece place stop :: (L.scan stop rest).1, (L.scan stop rest).2) := by
  intro stop
  have nonempty : 0 < piece.length := firstMatch_pos found
  cases piece with
  | nil => exact absurd nonempty (Nat.lt_irrefl 0)
  | cons c more =>
    rw [List.cons_append] at found ⊢
    rw [scan]
    split
    · simp_all
    · rename_i other length matched
      obtain ⟨rfl, rfl⟩ := Prod.mk.inj (Option.some.inj (found.symm.trans matched))
      rw [← List.cons_append, List.take_left, List.drop_left]

variable {cursor : Cursor}

/-- What a lexicon still delivers. -/
theorem drain_source (L : Lexicon) (cursor : Cursor) :
    (L.source.drain cursor).tokens = cursor.rest ∧
      (L.source.drain cursor).fault = cursor.fault := by
  induction left : cursor.rest generalizing cursor with
  | nil =>
    cases ends : cursor.fault with
    | none =>
      have step : L.source.next cursor = (pure none, cursor) := by simp [source, next, left, ends]
      have drained : L.source.drain cursor = _ := Source.drain_end (by rw [step]; rfl)
      exact ⟨congrArg Source.Reading.tokens drained, congrArg Source.Reading.fault drained⟩
    | some fault =>
      have step : L.source.next cursor = (Reply.fail fault, { cursor with fault := none }) := by
        simp [source, next, left, ends]
      have drained : L.source.drain cursor = _ := Source.drain_fault (by rw [step]; rfl)
      exact ⟨congrArg Source.Reading.tokens drained, congrArg Source.Reading.fault drained⟩
  | cons token rest ih =>
    have step : L.source.next cursor =
        (pure (some token), { cursor with rest, delivered := cursor.delivered + 1 }) := by
      simp [source, next, left]
    have drained : L.source.drain cursor = _ := Source.drain_token (by rw [step]; rfl)
    rw [step] at drained
    obtain ⟨tokens, fault⟩ := ih { cursor with rest, delivered := cursor.delivered + 1 } rfl
    exact ⟨(congrArg Source.Reading.tokens drained).trans (congrArg (token :: ·) tokens),
      (congrArg Source.Reading.fault drained).trans fault⟩

/-- A text is read as it is scanned. -/
theorem readFrom_source (L : Lexicon) (cursor : Cursor) (text : String) :
    (L.source.readFrom cursor text).tokens = (L.scan {} text.toList).1 ∧
      (L.source.readFrom cursor text).fault = (L.scan {} text.toList).2 := by
  have reset : L.source.reset cursor text none = (pure (), L.begin text) := by
    simp [source, resume, countLimit, begin]
  unfold Source.readFrom
  rw [reset]
  exact L.drain_source (L.begin text)

/-- What a layout over a lexicon delivers of a text is made of the tokens of the scan. -/
theorem read_layout {δ μ : Type} [Ord δ] [DecidableEq δ] [DecidableEq μ] (L : Lexicon)
    (layout : Layout δ μ) (text : String) :
    let reading := (layout.source L.source).read text
    let scanned := L.scan {} text.toList
    (reading.tokens, reading.fault) = layout.fresh.deliverRaw layout scanned.1 scanned.2 := by
  intro reading scanned
  obtain ⟨tokens, fault⟩ := L.readFrom_source L.source.start text
  rw [show scanned.1 = _ from tokens.symm, show scanned.2 = _ from fault.symm]
  exact layout.readFrom_eq_deliver L.source (layout.source L.source).start text

section

variable {lexicon : Lexicon} {table : Table}

theorem kindOf_of_scan {place : Place} {s : List Char} {token : Token}
    (scanned : token ∈ (lexicon.scan place s).1) :
    ∃ entry ∈ lexicon.entries, ∃ piece, token.kind = entry.kindOf piece := by
  fun_induction lexicon.scan place s with
  | case1 place => cases scanned
  | case2 place c rest stuck => cases scanned
  | case3 place c rest entry length found piece stop tokens fault tail ih =>
    rcases List.mem_cons.1 scanned with rfl | later
    · obtain ⟨_, tried, matched⟩ := List.exists_of_findSome?_eq_some found
      obtain ⟨_, _, same⟩ := Option.map_eq_some_iff.1 matched
      cases same
      exact ⟨entry, tried, piece, rfl⟩
    · exact ih (by rw [tail]; exact later)

/-- What reads the definition of a terminal. -/
def readEntry (entry : String × String) : Except Fault Terminal :=
  match Terminal.read? entry.1 entry.2 with
  | some terminal => .ok terminal
  | none => .error (.terminalPattern entry.1)

theorem name_of_readEntry {entry : String × String} {terminal : Terminal}
    (read : readEntry entry = .ok terminal) : terminal.name = entry.1 := by
  unfold readEntry at read
  split at read
  · rename_i found
    cases read
    unfold Terminal.read? at found
    obtain ⟨_, _, found⟩ := Option.bind_eq_some_iff.1 found
    obtain ⟨_, _, found⟩ := Option.bind_eq_some_iff.1 found
    dsimp only at found
    split at found
    · cases found
    · split at found
      · cases found
        rfl
      · obtain ⟨_, _, found⟩ := Option.bind_eq_some_iff.1 found
        cases found
        rfl
  · cases read

theorem names_of_mapM {entries : List (String × String)} {terminals : List Terminal}
    (read : entries.mapM readEntry = .ok terminals) :
    ∀ terminal ∈ terminals, terminal.name ∈ entries.map (·.1) := by
  induction entries generalizing terminals with
  | nil =>
    cases read
    simp
  | cons entry entries ih =>
    rw [List.mapM_cons] at read
    cases first : readEntry entry with
    | error fault => simp [first, bind, Except.bind] at read
    | ok terminal =>
      cases rest : entries.mapM readEntry with
      | error fault => simp [first, rest, bind, Except.bind] at read
      | ok others =>
        simp only [first, rest, bind, Except.bind, pure, Except.pure, Except.ok.injEq] at read
        subst read
        rintro other (_ | ⟨_, member⟩)
        · exact List.mem_cons.2 (.inl (name_of_readEntry first))
        · exact List.mem_cons_of_mem _ (ih rest other member)

/-- A table has a lexicon where its names are in order and each of its definitions can be read. -/
theorem ofTable_eq_ok (made : ofTable table = .ok lexicon) :
    table.check = .ok () ∧ ∃ terminals, table.mapM readEntry = .ok terminals ∧
      lexicon = { entries := entriesOf terminals, names := table.names } := by
  have shape : ofTable table = table.check.bind fun _ =>
      (table.mapM readEntry).bind fun terminals =>
      .ok { entries := entriesOf terminals, names := table.names } := rfl
  rw [shape] at made
  cases checked : table.check with
  | error fault => simp [checked, Except.bind] at made
  | ok _ =>
    cases read : table.mapM readEntry with
    | error fault => simp [checked, read, Except.bind] at made
    | ok terminals =>
      simp only [checked, read, Except.bind, Except.ok.injEq] at made
      exact ⟨rfl, terminals, rfl, made.symm⟩

/-- A match is named after one of the terminals. -/
theorem kindOf_of_entriesOf {terminals : List Terminal} {entry : Entry}
    (tried : entry ∈ entriesOf terminals) (piece : List Char) :
    ∃ terminal ∈ terminals, entry.kindOf piece = terminal.name := by
  obtain ⟨terminal, listed, rfl⟩ := List.mem_map.1 tried
  unfold Entry.kindOf
  split
  · rename_i keyword found
    have listed := (List.mem_filter.1 (List.mem_of_find?_eq_some found)).1
    exact ⟨keyword, List.mem_mergeSort.1 listed, rfl⟩
  · exact ⟨terminal, List.mem_mergeSort.1 (List.mem_filter.1 listed).1, rfl⟩

theorem names_of_ofTable (made : ofTable table = .ok lexicon) {entry : Entry}
    (tried : entry ∈ lexicon.entries) (piece : List Char) :
    entry.kindOf piece ∈ table.names := by
  obtain ⟨-, terminals, read, rfl⟩ := ofTable_eq_ok made
  obtain ⟨terminal, listed, named⟩ := kindOf_of_entriesOf tried piece
  rw [named]
  exact names_of_mapM read terminal listed

theorem admits_of_ofTable (made : ofTable table = .ok lexicon) {name : String}
    (named : name ∈ table.names) : Table.admits name = true := by
  obtain ⟨checked, -⟩ := ofTable_eq_ok made
  rcases Table.check_cases table with ⟨-, refused⟩ | ⟨_, -, -, refused⟩ | ⟨-, admitted, -⟩
  · cases refused.symm.trans checked
  · cases refused.symm.trans checked
  · exact admitted name named

end

end Lexicon

end Offside
