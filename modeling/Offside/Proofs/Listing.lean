import Offside.CommandLine.Dump
import Offside.Proofs.Origins
import Offside.Proofs.Quoting
import Offside.Proofs.StandardTable

/-! Listings. A listing has one line for each token that the layout asked for delivers, and one more
where that ends in a fault; each line of a token can be read back. Bytes that are text always fall
into raw tokens, since no carriage return is left of them, so a fault is one of indentation. -/
namespace Offside

/-- The standard terminals read a text whose carriage returns are paired to its end. -/
theorem Lexicon.reads_paired {text : String} (paired : Paired text.toList)
    (cursor : standard.source.State) :
    (standard.source.readFrom cursor text).fault = none ∧
      ∀ token ∈ (standard.source.readFrom cursor text).tokens,
        ∃ stretch : Stretch, token.kind = stretch.kind := by
  obtain ⟨lexed, rest, tokens, split, before, ends, tokenized, given, fault, -⟩ :=
    read_standard cursor text
  obtain rfl := (paired_append_iff before ends).1 (split ▸ paired)
  refine ⟨fault, fun token member => ?_⟩
  rw [given] at member
  obtain ⟨stretch, kind, -⟩ := tokenized.stretch_of_mem member
  exact ⟨stretch, kind⟩

/-- The observer that compares margins refuses a line for nothing else. -/
theorem Observer.fault_of_consistent {memory : Memory} {report : LineReport} {fault : Fault}
    (refuses : consistent.observe memory report = .error fault) :
    fault = .clashingMargins memory.lastMargin report.margin report.breaker := by
  simp only [consistent] at refuses
  split at refuses
  · cases refuses
  · split at refuses
    · cases refuses
    · cases refuses
      rfl

namespace CommandLine

/-- What a line of a listing tells of its token. -/
structure Row where
  line : Option Int
  column : Option Int
  kind : String
  text : String
deriving DecidableEq

/-- What is listed of a token. -/
def rowOf (token : Token) : Row := ⟨token.span.line, token.span.column, token.kind, token.text⟩

/-- Reads a number, or that there is none. -/
def readNumber (s : List Char) : Option Int :=
  if s = "None".toList then none
  else match s with
  | '-' :: digits => some (-(Nat.ofDigitChars 10 digits 0 : Int))
  | digits => some (Nat.ofDigitChars 10 digits 0)

/-- The part before the first mark of a kind, and the part after it. -/
def cutAt (mark : Char) (s : List Char) : List Char × List Char :=
  (s.takeWhile (· ≠ mark), (s.dropWhile (· ≠ mark)).tail)

/-- Reads a line of a listing. -/
def readLine (s : List Char) : Row :=
  let (line, rest) := cutAt ':' s
  let (column, rest) := cutAt ' ' rest
  let (kind, quoted) := cutAt ' ' rest
  ⟨readNumber line, readNumber column, String.ofList kind, Text.unquoted quoted⟩

theorem cutAt_append {mark : Char} {s : List Char} (unmarked : mark ∉ s) (t : List Char) :
    cutAt mark (s ++ mark :: t) = (s, t) := by
  have passes : ∀ c ∈ s, decide (c ≠ mark) = true := by
    rintro c member
    exact decide_eq_true fun same => unmarked (same ▸ member)
  rw [cutAt, List.takeWhile_append_of_pos passes, List.dropWhile_append_of_pos passes]
  simp

/-- The digits of a number, without a sign. -/
theorem isDigit_of_repr {n : Nat} : ∀ c ∈ n.repr.toList, c.isDigit := by
  intro c member
  rw [Nat.repr, String.toList_ofList] at member
  exact Nat.isDigit_of_mem_toDigits (by decide) (by decide) member

theorem readNumber_lineText (number : Option Int) :
    readNumber (Event.lineText number).toList = number := by
  have digits (n : Nat) : Nat.ofDigitChars 10 n.repr.toList 0 = n := by
    rw [Nat.repr, String.toList_ofList, Nat.ofDigitChars_ten_toDigits]
  cases number with
  | none => rfl
  | some number =>
    cases number with
    | ofNat n =>
      have shown : (Event.lineText (some (.ofNat n))).toList = n.repr.toList := rfl
      have named : n.repr.toList ≠ "None".toList := fun same =>
        absurd (isDigit_of_repr (n := n) 'N' (by rw [same]; decide)) (by decide)
      unfold readNumber
      rw [shown, if_neg named]
      split
      case h_1 rest signed =>
        exact absurd (isDigit_of_repr (n := n) '-' (by rw [signed]; simp)) (by decide)
      case h_2 =>
        rw [digits]
        rfl
    | negSucc n =>
      have shown : (Event.lineText (some (.negSucc n))).toList = '-' :: n.succ.repr.toList := by
        show ("-" ++ n.succ.repr).toList = _
        rw [String.toList_append]
        rfl
      have named : '-' :: n.succ.repr.toList ≠ "None".toList := by
        intro same
        exact absurd (List.cons.inj same).1 (by decide)
      rw [shown, readNumber, if_neg named]
      simp only [digits]
      rfl

theorem lineText_plain (number : Option Int) {c : Char} (mark : c = ':' ∨ c = ' ' ∨ c = '\n') :
    c ∉ (Event.lineText number).toList := by
  have numeral (n : Nat) : c ∉ n.repr.toList := by
    intro member
    have digit := isDigit_of_repr c member
    rcases mark with rfl | rfl | rfl <;> exact absurd digit (by decide)
  cases number with
  | none => rcases mark with rfl | rfl | rfl <;> decide
  | some number =>
    cases number with
    | ofNat n => exact numeral n
    | negSucc n =>
      show c ∉ ("-" ++ n.succ.repr).toList
      rw [String.toList_append]
      refine fun member => (List.mem_append.1 member).elim ?_ (numeral n.succ)
      rcases mark with rfl | rfl | rfl <;> decide

theorem toList_tokenLine (token : Token) : (tokenLine token).toList =
    (Event.lineText token.span.line).toList ++ ':' :: ((Event.lineText token.span.column).toList ++
      ' ' :: (token.kind.toList ++ ' ' :: (Text.quoted token.text).toList)) := by
  simp [tokenLine, String.toList_append, toString]

/-- A line of a listing tells the place, the kind and the text of its token. -/
theorem readLine_tokenLine {token : Token} (plain : ' ' ∉ token.kind.toList) :
    readLine (tokenLine token).toList = rowOf token := by
  rw [toList_tokenLine, readLine, cutAt_append (lineText_plain _ (.inl rfl))]
  dsimp only
  rw [cutAt_append (lineText_plain _ (.inr (.inl rfl)))]
  dsimp only
  rw [cutAt_append plain, readNumber_lineText, readNumber_lineText, Text.unquoted_quoted,
    String.ofList_toList]
  rfl

example : readLine "2:3 WORD \"it's\"".toList = ⟨some 2, some 3, "WORD", "it's"⟩ := by cbv

/-- The token of a line is listed on one line. -/
theorem feed_notMem_tokenLine {token : Token} (plain : '\n' ∉ token.kind.toList) :
    '\n' ∉ (tokenLine token).toList := by
  have number (n : Option Int) := lineText_plain n (.inr (.inr rfl))
  simp [toList_tokenLine, number, plain, Text.feed_notMem_quoted]

/-- A kind that a line can show as it is. -/
def Plain (kind : String) : Prop := ' ' ∉ kind.toList ∧ '\n' ∉ kind.toList

/-- The kinds of the tokens that are listed are plain. -/
theorem plain_of_read {L : Layout Int Memory} (borrows : L.build = .borrow)
    (blank : L.blank = .ignore ∨ L.blank = .eol none) {text : String}
    (paired : Paired text.toList) :
    ∀ token ∈ ((L.source Lexicon.standard.source).read text).tokens, Plain token.kind := by
  have layout : ∀ kind ∈ layoutKinds, Plain kind := by
    simp only [layoutKinds, List.forall_mem_cons]
    simp [Plain, eolKind, indentKind, dedentKind]
  have makes : L.Makes fun token => Plain token.kind := by
    refine ⟨fun kind listed text base => ?_, fun last breaker token member => ?_⟩
    · rw [borrows]
      exact layout kind listed
    · rw [borrows] at member
      have eol : Plain eolKind := layout eolKind (by simp [layoutKinds])
      rcases blank with ignores | ends
      · rw [ignores] at member
        cases member
      · rw [ends] at member
        cases breaker <;> obtain rfl := List.mem_singleton.1 member <;> exact eol
  rw [Source.read_eq_readFrom]
  refine Layout.all_of_read makes fun token member => ?_
  obtain ⟨stretch, kind⟩ := (Lexicon.reads_paired paired _).2 token member
  rw [kind]
  cases stretch <;> simp [Plain, Stretch.kind]

/-- A layout over the standard terminals that goes by the text of tokens fails only at a line that
lands on no level or that an observer refuses. -/
theorem fault_of_read {L : Layout Int Memory} (byText : L.classify = .byText) {text : String}
    (paired : Paired text.toList) {fault : Fault}
    (failed : ((L.source Lexicon.standard.source).read text).fault = some fault) :
    (∃ token depth, fault = .strayDedent (some token) depth) ∨
      ∃ observer ∈ L.observers, ∃ memory report, observer.observe memory report = .error fault := by
  rw [Source.read_eq_readFrom] at failed
  rcases Layout.fault_of_read failed with raw | found
  · exact absurd (raw.symm.trans (Lexicon.reads_paired paired _).1) (by simp)
  · cases found with
    | @unknown token answer unclassified =>
      rw [byText] at unclassified
      cases unclassified
    | stray token depth => exact .inl ⟨token, _, rfl⟩
    | refused listens refuses => exact .inr ⟨_, listens, _, _, refuses⟩

/-- The layout of the options is found whenever a tab is not worth less than nothing. -/
theorem exists_depth {options : Options} (wide : 0 ≤ options.tabWidth) :
    ∃ depth, (if options.tabWidth = 0 then depth = .length
        else DepthRule.tabs options.tabWidth = .ok depth) ∧
      layout options = .ok { Layout.standard with
        depth
        blank := if options.blankLines then .eol none else .ignore
        observers := if options.noCheck then [] else [.consistent] } := by
  by_cases plain : options.tabWidth = 0
  · exact ⟨.length, by rw [if_pos plain], by rw [layout, if_pos plain]; rfl⟩
  · have worth : DepthRule.tabs options.tabWidth =
        .ok { measure := fun _ margin => DepthRule.widthWith options.tabWidth margin
              shown := .int } :=
      if_neg (by omega)
    refine ⟨_, (if_neg plain).mpr worth, ?_⟩
    rw [layout, if_neg plain, worth]
    rfl

/-- A quiet listing is made of the lines of the tokens and a line for a fault. -/
theorem list_of_quiet {options : Options} (quiet : options.verbose = false) (S : Source)
    (text : String) :
    let reading := S.read text
    let ending := reading.fault.map fun fault => "Error: " ++ fault.message
    list options S text = {
      exitCode := if reading.fault.isSome then 1 else 0
      output := unlines (reading.tokens.map tokenLine ++ ending.toList)
      log := "" } := by
  intro reading ending
  simp only [list, quiet]
  cases ended : reading.fault <;>
    simp [reading, ending, ended, errorLine, toString, unlines]

/-- A listing of bytes that are text has one line for each token that the layout of the options
delivers, in their order, and one more where a fault ends them. A line of a token tells the token
whole, and a fault is one of indentation: the bytes always fall into raw tokens. -/
theorem dump_lists_tokens (options : Options) (quiet : options.verbose = false)
    (wide : 0 ≤ options.tabWidth) {bytes : List UInt8} {chars : List Char}
    (decoded : Text.decodeUtf8 bytes = .ok chars) :
    ∃ depth lexicon,
      (if options.tabWidth = 0 then depth = .length
        else DepthRule.tabs options.tabWidth = .ok depth) ∧
      Lexicon.ofTable .standard = .ok lexicon ∧
      let L : Layout Int Memory :=
        { Layout.standard with
          depth
          blank := if options.blankLines then .eol none else .ignore
          observers := if options.noCheck then [] else [.consistent] }
      let reading := (L.source lexicon.source).read (String.ofList (Text.unifyBreaks chars))
      let report := dump options (.bytes bytes)
      let ending := reading.fault.map fun fault => "Error: " ++ fault.message
      report.output = unlines (reading.tokens.map tokenLine ++ ending.toList) ∧
      report.exitCode = (if reading.fault.isSome then 1 else 0) ∧
      report.log = "" ∧
      (∀ token ∈ reading.tokens, '\n' ∉ (tokenLine token).toList ∧
        readLine (tokenLine token).toList = rowOf token) ∧
      ∀ fault, reading.fault = some fault →
        (∃ token depth, fault = .strayDedent token depth) ∨
          options.noCheck = false ∧
            ∃ previous current token, fault = .clashingMargins previous current token := by
  obtain ⟨depth, measured, asked⟩ := exists_depth wide
  refine ⟨depth, .standard, measured, Lexicon.ofTable_standard, ?_⟩
  intro L reading report ending
  have paired : Paired (String.ofList (Text.unifyBreaks chars)).toList := by
    rw [String.toList_ofList]
    exact Text.paired_unifyBreaks chars
  have listed : report = {
      exitCode := if reading.fault.isSome then 1 else 0
      output := unlines (reading.tokens.map tokenLine ++ ending.toList)
      log := "" } := by
    rw [← list_of_quiet quiet]
    simp only [report, dump, decoded, asked, Lexicon.ofTable_standard]
    rfl
  have blank : L.blank = .ignore ∨ L.blank = .eol none := by
    cases shown : options.blankLines <;> simp [L, shown]
  refine ⟨congrArg Report.output listed, congrArg Report.exitCode listed,
    congrArg Report.log listed, fun token member => ?_, fun fault failed => ?_⟩
  · have plain : Plain token.kind := plain_of_read rfl blank paired token member
    exact ⟨feed_notMem_tokenLine plain.2, readLine_tokenLine plain.1⟩
  · rcases fault_of_read rfl paired failed with ⟨token, depth, stray⟩ | refused
    · exact .inl ⟨some token, depth, stray⟩
    · refine .inr ?_
      obtain ⟨observer, listens, memory, line, refuses⟩ := refused
      cases unchecked : options.noCheck with
      | true => simp [L, unchecked] at listens
      | false =>
        obtain rfl : observer = .consistent := by simpa [L, unchecked] using listens
        exact ⟨rfl, _, _, _, Observer.fault_of_consistent refuses⟩

/-- Two lines, of which a carriage return and a line feed end the first. -/
theorem dump_lists_tokens_two_lines :
    let options : Options := { tabWidth := 4, noCheck := true }
    let bytes : List UInt8 := [0x61, 0x0d, 0x0a, 0x09, 0x62]
    let report := dump options (.bytes bytes)
    let lines := ["1:1 WORD 'a'", "1:2 eol '\\n'", "2:2 indent '\\t'", "2:2 WORD 'b'",
      "2:2 eol 'b'", "2:2 dedent ''"]
    options.verbose = false ∧ 0 ≤ options.tabWidth ∧
      Text.decodeUtf8 bytes = .ok "a\r\n\tb".toList ∧
      report.output = unlines lines ∧ report.exitCode = 0 ∧ report.log = "" ∧
      (∀ line ∈ lines, '\n' ∉ line.toList) ∧
      lines.map (readLine ·.toList) =
        [⟨some 1, some 1, "WORD", "a"⟩, ⟨some 1, some 2, "eol", "\n"⟩,
          ⟨some 2, some 2, "indent", "\t"⟩, ⟨some 2, some 2, "WORD", "b"⟩,
          ⟨some 2, some 2, "eol", "b"⟩, ⟨some 2, some 2, "dedent", ""⟩] := by
  intro options bytes report lines
  have decoded : Text.decodeUtf8 bytes = .ok "a\r\n\tb".toList := by decide
  obtain ⟨depth, lexicon, measured, made, output, code, log, rows, -⟩ :=
    dump_lists_tokens options rfl (by decide) decoded
  obtain rfl : Lexicon.standard = lexicon :=
    Except.ok.inj (Lexicon.ofTable_standard.symm.trans made)
  obtain rfl : _ = depth := Except.ok.inj measured
  have unified : Text.unifyBreaks "a\r\n\tb".toList = "a\n\tb".toList := by cbv
  rw [unified, String.ofList_toList] at output code rows
  let L : Layout Int Memory :=
    { Layout.standard with
      depth := { measure := fun _ margin => DepthRule.widthWith 4 margin, shown := .int }
      observers := [] }
  let reading := (L.source Lexicon.standard.source).read "a\n\tb"
  have scanned : Lexicon.standard.scan {} "a\n\tb".toList =
      ([Stretch.word.token ['a'] {}, Stretch.breaks.token ['\n'] ⟨1, 1, 2⟩,
        Stretch.space.token ['\t'] ⟨2, 2, 1⟩, Stretch.word.token ['b'] ⟨3, 2, 2⟩], none) := by
    cbv
  obtain ⟨tokens, fault⟩ := Prod.mk.inj (Lexicon.standard.read_layout L "a\n\tb")
  rw [scanned] at tokens fault
  have listed : reading.tokens.map tokenLine = lines :=
    (congrArg (List.map tokenLine) tokens).trans (by cbv)
  have told : reading.tokens.map rowOf = _ := (congrArg (List.map rowOf) tokens).trans (by cbv)
  have unbroken : reading.fault = none := fault.trans (by cbv)
  refine ⟨rfl, by decide, decoded, output.trans ?_, code.trans ?_, log, ?_, ?_⟩
  · show unlines (reading.tokens.map tokenLine ++
      (reading.fault.map fun fault => "Error: " ++ fault.message).toList) = _
    rw [listed, unbroken, Option.map_none, Option.toList_none, List.append_nil]
  · show (if reading.fault.isSome then 1 else 0) = 0
    rw [unbroken]
    rfl
  · rw [← listed]
    intro line member
    obtain ⟨token, among, rfl⟩ := List.mem_map.1 member
    exact (rows token among).1
  · rw [← listed, List.map_map]
    exact (List.map_congr_left fun token among => (rows token among).2).trans told

end CommandLine

end Offside
