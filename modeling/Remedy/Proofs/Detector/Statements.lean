import Remedy.Proofs.Detector.Interpolation

/-!
# SQL statements put together from parts

The rule of SQL statements looks for an upper-case verb as a whole word with white space behind it,
and for a sign that the statement is put together from parts. All signs but one are looked for
behind the verb: a quote and a plus sign, the opening of a template marker, a percent sign behind a
quoted text, a call of a format method. Only the letter and the quote of a format string stand
before it. What comes before a verb on its line and is no such letter does not count.
-/

set_option autoImplicit false

namespace Remedy.Detector

open Pattern Text

def sqlVerbs : List String :=
  ["SELECT", "INSERT", "UPDATE", "DELETE"]

/-- Whether a word can begin behind a character, or at the beginning of a line. -/
def StartsWord (before : Option Char) : Prop :=
  before.any isWord = false

instance (before : Option Char) : Decidable (StartsWord before) :=
  inferInstanceAs (Decidable (before.any isWord = false))

/-- An SQL verb stands in a line as a whole word with white space behind it, and then there is still
`behind`. -/
def VerbBefore (line behind : List Char) : Prop :=
  ∃ front, ∃ verb ∈ sqlVerbs, ∃ blank, StartsWord front.getLast? ∧ isBlank blank = true ∧
    line = front ++ (verb.toList ++ blank :: behind)

/-- A text with a quote and, somewhere behind it, a plus sign. -/
def Concatenates (text : List Char) : Prop :=
  ∃ behind ∈ text.tails, behind.head?.any ['\'', '"', '\x60'].contains = true ∧ '+' ∈ behind

instance (text : List Char) : Decidable (Concatenates text) :=
  inferInstanceAs (Decidable (∃ behind ∈ text.tails,
    behind.head?.any ['\'', '"', '\x60'].contains = true ∧ '+' ∈ behind))

/-- The signs behind a verb that a statement is put together from parts. -/
inductive ShowsParts (behind : List Char) : Prop where
  | concatenation (joined : Concatenates behind)
  | interpolation (opened : markerOpening <:+: behind)
  | percent {mark : Char} {gap gap' : List Char} {value : Char} (quote : mark ∈ ['\'', '"'])
      (blank : ∀ c ∈ gap, isBlank c = true) (blank' : ∀ c ∈ gap', isBlank c = true)
      (begins : isWord value = true ∨ value = '(')
      (within : mark :: (gap ++ '%' :: (gap' ++ [value])) <:+: behind)
  | formatCall {gap : List Char} (blank : ∀ c ∈ gap, isBlank c = true)
      (within : ".format".toList ++ (gap ++ ['(']) <:+: behind)

/-- The lines that the rule finds a statement in. -/
inductive Assembled (line : List Char) : Prop where
  | behindVerb {behind : List Char} (verb : VerbBefore line behind) (parts : ShowsParts behind)
  | formatString {front : List Char} {mark : Char} {quoted behind : List Char} {value : Char}
      (start : StartsWord front.getLast?) (quote : mark ∈ ['\'', '"'])
      (split : line = front ++ 'f' :: mark :: quoted) (verb : VerbBefore (mark :: quoted) behind)
      (word : isWord value = true) (within : ['\x7b', value] <:+: behind)

/-! ## Verbs -/

theorem isEdge_iff_startsWord {before : Option Char} {c : Char} (word : isWord c = true) :
    isEdge before (some c) = true ↔ StartsWord before := by
  cases before <;> simp [isEdge, StartsWord, word]

theorem head_of_verb {verb : String} (listed : verb ∈ sqlVerbs) (rest : List Char) :
    ∃ c, (verb.toList ++ rest).head? = some c ∧ isWord c = true := by
  have begins : ∀ verb ∈ sqlVerbs, verb.toList.head?.any isWord = true := by
    decide
  obtain ⟨c, head, word⟩ := (Option.any_eq_true _ _).mp (begins verb listed)
  exact ⟨c, by rw [List.head?_append, head, Option.some_or], word⟩

theorem startsWord_of_verb {verb : String} (listed : verb ∈ sqlVerbs) {before : Option Char}
    {rest : List Char} :
    isEdge before (verb.toList ++ rest).head? = true ↔ StartsWord before := by
  obtain ⟨c, head, word⟩ := head_of_verb listed rest
  rw [head, isEdge_iff_startsWord word]

theorem VerbBefore.suffix {line behind : List Char} (verb : VerbBefore line behind) :
    behind <:+ line := by
  obtain ⟨front, verb, -, blank, -, -, rfl⟩ := verb
  exact (List.suffix_cons blank behind).trans
    ((List.suffix_append verb.toList _).trans (List.suffix_append front _))

theorem matches_anyVerb_iff {before : Option Char} {part after : List Char} :
    Matches (anyOf [text "SELECT", text "INSERT", text "UPDATE", text "DELETE"]) before part after ↔
      ∃ verb ∈ sqlVerbs, part = verb.toList := by
  rw [matches_anyOf_iff (List.cons_ne_nil _ _)]
  simp only [sqlVerbs, List.mem_cons, List.not_mem_nil, or_false, exists_eq_or_imp, exists_eq_left,
    matches_text_iff]

theorem matches_sqlVerb_iff {before : Option Char} {part after : List Char} :
    Matches Rule.sqlVerb before part after ↔ StartsWord before ∧
      ∃ verb ∈ sqlVerbs, ∃ blank, isBlank blank = true ∧ part = verb.toList ++ [blank] := by
  simp only [Rule.sqlVerb, matches_sequence_cons_iff, matches_sequence_nil_iff,
    matches_wordEdge_iff, matches_anyVerb_iff, matches_one_iff]
  constructor
  · rintro ⟨_, _, rfl, ⟨rfl, edge⟩, _, _, rfl, ⟨verb, listed, rfl⟩, _, _, rfl,
      ⟨blank, isBlank, rfl⟩, rfl⟩
    rw [List.append_assoc, startsWord_of_verb listed] at edge
    exact ⟨edge, verb, listed, blank, isBlank, by simp⟩
  · rintro ⟨start, verb, listed, blank, isBlank, rfl⟩
    refine ⟨[], verb.toList ++ [blank], rfl, ⟨rfl, ?_⟩, _, _, rfl, ⟨verb, listed, rfl⟩, [blank], [],
      rfl, ⟨blank, isBlank, rfl⟩, rfl⟩
    rwa [List.append_assoc, startsWord_of_verb listed]

/-! ## What follows a verb -/

theorem matches_anything_iff {before : Option Char} {part after : List Char} :
    Matches Rule.anything before part after ↔ '\n' ∉ part := by
  rw [Rule.anything, matches_run_iff]
  constructor
  · intro members feed
    cases members _ feed
  · intro plain c member
    have other : c ≠ '\n' := fun same => plain (same ▸ member)
    simpa [CharClass.contains] using other

theorem matches_behindVerb_iff {rest : List Pattern} {Reads : List Char → Prop}
    (reads : ∀ before part after, Matches (sequence rest) before part after ↔ Reads part)
    {before : Option Char} {part after : List Char} :
    Matches (sequence (Rule.sqlVerb :: Rule.anything :: rest)) before part after ↔
      StartsWord before ∧ ∃ verb ∈ sqlVerbs, ∃ blank, isBlank blank = true ∧
        ∃ between found, '\n' ∉ between ∧ Reads found ∧
          part = verb.toList ++ blank :: (between ++ found) := by
  simp only [matches_sequence_cons_iff, matches_sqlVerb_iff, matches_anything_iff, reads _ _ _]
  constructor
  · rintro ⟨_, _, rfl, ⟨start, verb, listed, blank, isBlank, rfl⟩, between, found, rfl, plain, read⟩
    exact ⟨start, verb, listed, blank, isBlank, between, found, plain, read, by simp⟩
  · rintro ⟨start, verb, listed, blank, isBlank, between, found, plain, read, rfl⟩
    exact ⟨verb.toList ++ [blank], _, by simp, ⟨start, verb, listed, blank, isBlank, rfl⟩, between,
      found, rfl, plain, read⟩

theorem occurs_behindVerb_iff {rest : List Pattern} {Reads : List Char → Prop}
    (reads : ∀ before part after, Matches (sequence rest) before part after ↔ Reads part)
    {line : String} (plain : '\n' ∉ line.toList) :
    (sequence (Rule.sqlVerb :: Rule.anything :: rest)).Occurs line ↔
      ∃ behind, VerbBefore line.toList behind ∧ ∃ found, found <:+: behind ∧ Reads found := by
  simp only [occurs_iff, matches_behindVerb_iff reads]
  constructor
  · rintro ⟨front, _, after, split, start, verb, listed, blank, isBlank, between, found, -, read,
      rfl⟩
    refine ⟨between ++ (found ++ after), ⟨front, verb, listed, blank, start, isBlank, ?_⟩, found,
      ⟨between, after, by simp⟩, read⟩
    rw [split]
    simp
  · rintro ⟨_, ⟨front, verb, listed, blank, start, isBlank, split⟩, found, ⟨between, after, rfl⟩,
      read⟩
    refine ⟨front, verb.toList ++ blank :: (between ++ found), after, ?_, start, verb, listed,
      blank, isBlank, between, found, fun feed => plain ?_, read, rfl⟩
    · rw [split]
      simp
    · rw [split]
      simp [feed]

/-! ## Signs of parts -/

variable {before : Option Char} {part after : List Char}

theorem matches_concatenation_iff :
    Matches (sequence [one Rule.quoteMark, Rule.anything, text "+"]) before part after ↔
      ∃ mark ∈ ['\'', '"', '\x60'], ∃ between, '\n' ∉ between ∧
        part = mark :: (between ++ ['+']) := by
  simp only [matches_sequence_cons_iff, matches_sequence_nil_iff, matches_one_iff,
    matches_anything_iff, matches_text_iff, Rule.quoteMark, CharClass.contains,
    List.contains_iff_mem]
  constructor
  · rintro ⟨_, _, rfl, ⟨mark, quote, rfl⟩, between, _, rfl, plain, _, _, rfl, rfl, rfl⟩
    exact ⟨mark, quote, between, plain, rfl⟩
  · rintro ⟨mark, quote, between, plain, rfl⟩
    exact ⟨[mark], _, rfl, ⟨mark, quote, rfl⟩, between, _, rfl, plain, _, [], rfl, rfl, rfl⟩

theorem matches_interpolation_iff :
    Matches (sequence [text "$\x7b"]) before part after ↔ part = markerOpening :=
  matches_text_iff

theorem matches_percent_iff :
    Matches (sequence [one Rule.stringQuote, Rule.gap, text "%", Rule.gap,
        one (.union .word (.is '('))]) before part after ↔
      ∃ mark ∈ ['\'', '"'], ∃ gap gap' : List Char, ∃ value, (∀ c ∈ gap, isBlank c = true) ∧
        (∀ c ∈ gap', isBlank c = true) ∧ (isWord value = true ∨ value = '(') ∧
        part = mark :: (gap ++ '%' :: (gap' ++ [value])) := by
  simp only [matches_sequence_cons_iff, matches_sequence_nil_iff, matches_one_iff, matches_run_iff,
    matches_text_iff, Rule.gap, Rule.stringQuote, CharClass.contains, List.contains_iff_mem,
    Bool.or_eq_true, beq_iff_eq]
  constructor
  · rintro ⟨_, _, rfl, ⟨mark, quote, rfl⟩, gap, _, rfl, blank, _, _, rfl, rfl, gap', _, rfl, blank',
      _, _, rfl, ⟨value, begins, rfl⟩, rfl⟩
    exact ⟨mark, quote, gap, gap', value, blank, blank', begins, rfl⟩
  · rintro ⟨mark, quote, gap, gap', value, blank, blank', begins, rfl⟩
    exact ⟨[mark], _, rfl, ⟨mark, quote, rfl⟩, gap, _, rfl, blank, _, _, rfl, rfl, gap', _, rfl,
      blank', [value], [], rfl, ⟨value, begins, rfl⟩, rfl⟩

theorem matches_formatCall_iff :
    Matches (sequence [text ".format", Rule.gap, text "("]) before part after ↔
      ∃ gap : List Char, (∀ c ∈ gap, isBlank c = true) ∧
        part = ".format".toList ++ (gap ++ ['(']) := by
  simp only [matches_sequence_cons_iff, matches_sequence_nil_iff, matches_run_iff, matches_text_iff,
    Rule.gap, CharClass.contains]
  constructor
  · rintro ⟨_, _, rfl, rfl, gap, _, rfl, blank, _, _, rfl, rfl, rfl⟩
    exact ⟨gap, blank, rfl⟩
  · rintro ⟨gap, blank, rfl⟩
    exact ⟨_, _, rfl, rfl, gap, _, rfl, blank, _, [], rfl, rfl, rfl⟩

theorem concatenates_iff {text : List Char} (plain : '\n' ∉ text) :
    Concatenates text ↔ ∃ found, found <:+: text ∧ ∃ mark ∈ ['\'', '"', '\x60'], ∃ between,
      '\n' ∉ between ∧ found = mark :: (between ++ ['+']) := by
  constructor
  · rintro ⟨behind, suffix, quoted, plus⟩
    obtain ⟨mark, head, quote⟩ := (Option.any_eq_true _ _).mp quoted
    obtain ⟨rest, rfl⟩ := List.head?_eq_some_iff.mp head
    have other : '+' ∉ ['\'', '"', '\x60'] := by
      decide
    have later : '+' ∈ rest := by
      rcases List.mem_cons.mp plus with rfl | later
      · exact absurd (List.contains_iff_mem.mp quote) other
      · exact later
    obtain ⟨between, more, rfl⟩ := List.append_of_mem later
    obtain ⟨front, rfl⟩ := (List.mem_tails _ _).mp suffix
    refine ⟨mark :: (between ++ ['+']), ⟨front, more, by simp⟩, mark,
      List.contains_iff_mem.mp quote, between, fun feed => plain ?_, rfl⟩
    simp [feed]
  · rintro ⟨_, within, mark, quote, between, -, rfl⟩
    obtain ⟨more, among⟩ := exists_append_mem_tails within
    exact ⟨_, among, List.contains_iff_mem.mpr quote, by simp⟩

/-! ## Format strings -/

theorem lastOr_mark (before : Option Char) (mark : Char) (between : List Char) :
    lastOr (lastOr before [mark]) between = (mark :: between).getLast? := by
  rw [← lastOr_append, lastOr, List.singleton_append, List.getLast?_cons, Option.some_or]

theorem matches_formatString_iff :
    Matches (sequence [wordEdge, text "f", one Rule.stringQuote, Rule.anything, Rule.sqlVerb,
        Rule.anything, text "\x7b", one .word]) before part after ↔
      StartsWord before ∧ ∃ mark ∈ ['\'', '"'], ∃ between, '\n' ∉ between ∧
        StartsWord (mark :: between).getLast? ∧ ∃ verb ∈ sqlVerbs, ∃ blank, isBlank blank = true ∧
          ∃ between' value, '\n' ∉ between' ∧ isWord value = true ∧
            part = 'f' :: mark :: (between ++ (verb.toList ++
              blank :: (between' ++ ['\x7b', value]))) := by
  have reads (before : Option Char) (part after : List Char) :
      Matches (sequence [text "\x7b", one .word]) before part after ↔
        ∃ value, isWord value = true ∧ part = ['\x7b', value] := by
    simp only [matches_sequence_cons_iff, matches_sequence_nil_iff, matches_text_iff,
      matches_one_iff, CharClass.contains]
    constructor
    · rintro ⟨_, _, rfl, rfl, _, _, rfl, ⟨value, word, rfl⟩, rfl⟩
      exact ⟨value, word, rfl⟩
    · rintro ⟨value, word, rfl⟩
      exact ⟨_, [value], rfl, rfl, _, [], rfl, ⟨value, word, rfl⟩, rfl⟩
  have statement (before : Option Char) (part after : List Char) :=
    @matches_behindVerb_iff _ _ reads before part after
  have word : isWord 'f' = true := by
    decide
  generalize [Rule.sqlVerb, Rule.anything, text "\x7b", one .word] = rest at statement ⊢
  simp only [matches_sequence_cons_iff, matches_wordEdge_iff, matches_text_iff, matches_one_iff,
    matches_anything_iff, Rule.stringQuote, CharClass.contains, List.contains_iff_mem, statement]
  constructor
  · rintro ⟨_, _, rfl, ⟨rfl, edge⟩, _, _, rfl, rfl, _, _, rfl, ⟨mark, quote, rfl⟩, between, _, rfl,
      plain, start', verb, listed, blank, isBlank, between', _, plain', ⟨value, isWord, rfl⟩, rfl⟩
    rw [lastOr_mark] at start'
    exact ⟨(isEdge_iff_startsWord word).mp edge, mark, quote, between, plain, start', verb, listed,
      blank, isBlank, between', value, plain', isWord, rfl⟩
  · rintro ⟨start, mark, quote, between, plain, start', verb, listed, blank, isBlank, between',
      value, plain', isWord, rfl⟩
    rw [← lastOr_mark (lastOr (lastOr before []) ['f'])] at start'
    exact ⟨[], _, rfl, ⟨rfl, (isEdge_iff_startsWord word).mpr start⟩, _, _, rfl, rfl, [mark], _,
      rfl, ⟨mark, quote, rfl⟩, between, _, rfl, plain, start', verb, listed, blank, isBlank,
      between', _, plain', ⟨value, isWord, rfl⟩, rfl⟩

theorem occurs_formatString_iff {line : String} (plain : '\n' ∉ line.toList) :
    (sequence [wordEdge, text "f", one Rule.stringQuote, Rule.anything, Rule.sqlVerb, Rule.anything,
        text "\x7b", one .word]).Occurs line ↔
      ∃ front mark quoted behind value, StartsWord front.getLast? ∧ mark ∈ ['\'', '"'] ∧
        line.toList = front ++ 'f' :: mark :: quoted ∧ VerbBefore (mark :: quoted) behind ∧
          isWord value = true ∧ ['\x7b', value] <:+: behind := by
  simp only [occurs_iff, matches_formatString_iff]
  constructor
  · rintro ⟨front, _, after, split, start, mark, quote, between, -, start', verb, listed, blank,
      isBlank, between', value, -, word, rfl⟩
    refine ⟨front, mark,
      between ++ (verb.toList ++ blank :: (between' ++ '\x7b' :: value :: after)),
      between' ++ '\x7b' :: value :: after, value, start, quote, ?_,
      ⟨mark :: between, verb, listed, blank, start', isBlank, rfl⟩, word,
      ⟨between', after, by simp⟩⟩
    rw [split]
    simp
  · rintro ⟨front, mark, quoted, _, value, start, quote, split, verbAt, word, between', after, rfl⟩
    obtain ⟨front', verb, listed, blank, start', isBlank, split'⟩ := verbAt
    cases front' with
    | nil =>
      obtain ⟨c, head, letter⟩ :=
        head_of_verb listed (blank :: (between' ++ ['\x7b', value] ++ after))
      rw [List.nil_append] at split'
      rw [← split'] at head
      cases head
      have quotes : ['\'', '"'].any isWord = false := by
        decide
      exact absurd letter (List.any_eq_false.mp quotes mark quote)
    | cons c between =>
      obtain ⟨rfl, rfl⟩ := List.cons.inj split'
      refine ⟨front, _, after, ?_, start, mark, quote, between, ?_, start', verb, listed, blank,
        isBlank, between', value, ?_, word, rfl⟩
      · rw [split]
        simp
      · exact fun feed => plain (by rw [split]; simp [feed])
      · exact fun feed => plain (by rw [split]; simp [feed])

/-! ## The rule -/

/-- A pattern of the rule occurs in a line just if the line is one of those described above. -/
theorem occurs_sqlConcatenation_iff {line : String} (plain : '\n' ∉ line.toList) :
    (∃ p ∈ Rule.sqlConcatenation.patterns, p.Occurs line) ↔ Assembled line.toList := by
  have joined := occurs_behindVerb_iff (fun _ _ _ => matches_concatenation_iff) plain
  have opened := occurs_behindVerb_iff (fun _ _ _ => matches_interpolation_iff) plain
  have percent := occurs_behindVerb_iff (fun _ _ _ => matches_percent_iff) plain
  have called := occurs_behindVerb_iff (fun _ _ _ => matches_formatCall_iff) plain
  have quoted := occurs_formatString_iff plain
  simp only [Rule.sqlConcatenation, List.mem_cons, List.not_mem_nil, or_false, exists_eq_or_imp,
    exists_eq_left]
  rw [joined, opened, percent, called, quoted]
  have behindPlain {behind : List Char} (verb : VerbBefore line.toList behind) : '\n' ∉ behind :=
    fun feed => plain (verb.suffix.subset feed)
  constructor
  · rintro (⟨behind, verb, found⟩ | ⟨behind, verb, _, within, rfl⟩ |
      ⟨behind, verb, _, within, mark, quote, gap, gap', value, blank, blank', begins, rfl⟩ |
      ⟨behind, verb, _, within, gap, blank, rfl⟩ |
      ⟨front, mark, rest, behind, value, start, quote, split, verb, word, within⟩)
    · exact .behindVerb verb (.concatenation ((concatenates_iff (behindPlain verb)).mpr found))
    · exact .behindVerb verb (.interpolation within)
    · exact .behindVerb verb (.percent quote blank blank' begins within)
    · exact .behindVerb verb (.formatCall blank within)
    · exact .formatString start quote split verb word within
  · rintro (⟨verb, parts⟩ | ⟨start, quote, split, verb, word, within⟩)
    · cases parts with
      | concatenation found =>
        exact Or.inl ⟨_, verb, (concatenates_iff (behindPlain verb)).mp found⟩
      | interpolation within => exact Or.inr (Or.inl ⟨_, verb, _, within, rfl⟩)
      | percent quote blank blank' begins within =>
        exact Or.inr (Or.inr (Or.inl
          ⟨_, verb, _, within, _, quote, _, _, _, blank, blank', begins, rfl⟩))
      | formatCall blank within =>
        exact Or.inr (Or.inr (Or.inr (Or.inl ⟨_, verb, _, within, _, blank, rfl⟩)))
    · exact Or.inr (Or.inr (Or.inr (Or.inr
        ⟨_, _, _, _, _, start, quote, split, verb, word, within⟩)))

theorem mem_categories_sqlInjection_iff {content filePath : String} :
    .sqlInjection ∈ ((standard []).detect content filePath).categories ↔
      ∃ line ∈ lines content, Assembled line.toList := by
  have only : Rule.builtin.filter (fun rule => rule.category = .sqlInjection) =
      [.sqlConcatenation] := by
    decide
  rw [mem_categories_standard_iff, only]
  simp only [List.mem_singleton, exists_eq_left]
  refine exists_congr fun line => and_congr_right fun among => ?_
  refine occurs_sqlConcatenation_iff fun feed => ?_
  cases inside_of_mem_lines among _ feed

/-- A template marker or a quote with a plus sign behind it is reported on the line of an SQL verb
when it stands behind the verb and its white space. Statements are reported exactly for the texts
that have a line of one of the described forms. -/
theorem detect_statements (content filePath : String) :
    let verdict := (standard []).detect content filePath
    (∀ line ∈ lines content, ∀ behind, VerbBefore line.toList behind →
        HoldsMarker behind ∨ Concatenates behind → .sqlInjection ∈ verdict.categories) ∧
      (.sqlInjection ∈ verdict.categories ↔ ∃ line ∈ lines content, Assembled line.toList) := by
  intro verdict
  refine ⟨fun line among behind verb sign => ?_, mem_categories_sqlInjection_iff⟩
  refine mem_categories_sqlInjection_iff.mpr ⟨line, among, .behindVerb verb ?_⟩
  rcases sign with marker | joined
  · obtain ⟨inside, -, within⟩ := holdsMarker_iff.mp marker
    exact .interpolation ((List.prefix_append markerOpening _).isInfix.trans within)
  · exact .concatenation joined

/-- A quote that closes the text of the statement stands behind the verb. -/
theorem detect_statements_closing_quote :
    let content := "let a;\nquery(\"DELETE FROM t WHERE id='\" + id)"
    VerbBefore "query(\"DELETE FROM t WHERE id='\" + id)".toList
        "FROM t WHERE id='\" + id)".toList ∧
      Concatenates "FROM t WHERE id='\" + id)".toList ∧
      .sqlInjection ∈ ((standard []).detect content "a.js").categories := by
  intro content
  have among : "query(\"DELETE FROM t WHERE id='\" + id)" ∈ lines content := by
    decide
  have verb : VerbBefore "query(\"DELETE FROM t WHERE id='\" + id)".toList
      "FROM t WHERE id='\" + id)".toList :=
    ⟨"query(\"".toList, "DELETE", by simp [sqlVerbs], ' ', by decide, by decide,
      by decide⟩
  have joined : Concatenates "FROM t WHERE id='\" + id)".toList := by
    decide
  exact ⟨verb, joined, (detect_statements content "a.js").1 _ among _ verb (Or.inr joined)⟩

/-- What stands before the verb is no sign of a statement put together: neither a marker, nor a
quote that has its plus sign behind the verb, although all of it is on the line of the verb. -/
theorem parts_before_verb_missed :
    let content := "`$\x7bhint\x7d SELECT name`\n'SELECT name + hint"
    (∃ line ∈ lines content, (∃ behind, VerbBefore line.toList behind) ∧
        HoldsMarker line.toList) ∧
      (∃ line ∈ lines content, (∃ behind, VerbBefore line.toList behind) ∧
        Concatenates line.toList) ∧
      .sqlInjection ∉ ((standard []).detect content "a.js").categories := by
  intro content
  have verb : VerbBefore "`$\x7bhint\x7d SELECT name`".toList "name`".toList :=
    ⟨"`$\x7bhint\x7d ".toList, "SELECT", by simp [sqlVerbs], ' ', by decide, by decide,
      by decide⟩
  have verb' : VerbBefore "'SELECT name + hint".toList "name + hint".toList :=
    ⟨"'".toList, "SELECT", by simp [sqlVerbs], ' ', by decide, by decide, by decide⟩
  refine ⟨⟨_, ?_, ⟨_, verb⟩, by decide⟩, ⟨_, ?_, ⟨_, verb'⟩, by decide⟩, ?_⟩
  · decide
  · decide
  · decide +kernel

end Remedy.Detector
