import Remedy.Proofs.Text.Newlines

/-!
# Texts put together

Where the first of two texts ends with a boundary of lines, the lines of both together are the
lines of the first and then those of the second; only a carriage return and a line feed must not
meet where they join. Texts that are lines themselves are therefore the lines of what they make up.
A text that does not end with a boundary keeps its lines as well when a line feed and more text are
put behind it.
-/

set_option autoImplicit false

namespace Remedy.Text

namespace Line

def Terminated (text : List Char) : Prop :=
  ∀ c ∈ text.getLast?, isLineEnd c = true

theorem terminated_of_feed {text : List Char} (last : text.getLast? = some '\n') :
    Terminated text := by
  intro c isLast
  rw [last] at isLast
  cases isLast
  rfl

theorem getLast?_cons_of_some {c d : Char} {rest : List Char} (last : rest.getLast? = some d) :
    (c :: rest).getLast? = some d := by
  rw [List.getLast?_cons, last]
  rfl

theorem Terminated.tail {c : Char} {rest : List Char} (terminated : Terminated (c :: rest)) :
    Terminated rest :=
  fun d last => terminated d (getLast?_cons_of_some last)

theorem split_ne_nil {text : List Char} (notEmpty : text ≠ []) : split text ≠ [] := by
  intro nothing
  have whole := chars_split text
  rw [nothing] at whole
  exact notEmpty whole.symm

theorem consChar_append (c : Char) {lines : List Line} (notEmpty : lines ≠ [])
    (more : List Line) : consChar c (lines ++ more) = consChar c lines ++ more := by
  cases lines with
  | nil => exact absurd rfl notEmpty
  | cons line rest => rfl

/-- Two texts have their lines one after the other when a boundary stands between them. -/
theorem split_append {text rest : List Char} (terminated : Terminated text)
    (apart : text.getLast? = some '\r' → rest.head? ≠ some '\n') :
    split (text ++ rest) = split text ++ split rest := by
  fun_induction split text with
  | case1 => rfl
  | case2 more ih =>
    rw [List.cons_append, List.cons_append, split_pair, List.cons_append, ih terminated.tail.tail]
    exact fun last => apart (getLast?_cons_of_some (getLast?_cons_of_some last))
  | case3 c more notPair ends ih =>
    have later : split (more ++ rest) = split more ++ split rest :=
      ih terminated.tail fun last => apart (getLast?_cons_of_some last)
    rw [List.cons_append, split_of_lineEnd ends, List.cons_append, later]
    rintro rfl head
    cases more with
    | nil => exact apart rfl head
    | cons d more =>
      cases head
      exact notPair more rfl rfl
  | case4 c more notPair inside ih =>
    have notEmpty : more ≠ [] := by
      rintro rfl
      exact inside (terminated c rfl)
    have later : split (more ++ rest) = split more ++ split rest :=
      ih terminated.tail fun last => apart (getLast?_cons_of_some last)
    rw [List.cons_append, split_of_not_lineEnd (eq_false_of_ne_true inside), later,
      consChar_append c (split_ne_nil notEmpty)]

/-- What the lines of a text say is still said when a line feed and more stand behind it. -/
theorem bodies_prefix_append (text rest : List Char) :
    (split text).map body <+: (split (text ++ '\n' :: rest)).map body := by
  fun_induction split text with
  | case1 => exact List.nil_prefix
  | case2 more ih =>
    rw [List.cons_append, List.cons_append, split_pair, List.map_cons, List.map_cons]
    exact List.prefix_cons_inj _ |>.mpr ih
  | case3 c more notPair ends ih =>
    -- A carriage return at the end makes a pair with the line feed, and the line is the same.
    by_cases pair : c = '\r' ∧ more = []
    · obtain ⟨rfl, rfl⟩ := pair
      exact ⟨(split rest).map body, rfl⟩
    · rw [List.cons_append, split_of_lineEnd ends, List.map_cons, List.map_cons]
      · exact List.prefix_cons_inj _ |>.mpr ih
      · rintro rfl head
        cases more with
        | nil => exact pair ⟨rfl, rfl⟩
        | cons d more =>
          cases head
          exact notPair more rfl rfl
  | case4 c more notPair inside ih =>
    rw [List.cons_append, split_of_not_lineEnd (eq_false_of_ne_true inside)]
    cases more with
    | nil => exact ⟨(split rest).map body, rfl⟩
    | cons d more =>
      obtain ⟨first, later, lines⟩ := List.exists_cons_of_ne_nil
        (split_ne_nil (List.cons_ne_nil d more))
      obtain ⟨first', later', lines'⟩ := List.exists_cons_of_ne_nil
        (split_ne_nil (List.cons_ne_nil d (more ++ '\n' :: rest)))
      rw [List.cons_append, lines, lines', List.map_cons, List.map_cons,
        List.cons_prefix_cons] at ih
      rw [List.cons_append, lines, lines']
      simp only [consChar, List.map_cons]
      rw [ih.1]
      exact (List.prefix_cons_inj _).mpr ih.2

def Whole (line : Line) : Prop :=
  (∀ c ∈ line.body, isLineEnd c = false) ∧
    (line.ending = ['\r', '\n'] ∨ ∃ c, isLineEnd c = true ∧ line.ending = [c])

theorem Whole.cons {line : Line} (whole : line.Whole) {c : Char} (inside : isLineEnd c = false) :
    Whole ⟨c :: line.body, line.ending⟩ :=
  ⟨List.forall_mem_cons.mpr ⟨inside, whole.1⟩, whole.2⟩

theorem split_chars {line : Line} (whole : line.Whole) : split line.chars = [line] := by
  obtain ⟨body, ending⟩ := line
  obtain ⟨inside, ends⟩ := whole
  induction body with
  | nil =>
    rcases ends with rfl | ⟨c, isEnd, rfl⟩
    · rfl
    · exact split_of_lineEnd isEnd (by simp)
  | cons c rest ih =>
    obtain ⟨first, more⟩ := List.forall_mem_cons.mp inside
    have later := ih more ends
    rw [chars, List.cons_append, split_of_not_lineEnd first]
    rw [chars] at later
    rw [later]
    rfl

theorem Whole.chars_ne_nil {line : Line} (whole : line.Whole) : line.chars ≠ [] := by
  rcases whole.2 with pair | ⟨c, -, single⟩
  · simp [chars, pair]
  · simp [chars, single]

theorem Whole.terminated {line : Line} (whole : line.Whole) : Terminated line.chars := by
  intro c last
  rcases whole.2 with pair | ⟨d, isEnd, single⟩
  · rw [chars, pair, List.getLast?_append] at last
    cases last
    rfl
  · rw [chars, single, List.getLast?_append] at last
    cases last
    exact isEnd

theorem whole_of_mem_split {text : List Char} (terminated : Terminated text) :
    ∀ line ∈ split text, line.Whole := by
  fun_induction split text with
  | case1 => exact List.forall_mem_nil _
  | case2 rest ih =>
    exact List.forall_mem_cons.mpr
      ⟨⟨List.forall_mem_nil _, Or.inl rfl⟩, ih terminated.tail.tail⟩
  | case3 c rest notPair ends ih =>
    exact List.forall_mem_cons.mpr
      ⟨⟨List.forall_mem_nil _, Or.inr ⟨c, ends, rfl⟩⟩, ih terminated.tail⟩
  | case4 c rest notPair inside ih =>
    have notEmpty : rest ≠ [] := by
      rintro rfl
      exact inside (terminated c rfl)
    obtain ⟨first, later, lines⟩ := List.exists_cons_of_ne_nil (split_ne_nil notEmpty)
    have all := ih terminated.tail
    rw [lines] at all ⊢
    obtain ⟨whole, others⟩ := List.forall_mem_cons.mp all
    exact List.forall_mem_cons.mpr ⟨whole.cons (eq_false_of_ne_true inside), others⟩

end Line

open Line

theorem lines_append {front : String} (aligned : front = "" ∨ ∃ text, front = text ++ "\n")
    (rest : String) : lines (front ++ rest) = lines front ++ lines rest := by
  have joined : split (front.toList ++ rest.toList) = split front.toList ++ split rest.toList := by
    rcases aligned with rfl | ⟨text, rfl⟩
    · rfl
    · have last : (text ++ "\n").toList.getLast? = some '\n' := by
        rw [String.toList_append]
        exact List.getLast?_concat
      apply split_append (terminated_of_feed last)
      rw [last]
      exact fun other => absurd other (by decide)
  rw [lines, String.toList_append, joined, List.map_append]
  rfl

theorem lines_prefix_append (text rest : String) :
    lines text <+: lines (text ++ "\n" ++ rest) := by
  have bodies := (bodies_prefix_append text.toList rest.toList).map String.ofList
  rw [List.map_map, List.map_map] at bodies
  rw [lines, lines, String.append_assoc, String.toList_append, String.toList_append]
  exact bodies

/-! ## Texts that are lines -/

/-- A text that stands as one line among others: it has its ending and no other boundary, and it
does not begin with the line feed that would make a pair with a carriage return. -/
structure IsLine (text : String) : Prop where
  whole : ∃ line : Line, line.Whole ∧ line.chars = text.toList
  begins : text.toList.head? ≠ some '\n'

theorem IsLine.ne_empty {text : String} (isLine : IsLine text) : text.toList ≠ [] := by
  obtain ⟨line, whole, chars⟩ := isLine.whole
  rw [← chars]
  exact whole.chars_ne_nil

theorem linesWithEndings_join {texts : List String} (all : ∀ text ∈ texts, IsLine text) :
    linesWithEndings (String.join texts) = texts := by
  rw [linesWithEndings, String.toList_join]
  induction texts with
  | nil => rfl
  | cons text rest ih =>
    obtain ⟨isLine, others⟩ := List.forall_mem_cons.mp all
    obtain ⟨line, whole, chars⟩ := isLine.whole
    have apart : (rest.flatMap String.toList).head? ≠ some '\n' := by
      cases rest with
      | nil => exact fun none => nomatch none
      | cons second more =>
        have next := others second (List.mem_cons_self ..)
        obtain ⟨c, behind, begins⟩ := List.exists_cons_of_ne_nil next.ne_empty
        have different := next.begins
        rw [begins] at different
        rw [List.flatMap_cons, begins]
        exact different
    rw [List.flatMap_cons, ← chars, split_append whole.terminated fun _ => apart,
      split_chars whole, List.map_append, ih others, List.map_singleton, chars,
      String.ofList_toList]
    rfl

theorem ne_feed_of_inside {c : Char} (inside : isLineEnd c = false) : c ≠ '\n' := by
  rintro rfl
  cases inside

theorem isLine_mark {mark : Char} (inside : isLineEnd mark = false) {whole line : String}
    (terminated : Terminated whole.toList) (member : line ∈ linesWithEndings whole) :
    IsLine (mark.toString ++ line) := by
  obtain ⟨parts, among, rfl⟩ := List.mem_map.mp member
  refine ⟨⟨_, (whole_of_mem_split terminated parts among).cons inside, ?_⟩, ?_⟩
  · simp [chars]
  · simpa using ne_feed_of_inside inside

theorem isLine_feed {text : String} (notEmpty : text ≠ "")
    (inside : ∀ c ∈ text.toList, isLineEnd c = false) : IsLine (text ++ "\n") := by
  refine ⟨⟨⟨text.toList, ['\n']⟩, ⟨inside, Or.inr ⟨'\n', rfl, rfl⟩⟩, ?_⟩, ?_⟩
  · simp [chars]
  · obtain ⟨c, rest, begins⟩ := List.exists_cons_of_ne_nil
      fun nothing => notEmpty (String.toList_eq_nil_iff.mp nothing)
    rw [String.toList_append, begins]
    rw [begins] at inside
    intro feed
    exact ne_feed_of_inside (inside c (List.mem_cons_self ..)) (Option.some.inj feed)

/-- Names without boundaries are the lines of a text in which a line feed stands behind each. -/
theorem lines_join_feeds {names : List String}
    (inside : ∀ name ∈ names, ∀ c ∈ name.toList, isLineEnd c = false) :
    lines (String.join (names.map fun name => name ++ "\n")) = names := by
  rw [lines, String.toList_join, List.flatMap_map]
  induction names with
  | nil => rfl
  | cons name rest ih =>
    obtain ⟨first, others⟩ := List.forall_mem_cons.mp inside
    have whole : Whole ⟨name.toList, ['\n']⟩ := ⟨first, Or.inr ⟨'\n', rfl, rfl⟩⟩
    have line : split (name ++ "\n").toList = [⟨name.toList, ['\n']⟩] := by
      rw [String.toList_append]
      exact split_chars whole
    have last : (name ++ "\n").toList.getLast? = some '\n' := by
      rw [String.toList_append]
      exact List.getLast?_concat
    have apart : (name ++ "\n").toList.getLast? ≠ some '\r' := by
      rw [last]
      decide
    rw [List.flatMap_cons, split_append (terminated_of_feed last) fun pair => absurd pair apart,
      line, List.map_append, ih others, List.map_singleton, String.ofList_toList]
    rfl

end Remedy.Text
