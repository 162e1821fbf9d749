import Remedy.Proofs.Completion.Fences

/-!
# Echoes

A completion that says what the file holds already, plainly or in a block of code, is an echo. It
is recognized by comparing the file with its artifact, which was cleaned and given one line
terminator. An echo is therefore recognized exactly for a text without fences that is trimmed up
to one line terminator at its end.
-/

set_option autoImplicit false

namespace Remedy.Completion

open Text

theorem clean_toList (text : String) : (clean text).toList = cleanChars text.toList :=
  String.toList_ofList

theorem strip_toList (text : String) : (strip text).toList = stripChars text.toList :=
  String.toList_ofList

/-! ## Line terminators -/

theorem isBlank_lineFeed : isBlank '\n' = true := by
  decide

theorem isBlank_return : isBlank '\r' = true := by
  decide

theorem endsWith_iff (text ending : String) :
    endsWith text ending = true ↔ ending.toList <:+ text.toList := by
  rw [endsWith, List.isSuffixOf_iff_suffix]

theorem endsWith_append (text ending : String) : endsWith (text ++ ending) ending = true := by
  rw [endsWith_iff, String.toList_append]
  exact List.suffix_append _ _

theorem endsWith_of_trimmed {text ending : String} (trimmed : Trimmed text.toList) {c : Char}
    (last : ending.toList.getLast? = some c) (blank : isBlank c = true) :
    endsWith text ending = false := by
  rw [← Bool.not_eq_true, endsWith_iff]
  rintro ⟨front, whole⟩
  have lastToo : text.toList.getLast? = some c := by
    rw [← whole, List.getLast?_append, last]
    rfl
  rw [trimmed.2 c lastToo] at blank
  cases blank

theorem endsWith_pair_of_trimmed {text : String} (trimmed : Trimmed text.toList) :
    endsWith (text ++ "\n") "\r\n" = false := by
  rw [← Bool.not_eq_true, endsWith_iff, String.toList_append]
  rintro ⟨front, whole⟩
  have split : front ++ ['\r'] = text.toList := by
    have assoc : (front ++ ['\r']) ++ ['\n'] = text.toList ++ ['\n'] := by
      rw [List.append_assoc]
      exact whole
    exact List.append_cancel_right assoc
  have last : text.toList.getLast? = some '\r' := by
    rw [← split]
    exact List.getLast?_concat
  exact absurd (trimmed.2 _ last) (by simp [isBlank_return])

theorem restoreEnding_eq_iff {before artifact : String} (trimmed : Trimmed artifact.toList) :
    restoreEnding before artifact = before ↔
      before = artifact ∨ before = artifact ++ "\n" ∨ before = artifact ++ "\r\n" := by
  have bare (ending : String) (last : ending.toList.getLast? = some '\n') :
      endsWith artifact ending = false :=
    endsWith_of_trimmed trimmed last isBlank_lineFeed
  constructor
  · intro restored
    simp only [restoreEnding, bare "\n" rfl, Bool.false_eq_true, if_false] at restored
    split at restored
    · exact Or.inr (Or.inr restored.symm)
    · split at restored
      · exact Or.inr (Or.inl restored.symm)
      · exact Or.inl restored.symm
  · rintro (rfl | rfl | rfl)
    · simp only [restoreEnding, bare "\n" rfl, bare "\r\n" rfl, Bool.false_eq_true, if_false]
    · simp only [restoreEnding, bare "\n" rfl, endsWith_pair_of_trimmed trimmed, endsWith_append,
        Bool.false_eq_true, if_false, if_true]
    · simp only [restoreEnding, bare "\n" rfl, endsWith_append, Bool.false_eq_true, if_false,
        if_true]

/-! ## Recognition -/

/-- A completion that says what a file holds: the text as it stands, or in a block of code whose
opening fence may have a tag. -/
inductive IsEcho (content : String) : String → Prop where
  | plain : IsEcho content content
  | fenced (tag : String) : (∀ c ∈ tag.toList, isTagChar c = true) →
      IsEcho content ("\x60\x60\x60" ++ tag ++ "\n" ++ content ++ "\x60\x60\x60")

/-- A text that has no fence and no white space at its ends but one line terminator. -/
def Settled (content : String) : Prop :=
  Fenceless content.toList ∧
    (content = strip content ∨ content = strip content ++ "\n" ∨
      content = strip content ++ "\r\n")

theorem clean_echo {content completion : String} (echo : IsEcho content completion)
    (fenceless : Fenceless content.toList) : clean completion = strip content := by
  apply String.toList_injective
  rw [clean_toList, strip_toList]
  cases echo with
  | plain => exact cleanChars_of_fenceless fenceless
  | fenced tag tagged =>
    have spelled : ("\x60\x60\x60" ++ tag ++ "\n" ++ content ++ "\x60\x60\x60").toList =
        fence ++ (tag.toList ++ '\n' :: (content.toList ++ fence)) := by
      simp [fence]
    rw [spelled]
    exact cleanChars_block tagged fenceless

theorem trimmed_clean (text : String) : Trimmed (clean text).toList := by
  rw [clean_toList]
  exact trimmed_cleanChars _

theorem fenceless_clean (text : String) : Fenceless (clean text).toList := by
  rw [clean_toList]
  exact fenceless_cleanChars _

theorem settled_of_append {artifact : String} (trimmed : Trimmed artifact.toList)
    (fenceless : Fenceless artifact.toList) :
    Settled artifact ∧ Settled (artifact ++ "\n") ∧ Settled (artifact ++ "\r\n") := by
  have stripped (ending : String) (blank : ∀ c ∈ ending.toList, isBlank c = true) :
      strip (artifact ++ ending) = artifact := by
    apply String.toList_injective
    rw [strip_toList, String.toList_append, stripChars_append trimmed blank]
  have still : Fenceless (artifact.toList ++ ['\n']) ∧
      Fenceless (artifact.toList ++ ['\r'] ++ ['\n']) :=
    ⟨fenceless.concat (by decide), (fenceless.concat (by decide)).concat (by decide)⟩
  refine ⟨⟨fenceless, Or.inl ?_⟩, ⟨?_, Or.inr (Or.inl ?_)⟩, ⟨?_, Or.inr (Or.inr ?_)⟩⟩
  · apply String.toList_injective
    rw [strip_toList, stripChars_of_trimmed trimmed]
  · rw [String.toList_append]
    exact still.1
  · rw [stripped "\n" (by simp [isBlank_lineFeed])]
  · rw [String.toList_append]
    simpa using still.2
  · rw [stripped "\r\n" (by simp [isBlank_lineFeed, isBlank_return])]

theorem restoreEnding_clean_echo_iff {content completion : String}
    (echo : IsEcho content completion) :
    restoreEnding content (clean completion) = content ↔ Settled content := by
  rw [restoreEnding_eq_iff (trimmed_clean completion)]
  constructor
  · intro same
    obtain ⟨bare, single, pair⟩ :=
      settled_of_append (trimmed_clean completion) (fenceless_clean completion)
    rcases same with rfl | rfl | rfl
    · exact bare
    · exact single
    · exact pair
  · rintro ⟨fenceless, shape⟩
    rw [clean_echo echo fenceless]
    exact shape

end Remedy.Completion
