import Mathlib.Data.List.Forall2
import Remedy.Proofs.Generator.Statuses

/-!
# Answers that are not trusted

The body of a response of success may hold any document. What it says is stated on documents: which
parts the first candidate has, and which text a part holds. The completion is made of exactly these
texts (`candidateText_of_hold`, `hold_of_candidateText`), so that a document of another shape is a
failure of the service, and never an empty completion. A document nested too deep is neither.
-/

set_option autoImplicit false

namespace Remedy

open Service (truthy)
open Text (Point points)

/-! ## The shape of an answer -/

namespace Json

/-- A part holds a text. One without a text, or with one that counts as false, holds the empty
text. -/
inductive PartHolds : Reply → List Point → Prop where
  | text {members : Reply.Members} {text : List Point}
      (found : members.lookup (points "text") = some (.str text)) : PartHolds (.obj members) text
  | absent {members : Reply.Members} (missing : members.lookup (points "text") = none) :
      PartHolds (.obj members) []
  | falsy {members : Reply.Members} {value : Reply}
      (found : members.lookup (points "text") = some value) (empty : truthy value = false) :
      PartHolds (.obj members) []

/-- The parts of a content. One without parts, or with an empty text or object in their place, has
none. -/
inductive ContentHolds : Reply → List Reply → Prop where
  | parts {members : Reply.Members} {parts : List Reply}
      (found : members.lookup (points "parts") = some (.arr parts)) :
      ContentHolds (.obj members) parts
  | absent {members : Reply.Members} (missing : members.lookup (points "parts") = none) :
      ContentHolds (.obj members) []
  | emptyText {members : Reply.Members}
      (found : members.lookup (points "parts") = some (.str [])) : ContentHolds (.obj members) []
  | emptyObject {members : Reply.Members}
      (found : members.lookup (points "parts") = some (.obj [])) : ContentHolds (.obj members) []

/-- The content of a candidate, which is empty if the candidate has none. -/
inductive CandidateHolds : Reply → Reply → Prop where
  | content {members : Reply.Members} {content : Reply}
      (found : members.lookup (points "content") = some content) :
      CandidateHolds (.obj members) content
  | absent {members : Reply.Members} (missing : members.lookup (points "content") = none) :
      CandidateHolds (.obj members) (.obj [])

def FirstHolds (candidates : Reply) (parts : List Reply) : Prop :=
  ∃ first rest content, candidates = .arr (first :: rest) ∧ first.CandidateHolds content ∧
    content.ContentHolds parts

def CandidatesHold (candidates : Reply) (texts : List (List Point)) : Prop :=
  ∃ parts, candidates.FirstHolds parts ∧ List.Forall₂ PartHolds parts texts

/-- Candidates that are of the wrong kind at one of the five levels, where what stands there is not
taken for nothing because it counts as false. -/
inductive Misshapen : Reply → Prop where
  | candidates {candidates : Reply} (filled : truthy candidates = true)
      (wrong : ∀ items, candidates ≠ .arr items) : Misshapen candidates
  | candidate {first : Reply} {rest : List Reply} (wrong : ∀ members, first ≠ .obj members) :
      Misshapen (.arr (first :: rest))
  | content {first content : Reply} {rest : List Reply} (holds : first.CandidateHolds content)
      (wrong : ∀ members, content ≠ .obj members) : Misshapen (.arr (first :: rest))
  | parts {first parts : Reply} {rest : List Reply} {members : Reply.Members}
      (holds : first.CandidateHolds (.obj members))
      (found : members.lookup (points "parts") = some parts)
      (filled : truthy parts = true) (wrong : ∀ items, parts ≠ .arr items) :
      Misshapen (.arr (first :: rest))
  | part {candidates part : Reply} {parts : List Reply} (holds : candidates.FirstHolds parts)
      (member : part ∈ parts) (wrong : ∀ members, part ≠ .obj members) : Misshapen candidates
  | text {candidates text : Reply} {parts : List Reply} {members : Reply.Members}
      (holds : candidates.FirstHolds parts) (member : .obj members ∈ parts)
      (found : members.lookup (points "text") = some text) (filled : truthy text = true)
      (wrong : ∀ s, text ≠ .str s) : Misshapen candidates

theorem CandidateHolds.unique {candidate a b : Reply} (first : candidate.CandidateHolds a)
    (second : candidate.CandidateHolds b) : a = b := by
  cases first with
  | content found =>
    cases second with
    | content foundToo => exact Option.some.inj (found.symm.trans foundToo)
    | absent missing => cases found.symm.trans missing
  | absent missing =>
    cases second with
    | content found => cases missing.symm.trans found
    | absent => rfl

theorem ContentHolds.unique {content : Reply} {a b : List Reply} (first : content.ContentHolds a)
    (second : content.ContentHolds b) : a = b := by
  cases first <;> rename_i found <;> cases second <;> rename_i foundToo <;>
    cases found.symm.trans foundToo <;> rfl

theorem FirstHolds.unique {candidates : Reply} {a b : List Reply}
    (first : candidates.FirstHolds a) (second : candidates.FirstHolds b) : a = b := by
  obtain ⟨candidate, rest, content, rfl, holds, inside⟩ := first
  obtain ⟨other, others, contentToo, same, holdsToo, insideToo⟩ := second
  obtain ⟨rfl, -⟩ : candidate = other ∧ rest = others := by
    cases same
    exact ⟨rfl, rfl⟩
  cases holds.unique holdsToo
  exact inside.unique insideToo

theorem partHolds_of_mem {parts : List Reply} {texts : List (List Point)}
    (hold : List.Forall₂ PartHolds parts texts) {part : Reply} (member : part ∈ parts) :
    ∃ text, part.PartHolds text := by
  have both : List.Forall₂ (fun a b => (∃ text, PartHolds a text) ∧ PartHolds a b) parts texts :=
    hold.imp fun _ text holds => ⟨⟨text, holds⟩, holds⟩
  exact ((List.forall₂_and_left _ _).mp both).1 part member

theorem Misshapen.not_hold {candidates : Reply} (misshapen : candidates.Misshapen)
    (texts : List (List Point)) : ¬ candidates.CandidatesHold texts := by
  rintro ⟨parts, holds, hold⟩
  obtain ⟨first, rest, content, rfl, candidate, inside⟩ := id holds
  cases misshapen with
  | candidates filled wrong => exact wrong _ rfl
  | candidate wrong => cases candidate <;> exact wrong _ rfl
  | content candidateToo wrong =>
    cases candidate.unique candidateToo
    cases inside <;> exact wrong _ rfl
  | parts candidateToo found filled wrong =>
    cases candidate.unique candidateToo
    cases inside with
    | parts foundToo => exact wrong _ (Option.some.inj (found.symm.trans foundToo))
    | absent missing => cases found.symm.trans missing
    | emptyText foundToo =>
      cases found.symm.trans foundToo
      cases filled
    | emptyObject foundToo =>
      cases found.symm.trans foundToo
      cases filled
  | part holdsToo member wrong =>
    cases holds.unique holdsToo
    obtain ⟨text, part⟩ := partHolds_of_mem hold member
    cases part <;> exact wrong _ rfl
  | text holdsToo member found filled wrong =>
    cases holds.unique holdsToo
    obtain ⟨text, part⟩ := partHolds_of_mem hold member
    cases part with
    | text foundToo => exact wrong _ (Option.some.inj (found.symm.trans foundToo))
    | absent missing => cases found.symm.trans missing
    | falsy foundToo empty =>
      cases found.symm.trans foundToo
      rw [empty] at filled
      cases filled

theorem Misshapen.truthy {candidates : Reply} (misshapen : candidates.Misshapen) :
    truthy candidates = true := by
  cases misshapen with
  | candidates filled wrong => exact filled
  | candidate wrong => rfl
  | content holds wrong => rfl
  | parts holds found filled wrong => rfl
  | part holds member wrong =>
    obtain ⟨first, rest, content, rfl, -⟩ := holds
    rfl
  | text holds member found filled wrong =>
    obtain ⟨first, rest, content, rfl, -⟩ := holds
    rfl

end Json

/-! ## Reading candidates -/

namespace Service

theorem exists_of_bind_eq_ok {ε α β : Type} {attempt : Except ε α} {next : α → Except ε β}
    {result : β} (done : attempt >>= next = .ok result) :
    ∃ a, attempt = .ok a ∧ next a = .ok result := by
  cases attempt with
  | error error => cases done
  | ok a => exact ⟨a, rfl, done⟩

theorem eq_obj_of_memberOr {reply value missing : Reply} {name : String}
    (read : memberOr reply name missing = .ok value) : ∃ members, reply = .obj members := by
  cases reply with
  | obj members => exact ⟨members, rfl⟩
  | _ => cases read

theorem partText_of_partHolds {part : Reply} {text : List Point} (holds : part.PartHolds text) :
    partText part = .ok (.str text) := by
  cases holds with
  | text found =>
    rw [partText, memberOr, found]
    cases text <;> rfl
  | absent missing =>
    rw [partText, memberOr, missing]
    rfl
  | falsy found empty =>
    rw [partText, memberOr, found]
    simp [Except.map, empty]

theorem partHolds_of_partText {part : Reply} {text : List Point}
    (read : partText part = .ok (.str text)) : part.PartHolds text := by
  rw [partText] at read
  cases given : memberOr part "text" (.str []) with
  | error fault =>
    rw [given] at read
    cases read
  | ok value =>
    obtain ⟨members, rfl⟩ := eq_obj_of_memberOr given
    rw [memberOr] at read
    cases found : members.lookup (points "text") with
    | none =>
      rw [found] at read
      cases read
      exact .absent found
    | some reply =>
      rw [found] at read
      simp only [Option.getD_some, Except.map, Except.ok.injEq] at read
      split at read
      · next filled =>
        cases read
        exact .text found
      · next empty =>
        cases read
        exact .falsy found (eq_false_of_ne_true empty)

theorem joined_of_hold {parts : List Reply} {texts : List (List Point)}
    (hold : List.Forall₂ Json.PartHolds parts texts) :
    parts.mapM partText = .ok (texts.map .str) ∧
      ∀ index, joinFrom index (texts.map .str) = .ok texts.flatten := by
  induction hold with
  | nil => exact ⟨rfl, fun _ => rfl⟩
  | cons holds _ ih =>
    obtain ⟨read, joined⟩ := ih
    constructor
    · rw [List.mapM_cons, partText_of_partHolds holds, read]
      rfl
    · intro index
      rw [List.map_cons, joinFrom, joined, List.flatten_cons]
      rfl

theorem hold_of_joined {parts values : List Reply} {index : Nat} {text : List Point}
    (read : parts.mapM partText = .ok values) (joined : joinFrom index values = .ok text) :
    ∃ texts, List.Forall₂ Json.PartHolds parts texts ∧ text = texts.flatten := by
  induction parts generalizing values index text with
  | nil =>
    cases read
    cases joined
    exact ⟨[], .nil, rfl⟩
  | cons part rest ih =>
    rw [List.mapM_cons] at read
    obtain ⟨value, first, read⟩ := exists_of_bind_eq_ok read
    obtain ⟨others, later, read⟩ := exists_of_bind_eq_ok read
    cases read
    cases value with
    | str s =>
      rw [joinFrom] at joined
      cases behind : joinFrom (index + 1) others with
      | error fault =>
        rw [behind] at joined
        cases joined
      | ok more =>
        rw [behind] at joined
        cases joined
        obtain ⟨texts, hold, rfl⟩ := ih later behind
        exact ⟨s :: texts, .cons (partHolds_of_partText first) hold, List.flatten_cons.symm⟩
    | _ => cases joined

theorem mapM_partText_ne_ok (s : List Point) (rest texts : List Reply) :
    (Json.str s :: rest).mapM partText ≠ .ok texts := by
  rw [List.mapM_cons]
  exact nofun

theorem memberOr_of_candidateHolds {candidate content : Reply}
    (holds : candidate.CandidateHolds content) :
    memberOr candidate "content" (.obj []) = .ok content := by
  cases holds with
  | content found => rw [memberOr, found, Option.getD_some]
  | absent missing => rw [memberOr, missing, Option.getD_none]

theorem candidateHolds_of_memberOr {candidate content : Reply}
    (read : memberOr candidate "content" (.obj []) = .ok content) :
    candidate.CandidateHolds content := by
  obtain ⟨members, rfl⟩ := eq_obj_of_memberOr read
  rw [memberOr] at read
  cases found : members.lookup (points "content") with
  | none =>
    rw [found] at read
    cases read
    exact .absent found
  | some content =>
    rw [found] at read
    cases read
    exact .content found

theorem visited_of_contentHolds {content : Reply} {parts : List Reply}
    (holds : content.ContentHolds parts) :
    ∃ place, memberOr content "parts" (.arr []) = .ok place ∧ visited place = .ok parts := by
  cases holds with
  | parts found =>
    rw [memberOr, found]
    exact ⟨_, rfl, rfl⟩
  | absent missing =>
    rw [memberOr, missing]
    exact ⟨_, rfl, rfl⟩
  | emptyText found =>
    rw [memberOr, found]
    exact ⟨_, rfl, rfl⟩
  | emptyObject found =>
    rw [memberOr, found]
    exact ⟨_, rfl, rfl⟩

/-- What stands in the place of parts, and whose members are read as parts, is an array or empty. -/
theorem contentHolds_of_visited {content place : Reply} {members texts : List Reply}
    (given : memberOr content "parts" (.arr []) = .ok place) (loop : visited place = .ok members)
    (read : members.mapM partText = .ok texts) : content.ContentHolds members := by
  obtain ⟨fields, rfl⟩ := eq_obj_of_memberOr given
  rw [memberOr] at given
  cases found : fields.lookup (points "parts") with
  | none =>
    rw [found] at given
    cases given
    cases loop
    exact .absent found
  | some reply =>
    rw [found] at given
    cases given
    rw [Option.getD_some] at loop
    cases reply with
    | arr items =>
      cases loop
      exact .parts found
    | str s =>
      cases loop
      cases s with
      | nil => exact .emptyText found
      | cons p rest => exact absurd read (mapM_partText_ne_ok _ _ texts)
    | obj members =>
      cases loop
      cases members with
      | nil => exact .emptyObject found
      | cons member rest => exact absurd read (mapM_partText_ne_ok _ _ texts)
    | _ => cases loop

theorem firstItem_eq_ok {candidates first : Reply} (taken : firstItem candidates = .ok first) :
    (∃ rest, candidates = .arr (first :: rest)) ∨ ∃ s, first = .str s := by
  cases candidates with
  | arr items =>
    cases items with
    | nil => cases taken
    | cons item rest =>
      cases taken
      exact Or.inl ⟨rest, rfl⟩
  | str s =>
    cases s with
    | nil => cases taken
    | cons p rest =>
      cases taken
      exact Or.inr ⟨_, rfl⟩
  | _ => cases taken

theorem candidateText_of_hold {candidates : Reply} {texts : List (List Point)}
    (hold : candidates.CandidatesHold texts) :
    candidateText candidates = .ok texts.flatten := by
  obtain ⟨parts, ⟨first, rest, content, rfl, candidate, inside⟩, hold⟩ := hold
  have taken : firstItem (.arr (first :: rest)) = .ok first := rfl
  obtain ⟨place, given, loop⟩ := visited_of_contentHolds inside
  obtain ⟨read, joined⟩ := joined_of_hold hold
  simp only [candidateText, taken, memberOr_of_candidateHolds candidate, given, loop, read,
    joined, bind, Except.bind]

theorem hold_of_candidateText {candidates : Reply} {text : List Point}
    (read : candidateText candidates = .ok text) :
    ∃ texts, candidates.CandidatesHold texts ∧ text = texts.flatten := by
  simp only [candidateText] at read
  obtain ⟨first, taken, read⟩ := exists_of_bind_eq_ok read
  obtain ⟨content, opened, read⟩ := exists_of_bind_eq_ok read
  obtain ⟨place, given, read⟩ := exists_of_bind_eq_ok read
  obtain ⟨parts, loop, read⟩ := exists_of_bind_eq_ok read
  obtain ⟨values, each, joined⟩ := exists_of_bind_eq_ok read
  obtain ⟨rest, rfl⟩ | ⟨s, rfl⟩ := firstItem_eq_ok taken
  · have candidate := candidateHolds_of_memberOr opened
    have inside := contentHolds_of_visited given loop each
    obtain ⟨texts, hold, rfl⟩ := hold_of_joined each joined
    exact ⟨texts, ⟨parts, ⟨first, rest, content, rfl, candidate, inside⟩, hold⟩, rfl⟩
  · cases opened

/-! ## What a service makes of a document -/

theorem nonempty_eq_some {text completion : List Point} (some : nonempty text = some completion) :
    completion ≠ [] := by
  unfold nonempty at some
  split at some
  · cases some
  · next filled =>
    cases some
    exact filled

theorem completion_ne_empty {service : Service} {members : Reply.Members} {text : List Point}
    (completed : (service.completion members).2 = .ok (some text)) : text ≠ [] := by
  cases service with
  | gemini key model =>
    simp only [completion] at completed
    split at completed
    · split at completed
      · cases completed
      · exact nonempty_eq_some (Except.ok.inj completed)
    · cases completed
  | ollama model address =>
    simp only [completion] at completed
    split at completed
    · exact nonempty_eq_some (Except.ok.inj completed)
    · cases completed

variable {key model : Value} {address : String} {members : Reply.Members}

theorem completion_ollama_of_text {text : List Point}
    (found : members.lookup (points "response") = some (.str text)) :
    ((ollama model address).completion members).2 = .ok (nonempty text) := by
  rw [completion, found]

theorem completion_ollama_of_no_text
    (noText : ∀ text, members.lookup (points "response") ≠ some (.str text)) :
    ((ollama model address).completion members).2 = .ok none := by
  rw [completion]
  split
  · next text found => exact absurd found (noText text)
  · rfl

theorem completion_gemini_of_falsy
    (nothing : ∀ candidates, members.lookup (points "candidates") = some candidates →
      truthy candidates = false) :
    ((gemini key model).completion members).2 = .ok none := by
  rw [completion]
  cases found : members.lookup (points "candidates") with
  | none => rfl
  | some candidates =>
    simp only [Option.getD_some, nothing candidates found, Bool.false_eq_true, if_false]

/-- Candidates are read, and what keeps them from it is a failure of the service. -/
theorem completion_gemini {candidates : Reply}
    (found : members.lookup (points "candidates") = some candidates)
    (filled : truthy candidates = true) :
    ((gemini key model).completion members).2 =
      match candidateText candidates with
      | .error fault => .error ⟨"gemini", .malformedCandidate fault⟩
      | .ok text => .ok (nonempty text) := by
  rw [completion, found]
  simp only [Option.getD_some, filled, if_true]
  cases candidateText candidates <;> rfl

theorem completion_gemini_of_hold {candidates : Reply}
    (found : members.lookup (points "candidates") = some candidates) {texts : List (List Point)}
    (hold : candidates.CandidatesHold texts) :
    ((gemini key model).completion members).2 = .ok (nonempty texts.flatten) := by
  have filled : truthy candidates = true := by
    obtain ⟨parts, ⟨first, rest, content, rfl, -⟩, -⟩ := hold
    rfl
  rw [completion_gemini found filled, candidateText_of_hold hold]

theorem completion_gemini_of_not_hold {candidates : Reply}
    (found : members.lookup (points "candidates") = some candidates)
    (filled : truthy candidates = true)
    (noTexts : ∀ texts, ¬ candidates.CandidatesHold texts) :
    ∃ error, ((gemini key model).completion members).2 = .error error := by
  rw [completion_gemini found filled]
  cases read : candidateText candidates with
  | error fault => exact ⟨_, rfl⟩
  | ok text =>
    obtain ⟨texts, hold, -⟩ := hold_of_candidateText read
    exact absurd hold (noTexts texts)

end Service

namespace Client

section Submission

variable [Interpreter] {σ : Type} {client : Client} {transport : Transport σ} {prompt : String}
  {state : σ} {last status : Nat} {body : List UInt8}

/-- A body that is nested too deep is neither an answer nor a failure of the service. -/
theorem submit_of_tooDeep
    (received : client.Receives transport prompt state last (.response status body))
    (noError : Retry.isErrorStatus status = false) {container : Json.Container}
    (deep : Body.document body = .error (.unreadable (.tooDeep container))) :
    (client.submit transport prompt state).result = .error (.fault (.tooDeep container)) := by
  rw [submit_of_not_isErrorStatus received noError, Service.reading, Body.members, deep]
  rfl

/-- Whatever else a response says that reports no error, a prompt ends in a completion that is not
empty, in none, or in a failure of the service. -/
theorem submit_cases
    (received : client.Receives transport prompt state last (.response status body))
    (noError : Retry.isErrorStatus status = false)
    (shallow : ∀ container, Body.document body ≠ .error (.unreadable (.tooDeep container))) :
    (∃ text, text ≠ [] ∧ (client.submit transport prompt state).result = .ok (some text)) ∨
      (client.submit transport prompt state).result = .ok none ∨
      ∃ error,
        (client.submit transport prompt state).result = .error (.fault (.generator error)) := by
  rw [submit_of_not_isErrorStatus received noError, Service.reading]
  obtain ⟨members, -, read⟩ | ⟨error, -, -, failed, -⟩ | ⟨container, deep, -⟩ :=
    Body.members_cases client.service.name status body
  · rw [read]
    cases found : (client.service.completion members).2 with
    | error error =>
      simp only [found]
      exact Or.inr (Or.inr ⟨error, rfl⟩)
    | ok completion =>
      simp only [found]
      cases completion with
      | none => exact Or.inr (Or.inl rfl)
      | some text => exact Or.inl ⟨text, Service.completion_ne_empty found, rfl⟩
  · rw [failed]
    exact Or.inr (Or.inr ⟨error, rfl⟩)
  · exact absurd deep (shallow container)

theorem submit_of_object
    (received : client.Receives transport prompt state last (.response status body))
    (noError : Retry.isErrorStatus status = false) {members : Reply.Members}
    (read : Body.document body = .ok (.obj members)) :
    (client.submit transport prompt state).result =
      (client.service.completion members).2.mapError fun error => .fault (.generator error) := by
  rw [submit_of_not_isErrorStatus received noError]
  simp only [Service.reading, Body.members, read]
  cases (client.service.completion members).2 <;> rfl

theorem submit_of_no_object
    (received : client.Receives transport prompt state last (.response status body))
    (noError : Retry.isErrorStatus status = false) {reply : Reply}
    (read : Body.document body = .ok reply) (noObject : ∀ members, reply ≠ .obj members) :
    ∃ error,
      (client.submit transport prompt state).result = .error (.fault (.generator error)) := by
  rw [submit_of_not_isErrorStatus received noError, Service.reading, Body.members, read]
  cases reply with
  | obj members => exact absurd rfl (noObject members)
  | _ => exact ⟨_, rfl⟩

/-- After a response of status 200 a prompt ends in one of three ways, exactly if its body is not
nested too deep; otherwise the program breaks off in the body. The document in the body tells in
which way it ends. Without an object it fails. Of one's own service the text of the response is the
completion. Of the other one the completion is made of the texts of the first candidate; there is
none without candidates, and candidates of the wrong shape are a failure. -/
theorem submit_reads_document
    (received : client.Receives transport prompt state last (.response 200 body)) :
    let result := (client.submit transport prompt state).result
    let failed := ∃ error, result = .error (.fault (.generator error))
    (((∃ text, text ≠ [] ∧ result = .ok (some text)) ∨ result = .ok none ∨ failed) ↔
      ∀ container, Body.document body ≠ .error (.unreadable (.tooDeep container))) ∧
    (∀ container, Body.document body = .error (.unreadable (.tooDeep container)) →
      result = .error (.fault (.tooDeep container))) ∧
    (∀ reply, Body.document body = .ok reply → (∀ members, reply ≠ .obj members) → failed) ∧
    ∀ members, Body.document body = .ok (.obj members) →
      (∀ model address, client.service = .ollama model address →
        (∀ text, members.lookup (points "response") = some (.str text) →
          result = .ok (Service.nonempty text)) ∧
        ((∀ text, members.lookup (points "response") ≠ some (.str text)) → result = .ok none)) ∧
      ∀ key model, client.service = .gemini key model →
        ((∀ candidates, members.lookup (points "candidates") = some candidates →
          truthy candidates = false) → result = .ok none) ∧
        ∀ candidates, members.lookup (points "candidates") = some candidates →
          (∀ texts, candidates.CandidatesHold texts →
            result = .ok (Service.nonempty texts.flatten)) ∧
          (candidates.Misshapen → failed) ∧
          (truthy candidates = true → (∀ texts, ¬ candidates.CandidatesHold texts) → failed) := by
  intro result failed
  have noError : Retry.isErrorStatus 200 = false := rfl
  refine ⟨⟨fun ends container deep => ?_, submit_cases received noError⟩,
    fun container => submit_of_tooDeep received noError,
    fun reply read noObject => submit_of_no_object received noError read noObject,
    fun members read => ?_⟩
  · have broken : result = .error (.fault (.tooDeep container)) :=
      submit_of_tooDeep received noError deep
    obtain ⟨text, -, ended⟩ | ended | ⟨error, ended⟩ := ends <;> cases broken.symm.trans ended
  have ended : result = (client.service.completion members).2.mapError
      fun error => .fault (.generator error) := submit_of_object received noError read
  constructor
  · intro model address isOllama
    rw [isOllama] at ended
    constructor
    · intro text found
      rw [ended, Service.completion_ollama_of_text found]
      rfl
    · intro noText
      rw [ended, Service.completion_ollama_of_no_text noText]
      rfl
  · intro key model isGemini
    rw [isGemini] at ended
    refine ⟨fun nothing => ?_, fun candidates found => ?_⟩
    · rw [ended, Service.completion_gemini_of_falsy nothing]
      rfl
    · have fails (filled : truthy candidates = true)
          (noTexts : ∀ texts, ¬ candidates.CandidatesHold texts) : failed := by
        obtain ⟨error, malformed⟩ := Service.completion_gemini_of_not_hold found filled noTexts
        exact ⟨error, by rw [ended, malformed]; rfl⟩
      refine ⟨fun texts hold => ?_, fun misshapen => ?_, fails⟩
      · rw [ended, Service.completion_gemini_of_hold found hold]
        rfl
      · exact fails misshapen.truthy misshapen.not_hold

end Submission

/-- A service is out of order, and then answers in three parts, one of them without a text. -/
theorem submit_reads_document_three_parts :
    let part (text : Json) : Json := .obj [("text", text)]
    let parts : Json := .arr [part (.str "a"), part .null, part (.str ";")]
    let answer : Json := .obj [("candidates", .arr [.obj [("content", .obj [("parts", parts)])]])]
    let body := Text.Utf8.encode (answer.render .oneLine)
    let transport : Transport Nat := fun _ asked =>
      (.response (if asked = 0 then 503 else 200) body, asked + 1)
    let client : Client := ⟨.gemini (.str "key") (.str "gemini-pro"), .int 120, .int 2, .int 1⟩
    client.Receives transport "fix" 0 1 (.response 200 body) ∧
      (client.submit transport "fix" 0).result = .ok (some (points "a;")) := by
  intro part parts answer body transport client
  have received : client.Receives transport "fix" 0 1 (.response 200 body) :=
    ⟨by decide +kernel, rfl⟩
  have partReadable {text : Json} (readable : text.Readable) : (part text).Readable :=
    .obj (by simp) (List.forall_mem_singleton.mpr readable)
  have partsReadable : parts.Readable := by
    refine .arr ?_
    simp only [List.forall_mem_cons]
    exact ⟨partReadable (.str _), partReadable .null, partReadable (.str _),
      List.forall_mem_nil _⟩
  have readable : answer.Readable :=
    .obj (by decide) (List.forall_mem_singleton.mpr (.arr (List.forall_mem_singleton.mpr
      (.obj (by decide) (List.forall_mem_singleton.mpr (.obj (by decide)
        (List.forall_mem_singleton.mpr partsReadable)))))))
  have read : Body.document body = .ok (answer.map points) :=
    Body.document_render readable .oneLine (by decide) (by decide +kernel)
  let candidates : Reply := (Json.arr [.obj [("content", .obj [("parts", parts)])]]).map points
  have hold : candidates.CandidatesHold [points "a", [], points ";"] :=
    ⟨[(part (.str "a")).map points, (part .null).map points, (part (.str ";")).map points],
      ⟨_, _, _, rfl, .content rfl, .parts rfl⟩,
      .cons (.text rfl) (.cons (.falsy rfl rfl) (.cons (.text rfl) .nil))⟩
  have ended := ((submit_reads_document received).2.2.2 _ read).2 _ _ rfl |>.2 candidates rfl |>.1
    _ hold
  exact ⟨received, ended⟩

/-- Half a character is part of a text. -/
example : Json.readString (points "\\ud800;\"") = .ok ([.surrogate 0, .char ';'], []) := by
  rfl

/-- A response of a thousand arrays in each other ends in none of the three ways. -/
theorem submit_breaks_off_in_body :
    let transport : Transport Unit := fun _ state => (.response 200 (Body.nested 1000), state)
    let client : Client := ⟨.ollama (.str "llama3") "http://localhost", .int 120, .int 0, .int 1⟩
    let result := (client.submit transport "fix" ()).result
    Json.ofPoints 1000 ((Json.nestedText 1000).map .char) =
        .ok ((Json.nestedArrays 999).map points) ∧
      client.Receives transport "fix" () 0 (.response 200 (Body.nested 1000)) ∧
      result = .error (.fault (.tooDeep .array)) ∧
      ¬ ((∃ text, text ≠ [] ∧ result = .ok (some text)) ∨ result = .ok none ∨
        ∃ error, result = .error (.fault (.generator error))) := by
  intro transport client result
  have deep : Body.document (Body.nested 1000) = .error (.unreadable (.tooDeep .array)) :=
    Body.document_nested (by decide)
  have received : client.Receives transport "fix" () 0 (.response 200 (Body.nested 1000)) := by
    refine ⟨?_, rfl⟩
    rw [requests_submit, (Retry.post_endsFrom rfl rfl (by decide) (Nat.le_refl 0) (by simp)
      (Or.inl rfl)).requests]
    rfl
  have broken : result = .error (.fault (.tooDeep .array)) :=
    submit_of_tooDeep received rfl deep
  refine ⟨Json.ofPoints_nestedText (Nat.le_refl 1000), received, broken, ?_⟩
  rintro (⟨text, -, ended⟩ | ended | ⟨error, ended⟩) <;> cases broken.symm.trans ended

end Client

end Remedy
